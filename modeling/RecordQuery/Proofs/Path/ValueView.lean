import RecordQuery.Sort.Key

/-!
# RecordQuery.Proofs.Path.ValueView — results seen as values

What a path finds can be copied into one value: null for nothing, an array for a fan-out list.  The
copy looks the same to every way of looking at results: to truth, to the test for null, to a search
through leaves that takes a missing leaf for null, and to comparison.
-/

namespace RecordQuery.Resolved

theorem isTruthy_eq (r : Resolved) : r.isTruthy = r.toValue.truthy := by
  cases r <;> rfl

theorem isNullish_eq (r : Resolved) : r.isNullish = Json.isNullish (some r.toValue) := by
  cases r <;> rfl

/-! ## Leaves -/

mutual

/-- A search that takes nothing for null finds the same in a result and in its value. -/
theorem any_eq {test : Option Json → Bool} (h : test none = test (some .null)) :
    ∀ r : Resolved, r.any test = r.toValue.anyLeaf test
  | missing => h
  | value _ => rfl
  | many items => anyOf_eq h items

theorem anyOf_eq {test : Option Json → Bool} (h : test none = test (some .null)) :
    ∀ rs : List Resolved, anyOf test rs = Json.anyLeafOf test (toValues rs)
  | [] => rfl
  | r :: rs => by rw [anyOf, toValues, Json.anyLeafOf, any_eq h r, anyOf_eq h rs]

end

/-! ## Sort keys -/

mutual

/-- A result and its value have the same sort key. -/
theorem sortKey_eq : ∀ r : Resolved, r.sortKey = r.toValue.sortKey
  | missing => rfl
  | value _ => rfl
  | many items => by rw [sortKey, toValue, Json.sortKey, sortKeys_eq items]

theorem sortKeys_eq : ∀ rs : List Resolved, sortKeys rs = Json.sortKeys (toValues rs)
  | [] => rfl
  | r :: rs => by rw [sortKeys, toValues, Json.sortKeys, sortKey_eq r, sortKeys_eq rs]

end

/-- Comparison does not tell results from their values. -/
theorem compare_eq (caseSensitive : Bool) (a b : Resolved) :
    a.compare caseSensitive b = (value a.toValue).compare caseSensitive (value b.toValue) := by
  rw [compare, compare, sortKey_eq a, sortKey_eq b, sortKey, sortKey]

end RecordQuery.Resolved
