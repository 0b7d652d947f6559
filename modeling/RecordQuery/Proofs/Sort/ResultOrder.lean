import RecordQuery.Proofs.Sort.KeyOrder

/-!
# RecordQuery.Proofs.Sort.ResultOrder — how results compare

Results are compared through their sort keys, one side at a time.  This module states the comparison
of results as one recursion on both sides at once: first the truth of the results, then the elements
of lists, then single values (`Resolved.compare_eq_compareStep`).  The recursion always ends, so the
comparison is the only function that satisfies it (`Resolved.eq_compare_iff`).
-/

namespace RecordQuery.Resolved

/-! ## One step of the recursion -/

/-- The first of several orders that is not equal, if there is one. -/
def firstUnequal (orders : List Ordering) : Ordering :=
  (orders.find? (· != .eq)).getD .eq

/-- The first order of two lists at one place that is not equal; the shorter list goes on with
nothing. -/
def comparePadded (order : Resolved → Resolved → Ordering) (xs ys : List Resolved) : Ordering :=
  firstUnequal ((List.range (max xs.length ys.length)).map fun i =>
    order (xs.getD i missing) (ys.getD i missing))

/-- The order of the single values of two results that are both truthy or both falsy. -/
def compareSingle (caseSensitive : Bool) : Option Json → Option Json → Ordering
  | some u, some v => SortKey.compareAlike caseSensitive u v
  | _, _ => .eq

/-- One step of the comparison of two results, `order` being that of their elements.  A truthy
result comes after a falsy one; where one of them is a list, the other one is a list, too, or else
the list of itself. -/
def compareStep (caseSensitive : Bool) (order : Resolved → Resolved → Ordering)
    (a b : Resolved) : Ordering :=
  if a.isTruthy = b.isTruthy then
    match a.elements?, b.elements? with
    | none, none => compareSingle caseSensitive a.value? b.value?
    | xs, ys => comparePadded order (xs.getD [a]) (ys.getD [b])
  else if a.isTruthy then .gt else .lt

/-! ## Lists -/

theorem firstUnequal_cons (o : Ordering) (orders : List Ordering) :
    firstUnequal (o :: orders) = o.then (firstUnequal orders) := by
  cases o <;> rfl

/-- Padded lists compare by their heads and then by their tails. -/
theorem comparePadded_eq (order : Resolved → Resolved → Ordering) {xs ys : List Resolved}
    (h : ¬ (xs = [] ∧ ys = [])) :
    comparePadded order xs ys
      = (order (xs.headD missing) (ys.headD missing)).then
          (comparePadded order xs.tail ys.tail) := by
  have hlength : max xs.length ys.length = max xs.tail.length ys.tail.length + 1 := by
    rw [← List.length_eq_zero_iff, ← List.length_eq_zero_iff] at h
    rw [List.length_tail, List.length_tail]
    omega
  have hhead : ∀ zs : List Resolved, zs.getD 0 missing = zs.headD missing := by
    intro zs
    cases zs <;> rfl
  have htail : ∀ (zs : List Resolved) (i : Nat),
      zs.getD (i + 1) missing = zs.tail.getD i missing := by
    intro zs i
    cases zs <;> rfl
  rw [comparePadded, hlength, List.range_succ_eq_map, List.map_cons, firstUnequal_cons, hhead,
    hhead, List.map_map, comparePadded]
  simp only [Function.comp_def, Nat.succ_eq_add_one, htail]

variable {caseSensitive : Bool}

theorem headD_sortKeys (rs : List Resolved) :
    (sortKeys rs).headD SortKey.nothing = (rs.headD missing).sortKey := by
  cases rs <;> rfl

theorem tail_sortKeys (rs : List Resolved) : (sortKeys rs).tail = sortKeys rs.tail := by
  cases rs <;> rfl

/-- Lists of keys compare like the padded lists of results. -/
theorem compareItems_sortKeys (xs ys : List Resolved) :
    SortKey.compareItems caseSensitive (sortKeys xs) (sortKeys ys)
      = comparePadded (compare caseSensitive) xs ys := by
  by_cases h : xs = [] ∧ ys = []
  · rw [h.1, h.2]
    rfl
  · rw [SortKey.compareItems_eq, comparePadded_eq _ h, headD_sortKeys, headD_sortKeys,
      tail_sortKeys, tail_sortKeys, compareItems_sortKeys xs.tail ys.tail]
    rfl
termination_by xs.length + ys.length
decreasing_by
  rw [← List.length_eq_zero_iff, ← List.length_eq_zero_iff] at h
  rw [List.length_tail, List.length_tail]
  omega

/-! ## Keys of results -/

theorem truthy_sortKey (r : Resolved) : r.sortKey.truthy = r.isTruthy := by
  cases r with
  | missing => rfl
  | many items => rfl
  | value v => cases v <;> rfl

theorem isTruthy_of_elements? {r : Resolved} {rs : List Resolved} (h : r.elements? = some rs) :
    r.isTruthy = true := by
  cases r with
  | missing => cases h
  | many items => rfl
  | value v =>
      cases v with
      | array vs => rfl
      | _ => cases h

theorem sortKeys_map_value (vs : List Json) : sortKeys (vs.map value) = Json.sortKeys vs := by
  induction vs with
  | nil => rfl
  | cons v vs ih => rw [List.map_cons, sortKeys, ih]; rfl

/-- The items of a key are the keys of the elements. -/
theorem items_sortKey (r : Resolved) : r.sortKey.items = sortKeys (r.elements?.getD [r]) := by
  cases r with
  | missing => rfl
  | many items => rfl
  | value v =>
      cases v with
      | array vs => exact (sortKeys_map_value vs).symm
      | _ => rfl

/-- The key of a result that is no list is its value. -/
theorem sortKey_of_single {r : Resolved} (h : r.elements? = none) :
    r.sortKey = .scalar r.toValue := by
  cases r with
  | missing => rfl
  | many items => cases h
  | value v =>
      cases v with
      | array vs => cases h
      | _ => rfl

/-- Nothing and null compare alike. -/
theorem compareSingle_eq_compareAlike {a b : Resolved} (ha : a.elements? = none)
    (hb : b.elements? = none) :
    compareSingle caseSensitive a.value? b.value?
      = SortKey.compareAlike caseSensitive a.toValue b.toValue := by
  cases a with
  | missing => cases b.toValue <;> rfl
  | many items => cases ha
  | value u =>
      cases b with
      | missing => cases u <;> rfl
      | many items => cases hb
      | value v => rfl

/-! ## The recursion of comparison -/

theorem compare_of_isTruthy_ne {a b : Resolved} (h : a.isTruthy ≠ b.isTruthy) :
    a.compare caseSensitive b = if a.isTruthy then .gt else .lt := by
  rw [← truthy_sortKey, ← truthy_sortKey] at h
  rw [← truthy_sortKey, compare]
  cases ha : a.sortKey.truthy with
  | true =>
      have hb : b.sortKey.truthy = false := by simpa [ha] using h.symm
      exact SortKey.compare_of_truthy_of_falsy ha hb
  | false =>
      have hb : b.sortKey.truthy = true := by simpa [ha] using h.symm
      exact SortKey.compare_of_falsy_of_truthy ha hb

/-- Results that are no lists compare by their values. -/
theorem compare_of_single {a b : Resolved} (h : a.isTruthy = b.isTruthy)
    (ha : a.elements? = none) (hb : b.elements? = none) :
    a.compare caseSensitive b = compareSingle caseSensitive a.value? b.value? := by
  rw [← truthy_sortKey, ← truthy_sortKey, sortKey_of_single ha, sortKey_of_single hb] at h
  rw [compareSingle_eq_compareAlike ha hb, compare, sortKey_of_single ha, sortKey_of_single hb,
    SortKey.compare, SortKey.compareScalarTo, SortKey.compareScalar]
  exact if_pos h

/-- Truthy results compare by their elements. -/
theorem compare_of_truthy {a b : Resolved} (ha : a.isTruthy = true) (hb : b.isTruthy = true) :
    a.compare caseSensitive b = comparePadded (compare caseSensitive) (a.elements?.getD [a])
      (b.elements?.getD [b]) := by
  rw [← truthy_sortKey] at ha hb
  rw [compare, SortKey.compare_eq_compareItems ha hb, items_sortKey, items_sortKey,
    compareItems_sortKeys]

/-- **Comparison on both sides at once.** The comparison of two results is one step on top of the
comparison of their elements. -/
theorem compare_eq_compareStep (a b : Resolved) :
    a.compare caseSensitive b = compareStep caseSensitive (compare caseSensitive) a b := by
  unfold compareStep
  split
  · next h =>
      split
      · next ha hb => exact compare_of_single h ha hb
      · next hlist =>
          -- one of the two is a list, so both are truthy
          have ha : a.isTruthy = true := by
            cases ha : a.elements? with
            | some xs => exact isTruthy_of_elements? ha
            | none =>
                cases hb : b.elements? with
                | some ys => exact h.trans (isTruthy_of_elements? hb)
                | none => exact absurd hb (hlist ha)
          exact compare_of_truthy ha (h.symm.trans ha)
  · next h => exact compare_of_isTruthy_ne h

/-! ## The recursion ends -/

theorem sizeOf_missing_le (r : Resolved) : sizeOf missing ≤ sizeOf r := by
  cases r <;> simp

theorem sizeOf_getD_items_le (rs : List Resolved) (i : Nat) :
    sizeOf (rs.getD i missing) ≤ sizeOf rs := by
  induction rs generalizing i with
  | nil => exact Nat.le_refl 1
  | cons r rs ih =>
      rw [List.cons.sizeOf_spec]
      cases i with
      | zero =>
          show sizeOf r ≤ _
          omega
      | succ i =>
          have hi := ih i
          show sizeOf (rs.getD i missing) ≤ _
          omega

theorem sizeOf_getD_values_le (vs : List Json) (i : Nat) :
    sizeOf ((vs.map value).getD i missing) ≤ 1 + sizeOf vs := by
  induction vs generalizing i with
  | nil => exact Nat.le_succ 1
  | cons v vs ih =>
      rw [List.cons.sizeOf_spec]
      cases i with
      | zero =>
          show 1 + sizeOf v ≤ _
          omega
      | succ i =>
          have hi := ih i
          show sizeOf ((vs.map value).getD i missing) ≤ _
          omega

/-- What stands at a place of a list, or nothing past its end, is smaller than the list. -/
theorem sizeOf_getD_lt {r : Resolved} {rs : List Resolved} (h : r.elements? = some rs) (i : Nat) :
    sizeOf (rs.getD i missing) < sizeOf r := by
  cases r with
  | missing => cases h
  | many items =>
      cases h
      rw [many.sizeOf_spec, Nat.add_comm]
      exact Nat.lt_succ_of_le (sizeOf_getD_items_le rs i)
  | value v =>
      cases v with
      | array vs =>
          cases h
          rw [value.sizeOf_spec, Json.array.sizeOf_spec, Nat.add_comm]
          exact Nat.lt_succ_of_le (sizeOf_getD_values_le vs i)
      | _ => cases h

/-- No element is larger than its result. -/
theorem sizeOf_getD_le (r : Resolved) (i : Nat) :
    sizeOf ((r.elements?.getD [r]).getD i missing) ≤ sizeOf r := by
  cases h : r.elements? with
  | some rs => exact Nat.le_of_lt (sizeOf_getD_lt h i)
  | none =>
      cases i with
      | zero => exact Nat.le_refl _
      | succ i => exact sizeOf_missing_le r

/-- A step looks at smaller pairs of results only. -/
theorem compareStep_congr {order order' : Resolved → Resolved → Ordering} {a b : Resolved}
    (h : ∀ x y, sizeOf x + sizeOf y < sizeOf a + sizeOf b → order x y = order' x y) :
    compareStep caseSensitive order a b = compareStep caseSensitive order' a b := by
  have hcongr : ∀ xs ys : List Resolved, (∀ i, sizeOf (xs.getD i missing)
      + sizeOf (ys.getD i missing) < sizeOf a + sizeOf b) →
      comparePadded order xs ys = comparePadded order' xs ys := by
    intro xs ys hsize
    exact congrArg firstUnequal (List.map_congr_left fun i _ => h _ _ (hsize i))
  unfold compareStep
  cases ha : a.elements? with
  | some xs =>
      have hpadded := hcongr xs (b.elements?.getD [b]) fun i =>
        Nat.add_lt_add_of_lt_of_le (sizeOf_getD_lt ha i) (sizeOf_getD_le b i)
      simp only [Option.getD_some, hpadded]
  | none =>
      cases hb : b.elements? with
      | none => rfl
      | some ys =>
          have hpadded := hcongr [a] ys fun i => by
            have hle := sizeOf_getD_le a i
            rw [ha] at hle
            exact Nat.add_lt_add_of_le_of_lt hle (sizeOf_getD_lt hb i)
          simp only [Option.getD_none, Option.getD_some, hpadded]

theorem eq_compare_of_step {order : Resolved → Resolved → Ordering}
    (h : ∀ a b, order a b = compareStep caseSensitive order a b) (a b : Resolved) :
    order a b = a.compare caseSensitive b := by
  rw [h, compare_eq_compareStep]
  exact compareStep_congr fun x y _ => eq_compare_of_step h x y
termination_by sizeOf a + sizeOf b

/-- **The recursion determines the comparison.** -/
theorem eq_compare_iff {order : Resolved → Resolved → Ordering} :
    order = compare caseSensitive ↔ ∀ a b, order a b = compareStep caseSensitive order a b := by
  constructor
  · rintro rfl
    exact compare_eq_compareStep
  · intro h
    funext a b
    exact eq_compare_of_step h a b

end RecordQuery.Resolved
