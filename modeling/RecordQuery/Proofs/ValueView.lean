import RecordQuery.Proofs.Filter.ValueView
import RecordQuery.Sort.Comparator

/-!
# RecordQuery.Proofs.ValueView — queries see records through values

Predicates and comparators look at a record at the paths of their leaves and keys, and there only at
the value found: null and nothing, JSON arrays and fan-out lists are the same to them at any depth.
-/

namespace RecordQuery

/-- A comparator does not tell records in which its paths find the same values. -/
theorem Comparator.compareBy_congr {caseSensitive : Bool} {a a' b b' : Json}
    {ks : List ComparatorKey}
    (h : ∀ key ∈ ks, (key.path.evaluate a).toValue = (key.path.evaluate a').toValue
      ∧ (key.path.evaluate b).toValue = (key.path.evaluate b').toValue) :
    compareBy caseSensitive ks a b = compareBy caseSensitive ks a' b' := by
  induction ks with
  | nil => rfl
  | cons key ks ih =>
      obtain ⟨ha, hb⟩ := h key List.mem_cons_self
      have hkey : key.compare caseSensitive a b = key.compare caseSensitive a' b' := by
        unfold ComparatorKey.compare
        rw [Resolved.compare_eq, ha, hb, ← Resolved.compare_eq]
      rw [compareBy, compareBy, hkey, ih fun k hk => h k (List.mem_cons_of_mem key hk)]

/-- **Queries see values only.** A predicate answers alike for two records in which the paths of its
leaves find the same values; a leaf asks of a record what it asks, at the empty path, of the value
found; and comparison does not tell results from their values, so that a comparator depends on the
values at its paths. -/
theorem queries_see_values :
    (∀ (options : MatchOptions) (f : Filter) (test : Predicate) (r r' : Json),
      f.compile options.mode = .ok test →
      (∀ leaf ∈ f.leaves, ∀ path, FieldPath.parse leaf.1 = .ok path →
        (path.evaluate r).toValue = (path.evaluate r').toValue) →
      test r = test r')
    ∧ (∀ (options : MatchOptions) (field : String) (t : Test) (test : Predicate),
      (Filter.leaf field t).compile options.mode = .ok test →
      ∃ path atRoot, FieldPath.parse field = .ok path
        ∧ (Filter.leaf "" t).compile options.mode = .ok atRoot
        ∧ ∀ r, test r = atRoot (path.evaluate r).toValue)
    ∧ (∀ (caseSensitive : Bool) (a b : Resolved),
      a.compare caseSensitive b
        = (Resolved.value a.toValue).compare caseSensitive (.value b.toValue))
    ∧ (∀ (c : Comparator) (a a' b b' : Json),
      (∀ key ∈ c.keys, (key.path.evaluate a).toValue = (key.path.evaluate a').toValue
        ∧ (key.path.evaluate b).toValue = (key.path.evaluate b').toValue) →
      c.compare a b = c.compare a' b') := by
  refine ⟨?_, ?_, ?_, ?_⟩
  · intro options f test r r' h hagree
    exact Filter.eq_of_agreeAt f test h hagree
  · intro options field t test h
    exact Filter.compile_leaf_atRoot h
  · exact Resolved.compare_eq
  · intro c a a' b b' h
    exact Comparator.compareBy_congr h

/-- A member that is null and a member that is missing are the same to a negated test for null. -/
theorem queries_see_values_of_null :
    ∃ test : Predicate,
      (Filter.group .nor [.leaf "cast.name" (.null true)]).compile .folded = .ok test
        ∧ test (.object [("cast", .array [.object [("name", .null)]])])
          = test (.object [("cast", .array [.object []])]) := by
  refine ⟨_, rfl, ?_⟩
  refine queries_see_values.1 ⟨false⟩ (.group .nor [.leaf "cast.name" (.null true)]) _ _ _ rfl ?_
  intro leaf hleaf path hpath
  rw [List.mem_singleton.mp hleaf] at hpath
  have hsegments : FieldPath.parse "cast.name"
      = .ok ⟨"cast.name", [.member "cast", .member "name"]⟩ := rfl
  rw [hsegments] at hpath
  cases hpath
  decide

end RecordQuery
