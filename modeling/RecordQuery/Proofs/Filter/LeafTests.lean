import RecordQuery.Proofs.Filter.ValueView
import RecordQuery.Proofs.Path.Leaves

/-!
# RecordQuery.Proofs.Filter.LeafTests — tests that look for one leaf

Text tests, bounded ranges, enumerations and tests of entries pass when some leaf of what the path
finds does.  On its own, at the empty path, a leaf meets the same test, so such a filter matches a
record exactly when it matches one of the leaves alone.  Nothing but the set of leaves matters: not
their order, not how often one stands there, and not how deep in lists it stands.
-/

namespace RecordQuery

/-! ## Leaves -/

mutual

/-- A leaf has no leaf but itself. -/
theorem Json.leaves_of_mem_leaves : ∀ v : Json, ∀ u ∈ v.leaves, u.leaves = [u]
  | .array items => Json.leaves_of_mem_leavesOf items
  | .null => List.forall_mem_singleton.mpr rfl
  | .bool _ => List.forall_mem_singleton.mpr rfl
  | .number _ => List.forall_mem_singleton.mpr rfl
  | .string _ => List.forall_mem_singleton.mpr rfl
  | .object _ => List.forall_mem_singleton.mpr rfl

theorem Json.leaves_of_mem_leavesOf : ∀ vs : List Json, ∀ u ∈ leavesOf vs, u.leaves = [u]
  | [] => nofun
  | v :: vs => by
      rw [leavesOf, List.forall_mem_append]
      exact ⟨Json.leaves_of_mem_leaves v, Json.leaves_of_mem_leavesOf vs⟩

end

/-- A result has the leaves of its value. -/
theorem Resolved.leaves_eq (r : Resolved) : r.leaves = r.toValue.leaves := by
  rw [← r.leaves_sortKey, r.sortKey_eq, Json.leaves_sortKey]

/-! ## Field tests -/

namespace FieldTest

/-- A search for leaves that null is none of goes through all leaves. -/
theorem someLeaf_iff {leafTest : Json → Bool} (hnull : leafTest .null = false) (r : Resolved) :
    someLeaf leafTest r = true ↔ ∃ v ∈ r.leaves, leafTest v = true := by
  rw [seesValue_someLeaf hnull r, r.leaves_eq, ← List.any_eq_true]
  exact Bool.eq_iff_iff.mp (r.toValue.anyLeaf_eq_any _)

/-- A search passes exactly when it passes on one of the leaves alone. -/
theorem IsSearch.iff_exists_leaf {test : FieldTest} (h : test.IsSearch) (r : Resolved) :
    test r = true ↔ ∃ v ∈ r.leaves, test (.value v) = true := by
  obtain ⟨leafTest, hnull, rfl⟩ := h
  rw [someLeaf_iff hnull]
  refine exists_congr fun v => and_congr_right fun hv => ?_
  rw [r.leaves_eq] at hv
  have hself : (Resolved.value v).leaves = [v] := Json.leaves_of_mem_leaves _ v hv
  simp [someLeaf_iff hnull, hself]

theorem choice_iff_exists_leaf (values : List Json) (r : Resolved) :
    choice (some values) r = true ↔
      ∃ v ∈ r.leaves, ∃ w ∈ values, v.compareScalars w = some .eq := by
  have hleaf (v : Json) : (values.any fun w => v.compareScalars w == some .eq) = true ↔
      ∃ w ∈ values, v.compareScalars w = some .eq := by
    simp only [List.any_eq_true, beq_iff_eq]
  rw [choice, someLeaf_iff]
  · simp only [hleaf]
  · exact any_null_compareScalars values

/-- An enumeration is met when one of its values is. -/
theorem choice_map_iff {α : Type} (value : α → Json) (values : List α) (r : Resolved) :
    choice (some (values.map value)) r = true ↔
      ∃ a ∈ values, choice (some [value a]) r = true := by
  simp only [choice_iff_exists_leaf, List.mem_map, List.mem_singleton, exists_eq_left]
  constructor
  · rintro ⟨v, hv, _, ⟨a, ha, rfl⟩, heq⟩
    exact ⟨a, ha, v, hv, heq⟩
  · rintro ⟨a, ha, v, hv, heq⟩
    exact ⟨v, hv, value a, ⟨a, ha, rfl⟩, heq⟩

end FieldTest

/-- Whether a test looks for one leaf that passes.  The others look at the result as a whole. -/
def Test.seeksLeaf : Test → Bool
  | boolean _ => false
  | containsString needle => needle.isSome
  | dateRange min max => min.isSome || max.isSome
  | doubleRange min max => min.isSome || max.isSome
  | like pattern => pattern.isSome
  | longEnum values => values.isSome
  | longRange min max => min.isSome || max.isSome
  | stringEnum values => values.isSome
  | string value => value.isSome
  | stringMap _ _ => true
  | stringRange min max => min.isSome || max.isSome
  | null _ => false

/-- A range with a bound is a search, whatever its bounds are made into. -/
theorem FieldTest.isSearch_range_map {α : Type} {min max : Option α} (value : α → Json)
    (h : (min.isSome || max.isSome) = true) :
    (range (min.map value) (max.map value)).IsSearch :=
  isSearch_range (by rwa [Option.isSome_map, Option.isSome_map])

/-- A test of a text that is there is a search. -/
theorem FieldTest.isSearch_of_mapM {make : String → Except QueryError TextTest}
    {text? : Option String} (h : text?.isSome = true) {test : FieldTest}
    (htest : (text?.mapM make >>= fun made => .ok (text made)) = .ok test) : test.IsSearch := by
  cases text? with
  | none => cases h
  | some expected =>
      obtain ⟨made, hmade, rfl⟩ := Except.map_eq_ok_iff.mp htest
      rw [Option.mapM_some] at hmade
      obtain ⟨made, -, rfl⟩ := Except.map_eq_ok_iff.mp hmade
      exact isSearch_text made

/-- What a test that looks for a leaf compiles to is a search. -/
theorem Test.isSearch_of_compile {mode : Text.CaseMode} {t : Test} (hseeks : t.seeksLeaf = true)
    {test : FieldTest} (h : t.compile mode = .ok test) : test.IsSearch := by
  cases t with
  | boolean value => cases hseeks
  | null isNull => cases hseeks
  | containsString needle => exact FieldTest.isSearch_of_mapM hseeks h
  | like pattern => exact FieldTest.isSearch_of_mapM hseeks h
  | string value => exact FieldTest.isSearch_of_mapM hseeks h
  | stringMap key value =>
      obtain ⟨made, -, rfl⟩ := Except.map_eq_ok_iff.mp h
      exact FieldTest.isSearch_map key made
  | dateRange min max => cases h; exact FieldTest.isSearch_range_map _ hseeks
  | doubleRange min max => cases h; exact FieldTest.isSearch_range_map _ hseeks
  | longRange min max => cases h; exact FieldTest.isSearch_range_map _ hseeks
  | stringRange min max => cases h; exact FieldTest.isSearch_range_map _ hseeks
  | longEnum values =>
      obtain ⟨values, rfl⟩ := Option.isSome_iff_exists.mp hseeks
      cases h
      exact FieldTest.isSearch_choice _
  | stringEnum values =>
      obtain ⟨values, rfl⟩ := Option.isSome_iff_exists.mp hseeks
      cases h
      exact FieldTest.isSearch_choice _

/-! ## Filters -/

namespace Filter

/-- A filter compiles to a predicate that matches a record. -/
def Matches (options : MatchOptions) (f : Filter) (record : Json) : Prop :=
  ∃ test, f.compile options.mode = .ok test ∧ test record = true

variable {options : MatchOptions} {field : String} {t : Test} {record : Json}

/-- Filters that compile alike match the same records. -/
theorem matches_congr {f g : Filter} (h : f.compile options.mode = g.compile options.mode) :
    f.Matches options record ↔ g.Matches options record := by
  rw [Matches, Matches, h]

theorem matches_leaf_iff :
    (leaf field t).Matches options record ↔
      ∃ path, FieldPath.parse field = .ok path ∧ ∃ test, t.compile options.mode = .ok test
        ∧ test (path.evaluate record) = true := by
  constructor
  · rintro ⟨_, hcompile, hmatch⟩
    obtain ⟨test, path, htest, hpath, rfl⟩ := compile_leaf_eq_ok_iff.mp hcompile
    exact ⟨path, hpath, test, htest, hmatch⟩
  · rintro ⟨path, hpath, test, htest, hmatch⟩
    exact ⟨_, compile_leaf_eq_ok_iff.mpr ⟨test, path, htest, hpath, rfl⟩, hmatch⟩

/-- A leaf whose path is known matches when its test passes on what the path finds. -/
theorem matches_leaf_iff_of_parse {path : FieldPath} (hpath : FieldPath.parse field = .ok path) :
    (leaf field t).Matches options record ↔
      ∃ test, t.compile options.mode = .ok test ∧ test (path.evaluate record) = true := by
  rw [matches_leaf_iff, hpath]
  simp

/-- A test that looks for a leaf matches a record exactly when it matches one of the leaves. -/
theorem matches_iff_exists_leaf (hseeks : t.seeksLeaf = true) {path : FieldPath}
    (hpath : FieldPath.parse field = .ok path) :
    (leaf field t).Matches options record ↔
      ∃ v ∈ (path.evaluate record).leaves, (leaf "" t).Matches options v := by
  have hsearch {test : FieldTest} (htest : t.compile options.mode = .ok test) :
      test (path.evaluate record) = true ↔
        ∃ v ∈ (path.evaluate record).leaves, test (.value v) = true :=
    (Test.isSearch_of_compile hseeks htest).iff_exists_leaf _
  simp only [matches_leaf_iff_of_parse hpath, matches_leaf_iff_of_parse parse_empty]
  constructor
  · rintro ⟨test, htest, hmatch⟩
    obtain ⟨v, hv, hleaf⟩ := (hsearch htest).mp hmatch
    exact ⟨v, hv, test, htest, hleaf⟩
  · rintro ⟨v, hv, test, htest, hleaf⟩
    exact ⟨test, htest, (hsearch htest).mpr ⟨v, hv, hleaf⟩⟩

/-- An enumeration matches when the enumeration of one of its values does. -/
theorem matches_enum_iff {α : Type} (enum : List α → Test) (value : α → Json)
    (henum : ∀ values, (enum values).compile options.mode
      = .ok (FieldTest.choice (some (values.map value)))) (values : List α) :
    (leaf field (enum values)).Matches options record ↔
      ∃ a ∈ values, (leaf field (enum [a])).Matches options record := by
  simp only [matches_leaf_iff, henum, Except.ok.injEq, exists_eq_left',
    FieldTest.choice_map_iff value values, List.map_cons, List.map_nil]
  constructor
  · rintro ⟨path, hpath, a, ha, hmatch⟩
    exact ⟨a, ha, path, hpath, hmatch⟩
  · rintro ⟨a, ha, path, hpath, hmatch⟩
    exact ⟨path, hpath, a, ha, hmatch⟩

/-- **A search looks at the set of leaves.** A test that looks for a leaf matches a record exactly
when, at the empty path, it matches one of the leaves of what its path finds.  So records with the
same leaves are matched alike, whatever their order, number and nesting; more leaves never undo a
match, and without leaves there is none.  An enumeration matches exactly when the enumeration of one
of its values does. -/
theorem matches_iff_exists_leaf_matches (options : MatchOptions) (field : String) :
    (∀ t : Test, t.seeksLeaf = true → ∀ path, FieldPath.parse field = .ok path →
      (∀ record, (leaf field t).Matches options record ↔
        ∃ v ∈ (path.evaluate record).leaves, (leaf "" t).Matches options v)
      ∧ (∀ record other,
        (∀ v, v ∈ (path.evaluate record).leaves ↔ v ∈ (path.evaluate other).leaves) →
          ((leaf field t).Matches options record ↔ (leaf field t).Matches options other))
      ∧ (∀ record more, (path.evaluate record).leaves ⊆ (path.evaluate more).leaves →
          (leaf field t).Matches options record → (leaf field t).Matches options more)
      ∧ ∀ record, (path.evaluate record).leaves = [] → ¬ (leaf field t).Matches options record)
    ∧ (∀ (values : List Int64) (record : Json),
      (leaf field (.longEnum (some values))).Matches options record ↔
        ∃ n ∈ values, (leaf field (.longEnum (some [n]))).Matches options record)
    ∧ ∀ (values : List String) (record : Json),
      (leaf field (.stringEnum (some values))).Matches options record ↔
        ∃ s ∈ values, (leaf field (.stringEnum (some [s]))).Matches options record := by
  refine ⟨fun t hseeks path hpath => ?_, fun values record => ?_, fun values record => ?_⟩
  · have hleaf (record : Json) : (leaf field t).Matches options record ↔
        ∃ v ∈ (path.evaluate record).leaves, (leaf "" t).Matches options v :=
      matches_iff_exists_leaf hseeks hpath
    have hmore : ∀ record more, (path.evaluate record).leaves ⊆ (path.evaluate more).leaves →
        (leaf field t).Matches options record → (leaf field t).Matches options more := by
      intro record more hsubset hmatch
      obtain ⟨v, hv, hv'⟩ := (hleaf record).mp hmatch
      exact (hleaf more).mpr ⟨v, hsubset hv, hv'⟩
    refine ⟨hleaf, fun record other hsame => ?_, hmore, fun record hnone hmatch => ?_⟩
    · exact ⟨hmore record other fun v => (hsame v).mp, hmore other record fun v => (hsame v).mpr⟩
    · obtain ⟨v, hv, -⟩ := (hleaf record).mp hmatch
      rw [hnone] at hv
      cases hv
  · exact matches_enum_iff (fun ns => .longEnum (some ns)) Json.ofInt64 (fun _ => rfl) values
  · exact matches_enum_iff (fun ss => .stringEnum (some ss)) .string (fun _ => rfl) values

/-- A record whose tags stand in nested lists. -/
def nestedTags : Json :=
  .object [("tags", .array [.array [.string "leaf"], .array [.array [], .array [.string "green"]]])]

/-- The same tags in one list, one of them twice, and two tags more. -/
def moreTags : Json :=
  .object
    [("tags", .array [.string "green", .string "leaf", .null, .string "green", .string "cup"])]

theorem matches_iff_exists_leaf_matches_tags :
    (leaf "tags" (.like (some "gr%n"))).Matches ⟨true⟩ nestedTags
      ∧ (leaf "tags" (.like (some "gr%n"))).Matches ⟨true⟩ moreTags
      ∧ ¬ (leaf "tags" (.like (some "gr%n"))).Matches ⟨true⟩
        (.object [("tags", .array [.array [], .array []])])
      ∧ (leaf "tags" (.stringEnum (some ["red", "green"]))).Matches ⟨true⟩ nestedTags := by
  have hpath : FieldPath.parse "tags" = .ok ⟨"tags", [.member "tags"]⟩ := rfl
  obtain ⟨hleaf, -, hmore, hnone⟩ :=
    (matches_iff_exists_leaf_matches ⟨true⟩ "tags").1 (.like (some "gr%n")) rfl _ hpath
  have hnested : (leaf "tags" (.like (some "gr%n"))).Matches ⟨true⟩ nestedTags :=
    (hleaf nestedTags).mpr ⟨.string "green", by decide, _, rfl, by decide⟩
  refine ⟨hnested, hmore nestedTags moreTags (by decide) hnested, hnone _ rfl, ?_⟩
  apply ((matches_iff_exists_leaf_matches ⟨true⟩ "tags").2.2 ["red", "green"] nestedTags).mpr
  exact ⟨"green", by decide, _, rfl, by decide⟩

end Filter

end RecordQuery
