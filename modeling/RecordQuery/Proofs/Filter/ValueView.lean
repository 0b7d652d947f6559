import RecordQuery.Filter.Predicate
import RecordQuery.Proofs.Except
import RecordQuery.Proofs.Path.ValueView

/-!
# RecordQuery.Proofs.Filter.ValueView — filters see records through values

Every test of a field answers the same for a result and for the value that it is copied into.  So a
predicate sees a record only through the values at the paths of its leaves, and a leaf asks of a
record what the same leaf at the empty path asks of the value found.
-/

namespace RecordQuery

/-! ## Field tests -/

/-- A field test does not tell a result from its value. -/
def FieldTest.SeesValue (test : FieldTest) : Prop :=
  ∀ r : Resolved, test r = test (.value r.toValue)

namespace FieldTest

theorem seesValue_isTruthy : SeesValue Resolved.isTruthy :=
  fun r => r.isTruthy_eq

theorem seesValue_isNullish : SeesValue Resolved.isNullish :=
  fun r => r.isNullish_eq

theorem SeesValue.comp {test : FieldTest} (h : test.SeesValue) (f : Bool → Bool) :
    SeesValue fun r => f (test r) :=
  fun r => congrArg f (h r)

/-- A search through leaves does not tell nothing from null, if null itself does not pass. -/
theorem seesValue_someLeaf {test : Json → Bool} (h : test .null = false) :
    (someLeaf test).SeesValue := by
  intro r
  exact @Resolved.any_eq (·.any test) h.symm r

end FieldTest

/-- No text test passes on null. -/
theorem TextTest.passes_null (test : TextTest) : test.passes .null = false := by
  cases test with
  | equals expected => rfl
  | equalsFolded expected => rfl
  | contains mode needle => rfl
  | follows mode pattern => rfl

/-- A field test looks for a leaf that passes, and null is none that it looks for. -/
def FieldTest.IsSearch (test : FieldTest) : Prop :=
  ∃ leafTest : Json → Bool, leafTest .null = false ∧ test = someLeaf leafTest

namespace FieldTest

theorem IsSearch.seesValue {test : FieldTest} (h : test.IsSearch) : test.SeesValue := by
  obtain ⟨leafTest, hnull, rfl⟩ := h
  exact seesValue_someLeaf hnull

/-- Every bounded range asks for a truthy leaf, which null is not. -/
theorem isSearch_range {min max : Option Json} (h : (min.isSome || max.isSome) = true) :
    (range min max).IsSearch := by
  cases min with
  | none =>
      cases max with
      | none => cases h
      | some max => exact ⟨_, rfl, rfl⟩
  | some min =>
      cases max with
      | none => exact ⟨_, rfl, rfl⟩
      | some max =>
          rw [range]
          split
          · exact ⟨_, rfl, rfl⟩
          · exact ⟨_, rfl, rfl⟩

/-- Null equals no value of an enumeration, not even null. -/
theorem any_null_compareScalars (values : List Json) :
    (values.any fun w => Json.null.compareScalars w == some .eq) = false := by
  rw [List.any_eq_false]
  intro w _
  cases w <;> exact Bool.false_ne_true

theorem isSearch_choice (values : List Json) : (choice (some values)).IsSearch :=
  ⟨_, any_null_compareScalars values, rfl⟩

theorem isSearch_text (test : TextTest) : (text (some test)).IsSearch :=
  ⟨_, test.passes_null, rfl⟩

theorem isSearch_map (key : Option String) (test : Option TextTest) : (map key test).IsSearch :=
  ⟨_, rfl, rfl⟩

theorem seesValue_range (min max : Option Json) : (range min max).SeesValue := by
  cases hbound : min.isSome || max.isSome with
  | true => exact (isSearch_range hbound).seesValue
  | false =>
      obtain ⟨hmin, hmax⟩ := Bool.or_eq_false_iff.mp hbound
      rw [Option.isSome_eq_false_iff, Option.isNone_iff_eq_none] at hmin hmax
      rw [hmin, hmax]
      exact seesValue_isTruthy

theorem seesValue_choice (values : Option (List Json)) : (choice values).SeesValue := by
  cases values with
  | none => exact seesValue_isTruthy.comp (!·)
  | some values => exact (isSearch_choice values).seesValue

theorem seesValue_text (test : Option TextTest) : (text test).SeesValue := by
  cases test with
  | none => exact seesValue_isNullish
  | some test => exact (isSearch_text test).seesValue

theorem seesValue_map (key : Option String) (test : Option TextTest) : (map key test).SeesValue :=
  (isSearch_map key test).seesValue

end FieldTest

/-- What a leaf compiles to does not tell results from their values. -/
theorem Test.seesValue_of_compile {mode : Text.CaseMode} {t : Test} {test : FieldTest}
    (h : t.compile mode = .ok test) : test.SeesValue := by
  cases t with
  | boolean value =>
      cases h
      exact FieldTest.seesValue_isTruthy.comp (· == value)
  | null isNull =>
      cases h
      exact FieldTest.seesValue_isNullish.comp (· == isNull)
  | dateRange min max => cases h; exact FieldTest.seesValue_range _ _
  | doubleRange min max => cases h; exact FieldTest.seesValue_range _ _
  | longRange min max => cases h; exact FieldTest.seesValue_range _ _
  | stringRange min max => cases h; exact FieldTest.seesValue_range _ _
  | longEnum values => cases h; exact FieldTest.seesValue_choice _
  | stringEnum values => cases h; exact FieldTest.seesValue_choice _
  | containsString needle =>
      obtain ⟨text, -, htext⟩ := Except.bind_eq_ok_iff.mp h
      cases htext
      exact FieldTest.seesValue_text text
  | like pattern =>
      obtain ⟨text, -, htext⟩ := Except.bind_eq_ok_iff.mp h
      cases htext
      exact FieldTest.seesValue_text text
  | string value =>
      obtain ⟨text, -, htext⟩ := Except.bind_eq_ok_iff.mp h
      cases htext
      exact FieldTest.seesValue_text text
  | stringMap key value =>
      obtain ⟨entry, -, hentry⟩ := Except.bind_eq_ok_iff.mp h
      cases hentry
      exact FieldTest.seesValue_map key entry

/-! ## Predicates -/

namespace Filter

variable {mode : Text.CaseMode}

/-- A compiled leaf is a field test at the path that the leaf names. -/
theorem compile_leaf_eq_ok_iff {field : String} {t : Test} {test : Predicate} :
    compile mode (leaf field t) = .ok test ↔
      ∃ fieldTest path, t.compile mode = .ok fieldTest ∧ FieldPath.parse field = .ok path
        ∧ test = fun record => fieldTest (path.evaluate record) := by
  rw [compile, compileLeaf]
  constructor
  · intro h
    obtain ⟨fieldTest, hfield, h⟩ := Except.bind_eq_ok_iff.mp h
    obtain ⟨path, hpath, h⟩ := Except.bind_eq_ok_iff.mp h
    cases h
    exact ⟨fieldTest, path, hfield, Except.mapError_eq_ok_iff.mp hpath, rfl⟩
  · rintro ⟨fieldTest, path, hfield, hpath, rfl⟩
    rw [hfield, hpath]
    rfl

/-- A compiled group combines its compiled parts. -/
theorem compile_group_eq_ok_iff {op : Connective} {fs : List Filter} {test : Predicate} :
    compile mode (group op fs) = .ok test ↔
      ∃ tests, compileAll mode fs = .ok tests ∧ test = op.combine tests := by
  rw [compile]
  constructor
  · intro h
    obtain ⟨tests, htests, h⟩ := Except.bind_eq_ok_iff.mp h
    cases h
    exact ⟨tests, htests, rfl⟩
  · rintro ⟨tests, htests, rfl⟩
    rw [htests]
    rfl

theorem compileAll_cons_eq_ok_iff {f : Filter} {fs : List Filter} {tests : List Predicate} :
    compileAll mode (f :: fs) = .ok tests ↔
      ∃ test later, compile mode f = .ok test ∧ compileAll mode fs = .ok later
        ∧ tests = test :: later := by
  rw [compileAll]
  constructor
  · intro h
    obtain ⟨test, htest, h⟩ := Except.bind_eq_ok_iff.mp h
    obtain ⟨later, hlater, h⟩ := Except.bind_eq_ok_iff.mp h
    cases h
    exact ⟨test, later, htest, hlater, rfl⟩
  · rintro ⟨test, later, htest, hlater, rfl⟩
    rw [htest, hlater]
    rfl

end Filter

/-- A connective sees of two records only what its parts say of them. -/
theorem Connective.combine_congr {op : Connective} {tests : List Predicate} {r r' : Json}
    (h : ∀ test ∈ tests, test r = test r') : op.combine tests r = op.combine tests r' := by
  have hany : ∀ f : Bool → Bool,
      tests.any (fun test => f (test r)) = tests.any fun test => f (test r') := by
    intro f
    rw [Bool.eq_iff_iff, List.any_eq_true, List.any_eq_true]
    exact exists_congr fun test => and_congr_right fun hmem => by rw [h test hmem]
  have hall : tests.all (· r) = tests.all (· r') := by
    rw [Bool.eq_iff_iff, List.all_eq_true, List.all_eq_true]
    exact forall_congr' fun test => imp_congr_right fun hmem => by rw [h test hmem]
  cases op with
  | and => exact hall
  | or => exact hany id
  | nand => exact hany (!·)
  | nor => exact congrArg (!·) (hany id)

namespace Filter

variable {mode : Text.CaseMode}

/-- Two records agree at a leaf when its path finds the same value in both. -/
def AgreeAt (leaf : String × Test) (r r' : Json) : Prop :=
  ∀ path, FieldPath.parse leaf.1 = .ok path →
    (path.evaluate r).toValue = (path.evaluate r').toValue

mutual

/-- A predicate does not tell records that agree at its leaves. -/
theorem eq_of_agreeAt {r r' : Json} : ∀ (f : Filter) (test : Predicate),
    compile mode f = .ok test → (∀ leaf ∈ f.leaves, AgreeAt leaf r r') → test r = test r'
  | leaf field t, test, h, hagree => by
      obtain ⟨fieldTest, path, hfield, hpath, rfl⟩ := compile_leaf_eq_ok_iff.mp h
      have hsees := Test.seesValue_of_compile hfield
      have hvalue := hagree (field, t) List.mem_cons_self path hpath
      show fieldTest (path.evaluate r) = fieldTest (path.evaluate r')
      rw [hsees (path.evaluate r), hsees (path.evaluate r'), hvalue]
  | group op fs, test, h, hagree => by
      obtain ⟨tests, htests, rfl⟩ := compile_group_eq_ok_iff.mp h
      exact Connective.combine_congr (all_eq_of_agreeAt fs tests htests hagree)

theorem all_eq_of_agreeAt {r r' : Json} : ∀ (fs : List Filter) (tests : List Predicate),
    compileAll mode fs = .ok tests → (∀ leaf ∈ leavesOf fs, AgreeAt leaf r r') →
    ∀ test ∈ tests, test r = test r'
  | [], tests, h, _ => by
      cases h
      intro test htest
      cases htest
  | f :: fs, tests, h, hagree => by
      obtain ⟨first, later, hfirst, hlater, rfl⟩ := compileAll_cons_eq_ok_iff.mp h
      rw [leavesOf] at hagree
      intro test htest
      rcases List.mem_cons.mp htest with rfl | htest
      · exact eq_of_agreeAt f test hfirst fun leaf hleaf =>
          hagree leaf (List.mem_append_left _ hleaf)
      · exact all_eq_of_agreeAt fs later hlater
          (fun leaf hleaf => hagree leaf (List.mem_append_right _ hleaf)) test htest

end

/-- The empty path text is the path that stays at the record. -/
theorem parse_empty : FieldPath.parse "" = .ok ⟨"", []⟩ := rfl

/-- A leaf asks of a record what the same leaf at the empty path asks of the value found. -/
theorem compile_leaf_atRoot {field : String} {t : Test} {test : Predicate}
    (h : compile mode (leaf field t) = .ok test) :
    ∃ path atRoot, FieldPath.parse field = .ok path ∧ compile mode (leaf "" t) = .ok atRoot
      ∧ ∀ r, test r = atRoot (path.evaluate r).toValue := by
  obtain ⟨fieldTest, path, hfield, hpath, rfl⟩ := compile_leaf_eq_ok_iff.mp h
  refine ⟨path, fun record => fieldTest (.value record), hpath, ?_, ?_⟩
  · exact compile_leaf_eq_ok_iff.mpr ⟨fieldTest, ⟨"", []⟩, hfield, parse_empty, rfl⟩
  · intro r
    exact Test.seesValue_of_compile hfield (path.evaluate r)

end Filter

end RecordQuery
