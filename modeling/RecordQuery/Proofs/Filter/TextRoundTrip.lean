import RecordQuery.Proofs.Filter.LiteralRoundTrip
import RecordQuery.Proofs.Json.TextRoundTrip

/-!
# RecordQuery.Proofs.Filter.TextRoundTrip — filter texts read back, down to a depth

A filter without double bounds is read from its own text as itself as long as its literal opens no
more than 127 brackets at once.  A leaf opens one, or two with the list of an enumeration; a group
opens two around its parts.  So a filter that compiles may be too deep to be read back: the fault is
then the nesting of its text, and nothing else.
-/

namespace RecordQuery

/-! ## Depth of filters -/

/-- Whether a test has a bound that is a double. -/
def Test.boundsDouble : Test → Bool
  | .doubleRange min max => min.isSome || max.isSome
  | _ => false

theorem Test.boundsDouble_doubleRange {min max : Option Double} :
    (Test.doubleRange min max).boundsDouble = false ↔ min = none ∧ max = none := by
  rw [boundsDouble, Bool.or_eq_false_iff, Option.isSome_eq_false_iff, Option.isSome_eq_false_iff,
    Option.isNone_iff_eq_none, Option.isNone_iff_eq_none]

/-- The brackets that the literal of a leaf opens at once. -/
def Test.bracketDepth : Test → Nat
  | .longEnum (some _) => 2
  | .stringEnum (some _) => 2
  | _ => 1

namespace Filter

mutual

/-- The brackets that the literal of a filter opens at once. -/
def bracketDepth : Filter → Nat
  | leaf _ test => test.bracketDepth
  | group _ filters => bracketDepthAll filters + 2

/-- The brackets that the deepest of several literals opens at once. -/
def bracketDepthAll : List Filter → Nat
  | [] => 0
  | f :: rest => max (bracketDepth f) (bracketDepthAll rest)

end

open Json (Plain PlainItems PlainMembers)

/-! ## Leaves -/

section Leaves

variable {before between after : List (String × Json)} {names₁ names₂ names₃ : List String}
  {d₁ d₂ d₃ : Nat}

/-- The literal of a leaf is plain when its parts are, and their names stand in order around the
field and the tag. -/
theorem plain_leafJson (kind : TestKind) (field : String) (hbefore : PlainMembers names₁ before d₁)
    (hbetween : PlainMembers names₂ between d₂) (hafter : PlainMembers names₃ after d₃)
    (horder : (names₁ ++ "fieldName" :: names₂ ++ "type" :: names₃).Pairwise
      fun a b => compare a b = .lt) :
    Plain (leafJson kind field before between after)
      (max (max d₁ (max 0 d₂)) (max 0 d₃) + 1) :=
  ((hbefore.append (hbetween.cons "fieldName" (Json.plain_string field))).append
    (hafter.cons "type" (Json.plain_string _))).object horder

/-- A range writes its bounds between the field and the tag. -/
theorem plain_rangeJson {α : Type} {write : α → Json} (kind : TestKind) (field : String)
    (min max : Option α) (h : ∀ x, Plain (write x) 0) :
    Plain (rangeJson kind field (min.map write) (max.map write)) 1 :=
  plain_leafJson kind field .nil ((PlainMembers.optional "max" max h).append
    (PlainMembers.optional "min" min h)) .nil (by decide)

/-- An enumeration that has values opens a second bracket for them. -/
theorem plain_enumJson {α : Type} {write : α → Json} (kind : TestKind) (field : String)
    (values : Option (List α)) (h : ∀ x, Plain (write x) 0) :
    Plain (enumJson kind field (values.map (·.map write))) (if values.isSome then 2 else 1) := by
  cases values with
  | none => exact plain_leafJson kind field .nil .nil (PlainMembers.nil.skip "values") (by decide)
  | some values =>
      have hitems : PlainItems (values.map write) 0 := by
        refine .of_forall fun v hv => ?_
        obtain ⟨x, -, rfl⟩ := List.mem_map.1 hv
        exact h x
      exact plain_leafJson kind field .nil .nil (.cons "values" hitems.array .nil) (by decide)

/-- The literal of a leaf without double bounds is plain. -/
theorem plain_testJson (field : String) (test : Test) (h : test.boundsDouble = false) :
    Plain (testJson field test) test.bracketDepth := by
  cases test with
  | boolean value =>
      exact plain_leafJson .boolean field .nil .nil (.cons "value" (Json.plain_bool value) .nil)
        (by decide)
  | containsString needle =>
      exact plain_leafJson .containsString field (.optional "contains" needle Json.plain_string)
        .nil .nil (by decide)
  | dateRange min max => exact plain_rangeJson .dateRange field min max Json.plain_string
  | doubleRange min max =>
      -- without double bounds it has no bounds at all
      obtain ⟨rfl, rfl⟩ := Test.boundsDouble_doubleRange.mp h
      exact plain_leafJson .doubleRange field .nil .nil .nil (by decide)
  | like pattern =>
      exact plain_leafJson .like field .nil (.optional "like" pattern Json.plain_string) .nil
        (by decide)
  | longEnum values =>
      have hplain := plain_enumJson .longEnum field values Json.plain_ofInt64
      cases values with
      | none => exact hplain
      | some values => exact hplain
  | longRange min max => exact plain_rangeJson .longRange field min max Json.plain_ofInt64
  | stringEnum values =>
      have hplain := plain_enumJson .stringEnum field values Json.plain_string
      cases values with
      | none => exact hplain
      | some values => exact hplain
  | string value =>
      exact plain_leafJson .string field .nil .nil (.optional "value" value Json.plain_string)
        (by decide)
  | stringMap key value =>
      exact plain_leafJson .stringMap field .nil (.optional "key" key Json.plain_string)
        (.optional "value" value Json.plain_string) (by decide)
  | stringRange min max => exact plain_rangeJson .stringRange field min max Json.plain_string
  | null isNull =>
      exact plain_leafJson .null field .nil (.cons "isNull" (Json.plain_bool isNull) .nil) .nil
        (by decide)

end Leaves

/-! ## Trees -/

/-- The literal of a group opens two brackets around those of its parts. -/
theorem plain_groupMembers (op : Connective) {literals : List Json} {d : Nat}
    (h : PlainItems literals d) : Plain (.object (groupMembers op literals)) (d + 2) := by
  have hmembers := PlainMembers.nil.cons "type" (Json.plain_string "logOp")
    |>.cons "operation" (Json.plain_string op.name) |>.cons "filters" h.array
  exact hmembers.object (by decide)

mutual

/-- The literal of a filter without double bounds is plain, and nests as deep as the filter. -/
theorem plain_toJson (f : Filter) (h : ∀ leaf ∈ f.leaves, leaf.2.boundsDouble = false) :
    Plain f.toJson f.bracketDepth := by
  match f with
  | leaf field test => exact plain_testJson field test (h (field, test) List.mem_cons_self)
  | group op filters => exact plain_groupMembers op (plainItems_toJsons filters h)

theorem plainItems_toJsons (filters : List Filter)
    (h : ∀ leaf ∈ leavesOf filters, leaf.2.boundsDouble = false) :
    PlainItems (toJsons filters) (bracketDepthAll filters) := by
  match filters with
  | [] => exact .nil
  | f :: rest =>
      exact .cons (plain_toJson f fun leaf hleaf => h leaf (List.mem_append_left _ hleaf))
        (plainItems_toJsons rest fun leaf hleaf => h leaf (List.mem_append_right _ hleaf))

end

/-! ## Texts -/

/-- Only bounds that are doubles can change on the way. -/
theorem received_of_boundsDouble {test : Test} (h : test.boundsDouble = false) :
    test.received = test := by
  cases test with
  | doubleRange min max =>
      obtain ⟨rfl, rfl⟩ := Test.boundsDouble_doubleRange.mp h
      rfl
  | _ => rfl

/-- **Filter texts read back, down to 127 brackets.** A filter without double bounds is read from
its own text as itself exactly when its literal opens no more brackets at once; otherwise its text
is refused for its nesting. -/
theorem ofText_render (f : Filter) (h : ∀ leaf ∈ f.leaves, leaf.2.boundsDouble = false) :
    (f.bracketDepth ≤ 127 → ofText f.toJson.render = .ok f) ∧
      (127 < f.bracketDepth → ∃ line column,
        ofText f.toJson.render = .error (.invalidFilter (.text ⟨.nestingLimit, line, column⟩))) := by
  obtain ⟨hfits, hstops⟩ := Json.readWithin_render (plain_toJson f h) Json.nestingRoom
  have hsame : f.received = f :=
    received_eq_self f fun leaf hleaf => received_of_boundsDouble (h leaf hleaf)
  unfold ofText Json.read
  constructor
  · intro hle
    rw [hfits hle]
    show ofJson f.toJson = _
    rw [ofJson_toJson, hsame]
  · intro hlt
    obtain ⟨line, column, hstop⟩ := hstops hlt
    exact ⟨line, column, by rw [hstop]⟩

/-- A test of one field inside groups of one part each. -/
def nested : Nat → Filter
  | 0 => leaf "name" (.null false)
  | levels + 1 => group .nand [nested levels]

/-- Sixty-three groups around a test still read back, and sixty-four do not. -/
theorem ofText_render_nested :
    ofText (nested 63).toJson.render = .ok (nested 63) ∧ ∃ line column,
      ofText (nested 64).toJson.render
        = .error (.invalidFilter (.text ⟨.nestingLimit, line, column⟩)) := by
  have hleaves : ∀ levels, (nested levels).leaves = [("name", .null false)] := by
    intro levels
    induction levels with
    | zero => rfl
    | succ levels ih => rw [nested, leaves, leavesOf, leavesOf, ih, List.append_nil]
  have hbounds : ∀ levels, ∀ leaf ∈ (nested levels).leaves, leaf.2.boundsDouble = false := by
    intro levels leaf hleaf
    rw [hleaves, List.mem_singleton] at hleaf
    rw [hleaf]
    rfl
  have hdepth : ∀ levels, (nested levels).bracketDepth = 2 * levels + 1 := by
    intro levels
    induction levels with
    | zero => rfl
    | succ levels ih =>
        rw [nested, bracketDepth, bracketDepthAll, bracketDepthAll, ih, Nat.max_zero]
        omega
  have hfits : (nested 63).bracketDepth ≤ 127 := by
    have h := hdepth 63
    omega
  have hstops : 127 < (nested 64).bracketDepth := by
    have h := hdepth 64
    omega
  exact ⟨(ofText_render (nested 63) (hbounds 63)).1 hfits,
    (ofText_render (nested 64) (hbounds 64)).2 hstops⟩

end Filter

end RecordQuery
