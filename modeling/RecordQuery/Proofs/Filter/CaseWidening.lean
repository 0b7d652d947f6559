import Mathlib.Data.List.Forall2
import RecordQuery.Proofs.Filter.ValueView
import RecordQuery.Proofs.Json.Members
import RecordQuery.Proofs.Path.Leaves
import RecordQuery.Proofs.PathFaults
import RecordQuery.Proofs.Text.Folding

/-!
# RecordQuery.Proofs.Filter.CaseWidening — ignoring case only adds matches

Whatever text passes a test that sees characters as they are passes the same test when case is
folded, and a filter of conjunctions and disjunctions passes this on to records.  Numbers are the
exception: exactly, a number equals any numeric text of its value, while folded texts are compared
with its own text alone.  So the records looked at hold no numbers.
-/

namespace RecordQuery

/-! ## Records without numbers -/

namespace Json

mutual

/-- The numbers in a value. -/
def numbers : Json → List Number
  | number n => [n]
  | array items => numbersOf items
  | object members => numbersIn members
  | _ => []

/-- The numbers in several values. -/
def numbersOf : List Json → List Number
  | [] => []
  | v :: rest => numbers v ++ numbersOf rest

/-- The numbers in the values of members. -/
def numbersIn : List (String × Json) → List Number
  | [] => []
  | (_, v) :: rest => numbers v ++ numbersIn rest

end

/-- No number stands anywhere in a value. -/
def NumberFree (v : Json) : Prop :=
  v.numbers = []

theorem not_numberFree_number (n : Number) : ¬ (number n).NumberFree :=
  List.cons_ne_nil n []

theorem numbersOf_eq_nil_iff {items : List Json} :
    numbersOf items = [] ↔ ∀ v ∈ items, v.NumberFree := by
  induction items with
  | nil => simp [numbersOf]
  | cons v rest ih => simp [numbersOf, ih, NumberFree]

theorem numbersIn_eq_nil_iff {members : List (String × Json)} :
    numbersIn members = [] ↔ ∀ m ∈ members, m.2.NumberFree := by
  induction members with
  | nil => simp [numbersIn]
  | cons m rest ih => simp [numbersIn, ih, NumberFree]

/-- Being without numbers is a property that values share with what is inside them. -/
theorem hereditary_numberFree : Hereditary NumberFree where
  null := rfl
  array_iff _ := numbersOf_eq_nil_iff
  member h hlookup := numbersIn_eq_nil_iff.mp h _ (mem_of_lookup_eq_some hlookup)

end Json

/-! ## Wider tests -/

/-- A test of values widens to another when the other passes wherever it does, numbers apart. -/
def Predicate.WidensTo (narrow wide : Predicate) : Prop :=
  ∀ v : Json, v.NumberFree → narrow v = true → wide v = true

/-- A field test widens to another when it does so on the values that paths find. -/
def FieldTest.WidensTo (narrow wide : FieldTest) : Prop :=
  Predicate.WidensTo (fun v => narrow (.value v)) fun v => wide (.value v)

/-- A text test widens to another as a test of values. -/
def TextTest.WidensTo (narrow wide : TextTest) : Prop :=
  Predicate.WidensTo narrow.passes wide.passes

/-! ## Text tests -/

namespace TextTest

open Text (CaseMode Pattern)

variable {narrow wide : TextTest}

/-- A test of the texts of values widens when it does so on every text. -/
theorem widensTo_of_text {narrow wide : List Char → Bool}
    (h : ∀ cs, narrow cs = true → wide cs = true) :
    Predicate.WidensTo (fun v => v.scalarText?.any narrow) fun v => v.scalarText?.any wide := by
  intro v _ hv
  obtain ⟨cs, hcs, hnarrow⟩ := (Option.any_eq_true _ _).mp hv
  exact (Option.any_eq_true _ _).mpr ⟨cs, hcs, h cs hnarrow⟩

/-- Numbers apart, only a string equals an expected text. -/
theorem eq_string_of_looseEq {v : Json} {expected : String} (hv : v.NumberFree)
    (h : v.looseEq (.string expected) = true) : v = .string expected := by
  cases v with
  | number n => exact absurd hv (Json.not_numberFree_number n)
  | _ => exact eq_of_beq h

theorem ofEquality_widensTo {expected : String} (hn : ofEquality .exact expected = .ok narrow)
    (hw : ofEquality .folded expected = .ok wide) : narrow.WidensTo wide := by
  cases hn
  obtain ⟨-, rfl⟩ := limited_eq_ok_iff.mp hw
  intro v hv h
  rw [eq_string_of_looseEq hv h]
  exact beq_self_eq_true _

-- the number one equals the text 1.0 and has another text
example : (equals "1.0").passes (.ofInt64 1) = true
    ∧ (equalsFolded "1.0".toList).passes (.ofInt64 1) = false := by decide +kernel

theorem ofNeedle_widensTo {needle : String} (hn : ofNeedle .exact needle = .ok narrow)
    (hw : ofNeedle .folded needle = .ok wide) : narrow.WidensTo wide := by
  cases hn
  obtain ⟨-, rfl⟩ := limited_eq_ok_iff.mp hw
  refine widensTo_of_text fun cs h => ?_
  rw [CaseMode.viewText_exact] at h
  exact Text.occursIn_viewText .folded h

theorem ofLike_widensTo {text : String} (hn : ofLike .exact text = .ok narrow)
    (hw : ofLike .folded text = .ok wide) : narrow.WidensTo wide := by
  obtain ⟨-, rfl⟩ := limited_eq_ok_iff.mp hn
  obtain ⟨-, rfl⟩ := limited_eq_ok_iff.mp hw
  refine widensTo_of_text fun cs h => ?_
  rw [CaseMode.viewText_exact, Pattern.view_exact] at h
  exact Pattern.recognizes_view .folded h

end TextTest

/-! ## Field tests -/

namespace FieldTest

theorem WidensTo.refl (test : FieldTest) : test.WidensTo test :=
  fun _ _ h => h

/-- A search through leaves finds more with a wider test of leaves. -/
theorem someLeaf_widensTo {narrow wide : Json → Bool} (h : Predicate.WidensTo narrow wide) :
    WidensTo (someLeaf narrow) (someLeaf wide) := by
  intro v hv hnarrow
  obtain ⟨u, hu, hpass⟩ : ∃ u ∈ v.leaves, narrow u = true :=
    List.any_eq_true.mp ((v.anyLeaf_eq_any _).symm.trans hnarrow)
  have hfree : u.NumberFree := Json.hereditary_numberFree.of_mem_leaves v hv u hu
  exact (v.anyLeaf_eq_any _).trans (List.any_eq_true.mpr ⟨u, hu, h u hfree hpass⟩)

variable {narrow wide : Option TextTest}

theorem text_widensTo (h : Option.Rel TextTest.WidensTo narrow wide) :
    WidensTo (text narrow) (text wide) := by
  cases h with
  | none => exact WidensTo.refl _
  | some h => exact someLeaf_widensTo h

/-- A test of entries passes on more objects with a wider test of their values. -/
theorem entries_of_widensTo (h : Option.Rel TextTest.WidensTo narrow wide) (key : Option String)
    {members : List (String × Json)} (hmembers : ∀ m ∈ members, m.2.NumberFree)
    (hnarrow : entries key narrow members = true) : entries key wide members = true := by
  cases h with
  | none => exact hnarrow
  | some h =>
      cases key with
      | none =>
          obtain ⟨m, hm, hpass⟩ := List.any_eq_true.mp hnarrow
          exact List.any_eq_true.mpr ⟨m, hm, h m.2 (hmembers m hm) hpass⟩
      | some key =>
          obtain ⟨v, hv, hpass⟩ := (Option.any_eq_true _ _).mp hnarrow
          obtain ⟨hnull, hpass⟩ := Bool.and_eq_true_iff.mp hpass
          have hfree : v.NumberFree := hmembers _ (Json.mem_of_lookup_eq_some hv)
          exact (Option.any_eq_true _ _).mpr
            ⟨v, hv, Bool.and_eq_true_iff.mpr ⟨hnull, h v hfree hpass⟩⟩

theorem map_widensTo (key : Option String) (h : Option.Rel TextTest.WidensTo narrow wide) :
    WidensTo (map key narrow) (map key wide) := by
  refine someLeaf_widensTo fun v hv hnarrow => ?_
  cases v with
  | object members =>
      exact entries_of_widensTo h key (Json.numbersIn_eq_nil_iff.mp hv) hnarrow
  | _ => cases hnarrow

end FieldTest

/-- Two ways to compile an optional part give parts that are related as they relate results. -/
theorem optionRel_of_mapM {ε α β : Type} {R : β → β → Prop} {f g : α → Except ε β}
    (h : ∀ {a b c}, f a = .ok b → g a = .ok c → R b c) {x : Option α} {y z : Option β}
    (hy : x.mapM f = .ok y) (hz : x.mapM g = .ok z) : Option.Rel R y z := by
  cases x with
  | none =>
      cases hy
      cases hz
      exact .none
  | some a =>
      rw [Option.mapM_some] at hy hz
      obtain ⟨b, hb, rfl⟩ := Except.map_eq_ok_iff.mp hy
      obtain ⟨c, hc, rfl⟩ := Except.map_eq_ok_iff.mp hz
      exact .some (h hb hc)

/-- A test of an optional text widens when the test of the text does, and with it the test of what
the path finds. -/
theorem FieldTest.widensTo_of_mapM {make fold : String → Except QueryError TextTest}
    {finish : Option TextTest → FieldTest}
    (hfinish : ∀ {narrow wide}, Option.Rel TextTest.WidensTo narrow wide →
      (finish narrow).WidensTo (finish wide))
    (h : ∀ {text narrow wide}, make text = .ok narrow → fold text = .ok wide → narrow.WidensTo wide)
    {text : Option String} {narrow wide : FieldTest}
    (hn : (text.mapM make >>= fun test => .ok (finish test)) = .ok narrow)
    (hw : (text.mapM fold >>= fun test => .ok (finish test)) = .ok wide) :
    narrow.WidensTo wide := by
  obtain ⟨test, htest, rfl⟩ := Except.map_eq_ok_iff.mp hn
  obtain ⟨folded, hfolded, rfl⟩ := Except.map_eq_ok_iff.mp hw
  exact hfinish (optionRel_of_mapM h htest hfolded)

/-- Folding case widens the test of a leaf; tests of other things than texts do not change. -/
theorem Test.widensTo_of_compile {t : Test} {narrow wide : FieldTest}
    (hn : t.compile .exact = .ok narrow) (hw : t.compile .folded = .ok wide) :
    narrow.WidensTo wide := by
  cases t with
  | containsString needle =>
      exact FieldTest.widensTo_of_mapM FieldTest.text_widensTo TextTest.ofNeedle_widensTo hn hw
  | like pattern =>
      exact FieldTest.widensTo_of_mapM FieldTest.text_widensTo TextTest.ofLike_widensTo hn hw
  | string value =>
      exact FieldTest.widensTo_of_mapM FieldTest.text_widensTo TextTest.ofEquality_widensTo hn hw
  | stringMap key value =>
      exact FieldTest.widensTo_of_mapM (FieldTest.map_widensTo key) TextTest.ofEquality_widensTo
        hn hw
  | _ =>
      cases hn
      cases hw
      exact FieldTest.WidensTo.refl _

/-! ## Filters -/

/-- Wider parts make a wider conjunction and a wider disjunction. -/
theorem Connective.combine_widensTo {op : Connective} (hop : op = .and ∨ op = .or)
    {narrow wide : List Predicate} (h : List.Forall₂ Predicate.WidensTo narrow wide) :
    Predicate.WidensTo (op.combine narrow) (op.combine wide) := by
  intro v hv
  rcases hop with rfl | rfl
  · show narrow.all (· v) = true → wide.all (· v) = true
    induction h with
    | nil => exact id
    | cons hfirst _ ih =>
        rw [List.all_cons, List.all_cons, Bool.and_eq_true_iff, Bool.and_eq_true_iff]
        exact And.imp (hfirst v hv) ih
  · show narrow.any (· v) = true → wide.any (· v) = true
    induction h with
    | nil => exact id
    | cons hfirst _ ih =>
        rw [List.any_cons, List.any_cons, Bool.or_eq_true_iff, Bool.or_eq_true_iff]
        exact Or.imp (hfirst v hv) ih

namespace Filter

/-- All groups of a tree are conjunctions or disjunctions. -/
def Positive (f : Filter) : Prop :=
  ∀ op parts, group op parts ∈ f.nodes → op = .and ∨ op = .or

mutual

/-- Folding case widens a tree of conjunctions and disjunctions. -/
theorem widensTo_of_compile : ∀ (f : Filter) (narrow wide : Predicate), f.Positive →
    compile .exact f = .ok narrow → compile .folded f = .ok wide → narrow.WidensTo wide
  | leaf field t, narrow, wide, _, hn, hw => by
      obtain ⟨exactTest, path, hexact, hpath, rfl⟩ := compile_leaf_eq_ok_iff.mp hn
      obtain ⟨foldedTest, path', hfolded, hpath', rfl⟩ := compile_leaf_eq_ok_iff.mp hw
      cases Except.ok.inj (hpath.symm.trans hpath')
      intro record hrecord h
      have hfound : (path.evaluate record).toValue.NumberFree :=
        FieldPath.handsDown_resolve Json.hereditary_numberFree path.segments record hrecord
      have hwidens := Test.widensTo_of_compile hexact hfolded
      show foldedTest (path.evaluate record) = true
      rw [Test.seesValue_of_compile hfolded]
      exact hwidens _ hfound ((Test.seesValue_of_compile hexact _).symm.trans h)
  | group op parts, narrow, wide, hpositive, hn, hw => by
      obtain ⟨exactTests, hexact, rfl⟩ := compile_group_eq_ok_iff.mp hn
      obtain ⟨foldedTests, hfolded, rfl⟩ := compile_group_eq_ok_iff.mp hw
      have hop := hpositive op parts List.mem_cons_self
      exact Connective.combine_widensTo hop
        (widensTo_of_compileAll parts _ _
          (fun op parts h => hpositive op parts (List.mem_cons_of_mem _ h)) hexact hfolded)

theorem widensTo_of_compileAll : ∀ (fs : List Filter) (narrow wide : List Predicate),
    (∀ op parts, group op parts ∈ nodesOf fs → op = .and ∨ op = .or) →
    compileAll .exact fs = .ok narrow → compileAll .folded fs = .ok wide →
    List.Forall₂ Predicate.WidensTo narrow wide
  | [], narrow, wide, _, hn, hw => by
      cases hn
      cases hw
      exact List.Forall₂.nil
  | f :: fs, narrow, wide, hpositive, hn, hw => by
      obtain ⟨first, later, hfirst, hlater, rfl⟩ := compileAll_cons_eq_ok_iff.mp hn
      obtain ⟨first', later', hfirst', hlater', rfl⟩ := compileAll_cons_eq_ok_iff.mp hw
      exact List.Forall₂.cons
        (widensTo_of_compile f first first'
          (fun op parts h => hpositive op parts (List.mem_append_left _ h)) hfirst hfirst')
        (widensTo_of_compileAll fs later later'
          (fun op parts h => hpositive op parts (List.mem_append_right _ h)) hlater hlater')

end

/-- **Folding case only adds matches.** Take a tree of conjunctions and disjunctions whose patterns
are not too large.  When it compiles where case matters, it compiles where case does not, and the
predicate that ignores case matches every record without numbers that the other one matches. -/
theorem exists_folded_of_exact {f : Filter} (hpositive : f.Positive) (hlimit : f.WithinLimit)
    {sensitive : Predicate} (h : f.compile (MatchOptions.mode ⟨true⟩) = .ok sensitive) :
    ∃ insensitive, f.compile (MatchOptions.mode ⟨false⟩) = .ok insensitive ∧
      ∀ record : Json, record.NumberFree → sensitive record = true → insensitive record = true := by
  have hpaths := (f.failsAtFirst_compile hlimit).ok_iff.mp ⟨sensitive, h⟩
  obtain ⟨insensitive, hfolded⟩ := (f.failsAtFirst_compile hlimit).ok_iff.mpr hpaths
  exact ⟨insensitive, hfolded, widensTo_of_compile f sensitive insensitive hpositive h hfolded⟩

/-- Teas with a title, or green ones that Ann wrote about. -/
def teas : Filter :=
  group .or
    [leaf "title" (.string (some "Tea")),
     group .and
      [leaf "tags[*]" (.like (some "gr%n")), leaf "notes" (.stringMap none (some "Ann"))]]

/-- A tea that the second part of the filter finds. -/
def greenTea : Json :=
  .object
    [("notes", .object [("writer", .string "Ann")]),
     ("tags", .array [.string "leaf", .string "green"])]

theorem exists_folded_of_exact_teas :
    ∃ insensitive, teas.compile (MatchOptions.mode ⟨false⟩) = .ok insensitive ∧
      insensitive greenTea = true := by
  have hpositive : teas.Positive := by
    intro op parts h
    simp [teas, nodes, nodesOf] at h
    rcases h with ⟨rfl, -⟩ | ⟨rfl, -⟩
    · exact Or.inr rfl
    · exact Or.inl rfl
  obtain ⟨sensitive, hexact, hmatch⟩ : ∃ sensitive,
      teas.compile (MatchOptions.mode ⟨true⟩) = .ok sensitive ∧ sensitive greenTea = true := by
    refine ⟨_, rfl, ?_⟩
    decide +kernel
  obtain ⟨insensitive, hfolded, hwidens⟩ :=
    exists_folded_of_exact hpositive (by decide) hexact
  exact ⟨insensitive, hfolded, hwidens greenTea rfl hmatch⟩

end Filter

end RecordQuery
