import RecordQuery.Proofs.Except
import RecordQuery.Proofs.Filter.PatternLimit
import RecordQuery.Window.Execution

/-!
# RecordQuery.Proofs.PathFaults — malformed paths are met in the order of the query

Compiling a filter, sorting and projecting read the path texts of a query from left to right, all of
them, before or without regard to any record.  So whether they fail, and with which error, can be
said from the texts alone: they fail at the first text that spells no path.

`FailsAtFirst` says that of one computation.  Computations of that kind may be chained, and then the
texts of the later one follow those of the earlier one; everything else here walks along the
recursions of the definitions.
-/

namespace RecordQuery

/-! ## The first malformed text -/

/-- A text spells a path. -/
def FieldPath.Spelled (text : String) : Prop :=
  ∃ path, FieldPath.parse text = .ok path

/-- The first of several texts that spells no path has the given fault. -/
def FirstFault (texts : List String) (fault : PathError) : Prop :=
  ∃ before text after, texts = before ++ text :: after
    ∧ (∀ earlier ∈ before, FieldPath.Spelled earlier) ∧ FieldPath.parse text = .error fault

theorem firstFault_nil {fault : PathError} : ¬ FirstFault [] fault := by
  rintro ⟨before, text, after, h, -⟩
  simp at h

theorem firstFault_cons {text : String} {rest : List String} {fault : PathError} :
    FirstFault (text :: rest) fault ↔ FieldPath.parse text = .error fault
      ∨ FieldPath.Spelled text ∧ FirstFault rest fault := by
  constructor
  · rintro ⟨before, malformed, after, h, hbefore, hfault⟩
    cases before with
    | nil =>
        obtain ⟨rfl, -⟩ := List.cons_eq_cons.mp h
        exact Or.inl hfault
    | cons first before =>
        obtain ⟨rfl, rfl⟩ := List.cons_eq_cons.mp h
        obtain ⟨hfirst, hbefore⟩ := List.forall_mem_cons.mp hbefore
        exact Or.inr ⟨hfirst, before, malformed, after, rfl, hbefore, hfault⟩
  · rintro (hfault | ⟨htext, before, malformed, after, rfl, hbefore, hfault⟩)
    · exact ⟨[], text, rest, rfl, nofun, hfault⟩
    · exact ⟨text :: before, malformed, after, rfl, List.forall_mem_cons.mpr ⟨htext, hbefore⟩,
        hfault⟩

theorem firstFault_append {texts later : List String} {fault : PathError} :
    FirstFault (texts ++ later) fault ↔ FirstFault texts fault
      ∨ (∀ text ∈ texts, FieldPath.Spelled text) ∧ FirstFault later fault := by
  induction texts with
  | nil => simp [firstFault_nil]
  | cons text rest ih =>
      rw [List.cons_append, firstFault_cons, firstFault_cons, ih, List.forall_mem_cons, and_or_left,
        and_assoc, or_assoc]

/-! ## Computations that fail at the first malformed text -/

/-- A computation gives a result exactly when all texts spell paths, and fails with the fault of the
first one that does not. -/
structure FailsAtFirst {α : Type} (texts : List String) (result : Except QueryError α) : Prop where
  ok_iff : (∃ a, result = .ok a) ↔ ∀ text ∈ texts, FieldPath.Spelled text
  error_iff : ∀ e, result = .error e ↔ ∃ fault, FirstFault texts fault ∧ e = .invalidPath fault

namespace FailsAtFirst

variable {α β : Type} {texts later : List String} {x : Except QueryError α}

/-- A computation that reads no text does not fail. -/
theorem of_ok (h : ∃ a, x = .ok a) : FailsAtFirst [] x where
  ok_iff := by simpa using h
  error_iff e := by
    obtain ⟨a, rfl⟩ := h
    simp [firstFault_nil]

/-- Reading one path fails at its text. -/
theorem parse (text : String) :
    FailsAtFirst [text] ((FieldPath.parse text).mapError QueryError.invalidPath) where
  ok_iff := by
    simp only [Except.mapError_eq_ok_iff, List.forall_mem_singleton]
    rfl
  error_iff e := by
    simp only [firstFault_cons, firstFault_nil, and_false, or_false, @eq_comm _ e]
    exact Except.mapError_eq_error_iff

/-- **Chains.** The texts of the second computation come after those of the first one. -/
theorem bind {f : α → Except QueryError β} (hx : FailsAtFirst texts x)
    (hf : ∀ a, FailsAtFirst later (f a)) : FailsAtFirst (texts ++ later) (x >>= f) := by
  cases x with
  | error e =>
      have hmalformed : ¬ ∀ text ∈ texts, FieldPath.Spelled text := by
        simpa using mt hx.ok_iff.mpr
      constructor
      · rw [Except.error_bind, List.forall_mem_append]
        exact ⟨nofun, fun h => absurd h.1 hmalformed⟩
      · intro e'
        simp only [Except.error_bind, firstFault_append, hmalformed, false_and, or_false]
        have := hx.error_iff e'
        simpa using this
  | ok a =>
      have hspelled : ∀ text ∈ texts, FieldPath.Spelled text := hx.ok_iff.mp ⟨a, rfl⟩
      have hnone : ∀ fault, ¬ FirstFault texts fault := by
        intro fault hfault
        cases (hx.error_iff (.invalidPath fault)).mpr ⟨fault, hfault, rfl⟩
      constructor
      · rw [Except.ok_bind, (hf a).ok_iff, List.forall_mem_append]
        exact (and_iff_right hspelled).symm
      · intro e
        rw [Except.ok_bind, (hf a).error_iff]
        simp only [firstFault_append, hnone, false_or, and_iff_right hspelled]

/-- What is done with the result reads no further text. -/
theorem map (hx : FailsAtFirst texts x) (g : α → β) :
    FailsAtFirst texts (x >>= fun a => .ok (g a)) := by
  have h : FailsAtFirst (texts ++ []) (x >>= fun a => .ok (g a)) :=
    hx.bind fun a => of_ok ⟨g a, rfl⟩
  rwa [List.append_nil] at h

end FailsAtFirst

/-! ## Filters -/

namespace Filter

/-- The path texts of a filter's leaves from left to right. -/
def fieldTexts (f : Filter) : List String :=
  f.leaves.map Prod.fst

variable {mode : Text.CaseMode}

theorem failsAtFirst_compileLeaf {test : Test} (h : test.WithinLimit) (field : String) :
    FailsAtFirst [field] (compileLeaf mode field test) :=
  (FailsAtFirst.of_ok (test.exists_compile h mode)).bind fun _ => (FailsAtFirst.parse field).map _

mutual

/-- Compiling reads the leaves from left to right, whatever connectives they stand under. -/
theorem failsAtFirst_compile : ∀ f : Filter, f.WithinLimit →
    FailsAtFirst f.fieldTexts (compile mode f)
  | leaf field test, h => by
      rw [compile]
      exact failsAtFirst_compileLeaf (h (field, test) List.mem_cons_self) field
  | group op filters, h => by
      rw [compile]
      exact (failsAtFirst_compileAll filters h).map _

theorem failsAtFirst_compileAll : ∀ filters : List Filter,
    (∀ leaf ∈ leavesOf filters, leaf.2.WithinLimit) →
    FailsAtFirst ((leavesOf filters).map Prod.fst) (compileAll mode filters)
  | [], _ => FailsAtFirst.of_ok ⟨[], rfl⟩
  | f :: rest, h => by
      obtain ⟨hf, hrest⟩ := List.forall_mem_append.mp h
      rw [compileAll, leavesOf, List.map_append]
      exact (failsAtFirst_compile f hf).bind fun _ => (failsAtFirst_compileAll rest hrest).map _

end

end Filter

/-! ## Sort orders and windows -/

theorem SortOrder.failsAtFirst_keys (order : SortOrder) :
    FailsAtFirst (order.map SortField.name) (keys order) := by
  induction order with
  | nil => exact FailsAtFirst.of_ok ⟨[], rfl⟩
  | cons field rest ih =>
      rw [keys, List.map_cons, ← List.singleton_append]
      exact (FailsAtFirst.parse field.name).bind fun path => ih.map _

namespace Window

variable {options : MatchOptions}

theorem failsAtFirst_sorting {α : Type} (w : Window) (record : α → Json) :
    FailsAtFirst (w.sortOrder.map SortField.name) (w.sorting options record) := by
  unfold sorting
  split
  · next hempty =>
      rw [List.isEmpty_iff.mp hempty]
      exact FailsAtFirst.of_ok ⟨id, rfl⟩
  · exact ((SortOrder.failsAtFirst_keys w.sortOrder).map _).map _

/-- The test of a window fails as its filter does. -/
theorem predicate_eq_error_iff {w : Window} {e : QueryError} :
    w.predicate options = .error e ↔ ∃ f ∈ w.filter, f.compile options.mode = .error e := by
  unfold predicate
  cases w.filter with
  | none => simp
  | some f => simp

theorem exists_predicate_iff {w : Window} :
    (∃ test, w.predicate options = .ok test) ↔
      ∀ f ∈ w.filter, ∃ test, f.compile options.mode = .ok test := by
  unfold predicate
  cases w.filter with
  | none => simp
  | some f => simp

theorem failsAtFirst_selectFrom (record : Json) (fields : List String)
    (members : List (String × Json)) : FailsAtFirst fields (selectFrom record fields members) := by
  induction fields generalizing members with
  | nil => exact FailsAtFirst.of_ok ⟨members, rfl⟩
  | cons field rest ih =>
      rw [selectFrom, ← List.singleton_append]
      exact (FailsAtFirst.parse field).bind fun path => ih _

theorem failsAtFirst_select (w : Window) (record : Json) :
    FailsAtFirst w.fields (w.select record) := by
  unfold select
  split
  · next hempty =>
      rw [List.isEmpty_iff.mp hempty]
      exact FailsAtFirst.of_ok ⟨record, rfl⟩
  · exact (failsAtFirst_selectFrom record w.fields []).map _

/-- A page fails with the error of the filter, or else at the first malformed sort field. -/
theorem apply_eq_error_iff {α : Type} {w : Window} {record : α → Json} {items : List α}
    {e : QueryError} :
    w.apply options record items = .error e ↔
      (∃ f ∈ w.filter, f.compile options.mode = .error e)
      ∨ (∀ f ∈ w.filter, ∃ test, f.compile options.mode = .ok test)
        ∧ ∃ fault, FirstFault (w.sortOrder.map SortField.name) fault ∧ e = .invalidPath fault := by
  have hsort := (@failsAtFirst_sorting options α w record).error_iff e
  rw [apply, Except.bind_eq_error_iff, predicate_eq_error_iff, ← exists_predicate_iff, ← hsort]
  constructor
  · rintro (hfilter | ⟨test, htest, hrest⟩)
    · exact Or.inl hfilter
    · obtain herror | ⟨sort, -, hok⟩ := Except.bind_eq_error_iff.mp hrest
      · exact Or.inr ⟨⟨test, htest⟩, herror⟩
      · cases hok
  · rintro (hfilter | ⟨⟨test, htest⟩, herror⟩)
    · exact Or.inl hfilter
    · exact Or.inr ⟨test, htest, Except.bind_eq_error_iff.mpr (Or.inl herror)⟩

end Window

/-! ## Queries -/

/-- **Faults belong to the query.** A filter whose patterns are within the limit compiles exactly
when all its leaves have paths, wherever they stand, and fails at the leftmost leaf that has none.
A page fails with the error of its filter, or else at the first sort field that has no path, and a
projection fails at the first selected field that has none.  No record takes part in that, so what
fails for some records fails for all of them, with the same error. -/
theorem faults_of_query :
    (∀ (options : MatchOptions) (f : Filter), f.WithinLimit →
      FailsAtFirst f.fieldTexts (f.compile options.mode))
    ∧ (∀ (options : MatchOptions) (w : Window) (α : Type) (record : α → Json) (items : List α)
        (e : QueryError), w.apply options record items = .error e ↔
          (∃ f ∈ w.filter, f.compile options.mode = .error e)
          ∨ (∀ f ∈ w.filter, ∃ test, f.compile options.mode = .ok test)
            ∧ ∃ fault, FirstFault (w.sortOrder.map SortField.name) fault
              ∧ e = .invalidPath fault)
    ∧ ∀ (w : Window) (record : Json), FailsAtFirst w.fields (w.select record) :=
  ⟨fun _ f h => f.failsAtFirst_compile h, fun _ _ _ _ _ _ => Window.apply_eq_error_iff,
    Window.failsAtFirst_select⟩

/-- A filter with two malformed paths behind a test that every record passes. -/
def faultyFilter : Filter :=
  .group .or [.leaf "" (.null false), .leaf "" (.null true),
    .group .nand [.leaf "cast[*" (.string (some "Up")), .leaf "a..b" (.boolean true)]]

/-- A window of that filter whose sort order and selection hold malformed paths too. -/
def faultyWindow : Window :=
  { filter := some faultyFilter
    sortOrder := [⟨"x]", true⟩]
    fields := ["title", "cast[", "a..b"] }

/-- The leftmost malformed path of the filter is met for no records at all, although no record would
get there, and the selection fails at its second field. -/
theorem faults_of_query_faultyWindow :
    faultyWindow.apply ⟨true⟩ (id : Json → Json) []
        = .error (.invalidPath ⟨"cast[*", .openBracket⟩)
      ∧ faultyWindow.select (.object []) = .error (.invalidPath ⟨"cast[", .openBracket⟩) := by
  have hlimit : faultyFilter.WithinLimit := by decide
  have hempty : FieldPath.Spelled "" := ⟨⟨"", []⟩, rfl⟩
  have htitle : FieldPath.Spelled "title" := ⟨⟨"title", [.member "title"]⟩, rfl⟩
  have hleaf : FirstFault faultyFilter.fieldTexts ⟨"cast[*", .openBracket⟩ :=
    ⟨["", ""], "cast[*", ["a..b"], rfl, by simpa using hempty, rfl⟩
  have hfield : FirstFault faultyWindow.fields ⟨"cast[", .openBracket⟩ :=
    ⟨["title"], "cast[", ["a..b"], rfl, List.forall_mem_singleton.mpr htitle, rfl⟩
  constructor
  · apply (faults_of_query.2.1 ⟨true⟩ faultyWindow Json id [] _).mpr
    left
    exact ⟨faultyFilter, rfl,
      ((faults_of_query.1 ⟨true⟩ faultyFilter hlimit).error_iff _).mpr ⟨_, hleaf, rfl⟩⟩
  · exact ((faults_of_query.2.2 faultyWindow (.object [])).error_iff _).mpr ⟨_, hfield, rfl⟩

end RecordQuery
