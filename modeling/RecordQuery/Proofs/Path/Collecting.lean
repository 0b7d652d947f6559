import Mathlib.Data.List.Induction
import RecordQuery.Proofs.Path.Insertion

/-!
# RecordQuery.Proofs.Path.Collecting — collecting what chains find, and collecting it again

What chains of member names find is stored under these same chains, one after the other.  A later
chain may write over what an earlier one stored, and an array that was crossed on the way comes back
as an object that holds a list.  So chains that look into what was collected find other things than
before.  Collecting these gives the same again nevertheless (`collect_collect`).

The empty chain stores the whole value and erases what was stored so far, so only the chains after
the last empty one count (`Settles.after_nil`).  These are apart by their first names: what is
collected under a name is collected there by the chains that begin with it (`lookup_collect`), and
without that name they are shorter.  So the law is an induction over the length of the chains, of
which `Settles.of_under` is the step.
-/

namespace RecordQuery

/-! ## Setting several members -/

namespace Json

/-- Sets a member under each of some names. -/
def setAll (value : String → Json) (names : List String) (ms : List (String × Json)) :
    List (String × Json) :=
  names.foldr (fun name => insert name (value name)) ms

section

variable {value value' : String → Json} {name : String} {names : List String}
  {ms : List (String × Json)}

theorem lookup_setAll (h : name ∈ names) :
    lookup name (setAll value names ms) = some (value name) := by
  induction names with
  | nil => cases h
  | cons first rest ih =>
      show lookup name (insert first (value first) (setAll value rest ms)) = _
      by_cases hname : name = first
      · rw [hname, lookup_insert_self]
      · rw [lookup_insert_of_ne _ _ hname, ih (List.mem_of_ne_of_mem hname h)]

/-- Setting one of the members again changes nothing. -/
theorem insert_setAll (h : name ∈ names) :
    insert name (value name) (setAll value names ms) = setAll value names ms := by
  induction names with
  | nil => cases h
  | cons first rest ih =>
      show insert name (value name) (insert first (value first) (setAll value rest ms)) = _
      by_cases hname : name = first
      · rw [hname, insert_insert]
        rfl
      · rw [insert_comm hname, ih (List.mem_of_ne_of_mem hname h)]
        rfl

/-- The earlier value of a member that is set last does not count. -/
theorem insert_setAll_congr (h : ∀ other, other ≠ name → value other = value' other) (v : Json) :
    insert name v (setAll value names ms) = insert name v (setAll value' names ms) := by
  induction names with
  | nil => rfl
  | cons first rest ih =>
      show insert name v (insert first (value first) (setAll value rest ms))
        = insert name v (insert first (value' first) (setAll value' rest ms))
      by_cases hname : name = first
      · rw [hname, insert_insert, insert_insert, ← hname]
        exact ih
      · rw [insert_comm hname, insert_comm hname, ih, h first (Ne.symm hname)]

/-- Setting one more member. -/
theorem exists_setAll_cons (value : String → Json) (name : String) (v : Json)
    (names : List String) (ms : List (String × Json)) :
    ∃ value', insert name v (setAll value names ms) = setAll value' (name :: names) ms := by
  refine ⟨Function.update value name v, ?_⟩
  show _ = insert name (Function.update value name v name)
    (setAll (Function.update value name v) names ms)
  rw [Function.update_self]
  refine insert_setAll_congr (fun other hother => ?_) v
  rw [Function.update_of_ne hother]

theorem ascending_setAll (h : Ascending ms) : Ascending (setAll value names ms) := by
  induction names with
  | nil => exact h
  | cons first rest ih => exact ascending_insert first (value first) ih

/-- Members that are set again, to what is found under them anyway, stay as they are. -/
theorem setAll_setAll {names' : List String} (hnames : names' ⊆ names)
    (h : ∀ name, lookup name (setAll value' names' (setAll value names ms))
      = lookup name (setAll value names ms)) :
    setAll value' names' (setAll value names ms) = setAll value names ms := by
  have hvalue : ∀ name ∈ names', value' name = value name := by
    intro name hname
    have hlookup := h name
    rw [lookup_setAll hname, lookup_setAll (hnames hname)] at hlookup
    exact Option.some.inj hlookup
  clear h
  induction names' with
  | nil => rfl
  | cons first rest ih =>
      obtain ⟨hfirst, hrest⟩ := List.cons_subset.mp hnames
      obtain ⟨heq, hall⟩ := List.forall_mem_cons.mp hvalue
      show insert first (value' first) (setAll value' rest (setAll value names ms)) = _
      rw [ih hrest hall, heq, insert_setAll hfirst]

end

end Json

/-! ## Collecting -/

/-- Stores a copy of a result under a chain of names, in what stands in a place that may be empty;
nothing leaves the place as it is. -/
def Resolved.putIn (names : List String) (slot : Option Json) : Resolved → Option Json
  | missing => slot
  | found => some (Json.setAt found.toValue names slot)

namespace FieldPath

open Json (lookup membersIn)

/-- What a chain of names finds in a place that may be empty. -/
def inSlot (slot : Option Json) (names : List String) : Resolved :=
  slot.elim .missing (chain names)

/-- Stores what chains find under these same chains, one after the other. -/
def collect (find : List String → Resolved) (places : List (List String)) (slot : Option Json) :
    Option Json :=
  places.foldl (fun slot place => (find place).putIn place slot) slot

/-- What is left of a chain after its first name, if that is the given one. -/
def afterName (name : String) : List String → Option (List String)
  | [] => none
  | first :: rest => if first = name then some rest else none

/-- What is left of the chains that begin with a name. -/
def under (name : String) (places : List (List String)) : List (List String) :=
  places.filterMap (afterName name)

theorem mem_under {name : String} {places : List (List String)} {rest : List String} :
    rest ∈ under name places ↔ name :: rest ∈ places := by
  have hafter : ∀ place, afterName name place = some rest ↔ place = name :: rest := by
    intro place
    cases place with
    | nil => simp [afterName]
    | cons first later => simp [afterName]
  simp [under, hafter]

section

variable {find : List String → Resolved} {places : List (List String)} {slot : Option Json}

theorem collect_cons (place : List String) :
    collect find (place :: places) slot
      = collect find places ((find place).putIn place slot) := rfl

theorem collect_append (later : List (List String)) :
    collect find (places ++ later) slot = collect find later (collect find places slot) :=
  List.foldl_append

theorem collect_concat (place : List String) :
    collect find (places ++ [place]) slot = (find place).putIn place (collect find places slot) :=
  collect_append [place]

theorem collect_of_missing (h : ∀ place ∈ places, find place = .missing) :
    collect find places slot = slot := by
  induction places with
  | nil => rfl
  | cons place rest ih =>
      obtain ⟨hplace, hrest⟩ := List.forall_mem_cons.mp h
      rw [collect_cons, hplace]
      exact ih hrest

theorem putIn_ne_none {found : Resolved} (names : List String)
    (h : found ≠ .missing ∨ slot ≠ none) : found.putIn names slot ≠ none := by
  cases found with
  | missing => exact h.resolve_left fun hne => hne rfl
  | value v => exact Option.some_ne_none _
  | many items => exact Option.some_ne_none _

theorem collect_ne_none (h : (∃ place ∈ places, find place ≠ .missing) ∨ slot ≠ none) :
    collect find places slot ≠ none := by
  induction places generalizing slot with
  | nil =>
      rcases h with ⟨place, hplace, -⟩ | h
      · cases hplace
      · exact h
  | cons place rest ih =>
      apply ih
      rcases h with ⟨other, hother, hfound⟩ | h
      · rcases List.mem_cons.mp hother with rfl | hother
        · exact Or.inr (putIn_ne_none _ (Or.inl hfound))
        · exact Or.inl ⟨other, hother, hfound⟩
      · exact Or.inr (putIn_ne_none _ (Or.inr h))

end

/-! ## Collecting under one name -/

section

variable {find : List String → Resolved} {places : List (List String)} {slot : Option Json}

theorem exists_cons_of_nil_notMem_concat {place : List String}
    (h : [] ∉ places ++ [place]) : [] ∉ places ∧ ∃ first rest, place = first :: rest := by
  refine ⟨fun hmem => h (List.mem_append_left _ hmem), List.exists_cons_of_ne_nil ?_⟩
  rintro rfl
  exact h List.mem_concat_self

/-- Storing a result under a chain sets the member that begins it. -/
theorem membersIn_putIn {found : Resolved} (h : found ≠ .missing) (name : String)
    (rest : List String) :
    membersIn (found.putIn (name :: rest) slot)
      = Json.insert name
          (Json.setAt found.toValue rest (lookup name (membersIn slot)))
          (membersIn slot) := by
  cases found with
  | missing => exact absurd rfl h
  | value v => rfl
  | many items => rfl

theorem lookup_putIn_self (found : Resolved) (name : String) (rest : List String) :
    lookup name (membersIn (found.putIn (name :: rest) slot))
      = found.putIn rest (lookup name (membersIn slot)) := by
  cases found with
  | missing => rfl
  | value v => exact Json.lookup_insert_self name _ _
  | many items => exact Json.lookup_insert_self name _ _

theorem lookup_putIn_of_ne (found : Resolved) {name first : String} (rest : List String)
    (h : name ≠ first) :
    lookup name (membersIn (found.putIn (first :: rest) slot))
      = lookup name (membersIn slot) := by
  cases found with
  | missing => rfl
  | value v => exact Json.lookup_insert_of_ne _ _ h
  | many items => exact Json.lookup_insert_of_ne _ _ h

/-- **Names are apart.** What is collected under a name is collected there by the chains that begin
with this name. -/
theorem lookup_collect (hplaces : [] ∉ places) (name : String) :
    lookup name (membersIn (collect find places slot))
      = collect (fun rest => find (name :: rest)) (under name places)
          (lookup name (membersIn slot)) := by
  induction places generalizing slot with
  | nil => rfl
  | cons place later ih =>
      obtain ⟨hplace, hlater⟩ := not_or.mp (mt List.mem_cons.mpr hplaces)
      obtain ⟨first, rest, rfl⟩ := List.exists_cons_of_ne_nil (Ne.symm hplace)
      rw [collect_cons, ih hlater]
      by_cases hname : first = name
      · have hunder : under name ((first :: rest) :: later) = rest :: under name later := by
          simp [under, afterName, hname]
        rw [hunder, collect_cons, hname, lookup_putIn_self]
      · have hunder : under name ((first :: rest) :: later) = under name later := by
          simp [under, afterName, hname]
        rw [hunder, lookup_putIn_of_ne _ _ (Ne.symm hname)]

/-- A chain that begins with the name finds something. -/
def Finds (find : List String → Resolved) (places : List (List String)) (name : String) : Prop :=
  ∃ rest, name :: rest ∈ places ∧ find (name :: rest) ≠ .missing

theorem finds_concat {name first : String} {rest : List String} :
    Finds find (places ++ [first :: rest]) name
      ↔ Finds find places name ∨ first = name ∧ find (first :: rest) ≠ .missing := by
  constructor
  · rintro ⟨later, hmem, hfound⟩
    rcases List.mem_append.mp hmem with hmem | hmem
    · exact Or.inl ⟨later, hmem, hfound⟩
    · have heq := List.mem_singleton.mp hmem
      rw [heq] at hfound
      exact Or.inr ⟨(List.cons.inj heq).1.symm, hfound⟩
  · rintro (⟨later, hmem, hfound⟩ | ⟨rfl, hfound⟩)
    · exact ⟨later, List.mem_append_left _ hmem, hfound⟩
    · exact ⟨rest, List.mem_concat_self, hfound⟩

/-- Nothing is collected under a name with which no chain that finds something begins. -/
theorem lookup_collect_of_not_finds (slot : Option Json) (hplaces : [] ∉ places) {name : String}
    (h : ¬ Finds find places name) :
    lookup name (membersIn (collect find places slot))
      = lookup name (membersIn slot) := by
  rw [lookup_collect hplaces]
  apply collect_of_missing
  intro rest hrest
  by_contra hfound
  exact h ⟨rest, mem_under.mp hrest, hfound⟩

/-- Collecting sets the members with which chains begin that find something, and no others. -/
theorem exists_membersIn_collect (find : List String → Resolved) (slot : Option Json)
    (hplaces : [] ∉ places) :
    ∃ value names, (∀ name, name ∈ names ↔ Finds find places name)
      ∧ membersIn (collect find places slot)
        = Json.setAll value names (membersIn slot) := by
  induction places using List.reverseRecOn with
  | nil => exact ⟨fun _ => .null, [], by simp [Finds], rfl⟩
  | append_singleton earlier place ih =>
      obtain ⟨hearlier, first, rest, rfl⟩ := exists_cons_of_nil_notMem_concat hplaces
      obtain ⟨value, names, hnames, hmembers⟩ := ih hearlier
      rw [collect_concat]
      by_cases hfound : find (first :: rest) = .missing
      · refine ⟨value, names, ?_, ?_⟩
        · intro name
          rw [finds_concat, hnames]
          simp [hfound]
        · rw [hfound]
          exact hmembers
      · rw [membersIn_putIn hfound, hmembers]
        obtain ⟨value', hvalue'⟩ := Json.exists_setAll_cons value first _ names _
        refine ⟨value', first :: names, ?_, hvalue'⟩
        intro name
        rw [finds_concat, List.mem_cons, hnames, or_comm, eq_comm (a := name)]
        simp [hfound]

/-- The empty object is as good a start as nothing, but for chains that find nothing at all. -/
theorem collect_from_empty (find : List String → Resolved) (hplaces : [] ∉ places) :
    collect find places (some (.object []))
      = some ((collect find places none).getD (.object [])) := by
  induction places using List.reverseRecOn with
  | nil => rfl
  | append_singleton earlier place ih =>
      obtain ⟨hearlier, first, rest, rfl⟩ := exists_cons_of_nil_notMem_concat hplaces
      rw [collect_concat, collect_concat, ih hearlier]
      -- what is stored depends on the members only, of which both starts have none
      cases collect find earlier none <;> cases find (first :: rest) <;> rfl

/-- Chains that are not empty are collected in an object. -/
theorem exists_collect_eq_object (slot : Option Json) (hplaces : [] ∉ places)
    (h : (∃ name, Finds find places name) ∨ ∃ ms, slot = some (.object ms)) :
    ∃ ms, collect find places slot = some (.object ms) := by
  induction places using List.reverseRecOn with
  | nil =>
      rcases h with ⟨name, rest, hmem, -⟩ | h
      · cases hmem
      · exact h
  | append_singleton earlier place ih =>
      obtain ⟨hearlier, first, rest, rfl⟩ := exists_cons_of_nil_notMem_concat hplaces
      rw [collect_concat]
      cases hresult : find (first :: rest) with
      | value v => exact ⟨_, rfl⟩
      | many items => exact ⟨_, rfl⟩
      | missing =>
          apply ih hearlier
          refine h.imp_left ?_
          rintro ⟨name, hname⟩
          refine ⟨name, (finds_concat.mp hname).resolve_right ?_⟩
          rintro ⟨-, hfound⟩
          exact hfound hresult

end

/-! ## Where chains look -/

/-- Where chains look: inside one place, or at the items of an array that was crossed before, where
they always find a list. -/
inductive Legible : (List String → Resolved) → Prop where
  | inSlot (slot : Option Json) : Legible (inSlot slot)
  | atItems {find : List String → Resolved} (h : ∀ names, ∃ items, find names = .many items) :
    Legible find

/-- Collecting starts from nothing, or from all there is to be found. -/
def Starts (find : List String → Resolved) (slot : Option Json) : Prop :=
  slot = none ∨ slot = (find []).putIn [] none

theorem inSlot_object (ms : List (String × Json)) (name : String) :
    (fun rest => inSlot (some (.object ms)) (name :: rest)) = inSlot (lookup name ms) := by
  funext rest
  exact chain_cons_object name rest ms

section

variable {find : List String → Resolved} {slot : Option Json}

theorem Legible.afterName (h : Legible find) (name : String) :
    Legible fun rest => find (name :: rest) := by
  cases h with
  | atItems h => exact .atItems fun rest => h (name :: rest)
  | inSlot place =>
      cases place with
      | none => exact .inSlot none
      | some v =>
          cases v with
          | object ms =>
              rw [inSlot_object]
              exact .inSlot _
          | array items => exact .atItems fun rest => ⟨_, rfl⟩
          | _ => exact .inSlot none

theorem Starts.afterName (hfind : Legible find) (h : Starts find slot) (name : String) :
    Starts (fun rest => find (name :: rest)) (lookup name (membersIn slot)) := by
  rcases h with rfl | rfl
  · exact Or.inl rfl
  · cases hfind with
    | atItems h =>
        obtain ⟨items, hitems⟩ := h []
        rw [hitems]
        exact Or.inl rfl
    | inSlot place =>
        cases place with
        | none => exact Or.inl rfl
        | some v =>
            cases v with
            | object ms =>
                right
                show lookup name ms = Resolved.putIn [] none (inSlot (some (.object ms)) [name])
                rw [congrFun (inSlot_object ms name) []]
                cases lookup name ms <;> rfl
            | _ => exact Or.inl rfl

/-- The start holds no more than there is to be found. -/
theorem Starts.inSlot_eq_missing (hfind : Legible find) (h : Starts find slot)
    {names : List String} (hmissing : find names = .missing) : inSlot slot names = .missing := by
  rcases h with rfl | rfl
  · rfl
  · cases hfind with
    | atItems h =>
        obtain ⟨items, hitems⟩ := h names
        rw [hitems] at hmissing
        cases hmissing
    | inSlot place =>
        cases place with
        | none => rfl
        | some v => exact hmissing

/-- Where there is nothing, no chain finds anything. -/
theorem Legible.eq_missing (h : Legible find) (hroot : find [] = .missing) (names : List String) :
    find names = .missing := by
  cases h with
  | atItems h =>
      obtain ⟨items, hitems⟩ := h []
      rw [hitems] at hroot
      cases hroot
  | inSlot place =>
      cases place with
      | none => rfl
      | some v => cases hroot

end

/-! ## Collecting again -/

/-- Chains collect from `slot` on, and once more in what they collected, this time on top of it or
again from nothing. -/
structure Repeats (find : List String → Resolved) (places : List (List String))
    (slot again : Option Json) : Prop where
  legible : Legible find
  starts : Starts find slot
  resumes : again = collect find places slot ∨ again = none ∧ slot = none

/-- Chains collect the same again. -/
def Settles (places : List (List String)) : Prop :=
  ∀ find slot again, Repeats find places slot again →
    collect (inSlot (collect find places slot)) places again = collect find places slot

section

variable {find : List String → Resolved} {places : List (List String)} {slot again : Option Json}
  {ms ms' : List (String × Json)}

/-- The chains that go on from a name repeat, too. -/
theorem Repeats.afterName (h : Repeats find places slot again) (hplaces : [] ∉ places)
    (name : String) :
    Repeats (fun rest => find (name :: rest)) (under name places)
      (lookup name (membersIn slot)) (lookup name (membersIn again)) where
  legible := h.legible.afterName name
  starts := h.starts.afterName h.legible name
  resumes := by
    rcases h.resumes with heq | ⟨rfl, rfl⟩
    · left
      rw [heq, lookup_collect hplaces]
    · exact Or.inr ⟨rfl, rfl⟩

/-- Chains that find nothing find nothing again. -/
theorem Repeats.collect_eq_of_missing (h : Repeats find places slot again)
    (hmissing : ∀ place ∈ places, find place = .missing) :
    collect (inSlot (collect find places slot)) places again = collect find places slot := by
  have hnone : ∀ place ∈ places, inSlot slot place = .missing :=
    fun place hplace => h.starts.inSlot_eq_missing h.legible (hmissing place hplace)
  have hout : collect find places slot = slot := collect_of_missing hmissing
  rw [hout, collect_of_missing hnone]
  rcases h.resumes with heq | ⟨rfl, rfl⟩
  · rw [heq, hout]
  · rfl

/-- No chain finds something in what was collected that did not find something before. -/
theorem Repeats.finds_of_again (h : Repeats find places slot again) (hplaces : [] ∉ places)
    (hms : collect find places slot = some (.object ms)) {name : String}
    (hagain : Finds (inSlot (some (.object ms))) places name) : Finds find places name := by
  by_contra hnone
  obtain ⟨rest, hmem, hfound⟩ := hagain
  have hmissing : find (name :: rest) = .missing := by
    by_contra hne
    exact hnone ⟨rest, hmem, hne⟩
  have hlookup : lookup name ms = lookup name (membersIn slot) := by
    have hsame := lookup_collect_of_not_finds slot hplaces hnone
    rwa [hms] at hsame
  have hunder := h.afterName hplaces name
  apply hfound
  rw [congrFun (inSlot_object ms name) rest, hlookup]
  exact hunder.starts.inSlot_eq_missing hunder.legible hmissing

/-- What is collected from nothing has its members in order. -/
theorem ascending_collect (hplaces : [] ∉ places)
    (hms : collect find places none = some (.object ms)) : Json.Ascending ms := by
  obtain ⟨value, names, -, hmembers⟩ := exists_membersIn_collect find none hplaces
  rw [hms] at hmembers
  have hset : ms = Json.setAll value names [] := hmembers
  rw [hset]
  exact Json.ascending_setAll List.Pairwise.nil

/-- Collecting again changes nothing if it changes no member. -/
theorem Repeats.eq_of_lookup_eq (h : Repeats find places slot again) (hplaces : [] ∉ places)
    (hms : collect find places slot = some (.object ms))
    (hms' : collect (inSlot (some (.object ms))) places again = some (.object ms'))
    (hlookup : ∀ name, lookup name ms' = lookup name ms) : ms' = ms := by
  rcases h.resumes with heq | ⟨rfl, rfl⟩
  · obtain ⟨value, names, hnames, hmembers⟩ := exists_membersIn_collect find slot hplaces
    obtain ⟨value', names', hnames', hmembers'⟩ :=
      exists_membersIn_collect (inSlot (some (.object ms))) again hplaces
    have hsubset : names' ⊆ names := by
      intro name hname
      exact (hnames name).mpr (h.finds_of_again hplaces hms ((hnames' name).mp hname))
    rw [hms] at hmembers heq
    rw [hms', heq] at hmembers'
    have hset : ms = Json.setAll value names (membersIn slot) := hmembers
    have hset' : ms' = Json.setAll value' names' ms := hmembers'
    rw [hset', hset] at hlookup
    rw [hset', hset]
    exact Json.setAll_setAll hsubset hlookup
  · exact Json.eq_of_lookup_eq (ascending_collect hplaces hms') (ascending_collect hplaces hms)
      hlookup

theorem lookup_of_collect_eq (hplaces : [] ∉ places)
    (hms : collect find places slot = some (.object ms)) (name : String) :
    lookup name ms = collect (fun rest => find (name :: rest)) (under name places)
      (lookup name (membersIn slot)) := by
  rw [← lookup_collect hplaces, hms]
  rfl

/-- If the chains that go on from each name settle, no member changes. -/
theorem Repeats.lookup_again (h : Repeats find places slot again) (hplaces : [] ∉ places)
    (hms : collect find places slot = some (.object ms))
    (hsettles : ∀ name, Settles (under name places)) (name : String) :
    lookup name (membersIn (collect (inSlot (some (.object ms))) places again))
      = lookup name ms := by
  rw [lookup_collect hplaces, inSlot_object, lookup_of_collect_eq hplaces hms]
  exact hsettles name _ _ _ (h.afterName hplaces name)

/-- If no member changes, what was an object is an object again. -/
theorem Repeats.exists_again_eq_object (h : Repeats find places slot again) (hplaces : [] ∉ places)
    (hms : collect find places slot = some (.object ms)) (hfound : ∃ name, Finds find places name)
    (hlookup : ∀ name, lookup name (membersIn (collect (inSlot (some (.object ms))) places again))
      = lookup name ms) :
    ∃ ms', collect (inSlot (some (.object ms))) places again = some (.object ms') := by
  apply exists_collect_eq_object again hplaces
  rcases h.resumes with heq | ⟨rfl, rfl⟩
  · exact Or.inr ⟨ms, heq.trans hms⟩
  · -- a member that was collected from nothing is collected again, so some chain finds it
    left
    by_contra hnone
    obtain ⟨name, rest, hmem, hne⟩ := hfound
    have hname := hlookup name
    rw [lookup_collect_of_not_finds none hplaces fun hfinds => hnone ⟨name, hfinds⟩,
      lookup_of_collect_eq hplaces hms] at hname
    exact collect_ne_none (Or.inl ⟨rest, mem_under.mpr hmem, hne⟩) hname.symm

/-- Chains that are not empty settle if those that go on from each name do. -/
theorem Settles.of_under (hplaces : [] ∉ places)
    (hsettles : ∀ name, Settles (under name places)) : Settles places := by
  intro find slot again h
  by_cases hfound : ∃ name, Finds find places name
  · obtain ⟨ms, hms⟩ := exists_collect_eq_object slot hplaces (Or.inl hfound)
    have hlookup := h.lookup_again hplaces hms hsettles
    obtain ⟨ms', hms'⟩ := h.exists_again_eq_object hplaces hms hfound hlookup
    rw [hms'] at hlookup
    rw [hms, hms', h.eq_of_lookup_eq hplaces hms hms' hlookup]
  · apply h.collect_eq_of_missing
    intro place hplace
    obtain ⟨name, rest, rfl⟩ := List.exists_cons_of_ne_nil (ne_of_mem_of_not_mem hplace hplaces)
    by_contra hne
    exact hfound ⟨name, rest, hplace, hne⟩

/-- Only the chains after the last empty one count. -/
theorem Settles.after_nil (hsettles : Settles places) (earlier : List (List String)) :
    Settles (earlier ++ [] :: places) := by
  have herase : ∀ (find : List String → Resolved) (slot : Option Json), find [] ≠ .missing →
      collect find (earlier ++ [] :: places) slot
        = collect find places ((find []).putIn [] none) := by
    intro find slot hroot
    rw [collect_append, collect_cons]
    cases hresult : find [] with
    | missing => exact absurd hresult hroot
    | value v => rfl
    | many items => rfl
  intro find slot again h
  by_cases hroot : find [] = .missing
  · exact h.collect_eq_of_missing fun place _ => h.legible.eq_missing hroot place
  · have hstart : (find []).putIn [] none ≠ none := putIn_ne_none [] (Or.inl hroot)
    have hout : collect find places ((find []).putIn [] none) ≠ none :=
      collect_ne_none (Or.inr hstart)
    obtain ⟨v, hv⟩ := Option.ne_none_iff_exists'.mp hout
    have hlater := hsettles find _ _ ⟨h.legible, Or.inr rfl, Or.inl rfl⟩
    rw [hv] at hlater
    rw [herase find slot hroot, hv, herase (inSlot (some v)) again nofun]
    exact hlater

end

/-- A list that holds something has a last place of it. -/
theorem exists_last_of_mem {α : Type} {a : α} {l : List α} (h : a ∈ l) :
    ∃ earlier later, l = earlier ++ a :: later ∧ a ∉ later := by
  obtain ⟨later, earlier, hl, hlater⟩ := List.eq_append_cons_of_mem (List.mem_reverse.mpr h)
  refine ⟨earlier.reverse, later.reverse, ?_, mt List.mem_reverse.mp hlater⟩
  rw [← List.reverse_reverse l, hl, List.reverse_append, List.reverse_cons, List.append_assoc]
  rfl

theorem settles_of_length_lt (bound : Nat) (places : List (List String))
    (h : ∀ place ∈ places, place.length < bound) : Settles places := by
  induction bound generalizing places with
  | zero =>
      intro find slot again hrepeats
      exact hrepeats.collect_eq_of_missing fun place hplace => absurd (h place hplace) (by simp)
  | succ bound ih =>
      -- the chains that go on from a name are shorter by this name
      have hnonempty : ∀ places : List (List String), [] ∉ places →
          (∀ place ∈ places, place.length < bound + 1) → Settles places := by
        intro places hplaces h
        refine Settles.of_under hplaces fun name => ih _ fun rest hrest => ?_
        exact Nat.lt_of_succ_lt_succ (h _ (mem_under.mp hrest))
      by_cases hnil : [] ∈ places
      · obtain ⟨earlier, later, rfl, hlater⟩ := exists_last_of_mem hnil
        apply Settles.after_nil
        refine hnonempty later hlater fun place hplace => h place ?_
        exact List.mem_append_right _ (List.mem_cons_of_mem _ hplace)
      · exact hnonempty places hnil h

/-- **Collecting again.** Whatever some chains collect from a value, they collect the same from what
they collected. -/
theorem collect_collect (record : Option Json) (places : List (List String)) :
    collect (inSlot (collect (inSlot record) places none)) places none
      = collect (inSlot record) places none := by
  have hlength : ∀ place ∈ places, place.length < places.flatten.length + 1 :=
    fun place hplace => Nat.lt_succ_of_le (List.sublist_flatten_of_mem hplace).length_le
  apply settles_of_length_lt _ places hlength
  exact ⟨.inSlot record, Or.inl rfl, Or.inr ⟨rfl, rfl⟩⟩

end FieldPath

end RecordQuery
