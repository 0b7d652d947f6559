import RecordQuery.Proofs.Path.Collecting
import RecordQuery.Proofs.Window.Projection

/-!
# RecordQuery.Proofs.Window.Reprojection — projecting a projection

A projection by chains of member names collects what the chains find, so projecting it once more
gives the same projection (`Window.select_select`).  This needs no care in the choice of the fields:
they may be repeated, go on from one another and cross arrays, so that later fields write over
earlier ones and the second projection reads other values than the first one did.
-/

namespace RecordQuery

/-- Putting a result in a projection is storing it in a place that holds the projection. -/
theorem Resolved.some_putAt (found : Resolved) (place : List String) (projection : Json) :
    some (found.putAt place projection) = found.putIn place (some projection) := by
  cases found <;> rfl

namespace Window

open FieldPath (SpellsChain chain collect inSlot)

/-- Fields that are chains of names are added by collecting what the chains find. -/
theorem foldl_addField {fields : List String} {places : List (List String)}
    (hplaces : [] ∉ places) (h : List.Forall₂ SpellsChain fields places)
    (record projection : Json) :
    some (fields.foldl (addField record) projection)
      = collect (inSlot (some record)) places (some projection) := by
  induction h generalizing projection with
  | nil => rfl
  | @cons field place fields places hfield _ ih =>
      obtain ⟨hne, hrest⟩ := not_or.mp (mt List.mem_cons.mpr hplaces)
      rw [List.foldl_cons, addField_of_spellsChain (Ne.symm hne) hfield, ih hrest,
        Resolved.some_putAt]
      rfl

/-- Every selected field is a chain of member names, at least one. -/
def SelectsNames (w : Window) : Prop :=
  ∀ field ∈ w.fields, ∃ path names, FieldPath.parse field = .ok path
    ∧ path.memberNames? = some names ∧ names ≠ []

theorem exists_places {fields : List String}
    (h : ∀ field ∈ fields, ∃ names, SpellsChain field names ∧ names ≠ []) :
    ∃ places, [] ∉ places ∧ List.Forall₂ SpellsChain fields places := by
  induction fields with
  | nil => exact ⟨[], List.not_mem_nil, .nil⟩
  | cons field rest ih =>
      obtain ⟨⟨names, hspells, hne⟩, hrest⟩ := List.forall_mem_cons.mp h
      obtain ⟨places, hplaces, hall⟩ := ih hrest
      refine ⟨names :: places, ?_, .cons hspells hall⟩
      rw [List.mem_cons, not_or]
      exact ⟨hne.symm, hplaces⟩

/-- A projection is what the chains of the fields collect, or else the empty object. -/
theorem SelectsNames.exists_select_eq {w : Window} (h : w.SelectsNames) (hne : w.fields ≠ []) :
    ∃ places, [] ∉ places ∧ ∀ record, w.select record
      = .ok ((collect (inSlot (some record)) places none).getD (.object [])) := by
  have hread : ∀ field ∈ w.fields, ∃ path, FieldPath.parse field = .ok path := by
    intro field hfield
    obtain ⟨path, -, hpath, -⟩ := h field hfield
    exact ⟨path, hpath⟩
  have hspells : ∀ field ∈ w.fields, ∃ names, SpellsChain field names ∧ names ≠ [] := by
    intro field hfield
    obtain ⟨path, names, hpath, hnames, hsome⟩ := h field hfield
    exact ⟨names, ⟨path, hpath, hnames⟩, hsome⟩
  obtain ⟨places, hplaces, hall⟩ := exists_places hspells
  refine ⟨places, hplaces, fun record => ?_⟩
  have hadded := foldl_addField hplaces hall record (.object [])
  rw [FieldPath.collect_from_empty _ hplaces] at hadded
  rw [select_eq_ok hne hread, Option.some.inj hadded]

/-- **Projection is idempotent.** Selecting by chains of member names, at least one in each, gives a
projection of every record, and this is its own projection. -/
theorem select_select {w : Window} (h : w.SelectsNames) (record : Json) :
    ∃ projection, w.select record = .ok projection ∧ w.select projection = .ok projection := by
  by_cases hne : w.fields = []
  · exact ⟨record, select_of_no_fields hne record, select_of_no_fields hne record⟩
  · obtain ⟨places, hplaces, hselect⟩ := h.exists_select_eq hne
    have hagain := FieldPath.collect_collect (some record) places
    refine ⟨_, hselect record, ?_⟩
    rw [hselect]
    cases hout : collect (inSlot (some record)) places none with
    | some projection =>
        rw [hout] at hagain
        rw [Option.getD_some, hagain, Option.getD_some]
    | none =>
        -- nothing was found, and in the empty object there is nothing to be found either
        have hmissing : ∀ place ∈ places, inSlot (some (.object [])) place = .missing := by
          intro place hplace
          obtain ⟨name, rest, rfl⟩ :=
            List.exists_cons_of_ne_nil (ne_of_mem_of_not_mem hplace hplaces)
          rfl
        rw [Option.getD_none, FieldPath.collect_of_missing hmissing, Option.getD_none]

/-- The roles of a cast, the cast and the names of the cast: each field writes over the ones before
it. -/
def overwritingWindow : Window :=
  { fields := ["cast.role", "cast", "cast.name"] }

/-- What `overwritingWindow` selects from `castRecord`. -/
def castOfNames : Json :=
  .object [("cast", .object [("name", .array [.string "Ford", .string "McGillis"])])]

/-- The roles are found in the record and not in its projection, where the cast is an object that
holds nothing but the list of the names. -/
theorem select_select_of_cast :
    overwritingWindow.SelectsNames
      ∧ ∃ projection, overwritingWindow.select castRecord = .ok projection
        ∧ projection = castOfNames
        ∧ overwritingWindow.select projection = .ok projection := by
  have hfields : overwritingWindow.SelectsNames := by
    have hrole : FieldPath.parse "cast.role"
        = .ok ⟨"cast.role", [.member "cast", .member "role"]⟩ := rfl
    have hcast : FieldPath.parse "cast" = .ok ⟨"cast", [.member "cast"]⟩ := rfl
    have hname : FieldPath.parse "cast.name"
        = .ok ⟨"cast.name", [.member "cast", .member "name"]⟩ := rfl
    intro field hfield
    have hcases : field = "cast.role" ∨ field = "cast" ∨ field = "cast.name" := by
      simpa [overwritingWindow] using hfield
    rcases hcases with rfl | rfl | rfl
    · exact ⟨_, _, hrole, rfl, List.cons_ne_nil _ _⟩
    · exact ⟨_, _, hcast, rfl, List.cons_ne_nil _ _⟩
    · exact ⟨_, _, hname, rfl, List.cons_ne_nil _ _⟩
  obtain ⟨projection, hselect, hagain⟩ := select_select hfields castRecord
  refine ⟨hfields, projection, hselect, ?_, hagain⟩
  have hfirst : overwritingWindow.select castRecord = .ok castOfNames := by cbv
  rw [hfirst] at hselect
  cases hselect
  rfl

end Window

end RecordQuery
