import RecordQuery.Proofs.Filter.Regrouping
import RecordQuery.Proofs.Sort.FirstFields
import RecordQuery.Proofs.Window.FieldSet

/-!
# RecordQuery.Proofs.Window.NormalForm — the normal form of a window

Optimizing a window takes away what is said twice and nothing else.  `Window.IsNormalFormOf` says
part by part what is left; a window has one normal form, and optimizing finds it.  Windows whose
filters differ only by how conjunctions are grouped have the same one.
-/

namespace RecordQuery.Window

/-- A window asks for the same as another one, without conjunctions in conjunctions, repeated sort
names and repeated fields. -/
structure IsNormalFormOf (n w : Window) : Prop where
  limit : n.limit = w.limit
  offset : n.offset = w.offset
  flat : ∀ f ∈ n.filter, f.IsFlat
  regroups : Option.Rel Filter.Regroups n.filter w.filter
  leaves : n.filter.map Filter.leaves = w.filter.map Filter.leaves
  landmarks : n.filter.map Filter.landmarks = w.filter.map Filter.landmarks
  sortOrder : n.sortOrder = w.sortOrder.firstOccurrences
  ascending : AscendingFields n.fields
  members : ∀ field, field ∈ n.fields ↔ field ∈ w.fields

theorem filter_optimize (w : Window) : w.optimize.filter = w.filter.map Filter.flatten := rfl

/-- Optimizing finds a normal form. -/
theorem optimize_isNormalFormOf (w : Window) : w.optimize.IsNormalFormOf w where
  limit := rfl
  offset := rfl
  flat f hf := by
    obtain ⟨g, -, rfl⟩ := Option.map_eq_some_iff.mp hf
    exact g.isFlat_flatten
  regroups := by
    rw [filter_optimize]
    cases w.filter with
    | none => exact .none
    | some f => exact .some (Filter.regroups_iff.mpr f.flatten_flatten)
  leaves := by
    rw [filter_optimize, Option.map_map]
    exact Option.map_congr fun f _ => f.leaves_flatten
  landmarks := by
    rw [filter_optimize, Option.map_map]
    exact Option.map_congr fun f _ => f.landmarks_flatten
  sortOrder := SortOrder.firstOfEachName_eq w.sortOrder
  ascending := ascendingFields_fieldSet w.fields
  members _ := mem_fieldSet

/-- A flat filter that regroups another one is that one flattened. -/
theorem map_flatten_of_regroups {f g : Option Filter} (hflat : ∀ h ∈ f, h.IsFlat)
    (hregroups : Option.Rel Filter.Regroups f g) : f = g.map Filter.flatten := by
  cases hregroups with
  | none => rfl
  | some hfg => rw [Option.map_some, ← Filter.regroups_iff.mp hfg, (hflat _ rfl).flatten_eq]

/-- There is no other normal form. -/
theorem IsNormalFormOf.eq_optimize {n w : Window} (h : n.IsNormalFormOf w) : n = w.optimize := by
  have hnormal := w.optimize_isNormalFormOf
  have hfilter : n.filter = w.optimize.filter := map_flatten_of_regroups h.flat h.regroups
  have hfields : n.fields = w.optimize.fields :=
    h.ascending.eq_of_mem_iff hnormal.ascending fun g =>
      (h.members g).trans (hnormal.members g).symm
  have hsortOrder : n.sortOrder = w.optimize.sortOrder := h.sortOrder.trans hnormal.sortOrder.symm
  cases n
  cases h.limit
  cases h.offset
  cases hfilter
  cases hfields
  cases hsortOrder
  rfl

theorem optimize_optimize (w : Window) : w.optimize.optimize = w.optimize := by
  show Window.mk _ _ ((w.filter.map Filter.flatten).map Filter.flatten)
    (SortOrder.firstOfEachName (SortOrder.firstOfEachName w.sortOrder))
    (fieldSet (fieldSet w.fields)) = _
  rw [Option.map_map, SortOrder.firstOfEachName_firstOfEachName, fieldSet_fieldSet]
  congr 1
  exact Option.map_congr fun f _ => f.flatten_flatten

/-- **Normal forms.** A window has exactly one normal form, which optimizing finds and leaves as it
is, and two filters lead to one normal form exactly when they differ only by how conjunctions are
grouped. -/
theorem optimize_normalizes (w : Window) :
    (∀ n : Window, n.IsNormalFormOf w ↔ n = w.optimize) ∧ w.optimize.optimize = w.optimize
      ∧ ∀ f g : Filter, f.Regroups g ↔
          { w with filter := some f }.optimize = { w with filter := some g }.optimize := by
  refine ⟨fun n => ⟨fun h => h.eq_optimize, fun h => h ▸ w.optimize_isNormalFormOf⟩,
    w.optimize_optimize, fun f g => ?_⟩
  rw [Filter.regroups_iff]
  constructor
  · intro h
    show Window.mk _ _ (some f.flatten) _ _ = Window.mk _ _ (some g.flatten) _ _
    rw [h]
  · intro h
    exact Option.some.inj (congrArg Window.filter h)

end RecordQuery.Window
