import Mathlib.Data.List.Sort
import RecordQuery.Window.Basic

/-!
# RecordQuery.Proofs.Window.FieldSet — selected fields as a set

The sorted fields without repeats are the ascending list of the same members.  There is only one, so
they depend on the fields as a set.
-/

namespace RecordQuery.Window

/-- Texts in strictly ascending order. -/
def AscendingFields (fields : List String) : Prop :=
  fields.Pairwise fun f g => compare f g = .lt

theorem mem_insertField {field g : String} {fields : List String} :
    g ∈ insertField field fields ↔ g = field ∨ g ∈ fields := by
  induction fields with
  | nil => simp [insertField]
  | cons first rest ih =>
      rw [insertField]
      split
      · rw [List.mem_cons]
      · next heq =>
          have heq : field = first := Std.LawfulEqCmp.compare_eq_iff_eq.mp heq
          rw [heq]
          simp
      · rw [List.mem_cons, ih, List.mem_cons]
        exact or_left_comm

/-- The field set has the members of the fields. -/
theorem mem_fieldSet {g : String} {fields : List String} : g ∈ fieldSet fields ↔ g ∈ fields := by
  induction fields with
  | nil => rfl
  | cons field rest ih =>
      show g ∈ insertField field (fieldSet rest) ↔ _
      rw [mem_insertField, ih, List.mem_cons]

theorem AscendingFields.insertField {fields : List String} (h : AscendingFields fields)
    (field : String) : AscendingFields (insertField field fields) := by
  induction fields with
  | nil => exact List.pairwise_singleton _ _
  | cons first rest ih =>
      obtain ⟨hfirst, hrest⟩ := List.pairwise_cons.mp h
      rw [Window.insertField]
      split
      · next hlt =>
          refine List.pairwise_cons.mpr ⟨?_, h⟩
          intro g hg
          rcases List.mem_cons.mp hg with rfl | hg
          · exact hlt
          · exact Std.TransCmp.lt_trans hlt (hfirst g hg)
      · exact h
      · next hgt =>
          refine List.pairwise_cons.mpr ⟨?_, ih hrest⟩
          intro g hg
          rcases mem_insertField.mp hg with rfl | hg
          · exact Std.OrientedCmp.gt_iff_lt.mp hgt
          · exact hfirst g hg

/-- The field set ascends. -/
theorem ascendingFields_fieldSet (fields : List String) : AscendingFields (fieldSet fields) := by
  induction fields with
  | nil => exact List.Pairwise.nil
  | cons field rest ih => exact ih.insertField field

/-- Ascending fields are determined by their members. -/
theorem AscendingFields.eq_of_mem_iff {fields other : List String} (hfields : AscendingFields fields)
    (hother : AscendingFields other) (h : ∀ g, g ∈ fields ↔ g ∈ other) : fields = other := by
  have : Std.Irrefl fun f g : String => compare f g = .lt := ⟨by simp⟩
  have : Std.Antisymm fun f g : String => compare f g = .lt := by
    refine ⟨fun f g hfg hgf => ?_⟩
    rw [Std.OrientedCmp.gt_iff_lt.mpr hfg] at hgf
    cases hgf
  exact List.Pairwise.eq_of_mem_iff hfields hother h

/-- **Fields are a set.** Fields with the same members have the same field set. -/
theorem fieldSet_congr {fields other : List String} (h : ∀ g, g ∈ fields ↔ g ∈ other) :
    fieldSet fields = fieldSet other := by
  apply (ascendingFields_fieldSet fields).eq_of_mem_iff (ascendingFields_fieldSet other)
  intro g
  rw [mem_fieldSet, mem_fieldSet, h]

/-- Joined fields are seen through their field sets. -/
theorem fieldSet_append_congr {a a' b b' : List String} (ha : fieldSet a = fieldSet a')
    (hb : fieldSet b = fieldSet b') : fieldSet (a ++ b) = fieldSet (a' ++ b') := by
  apply fieldSet_congr
  intro g
  have hga : g ∈ a ↔ g ∈ a' := by rw [← mem_fieldSet, ha, mem_fieldSet]
  have hgb : g ∈ b ↔ g ∈ b' := by rw [← mem_fieldSet, hb, mem_fieldSet]
  rw [List.mem_append, List.mem_append, hga, hgb]

theorem fieldSet_fieldSet (fields : List String) : fieldSet (fieldSet fields) = fieldSet fields :=
  fieldSet_congr fun _ => mem_fieldSet

end RecordQuery.Window
