import RecordQuery.Proofs.Filter.NormalForm
import RecordQuery.Proofs.Sort.FirstFields
import RecordQuery.Proofs.Window.Bounds
import RecordQuery.Proofs.Window.FieldSet

/-!
# RecordQuery.Proofs.Window.Merging — merging in any grouping

Several windows can be merged in many groupings, and what is merged in between can be optimized.
After a last optimization none of this shows: `MergePlan.run_optimize_eq`.

The members of a window do not agree before that.  Filters nest differently, orders and fields
repeat names, and a limit forgets how far the end lies before the start.  What all groupings agree
on is `Window.Merges`: the start, the end clamped at the start, and the normal forms of the other
members.  A limit is then determined as soon as something was merged; the limit of a single window
may be too long for its offset, and the first merge cuts it.
-/

namespace RecordQuery

namespace Window

/-! ## Starts and ends of several windows -/

/-- The latest start. -/
def lastStart (ws : List Window) : UInt64 :=
  ws.foldr (fun w start => laterStart w.min start) 0

/-- The earliest end. -/
def firstEnd (ws : List Window) : Option UInt64 :=
  ws.foldr (fun w stop => earlierEnd w.max stop) none

theorem lastStart_append (ws vs : List Window) :
    lastStart (ws ++ vs) = laterStart (lastStart ws) (lastStart vs) := by
  induction ws with
  | nil => exact (zero_laterStart _).symm
  | cons w ws ih =>
      show laterStart w.min (lastStart (ws ++ vs)) = _
      rw [ih, ← laterStart_assoc]
      rfl

theorem firstEnd_append (ws vs : List Window) :
    firstEnd (ws ++ vs) = earlierEnd (firstEnd ws) (firstEnd vs) := by
  induction ws with
  | nil => rfl
  | cons w ws ih =>
      show earlierEnd w.max (firstEnd (ws ++ vs)) = _
      rw [ih, ← earlierEnd_assoc]
      rfl

/-! ## What all groupings agree on -/

/-- A window made from the given ones, up to what normal forms do not show. -/
structure Merges (ws : List Window) (w : Window) : Prop where
  start : w.min = lastStart ws
  stop : w.max = (firstEnd ws).map (laterStart (lastStart ws))
  filter : w.filter.map Filter.flatten
    = (Filter.conjoin (ws.filterMap Window.filter)).map Filter.flatten
  sortOrder : SortOrder.firstOfEachName w.sortOrder
    = SortOrder.firstOfEachName (ws.flatMap Window.sortOrder)
  fields : fieldSet w.fields = fieldSet (ws.flatMap Window.fields)

namespace Merges

theorem nil : Merges [] empty where
  start := rfl
  stop := rfl
  filter := rfl
  sortOrder := rfl
  fields := rfl

theorem singleton (w : Window) : Merges [w] w := by
  have hstart : lastStart [w] = w.min := laterStart_zero w.min
  have hstop : firstEnd [w] = w.max := earlierEnd_none w.max
  refine ⟨hstart.symm, ?_, ?_, ?_, ?_⟩
  · rw [hstart, hstop]
    exact w.max_eq_map_laterStart
  · rw [List.filterMap_cons, List.filterMap_nil]
    cases w.filter <;> rfl
  · rw [List.flatMap_singleton]
  · rw [List.flatMap_singleton]

variable {ws vs : List Window} {w v : Window}

theorem min_merge (hw : Merges ws w) (hv : Merges vs v) :
    (w.merge v).min = lastStart (ws ++ vs) := by
  rw [Window.min_merge, hw.start, hv.start, lastStart_append]

/-- The combined end of two windows, clamped at the common start, forgets that they were clamped
at their own. -/
theorem map_laterStart_earlierEnd (hw : Merges ws w) (hv : Merges vs v) :
    (earlierEnd w.max v.max).map (laterStart (lastStart (ws ++ vs)))
      = (firstEnd (ws ++ vs)).map (laterStart (lastStart (ws ++ vs))) := by
  rw [hw.stop, hv.stop, firstEnd_append, lastStart_append]
  exact Window.map_laterStart_earlierEnd (le_laterStart_left _ _) (le_laterStart_right _ _) _ _

/-- **Merging.** -/
theorem merge (hw : Merges ws w) (hv : Merges vs v) : Merges (ws ++ vs) (w.merge v) where
  start := hw.min_merge hv
  stop := by rw [max_merge, hw.min_merge hv, hw.map_laterStart_earlierEnd hv]
  filter := by
    rw [List.filterMap_append]
    exact Filter.map_flatten_bothFilters hw.filter hv.filter
  sortOrder := by
    rw [List.flatMap_append]
    exact SortOrder.firstOfEachName_append_congr hw.sortOrder hv.sortOrder
  fields := by
    rw [List.flatMap_append]
    exact fieldSet_append_congr hw.fields hv.fields

/-- **Optimizing.** A normal form is its own normal form. -/
theorem optimize (hw : Merges ws w) : Merges ws w.optimize where
  start := hw.start
  stop := hw.stop
  filter := by
    show (w.filter.map Filter.flatten).map Filter.flatten = _
    rw [Option.map_map, ← hw.filter]
    congr 1
    funext f
    exact f.flatten_flatten
  sortOrder := (SortOrder.firstOfEachName_firstOfEachName w.sortOrder).trans hw.sortOrder
  fields := (fieldSet_fieldSet w.fields).trans hw.fields

/-- The limit of a merged window is the length from the common start to the common end. -/
theorem limit_merge (hw : Merges ws w) (hv : Merges vs v) :
    (w.merge v).limit = (firstEnd (ws ++ vs)).map (saturatingSub · (lastStart (ws ++ vs))) := by
  -- a length does not see where before the start an end lies, so clamped ends do as well
  rw [Window.limit_merge, hw.min_merge hv, ← map_saturatingSub_laterStart,
    hw.map_laterStart_earlierEnd hv, map_saturatingSub_laterStart]

/-- Two windows made from the same ones have one normal form when their limits agree. -/
theorem optimize_eq (hw : Merges ws w) (hv : Merges ws v) (hlimit : w.limit = v.limit) :
    w.optimize = v.optimize := by
  have hstart : w.offset = v.offset := hw.start.trans hv.start.symm
  rw [Window.optimize, Window.optimize, hstart, hlimit, hw.filter, hv.filter, hw.sortOrder,
    hv.sortOrder, hw.fields, hv.fields]

end Merges

theorem eq_empty_of_isEmpty {w : Window} (h : w.isEmpty = true) : w = empty := by
  unfold isEmpty at h
  simp only [Bool.and_eq_true, Option.isNone_iff_eq_none, beq_iff_eq, List.isEmpty_iff] at h
  obtain ⟨⟨⟨⟨hlimit, hoffset⟩, hfilter⟩, hsortOrder⟩, hfields⟩ := h
  cases w
  subst hlimit hoffset hfilter hsortOrder hfields
  rfl

end Window

/-! ## Plans -/

/-- A way to combine windows: merging in some grouping, with optimizing in between. -/
inductive MergePlan where
  | window (w : Window)
  | merge (left right : MergePlan)
  | optimize (plan : MergePlan)

namespace MergePlan

/-- The window that a plan makes. -/
def run : MergePlan → Window
  | window w => w
  | merge left right => left.run.merge right.run
  | optimize plan => plan.run.optimize

/-- The windows that a plan combines, in their order. -/
def inputs : MergePlan → List Window
  | window w => [w]
  | merge left right => left.inputs ++ right.inputs
  | optimize plan => plan.inputs

/-- The inputs that ask for something. -/
def demands (plan : MergePlan) : List Window :=
  plan.inputs.filter fun w => !w.isEmpty

theorem demands_merge (left right : MergePlan) :
    (merge left right).demands = left.demands ++ right.demands :=
  List.filter_append _ _

/-- **What a plan makes.** Every step keeps what all groupings agree on, and empty inputs do not
take part in it. -/
theorem merges_run (plan : MergePlan) : Window.Merges plan.demands plan.run := by
  induction plan with
  | window w =>
      cases hw : w.isEmpty with
      | true =>
          have hdemands : (window w).demands = [] := List.filter_cons_of_neg (by simp [hw])
          rw [hdemands, run, Window.eq_empty_of_isEmpty hw]
          exact Window.Merges.nil
      | false =>
          have hdemands : (window w).demands = [w] := List.filter_cons_of_pos (by simp [hw])
          rw [hdemands]
          exact Window.Merges.singleton w
  | merge left right ihleft ihright =>
      rw [demands_merge]
      exact ihleft.merge ihright
  | optimize plan ih => exact ih.optimize

/-- As soon as something was merged, the limit is a length between the common bounds. -/
theorem limit_run {plan : MergePlan} (h : 2 ≤ plan.inputs.length) :
    plan.run.limit = (Window.firstEnd plan.demands).map
      (saturatingSub · (Window.lastStart plan.demands)) := by
  induction plan with
  | window w => exact absurd h (by simp [inputs])
  | merge left right _ _ =>
      rw [demands_merge]
      exact left.merges_run.limit_merge right.merges_run
  | optimize plan ih => exact ih h

/-- **Groupings do not show.** Two plans that combine at least two windows each, and the same ones
apart from empty ones, make windows with the same normal form, wherever they group and optimize. -/
theorem run_optimize_eq {p q : MergePlan} (hp : 2 ≤ p.inputs.length) (hq : 2 ≤ q.inputs.length)
    (h : p.demands = q.demands) : p.run.optimize = q.run.optimize := by
  have hmerges : Window.Merges p.demands q.run := h ▸ q.merges_run
  apply p.merges_run.optimize_eq hmerges
  rw [limit_run hp, limit_run hq, h]

/-- Three windows with disjoint intervals and a repeated sort field, grouped to the left, and to the
right with an empty window and two optimizations in between. -/
theorem run_optimize_eq_of_three :
    (merge
      (merge (window { offset := 10, limit := some 5, sortOrder := [⟨"name", true⟩] })
        (window { offset := 18446744073709551615, limit := some 7, fields := ["b", "a"] }))
      (window { limit := some 3, sortOrder := [⟨"name", false⟩], fields := ["a"] })).run.optimize
    = (merge
      (window { offset := 10, limit := some 5, sortOrder := [⟨"name", true⟩] })
      (merge (window Window.empty)
        (optimize
          (merge
            (optimize
              (window { offset := 18446744073709551615, limit := some 7, fields := ["b", "a"] }))
            (window
              { limit := some 3, sortOrder := [⟨"name", false⟩], fields := ["a"] }))))).run.optimize :=
  run_optimize_eq (by decide) (by decide) rfl

end MergePlan

end RecordQuery
