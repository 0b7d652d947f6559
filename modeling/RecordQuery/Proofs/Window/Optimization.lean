import RecordQuery.Proofs.Filter.Flattening
import RecordQuery.Proofs.Sort.Repeats
import RecordQuery.Window.Execution

/-!
# RecordQuery.Proofs.Window.Optimization — the normal form of a window gives the same pages

Optimizing rewrites the filter, the sort order and the field selection of a window.  Applying a
window reads the first two only, and each rewriting keeps what compiling gives: the filter keeps its
predicate, the sort order its comparison of records, and both keep the error that is met first.
-/

namespace RecordQuery.Window

variable {α : Type} (options : MatchOptions) (w : Window)

theorem predicate_optimize : w.optimize.predicate options = w.predicate options := by
  have hfilter : w.optimize.filter = w.filter.map Filter.flatten := rfl
  rw [predicate, predicate, hfilter]
  cases w.filter with
  | none => rfl
  | some f => exact Filter.compile_flatten f

/-- The sorting that a comparison of records stands for. -/
def sortingBy (record : α → Json) (compare : Json → Json → Ordering) (items : List α) : List α :=
  items.mergeSort fun a b => compare (record a) (record b) != .gt

/-- Sorting sees the keys of an order only through the comparison that they make. -/
theorem sorting_eq (record : α → Json) :
    w.sorting options record =
      if w.sortOrder.isEmpty then .ok id
      else ((SortOrder.keys w.sortOrder).map (Comparator.compareBy options.caseSensitive)).map
        (sortingBy record) := by
  rw [sorting, SortOrder.compile]
  split
  · rfl
  · cases SortOrder.keys w.sortOrder <;> rfl

theorem isEmpty_firstOfEachName (order : SortOrder) :
    (SortOrder.firstOfEachName order).isEmpty = order.isEmpty := by
  cases order <;> rfl

theorem sorting_optimize (record : α → Json) :
    w.optimize.sorting options record = w.sorting options record := by
  rw [sorting_eq, sorting_eq]
  show (if (SortOrder.firstOfEachName w.sortOrder).isEmpty then _
    else ((SortOrder.keys (SortOrder.firstOfEachName w.sortOrder)).map _).map _) = _
  rw [isEmpty_firstOfEachName, SortOrder.keys_firstOfEachName]

/-- **Optimizing keeps pages.** A window and its normal form give the same page of any items, in
the same order, or fail with the same error. -/
theorem apply_optimize (record : α → Json) (items : List α) :
    w.optimize.apply options record items = w.apply options record items := by
  rw [apply, apply, predicate_optimize, sorting_optimize]
  rfl

end RecordQuery.Window
