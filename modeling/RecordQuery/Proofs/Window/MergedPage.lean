import RecordQuery.Proofs.Sort.Stable
import RecordQuery.Proofs.Window.Optimization
import RecordQuery.Proofs.Window.Pages

/-!
# RecordQuery.Proofs.Window.MergedPage — what a merged window returns

A merged window returns the page between the later first position and the earlier end, of the
records that both filters match, sorted stably by the first order and, where that ties, by the
second one.  Each member of the window contributes its part on its own: filters by conjunction,
orders by joined keys, intervals by intersection.
-/

namespace RecordQuery

/-! ## Joined orders -/

namespace SortOrder

theorem keys_append (order later : SortOrder) :
    keys (order ++ later) = do
      let ks ← keys order
      let ks' ← keys later
      return ks ++ ks' := by
  induction order with
  | nil =>
      rw [List.nil_append, keys]
      cases keys later <;> rfl
  | cons field rest ih =>
      rw [List.cons_append, keys, keys, ih]
      cases (FieldPath.parse field.name).mapError QueryError.invalidPath with
      | error e => rfl
      | ok path => cases keys rest <;> cases keys later <;> rfl

end SortOrder

/-- Joined keys compare by the first ones and, where those tie, by the second ones. -/
theorem Comparator.compareBy_append {caseSensitive : Bool} (ks later : List ComparatorKey)
    (r s : Json) :
    compareBy caseSensitive (ks ++ later) r s
      = (compareBy caseSensitive ks r s).then (compareBy caseSensitive later r s) := by
  induction ks with
  | nil => rfl
  | cons key ks ih => rw [List.cons_append, compareBy, compareBy, ih, Ordering.then_assoc]

/-- The order of two records by a first comparator, with ties broken by a second one. -/
def Comparator.compareThen (c d : Comparator) (r s : Json) : Ordering :=
  (c.compare r s).then (d.compare r s)

theorem Comparator.compareThen_swap (c d : Comparator) (r s : Json) :
    c.compareThen d r s = (c.compareThen d s r).swap := by
  unfold compareThen
  rw [Ordering.swap_then]
  exact congrArg₂ Ordering.then (compareBy_swap c.keys r s) (compareBy_swap d.keys r s)

variable {options : MatchOptions}

/-- Joined orders compile to the comparator that breaks ties of the first one by the second one. -/
theorem SortOrder.exists_compile_append {order later : SortOrder} {c d : Comparator}
    (hc : compile options order = .ok c) (hd : compile options later = .ok d) :
    ∃ e, compile options (order ++ later) = .ok e ∧ e.compare = c.compareThen d := by
  obtain ⟨ks, hks, hc⟩ := Except.bind_eq_ok_iff.mp hc
  obtain ⟨ks', hks', hd⟩ := Except.bind_eq_ok_iff.mp hd
  cases hc
  cases hd
  refine ⟨⟨ks ++ ks', options.caseSensitive⟩, ?_, ?_⟩
  · rw [compile, keys_append, hks, hks']
    rfl
  · funext r s
    exact Comparator.compareBy_append ks ks' r s

namespace Window

variable {α : Type}

/-! ## Filters -/

/-- A merged window tests by both windows; the first fault is that of the first window. -/
theorem predicate_merge (w v : Window) :
    (w.merge v).predicate options = do
      let test ← w.predicate options
      let later ← v.predicate options
      return fun record => test record && later record := by
  have hfilter : (w.merge v).filter = bothFilters w.filter v.filter := rfl
  rw [predicate, predicate, predicate, hfilter]
  cases w.filter with
  | none =>
      cases v.filter with
      | none => rfl
      | some g =>
          show g.compile options.mode
            = (g.compile options.mode >>= fun later => .ok fun record => true && later record)
          cases g.compile options.mode <;> rfl
  | some f =>
      cases v.filter with
      | none =>
          show f.compile options.mode
            = (f.compile options.mode >>= fun test => .ok fun record => test record && true)
          simp only [Bool.and_true]
          cases f.compile options.mode <;> rfl
      | some g =>
          show (Filter.group .and ([f] ++ [g])).compile options.mode = _
          rw [Filter.compile_and_append, Filter.compile_and_singleton,
            Filter.compile_and_singleton]

/-! ## Sorting and applying -/

/-- Without sort fields items stay as they stand. -/
theorem sortingBy_of_no_fields {c : Comparator} (hc : SortOrder.compile options [] = .ok c)
    (record : α → Json) (items : List α) : sortingBy record c.compare items = items := by
  cases hc
  exact List.mergeSort_of_pairwise (List.pairwise_of_forall fun _ _ => rfl)

/-- Sorting by a compiled order; by no fields items stay where they are, which is how they would be
sorted by a comparison that never decides. -/
theorem exists_sorting {w : Window} {c : Comparator}
    (hc : SortOrder.compile options w.sortOrder = .ok c) (record : α → Json) :
    ∃ sort : List α → List α, w.sorting options record = .ok sort
      ∧ ∀ items, sort items = sortingBy record c.compare items := by
  unfold sorting
  split
  · next hempty =>
      rw [List.isEmpty_iff.mp hempty] at hc
      exact ⟨id, rfl, fun items => (sortingBy_of_no_fields hc record items).symm⟩
  · rw [hc]
    exact ⟨c.sort record, rfl, fun items => rfl⟩

theorem apply_eq_ok {w : Window} {test : Predicate} {c : Comparator}
    (ht : w.predicate options = .ok test) (hc : SortOrder.compile options w.sortOrder = .ok c)
    (record : α → Json) (items : List α) :
    w.apply options record items
      = .ok (w.slice (sortingBy record c.compare (test.keep record items))) := by
  obtain ⟨sort, hsort, heq⟩ := exists_sorting hc record
  rw [apply, ht, hsort]
  show Except.ok (w.slice (sort (Predicate.keep test record items))) = _
  rw [heq]

/-- Without a filter and an order a page is cut from the items as they stand. -/
theorem apply_of_plain {w : Window} (hfilter : w.filter = none) (horder : w.sortOrder = [])
    (record : α → Json) (items : List α) : w.apply options record items = .ok (w.slice items) := by
  unfold apply predicate sorting
  rw [hfilter, horder]
  show Except.ok (w.slice (items.filter fun _ => true)) = _
  rw [List.filter_eq_self.mpr fun _ _ => rfl]

/-! ## Items and their positions -/

variable {β : Type}

theorem slice_map (w : Window) (f : β → α) (items : List β) :
    w.slice (items.map f) = (w.slice items).map f := by
  unfold slice
  cases w.limit with
  | none => exact List.map_drop.symm
  | some limit =>
      show ((items.map f).drop _).take _ = ((items.drop _).take _).map f
      rw [List.map_take, List.map_drop]

theorem sortingBy_map (record : α → Json) (compare : Json → Json → Ordering) (f : β → α)
    (items : List β) :
    sortingBy record compare (items.map f) = (sortingBy (record ∘ f) compare items).map f := by
  symm
  apply List.map_mergeSort
  intro a _ b _
  rfl

/-- **Only records count.** A window treats items as it treats their records. -/
theorem apply_map (options : MatchOptions) (w : Window) (record : α → Json) (f : β → α)
    (items : List β) :
    w.apply options record (items.map f)
      = (w.apply options (record ∘ f) items).map (List.map f) := by
  rw [apply, apply, sorting_eq, sorting_eq]
  cases w.predicate options with
  | error e => rfl
  | ok test =>
      have hkeep : test.keep record (items.map f) = (test.keep (record ∘ f) items).map f :=
        List.filter_map
      split
      · show Except.ok (w.slice (test.keep record (items.map f))) = _
        rw [hkeep, slice_map]
        rfl
      · cases SortOrder.keys w.sortOrder with
        | error e => rfl
        | ok ks =>
            show Except.ok (w.slice (sortingBy record _ (test.keep record (items.map f)))) = _
            rw [hkeep, sortingBy_map, slice_map]
            rfl

/-- A page in which every item comes with its position in the input. -/
def numberedPage (options : MatchOptions) (w : Window) (record : α → Json) (items : List α) :
    Except QueryError (List (α × Nat)) :=
  w.apply options (record ∘ Prod.fst) items.zipIdx

/-- The positions are all that a numbered page adds. -/
theorem map_numberedPage (options : MatchOptions) (w : Window) (record : α → Json)
    (items : List α) :
    (w.numberedPage options record items).map (List.map Prod.fst) = w.apply options record items := by
  rw [numberedPage, ← apply_map, List.zipIdx_map_fst]

/-! ## The merged page -/

/-- The merged page is cut at the later first position and at the earlier end. -/
theorem slice_merge (w v : Window) {items : List α} (h : items.length < UInt64.size) :
    (w.merge v).slice items
      = page (Max.max w.min.toNat v.min.toNat) (Min.min w.stop v.stop) items := by
  rw [slice_eq_page _ h, stop_merge]
  have hmin : (w.merge v).min.toNat = Max.max w.min.toNat v.min.toNat := toNat_laterStart _ _
  rw [← hmin]
  apply page_congr
  intro i _ hi
  -- where the end lies before the first position, no position qualifies under either end
  rw [lt_max_iff]
  exact or_iff_right (not_lt.mpr (Nat.cast_le.mpr hi))

/-- **Pages intersect.** Between windows without filters and orders, an item is on the merged page
when its position is on both pages. -/
theorem numberedPage_merge {w v : Window} (hw : w.filter = none ∧ w.sortOrder = [])
    (hv : v.filter = none ∧ v.sortOrder = []) (record : α → Json) {items : List α}
    (hlength : items.length < UInt64.size) :
    ∃ first second merged : List (α × Nat),
      w.numberedPage options record items = .ok first
      ∧ v.numberedPage options record items = .ok second
      ∧ (w.merge v).numberedPage options record items = .ok merged
      ∧ ∀ p, p ∈ merged ↔ p ∈ first ∧ p ∈ second := by
  have hfilter : (w.merge v).filter = none := by
    show bothFilters w.filter v.filter = none
    rw [hw.1, hv.1]
    rfl
  have horder : (w.merge v).sortOrder = [] := by
    show w.sortOrder ++ v.sortOrder = []
    rw [hw.2, hv.2]
    rfl
  have hzip : items.zipIdx.length < UInt64.size := by rwa [List.length_zipIdx]
  refine ⟨_, _, _, apply_of_plain hw.1 hw.2 _ _, apply_of_plain hv.1 hv.2 _ _,
    apply_of_plain hfilter horder _ _, ?_⟩
  intro p
  rw [slice_merge w v hzip, slice_eq_page w hzip, slice_eq_page v hzip, mem_page_zipIdx,
    mem_page_zipIdx, mem_page_zipIdx, max_le_iff, lt_min_iff]
  constructor
  · rintro ⟨hp, ⟨hstart, hstart'⟩, hstop, hstop'⟩
    exact ⟨⟨hp, hstart, hstop⟩, hp, hstart', hstop'⟩
  · rintro ⟨⟨hp, hstart, hstop⟩, -, hstart', hstop'⟩
    exact ⟨hp, ⟨hstart, hstart'⟩, hstop, hstop'⟩

/-- **What a merged window returns.** Where both filters and both orders compile, and the joined
order is a strict weak order on the records, a merged window returns the page from the later first
position to the earlier end of the records that both filters match, sorted stably by the first order
with ties broken by the second one.  Without filters and orders that is the intersection of the two
pages by position. -/
theorem apply_merge {w v : Window} {test later : Predicate} {c d : Comparator}
    (hw : w.predicate options = .ok test) (hv : v.predicate options = .ok later)
    (hc : SortOrder.compile options w.sortOrder = .ok c)
    (hd : SortOrder.compile options v.sortOrder = .ok d)
    (record : α → Json) {items : List α} (hlength : items.length < UInt64.size)
    (hweak : ∀ e, SortOrder.compile options (w.merge v).sortOrder = .ok e →
      StrictWeakOn e.compare {r | r ∈ items.map record}) :
    (∃ sorted : List α,
      (∀ ys, StablySorted (fun x y => c.compareThen d (record x) (record y))
          (items.filter fun x => test (record x) && later (record x)) ys ↔ ys = sorted)
        ∧ (w.merge v).apply options record items
          = .ok (page (Max.max w.min.toNat v.min.toNat) (Min.min w.stop v.stop) sorted))
    ∧ (w.filter = none ∧ w.sortOrder = [] → v.filter = none ∧ v.sortOrder = [] →
      ∃ first second merged : List (α × Nat),
        w.numberedPage options record items = .ok first
        ∧ v.numberedPage options record items = .ok second
        ∧ (w.merge v).numberedPage options record items = .ok merged
        ∧ (w.merge v).apply options record items = .ok (merged.map Prod.fst)
        ∧ ∀ p, p ∈ merged ↔ p ∈ first ∧ p ∈ second) := by
  obtain ⟨e, he, hcompare⟩ := SortOrder.exists_compile_append hc hd
  constructor
  · have htest : (w.merge v).predicate options
        = .ok fun record => test record && later record := by
      rw [predicate_merge, hw, hv]
      rfl
    have hkept : StrictWeakOn (fun x y => c.compareThen d (record x) (record y))
        {x | x ∈ items.filter fun x => test (record x) && later (record x)} := by
      rw [← hcompare]
      apply (hweak e he).comap record
      intro x hx
      exact List.mem_map_of_mem (List.mem_filter.mp hx).1
    refine ⟨_, fun ys => stablySorted_iff (fun x y => c.compareThen_swap d _ _) hkept, ?_⟩
    rw [apply_eq_ok htest he, hcompare, slice_merge]
    · rfl
    · unfold sortingBy Predicate.keep
      rw [List.length_mergeSort]
      exact Nat.lt_of_le_of_lt (List.length_filter_le _ _) hlength
  · intro hw hv
    obtain ⟨first, second, merged, hfirst, hsecond, hmerged, hmem⟩ :=
      numberedPage_merge hw hv record hlength
    refine ⟨first, second, merged, hfirst, hsecond, hmerged, ?_, hmem⟩
    rw [← map_numberedPage, hmerged]
    rfl

/-- Records with a year, of which three have a score. -/
def ratedYears : List Json :=
  [.object [("year", .number (.int ⟨1995, by decide, by decide⟩)),
      ("score", .number (.int ⟨87, by decide, by decide⟩))],
    .object [("year", .number (.int ⟨1979, by decide, by decide⟩)),
      ("score", .number (.int ⟨87, by decide, by decide⟩))],
    .object [("year", .number (.int ⟨2009, by decide, by decide⟩)),
      ("score", .number (.int ⟨98, by decide, by decide⟩))],
    .object [("year", .number (.int ⟨2006, by decide, by decide⟩))]]

/-- The three best rated records since 1970. -/
def bestRated : Window where
  limit := some 3
  filter := some (.leaf "year" (.longRange (some 1970) none))
  sortOrder := [⟨"score", false⟩]

/-- All records but the first one, by year. -/
def laterYears : Window where
  offset := 1
  sortOrder := [⟨"year", true⟩]

theorem strictWeakOn_ratedYears :
    ∀ e, SortOrder.compile {} (bestRated.merge laterYears).sortOrder = .ok e →
      StrictWeakOn e.compare {r | r ∈ ratedYears.map id} := by
  have hcompile : SortOrder.compile {} (bestRated.merge laterYears).sortOrder
      = .ok ⟨[⟨⟨"score", false⟩, ⟨"score", [.member "score"]⟩⟩,
          ⟨⟨"year", true⟩, ⟨"year", [.member "year"]⟩⟩], false⟩ := rfl
  intro e he
  obtain rfl := Except.ok.inj (hcompile.symm.trans he)
  refine ⟨?_, ?_, ?_⟩
  · show ∀ a ∈ ratedYears, _
    decide
  · show ∀ a ∈ ratedYears, ∀ b ∈ ratedYears, ∀ c ∈ ratedYears, _
    decide
  · show ∀ a ∈ ratedYears, ∀ b ∈ ratedYears, ∀ c ∈ ratedYears, _
    decide

/-- The second and third best rated records, and a page cut from the records as they stand. -/
theorem apply_merge_of_ratedYears :
    (∃ (test later : Predicate) (c d : Comparator) (sorted : List Json),
      (∀ ys, StablySorted (fun r s => c.compareThen d r s)
          (ratedYears.filter fun r => test r && later r) ys ↔ ys = sorted)
        ∧ (bestRated.merge laterYears).apply {} id ratedYears
          = .ok (page (Max.max bestRated.min.toNat laterYears.min.toNat)
              (Min.min bestRated.stop laterYears.stop) sorted))
    ∧ ∃ first second merged : List (Json × Nat),
        numberedPage {} { offset := 1 } id ratedYears = .ok first
        ∧ numberedPage {} { limit := some 3 } id ratedYears = .ok second
        ∧ (merge { offset := 1 } { limit := some 3 }).numberedPage {} id ratedYears = .ok merged
        ∧ (merge { offset := 1 } { limit := some 3 }).apply {} id ratedYears
          = .ok (merged.map Prod.fst)
        ∧ ∀ p, p ∈ merged ↔ p ∈ first ∧ p ∈ second := by
  constructor
  · exact ⟨_, _, _, _, (apply_merge rfl rfl rfl rfl id (by decide) strictWeakOn_ratedYears).1⟩
  · have hweak : ∀ e, SortOrder.compile {} (merge { offset := 1 } { limit := some 3 }).sortOrder
        = .ok e → StrictWeakOn e.compare {r | r ∈ ratedYears.map id} := by
      intro e he
      cases he
      exact ⟨fun _ _ => nofun, fun _ _ _ _ _ _ => nofun, fun _ _ _ _ _ _ _ _ => rfl⟩
    exact (apply_merge rfl rfl rfl rfl id (by decide) hweak).2 ⟨rfl, rfl⟩ ⟨rfl, rfl⟩

end Window

end RecordQuery
