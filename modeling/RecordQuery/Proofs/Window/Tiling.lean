import RecordQuery.Proofs.Window.MergedPage

/-!
# RecordQuery.Proofs.Window.Tiling — consecutive pages tile the sorted matches

Behind every page of a window stands one list: the records that its filter matches, sorted stably by
its order.  The page holds the positions of that list from the offset on, at most as many as the
limit says.  Pages of which each begins where the one before it ends join to the page over all their
positions, so a walk from the first position to the last one meets every match once
(`Window.apply_tiles`).  Ties do no harm, since each page is cut from the same list.
-/

namespace RecordQuery.Window

variable {α : Type}

/-! ## Slices by position -/

/-- A slice holds the items from the offset on, as many as the limit says. -/
theorem getElem?_slice (w : Window) (items : List α) (i : Nat) :
    (w.slice items)[i]?
      = if w.limit.all (i < ·.toNat) then items[w.offset.toNat + i]? else none := by
  unfold slice
  cases w.limit with
  | none => exact List.getElem?_drop
  | some limit =>
      show ((items.drop w.offset.toNat).take limit.toNat)[i]? = _
      rw [List.getElem?_take, List.getElem?_drop, Option.all_some]
      simp only [decide_eq_true_eq]

/-- Adjacent pages join. -/
theorem page_append_page {a b c : Nat} (hab : a ≤ b) (hbc : b ≤ c) (items : List α) :
    page a b items ++ page b c items = page a c items := by
  rw [page_coe, page_coe, page_coe]
  have htake : items.take b = (items.take c).take b := by rw [List.take_take, Nat.min_eq_left hbc]
  have hdrop : (items.take c).drop b = ((items.take c).drop a).drop (b - a) := by
    rw [List.drop_drop, Nat.add_sub_of_le hab]
  rw [htake, hdrop, List.drop_take, List.take_append_drop]

/-- A page up to the length of a list or further is all of it from the start on. -/
theorem page_zero_of_length_le {items : List α} {stop : Nat} (h : items.length ≤ stop) :
    page 0 stop items = items := by
  rw [page_coe, List.drop_zero, List.take_of_length_le h]

/-! ## Pages of one window -/

/-- The window for the positions from `a` to before `b`. -/
def between (w : Window) (a b : UInt64) : Window :=
  { w with offset := a, limit := some (b - a) }

theorem slice_between (w : Window) {a b : UInt64} (hab : a ≤ b) (items : List α) :
    (w.between a b).slice items = page a.toNat b.toNat items := by
  show (items.drop a.toNat).take (b - a).toNat = _
  rw [page_coe, List.drop_take, UInt64.toNat_sub_of_le _ _ hab]

/-- The pages from each position of a list to the next one, joined. -/
def pages (options : MatchOptions) (w : Window) (record : α → Json) (items : List α) :
    List UInt64 → Except QueryError (List α)
  | a :: b :: rest => do
    let first ← (w.between a b).apply options record items
    let later ← pages options w record items (b :: rest)
    return first ++ later
  | _ => .ok []

section

variable {options : MatchOptions} {w : Window} {test : Predicate} {c : Comparator}

/-- The positions of a window do not matter for what is filtered and sorted. -/
theorem apply_between (htest : w.predicate options = .ok test)
    (hc : SortOrder.compile options w.sortOrder = .ok c) (record : α → Json) (items : List α)
    {a b : UInt64} (hab : a ≤ b) :
    (w.between a b).apply options record items
      = .ok (page a.toNat b.toNat (sortingBy record c.compare (test.keep record items))) := by
  have htest : (w.between a b).predicate options = .ok test := htest
  have hc : SortOrder.compile options (w.between a b).sortOrder = .ok c := hc
  rw [apply_eq_ok htest hc, slice_between w hab]

/-- **Pages tile.** Pages between ascending positions join to the page from the first position to
the last one. -/
theorem pages_eq_page (htest : w.predicate options = .ok test)
    (hc : SortOrder.compile options w.sortOrder = .ok c) (record : α → Json) (items : List α)
    {a last : UInt64} {cuts : List UInt64} (hcuts : (a :: (cuts ++ [last])).Pairwise (· ≤ ·)) :
    w.pages options record items (a :: (cuts ++ [last]))
      = .ok (page a.toNat last.toNat (sortingBy record c.compare (test.keep record items))) := by
  induction cuts generalizing a with
  | nil =>
      have hle : a ≤ last := (List.pairwise_cons.mp hcuts).1 last List.mem_cons_self
      rw [List.nil_append, pages, apply_between htest hc record items hle]
      exact congrArg Except.ok (List.append_nil _)
  | cons b cuts ih =>
      obtain ⟨hfirst, hcuts⟩ := List.pairwise_cons.mp hcuts
      have hab : a ≤ b := hfirst b List.mem_cons_self
      have hlast : b ≤ last := (List.pairwise_cons.mp hcuts).1 last (by simp)
      rw [List.cons_append, pages, apply_between htest hc record items hab, ih hcuts]
      exact congrArg Except.ok (page_append_page (UInt64.le_iff_toNat_le.mp hab)
        (UInt64.le_iff_toNat_le.mp hlast) _)

/-- **What a window returns.** Where the filter and the order compile, and the order is a strict
weak order on the records, there is one stably sorted list of the matching records.  Applying the
window gives its positions from the offset on, at most as many as the limit says; adjacent pages
join, and the pages that lead from the first position to the number of records give all of it. -/
theorem apply_tiles (htest : w.predicate options = .ok test)
    (hc : SortOrder.compile options w.sortOrder = .ok c) (record : α → Json) {items : List α}
    (hlength : items.length < UInt64.size)
    (hweak : StrictWeakOn c.compare {r | r ∈ items.map record}) :
    ∃ sorted : List α,
      (∀ ys, StablySorted (fun x y => c.compare (record x) (record y))
          (items.filter fun x => test (record x)) ys ↔ ys = sorted)
      ∧ (w.sortOrder = [] → sorted = items.filter fun x => test (record x))
      ∧ (∃ found, w.apply options record items = .ok found ∧ ∀ i, found[i]? =
          if w.limit.all (i < ·.toNat) then sorted[w.offset.toNat + i]? else none)
      ∧ (∀ i j k : UInt64, i ≤ j → j ≤ k → ∃ first second,
          (w.between i j).apply options record items = .ok first
            ∧ (w.between j k).apply options record items = .ok second
            ∧ (w.between i k).apply options record items = .ok (first ++ second))
      ∧ ∀ cuts : List UInt64,
          (0 :: (cuts ++ [UInt64.ofNat items.length])).Pairwise (· ≤ ·) →
          w.pages options record items (0 :: (cuts ++ [UInt64.ofNat items.length]))
            = .ok sorted := by
  have hkept : StrictWeakOn (fun x y => c.compare (record x) (record y))
      {x | x ∈ items.filter fun x => test (record x)} := by
    apply hweak.comap record
    intro x hx
    exact List.mem_map_of_mem (List.mem_filter.mp hx).1
  refine ⟨sortingBy record c.compare (test.keep record items), ?_, ?_, ?_, ?_, ?_⟩
  · exact fun ys => stablySorted_iff (fun x y => Comparator.compareBy_swap c.keys _ _) hkept
  · intro hempty
    rw [hempty] at hc
    exact sortingBy_of_no_fields hc record _
  · exact ⟨_, apply_eq_ok htest hc record items, getElem?_slice w _⟩
  · intro i j k hij hjk
    refine ⟨_, _, apply_between htest hc record items hij,
      apply_between htest hc record items hjk, ?_⟩
    rw [apply_between htest hc record items (UInt64.le_trans hij hjk), page_append_page]
    · exact UInt64.le_iff_toNat_le.mp hij
    · exact UInt64.le_iff_toNat_le.mp hjk
  · intro cuts hcuts
    rw [pages_eq_page htest hc record items hcuts, UInt64.toNat_ofNat_of_lt' hlength]
    apply congrArg Except.ok
    apply page_zero_of_length_le
    unfold sortingBy Predicate.keep
    rw [List.length_mergeSort]
    exact List.length_filter_le _ _

end

/-- The compiled order of the best rated records. -/
def byScore : Comparator :=
  ⟨[⟨⟨"score", false⟩, ⟨"score", [.member "score"]⟩⟩], false⟩

theorem strictWeakOn_byScore : StrictWeakOn byScore.compare {r | r ∈ ratedYears.map id} := by
  refine ⟨?_, ?_, ?_⟩
  · show ∀ a ∈ ratedYears, _
    decide
  · show ∀ a ∈ ratedYears, ∀ b ∈ ratedYears, ∀ c ∈ ratedYears, _
    decide
  · show ∀ a ∈ ratedYears, ∀ b ∈ ratedYears, ∀ c ∈ ratedYears, _
    decide

/-- Pages by score with a seam between the two records of one score, and pages of the records as
they stand. -/
theorem apply_tiles_of_ratedYears :
    (∃ (test : Predicate) (sorted : List Json),
      (∀ ys, StablySorted (fun r s => byScore.compare r s) (ratedYears.filter fun r => test r) ys
          ↔ ys = sorted)
        ∧ (∃ first second, (bestRated.between 1 2).apply {} id ratedYears = .ok first
          ∧ (bestRated.between 2 3).apply {} id ratedYears = .ok second
          ∧ (bestRated.between 1 3).apply {} id ratedYears = .ok (first ++ second))
        ∧ bestRated.pages {} id ratedYears [0, 2, 4] = .ok sorted)
    ∧ empty.pages {} id ratedYears [0, 1, 4] = .ok ratedYears := by
  constructor
  · obtain ⟨sorted, hsorted, -, -, hpages, htile⟩ :=
      apply_tiles (w := bestRated) rfl rfl id (by decide) strictWeakOn_byScore
    refine ⟨_, sorted, hsorted, hpages 1 2 3 (by decide) (by decide), ?_⟩
    exact htile [2] (by decide)
  · have htest : empty.predicate {} = .ok fun _ => true := rfl
    have hc : SortOrder.compile {} empty.sortOrder = .ok ⟨[], false⟩ := rfl
    have hlength : ratedYears.length < UInt64.size := by decide
    obtain ⟨sorted, -, hempty, -, -, htile⟩ := apply_tiles htest hc id hlength
      ⟨fun _ _ => nofun, fun _ _ _ _ _ _ => nofun, fun _ _ _ _ _ _ _ _ => rfl⟩
    have hall : sorted = ratedYears := (hempty rfl).trans (List.filter_eq_self.mpr fun _ _ => rfl)
    exact (htile [1] (by decide)).trans (congrArg Except.ok hall)

end RecordQuery.Window
