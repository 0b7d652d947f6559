import Mathlib.Data.ENat.Lattice
import RecordQuery.Proofs.Window.Bounds
import RecordQuery.Window.Execution

/-!
# RecordQuery.Proofs.Window.Pages — pages by position

A window cuts a list by dropping and taking, with an offset and a limit.  What it cuts is said here
by positions: those from the window's first position to before its end, where a window without an
end takes all that follow.

Ends are words, and an end that would be too large is the largest word.  Lists of fewer items than
there are words have no positions there, so nothing is lost.
-/

namespace RecordQuery.Window

variable {α : Type}

/-! ## Positions of a list -/

/-- The items at the positions from `start` to before `stop`. -/
def page (start : Nat) (stop : ℕ∞) (items : List α) : List α :=
  (items.zipIdx.filter fun p => start ≤ p.2 ∧ p.2 < stop).map Prod.fst

/-- The positions that are at least `start` are what is left after dropping. -/
theorem filter_le_zipIdx (items : List α) (k start : Nat) :
    ((items.zipIdx k).filter fun p => k + start ≤ p.2) = (items.drop start).zipIdx (k + start) := by
  induction items generalizing k start with
  | nil => simp
  | cons x items ih =>
      cases start with
      | zero =>
          rw [List.drop_zero, Nat.add_zero, List.filter_eq_self]
          intro p hp
          exact decide_eq_true (List.mem_zipIdx hp).1
      | succ start =>
          have hk : k + (start + 1) = k + 1 + start := by omega
          rw [List.zipIdx_cons, List.filter_cons_of_neg (by simp), List.drop_succ_cons, hk]
          exact ih (k + 1) start

/-- The positions before `stop` are what is taken. -/
theorem filter_lt_zipIdx (items : List α) (k stop : Nat) :
    ((items.zipIdx k).filter fun p => p.2 < k + stop) = (items.take stop).zipIdx k := by
  induction items generalizing k stop with
  | nil => simp
  | cons x items ih =>
      cases stop with
      | zero =>
          rw [List.take_zero, List.zipIdx_nil, List.filter_eq_nil_iff]
          intro p hp
          have hk := (List.mem_zipIdx hp).1
          simpa using hk
      | succ stop =>
          have hk : k + (stop + 1) = k + 1 + stop := by omega
          rw [List.zipIdx_cons, List.filter_cons_of_pos (by simp), List.take_succ_cons,
            List.zipIdx_cons, hk, ih (k + 1) stop]

/-- Without an end a page is what is left after dropping. -/
theorem page_top (start : Nat) (items : List α) : page start ⊤ items = items.drop start := by
  have h := filter_le_zipIdx items 0 start
  rw [Nat.zero_add] at h
  unfold page
  simp only [ENat.natCast_lt_top, and_true]
  rw [h, List.zipIdx_map_fst]

/-- With an end a page is taken up to it. -/
theorem page_coe (start stop : Nat) (items : List α) :
    page start stop items = (items.take stop).drop start := by
  have hle := filter_le_zipIdx (items.take stop) 0 start
  have hlt := filter_lt_zipIdx items 0 stop
  rw [Nat.zero_add] at hle hlt
  unfold page
  simp only [ENat.natCast_lt_natCast, Bool.decide_and]
  rw [← List.filter_filter, hlt, hle, List.zipIdx_map_fst]

/-- Two ends cut the same page when no position of the list lies between them. -/
theorem page_congr {start : Nat} {stop stop' : ℕ∞} {items : List α}
    (h : ∀ i < items.length, start ≤ i → ((i : ℕ∞) < stop ↔ (i : ℕ∞) < stop')) :
    page start stop items = page start stop' items := by
  unfold page
  congr 1
  apply List.filter_congr
  intro p hp
  have hlength : p.2 < items.length := by
    have := (List.mem_zipIdx hp).2.1
    omega
  have := h p.2 hlength
  simp only [decide_eq_decide]
  exact and_congr_right this

theorem mem_page {start : Nat} {stop : ℕ∞} {items : List α} {x : α} :
    x ∈ page start stop items ↔
      ∃ i, start ≤ i ∧ (i : ℕ∞) < stop ∧ items[i]? = some x := by
  unfold page
  constructor
  · intro hx
    obtain ⟨⟨y, i⟩, hp, rfl⟩ := List.mem_map.mp hx
    obtain ⟨hmem, hi⟩ := List.mem_filter.mp hp
    obtain ⟨hstart, hstop⟩ := of_decide_eq_true hi
    exact ⟨i, hstart, hstop, List.mk_mem_zipIdx_iff_getElem?.mp hmem⟩
  · rintro ⟨i, hstart, hstop, hi⟩
    refine List.mem_map.mpr ⟨(x, i), List.mem_filter.mpr ⟨?_, ?_⟩, rfl⟩
    · exact List.mk_mem_zipIdx_iff_getElem?.mpr hi
    · exact decide_eq_true ⟨hstart, hstop⟩

/-- In a page of items with their positions, the positions are those of the page. -/
theorem mem_page_zipIdx {start : Nat} {stop : ℕ∞} {items : List α} {p : α × Nat} :
    p ∈ page start stop items.zipIdx ↔
      p ∈ items.zipIdx ∧ start ≤ p.2 ∧ (p.2 : ℕ∞) < stop := by
  rw [mem_page]
  have hpos : ∀ i, items.zipIdx[i]? = some p ↔ i = p.2 ∧ p ∈ items.zipIdx := by
    intro i
    rw [List.getElem?_zipIdx, Option.map_eq_some_iff, List.mem_zipIdx_iff_getElem?]
    constructor
    · rintro ⟨x, hx, rfl⟩
      rw [Nat.zero_add]
      exact ⟨rfl, hx⟩
    · rintro ⟨rfl, hp⟩
      exact ⟨p.1, hp, by rw [Nat.zero_add]⟩
  constructor
  · rintro ⟨i, hstart, hstop, hi⟩
    obtain ⟨rfl, hp⟩ := (hpos i).mp hi
    exact ⟨hp, hstart, hstop⟩
  · rintro ⟨hp, hstart, hstop⟩
    exact ⟨p.2, hstart, hstop, (hpos p.2).mpr ⟨rfl, hp⟩⟩

/-! ## The page of a window -/

/-- The end of a window; a window that is unbounded ends after all positions. -/
def stop (w : Window) : ℕ∞ :=
  w.max.elim ⊤ fun stop => (stop.toNat : ℕ∞)

/-- **Slices are pages.** A window cuts the positions from its first one to before its end. -/
theorem slice_eq_page (w : Window) {items : List α} (h : items.length < UInt64.size) :
    w.slice items = page w.min.toNat w.stop items := by
  unfold slice stop Window.max
  cases hlimit : w.limit with
  | none => exact (page_top _ items).symm
  | some limit =>
      show (items.drop w.offset.toNat).take limit.toNat
        = page w.offset.toNat ((saturatingAdd w.offset limit).toNat : Nat) items
      rw [List.take_drop, ← page_coe]
      apply page_congr
      intro i hi _
      rw [ENat.natCast_lt_natCast, ENat.natCast_lt_natCast, toNat_saturatingAdd]
      -- all positions of the list are less than the largest word
      unfold UInt64.size at h
      unfold largestWord
      omega

/-! ## Ends as numbers -/

/-- An end as a number; no end is after all positions. -/
def endOf (n : Option UInt64) : ℕ∞ :=
  n.elim ⊤ fun n => (n.toNat : ℕ∞)

theorem stop_eq_endOf (w : Window) : w.stop = endOf w.max := rfl

/-- An end that is clamped at a start is the later of the two. -/
theorem endOf_map_laterStart (start : UInt64) (n : Option UInt64) :
    endOf (n.map (laterStart start)) = Max.max (endOf n) (start.toNat : ℕ∞) := by
  cases n with
  | none => exact (max_eq_left le_top).symm
  | some n =>
      show ((laterStart start n).toNat : ℕ∞) = Max.max (n.toNat : ℕ∞) start.toNat
      rw [toNat_laterStart, Nat.mono_cast.map_max, max_comm]

theorem endOf_earlierEnd (m n : Option UInt64) :
    endOf (earlierEnd m n) = Min.min (endOf m) (endOf n) := by
  cases m with
  | none => exact (min_eq_right le_top).symm
  | some m =>
      cases n with
      | none => exact (min_eq_left le_top).symm
      | some n =>
          show ((earlier m n).toNat : ℕ∞) = Min.min (m.toNat : ℕ∞) n.toNat
          rw [toNat_earlier, Nat.mono_cast.map_min]

/-- The end of a merged window is the earlier end, but not before its first position. -/
theorem stop_merge (w v : Window) :
    (w.merge v).stop = Max.max ((w.merge v).min.toNat : ℕ∞) (Min.min w.stop v.stop) := by
  rw [stop_eq_endOf, max_merge, endOf_map_laterStart, endOf_earlierEnd]
  exact max_comm _ _

end RecordQuery.Window
