import RecordQuery.Window.Basic

/-!
# RecordQuery.Proofs.Window.Bounds — the interval of a window

A window keeps its interval as a first position and a length.  The end that a length stands for is
the end it was computed from, or the first position when that end lies before it
(`Window.saturatingAdd_saturatingSub`).  So a window keeps an end only where it does not lie before
its start, and merging clamps it there: `Window.max_merge`.

Starts and ends of several windows are combined one by one.  Both combinations are associative, and
an end that was clamped at an earlier start is clamped again at the later one, which is why clamping
in between does not show (`Window.map_laterStart_earlierEnd`).
-/

namespace RecordQuery

/-! ## Words as numbers -/

theorem toNat_le_largestWord (a : UInt64) : a.toNat ≤ largestWord := by
  have := a.toNat_lt
  unfold largestWord
  omega

theorem toNat_saturatingAdd (a b : UInt64) :
    (saturatingAdd a b).toNat = min (a.toNat + b.toNat) largestWord := by
  unfold saturatingAdd
  apply UInt64.toNat_ofNat_of_lt'
  unfold largestWord UInt64.size
  omega

theorem toNat_saturatingSub (a b : UInt64) : (saturatingSub a b).toNat = a.toNat - b.toNat := by
  unfold saturatingSub
  apply UInt64.toNat_ofNat_of_lt'
  have := a.toNat_lt
  unfold UInt64.size
  omega

namespace Window

theorem toNat_laterStart (a b : UInt64) : (laterStart a b).toNat = Max.max a.toNat b.toNat := by
  unfold laterStart
  split
  · next h =>
      rw [UInt64.le_iff_toNat_le] at h
      omega
  · next h =>
      rw [UInt64.le_iff_toNat_le] at h
      omega

/-- The earlier of two ends that are both present. -/
def earlier (a b : UInt64) : UInt64 :=
  if a ≤ b then a else b

theorem toNat_earlier (a b : UInt64) : (earlier a b).toNat = Min.min a.toNat b.toNat := by
  unfold earlier
  split
  · next h =>
      rw [UInt64.le_iff_toNat_le] at h
      omega
  · next h =>
      rw [UInt64.le_iff_toNat_le] at h
      omega

/-! ## Starts -/

theorem laterStart_assoc (a b c : UInt64) :
    laterStart (laterStart a b) c = laterStart a (laterStart b c) := by
  apply UInt64.toNat_inj.mp
  simp only [toNat_laterStart]
  omega

theorem le_laterStart_left (a b : UInt64) : a ≤ laterStart a b := by
  rw [UInt64.le_iff_toNat_le, toNat_laterStart]
  exact Nat.le_max_left _ _

theorem le_laterStart_right (a b : UInt64) : b ≤ laterStart a b := by
  rw [UInt64.le_iff_toNat_le, toNat_laterStart]
  exact Nat.le_max_right _ _

theorem zero_laterStart (a : UInt64) : laterStart 0 a = a := by
  apply UInt64.toNat_inj.mp
  rw [toNat_laterStart]
  exact Nat.zero_max _

theorem laterStart_zero (a : UInt64) : laterStart a 0 = a := by
  apply UInt64.toNat_inj.mp
  rw [toNat_laterStart]
  exact Nat.max_zero _

/-! ## Ends -/

theorem earlierEnd_some (a b : UInt64) : earlierEnd (some a) (some b) = some (earlier a b) := rfl

theorem earlierEnd_none (a : Option UInt64) : earlierEnd a none = a := by
  cases a <;> rfl

theorem none_earlierEnd (a : Option UInt64) : earlierEnd none a = a := rfl

theorem earlierEnd_assoc (a b c : Option UInt64) :
    earlierEnd (earlierEnd a b) c = earlierEnd a (earlierEnd b c) := by
  cases a with
  | none => rfl
  | some a =>
      cases b with
      | none => rw [earlierEnd_none, none_earlierEnd]
      | some b =>
          cases c with
          | none => rw [earlierEnd_none, earlierEnd_none]
          | some c =>
              rw [earlierEnd_some, earlierEnd_some, earlierEnd_some, earlierEnd_some]
              congr 1
              apply UInt64.toNat_inj.mp
              simp only [toNat_earlier]
              omega

/-- The end of a length is the end it was computed from, unless that lies before the start. -/
theorem saturatingAdd_saturatingSub (start stop : UInt64) :
    saturatingAdd start (saturatingSub stop start) = laterStart start stop := by
  apply UInt64.toNat_inj.mp
  rw [toNat_saturatingAdd, toNat_saturatingSub, toNat_laterStart]
  have := toNat_le_largestWord start
  have := toNat_le_largestWord stop
  omega

/-- A length is the same for an end before the start and for the start itself. -/
theorem saturatingSub_laterStart (start stop : UInt64) :
    saturatingSub (laterStart start stop) start = saturatingSub stop start := by
  apply UInt64.toNat_inj.mp
  rw [toNat_saturatingSub, toNat_saturatingSub, toNat_laterStart]
  omega

/-- The same of an end that may be absent. -/
theorem map_saturatingAdd_saturatingSub (start : UInt64) (stop : Option UInt64) :
    (stop.map (saturatingSub · start)).map (saturatingAdd start) = stop.map (laterStart start) := by
  rw [Option.map_map]
  congr 1
  funext n
  exact saturatingAdd_saturatingSub start n

theorem map_saturatingSub_laterStart (start : UInt64) (stop : Option UInt64) :
    (stop.map (laterStart start)).map (saturatingSub · start) = stop.map (saturatingSub · start) := by
  rw [Option.map_map]
  congr 1
  funext d
  exact saturatingSub_laterStart start d

section

variable {s t u : UInt64}

/-- Clamping at a start and then at a later one is clamping at the later one. -/
theorem laterStart_laterStart (hs : s ≤ u) (d : UInt64) :
    laterStart u (laterStart s d) = laterStart u d := by
  rw [UInt64.le_iff_toNat_le] at hs
  apply UInt64.toNat_inj.mp
  simp only [toNat_laterStart]
  omega

theorem laterStart_earlier (hs : s ≤ u) (ht : t ≤ u) (d e : UInt64) :
    laterStart u (earlier (laterStart s d) (laterStart t e)) = laterStart u (earlier d e) := by
  rw [UInt64.le_iff_toNat_le] at hs ht
  apply UInt64.toNat_inj.mp
  simp only [toNat_laterStart, toNat_earlier]
  omega

/-- **Clamping in between does not show.** Ends that were clamped at their own starts, combined and
clamped at a later start, are the combined ends clamped there. -/
theorem map_laterStart_earlierEnd (hs : s ≤ u) (ht : t ≤ u) (d e : Option UInt64) :
    (earlierEnd (d.map (laterStart s)) (e.map (laterStart t))).map (laterStart u)
      = (earlierEnd d e).map (laterStart u) := by
  cases d with
  | none =>
      cases e with
      | none => rfl
      | some e => exact congrArg some (laterStart_laterStart ht e)
  | some d =>
      cases e with
      | none => exact congrArg some (laterStart_laterStart hs d)
      | some e => exact congrArg some (laterStart_earlier hs ht d e)

end

/-! ## Merged windows -/

variable (w v : Window)

theorem min_merge : (w.merge v).min = laterStart w.min v.min := rfl

theorem limit_merge :
    (w.merge v).limit = (earlierEnd w.max v.max).map (saturatingSub · (w.merge v).min) := rfl

/-- The end of a merged window is the earlier end, but not before the later start. -/
theorem max_merge : (w.merge v).max = (earlierEnd w.max v.max).map (laterStart (w.merge v).min) :=
  map_saturatingAdd_saturatingSub _ _

/-! ## Moved bounds -/

theorem max_setMin (n : UInt64) : (w.setMin n).max = w.max.map (laterStart n) :=
  map_saturatingAdd_saturatingSub n w.max

theorem max_setMax (n : Option UInt64) : (w.setMax n).max = n.map (laterStart w.min) :=
  map_saturatingAdd_saturatingSub w.offset n

/-- No window ends before its start. -/
theorem max_eq_map_laterStart : w.max = w.max.map (laterStart w.min) := by
  show w.max = w.max.map (laterStart w.offset)
  unfold Window.max
  rw [Option.map_map]
  congr 1
  funext limit
  apply UInt64.toNat_inj.mp
  rw [Function.comp_apply, toNat_laterStart, toNat_saturatingAdd]
  have := toNat_le_largestWord w.offset
  omega

end Window

end RecordQuery
