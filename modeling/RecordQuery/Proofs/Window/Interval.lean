import RecordQuery.Proofs.Window.Pages

/-!
# RecordQuery.Proofs.Window.Interval — windows move as intervals do

A window keeps an offset and a limit, words whose sums and differences are cut off at the largest
word and at zero.  Its bounds are those of an interval of numbers, and moving a bound or merging
another window in does to them what it does to an interval without words: `Window.interval_run`.
An interval never ends before its start: an end that would come to lie there is put at the start.

Only a window that was put together from parts can have an offset and a limit whose sum is no word.
Every step leaves a limit that was computed from an end, so after the first step the sum is exact.
-/

namespace RecordQuery

/-! ## Intervals of numbers -/

/-- The positions from `lower` to before `upper`, where an unbounded interval ends after all of
them. -/
structure Interval where
  lower : Nat
  upper : ℕ∞

namespace Interval

/-- Moves the start; an end before it moves along. -/
noncomputable def setMin (i : Interval) (n : Nat) : Interval :=
  ⟨n, max i.upper n⟩

/-- Moves the end, but not before the start. -/
noncomputable def setMax (i : Interval) (n : ℕ∞) : Interval :=
  ⟨i.lower, max n i.lower⟩

/-- The intersection of two intervals; where they have no position in common it is empty at the
later start. -/
noncomputable def merge (i j : Interval) : Interval :=
  ⟨max i.lower j.lower, max (min i.upper j.upper) (max i.lower j.lower : Nat)⟩

end Interval

namespace Window

/-- The interval of a window. -/
def interval (w : Window) : Interval :=
  ⟨w.min.toNat, w.stop⟩

/-! ## Steps -/

/-- What moves the bounds of a window. -/
inductive Step where
  | setMin (n : UInt64)
  | setMax (n : Option UInt64)
  | merge (v : Window)

/-- Takes a step with a window. -/
def Step.move (w : Window) : Step → Window
  | setMin n => w.setMin n
  | setMax n => w.setMax n
  | merge v => w.merge v

/-- Takes a step with an interval. -/
noncomputable def Step.moveInterval (i : Interval) : Step → Interval
  | setMin n => i.setMin n.toNat
  | setMax n => i.setMax (endOf n)
  | merge v => i.merge v.interval

/-- Takes several steps with a window. -/
def run (w : Window) (steps : List Step) : Window :=
  steps.foldl Step.move w

end Window

/-- Takes several steps with an interval. -/
noncomputable def Interval.run (i : Interval) (steps : List Window.Step) : Interval :=
  steps.foldl Window.Step.moveInterval i

namespace Window

/-! ## One step -/

/-- **A step moves the interval of a window.** -/
theorem interval_move (w : Window) (step : Step) :
    (step.move w).interval = step.moveInterval w.interval := by
  cases step with
  | setMin n =>
      show Interval.mk n.toNat (endOf (w.setMin n).max) = ⟨n.toNat, Max.max w.stop n.toNat⟩
      rw [max_setMin, endOf_map_laterStart, stop_eq_endOf]
  | setMax n =>
      show Interval.mk w.min.toNat (endOf (w.setMax n).max)
        = ⟨w.min.toNat, Max.max (endOf n) w.min.toNat⟩
      rw [max_setMax, endOf_map_laterStart]
  | merge v =>
      have hmin : (w.merge v).min.toNat = Max.max w.min.toNat v.min.toNat := toNat_laterStart _ _
      show Interval.mk (w.merge v).min.toNat (w.merge v).stop = Interval.merge _ _
      rw [stop_merge, max_comm ((w.merge v).min.toNat : ℕ∞), hmin]
      rfl

/-! ## Limits that were computed from ends -/

/-- The end that the limit of a window stands for is a word. -/
def EndFits (w : Window) : Prop :=
  ∀ limit ∈ w.limit, w.offset.toNat + limit.toNat ≤ largestWord

/-- A limit that is left between a start and an end fits. -/
theorem endFits_of_limit_eq {w : Window} (stop : Option UInt64)
    (h : w.limit = stop.map (saturatingSub · w.offset)) : w.EndFits := by
  intro limit hlimit
  rw [h] at hlimit
  obtain ⟨n, -, rfl⟩ := Option.map_eq_some_iff.mp hlimit
  rw [toNat_saturatingSub]
  have := toNat_le_largestWord n
  have := toNat_le_largestWord w.offset
  omega

/-- **After every step the end fits.** -/
theorem endFits_move (w : Window) (step : Step) : (step.move w).EndFits := by
  cases step with
  | setMin n => exact endFits_of_limit_eq w.max rfl
  | setMax n => exact endFits_of_limit_eq n rfl
  | merge v => exact endFits_of_limit_eq _ (limit_merge w v)

/-- Where the end fits it is the sum of offset and limit. -/
theorem EndFits.exists_max {w : Window} (h : w.EndFits) {limit : UInt64}
    (hlimit : w.limit = some limit) :
    ∃ stop, w.max = some stop ∧ stop.toNat = w.offset.toNat + limit.toNat := by
  refine ⟨saturatingAdd w.offset limit, ?_, ?_⟩
  · rw [Window.max, hlimit, Option.map_some]
  · rw [toNat_saturatingAdd]
    exact Nat.min_eq_left (h limit hlimit)

/-! ## Runs of steps -/

theorem interval_eq_of_run (w : Window) (steps : List Step) :
    (w.run steps).interval = w.interval.run steps := by
  induction steps generalizing w with
  | nil => rfl
  | cons step steps ih =>
      show ((step.move w).run steps).interval = (step.moveInterval w.interval).run steps
      rw [ih, interval_move]

theorem EndFits.run {w : Window} (h : w.EndFits) (steps : List Step) : (w.run steps).EndFits := by
  induction steps generalizing w with
  | nil => exact h
  | cons step steps ih => exact ih (endFits_move w step)

/-- No window ends before it starts, and every end is a word. -/
theorem lower_le_of_upper_eq {w : Window} {stop : Nat} (h : w.interval.upper = stop) :
    w.interval.lower ≤ stop ∧ stop < 2 ^ 64 := by
  have hmax : endOf w.max = stop := h
  cases hw : w.max with
  | none =>
      rw [hw] at hmax
      cases hmax
  | some n =>
      rw [hw] at hmax
      obtain rfl : n.toNat = stop := ENat.natCast_inj.mp hmax
      have hclamped := w.max_eq_map_laterStart
      rw [hw, Option.map_some, Option.some.injEq] at hclamped
      have hle := le_laterStart_left w.min n
      rw [← hclamped, UInt64.le_iff_toNat_le] at hle
      exact ⟨hle, n.toNat_lt⟩

/-- **Windows refine intervals.** Through any steps the bounds of a window move as those of an
interval do.  A window that is reached and has an end has it at a word, not before its start, and
from the first step on the sum of its offset and limit is exactly that end. -/
theorem interval_run (w : Window) :
    (∀ steps : List Step, (w.run steps).interval = w.interval.run steps
      ∧ ∀ stop : Nat, (w.run steps).interval.upper = stop →
        (w.run steps).interval.lower ≤ stop ∧ stop < 2 ^ 64)
    ∧ ∀ (step : Step) (steps : List Step), ∀ limit ∈ (w.run (step :: steps)).limit,
        (w.run (step :: steps)).offset.toNat + limit.toNat ≤ 2 ^ 64 - 1
        ∧ ∃ stop, (w.run (step :: steps)).max = some stop
          ∧ stop.toNat = (w.run (step :: steps)).offset.toNat + limit.toNat := by
  refine ⟨fun steps => ⟨interval_eq_of_run w steps, fun stop => lower_le_of_upper_eq⟩, ?_⟩
  intro step steps limit hlimit
  have hfits : (w.run (step :: steps)).EndFits := (endFits_move w step).run steps
  exact ⟨hfits limit hlimit, hfits.exists_max hlimit⟩

/-- A window with a limit that leads past the largest word. -/
def farWindow : Window :=
  { offset := 18446744073709551615, limit := some 5 }

/-- Steps back to the positions 5 and 6. -/
def stepsBack : List Step :=
  [.setMin 3, .setMax (some 10), .merge { offset := 5, limit := some 2 }]

/-- The sum that does not fit is cut off once, and the steps after it are exact. -/
theorem interval_run_of_farWindow :
    farWindow.interval.run stepsBack = ⟨5, 7⟩
      ∧ (farWindow.run stepsBack).interval.lower ≤ 7
      ∧ (farWindow.run stepsBack).offset.toNat + 2 ≤ 2 ^ 64 - 1
      ∧ ∃ stop, (farWindow.run stepsBack).max = some stop
        ∧ stop.toNat = (farWindow.run stepsBack).offset.toNat + 2 := by
  have hreached : (farWindow.run stepsBack).interval = ⟨5, 7⟩ := rfl
  obtain ⟨hinterval, hbounds⟩ := (interval_run farWindow).1 stepsBack
  refine ⟨hinterval.symm.trans hreached, (hbounds 7 rfl).1, ?_⟩
  exact (interval_run farWindow).2 (.setMin 3) _ 2 rfl

end Window

end RecordQuery
