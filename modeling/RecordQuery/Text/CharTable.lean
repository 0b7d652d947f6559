/-!
# RecordQuery.Text.CharTable — character properties and mappings as ascending tables

A property is a list of closed code point ranges; a simple mapping is a list of runs, each of which
moves every `step`-th code point of a range by one distance.  Both lists ascend, so a look-up stops
at the first entry that begins past the character.
-/

namespace RecordQuery.Text

/-- Whether a code point lies in one of the ascending closed ranges. -/
def inRanges (n : Nat) : List (Nat × Nat) → Bool
  | [] => false
  | (first, last) :: rest =>
    if n < first then false
    else if n ≤ last then true
    else inRanges n rest

/-- Code points `first, first + step, …` up to `last`, each moved by `distance`. -/
structure CharRun where
  first : Nat
  last : Nat
  step : Nat
  distance : Int

/-- The image of a code point; one in no run stays. -/
def mapThrough (n : Nat) : List CharRun → Nat
  | [] => n
  | run :: rest =>
    if n < run.first then n
    else if n ≤ run.last ∧ (n - run.first) % run.step = 0 then (n + run.distance).toNat
    else mapThrough n rest

/-- The image of a character under a table of runs. -/
def mapChar (table : List CharRun) (c : Char) : Char :=
  Char.ofNat (mapThrough c.toNat table)

end RecordQuery.Text
