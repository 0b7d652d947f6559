import RecordQuery.Numeric.Double
import RecordQuery.Numeric.Numeral

/-!
# RecordQuery.Numeric.Shortest — the fewest digits that read back

The decimals that round to a double fill an interval around it, whose ends belong to it exactly when
the significand is even.  The search tries grids of one significant digit, of two, and so on: on
each grid only the two neighbours of the value matter, the first grid with a hit wins, and of two
hits the nearer one.  Which neighbour an exact tie takes is left to the caller.
-/

namespace RecordQuery

/-- The number `digits * 10 ^ exponent`. -/
structure Decimal where
  digits : Nat
  exponent : Int
deriving DecidableEq

/-- Which neighbour a value halfway between two decimals of a grid takes. -/
inductive Tie where
  | toEven
  | upward
deriving DecidableEq

namespace Decimal

/-- Powers of ten with an integer exponent, as numerator and denominator. -/
def powerOfTen (e : Int) : Nat × Nat :=
  (tenTo e.toNat, tenTo (-e).toNat)

/-- The same number without trailing zeros; `budget` bounds how many are dropped. -/
def trim : Nat → Decimal → Decimal
  | 0, d => d
  | budget + 1, d =>
    if d.digits ≠ 0 ∧ d.digits % 10 = 0 then trim budget ⟨d.digits / 10, d.exponent + 1⟩ else d

end Decimal

/-- The decimals that round to a positive value: numerators of the value and of the two ends over a
common denominator. -/
structure RoundingInterval where
  low : Nat
  value : Nat
  high : Nat
  denominator : Nat
  endsIncluded : Bool

namespace RoundingInterval

/-- The interval of a finite double other than zero, counted in quarters of its last place. -/
def ofDouble (x : FiniteDouble) : RoundingInterval :=
  let scale := x.exponent - 2
  let up := twoTo scale.toNat
  { low := (4 * x.significand - if x.isBinadeStart then 1 else 2) * up
    value := 4 * x.significand * up
    high := (4 * x.significand + 2) * up
    denominator := twoTo (-scale).toNat
    endsIncluded := x.significand % 2 == 0 }

/-- Whether a decimal lies in the interval. -/
def contains (i : RoundingInterval) (d : Decimal) : Bool :=
  let (num, den) := Decimal.powerOfTen d.exponent
  let point := d.digits * num * i.denominator
  if i.endsIncluded then i.low * den ≤ point && point ≤ i.high * den
  else i.low * den < point && point < i.high * den

/-- The largest `e` with `10 ^ e` at most the value: one of the neighbours of a logarithm estimate.
-/
def leadingExponent (i : RoundingInterval) : Int :=
  let estimate := Double.floorLog2 i.value i.denominator * 30103 / 100000
  let reaches (e : Int) : Bool :=
    let (num, den) := Decimal.powerOfTen e
    num * i.denominator ≤ i.value * den
  if reaches (estimate + 1) then estimate + 1
  else if reaches estimate then estimate
  else estimate - 1

/-- The neighbour of the value on the grid of multiples of `10 ^ e` that rounds back to it. -/
def nearestOn (i : RoundingInterval) (tie : Tie) (e : Int) : Option Decimal :=
  let (num, den) := Decimal.powerOfTen e
  let step := num * i.denominator
  let below := i.value * den / step
  let twice := 2 * (i.value * den % step)
  let lower : Decimal := ⟨below, e⟩
  let upper : Decimal := ⟨below + 1, e⟩
  match i.contains lower, i.contains upper with
  | false, false => none
  | true, false => some lower
  | false, true => some upper
  | true, true =>
    if twice < step then some lower
    else if step < twice then some upper
    else match tie with
      | .upward => some upper
      | .toEven => if below % 2 = 0 then some lower else some upper

/-- The decimal of fewest digits in the interval.  Seventeen digits always suffice, so the value cut
to seventeen digits is never used. -/
def shortest (i : RoundingInterval) (tie : Tie) : Decimal :=
  let lead := i.leadingExponent
  match (List.range 17).findSome? fun k : Nat => i.nearestOn tie (lead - k) with
  | some d => d.trim 17
  | none => ⟨i.value / i.denominator, 0⟩

end RoundingInterval

namespace FiniteDouble

/-- The shortest decimal that reads back as the magnitude of `x`; zero is `0`. -/
def shortest (tie : Tie) (x : FiniteDouble) : Decimal :=
  if x.isZero then ⟨0, 0⟩ else (RoundingInterval.ofDouble x).shortest tie

end FiniteDouble

end RecordQuery
