/-!
# RecordQuery.Numeric.Double — binary64 numbers as exact mathematics

A finite double is a sign and a magnitude code: the low 63 bits of its encoding, read as a natural
number.  Codes of one sign stand in the order of the values they encode, so comparison is integer
comparison of signed codes and both zeros share one place.  Rounding starts from an exact quotient
of naturals.  Arithmetic on doubles is outside this module: nothing here adds or multiplies them.
-/

namespace RecordQuery

/-! ## Constants and powers -/

/-- Two to the power `k`. -/
def twoTo (k : Nat) : Nat :=
  Nat.pow 2 k

/-- Ten to the power `k`. -/
def tenTo (k : Nat) : Nat :=
  Nat.pow 10 k

/-- The number of magnitude codes with one exponent, two to the power 52. -/
def binadeSize : Nat := 4503599627370496

/-- The magnitude code of infinity, the first one that no finite double has: `2047 * binadeSize`. -/
def infinityCode : Nat := 9218868437227405312

/-! ## Values -/

/-- A finite binary64 number: its sign and the low 63 bits of its encoding. -/
structure FiniteDouble where
  negative : Bool
  code : Nat
  code_lt : code < infinityCode
deriving DecidableEq

/-- A binary64 number; all payloads of not-a-number are one value. -/
inductive Double where
  | finite (x : FiniteDouble)
  | infinite (negative : Bool)
  | nan
deriving DecidableEq

/-! ## Order -/

namespace FiniteDouble

/-- The signed code, which orders finite doubles by value. -/
def key (x : FiniteDouble) : Int :=
  if x.negative then -(x.code : Int) else x.code

/-- Both zeros have the code zero, and no other double has it. -/
def isZero (x : FiniteDouble) : Bool :=
  x.code == 0

/-- The integer `m` of the value `m * 2 ^ x.exponent`. -/
def significand (x : FiniteDouble) : Nat :=
  if x.code / binadeSize = 0 then x.code % binadeSize else binadeSize + x.code % binadeSize

/-- The power of two that scales the significand. -/
def exponent (x : FiniteDouble) : Int :=
  if x.code / binadeSize = 0 then -1074 else (x.code / binadeSize : Nat) - 1075

/-- Doubles just below a power of two lie twice as close as those above it. -/
def isBinadeStart (x : FiniteDouble) : Bool :=
  x.code % binadeSize == 0 && 1 < x.code / binadeSize

end FiniteDouble

namespace Double

/-- The place of a double in the order of all doubles; not-a-number has none. -/
def key : Double → Option Int
  | finite x => some x.key
  | infinite true => some (-(infinityCode : Int))
  | infinite false => some infinityCode
  | nan => none

/-- The order of two doubles, absent as soon as one of them is not a number. -/
def compare? (a b : Double) : Option Ordering :=
  match a.key, b.key with
  | some x, some y => some (compare x y)
  | _, _ => none

/-- Swapping two doubles reverses their order. -/
theorem compare?_swap (x y : Double) : x.compare? y = (y.compare? x).map Ordering.swap := by
  unfold compare?
  cases x.key with
  | none => cases y.key <;> rfl
  | some m =>
      cases y.key with
      | none => rfl
      | some n => exact congrArg some Std.OrientedCmp.eq_swap

/-! ## Rounding -/

/-- The natural number nearest to `num / den`, a half going to the even neighbour. -/
def roundQuotient (num den : Nat) : Nat :=
  let quotient := num / den
  let twice := 2 * (num % den)
  if twice < den then quotient
  else if den < twice then quotient + 1
  else quotient + quotient % 2

/-- The largest `e` with `2 ^ e ≤ num / den`, for a positive quotient. -/
def floorLog2 (num den : Nat) : Int :=
  let estimate : Int := (num.log2 : Int) - den.log2
  if num * twoTo (-estimate).toNat < den * twoTo estimate.toNat then estimate - 1 else estimate

/-- The magnitude code of the double nearest to `num / den`, counting on past infinity. -/
def nearestCode (num den : Nat) : Nat :=
  if num = 0 then 0
  else
    let scale : Int := max (floorLog2 num den - 52) (-1074)
    (scale + 1074).toNat * binadeSize
      + roundQuotient (num * twoTo (-scale).toNat) (den * twoTo scale.toNat)

/-- The double nearest to a signed quotient; magnitudes past the last finite one are infinite. -/
def ofRatio (negative : Bool) (num den : Nat) : Double :=
  if h : nearestCode num den < infinityCode then
    finite ⟨negative, nearestCode num den, h⟩
  else infinite negative

/-- The double nearest to an integer. -/
def ofInt (n : Int) : Double :=
  ofRatio (n < 0) n.natAbs 1

/-- The double nearest to `digits * 10 ^ exponent`, with the given sign.

Exponents far outside the range of doubles are settled first, so that no huge power is formed:
`digits` lies between `1` and `10 ^ (digits.log2 + 1)`. -/
def ofDecimal (negative : Bool) (digits : Nat) (exponent : Int) : Double :=
  if digits = 0 then ofRatio negative 0 1
  else if 400 < exponent then infinite negative
  else if exponent < -(digits.log2 : Int) - 400 then ofRatio negative 0 1
  else ofRatio negative (digits * tenTo exponent.toNat) (tenTo (-exponent).toNat)

end Double

end RecordQuery
