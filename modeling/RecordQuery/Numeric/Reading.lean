import RecordQuery.Numeric.Double
import RecordQuery.Numeric.Numeral

/-!
# RecordQuery.Numeric.Reading — doubles written by hand

The tolerant numeral grammar used when text meets a number: an optional sign, then either digits
with an optional point and exponent, or a name of infinity or of not-a-number.  At least one digit
stands before or after the point, and an exponent has at least one digit.
-/

namespace RecordQuery

/-- The parts of an unsigned numeral: all its digits, and how many of them follow the point. -/
structure Mantissa where
  digits : List Char
  fractionLength : Nat

namespace Double

/-- The leading digits of a text, and what follows them. -/
def spanDigits (cs : List Char) : List Char × List Char :=
  (cs.takeWhile Numeral.isDigit, cs.dropWhile Numeral.isDigit)

/-- Digits with an optional point among, before or after them. -/
def mantissa? (cs : List Char) : Option (Mantissa × List Char) :=
  let (whole, rest) := spanDigits cs
  let (fraction, rest) :=
    match rest with
    | '.' :: after => spanDigits after
    | _ => ([], rest)
  if whole.isEmpty && fraction.isEmpty then none
  else some (⟨whole ++ fraction, fraction.length⟩, rest)

/-- A whole text that is a signed run of digits. -/
def exponent? (cs : List Char) : Option Int :=
  let (negative, ds) :=
    match cs with
    | '-' :: ds => (true, ds)
    | '+' :: ds => (false, ds)
    | ds => (false, ds)
  if !ds.isEmpty && ds.all Numeral.isDigit then
    some (if negative then -(Numeral.value ds : Int) else Numeral.value ds)
  else none

/-- A whole text that is an unsigned decimal, with or without exponent. -/
def decimal? (negative : Bool) (cs : List Char) : Option Double := do
  let (m, rest) ← mantissa? cs
  let e ←
    match rest with
    | [] => some 0
    | c :: ds => if c = 'e' ∨ c = 'E' then exponent? ds else none
  return ofDecimal negative (Numeral.value m.digits) (e - m.fractionLength)

/-- A whole text that is an unsigned number; names are read in any ASCII case. -/
def unsigned? (negative : Bool) (cs : List Char) : Option Double :=
  let lowered := cs.map Char.toLower
  if lowered = "inf".toList ∨ lowered = "infinity".toList then some (infinite negative)
  else if lowered = "nan".toList then some nan
  else decimal? negative cs

/-- The number that a whole text denotes, if it follows the grammar. -/
def ofText? : List Char → Option Double
  | '-' :: cs => unsigned? true cs
  | '+' :: cs => unsigned? false cs
  | cs => unsigned? false cs

end Double

end RecordQuery
