/-!
# RecordQuery.Numeric.Numeral — decimal numerals of natural numbers

The written form of a natural number (no sign, no leading zero) and the value of a run of digits.
-/

namespace RecordQuery.Numeral

/-- The character of a digit below ten. -/
def digitChar (d : Nat) : Char :=
  Char.ofNat (48 + d)

/-- Only the ten ASCII digits are digits. -/
def isDigit (c : Char) : Bool :=
  '0' ≤ c && c ≤ '9'

/-- The value of one digit. -/
def digitValue (c : Char) : Nat :=
  c.toNat - 48

/-- The decimal numeral of `n`, most significant digit first. -/
def digits (n : Nat) : List Char :=
  if n < 10 then [digitChar n] else digits (n / 10) ++ [digitChar (n % 10)]

/-- The decimal numeral of `n` as a string. -/
def string (n : Nat) : String :=
  String.ofList (digits n)

/-- The number that a run of digits denotes; the empty run denotes zero. -/
def value (cs : List Char) : Nat :=
  cs.foldl (fun total c => 10 * total + digitValue c) 0

/-- The decimal numeral of an integer, with a minus sign below zero. -/
def ofInt (n : Int) : List Char :=
  if n < 0 then '-' :: digits n.natAbs else digits n.natAbs

end RecordQuery.Numeral
