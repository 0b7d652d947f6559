import RecordQuery.Numeric.Layout

/-!
# RecordQuery.Json.Number — the numbers of JSON values

A number without point and exponent that fits a signed or an unsigned 64-bit word is kept as that
integer; every other number is the nearest finite double.  Comparison stays with integers while both
sides fit one kind of word and falls back to doubles otherwise.
-/

namespace RecordQuery

/-! ## Stored integers -/

/-- An integer that fits a signed or an unsigned 64-bit word: at least minus two to the power 63 and
less than two to the power 64. -/
structure WordInt where
  val : Int
  lower : -9223372036854775808 ≤ val
  upper : val < 18446744073709551616
deriving DecidableEq

namespace WordInt

/-- The word of an integer, if one is wide enough. -/
def ofInt? (n : Int) : Option WordInt :=
  if h : -9223372036854775808 ≤ n ∧ n < 18446744073709551616 then some ⟨n, h.1, h.2⟩ else none

/-- Whether the integer fits a signed word. -/
def fitsSigned (n : WordInt) : Bool :=
  n.val < 9223372036854775808

/-- Whether the integer fits an unsigned word. -/
def fitsUnsigned (n : WordInt) : Bool :=
  0 ≤ n.val

end WordInt

/-! ## Numbers -/

/-- A JSON number: a stored integer or a finite double. -/
inductive Number where
  | int (n : WordInt)
  | double (x : FiniteDouble)
deriving DecidableEq

namespace Number

/-- A signed word as a number. -/
def ofInt64 (n : Int64) : Number :=
  int ⟨n.toInt, n.le_toInt, Int.lt_trans n.toInt_lt (by decide)⟩

/-- An unsigned word as a number. -/
def ofUInt64 (n : UInt64) : Number :=
  int ⟨n.toNat, Int.le_trans (by decide) (Int.natCast_nonneg _), by
    have := n.toNat_lt
    omega⟩

/-- The double nearest to a number. -/
def toDouble : Number → Double
  | int n => Double.ofInt n.val
  | double x => .finite x

/-- The order of two numbers: as signed integers, else as unsigned integers, else as doubles. -/
def compare? : Number → Number → Option Ordering
  | int a, int b =>
    if a.fitsSigned && b.fitsSigned then some (compare a.val b.val)
    else if a.fitsUnsigned && b.fitsUnsigned then some (compare a.val b.val)
    else (Double.ofInt a.val).compare? (Double.ofInt b.val)
  | a, b => a.toDouble.compare? b.toDouble

/-- Swapping two numbers reverses their order. -/
theorem compare?_swap (m n : Number) : m.compare? n = (n.compare? m).map Ordering.swap := by
  cases m with
  | double x =>
      cases n with
      | double y => exact Double.compare?_swap (.finite x) (.finite y)
      | int b => exact Double.compare?_swap (.finite x) (Double.ofInt b.val)
  | int a =>
      cases n with
      | double y => exact Double.compare?_swap (Double.ofInt a.val) (.finite y)
      | int b =>
          rw [compare?, compare?, Bool.and_comm b.fitsSigned, Bool.and_comm b.fitsUnsigned]
          split
          · exact congrArg some Std.OrientedCmp.eq_swap
          · split
            · exact congrArg some Std.OrientedCmp.eq_swap
            · exact Double.compare?_swap _ _

/-- Zero, in either storage and with either sign. -/
def isZero : Number → Bool
  | int n => n.val == 0
  | double x => x.isZero

/-- The text of a number in JSON. -/
def text : Number → List Char
  | int n => Numeral.ofInt n.val
  | double x => Layout.exchange.finiteText x

end Number

end RecordQuery
