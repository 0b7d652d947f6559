import RecordQuery.Json.Basic
import RecordQuery.Numeric.Reading
import RecordQuery.Text.Blank

/-!
# RecordQuery.Json.Loose — the tolerant reading of values in tests

Filters read records tolerantly: a missing member counts like `null`, values are truthy or falsy,
scalars have a text form, and a number meets a numeric string as a number.  `none` stands for a
missing value throughout.
-/

namespace RecordQuery.Json

/-! ## Presence -/

/-- Null or missing. -/
def isNullish : Option Json → Bool
  | none | some null => true
  | _ => false

/-- All values are truthy but null, `false`, zero and the empty string. -/
def truthy : Json → Bool
  | null => false
  | bool b => b
  | number n => !n.isZero
  | string s => !s.isEmpty
  | array _ | object _ => true

/-- A missing value is not truthy. -/
def isTruthy (v : Option Json) : Bool :=
  v.any truthy

/-! ## Text form -/

/-- The text of a scalar; null and containers have none. -/
def scalarText? : Json → Option (List Char)
  | string s => some s.toList
  | number n => some n.text
  | bool true => some "true".toList
  | bool false => some "false".toList
  | _ => none

/-- The number that a string holds between blanks. -/
def numberIn? (s : String) : Option Double :=
  Double.ofText? (Text.trim s.toList)

/-! ## Order and equality -/

/-- The order of two scalars of one kind; strings by code point, `false` before `true`. -/
def compareScalars : Json → Json → Option Ordering
  | number a, number b => a.compare? b
  | string a, string b => some (compare a b)
  | bool a, bool b => some (compare a b)
  | _, _ => none

/-- The order of two values, a number and a numeric string being compared as doubles. -/
def compareLoose : Json → Json → Option Ordering
  | number n, string s => (numberIn? s).bind n.toDouble.compare?
  | string s, number n => (numberIn? s).bind (Double.compare? · n.toDouble)
  | a, b => compareScalars a b

/-- Equality of a record value with an expected value: numbers by value, a number and a numeric
string as doubles, all else by structure.

Two containers are equal only as they are stored, so inside of them zero and negative zero differ.
No filter gets there: the values that filters expect are strings and numbers. -/
def looseEq : Json → Json → Bool
  | number a, number b => a.compare? b == some .eq
  | number n, string s => (numberIn? s).bind (Double.compare? · n.toDouble) == some .eq
  | string s, number n => (numberIn? s).bind (Double.compare? · n.toDouble) == some .eq
  | a, b => a == b

end RecordQuery.Json
