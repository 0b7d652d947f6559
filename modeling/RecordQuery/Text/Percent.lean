import RecordQuery.Text.Hex

/-!
# RecordQuery.Text.Percent — percent-encoded text

Letters, digits and `- . _ ~` stand for themselves; every byte of the UTF-8 form of any other
character is written as a percent sign and two upper-case hexadecimal digits.  No encoded text holds
a separator of query strings.
-/

namespace RecordQuery.Text

/-- The characters that need no encoding. -/
def isUnreserved (c : Char) : Bool :=
  ('a' ≤ c && c ≤ 'z') || ('A' ≤ c && c ≤ 'Z') || ('0' ≤ c && c ≤ '9')
    || c == '-' || c == '.' || c == '_' || c == '~'

/-- The three characters that stand for a byte. -/
def percentByte (b : UInt8) : List Char :=
  ['%', hexUpper (b.toNat / 16), hexUpper (b.toNat % 16)]

/-- The encoded form of one character. -/
def percentChar (c : Char) : List Char :=
  if isUnreserved c then [c] else (String.utf8EncodeChar c).flatMap percentByte

/-- The encoded form of a text. -/
def percentEncode (cs : List Char) : List Char :=
  cs.flatMap percentChar

end RecordQuery.Text
