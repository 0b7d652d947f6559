import RecordQuery.Text.Hex
import RecordQuery.Text.PrintableTable

/-!
# RecordQuery.Text.Quoted — text quoted for a human reader

Diagnostics show a text between double quotes.  Quotes, backslashes and the common controls have
short escapes; combining and invisible characters are shown by their code point.
-/

namespace RecordQuery.Text

/-- Whether a character can be shown as it is: it leaves a mark, and that mark does not combine with
the one before it. -/
def isPrintable (c : Char) : Bool :=
  !inRanges c.toNat combiningRanges && !inRanges c.toNat invisibleRanges

/-- A character as it stands in a quoted text. -/
def quotedChar (c : Char) : List Char :=
  if c = '\u0000' then ['\\', '0']
  else if c = '\t' then ['\\', 't']
  else if c = '\r' then ['\\', 'r']
  else if c = '\n' then ['\\', 'n']
  else if c = '"' then ['\\', '"']
  else if c = '\\' then ['\\', '\\']
  else if isPrintable c then [c]
  else ['\\', 'u', '\x7b'] ++ hexNumeral c.toNat ++ ['\x7d']

/-- A text between double quotes. -/
def quoted (s : String) : String :=
  String.ofList ('"' :: s.toList.flatMap quotedChar ++ ['"'])

end RecordQuery.Text
