import RecordQuery.Json.Basic
import RecordQuery.Text.Hex

/-!
# RecordQuery.Json.Printer — JSON text

Compact text: no blanks, members in their order, and in strings only quotes, backslashes and
controls are escaped.
-/

namespace RecordQuery.Json

/-- A character as it stands in a string literal. -/
def escapeChar (c : Char) : List Char :=
  if c = '"' then ['\\', '"']
  else if c = '\\' then ['\\', '\\']
  else if c = '\x08' then ['\\', 'b']
  else if c = '\t' then ['\\', 't']
  else if c = '\n' then ['\\', 'n']
  else if c = '\x0c' then ['\\', 'f']
  else if c = '\r' then ['\\', 'r']
  else if c.toNat < 0x20 then
    ['\\', 'u', '0', '0', Text.hexLower (c.toNat / 16), Text.hexLower (c.toNat % 16)]
  else [c]

/-- The string literal of a text. -/
def stringText (s : String) : List Char :=
  '"' :: s.toList.flatMap escapeChar ++ ['"']

/-- Texts with commas between them. -/
def separated (texts : List (List Char)) : List Char :=
  [','].intercalate texts

mutual

/-- The compact text of a value. -/
def text : Json → List Char
  | null => ['n', 'u', 'l', 'l']
  | bool true => ['t', 'r', 'u', 'e']
  | bool false => ['f', 'a', 'l', 's', 'e']
  | number n => n.text
  | string s => stringText s
  | array xs => '[' :: separated (itemTexts xs) ++ [']']
  | object ms => '\x7b' :: separated (memberTexts ms) ++ ['\x7d']

/-- The texts of the items of an array. -/
def itemTexts : List Json → List (List Char)
  | [] => []
  | x :: xs => text x :: itemTexts xs

/-- The texts of the members of an object. -/
def memberTexts : List (String × Json) → List (List Char)
  | [] => []
  | (k, v) :: ms => (stringText k ++ ':' :: text v) :: memberTexts ms

end

/-- The compact text of a value as a string. -/
def render (v : Json) : String :=
  String.ofList v.text

end RecordQuery.Json
