import RecordQuery.Numeric.Numeral
import RecordQuery.Path.Basic
import RecordQuery.Text.Blank

/-!
# RecordQuery.Path.Parser — the text of a field path

A path text is a sequence of names, each after a point unless it comes first, and of brackets.  A
bracket holds a quoted key, which may hold anything but its own quote, or between blanks a star or
an index below `2 ^ 64`.  The budget of the segment reader is the length of the text, which every
segment shortens.
-/

namespace RecordQuery

/-- What is wrong with a path text. -/
inductive PathFault where
  | noSeparator
  | emptyName
  | openQuote
  | noBracketAfterKey
  | openBracket
  | badToken
deriving DecidableEq

/-- The wording of a path fault. -/
def PathFault.message : PathFault → String
  | noSeparator => "expected '.' or '['"
  | emptyName => "empty member name"
  | openQuote => "unterminated quoted key"
  | noBracketAfterKey => "expected ']' after quoted key"
  | openBracket => "unterminated '['"
  | badToken => "expected '*', an index, or a quoted key inside '[]'"

/-- A path text that cannot be read, and why. -/
structure PathError where
  text : String
  fault : PathFault
deriving DecidableEq

namespace FieldPath

/-- The quote characters of keys. -/
def isQuote (c : Char) : Bool :=
  c == '"' || c == '\x27'

/-- The characters that end a name. -/
def endsName (c : Char) : Bool :=
  c == '.' || c == '[' || c == ']'

/-- The first number that is no index, two to the power 64. -/
def indexLimit : Nat := 18446744073709551616

/-- The index that a text of digits, with an optional plus sign, denotes. -/
def index? (cs : List Char) : Option Nat :=
  let ds :=
    match cs with
    | '+' :: ds => ds
    | ds => ds
  if !ds.isEmpty && ds.all Numeral.isDigit && Numeral.value ds < indexLimit then
    some (Numeral.value ds)
  else none

/-- The step of a bracket without quotes, from the text inside. -/
def tokenSegment? (inside : List Char) : Option Segment :=
  let token := Text.trim inside
  if token = ['*'] then some .wildcard else (index? token).map .index

/-- Reads a quoted key after its opening quote, and the closing bracket. -/
def readQuoted (quote : Char) (s : List Char) : Except PathFault (Segment × List Char) :=
  match s.dropWhile (· != quote) with
  | [] => .error .openQuote
  | _ :: after =>
    match after with
    | ']' :: rest => .ok (.member (String.ofList (s.takeWhile (· != quote))), rest)
    | _ => .error .noBracketAfterKey

/-- Reads a star or an index up to the closing bracket. -/
def readToken (s : List Char) : Except PathFault (Segment × List Char) :=
  match s.dropWhile (· != ']') with
  | [] => .error .openBracket
  | _ :: rest =>
    match tokenSegment? (s.takeWhile (· != ']')) with
    | some segment => .ok (segment, rest)
    | none => .error .badToken

/-- Reads a bracket after its opening. -/
def readBracket (s : List Char) : Except PathFault (Segment × List Char) :=
  match s with
  | c :: after => if isQuote c then readQuoted c after else readToken s
  | [] => .error .openBracket

/-- Reads a name. -/
def readName (s : List Char) : Except PathFault (Segment × List Char) :=
  let name := s.takeWhile (!endsName ·)
  if name.isEmpty then .error .emptyName
  else .ok (.member (String.ofList name), s.dropWhile (!endsName ·))

/-- Reads one segment: a bracket, or a name, which follows a point unless the segment is the first.
-/
def readSegment (first : Bool) (s : List Char) : Except PathFault (Segment × List Char) :=
  match s with
  | '[' :: inner => readBracket inner
  | s =>
    if first then readName s
    else
      match s with
      | '.' :: name => readName name
      | _ => .error .noSeparator

/-- Reads segments up to the end of the text. -/
def readSegments : Nat → Bool → List Char → Except PathFault (List Segment)
  | _, _, [] => .ok []
  | 0, _, _ :: _ => .error .emptyName
  | budget + 1, first, c :: s =>
    match readSegment first (c :: s) with
    | .error fault => .error fault
    | .ok (segment, rest) =>
      match readSegments budget false rest with
      | .error fault => .error fault
      | .ok segments => .ok (segment :: segments)

/-- The segments of a whole path text. -/
def segmentsOf (s : List Char) : Except PathFault (List Segment) :=
  readSegments s.length true s

/-- Reads a field path. -/
def parse (text : String) : Except PathError FieldPath :=
  match segmentsOf text.toList with
  | .ok segments => .ok ⟨text, segments⟩
  | .error fault => .error ⟨text, fault⟩

end FieldPath

end RecordQuery
