import RecordQuery.Numeric.Numeral

/-!
# RecordQuery.Json.Syntax — faults in JSON text

What can be wrong with a text that should hold one JSON value, and where.  A reader knows how many
bytes it has left unread at a fault; line and column follow from that number and the whole text.
Columns count bytes.
-/

namespace RecordQuery.Json

/-- What is wrong with a text. -/
inductive Cause where
  | endInValue
  | endInArray
  | endInObject
  | endInString
  | noValue
  | brokenWord
  | noArraySeparator
  | noObjectSeparator
  | noColon
  | keyNotString
  | trailingComma
  | trailingText
  | badNumber
  | numberOutOfRange
  | badEscape
  | controlCharacter
  | loneSurrogate
  | unfinishedSurrogatePair
  | nestingLimit
deriving DecidableEq

/-- The wording of a cause. -/
def Cause.message : Cause → String
  | endInValue => "EOF while parsing a value"
  | endInArray => "EOF while parsing a list"
  | endInObject => "EOF while parsing an object"
  | endInString => "EOF while parsing a string"
  | noValue => "expected value"
  | brokenWord => "expected ident"
  | noArraySeparator => "expected `,` or `]`"
  | noObjectSeparator => "expected `,` or `\x7d`"
  | noColon => "expected `:`"
  | keyNotString => "key must be a string"
  | trailingComma => "trailing comma"
  | trailingText => "trailing characters"
  | badNumber => "invalid number"
  | numberOutOfRange => "number out of range"
  | badEscape => "invalid escape"
  | controlCharacter => "control character (\\u0000-\\u001F) found while parsing a string"
  | loneSurrogate => "lone leading surrogate in hex escape"
  | unfinishedSurrogatePair => "unexpected end of hex escape"
  | nestingLimit => "recursion limit exceeded"

/-- Number of bytes of a text in UTF-8. -/
def byteCount (cs : List Char) : Nat :=
  cs.foldl (fun total c => total + c.utf8Size) 0

/-- A fault: its cause, and the number of bytes not read when it is found. -/
structure Fault where
  cause : Cause
  unread : Nat
deriving DecidableEq

namespace Fault

/-- A fault found with `rest` still to be read. -/
def before (cause : Cause) (rest : List Char) : Fault :=
  ⟨cause, byteCount rest⟩

/-- A fault of the next byte of `rest`, which counts as read. -/
def atNext (cause : Cause) (rest : List Char) : Fault :=
  ⟨cause, byteCount rest - 1⟩

/-- A fault at the end of the text. -/
def atEnd (cause : Cause) : Fault :=
  ⟨cause, 0⟩

end Fault

/-- A fault with its place: lines count from one, columns are bytes since the last line feed. -/
structure SyntaxFault where
  cause : Cause
  line : Nat
  column : Nat
deriving DecidableEq

/-- The line and column after `bytes` bytes of a text, from a given line and column on. -/
def placeAfter (bytes line column : Nat) : List Char → Nat × Nat
  | [] => (line, column)
  | c :: rest =>
    if bytes = 0 then (line, column)
    else if c = '\n' then placeAfter (bytes - 1) (line + 1) 0 rest
    else if bytes ≤ c.utf8Size then (line, column + bytes)
    else placeAfter (bytes - c.utf8Size) line (column + c.utf8Size) rest

/-- The place of a fault in the text that was read. -/
def Fault.locate (fault : Fault) (whole : List Char) : SyntaxFault :=
  let (line, column) := placeAfter (byteCount whole - fault.unread) 1 0 whole
  ⟨fault.cause, line, column⟩

/-- The wording of a fault with its place. -/
def SyntaxFault.message (fault : SyntaxFault) : String :=
  fault.cause.message ++ " at line " ++ Numeral.string fault.line ++ " column "
    ++ Numeral.string fault.column

end RecordQuery.Json
