import RecordQuery.Json.Basic
import RecordQuery.Json.Syntax
import RecordQuery.Text.Hex

/-!
# RecordQuery.Json.Reader — reading JSON text

A recursive descent over the characters of a text.  `room` is the number of brackets that may still
be opened; the text of a filter or a window may nest 127 deep.  Objects keep the last of several
members with one name.  The reader of nested values counts down a budget that no text exhausts:
every second step reads a character.

A number that is no stored integer is read as the double nearest to it.  Here is a boundary: readers
that scale the digits by a power of ten in double arithmetic agree with this one where both factors
are exact, that is, for digits up to two to the power 53 and powers up to ten to the power 22, and
may miss the nearest double by its last places elsewhere.  What is proved about texts is about texts
without doubles.
-/

namespace RecordQuery.Json

/-- Where a container goes on after one of its parts. -/
inductive Next where
  /-- It ends, and this text follows it. -/
  | done (rest : List Char)
  /-- Another part begins with this text. -/
  | more (s : List Char)

/-- The white space of JSON. -/
def isSpace (c : Char) : Bool :=
  c == ' ' || c == '\n' || c == '\t' || c == '\r'

/-- A text without the blanks in front. -/
def skipSpace (cs : List Char) : List Char :=
  cs.dropWhile isSpace

/-! ## Words -/

/-- Reads the rest of a fixed word. -/
def readWord : List Char → List Char → Except Fault (List Char)
  | [], s => .ok s
  | _ :: _, [] => .error (.atEnd .endInValue)
  | w :: word, c :: s => if c = w then readWord word s else .error (.atNext .brokenWord (c :: s))

/-! ## Numbers -/

/-- What is left of a run of exponent digits after the first digit that takes its value past 32
bits, if there is one. -/
def pastExponentLimit (value : Nat) : List Char → Option (List Char)
  | [] => none
  | c :: s =>
    if Numeral.isDigit c then
      if 2147483647 < 10 * value + Numeral.digitValue c then some s
      else pastExponentLimit (10 * value + Numeral.digitValue c) s
    else none

/-- The number of a finite double; a magnitude past all doubles is a fault. -/
def finiteNumber (x : Double) (rest : List Char) : Except Fault (Number × List Char) :=
  match x with
  | .finite x => .ok (.double x, rest)
  | _ => .error (.before .numberOutOfRange rest)

/-- The number of a run of digits without point and exponent. -/
def integerNumber (negative : Bool) (whole rest : List Char) : Except Fault (Number × List Char) :=
  let n := Numeral.value whole
  if negative && n == 0 then finiteNumber (Double.ofRatio true 0 1) rest
  else
    match WordInt.ofInt? (if negative then -(n : Int) else n) with
    | some w => .ok (.int w, rest)
    | none => finiteNumber (Double.ofDecimal negative n 0) rest

/-- Reads the exponent after its letter and makes the number of `mantissa * 10 ^ -places`. -/
def readExponent (negative : Bool) (mantissa places : Nat) (s : List Char) :
    Except Fault (Number × List Char) :=
  let (below, s) :=
    match s with
    | '-' :: s => (true, s)
    | '+' :: s => (false, s)
    | s => (false, s)
  match s with
  | [] => .error (.atEnd .endInValue)
  | c :: _ =>
    if !Numeral.isDigit c then .error (.atNext .badNumber s)
    else
      let ds := s.takeWhile Numeral.isDigit
      let rest := s.dropWhile Numeral.isDigit
      match pastExponentLimit 0 s with
      | some later =>
        if mantissa ≠ 0 ∧ below = false then .error (.before .numberOutOfRange later)
        else finiteNumber (Double.ofRatio negative 0 1) rest
      | none =>
        let e : Int := if below then -(Numeral.value ds : Int) else Numeral.value ds
        finiteNumber (Double.ofDecimal negative mantissa (e - places)) rest

/-- Reads what may follow the digits before the point. -/
def readFraction (negative : Bool) (whole s : List Char) : Except Fault (Number × List Char) :=
  match s with
  | '.' :: s =>
    let ds := s.takeWhile Numeral.isDigit
    let rest := s.dropWhile Numeral.isDigit
    let mantissa := Numeral.value (whole ++ ds)
    if ds.isEmpty then
      .error (if rest.isEmpty then .atEnd .endInValue else .atNext .badNumber rest)
    else
      match rest with
      | c :: after =>
        if c = 'e' ∨ c = 'E' then readExponent negative mantissa ds.length after
        else finiteNumber (Double.ofDecimal negative mantissa (-ds.length)) rest
      | [] => finiteNumber (Double.ofDecimal negative mantissa (-ds.length)) rest
  | c :: after =>
    if c = 'e' ∨ c = 'E' then readExponent negative (Numeral.value whole) 0 after
    else integerNumber negative whole s
  | [] => integerNumber negative whole s

/-- Reads a number after its sign. -/
def readUnsigned (negative : Bool) (s : List Char) : Except Fault (Number × List Char) :=
  match s with
  | [] => .error (.atEnd .endInValue)
  | c :: after =>
    if c = '0' then
      if after.head?.any Numeral.isDigit then .error (.atNext .badNumber after)
      else readFraction negative ['0'] after
    else if Numeral.isDigit c then
      readFraction negative (s.takeWhile Numeral.isDigit) (s.dropWhile Numeral.isDigit)
    else .error (.atNext .badNumber s)

/-! ## Strings -/

/-- The code unit that four hexadecimal digits spell. -/
def hexUnit? (a b c d : Char) : Option Nat := do
  let a ← Text.hexValue? a
  let b ← Text.hexValue? b
  let c ← Text.hexValue? c
  let d ← Text.hexValue? d
  return ((a * 16 + b) * 16 + c) * 16 + d

/-- The first half of a surrogate pair. -/
def isLeading (unit : Nat) : Bool :=
  0xD800 ≤ unit && unit ≤ 0xDBFF

/-- The second half of a surrogate pair. -/
def isTrailing (unit : Nat) : Bool :=
  0xDC00 ≤ unit && unit ≤ 0xDFFF

/-- The character of a surrogate pair. -/
def pairChar (leading trailing : Nat) : Char :=
  Char.ofNat ((leading - 0xD800) * 0x400 + (trailing - 0xDC00) + 0x10000)

/-- The character of a one-letter escape. -/
def shortEscape? (c : Char) : Option Char :=
  if c = '"' then some '"'
  else if c = '\\' then some '\\'
  else if c = '/' then some '/'
  else if c = 'b' then some '\x08'
  else if c = 'f' then some '\x0c'
  else if c = 'n' then some '\n'
  else if c = 'r' then some '\r'
  else if c = 't' then some '\t'
  else none

/-- The fault of hexadecimal digits that are cut off by the end of the text or are none. -/
def hexFault (s : List Char) : Fault :=
  if byteCount s < 4 then .atEnd .endInString else ⟨.badEscape, byteCount s - 4⟩

/-- The fault of a text that should go on with the second half of a surrogate pair. -/
def pairFault : List Char → Fault
  | [] => .atEnd .endInString
  | c :: s =>
    if c ≠ '\\' then .atNext .unfinishedSurrogatePair (c :: s)
    else
      match s with
      | [] => .atEnd .endInString
      | d :: t => if d ≠ 'u' then .atNext .unfinishedSurrogatePair (d :: t) else hexFault t

/-- Reads a string after its opening quote; `read` holds the characters so far, last one first. -/
def readString (read : List Char) : List Char → Except Fault (String × List Char)
  | [] => .error (.atEnd .endInString)
  | c :: s =>
    if c = '"' then .ok (String.ofList read.reverse, s)
    else if c = '\\' then
      match s with
      | [] => .error (.atEnd .endInString)
      | e :: s =>
        if e = 'u' then
          match s with
          | h₁ :: h₂ :: h₃ :: h₄ :: s =>
            match hexUnit? h₁ h₂ h₃ h₄ with
            | none => .error (hexFault (h₁ :: h₂ :: h₃ :: h₄ :: s))
            | some unit =>
              if isTrailing unit then .error (.before .loneSurrogate s)
              else if isLeading unit then
                match s with
                | '\\' :: 'u' :: l₁ :: l₂ :: l₃ :: l₄ :: t =>
                  match hexUnit? l₁ l₂ l₃ l₄ with
                  | none => .error (hexFault (l₁ :: l₂ :: l₃ :: l₄ :: t))
                  | some second =>
                    if isTrailing second then readString (pairChar unit second :: read) t
                    else .error (.before .loneSurrogate t)
                | s => .error (pairFault s)
              else readString (Char.ofNat unit :: read) s
          | s => .error (hexFault s)
        else
          match shortEscape? e with
          | some d => readString (d :: read) s
          | none => .error (.atNext .badEscape (e :: s))
    else if c.toNat < 0x20 then .error (.before .controlCharacter s)
    else readString (c :: read) s

/-! ## Values -/

/-- The text after an array item: another item follows a comma, or the array ends. -/
def afterItem (s : List Char) : Except Fault Next :=
  match skipSpace s with
  | [] => .error (.atEnd .endInArray)
  | c :: s =>
    if c = ']' then .ok (.done s)
    else if c = ',' then
      match skipSpace s with
      | [] => .error (.atEnd .endInValue)
      | d :: t => if d = ']' then .error (.atNext .trailingComma (d :: t)) else .ok (.more (d :: t))
    else .error (.atNext .noArraySeparator (c :: s))

/-- The text after an object member: another member follows a comma, or the object ends. -/
def afterMember (s : List Char) : Except Fault Next :=
  match skipSpace s with
  | [] => .error (.atEnd .endInObject)
  | c :: s =>
    if c = '\x7d' then .ok (.done s)
    else if c = ',' then
      match skipSpace s with
      | [] => .error (.atEnd .endInValue)
      | d :: t =>
        if d = '\x7d' then .error (.atNext .trailingComma (d :: t)) else .ok (.more (d :: t))
    else .error (.atNext .noObjectSeparator (c :: s))

/-- Reads a member name and the colon after it. -/
def readKey (s : List Char) : Except Fault (String × List Char) :=
  match s with
  | [] => .error (.atEnd .endInValue)
  | c :: after =>
    if c = '"' then do
      let (key, rest) ← readString [] after
      match skipSpace rest with
      | [] => .error (.atEnd .endInObject)
      | d :: rest =>
        if d = ':' then .ok (key, rest) else .error (.atNext .noColon (d :: rest))
    else .error (.atNext .keyNotString s)

mutual

/-- Reads a value. -/
def readValue : Nat → Nat → List Char → Except Fault (Json × List Char)
  | 0, _, s => .error (.before .endInValue s)
  | budget + 1, room, s =>
    match skipSpace s with
    | [] => .error (.atEnd .endInValue)
    | c :: s =>
      if c = '"' then do
        let (text, rest) ← readString [] s
        return (.string text, rest)
      else if c = '[' then
        match room with
        | 0 => .error (.atNext .nestingLimit (c :: s))
        | room + 1 => do
          match skipSpace s with
          | [] => .error (.atEnd .endInArray)
          | d :: t =>
            if d = ']' then return (.array [], t)
            else
              let (items, rest) ← readItems budget room (d :: t)
              return (.array items, rest)
      else if c = '\x7b' then
        match room with
        | 0 => .error (.atNext .nestingLimit (c :: s))
        | room + 1 => do
          match skipSpace s with
          | [] => .error (.atEnd .endInObject)
          | d :: t =>
            if d = '\x7d' then return (.object [], t)
            else
              let (members, rest) ← readMembers budget room (d :: t)
              return (ofMembers members, rest)
      else if c = 'n' then do
        let rest ← readWord ['u', 'l', 'l'] s
        return (.null, rest)
      else if c = 't' then do
        let rest ← readWord ['r', 'u', 'e'] s
        return (.bool true, rest)
      else if c = 'f' then do
        let rest ← readWord ['a', 'l', 's', 'e'] s
        return (.bool false, rest)
      else if c = '-' then do
        let (n, rest) ← readUnsigned true s
        return (.number n, rest)
      else if Numeral.isDigit c then do
        let (n, rest) ← readUnsigned false (c :: s)
        return (.number n, rest)
      else .error (.atNext .noValue (c :: s))

/-- Reads the items of an array that has at least one. -/
def readItems : Nat → Nat → List Char → Except Fault (List Json × List Char)
  | 0, _, s => .error (.before .endInValue s)
  | budget + 1, room, s => do
    let (item, rest) ← readValue budget room s
    match ← afterItem rest with
    | .done rest => return ([item], rest)
    | .more s =>
      let (items, rest) ← readItems budget room s
      return (item :: items, rest)

/-- Reads the members of an object that has at least one, in the order of the text. -/
def readMembers : Nat → Nat → List Char → Except Fault (List (String × Json) × List Char)
  | 0, _, s => .error (.before .endInValue s)
  | budget + 1, room, s => do
    let (key, rest) ← readKey s
    let (value, rest) ← readValue budget room rest
    match ← afterMember rest with
    | .done rest => return ([(key, value)], rest)
    | .more s =>
      let (members, rest) ← readMembers budget room s
      return ((key, value) :: members, rest)

end

/-! ## Whole texts -/

/-- How deep brackets may nest in the text of a filter or a window. -/
def nestingRoom : Nat := 127

/-- Reads a text that holds one value and blanks around it. -/
def readWhole (room : Nat) (s : List Char) : Except Fault Json := do
  let (v, rest) ← readValue (2 * s.length + 2) room s
  match skipSpace rest with
  | [] => .ok v
  | c :: rest => .error (.atNext .trailingText (c :: rest))

/-- Reads a text with at most `room` nested brackets. -/
def readWithin (room : Nat) (text : String) : Except SyntaxFault Json :=
  (readWhole room text.toList).mapError (·.locate text.toList)

/-- Reads the text of a filter or a window. -/
def read (text : String) : Except SyntaxFault Json :=
  readWithin nestingRoom text

/-- Reads a text without a limit on nesting but its own length. -/
def readDeep (text : String) : Except SyntaxFault Json :=
  readWithin text.length text

end RecordQuery.Json
