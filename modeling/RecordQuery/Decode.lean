import RecordQuery.Json.Basic
import RecordQuery.Text.Quoted

/-!
# RecordQuery.Decode — reading typed data out of JSON values

A literal that does not have the expected form is reported by its first fault.  This module names
the faults and their wording, reads the scalar types that filters, windows and options are made of,
and reads records: structures whose parts stand in an object by name or in a sequence by place.
-/

namespace RecordQuery

/-! ## Faults -/

/-- What a literal should have been. -/
inductive Expected where
  | string
  | boolean
  | signedInteger
  | unsignedInteger
  | double
  | sequence
  | variant
  | variantIndex (count : Nat)
  | taggedUnion (name : String)
  | record (name : String)
deriving DecidableEq

/-- How long a sequence should have been. -/
inductive ExpectedLength where
  /-- A record with this many parts. -/
  | ofRecord (name : String) (count : Nat)
  /-- A sequence that is read to its end. -/
  | exactly (count : Nat)
  /-- An array with nothing after the last part. -/
  | fewer
deriving DecidableEq

/-- Why a literal has no reading. -/
inductive DecodeError where
  | invalidType (found : Json) (expected : Expected)
  | invalidValue (found : Json) (expected : Expected)
  | invalidLength (length : Nat) (expected : ExpectedLength)
  | missingField (name : String)
  | unknownVariant (name : String) (known : List String)
  | unknownOperation (name : String)
  | invalidSortField (text : String)
deriving DecidableEq

/-! ## Wording -/

/-- A literal as faults show it. -/
def Json.shown : Json → String
  | .null => "null"
  | .bool b => "boolean `" ++ (if b then "true" else "false") ++ "`"
  | .number (.int n) => "integer `" ++ String.ofList (Numeral.ofInt n.val) ++ "`"
  | .number (.double x) =>
    "floating point `" ++ String.ofList (Layout.exchange.finiteText x) ++ "`"
  | .string s => "string " ++ Text.quoted s
  | .array _ => "sequence"
  | .object _ => "map"

/-- The wording of an expectation. -/
def Expected.message : Expected → String
  | string => "a string"
  | boolean => "a boolean"
  | signedInteger => "i64"
  | unsignedInteger => "usize"
  | double => "f64"
  | sequence => "a sequence"
  | variant => "variant identifier"
  | variantIndex count => "variant index 0 <= i < " ++ Numeral.string count
  | taggedUnion name => "internally tagged enum " ++ name
  | record name => "struct " ++ name

/-- The wording of an expected length. -/
def ExpectedLength.message : ExpectedLength → String
  | ofRecord name count => "struct " ++ name ++ " with " ++ Numeral.string count ++ " elements"
  | exactly count =>
    Numeral.string count ++ (if count = 1 then " element" else " elements") ++ " in sequence"
  | fewer => "fewer elements in array"

/-- A name between back quotes. -/
def backquoted (name : String) : String :=
  "`" ++ name ++ "`"

/-- The wording of a decoding fault. -/
def DecodeError.message : DecodeError → String
  | invalidType found expected =>
    "invalid type: " ++ found.shown ++ ", expected " ++ expected.message
  | invalidValue found expected =>
    "invalid value: " ++ found.shown ++ ", expected " ++ expected.message
  | invalidLength length expected =>
    "invalid length " ++ Numeral.string length ++ ", expected " ++ expected.message
  | missingField name => "missing field " ++ backquoted name
  | unknownVariant name known =>
    "unknown variant " ++ backquoted name ++ ", expected one of "
      ++ ", ".intercalate (known.map backquoted)
  | unknownOperation name => "unknown logical operation '" ++ name ++ "'"
  | invalidSortField text => "invalid sort field '" ++ text ++ "'"

/-! ## Scalars, options and lists -/

/-- A reading of JSON literals. -/
abbrev Decoder (α : Type) := Json → Except DecodeError α

namespace Decoder

/-- Reads a string. -/
def string : Decoder String
  | .string s => .ok s
  | v => .error (.invalidType v .string)

/-- Reads a boolean. -/
def boolean : Decoder Bool
  | .bool b => .ok b
  | v => .error (.invalidType v .boolean)

/-- Reads a signed 64-bit integer. -/
def int64 : Decoder Int64
  | .number (.int n) =>
    if n.fitsSigned then .ok (Int64.ofInt n.val)
    else .error (.invalidValue (.number (.int n)) .signedInteger)
  | v => .error (.invalidType v .signedInteger)

/-- Reads an unsigned 64-bit integer. -/
def uint64 : Decoder UInt64
  | .number (.int n) =>
    if n.fitsUnsigned then .ok (UInt64.ofNat n.val.toNat)
    else .error (.invalidValue (.number (.int n)) .unsignedInteger)
  | v => .error (.invalidType v .unsignedInteger)

/-- Reads a number as a double. -/
def double : Decoder Double
  | .number n => .ok n.toDouble
  | v => .error (.invalidType v .double)

/-- Reads null as nothing. -/
def optional {α : Type} (decode : Decoder α) : Decoder (Option α)
  | .null => .ok none
  | v => (decode v).map some

/-- Reads the items of an array from left to right. -/
def items {α : Type} (decode : Decoder α) : List Json → Except DecodeError (List α)
  | [] => .ok []
  | v :: rest =>
    match decode v with
    | .error e => .error e
    | .ok x => (items decode rest).map (x :: ·)

/-- Reads an array. -/
def list {α : Type} (decode : Decoder α) : Decoder (List α)
  | .array xs => items decode xs
  | v => .error (.invalidType v .sequence)

end Decoder

/-! ## Records -/

/-- A part of a record: its name, its reading, and what an absent part counts as, if it may be
absent. -/
structure Slot (α : Type) where
  name : String
  decode : Decoder α
  absent : Option α

/-- The parts of a record as they stand in a literal. -/
inductive Payload where
  | members (ms : List (String × Json))
  | items (xs : List Json)

namespace Slot

variable {α β γ : Type}

/-- A part that must be there. -/
def required (name : String) (decode : Decoder α) : Slot α :=
  ⟨name, decode, none⟩

/-- A part that may be absent or null. -/
def optional (name : String) (decode : Decoder α) : Slot (Option α) :=
  ⟨name, Decoder.optional decode, some none⟩

/-- Reads a part of an object, if the object has it. -/
def find (slot : Slot α) (ms : List (String × Json)) : Except DecodeError (Option α) :=
  match Json.lookup slot.name ms with
  | some v => (slot.decode v).map some
  | none => .ok none

/-- Settles a part that was looked for in an object. -/
def settle (slot : Slot α) (found : Option α) : Except DecodeError α :=
  match found <|> slot.absent with
  | some x => .ok x
  | none => .error (.missingField slot.name)

/-- Reads a part of a sequence, given the item in its place and how long the record is. -/
def place (slot : Slot α) (i : Nat) (record : String) (count : Nat) (item : Option Json) :
    Except DecodeError α :=
  match item, slot.absent with
  | some v, _ => slot.decode v
  | none, some x => .ok x
  | none, none => .error (.invalidLength i (.ofRecord record count))

/-- Whether the member of one slot is read before that of another: members are read in the order of
their names. -/
def readsFirst (a : Slot α) (b : Slot β) : Bool :=
  compare a.name b.name == .lt

end Slot

namespace Payload

variable {α β γ : Type}

/-- Refuses a sequence that is longer than its record. -/
def noSurplus (count : Nat) (xs : List Json) : Except DecodeError Unit :=
  if count < xs.length then .error (.invalidLength xs.length (.exactly count)) else .ok ()

/-- Reads two members in the order of their names. -/
def findPair (ms : List (String × Json)) (a : Slot α) (b : Slot β) :
    Except DecodeError (Option α × Option β) :=
  if a.readsFirst b then do
    let x ← a.find ms
    let y ← b.find ms
    return (x, y)
  else do
    let y ← b.find ms
    let x ← a.find ms
    return (x, y)

/-- Reads a record of two parts. -/
def pair (record : String) (a : Slot α) (b : Slot β) : Payload → Except DecodeError (α × β)
  | members ms => do
    let (x, y) ← findPair ms a b
    let x ← a.settle x
    let y ← b.settle y
    return (x, y)
  | items xs => do
    let x ← a.place 0 record 2 xs[0]?
    let y ← b.place 1 record 2 xs[1]?
    noSurplus 2 xs
    return (x, y)

/-- Reads a record of three parts, the first of which has the least name. -/
def triple (record : String) (a : Slot α) (b : Slot β) (c : Slot γ) :
    Payload → Except DecodeError (α × β × γ)
  | members ms => do
    let x ← a.find ms
    let (y, z) ← findPair ms b c
    let x ← a.settle x
    let y ← b.settle y
    let z ← c.settle z
    return (x, y, z)
  | items xs => do
    let x ← a.place 0 record 3 xs[0]?
    let y ← b.place 1 record 3 xs[1]?
    let z ← c.place 2 record 3 xs[2]?
    noSurplus 3 xs
    return (x, y, z)

end Payload

end RecordQuery
