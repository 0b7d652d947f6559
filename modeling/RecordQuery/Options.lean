import RecordQuery.Decode
import RecordQuery.Text.Folding

/-!
# RecordQuery.Options — how text is compared

One option is shared by predicates and comparators: whether case matters.  Its literal is an object
with the member `casesensitive`, or a sequence with that one part.
-/

namespace RecordQuery

/-- The options of predicates and comparators; by default case does not matter. -/
structure MatchOptions where
  caseSensitive : Bool := false
deriving DecidableEq

namespace MatchOptions

/-- How text tests look at characters. -/
def mode (options : MatchOptions) : Text.CaseMode :=
  if options.caseSensitive then .exact else .folded

/-- The literal of options. -/
def toJson (options : MatchOptions) : Json :=
  .object [("casesensitive", .bool options.caseSensitive)]

/-- The part of the options' literal. -/
def slot : Slot Bool :=
  ⟨"casesensitive", Decoder.boolean, some false⟩

/-- Reads the literal of options. -/
def decode : Decoder MatchOptions
  | .object members => do
    let found ← slot.find members
    return ⟨← slot.settle found⟩
  | .array items => do
    let caseSensitive ← slot.place 0 "CompileOptions" 1 items[0]?
    if 1 < items.length then .error (.invalidLength items.length .fewer)
    else return ⟨caseSensitive⟩
  | v => .error (.invalidType v (.record "CompileOptions"))

end MatchOptions

end RecordQuery
