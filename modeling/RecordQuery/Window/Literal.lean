import RecordQuery.Filter.Literal
import RecordQuery.Window.Basic

/-!
# RecordQuery.Window.Literal — windows as JSON literals

A window literal is an object, or a sequence of its parts in declared order.  Every part may be
absent. Writing leaves out what asks for nothing.
-/

namespace RecordQuery.Window

/-! ## Writing -/

/-- The literal of a window. -/
def toJson (w : Window) : Json :=
  .object
    (Json.optionalMember "fields"
        (if w.fields.isEmpty then none else some (.array (w.fields.map .string)))
      ++ Json.optionalMember "filter" (w.filter.map Filter.toJson)
      ++ Json.optionalMember "limit" (w.limit.map Json.ofUInt64)
      ++ Json.optionalMember "offset" (if w.offset = 0 then none else some (Json.ofUInt64 w.offset))
      ++ Json.optionalMember "sortOrder"
        (if w.sortOrder.isEmpty then none else some (SortOrder.toJson w.sortOrder)))

/-! ## Reading -/

/-- The name of the record of windows. -/
def recordName : String := "QueryWindow"

/-- The limit part. -/
def limitSlot : Slot (Option UInt64) :=
  .optional "limit" Decoder.uint64

/-- The offset part. -/
def offsetSlot : Slot UInt64 :=
  ⟨"offset", Decoder.uint64, some 0⟩

/-- The filter part. -/
def filterSlot : Slot (Option Filter) :=
  .optional "filter" Filter.decode

/-- The sort order part. -/
def sortOrderSlot : Slot SortOrder :=
  ⟨"sortOrder", SortOrder.decode, some []⟩

/-- The field selection. -/
def fieldsSlot : Slot (List String) :=
  ⟨"fields", Decoder.list Decoder.string, some []⟩

/-- Reads a literal as a window, without the check for unknown words. -/
def decode : Decoder Window
  | .object members => do
    let fields ← fieldsSlot.find members
    let filter ← filterSlot.find members
    let limit ← limitSlot.find members
    let offset ← offsetSlot.find members
    let sortOrder ← sortOrderSlot.find members
    let limit ← limitSlot.settle limit
    let offset ← offsetSlot.settle offset
    let filter ← filterSlot.settle filter
    let sortOrder ← sortOrderSlot.settle sortOrder
    let fields ← fieldsSlot.settle fields
    return ⟨limit, offset, filter, sortOrder, fields⟩
  | .array items => do
    let limit ← limitSlot.place 0 recordName 5 items[0]?
    let offset ← offsetSlot.place 1 recordName 5 items[1]?
    let filter ← filterSlot.place 2 recordName 5 items[2]?
    let sortOrder ← sortOrderSlot.place 3 recordName 5 items[3]?
    let fields ← fieldsSlot.place 4 recordName 5 items[4]?
    if 5 < items.length then .error (.invalidLength items.length .fewer)
    else return ⟨limit, offset, filter, sortOrder, fields⟩
  | v => .error (.invalidType v (.record recordName))

/-- The first unknown word of the filter in a window literal that is an object. -/
def wordFault? : Json → Option QueryError
  | .object members => (Json.lookup "filter" members).bind Filter.wordFault?
  | _ => none

/-- Reads a window literal. -/
def ofJson (literal : Json) : Except QueryError Window :=
  match wordFault? literal with
  | some error => .error error
  | none => (decode literal).mapError fun fault => .invalidFilter (.form fault)

/-- Reads the text of a window literal. -/
def ofText (text : String) : Except QueryError Window :=
  match Json.read text with
  | .error fault => .error (.invalidFilter (.text fault))
  | .ok literal => ofJson literal

end RecordQuery.Window
