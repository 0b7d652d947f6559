import RecordQuery.Filter.Basic
import RecordQuery.Filter.Tags
import RecordQuery.Json.Reader

/-!
# RecordQuery.Filter.Literal — filters as JSON literals

A filter literal is an object with the tag in its member `type`, or a sequence that begins with the
tag and goes on with the parts in their declared order.  Below the top, a tag may also be a number:
the place of the kind in the order of the wire format.  Writing gives objects only, with members in
ascending order and absent options left out; reading an object ignores members that its kind does
not have.
-/

namespace RecordQuery.Filter

/-! ## Writing -/

/-- The literal of a leaf from its parts; the parts named below come before `fieldName`, between it
and the tag, and after the tag. -/
def leafJson (kind : TestKind) (field : String) (before between after : List (String × Json)) :
    Json :=
  .object (before ++ ("fieldName", .string field) :: between
    ++ ("type", .string (FilterKind.test kind).tag) :: after)

/-- The literal of a range. -/
def rangeJson (kind : TestKind) (field : String) (min max : Option Json) : Json :=
  leafJson kind field [] (Json.optionalMember "max" max ++ Json.optionalMember "min" min) []

/-- The literal of an enumeration. -/
def enumJson (kind : TestKind) (field : String) (values : Option (List Json)) : Json :=
  leafJson kind field [] [] (Json.optionalMember "values" (values.map .array))

/-- The literal of a leaf. -/
def testJson (field : String) : Test → Json
  | .boolean value => leafJson .boolean field [] [] [("value", .bool value)]
  | .containsString needle =>
    leafJson .containsString field (Json.optionalMember "contains" (needle.map .string)) [] []
  | .dateRange min max => rangeJson .dateRange field (min.map .string) (max.map .string)
  | .doubleRange min max =>
    rangeJson .doubleRange field (min.map Json.ofDouble) (max.map Json.ofDouble)
  | .like pattern => leafJson .like field [] (Json.optionalMember "like" (pattern.map .string)) []
  | .longEnum values => enumJson .longEnum field (values.map (·.map Json.ofInt64))
  | .longRange min max => rangeJson .longRange field (min.map Json.ofInt64) (max.map Json.ofInt64)
  | .stringEnum values => enumJson .stringEnum field (values.map (·.map .string))
  | .string value => leafJson .string field [] [] (Json.optionalMember "value" (value.map .string))
  | .stringMap key value =>
    leafJson .stringMap field [] (Json.optionalMember "key" (key.map .string))
      (Json.optionalMember "value" (value.map .string))
  | .stringRange min max => rangeJson .stringRange field (min.map .string) (max.map .string)
  | .null isNull => leafJson .null field [] [("isNull", .bool isNull)] []

mutual

/-- The literal of a filter. -/
def toJson : Filter → Json
  | leaf field test => testJson field test
  | group op filters =>
    .object [("filters", .array (toJsons filters)), ("operation", .string op.name),
      ("type", .string FilterKind.group.tag)]

/-- The literals of several filters. -/
def toJsons : List Filter → List Json
  | [] => []
  | f :: rest => toJson f :: toJsons rest

end

/-! ## Reading leaves -/

/-- The field part, which all leaves have. -/
def fieldSlot : Slot String :=
  .required "fieldName" Decoder.string

/-- Reads a range. -/
def decodeRange {α : Type} (bound : Decoder α) (test : Option α → Option α → Test)
    (payload : Payload) : Except DecodeError Filter :=
  (payload.triple "RangeFilter" fieldSlot (.optional "min" bound) (.optional "max" bound)).map
    fun (field, min, max) => leaf field (test min max)

/-- Reads a leaf with one more part. -/
def decodeLeaf {α : Type} (record : String) (part : Slot α) (test : α → Test) (payload : Payload) :
    Except DecodeError Filter :=
  (payload.pair record fieldSlot part).map fun (field, x) => leaf field (test x)

/-- Reads the parts of a leaf of the given kind. -/
def decodeTest : TestKind → Payload → Except DecodeError Filter
  | .boolean => decodeLeaf "BooleanFilter" (.required "value" Decoder.boolean) .boolean
  | .containsString =>
    decodeLeaf "ContainsStringFilter" (.optional "contains" Decoder.string) .containsString
  | .dateRange => decodeRange Decoder.string .dateRange
  | .doubleRange => decodeRange Decoder.double .doubleRange
  | .like => decodeLeaf "LikeFilter" (.optional "like" Decoder.string) .like
  | .longEnum => decodeLeaf "EnumFilter" (.optional "values" (Decoder.list Decoder.int64)) .longEnum
  | .longRange => decodeRange Decoder.int64 .longRange
  | .stringEnum =>
    decodeLeaf "EnumFilter" (.optional "values" (Decoder.list Decoder.string)) .stringEnum
  | .string => decodeLeaf "StringFilter" (.optional "value" Decoder.string) .string
  | .stringMap => fun payload =>
    (payload.triple "StringMapFilter" fieldSlot (.optional "key" Decoder.string)
      (.optional "value" Decoder.string)).map fun (field, key, value) =>
        leaf field (.stringMap key value)
  | .stringRange => decodeRange Decoder.string .stringRange
  | .null => decodeLeaf "NullFilter" (.required "isNull" Decoder.boolean) .null

/-! ## Reading trees -/

/-- Where a literal stands: at the top, or among the children of a group. -/
inductive Place where
  | top
  | child
deriving DecidableEq

/-- Reads a tag. -/
def decodeKind (place : Place) : Json → Except DecodeError FilterKind
  | .string tag =>
    match FilterKind.ofTag? tag with
    | some kind => .ok kind
    | none => .error (.unknownVariant tag (FilterKind.all.map FilterKind.tag))
  | v =>
    match place, v with
    | .child, .number (.int n) =>
      if n.fitsUnsigned then
        match FilterKind.all[n.val.toNat]? with
        | some kind => .ok kind
        | none => .error (.invalidValue v (.variantIndex FilterKind.all.length))
      else .error (.invalidType v .variant)
    | _, _ => .error (.invalidType v .variant)

/-- Reads a connective. -/
def decodeConnective (v : Json) : Except DecodeError Connective :=
  match Decoder.string v with
  | .error e => .error e
  | .ok name =>
    match Connective.ofName? name with
    | some op => .ok op
    | none => .error (.unknownOperation name)

/-- The connective part of a group. -/
def operationSlot : Slot Connective :=
  .required "operation" decodeConnective

/-- The name of the record of a group. -/
def groupRecord : String := "LogOpFilter"

mutual

/-- Reads a literal as a filter. -/
def decodeAt (place : Place) : Json → Except DecodeError Filter
  | .object members =>
    match Json.lookup "type" members with
    | none => .error (.missingField "type")
    | some tag => do
      match ← decodeKind place tag with
      | .test kind => decodeTest kind (.members members)
      | .group =>
        let filters ← decodeChildren members
        let op ← operationSlot.find members
        let op ← operationSlot.settle op
        return group op filters
  | .array (tag :: parts) => do
    match ← decodeKind place tag with
    | .test kind => decodeTest kind (.items parts)
    | .group =>
      match parts with
      | [] => .error (.invalidLength 0 (.ofRecord groupRecord 2))
      | [op] => return group (← decodeConnective op) []
      | first :: second :: surplus =>
        let op ← decodeConnective first
        let filters ← decodeFilters second
        Payload.noSurplus 2 (first :: second :: surplus)
        return group op filters
  | .array [] => .error (.missingField "type")
  | v => .error (.invalidType v (.taggedUnion "Filter"))

/-- Reads the children of a group, which are the first member named `filters`; a group without that
member has none. -/
def decodeChildren : List (String × Json) → Except DecodeError (List Filter)
  | [] => .ok []
  | (k, v) :: rest => if k = "filters" then decodeFilters v else decodeChildren rest

/-- Reads an array of filters. -/
def decodeFilters : Json → Except DecodeError (List Filter)
  | .array items => decodeItems items
  | v => .error (.invalidType v .sequence)

/-- Reads filters from left to right. -/
def decodeItems : List Json → Except DecodeError (List Filter)
  | [] => .ok []
  | v :: rest => do
    let f ← decodeAt .child v
    let fs ← decodeItems rest
    return f :: fs

end

/-- Reads a literal as a filter, without the check for unknown words. -/
def decode : Decoder Filter :=
  decodeAt .top

/-- Reads a filter literal. -/
def ofJson (literal : Json) : Except QueryError Filter :=
  match wordFault? literal with
  | some error => .error error
  | none => (decode literal).mapError fun fault => .invalidFilter (.form fault)

/-- Reads the text of a filter literal. -/
def ofText (text : String) : Except QueryError Filter :=
  match Json.read text with
  | .error fault => .error (.invalidFilter (.text fault))
  | .ok literal => ofJson literal

end RecordQuery.Filter
