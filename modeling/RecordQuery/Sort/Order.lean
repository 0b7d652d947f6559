import RecordQuery.Error
import RecordQuery.Text.Blank
import RecordQuery.Text.Pieces

/-!
# RecordQuery.Sort.Order — sort fields, sort orders and their texts

A sort order is a list of fields with directions; the first field is the primary key and later ones
break ties.  A field is written as its name after a sign: `-` for descending, `+` or nothing for
ascending.  Reading cuts blanks at both ends and one sign; what is left is the name.
-/

namespace RecordQuery

/-! ## Fields -/

/-- A field to sort by, and its direction. -/
structure SortField where
  name : String
  ascending : Bool
deriving DecidableEq

/-- Fields by priority. -/
abbrev SortOrder := List SortField

namespace SortField

/-- An order of two values seen in the direction of a field. -/
def apply (field : SortField) (ordering : Ordering) : Ordering :=
  if field.ascending then ordering else ordering.swap

/-- A field from the characters of its encoding without blanks around it. -/
def ofSigned? (cs : List Char) : Option SortField :=
  let (ascending, name) :=
    match cs with
    | '-' :: name => (false, name)
    | '+' :: name => (true, name)
    | name => (true, name)
  if name.isEmpty then none else some ⟨String.ofList name, ascending⟩

/-- Reads an encoded field; an encoding without a name is none. -/
def ofText? (text : String) : Option SortField :=
  ofSigned? (Text.trim text.toList)

/-- Reads an encoded field as part of a query. -/
def parse (text : String) : Except QueryError SortField :=
  match ofText? text with
  | some field => .ok field
  | none => .error (.invalidSortField text)

/-- The shortest encoding: ascending fields have no sign. -/
def encoded (field : SortField) : String :=
  if field.ascending then field.name else "-" ++ field.name

/-- The encoding with a sign in either direction. -/
def signed (field : SortField) : String :=
  (if field.ascending then "+" else "-") ++ field.name

/-- Reads the literal of a field. -/
def decode : Decoder SortField
  | .string text =>
    match ofText? text with
    | some field => .ok field
    | none => .error (.invalidSortField text)
  | v => .error (.invalidType v .string)

end SortField

/-! ## Orders -/

namespace SortOrder

/-- Reads encoded fields from left to right. -/
def ofEncoded : List String → Except QueryError SortOrder
  | [] => .ok []
  | text :: rest => do
    let field ← SortField.parse text
    let fields ← ofEncoded rest
    return field :: fields

/-- Reads encoded fields with commas between them; blank pieces are skipped. -/
def ofText (text : String) : Except QueryError SortOrder :=
  ofEncoded (((Text.pieces ',' text.toList).filter fun piece => !(Text.trim piece).isEmpty).map
    String.ofList)

/-- The fields with their signs and commas between them. -/
def text (order : SortOrder) : String :=
  ",".intercalate (order.map SortField.signed)

/-- The literal of an order: the shortest encodings of its fields. -/
def toJson (order : SortOrder) : Json :=
  .array (order.map fun field => .string field.encoded)

/-- Reads the literal of an order. -/
def decode : Decoder SortOrder :=
  Decoder.list SortField.decode

/-- The first field of every name. -/
def firstOfEachName : SortOrder → SortOrder
  | [] => []
  | field :: rest => field :: (firstOfEachName rest).filter fun later => later.name != field.name

end SortOrder

/-! ## Specifications -/

/-- The ways to ask for an order. -/
inductive SortSpec where
  | single (text : String)
  | encoded (texts : List String)
  | order (order : SortOrder)

/-- The order that is asked for. -/
def SortSpec.resolve : SortSpec → Except QueryError SortOrder
  | single text => (SortField.parse text).map ([·])
  | encoded texts => SortOrder.ofEncoded texts
  | order o => .ok o

end RecordQuery
