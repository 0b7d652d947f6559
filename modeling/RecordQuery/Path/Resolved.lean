import RecordQuery.Json.Loose
import RecordQuery.Path.Basic

/-!
# RecordQuery.Path.Resolved — what a path finds in a record

A path finds nothing, one value, or, once it crosses an array, a list with one result per item.
Each array crossed adds one level; results are never flattened.  A member step crosses an array on
its way to the members of the items; a wildcard passes anything but an array through.
-/

namespace RecordQuery

/-- What a path finds in a record. -/
inductive Resolved where
  | missing
  | value (v : Json)
  | many (items : List Resolved)

instance : Inhabited Resolved := ⟨.missing⟩

/-! ## Evaluation -/

namespace FieldPath

mutual

/-- Goes on with `next` at the member of an object, or at that member of every item of an array. -/
def intoMember (name : String) (next : Json → Resolved) : Json → Resolved
  | .object members =>
    match Json.lookup name members with
    | some v => next v
    | none => .missing
  | .array items => .many (intoMembers name next items)
  | _ => .missing

/-- Goes on with `next` at a member of every item. -/
def intoMembers (name : String) (next : Json → Resolved) : List Json → List Resolved
  | [] => []
  | v :: rest => intoMember name next v :: intoMembers name next rest

end

/-- Goes on with `next` at an item of an array, or at the member of an object named by the index. -/
def intoIndex (i : Nat) (next : Json → Resolved) : Json → Resolved
  | .array items =>
    match items[i]? with
    | some v => next v
    | none => .missing
  | .object members =>
    match Json.lookup (Numeral.string i) members with
    | some v => next v
    | none => .missing
  | _ => .missing

/-- Goes on with `next` at every item of an array, and at anything else itself. -/
def intoAll (next : Json → Resolved) : Json → Resolved
  | .array items => .many (items.map next)
  | v => next v

/-- Follows a chain of segments from a value. -/
def resolve : List Segment → Json → Resolved
  | [] => .value
  | .member name :: rest => intoMember name (resolve rest)
  | .index i :: rest => intoIndex i (resolve rest)
  | .wildcard :: rest => intoAll (resolve rest)

/-- What a path finds in a record. -/
def evaluate (path : FieldPath) (record : Json) : Resolved :=
  resolve path.segments record

end FieldPath

/-! ## Looking at results -/

namespace Json

mutual

/-- Whether a test passes on a value that is no array, or on one of the leaves of an array. -/
def anyLeaf (test : Option Json → Bool) : Json → Bool
  | array items => anyLeafOf test items
  | v => test (some v)

/-- Whether a test passes on a leaf of some item. -/
def anyLeafOf (test : Option Json → Bool) : List Json → Bool
  | [] => false
  | v :: rest => anyLeaf test v || anyLeafOf test rest

end

end Json

namespace Resolved

/-- The single value found. -/
def value? : Resolved → Option Json
  | value v => some v
  | _ => none

/-- Nothing found, or null. -/
def isNullish : Resolved → Bool
  | missing => true
  | value v => Json.isNullish (some v)
  | many _ => false

/-- Whether the result as a whole is truthy; a list always is. -/
def isTruthy : Resolved → Bool
  | missing => false
  | value v => v.truthy
  | many _ => true

mutual

/-- Whether a test passes on some leaf; lists and JSON arrays are descended into alike, and a
missing result is tested as `none`. -/
def any (test : Option Json → Bool) : Resolved → Bool
  | missing => test none
  | value v => v.anyLeaf test
  | many items => anyOf test items

/-- Whether a test passes on a leaf of some result. -/
def anyOf (test : Option Json → Bool) : List Resolved → Bool
  | [] => false
  | r :: rest => any test r || anyOf test rest

end

/-- The parts of a list; a JSON array is one too. -/
def elements? : Resolved → Option (List Resolved)
  | many items => some items
  | value (.array items) => some (items.map value)
  | _ => none

mutual

/-- The result as one value: null for nothing, an array for a list. -/
def toValue : Resolved → Json
  | missing => .null
  | value v => v
  | many items => .array (toValues items)

/-- The values of several results. -/
def toValues : List Resolved → List Json
  | [] => []
  | r :: rest => toValue r :: toValues rest

end

end Resolved

end RecordQuery
