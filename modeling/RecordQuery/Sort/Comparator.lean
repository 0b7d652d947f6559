import RecordQuery.Options
import RecordQuery.Sort.Key
import RecordQuery.Sort.Order

/-!
# RecordQuery.Sort.Comparator — comparing and sorting records

Compiling a sort order reads the path of each field.  Records are compared field by field; the first
difference decides, in the direction of its field.  Sorting is stable: records without a difference
keep their order.
-/

namespace RecordQuery

/-- A sort field with the path that its name spells. -/
structure ComparatorKey where
  field : SortField
  path : FieldPath
deriving DecidableEq

/-- A compiled sort order. -/
structure Comparator where
  keys : List ComparatorKey
  caseSensitive : Bool
deriving DecidableEq

namespace SortOrder

/-- Reads the paths of the fields from left to right. -/
def keys : SortOrder → Except QueryError (List ComparatorKey)
  | [] => .ok []
  | field :: rest => do
    let path ← (FieldPath.parse field.name).mapError .invalidPath
    let later ← keys rest
    return ⟨field, path⟩ :: later

/-- Compiles an order. -/
def compile (options : MatchOptions) (order : SortOrder) : Except QueryError Comparator := do
  let ks ← keys order
  return ⟨ks, options.caseSensitive⟩

end SortOrder

/-- Compiles the order that is asked for. -/
def SortSpec.compile (options : MatchOptions) (spec : SortSpec) : Except QueryError Comparator := do
  let order ← spec.resolve
  SortOrder.compile options order

/-- The order of two records by one field. -/
def ComparatorKey.compare (caseSensitive : Bool) (key : ComparatorKey) (a b : Json) : Ordering :=
  key.field.apply ((key.path.evaluate a).compare caseSensitive (key.path.evaluate b))

namespace Comparator

/-- The order of two records by several fields: the first difference decides. -/
def compareBy (caseSensitive : Bool) : List ComparatorKey → Json → Json → Ordering
  | [], _, _ => .eq
  | key :: rest, a, b => (key.compare caseSensitive a b).then (compareBy caseSensitive rest a b)

/-- The order of two records. -/
def compare (c : Comparator) (a b : Json) : Ordering :=
  compareBy c.caseSensitive c.keys a b

/-- Whether a record may stand before another one. -/
def le (c : Comparator) (a b : Json) : Bool :=
  c.compare a b != .gt

/-- Sorts items by their records, of which `record` gives the view. -/
def sort {α : Type} (c : Comparator) (record : α → Json) (items : List α) : List α :=
  items.mergeSort fun a b => c.le (record a) (record b)

/-- The fields of a comparator. -/
def fields (c : Comparator) : SortOrder :=
  c.keys.map ComparatorKey.field

/-- The text of a comparator for a human reader. -/
def shown (c : Comparator) : String :=
  "Comparator \x7b order: " ++ Text.quoted (SortOrder.text c.fields) ++ ", case_sensitive: "
    ++ (if c.caseSensitive then "true" else "false") ++ " \x7d"

end Comparator

end RecordQuery
