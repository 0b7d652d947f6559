import RecordQuery.Filter.Predicate
import RecordQuery.Path.Insertion
import RecordQuery.Sort.Comparator
import RecordQuery.Window.Basic

/-!
# RecordQuery.Window.Execution — applying a window to records

Applying a window keeps the records that its filter matches, sorts them stably and takes the
positions of its interval.  Selecting projects one record to the fields of the window: chains of
members rebuild the objects they pass, and other paths are stored under their own text.
-/

namespace RecordQuery.Window

/-! ## Pages -/

/-- The test of a window's filter; without a filter every record passes. -/
def predicate (options : MatchOptions) (w : Window) : Except QueryError Predicate :=
  match w.filter with
  | some f => f.compile options.mode
  | none => .ok fun _ => true

/-- The sorting of a window's order; without an order records stay where they are. -/
def sorting {α : Type} (options : MatchOptions) (w : Window) (record : α → Json) :
    Except QueryError (List α → List α) :=
  if w.sortOrder.isEmpty then .ok id
  else do
    let comparator ← SortOrder.compile options w.sortOrder
    return comparator.sort record

/-- The positions of a window's interval. -/
def slice {α : Type} (w : Window) (items : List α) : List α :=
  let rest := items.drop w.offset.toNat
  match w.limit with
  | some limit => rest.take limit.toNat
  | none => rest

/-- The page of a window: the items whose records match, sorted and cut to the interval.  `record`
gives the record of an item. -/
def apply {α : Type} (options : MatchOptions) (w : Window) (record : α → Json) (items : List α) :
    Except QueryError (List α) := do
  let test ← w.predicate options
  let sort ← w.sorting options record
  return w.slice (sort (Predicate.keep test record items))

/-! ## Projection -/

/-- Stores what the path of one selected field finds. -/
def store (path : FieldPath) (found : Resolved) (members : List (String × Json)) :
    List (String × Json) :=
  match found with
  | .missing => members
  | found =>
    match path.memberNames? with
    | some (name :: names) => Json.insertAt found.toValue (name :: names) members
    | _ => Json.insert path.text found.toValue members

/-- Projects a record to the given fields, on top of the members stored so far. -/
def selectFrom (record : Json) : List String → List (String × Json) →
    Except QueryError (List (String × Json))
  | [], members => .ok members
  | field :: rest, members => do
    let path ← (FieldPath.parse field).mapError .invalidPath
    selectFrom record rest (store path (path.evaluate record) members)

/-- Projects a record to the fields of a window; without fields the record stays as it is. -/
def select (w : Window) (record : Json) : Except QueryError Json :=
  if w.fields.isEmpty then .ok record
  else do
    let members ← selectFrom record w.fields []
    return .object members

end RecordQuery.Window
