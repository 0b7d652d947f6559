import RecordQuery.Path.Resolved
import RecordQuery.Text.Lowercase

/-!
# RecordQuery.Sort.Key — the order of what paths find

A comparator sees what a path finds as a key: a scalar, where nothing found counts as null, or a
list of keys, where fan-out lists and JSON arrays are alike.

Truthy keys come after falsy ones, and lists are truthy.  Lists are compared item by item; the
shorter one goes on with nulls, and a scalar met with a list stands for the list of itself.  Scalars
of one kind have their natural order, and all other pairs of scalars are equal.

The comparison of keys takes its two sides apart one after the other, which makes it structural.  As
a recursion on both results at once it is `Resolved.compareStep`, which it satisfies and which
determines it (`Resolved.eq_compare_iff`).
-/

namespace RecordQuery

/-! ## Keys -/

/-- What a comparator sees of a result. -/
inductive SortKey where
  | scalar (v : Json)
  | list (items : List SortKey)

instance : Inhabited SortKey := ⟨.scalar .null⟩

namespace Json

mutual

/-- The key of a value. -/
def sortKey : Json → SortKey
  | array items => .list (sortKeys items)
  | v => .scalar v

/-- The keys of several values. -/
def sortKeys : List Json → List SortKey
  | [] => []
  | v :: rest => sortKey v :: sortKeys rest

end

end Json

namespace Resolved

mutual

/-- The key of what a path finds. -/
def sortKey : Resolved → SortKey
  | missing => .scalar .null
  | value v => v.sortKey
  | many items => .list (sortKeys items)

/-- The keys of several results. -/
def sortKeys : List Resolved → List SortKey
  | [] => []
  | r :: rest => sortKey r :: sortKeys rest

end

end Resolved

/-! ## Comparison -/

namespace SortKey

/-- The order of two strings, by code point, or of their lowercase forms. -/
def compareStrings (caseSensitive : Bool) (s t : String) : Ordering :=
  if caseSensitive then compare s t else compare (Text.lowercase s) (Text.lowercase t)

/-- The order of two scalars that are both truthy or both falsy. -/
def compareAlike (caseSensitive : Bool) (u v : Json) : Ordering :=
  match u, v with
  | .string s, .string t => compareStrings caseSensitive s t
  | u, v => (u.compareScalars v).getD .eq

/-- The order of two scalars. -/
def compareScalar (caseSensitive : Bool) (u v : Json) : Ordering :=
  if u.truthy = v.truthy then compareAlike caseSensitive u v
  else if u.truthy then .gt else .lt

/-- Whether a key is truthy; a list always is. -/
def truthy : SortKey → Bool
  | scalar v => v.truthy
  | list _ => true

/-- The order of the remaining items of a list and as many nulls: any truthy item comes later. -/
def compareToNulls (items : List SortKey) : Ordering :=
  if items.any truthy then .gt else .eq

mutual

/-- The order of a scalar and a key. -/
def compareScalarTo (caseSensitive : Bool) (u : Json) : SortKey → Ordering
  | scalar v => compareScalar caseSensitive u v
  | list items => if u.truthy then compareScalarToItems caseSensitive u items else .lt

/-- The order of the list of one scalar and a list of keys. -/
def compareScalarToItems (caseSensitive : Bool) (u : Json) : List SortKey → Ordering
  | [] => if u.truthy then .gt else .eq
  | y :: ys => (compareScalarTo caseSensitive u y).then (compareToNulls ys).swap

end

mutual

/-- The order of two keys. -/
def compare (caseSensitive : Bool) : SortKey → SortKey → Ordering
  | scalar u, k => compareScalarTo caseSensitive u k
  | list xs, scalar v => if v.truthy then compareItemsToScalar caseSensitive xs v else .gt
  | list xs, list ys => compareItems caseSensitive xs ys

/-- The order of a list of keys and the list of one scalar. -/
def compareItemsToScalar (caseSensitive : Bool) : List SortKey → Json → Ordering
  | [], v => if v.truthy then .lt else .eq
  | x :: xs, v => (compare caseSensitive x (scalar v)).then (compareToNulls xs)

/-- The order of two lists of keys, item by item. -/
def compareItems (caseSensitive : Bool) : List SortKey → List SortKey → Ordering
  | [], ys => (compareToNulls ys).swap
  | x :: xs, [] => compareToNulls (x :: xs)
  | x :: xs, y :: ys => (compare caseSensitive x y).then (compareItems caseSensitive xs ys)

end

end SortKey

/-- The order of two results. -/
def Resolved.compare (caseSensitive : Bool) (a b : Resolved) : Ordering :=
  SortKey.compare caseSensitive a.sortKey b.sortKey

end RecordQuery
