import RecordQuery.Filter.Kind
import RecordQuery.Numeric.Double

/-!
# RecordQuery.Filter.Basic — filter trees

Filters are plain data: leaves test one field of a record, groups combine filters.  What a test
means for records is said in `RecordQuery.Filter.Predicate`.
-/

namespace RecordQuery

/-- What a leaf asks of its field. An absent text asks for null, absent values for a falsy field,
and a range without bounds for a truthy one. -/
inductive Test where
  | boolean (value : Bool)
  | containsString (needle : Option String)
  | dateRange (min max : Option String)
  | doubleRange (min max : Option Double)
  | like (pattern : Option String)
  | longEnum (values : Option (List Int64))
  | longRange (min max : Option Int64)
  | stringEnum (values : Option (List String))
  | string (value : Option String)
  | stringMap (key value : Option String)
  | stringRange (min max : Option String)
  | null (isNull : Bool)
deriving DecidableEq

/-- A filter: a test of the field at a path, or a combination of filters. -/
inductive Filter where
  | leaf (field : String) (test : Test)
  | group (op : Connective) (filters : List Filter)

instance : Inhabited Filter := ⟨.group .and []⟩

/-- The kind of a test. -/
def Test.kind : Test → TestKind
  | boolean _ => .boolean
  | containsString _ => .containsString
  | dateRange _ _ => .dateRange
  | doubleRange _ _ => .doubleRange
  | like _ => .like
  | longEnum _ => .longEnum
  | longRange _ _ => .longRange
  | stringEnum _ => .stringEnum
  | string _ => .string
  | stringMap _ _ => .stringMap
  | stringRange _ _ => .stringRange
  | null _ => .null

namespace Filter

/-- The kind of a filter. -/
def kind : Filter → FilterKind
  | leaf _ test => .test test.kind
  | group _ _ => .group

/-- The path text of the field that a leaf tests. -/
def field? : Filter → Option String
  | leaf field _ => some field
  | group _ _ => none

/-- Whether a filter is a conjunction. -/
def isAnd : Filter → Bool
  | group .and _ => true
  | _ => false

mutual

/-- All nodes of a tree, every group before its parts. -/
def nodes : Filter → List Filter
  | leaf field test => [leaf field test]
  | group op filters => group op filters :: nodesOf filters

/-- All nodes of several trees. -/
def nodesOf : List Filter → List Filter
  | [] => []
  | f :: rest => nodes f ++ nodesOf rest

end

mutual

/-- The leaves of a tree from left to right. -/
def leaves : Filter → List (String × Test)
  | leaf field test => [(field, test)]
  | group _ filters => leavesOf filters

/-- The leaves of several trees. -/
def leavesOf : List Filter → List (String × Test)
  | [] => []
  | f :: rest => leaves f ++ leavesOf rest

end

end Filter

end RecordQuery
