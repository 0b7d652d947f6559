/-!
# RecordQuery.Filter.Kind — the vocabulary of filters

A filter is either a test of one field, of one of twelve kinds, or a group of filters under one of
four connectives.  Each kind has a tag on the wire; the order of the tags is fixed, and a tag may
also be given by its place in it.
-/

namespace RecordQuery

/-! ## Kinds -/

/-- The kinds of tests of one field. -/
inductive TestKind where
  | boolean
  | containsString
  | dateRange
  | doubleRange
  | like
  | longEnum
  | longRange
  | stringEnum
  | string
  | stringMap
  | stringRange
  | null
deriving DecidableEq

/-- The kinds of filters. -/
inductive FilterKind where
  | test (kind : TestKind)
  | group
deriving DecidableEq

namespace FilterKind

/-- The tag of a kind. -/
def tag : FilterKind → String
  | test .boolean => "boolean"
  | test .containsString => "containsString"
  | test .dateRange => "dateRange"
  | test .doubleRange => "doubleRange"
  | test .like => "like"
  | group => "logOp"
  | test .longEnum => "longEnum"
  | test .longRange => "longRange"
  | test .stringEnum => "stringEnum"
  | test .string => "string"
  | test .stringMap => "stringMap"
  | test .stringRange => "stringRange"
  | test .null => "null"

/-- All kinds in the order of the wire format. -/
def all : List FilterKind :=
  [test .boolean, test .containsString, test .dateRange, test .doubleRange, test .like, group,
   test .longEnum, test .longRange, test .stringEnum, test .string, test .stringMap,
   test .stringRange, test .null]

/-- The kind of a tag. -/
def ofTag? (tag : String) : Option FilterKind :=
  all.find? (·.tag == tag)

/-- The place of a kind among all kinds. -/
def index (kind : FilterKind) : Nat :=
  all.idxOf kind

/-- A tag names its own kind. -/
theorem ofTag?_tag (kind : FilterKind) : ofTag? kind.tag = some kind := by
  cases kind with
  | group => decide
  | test k => cases k <;> decide

/-- A text is a tag of the kind it names. -/
theorem tag_of_ofTag? {tag : String} {kind : FilterKind} (h : ofTag? tag = some kind) :
    kind.tag = tag := by
  have := List.find?_some h
  simpa using this

end FilterKind

/-! ## Connectives -/

/-- How the filters of a group are combined. -/
inductive Connective where
  | and
  | or
  | nand
  | nor
deriving DecidableEq

namespace Connective

/-- The name of a connective. -/
def name : Connective → String
  | and => "and"
  | or => "or"
  | nand => "nand"
  | nor => "nor"

/-- All connectives. -/
def all : List Connective :=
  [and, or, nand, nor]

/-- The connective of a name in any ASCII case. -/
def ofName? (name : String) : Option Connective :=
  let lowered := String.ofList (name.toList.map Char.toLower)
  all.find? (·.name == lowered)

/-- A name names its own connective. -/
theorem ofName?_name (op : Connective) : ofName? op.name = some op := by
  cases op <;> decide

/-- A connective is named by its name in lower case. -/
theorem name_of_ofName? {name : String} {op : Connective} (h : ofName? name = some op) :
    op.name = String.ofList (name.toList.map Char.toLower) := by
  have := List.find?_some h
  simpa using this

end Connective

end RecordQuery
