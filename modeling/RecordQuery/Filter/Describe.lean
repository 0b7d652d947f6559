import RecordQuery.Filter.Basic
import RecordQuery.Numeric.Layout

/-!
# RecordQuery.Filter.Describe — filters as readable expressions

A filter is described by one line: a comparison for a leaf, and the parts in parentheses joined by a
keyword for a group.  Texts stand between single quotes, of which those inside are marked by a
backslash; nothing else is escaped.
-/

namespace RecordQuery.Filter

/-! ## Parts -/

/-- A character inside quotes. -/
def quoteChar (c : Char) : List Char :=
  if c = '\x27' then ['\\', '\x27'] else [c]

/-- A text between single quotes. -/
def quote (s : String) : String :=
  String.ofList ('\x27' :: s.toList.flatMap quoteChar ++ ['\x27'])

/-- The plain text of a double. -/
def doubleText (x : Double) : String :=
  String.ofList (Layout.plain.text x)

/-- The decimal text of an integer. -/
def int64Text (n : Int64) : String :=
  String.ofList (Numeral.ofInt n.toInt)

/-- A range, from the texts of its bounds; equal texts make an equation. -/
def describeRange (field : String) (min max : Option String) : String :=
  match min, max with
  | none, none => field ++ " IS SET"
  | some min, none => field ++ " >= " ++ min
  | none, some max => field ++ " <= " ++ max
  | some min, some max =>
    if min = max then field ++ " = " ++ min else field ++ " BETWEEN " ++ min ++ " AND " ++ max

/-- A choice among values, from their texts. -/
def describeList (field : String) (values : Option (List String)) : String :=
  match values with
  | some texts => field ++ " IN (" ++ ", ".intercalate texts ++ ")"
  | none => field ++ " IS NOT SET"

/-- A comparison with a text, or with null when there is none. -/
def describeText (field operator : String) (value : Option String) : String :=
  match value with
  | some s => field ++ operator ++ quote s
  | none => field ++ " IS NULL"

/-! ## Filters -/

/-- The description of a leaf. -/
def describeTest (field : String) : Test → String
  | .boolean value => field ++ " IS " ++ (if value then "true" else "false")
  | .containsString needle => describeText field " CONTAINS " needle
  | .dateRange min max => describeRange field (min.map quote) (max.map quote)
  | .doubleRange min max => describeRange field (min.map doubleText) (max.map doubleText)
  | .like pattern => describeText field " LIKE " pattern
  | .longEnum values => describeList field (values.map (·.map int64Text))
  | .longRange min max => describeRange field (min.map int64Text) (max.map int64Text)
  | .stringEnum values => describeList field (values.map (·.map quote))
  | .string value => describeText field " = " value
  | .stringMap none none => field ++ " IS NOT EMPTY"
  | .stringMap none (some value) => "ANY " ++ field ++ " = " ++ quote value
  | .stringMap (some key) none => field ++ "[" ++ quote key ++ "] IS SET"
  | .stringMap (some key) (some value) => field ++ "[" ++ quote key ++ "] = " ++ quote value
  | .stringRange min max => describeRange field (min.map quote) (max.map quote)
  | .null isNull => if isNull then field ++ " IS NULL" else field ++ " IS NOT NULL"

/-- The description of a group, from those of its parts. -/
def describeGroup (op : Connective) (parts : List String) : String :=
  match op, parts with
  | .and, [] | .nor, [] => "TRUE"
  | .or, [] | .nand, [] => "FALSE"
  | .and, parts => "(" ++ " AND ".intercalate parts ++ ")"
  | .or, parts => "(" ++ " OR ".intercalate parts ++ ")"
  | .nand, parts => "NOT (" ++ " AND ".intercalate parts ++ ")"
  | .nor, parts => "NOT (" ++ " OR ".intercalate parts ++ ")"

mutual

/-- The description of a filter. -/
def describe : Filter → String
  | leaf field test => describeTest field test
  | group op filters => describeGroup op (describeAll filters)

/-- The descriptions of several filters. -/
def describeAll : List Filter → List String
  | [] => []
  | f :: rest => describe f :: describeAll rest

end

end RecordQuery.Filter
