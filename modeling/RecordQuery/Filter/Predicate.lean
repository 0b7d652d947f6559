import RecordQuery.Error
import RecordQuery.Filter.Literal
import RecordQuery.Options
import RecordQuery.Path.Resolved
import RecordQuery.Text.Pattern

/-!
# RecordQuery.Filter.Predicate — what a filter means for records

Compiling a filter reads its paths and patterns once and gives a test of records.  Text tests,
enumerations and bounded ranges are existential: they look at the leaves of what the path finds, and
one that passes suffices.  All other tests look at the whole result.  Compilation fails at the first
leaf, from left to right, whose pattern is too large or whose path is malformed, even where no
record would ever reach that leaf.
-/

namespace RecordQuery

/-! ## Text tests -/

/-- A test of one value's text. -/
inductive TextTest where
  /-- Equal to a text, exactly; a number may equal a numeric text. -/
  | equals (expected : String)
  /-- Equal to a folded text up to case. -/
  | equalsFolded (expected : List Char)
  /-- Holds a text, characters being seen in a case mode. -/
  | contains (mode : Text.CaseMode) (needle : List Char)
  /-- Follows a pattern, characters being seen in a case mode. -/
  | follows (mode : Text.CaseMode) (pattern : Text.Pattern)

namespace TextTest

/-- A test that a pattern describes, if the pattern is not too large. -/
def limited (pattern : Text.Pattern) (test : TextTest) : Except QueryError TextTest :=
  if pattern.fits then .ok test else .error .patternTooLarge

/-- The test of `string` filters and of values in `stringMap` filters. -/
def ofEquality (mode : Text.CaseMode) (expected : String) : Except QueryError TextTest :=
  match mode with
  | .exact => .ok (equals expected)
  | .folded =>
    limited (Text.Pattern.literal expected.toList)
      (equalsFolded (Text.CaseMode.folded.viewText expected.toList))

/-- The test of `containsString` filters. -/
def ofNeedle (mode : Text.CaseMode) (needle : String) : Except QueryError TextTest :=
  match mode with
  | .exact => .ok (contains .exact needle.toList)
  | .folded =>
    limited (Text.Pattern.literal needle.toList)
      (contains .folded (Text.CaseMode.folded.viewText needle.toList))

/-- The test of `like` filters. -/
def ofLike (mode : Text.CaseMode) (text : String) : Except QueryError TextTest :=
  let pattern := Text.Pattern.ofText text.toList
  limited pattern (follows mode (pattern.view mode))

/-- Whether a value passes; values without a text form pass no test of their text. -/
def passes : TextTest → Json → Bool
  | equals expected, v => v.looseEq (.string expected)
  | equalsFolded expected, v =>
    v.scalarText?.any fun t => Text.CaseMode.folded.viewText t == expected
  | contains mode needle, v => v.scalarText?.any fun t => Text.occursIn needle (mode.viewText t)
  | follows mode pattern, v => v.scalarText?.any fun t => pattern.recognizes (mode.viewText t)

end TextTest

/-! ## Tests of what a path finds -/

/-- A test of what a path finds. -/
abbrev FieldTest := Resolved → Bool

namespace FieldTest

/-- Passes when some leaf that is not missing passes. -/
def someLeaf (test : Json → Bool) : FieldTest :=
  fun r => r.any (·.any test)

/-- At least a bound. -/
def atLeast (bound v : Json) : Bool :=
  match v.compareLoose bound with
  | some .gt | some .eq => true
  | _ => false

/-- At most a bound. -/
def atMost (bound v : Json) : Bool :=
  match v.compareLoose bound with
  | some .lt | some .eq => true
  | _ => false

/-- A range: no falsy value passes, and equal bounds ask for loose equality. -/
def range (min max : Option Json) : FieldTest :=
  match min, max with
  | none, none => Resolved.isTruthy
  | none, some max => someLeaf fun v => v.truthy && atMost max v
  | some min, none => someLeaf fun v => v.truthy && atLeast min v
  | some min, some max =>
    if min.compareScalars max == some .eq then someLeaf fun v => v.truthy && v.looseEq min
    else someLeaf fun v => v.truthy && (atLeast min v && atMost max v)

/-- An enumeration; without values it asks for a falsy result. -/
def choice (values : Option (List Json)) : FieldTest :=
  match values with
  | none => fun r => !r.isTruthy
  | some values => someLeaf fun v => values.any fun w => v.compareScalars w == some .eq

/-- A text test of some leaf, or the test for null when there is no text. -/
def text (test : Option TextTest) : FieldTest :=
  match test with
  | none => Resolved.isNullish
  | some test => someLeaf test.passes

/-- A test of the entries of an object. -/
def entries (key : Option String) (test : Option TextTest) (members : List (String × Json)) :
    Bool :=
  match key, test with
  | none, none => !members.isEmpty
  | none, some test => members.any fun m => test.passes m.2
  | some key, none => (Json.lookup key members).any fun v => v != .null
  | some key, some test => (Json.lookup key members).any fun v => v != .null && test.passes v

/-- A test of the entries of some leaf that is an object. -/
def map (key : Option String) (test : Option TextTest) : FieldTest :=
  someLeaf fun
    | .object members => entries key test members
    | _ => false

end FieldTest

/-- The field test that a leaf stands for. -/
def Test.compile (mode : Text.CaseMode) : Test → Except QueryError FieldTest
  | boolean value => .ok fun r => r.isTruthy == value
  | containsString needle => do
    let test ← needle.mapM (TextTest.ofNeedle mode)
    return FieldTest.text test
  | dateRange min max => .ok (FieldTest.range (min.map .string) (max.map .string))
  | doubleRange min max => .ok (FieldTest.range (min.map Json.ofDouble) (max.map Json.ofDouble))
  | like pattern => do
    let test ← pattern.mapM (TextTest.ofLike mode)
    return FieldTest.text test
  | longEnum values => .ok (FieldTest.choice (values.map (·.map Json.ofInt64)))
  | longRange min max => .ok (FieldTest.range (min.map Json.ofInt64) (max.map Json.ofInt64))
  | stringEnum values => .ok (FieldTest.choice (values.map (·.map .string)))
  | string value => do
    let test ← value.mapM (TextTest.ofEquality mode)
    return FieldTest.text test
  | stringMap key value => do
    let test ← value.mapM (TextTest.ofEquality mode)
    return FieldTest.map key test
  | stringRange min max => .ok (FieldTest.range (min.map .string) (max.map .string))
  | null isNull => .ok fun r => r.isNullish == isNull

/-! ## Predicates -/

/-- A compiled filter: a test of records. -/
abbrev Predicate := Json → Bool

namespace Predicate

variable {α : Type}

/-- The items whose records match, in their order; `record` gives the record of an item. -/
def keep (test : Predicate) (record : α → Json) (items : List α) : List α :=
  items.filter fun x => test (record x)

/-- The number of items whose records match. -/
def count (test : Predicate) (record : α → Json) (items : List α) : Nat :=
  items.countP fun x => test (record x)

/-- The text of a predicate for a human reader, which shows nothing of the test. -/
def shown : String :=
  "Predicate \x7b .. \x7d"

end Predicate

namespace Connective

/-- Combines the answers of the parts of a group. -/
def combine : Connective → List Predicate → Predicate
  | and, tests => fun record => tests.all (· record)
  | or, tests => fun record => tests.any (· record)
  | nand, tests => fun record => tests.any (!· record)
  | nor, tests => fun record => !tests.any (· record)

end Connective

namespace Filter

/-- Compiles a leaf: first its texts, then its path. -/
def compileLeaf (mode : Text.CaseMode) (field : String) (test : Test) :
    Except QueryError Predicate := do
  let test ← test.compile mode
  let path ← (FieldPath.parse field).mapError .invalidPath
  return fun record => test (path.evaluate record)

mutual

/-- Compiles a filter. -/
def compile (mode : Text.CaseMode) : Filter → Except QueryError Predicate
  | leaf field test => compileLeaf mode field test
  | group op filters => do
    let tests ← compileAll mode filters
    return op.combine tests

/-- Compiles filters from left to right. -/
def compileAll (mode : Text.CaseMode) : List Filter → Except QueryError (List Predicate)
  | [] => .ok []
  | f :: rest => do
    let test ← compile mode f
    let tests ← compileAll mode rest
    return test :: tests

end

end Filter

end RecordQuery
