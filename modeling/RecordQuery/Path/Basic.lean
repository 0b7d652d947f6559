/-!
# RecordQuery.Path.Basic — field paths

A field path is a chain of steps into a record: to a member of an object, to an item of an array, or
to all items at once.  The empty path is the record itself.
-/

namespace RecordQuery

/-- One step of a field path. -/
inductive Segment where
  | member (name : String)
  | index (i : Nat)
  | wildcard
deriving DecidableEq

/-- A field path with the text that it was read from. -/
structure FieldPath where
  text : String
  segments : List Segment
deriving DecidableEq

namespace Segment

/-- The name of a member step. -/
def name? : Segment → Option String
  | member name => some name
  | _ => none

end Segment

namespace FieldPath

/-- The member names of a path that has no other steps. -/
def memberNames? (path : FieldPath) : Option (List String) :=
  path.segments.mapM Segment.name?

end FieldPath

end RecordQuery
