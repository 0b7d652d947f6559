import RecordQuery.Error
import RecordQuery.Filter.Kind

/-!
# RecordQuery.Filter.Tags — unknown words in a filter literal

Before a literal is read, its tags and connectives are checked wherever an object with a string tag
can be reached through the groups above it.  The first unknown word in depth-first order is an error
of its own, whatever else is wrong with the literal.
-/

namespace RecordQuery.Filter

/-- The error of a connective that a group literal names by an unknown string. -/
def operationFault? (members : List (String × Json)) : Option QueryError :=
  match Json.lookup "operation" members with
  | some (.string name) =>
    match Connective.ofName? name with
    | some _ => none
    | none => some (.unknownOperation name)
  | _ => none

mutual

/-- The first unknown word of a literal. -/
def wordFault? : Json → Option QueryError
  | .object members =>
    match Json.lookup "type" members with
    | some (.string tag) =>
      match FilterKind.ofTag? tag with
      | none => some (.unknownFilterType tag)
      | some .group =>
        match operationFault? members with
        | some error => some error
        | none => childrenFault? members
      | some (.test _) => none
    | _ => none
  | _ => none

/-- The first unknown word among the children of a group literal, which stand in the array that is
its first member named `filters`. -/
def childrenFault? : List (String × Json) → Option QueryError
  | [] => none
  | (k, v) :: rest =>
    if k = "filters" then
      match v with
      | .array items => itemsFault? items
      | _ => none
    else childrenFault? rest

/-- The first unknown word in a list of literals. -/
def itemsFault? : List Json → Option QueryError
  | [] => none
  | v :: rest =>
    match wordFault? v with
    | some error => some error
    | none => itemsFault? rest

end

end RecordQuery.Filter
