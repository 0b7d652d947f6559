import RecordQuery.Json.Basic

/-!
# RecordQuery.Path.Insertion — building nested objects

Setting a value under a chain of member names.  Objects on the way are kept and completed; anything
else on the way gives place to a new object.
-/

namespace RecordQuery.Json

/-- The members of an object; any other value has none. -/
def membersIn : Option Json → List (String × Json)
  | some (object members) => members
  | _ => []

/-- Sets a value under a chain of names; the empty chain changes nothing. -/
def insertAt (value : Json) : List String → List (String × Json) → List (String × Json)
  | [], members => members
  | [name], members => insert name value members
  | name :: rest, members =>
    insert name (object (insertAt value rest (membersIn (lookup name members)))) members

end RecordQuery.Json
