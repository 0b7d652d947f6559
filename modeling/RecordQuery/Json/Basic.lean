import RecordQuery.Json.Number

/-!
# RecordQuery.Json.Basic — JSON values

Values are trees; the members of an object are a list that every operation keeps in ascending order
of distinct names, so that two objects with the same members are equal.  `Json.Canonical` states
that order for whole trees.
-/

namespace RecordQuery

/-! ## Values -/

/-- A JSON value. -/
inductive Json where
  | null
  | bool (b : Bool)
  | number (n : Number)
  | string (s : String)
  | array (items : List Json)
  | object (members : List (String × Json))

instance : Inhabited Json := ⟨.null⟩

namespace Json

/-! ## Equality -/

mutual

/-- Structural equality of values as a test. -/
def same : Json → Json → Bool
  | null, null => true
  | bool a, bool b => a == b
  | number a, number b => a == b
  | string a, string b => a == b
  | array xs, array ys => sameItems xs ys
  | object ms, object ns => sameMembers ms ns
  | _, _ => false

/-- Structural equality of the items of two arrays. -/
def sameItems : List Json → List Json → Bool
  | [], [] => true
  | x :: xs, y :: ys => same x y && sameItems xs ys
  | _, _ => false

/-- Structural equality of the members of two objects. -/
def sameMembers : List (String × Json) → List (String × Json) → Bool
  | [], [] => true
  | (k, v) :: ms, (l, w) :: ns => k == l && same v w && sameMembers ms ns
  | _, _ => false

end

mutual

/-- The test decides equality. -/
theorem same_iff : ∀ a b : Json, same a b = true ↔ a = b
  | null, b => by cases b <;> simp [same]
  | bool _, b => by cases b <;> simp [same]
  | number _, b => by cases b <;> simp [same]
  | string _, b => by cases b <;> simp [same]
  | array xs, b => by cases b <;> simp [same, sameItems_iff xs]
  | object ms, b => by cases b <;> simp [same, sameMembers_iff ms]

theorem sameItems_iff : ∀ xs ys : List Json, sameItems xs ys = true ↔ xs = ys
  | [], ys => by cases ys <;> simp [sameItems]
  | x :: xs, ys => by cases ys <;> simp [sameItems, same_iff x, sameItems_iff xs]

theorem sameMembers_iff : ∀ ms ns : List (String × Json), sameMembers ms ns = true ↔ ms = ns
  | [], ns => by cases ns <;> simp [sameMembers]
  | (k, v) :: ms, ns => by
    cases ns with
    | nil => simp [sameMembers]
    | cons m ns => cases m; simp [sameMembers, same_iff v, sameMembers_iff ms, and_assoc]

end

instance : DecidableEq Json := fun a b => decidable_of_iff _ (same_iff a b)

/-! ## Numbers as values -/

/-- A signed word as a value. -/
def ofInt64 (n : Int64) : Json :=
  number (.ofInt64 n)

/-- An unsigned word as a value. -/
def ofUInt64 (n : UInt64) : Json :=
  number (.ofUInt64 n)

/-- A double as a value; what is not finite becomes null. -/
def ofDouble : Double → Json
  | .finite x => number (.double x)
  | _ => null

/-! ## Members of objects -/

/-- The value of the first member of the given name. -/
def lookup (name : String) : List (String × Json) → Option Json
  | [] => none
  | (k, v) :: rest => if k = name then some v else lookup name rest

/-- Sets a member in a list of ascending names, replacing one of the same name. -/
def insert (name : String) (value : Json) : List (String × Json) → List (String × Json)
  | [] => [(name, value)]
  | (k, v) :: rest =>
    match compare name k with
    | .lt => (name, value) :: (k, v) :: rest
    | .eq => (name, value) :: rest
    | .gt => (k, v) :: insert name value rest

/-- The ascending members of a list in any order; of two with one name the later one stays. -/
def membersOf (ms : List (String × Json)) : List (String × Json) :=
  ms.foldl (fun sorted m => insert m.1 m.2 sorted) []

/-- An object from its members in any order. -/
def ofMembers (ms : List (String × Json)) : Json :=
  object (membersOf ms)

/-- An object member that is left out when there is no value. -/
def optionalMember (name : String) (value : Option Json) : List (String × Json) :=
  match value with
  | some v => [(name, v)]
  | none => []

/-! ## Canonical trees -/

/-- Names in strictly ascending order. -/
def Ascending (ms : List (String × Json)) : Prop :=
  ms.Pairwise fun m n => compare m.1 n.1 = .lt

mutual

/-- All objects of a tree have strictly ascending member names. -/
def Canonical : Json → Prop
  | array xs => CanonicalItems xs
  | object ms => Ascending ms ∧ CanonicalMembers ms
  | _ => True

/-- All items are canonical. -/
def CanonicalItems : List Json → Prop
  | [] => True
  | x :: xs => Canonical x ∧ CanonicalItems xs

/-- All member values are canonical. -/
def CanonicalMembers : List (String × Json) → Prop
  | [] => True
  | (_, v) :: ms => Canonical v ∧ CanonicalMembers ms

end

end Json

end RecordQuery
