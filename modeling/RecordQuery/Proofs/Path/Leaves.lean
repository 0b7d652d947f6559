import RecordQuery.Proofs.Path.Hereditary
import RecordQuery.Sort.Key

/-!
# RecordQuery.Proofs.Path.Leaves — the leaves of what a path finds

Flattening a result leaves the values in it that are no arrays, from left to right; a missing result
is read as null, and fan-out lists and JSON arrays are opened alike.  A test of some leaf is a
search in that list, and a sort key has the leaves of the result that it was made from.
-/

namespace RecordQuery

namespace Json

mutual

/-- The values in a value that are no arrays. -/
def leaves : Json → List Json
  | array items => leavesOf items
  | v => [v]

/-- The leaves of several values. -/
def leavesOf : List Json → List Json
  | [] => []
  | v :: rest => leaves v ++ leavesOf rest

end

mutual

/-- A test of some leaf looks through the leaves. -/
theorem anyLeaf_eq_any (test : Option Json → Bool) :
    ∀ v : Json, v.anyLeaf test = v.leaves.any fun u => test (some u)
  | array items => by rw [anyLeaf, leaves, anyLeafOf_eq_any test items]
  | null => (Bool.or_false _).symm
  | bool _ => (Bool.or_false _).symm
  | number _ => (Bool.or_false _).symm
  | string _ => (Bool.or_false _).symm
  | object _ => (Bool.or_false _).symm

theorem anyLeafOf_eq_any (test : Option Json → Bool) :
    ∀ vs : List Json, anyLeafOf test vs = (leavesOf vs).any fun u => test (some u)
  | [] => rfl
  | v :: vs => by
      rw [anyLeafOf, leavesOf, List.any_append, anyLeaf_eq_any test v, anyLeafOf_eq_any test vs]

end

variable {P : Json → Prop}

mutual

/-- The leaves of a value inherit from it. -/
theorem Hereditary.of_mem_leaves (hP : Hereditary P) :
    ∀ v : Json, P v → ∀ u ∈ v.leaves, P u
  | .array items, h => hP.of_mem_leavesOf items ((hP.array_iff items).mp h)
  | .null, h => List.forall_mem_singleton.mpr h
  | .bool _, h => List.forall_mem_singleton.mpr h
  | .number _, h => List.forall_mem_singleton.mpr h
  | .string _, h => List.forall_mem_singleton.mpr h
  | .object _, h => List.forall_mem_singleton.mpr h

theorem Hereditary.of_mem_leavesOf (hP : Hereditary P) :
    ∀ vs : List Json, (∀ v ∈ vs, P v) → ∀ u ∈ leavesOf vs, P u
  | [], _ => nofun
  | v :: vs, h => by
      obtain ⟨hv, hvs⟩ := List.forall_mem_cons.mp h
      rw [leavesOf, List.forall_mem_append]
      exact ⟨hP.of_mem_leaves v hv, hP.of_mem_leavesOf vs hvs⟩

end

end Json

namespace Resolved

mutual

/-- The values in a result that are no arrays; a missing result counts as null. -/
def leaves : Resolved → List Json
  | missing => [.null]
  | value v => v.leaves
  | many items => leavesOf items

/-- The leaves of several results. -/
def leavesOf : List Resolved → List Json
  | [] => []
  | r :: rest => leaves r ++ leavesOf rest

end

end Resolved

namespace SortKey

mutual

/-- The scalars in a key. -/
def leaves : SortKey → List Json
  | scalar v => [v]
  | list xs => leavesOf xs

/-- The scalars in several keys. -/
def leavesOf : List SortKey → List Json
  | [] => []
  | x :: rest => leaves x ++ leavesOf rest

end

theorem mem_leavesOf {v : Json} {xs : List SortKey} :
    v ∈ leavesOf xs ↔ ∃ x ∈ xs, v ∈ x.leaves := by
  induction xs with
  | nil => simp [leavesOf]
  | cons x xs ih => simp [leavesOf, ih]

end SortKey

/-! ## Keys keep leaves -/

mutual

theorem Json.leaves_sortKey : ∀ v : Json, v.sortKey.leaves = v.leaves
  | .array items => by
      rw [sortKey, leaves, SortKey.leaves, Json.leavesOf_sortKeys items]
  | .null => rfl
  | .bool _ => rfl
  | .number _ => rfl
  | .string _ => rfl
  | .object _ => rfl

theorem Json.leavesOf_sortKeys :
    ∀ vs : List Json, SortKey.leavesOf (sortKeys vs) = leavesOf vs
  | [] => rfl
  | v :: vs => by
      rw [sortKeys, leavesOf, SortKey.leavesOf, Json.leaves_sortKey v, Json.leavesOf_sortKeys vs]

end

mutual

theorem Resolved.leaves_sortKey : ∀ r : Resolved, r.sortKey.leaves = r.leaves
  | .missing => rfl
  | .value v => by rw [sortKey, leaves, Json.leaves_sortKey]
  | .many items => by
      rw [sortKey, leaves, SortKey.leaves, Resolved.leavesOf_sortKeys items]

theorem Resolved.leavesOf_sortKeys :
    ∀ rs : List Resolved, SortKey.leavesOf (sortKeys rs) = leavesOf rs
  | [] => rfl
  | r :: rs => by
      rw [sortKeys, leavesOf, SortKey.leavesOf, Resolved.leaves_sortKey r,
        Resolved.leavesOf_sortKeys rs]

end

end RecordQuery
