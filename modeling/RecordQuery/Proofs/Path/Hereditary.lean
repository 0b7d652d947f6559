import RecordQuery.Path.Resolved

/-!
# RecordQuery.Proofs.Path.Hereditary — properties that records hand down to what is found in them

What a path finds is put together from values inside the record.  So a property that goes from a
value to the values inside it, and from the items of an array back to the array, goes from a record
to whatever a path finds in it, copied into one value.
-/

namespace RecordQuery

/-- A property of null that goes from objects to their members, and from arrays to their items and
back. -/
structure Json.Hereditary (P : Json → Prop) : Prop where
  null : P .null
  array_iff : ∀ items, P (.array items) ↔ ∀ v ∈ items, P v
  member : ∀ {name v members}, P (.object members) → Json.lookup name members = some v → P v

namespace FieldPath

open Json (Hereditary)

variable {P : Json → Prop} {next : Json → Resolved}

/-- A step hands a property down when what it finds in a value is copied into one that has it. -/
def HandsDown (P : Json → Prop) (next : Json → Resolved) : Prop :=
  ∀ v, P v → P (next v).toValue

mutual

theorem handsDown_intoMember (hP : Hereditary P) (hnext : HandsDown P next) (name : String) :
    ∀ v : Json, P v → P (intoMember name next v).toValue
  | .object members, h => by
      rw [intoMember]
      cases hlookup : Json.lookup name members with
      | none => exact hP.null
      | some v => exact hnext v (hP.member h hlookup)
  | .array items, h => by
      rw [intoMember, Resolved.toValue, hP.array_iff]
      exact handsDown_intoMembers hP hnext name items ((hP.array_iff items).mp h)
  | .null, _ => hP.null
  | .bool _, _ => hP.null
  | .number _, _ => hP.null
  | .string _, _ => hP.null

theorem handsDown_intoMembers (hP : Hereditary P) (hnext : HandsDown P next) (name : String) :
    ∀ items : List Json, (∀ v ∈ items, P v) →
      ∀ v ∈ Resolved.toValues (intoMembers name next items), P v
  | [], _ => nofun
  | v :: rest, h => by
      obtain ⟨hv, hrest⟩ := List.forall_mem_cons.mp h
      rw [intoMembers, Resolved.toValues, List.forall_mem_cons]
      exact ⟨handsDown_intoMember hP hnext name v hv,
        handsDown_intoMembers hP hnext name rest hrest⟩

end

theorem handsDown_intoIndex (hP : Hereditary P) (hnext : HandsDown P next) (i : Nat) :
    HandsDown P (intoIndex i next) := by
  intro v h
  cases v with
  | array items =>
      rw [intoIndex]
      cases hitem : items[i]? with
      | none => exact hP.null
      | some v => exact hnext v ((hP.array_iff items).mp h v (List.mem_of_getElem? hitem))
  | object members =>
      rw [intoIndex]
      cases hlookup : Json.lookup (Numeral.string i) members with
      | none => exact hP.null
      | some v => exact hnext v (hP.member h hlookup)
  | _ => exact hP.null

theorem handsDown_intoAll (hP : Hereditary P) (hnext : HandsDown P next) :
    HandsDown P (intoAll next) := by
  intro v h
  cases v with
  | array items =>
      rw [intoAll, Resolved.toValue, hP.array_iff]
      have hitems := (hP.array_iff items).mp h
      clear h
      induction items with
      | nil => nofun
      | cons v rest ih =>
          obtain ⟨hv, hrest⟩ := List.forall_mem_cons.mp hitems
          rw [List.map_cons, Resolved.toValues, List.forall_mem_cons]
          exact ⟨hnext v hv, ih hrest⟩
  | _ => exact hnext _ h

/-- **What is found inherits.** Whatever a path finds in a record with a hereditary property is
copied into a value that has it too. -/
theorem handsDown_resolve (hP : Hereditary P) (segments : List Segment) :
    HandsDown P (resolve segments) := by
  induction segments with
  | nil => exact fun _ h => h
  | cons segment rest ih =>
      cases segment with
      | member name => exact handsDown_intoMember hP ih name
      | index i => exact handsDown_intoIndex hP ih i
      | wildcard => exact handsDown_intoAll hP ih

end FieldPath

end RecordQuery
