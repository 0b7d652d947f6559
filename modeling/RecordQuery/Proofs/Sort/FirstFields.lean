import RecordQuery.Sort.Order

/-!
# RecordQuery.Proofs.Sort.FirstFields — the first field of every name

Keeping the first field of every name keeps all names.  So the first fields of two joined orders are
those of the first order and, of the second one, those with names of their own: they depend on
either order only through its first fields.

By position, they are the fields before which no field of their name stands.
-/

namespace RecordQuery.SortOrder

/-! ## Joined orders -/

/-- Choosing fields by their names may be done before or after. -/
theorem firstOfEachName_filter (p : String → Bool) (order : SortOrder) :
    firstOfEachName (order.filter fun field => p field.name)
      = (firstOfEachName order).filter fun field => p field.name := by
  induction order with
  | nil => rfl
  | cons field rest ih =>
      cases hp : p field.name with
      | true =>
          rw [List.filter_cons_of_pos (by simp [hp]), firstOfEachName, firstOfEachName, ih,
            List.filter_cons_of_pos (by simp [hp]), List.filter_filter, List.filter_filter]
          congr 1
          apply List.filter_congr
          intro later _
          exact Bool.and_comm _ _
      | false =>
          rw [List.filter_cons_of_neg (by simp [hp]), ih, firstOfEachName,
            List.filter_cons_of_neg (by simp [hp]), List.filter_filter]
          apply List.filter_congr
          intro later _
          -- a chosen name is not the name of the field that is not chosen
          by_cases hname : later.name = field.name
          · simp [hname, hp]
          · simp [hname]

/-- One field of every name is chosen already. -/
theorem firstOfEachName_firstOfEachName (order : SortOrder) :
    firstOfEachName (firstOfEachName order) = firstOfEachName order := by
  induction order with
  | nil => rfl
  | cons field rest ih =>
      rw [firstOfEachName, firstOfEachName, firstOfEachName_filter (· != field.name), ih,
        List.filter_filter]
      congr 1
      apply List.filter_congr
      intro later _
      exact Bool.and_self _

/-- Leaving out the fields of one name leaves out no other name. -/
theorem any_filter_ne {name other : String} (h : name ≠ other) (order : SortOrder) :
    ((order.filter fun field => field.name != other).any fun field => field.name == name)
      = order.any fun field => field.name == name := by
  rw [List.any_filter]
  congr 1
  funext field
  by_cases hname : field.name = name
  · simp [hname, h]
  · simp [hname]

/-- **First fields of joined orders.** They are the first fields of the first order, and those of the
second one whose names are not among them. -/
theorem firstOfEachName_append (order later : SortOrder) :
    firstOfEachName (order ++ later) = firstOfEachName order
      ++ (firstOfEachName later).filter fun field =>
        !(firstOfEachName order).any fun earlier => earlier.name == field.name := by
  induction order with
  | nil => exact (List.filter_eq_self.mpr fun _ _ => rfl).symm
  | cons field rest ih =>
      rw [List.cons_append, firstOfEachName, ih, List.filter_append, List.filter_filter,
        firstOfEachName, List.cons_append]
      congr 2
      apply List.filter_congr
      intro later _
      rw [List.any_cons]
      by_cases hname : later.name = field.name
      · simp [hname]
      · rw [any_filter_ne hname, Bool.not_or, bne, BEq.comm]

/-- Joined orders are seen through their first fields. -/
theorem firstOfEachName_append_congr {a a' b b' : SortOrder}
    (ha : firstOfEachName a = firstOfEachName a') (hb : firstOfEachName b = firstOfEachName b') :
    firstOfEachName (a ++ b) = firstOfEachName (a' ++ b') := by
  rw [firstOfEachName_append, firstOfEachName_append, ha, hb]

/-! ## Positions -/

/-- No field before the position has the name. -/
def NewAt (order : SortOrder) (i : Nat) (name : String) : Prop :=
  ∀ earlier ∈ order.take i, earlier.name ≠ name

instance (order : SortOrder) (i : Nat) (name : String) : Decidable (order.NewAt i name) :=
  inferInstanceAs (Decidable (∀ earlier ∈ order.take i, earlier.name ≠ name))

theorem newAt_zero (order : SortOrder) (name : String) : order.NewAt 0 name := by
  simp [NewAt]

theorem newAt_cons_succ (field : SortField) (rest : SortOrder) (i : Nat) (name : String) :
    NewAt (field :: rest) (i + 1) name ↔ field.name ≠ name ∧ rest.NewAt i name := by
  rw [NewAt, List.take_succ_cons, List.forall_mem_cons]
  rfl

/-- The fields whose names are new where they stand, in their order. -/
def firstOccurrences (order : SortOrder) : SortOrder :=
  (order.zipIdx.filter fun (field, i) => order.NewAt i field.name).map Prod.fst

/-- The first fields of every name are those whose names are new where they stand. -/
theorem firstOfEachName_eq (order : SortOrder) :
    firstOfEachName order = order.firstOccurrences := by
  induction order with
  | nil => rfl
  | cons field rest ih =>
      rw [firstOfEachName, ih, firstOccurrences, firstOccurrences, List.zipIdx_cons',
        List.filter_cons_of_pos (by simp [newAt_zero]), List.map_cons, List.filter_map,
        List.filter_map, List.filter_filter, List.map_map]
      congr 2
      apply List.filter_congr
      rintro ⟨later, i⟩ _
      show (later.name != field.name && decide (NewAt rest i later.name))
        = decide (NewAt (field :: rest) (i + 1) later.name)
      rw [Bool.eq_iff_iff, Bool.and_eq_true, bne_iff_ne, decide_eq_true_iff, decide_eq_true_iff,
        newAt_cons_succ, ne_comm]

end RecordQuery.SortOrder
