import RecordQuery.Json.Members

/-!
# RecordQuery.Proofs.Json.Members — look-up in members that were joined, changed and taken out

Joining, changing and filtering members commutes with look-up.  Ascending members are determined by
what is found in them, so lists of members can be compared name by name.
-/

namespace RecordQuery.Json

/-! ## Look-up -/

@[simp]
theorem lookup_append (name : String) (ms ns : List (String × Json)) :
    lookup name (ms ++ ns) = (lookup name ms).or (lookup name ns) := by
  induction ms with
  | nil => rfl
  | cons m ms ih =>
      obtain ⟨k, v⟩ := m
      rw [List.cons_append, lookup, lookup]
      split
      · rfl
      · exact ih

@[simp]
theorem lookup_optionalMember (name other : String) (value : Option Json) :
    lookup name (optionalMember other value) = if other = name then value else none := by
  cases value with
  | none => simp [optionalMember, lookup]
  | some v => rfl

/-- What is found stands among the members. -/
theorem mem_of_lookup_eq_some {name : String} {v : Json} {ms : List (String × Json)}
    (h : lookup name ms = some v) : (name, v) ∈ ms := by
  induction ms with
  | nil => cases h
  | cons m rest ih =>
      obtain ⟨k, u⟩ := m
      rw [lookup] at h
      split at h
      · next hname =>
          cases h
          exact hname ▸ List.mem_cons_self
      · exact List.mem_cons_of_mem _ (ih h)

/-- Look-up of a name after some names were taken out. -/
theorem lookup_filter_name (keep : String → Bool) (name : String) (ms : List (String × Json)) :
    lookup name (ms.filter fun m => keep m.1) = if keep name then lookup name ms else none := by
  induction ms with
  | nil => simp [lookup]
  | cons m rest ih =>
      obtain ⟨k, v⟩ := m
      by_cases hk : keep k = true
      · have hfilter : ((k, v) :: rest).filter (fun m => keep m.1)
            = (k, v) :: rest.filter fun m => keep m.1 := List.filter_cons_of_pos hk
        rw [hfilter, lookup, lookup, ih]
        by_cases hname : k = name
        · rw [if_pos hname, if_pos hname, if_pos (hname ▸ hk)]
        · rw [if_neg hname, if_neg hname]
      · have hfilter : ((k, v) :: rest).filter (fun m => keep m.1)
            = rest.filter fun m => keep m.1 := List.filter_cons_of_neg hk
        rw [hfilter, ih, lookup]
        by_cases hname : k = name
        · rw [if_neg (hname ▸ hk), if_neg (hname ▸ hk)]
        · rw [if_neg hname]

/-- Look-up of a name after all values were changed. -/
theorem lookup_map_value (change : String → Json → Json) (name : String)
    (ms : List (String × Json)) :
    lookup name (ms.map fun m => (m.1, change m.1 m.2)) = (lookup name ms).map (change name) := by
  induction ms with
  | nil => rfl
  | cons m rest ih =>
      obtain ⟨k, v⟩ := m
      rw [List.map_cons, lookup, lookup, ih]
      by_cases hname : k = name
      · rw [if_pos hname, if_pos hname, hname]
        rfl
      · rw [if_neg hname, if_neg hname]

/-- Look-up of a name after some members were taken out, of which no two had one name. -/
theorem lookup_filter {ms : List (String × Json)} (h : Ascending ms) (keep : String → Json → Bool)
    (name : String) :
    lookup name (ms.filter fun m => keep m.1 m.2) = (lookup name ms).filter (keep name) := by
  induction ms with
  | nil => rfl
  | cons m rest ih =>
      obtain ⟨k, v⟩ := m
      obtain ⟨hfirst, hrest⟩ := List.pairwise_cons.mp h
      -- when the first member of a name is taken out, no other one takes its place
      have hnone : lookup k rest = none := lookup_eq_none hfirst
      by_cases hk : keep k v = true
      · have hfilter : ((k, v) :: rest).filter (fun m => keep m.1 m.2)
            = (k, v) :: rest.filter fun m => keep m.1 m.2 := List.filter_cons_of_pos hk
        rw [hfilter, lookup, lookup, ih hrest]
        by_cases hname : k = name
        · subst hname
          rw [if_pos rfl, if_pos rfl, Option.filter_some, if_pos hk]
        · rw [if_neg hname, if_neg hname]
      · have hfilter : ((k, v) :: rest).filter (fun m => keep m.1 m.2)
            = rest.filter fun m => keep m.1 m.2 := List.filter_cons_of_neg hk
        rw [hfilter, ih hrest, lookup]
        by_cases hname : k = name
        · subst hname
          rw [if_pos rfl, hnone, Option.filter_some, if_neg hk]
          rfl
        · rw [if_neg hname]

/-! ## Members in ascending order -/

theorem ascending_filter {ms : List (String × Json)} (h : Ascending ms)
    (keep : String × Json → Bool) : Ascending (ms.filter keep) :=
  List.Pairwise.filter keep h

theorem ascending_map_value {ms : List (String × Json)} (h : Ascending ms)
    (change : String → Json → Json) : Ascending (ms.map fun m => (m.1, change m.1 m.2)) :=
  List.pairwise_map.mpr h

theorem name_of_mem_optionalMember {name : String} {value : Option Json} {m : String × Json}
    (h : m ∈ optionalMember name value) : m.1 = name := by
  cases value with
  | none => cases h
  | some v => rw [List.mem_singleton.mp h]

/-- The members that are found under some names. -/
def membersAt (names : List String) (ms : List (String × Json)) : List (String × Json) :=
  names.flatMap fun name => optionalMember name (lookup name ms)

theorem membersAt_nil (ms : List (String × Json)) : membersAt [] ms = [] := rfl

theorem membersAt_cons (name : String) (names : List String) (ms : List (String × Json)) :
    membersAt (name :: names) ms = optionalMember name (lookup name ms) ++ membersAt names ms := rfl

theorem membersAt_singleton {name : String} {value : Option Json} {ms : List (String × Json)}
    (h : lookup name ms = value) : membersAt [name] ms = optionalMember name value := by
  rw [membersAt_cons, membersAt_nil, List.append_nil, h]

theorem membersAt_append (names more : List String) (ms : List (String × Json)) :
    membersAt (names ++ more) ms = membersAt names ms ++ membersAt more ms :=
  List.flatMap_append

theorem lookup_membersAt (name : String) (names : List String) (ms : List (String × Json)) :
    lookup name (membersAt names ms) = if name ∈ names then lookup name ms else none := by
  induction names with
  | nil => rfl
  | cons other rest ih =>
      rw [membersAt_cons, lookup_append, lookup_optionalMember, ih]
      by_cases hname : other = name
      · subst hname
        cases lookup other ms with
        | none => simp
        | some v => simp
      · simp [hname, Ne.symm hname]

theorem ascending_membersAt {names : List String}
    (hnames : names.Pairwise fun a b => compare a b = .lt) (ms : List (String × Json)) :
    Ascending (membersAt names ms) := by
  apply List.pairwise_flatMap.mpr
  constructor
  · intro name _
    cases lookup name ms with
    | none => exact List.Pairwise.nil
    | some v => exact List.pairwise_singleton _ _
  · refine hnames.imp ?_
    intro a b hab m hm n hn
    rw [name_of_mem_optionalMember hm, name_of_mem_optionalMember hn]
    exact hab

/-- Ascending members under some ascending names only are the members at these names. -/
theorem eq_membersAt {ms : List (String × Json)} {names : List String} (hms : Ascending ms)
    (hnames : names.Pairwise fun a b => compare a b = .lt)
    (hothers : ∀ name, name ∉ names → lookup name ms = none) : ms = membersAt names ms := by
  apply eq_of_lookup_eq hms (ascending_membersAt hnames ms)
  intro name
  rw [lookup_membersAt]
  by_cases hname : name ∈ names
  · rw [if_pos hname]
  · rw [if_neg hname, hothers name hname]

end RecordQuery.Json
