import RecordQuery.Json.Basic

/-!
# RecordQuery.Json.Members — members seen through look-up

Look-up is the view of an object.  Setting a member changes what is found under its name and nothing
else, and keeps names ascending; ascending members are determined by what is found under each name.
-/

namespace RecordQuery.Json

/-! ## Look-up after setting a member -/

theorem lookup_insert_self (name : String) (value : Json) (ms : List (String × Json)) :
    lookup name (insert name value ms) = some value := by
  induction ms with
  | nil => simp [insert, lookup]
  | cons m rest ih =>
    obtain ⟨k, v⟩ := m
    rw [insert]
    split
    · simp [lookup]
    · simp [lookup]
    · next h =>
      have hne : k ≠ name := by
        rintro rfl
        simp at h
      simp [lookup, hne, ih]

theorem lookup_insert_of_ne {name other : String} (value : Json) (ms : List (String × Json))
    (h : other ≠ name) : lookup other (insert name value ms) = lookup other ms := by
  induction ms with
  | nil => simp [insert, lookup, h.symm]
  | cons m rest ih =>
    obtain ⟨k, v⟩ := m
    rw [insert]
    split
    · simp [lookup, h.symm]
    · next hk =>
      have hk : name = k := Std.LawfulEqCmp.compare_eq_iff_eq.1 hk
      subst hk
      simp [lookup, h.symm]
    · simp [lookup, ih]

/-! ## Order of names -/

/-- Setting a member adds no name but its own. -/
theorem mem_insert {name : String} {value : Json} {ms : List (String × Json)} {m : String × Json}
    (h : m ∈ insert name value ms) : m = (name, value) ∨ m ∈ ms := by
  induction ms with
  | nil => simpa [insert] using h
  | cons first rest ih =>
    obtain ⟨k, v⟩ := first
    rw [insert] at h
    split at h
    · simpa using h
    · rcases List.mem_cons.1 h with h | h
      · exact Or.inl h
      · exact Or.inr (List.mem_cons_of_mem _ h)
    · rcases List.mem_cons.1 h with h | h
      · exact Or.inr (by rw [h]; exact List.mem_cons_self)
      · rcases ih h with h | h
        · exact Or.inl h
        · exact Or.inr (List.mem_cons_of_mem _ h)

theorem ascending_insert {ms : List (String × Json)} (name : String) (value : Json)
    (h : Ascending ms) : Ascending (insert name value ms) := by
  induction ms with
  | nil => exact List.pairwise_singleton _ _
  | cons m rest ih =>
    obtain ⟨k, v⟩ := m
    obtain ⟨hk, hrest⟩ := List.pairwise_cons.1 h
    rw [insert]
    split
    · next hlt =>
      refine List.pairwise_cons.2 ⟨fun m hm => ?_, h⟩
      rcases List.mem_cons.1 hm with rfl | hm
      · exact hlt
      · exact Std.TransCmp.lt_trans hlt (hk m hm)
    · next heq =>
      have heq : name = k := Std.LawfulEqCmp.compare_eq_iff_eq.1 heq
      subst heq
      exact List.pairwise_cons.2 ⟨hk, hrest⟩
    · next hgt =>
      refine List.pairwise_cons.2 ⟨fun m hm => ?_, ih hrest⟩
      rcases mem_insert hm with rfl | hm
      · exact Std.OrientedCmp.gt_iff_lt.1 hgt
      · exact hk m hm

/-! ## Extensionality -/

/-- Nothing is found under a name before all names. -/
theorem lookup_eq_none {name : String} {ms : List (String × Json)}
    (h : ∀ m ∈ ms, compare name m.1 = .lt) : lookup name ms = none := by
  induction ms with
  | nil => rfl
  | cons m rest ih =>
    obtain ⟨k, v⟩ := m
    have hk : k ≠ name := by
      rintro rfl
      have := h (k, v) List.mem_cons_self
      simp at this
    rw [lookup, if_neg hk]
    exact ih fun m hm => h m (List.mem_cons_of_mem _ hm)

/-- The first name of a list that another one holds, too, is not before all names of that one. -/
theorem compare_ne_lt_of_lookup_eq {k l : String} {v w : Json} {ms ns : List (String × Json)}
    (hn : Ascending ((l, w) :: ns)) (h : lookup k ((k, v) :: ms) = lookup k ((l, w) :: ns)) :
    compare k l ≠ .lt := by
  intro hlt
  have before : ∀ n ∈ (l, w) :: ns, compare k n.1 = .lt := by
    intro n hmem
    rcases List.mem_cons.1 hmem with rfl | hmem
    · exact hlt
    · exact Std.TransCmp.lt_trans hlt ((List.pairwise_cons.1 hn).1 n hmem)
  rw [lookup_eq_none before] at h
  simp [lookup] at h

/-- Ascending members in which every name finds the same are equal. -/
theorem eq_of_lookup_eq {ms ns : List (String × Json)} (hm : Ascending ms) (hn : Ascending ns)
    (h : ∀ name, lookup name ms = lookup name ns) : ms = ns := by
  induction ms generalizing ns with
  | nil =>
    cases ns with
    | nil => rfl
    | cons n ns =>
      have := h n.1
      simp [lookup] at this
  | cons m ms ih =>
    obtain ⟨k, v⟩ := m
    cases ns with
    | nil =>
      have := h k
      simp [lookup] at this
    | cons n ns =>
      obtain ⟨l, w⟩ := n
      obtain ⟨hk, hms⟩ := List.pairwise_cons.1 hm
      obtain ⟨hl, hns⟩ := List.pairwise_cons.1 hn
      have hkl : compare k l = .eq := by
        cases hc : compare k l with
        | eq => rfl
        | lt => exact absurd hc (compare_ne_lt_of_lookup_eq hn (h k))
        | gt =>
          have hlt : compare l k = .lt := Std.OrientedCmp.gt_iff_lt.1 hc
          exact absurd hlt (compare_ne_lt_of_lookup_eq hm (h l).symm)
      have hkl : k = l := Std.LawfulEqCmp.compare_eq_iff_eq.1 hkl
      subst hkl
      have hvw : v = w := by
        have := h k
        simpa [lookup] using this
      subst hvw
      have hrest : ms = ns := by
        refine ih hms hns fun name => ?_
        by_cases hname : k = name
        · subst hname
          rw [lookup_eq_none hk, lookup_eq_none hl]
        · have := h name
          simpa [lookup, hname] using this
      rw [hrest]

end RecordQuery.Json
