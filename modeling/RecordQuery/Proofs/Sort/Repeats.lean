import RecordQuery.Proofs.Except
import RecordQuery.Sort.Comparator

/-!
# RecordQuery.Proofs.Sort.Repeats — a repeated sort field never decides

The first field of a name either decides a comparison, or finds two results equal.  In the second
case every later field of that name finds the same two results, whatever its direction, and they
are equal again.  So the later fields may go: `SortOrder.keys_firstOfEachName` says that the order
of records stays, and that a malformed path is met at the same place.
-/

namespace RecordQuery

/-! ## Directions -/

/-- In either direction equal is equal and nothing else is. -/
theorem SortField.apply_eq_eq_iff (field : SortField) (ordering : Ordering) :
    field.apply ordering = .eq ↔ ordering = .eq := by
  rw [apply]
  split
  · rfl
  · exact Ordering.swap_eq_eq

namespace SortOrder

/-! ## Keys and their paths -/

theorem keys_cons_eq_ok_iff {field : SortField} {rest : SortOrder} {ks : List ComparatorKey} :
    keys (field :: rest) = .ok ks ↔
      ∃ path later, FieldPath.parse field.name = .ok path ∧ keys rest = .ok later
        ∧ ks = ⟨field, path⟩ :: later := by
  rw [keys]
  constructor
  · intro h
    obtain ⟨path, hpath, h⟩ := Except.bind_eq_ok_iff.mp h
    obtain ⟨later, hlater, h⟩ := Except.bind_eq_ok_iff.mp h
    cases h
    exact ⟨path, later, Except.mapError_eq_ok_iff.mp hpath, hlater, rfl⟩
  · rintro ⟨path, later, hpath, hlater, rfl⟩
    rw [hpath, hlater]
    rfl

/-- Every key holds the path that its field's name spells. -/
theorem path_of_mem_keys {order : SortOrder} {ks : List ComparatorKey} (h : keys order = .ok ks) :
    ∀ key ∈ ks, FieldPath.parse key.field.name = .ok key.path := by
  induction order generalizing ks with
  | nil =>
      cases h
      intro key hkey
      cases hkey
  | cons field rest ih =>
      obtain ⟨path, later, hpath, hlater, rfl⟩ := keys_cons_eq_ok_iff.mp h
      intro key hkey
      rcases List.mem_cons.mp hkey with rfl | hkey
      · exact hpath
      · exact ih hlater key hkey

/-- Every key belongs to a field of the order. -/
theorem field_mem_of_mem_keys {order : SortOrder} {ks : List ComparatorKey}
    (h : keys order = .ok ks) : ∀ key ∈ ks, key.field ∈ order := by
  induction order generalizing ks with
  | nil =>
      cases h
      intro key hkey
      cases hkey
  | cons field rest ih =>
      obtain ⟨path, later, -, hlater, rfl⟩ := keys_cons_eq_ok_iff.mp h
      intro key hkey
      rcases List.mem_cons.mp hkey with rfl | hkey
      · exact List.mem_cons_self
      · exact List.mem_cons_of_mem _ (ih hlater key hkey)

/-- Fields of a name that spells a path are no fault, so leaving them out leaves out their keys and
changes nothing else. -/
theorem keys_filter_ne {name : String} {path : FieldPath} (hp : FieldPath.parse name = .ok path)
    (order : SortOrder) :
    keys (order.filter fun field => field.name != name)
      = (keys order).map (List.filter fun key => key.field.name != name) := by
  induction order with
  | nil => rfl
  | cons field rest ih =>
      by_cases hname : field.name = name
      · rw [List.filter_cons_of_neg (by simp [hname]), ih, keys, hname, hp]
        cases keys rest with
        | error e => rfl
        | ok later =>
            show Except.ok _ = Except.ok _
            rw [List.filter_cons_of_neg (by simp [hname])]
      · rw [List.filter_cons_of_pos (by simp [hname]), keys, keys, ih]
        cases FieldPath.parse field.name with
        | error e => rfl
        | ok first =>
            cases keys rest with
            | error e => rfl
            | ok later =>
                show Except.ok _ = Except.ok _
                rw [List.filter_cons_of_pos (by simp [hname])]

end SortOrder

/-! ## Comparison without repeats -/

namespace Comparator

/-- Where the results at one path are equal, the keys of that path do not decide. -/
theorem compareBy_filter_ne {caseSensitive : Bool} {name : String} {path : FieldPath} {a b : Json}
    (heq : (path.evaluate a).compare caseSensitive (path.evaluate b) = .eq)
    (ks : List ComparatorKey) (hks : ∀ key ∈ ks, key.field.name = name → key.path = path) :
    compareBy caseSensitive (ks.filter fun key => key.field.name != name) a b
      = compareBy caseSensitive ks a b := by
  induction ks with
  | nil => rfl
  | cons key ks ih =>
      have hrest := ih fun k hk => hks k (List.mem_cons_of_mem key hk)
      by_cases hname : key.field.name = name
      · have hkey : key.compare caseSensitive a b = .eq := by
          rw [ComparatorKey.compare, SortField.apply_eq_eq_iff, hks key List.mem_cons_self hname]
          exact heq
        rw [List.filter_cons_of_neg (by simp [hname]), compareBy, hkey, hrest]
        rfl
      · rw [List.filter_cons_of_pos (by simp [hname]), compareBy, compareBy, hrest]

/-- After a key, the later keys of its name do not matter. -/
theorem compareBy_cons_filter_ne {caseSensitive : Bool} (key : ComparatorKey)
    {ks : List ComparatorKey} (hks : ∀ k ∈ ks, k.field.name = key.field.name → k.path = key.path) :
    compareBy caseSensitive (key :: ks.filter fun k => k.field.name != key.field.name)
      = compareBy caseSensitive (key :: ks) := by
  funext a b
  rw [compareBy, compareBy]
  -- either the first key decides, or its results are equal
  cases hkey : key.compare caseSensitive a b with
  | lt => rfl
  | gt => rfl
  | eq =>
      rw [ComparatorKey.compare, SortField.apply_eq_eq_iff] at hkey
      rw [compareBy_filter_ne hkey ks hks]

end Comparator

namespace SortOrder

/-- **Later fields of a name may go.** With the first field of each name only, compiling gives the
same comparison of any two records, or the same error. -/
theorem keys_firstOfEachName (caseSensitive : Bool) (order : SortOrder) :
    (keys (firstOfEachName order)).map (Comparator.compareBy caseSensitive)
      = (keys order).map (Comparator.compareBy caseSensitive) := by
  induction order with
  | nil => rfl
  | cons field rest ih =>
      rw [firstOfEachName, keys, keys]
      cases hp : FieldPath.parse field.name with
      | error e => rfl
      | ok path =>
          rw [keys_filter_ne hp]
          -- by induction the remaining fields fail alike, or their keys compare alike
          rcases Except.map_eq_map_iff.mp ih with
            ⟨e, hfirst, hlater⟩ | ⟨first, later, hfirst, hlater, heq⟩
          · rw [hfirst, hlater]
            rfl
          · have hpaths : ∀ key ∈ first, key.field.name = field.name → key.path = path := by
              intro key hkey hname
              have hself := path_of_mem_keys hfirst key hkey
              rw [hname, hp] at hself
              exact (Except.ok.inj hself).symm
            rw [hfirst, hlater]
            show Except.ok (Comparator.compareBy caseSensitive
              (⟨field, path⟩ :: first.filter fun key => key.field.name != field.name)) = _
            rw [Comparator.compareBy_cons_filter_ne ⟨field, path⟩ hpaths]
            show Except.ok _ = Except.ok _
            congr 1
            funext a b
            rw [Comparator.compareBy, Comparator.compareBy, heq]

end SortOrder

end RecordQuery
