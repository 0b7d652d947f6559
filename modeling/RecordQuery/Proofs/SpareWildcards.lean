import Mathlib.Data.List.Forall2
import RecordQuery.Proofs.Path.Composition
import RecordQuery.Proofs.Sort.Repeats
import RecordQuery.Proofs.ValueView

/-!
# RecordQuery.Proofs.SpareWildcards — wildcards that nothing sees

A wildcard that no index follows is spare.  Without it a path still crosses the same arrays: a
member step crosses them by itself, a later wildcard does, and at the end of a path an array is as
good as the list of its items.  Only an index tells an array from its items.  What is found with and
without the wildcard may differ as a result, a list here and an array there, but not as a value, and
that is all that filters and comparators see.
-/

namespace RecordQuery

/-! ## Going on alike -/

namespace Resolved

variable {next next' : Json → Resolved}

mutual

/-- Two ways to go on that find the same values do so from every result. -/
theorem toValue_andThen_congr (h : ∀ v, (next v).toValue = (next' v).toValue) :
    ∀ r : Resolved, (r.andThen next).toValue = (r.andThen next').toValue
  | missing => rfl
  | value v => h v
  | many items => by rw [andThen, andThen, toValue, toValue, toValues_andThenAll_congr h items]

theorem toValues_andThenAll_congr (h : ∀ v, (next v).toValue = (next' v).toValue) :
    ∀ rs : List Resolved, toValues (andThenAll next rs) = toValues (andThenAll next' rs)
  | [] => rfl
  | r :: rs => by
      rw [andThenAll, andThenAll, toValues, toValues, toValue_andThen_congr h r,
        toValues_andThenAll_congr h rs]

end

theorem toValues_eq_map (rs : List Resolved) : toValues rs = rs.map toValue := by
  induction rs with
  | nil => rfl
  | cons r rs ih => rw [toValues, ih, List.map_cons]

/-- Lists that are found item by item have the values of the items. -/
theorem toValue_many_map (next : Json → Resolved) (items : List Json) :
    (many (items.map next)).toValue = .array (items.map fun v => (next v).toValue) := by
  rw [toValue, toValues_eq_map, List.map_map]
  rfl

end Resolved

namespace FieldPath

theorem intoMembers_eq_map (name : String) (next : Json → Resolved) (items : List Json) :
    intoMembers name next items = items.map (intoMember name next) := by
  induction items with
  | nil => rfl
  | cons v rest ih => rw [intoMembers, ih, List.map_cons]

/-- Chains that find the same values do so after any first step. -/
theorem toValue_resolve_cons_congr {p q : List Segment}
    (h : ∀ v, (resolve p v).toValue = (resolve q v).toValue) (segment : Segment) (v : Json) :
    (resolve (segment :: p) v).toValue = (resolve (segment :: q) v).toValue := by
  show (resolve ([segment] ++ p) v).toValue = (resolve ([segment] ++ q) v).toValue
  rw [resolve_append, resolve_append]
  exact Resolved.toValue_andThen_congr h _

/-! ## Spare wildcards -/

/-- A wildcard in front of a chain without indices changes no value. -/
theorem toValue_resolve_wildcard {p : List Segment} (h : ∀ i, Segment.index i ∉ p) (v : Json) :
    (resolve (.wildcard :: p) v).toValue = (resolve p v).toValue := by
  induction p generalizing v with
  | nil =>
      cases v with
      | array items =>
          -- at the end of a path an array is the list of its items
          show (Resolved.many (items.map .value)).toValue = .array items
          rw [Resolved.toValue_many_map]
          exact congrArg Json.array (List.map_id items)
      | _ => rfl
  | cons segment rest ih =>
      cases v with
      | array items =>
          cases segment with
          | member name =>
              show (Resolved.many (items.map (intoMember name (resolve rest)))).toValue
                = (Resolved.many (intoMembers name (resolve rest) items)).toValue
              rw [intoMembers_eq_map]
          | index i => exact absurd List.mem_cons_self (h i)
          | wildcard =>
              -- the later wildcard crosses the array, and the first one is spare in every item
              have hrest : ∀ i, Segment.index i ∉ rest :=
                fun i hi => h i (List.mem_cons_of_mem _ hi)
              show (Resolved.many (items.map (resolve (.wildcard :: rest)))).toValue
                = (Resolved.many (items.map (resolve rest))).toValue
              rw [Resolved.toValue_many_map, Resolved.toValue_many_map]
              exact congrArg Json.array (List.map_congr_left fun u _ => ih hrest u)
      | _ => rfl

/-- Two chains that are the same but for spare wildcards: wildcards that no index follows. -/
inductive SameButSpare : List Segment → List Segment → Prop
  | nil : SameButSpare [] []
  | cons (segment : Segment) {p q : List Segment} :
      SameButSpare p q → SameButSpare (segment :: p) (segment :: q)
  | left {p q : List Segment} :
      (∀ i, Segment.index i ∉ p) → SameButSpare p q → SameButSpare (.wildcard :: p) q
  | right {p q : List Segment} :
      (∀ i, Segment.index i ∉ q) → SameButSpare p q → SameButSpare p (.wildcard :: q)

/-- **Spare wildcards change no value.** -/
theorem SameButSpare.toValue_resolve {p q : List Segment} (h : SameButSpare p q) (v : Json) :
    (resolve p v).toValue = (resolve q v).toValue := by
  induction h generalizing v with
  | nil => rfl
  | cons segment _ ih => exact toValue_resolve_cons_congr ih segment v
  | left hindex _ ih => rw [toValue_resolve_wildcard hindex, ih]
  | right hindex _ ih => rw [toValue_resolve_wildcard hindex, ih]

/-- With an index after it a wildcard is not spare: the index goes to the items instead. -/
example :
    (resolve [.wildcard, .index 0] (.array [.string "a"])).toValue = .array [.null]
      ∧ (resolve [.index 0] (.array [.string "a"])).toValue = .string "a" := by
  decide

/-- A wildcard at the end is spare. -/
theorem sameButSpare_append_wildcard (p : List Segment) : SameButSpare p (p ++ [.wildcard]) := by
  induction p with
  | nil => exact .right (fun _ => List.not_mem_nil) .nil
  | cons segment rest ih => exact .cons segment ih

/-- Two texts that are read as chains which are the same but for spare wildcards. -/
def SpellAlike (field field' : String) : Prop :=
  ∃ path path', parse field = .ok path ∧ parse field' = .ok path'
    ∧ SameButSpare path.segments path'.segments

/-- A wildcard written after a text is spare. -/
theorem spellAlike_joinText {field : String} {path : FieldPath} (h : parse field = .ok path) :
    SpellAlike field (joinText field "[*]") := by
  obtain ⟨-, hspells⟩ := parse_eq_ok_iff.mp h
  obtain ⟨pieces, hspells⟩ := segmentsOf_eq_ok_iff.mp hspells
  have hstar : segmentsOf "[*]".toList = .ok [.wildcard] := rfl
  obtain ⟨star, hstar⟩ := segmentsOf_eq_ok_iff.mp hstar
  refine ⟨path, ⟨joinText field "[*]", path.segments ++ [.wildcard]⟩, h, ?_,
    sameButSpare_append_wildcard path.segments⟩
  exact parse_eq_ok_iff.mpr ⟨rfl, segmentsOf_eq_ok_iff.mpr ⟨_, hspells.join hstar⟩⟩

end FieldPath

open FieldPath (SameButSpare SpellAlike)

/-! ## Filters and comparators -/

/-- A leaf compiles alike over texts that are read alike. -/
theorem Filter.compile_leaf_of_spellAlike {field field' : String} (h : SpellAlike field field')
    (mode : Text.CaseMode) (t : Test) :
    (leaf field t).compile mode = (leaf field' t).compile mode := by
  obtain ⟨path, path', hpath, hpath', hsame⟩ := h
  rw [compile, compile, compileLeaf, compileLeaf, hpath, hpath']
  cases htest : t.compile mode with
  | error e => rfl
  | ok test =>
      have hsees := Test.seesValue_of_compile htest
      have hvalue : ∀ r, (path.evaluate r).toValue = (path'.evaluate r).toValue :=
        hsame.toValue_resolve
      show Except.ok _ = Except.ok _
      congr 1
      funext record
      show test (path.evaluate record) = test (path'.evaluate record)
      rw [hsees (path.evaluate record), hsees (path'.evaluate record), hvalue]

/-- Two fields with one direction and names that are read alike. -/
def SortField.Alike (field field' : SortField) : Prop :=
  field.ascending = field'.ascending ∧ SpellAlike field.name field'.name

/-- Orders of fields that are alike compile, and compare all records alike. -/
theorem SortOrder.exists_keys_of_alike (caseSensitive : Bool) {order order' : SortOrder}
    (h : List.Forall₂ SortField.Alike order order') :
    ∃ ks ks', keys order = .ok ks ∧ keys order' = .ok ks'
      ∧ ∀ a b, Comparator.compareBy caseSensitive ks a b
        = Comparator.compareBy caseSensitive ks' a b := by
  induction h with
  | nil => exact ⟨[], [], rfl, rfl, fun _ _ => rfl⟩
  | @cons field field' rest rest' hfield _ ih =>
      obtain ⟨hdirection, path, path', hpath, hpath', hsame⟩ := hfield
      obtain ⟨later, later', hlater, hlater', hcompare⟩ := ih
      refine ⟨_, _, keys_cons_eq_ok_iff.mpr ⟨path, later, hpath, hlater, rfl⟩,
        keys_cons_eq_ok_iff.mpr ⟨path', later', hpath', hlater', rfl⟩, fun a b => ?_⟩
      have hvalue : ∀ r, (path.evaluate r).toValue = (path'.evaluate r).toValue :=
        hsame.toValue_resolve
      have hkey : ComparatorKey.compare caseSensitive ⟨field, path⟩ a b
          = ComparatorKey.compare caseSensitive ⟨field', path'⟩ a b := by
        unfold ComparatorKey.compare SortField.apply
        rw [hdirection, Resolved.compare_eq, hvalue a, hvalue b, ← Resolved.compare_eq]
      rw [Comparator.compareBy, Comparator.compareBy, hkey, hcompare]

theorem SortOrder.exists_compile_of_alike (options : MatchOptions) {order order' : SortOrder}
    (h : List.Forall₂ SortField.Alike order order') :
    ∃ c c', compile options order = .ok c ∧ compile options order' = .ok c'
      ∧ ∀ a b, c.compare a b = c'.compare a b := by
  obtain ⟨ks, ks', hks, hks', hcompare⟩ := exists_keys_of_alike options.caseSensitive h
  refine ⟨⟨ks, options.caseSensitive⟩, ⟨ks', options.caseSensitive⟩, ?_, ?_, hcompare⟩
  · rw [compile, hks]
    rfl
  · rw [compile, hks']
    rfl

/-- **Spare wildcards are not seen.** Two paths that are the same but for wildcards which no index
follows find the same value in every record.  Leaves of every kind compile alike over them, to one
predicate or to one error; and orders whose fields differ only in this compile to comparators that
order all records alike.  A wildcard at the end of a path is always spare, so a path that ends on an
array is as good as one that fans out over it. -/
theorem spareWildcards_unseen :
    (∀ path path' : FieldPath, SameButSpare path.segments path'.segments →
      ∀ record, (path.evaluate record).toValue = (path'.evaluate record).toValue)
    ∧ (∀ field field', SpellAlike field field' → ∀ (mode : Text.CaseMode) (t : Test),
      (Filter.leaf field t).compile mode = (Filter.leaf field' t).compile mode)
    ∧ (∀ (options : MatchOptions) (order order' : SortOrder),
      List.Forall₂ SortField.Alike order order' →
      ∃ c c', SortOrder.compile options order = .ok c ∧ SortOrder.compile options order' = .ok c'
        ∧ ∀ a b, c.compare a b = c'.compare a b)
    ∧ ∀ field path, FieldPath.parse field = .ok path →
      SpellAlike field (FieldPath.joinText field "[*]") := by
  refine ⟨?_, ?_, ?_, ?_⟩
  · intro path path' h record
    exact h.toValue_resolve record
  · intro field field' h mode t
    exact Filter.compile_leaf_of_spellAlike h mode t
  · intro options order order' h
    exact SortOrder.exists_compile_of_alike options h
  · intro field path h
    exact FieldPath.spellAlike_joinText h

/-- The names of a cast, in three spellings. -/
theorem spareWildcards_unseen_castNames :
    (∀ (mode : Text.CaseMode) (t : Test),
      (Filter.leaf "cast.name" t).compile mode = (Filter.leaf "cast[*].name" t).compile mode
      ∧ (Filter.leaf "cast[*].name" t).compile mode
        = (Filter.leaf "cast[*].name[*]" t).compile mode)
    ∧ ∃ c c', SortOrder.compile ⟨false⟩ [⟨"cast.name", false⟩] = .ok c
      ∧ SortOrder.compile ⟨false⟩ [⟨"cast[*].name[*]", false⟩] = .ok c'
      ∧ ∀ a b, c.compare a b = c'.compare a b := by
  obtain ⟨-, hleaf, horder, hjoin⟩ := spareWildcards_unseen
  have hname : ∀ i, Segment.index i ∉ [Segment.member "name"] := by simp
  have hwildcard : SameButSpare [.member "cast", .member "name"]
      [.member "cast", .wildcard, .member "name"] := .cons _ (.right hname (.cons _ .nil))
  have hinner : SpellAlike "cast.name" "cast[*].name" := ⟨_, _, rfl, rfl, hwildcard⟩
  have houter : SpellAlike "cast[*].name" "cast[*].name[*]" := hjoin "cast[*].name" _ rfl
  have hboth : SpellAlike "cast.name" "cast[*].name[*]" := by
    refine ⟨_, _, rfl, rfl, .cons _ (.right ?_ (.cons _ (.right ?_ .nil)))⟩
    · simp
    · simp
  refine ⟨fun mode t => ⟨hleaf _ _ hinner mode t, hleaf _ _ houter mode t⟩, ?_⟩
  exact horder ⟨false⟩ _ _ (.cons ⟨rfl, hboth⟩ .nil)

end RecordQuery
