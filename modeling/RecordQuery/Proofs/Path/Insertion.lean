import RecordQuery.Json.Members
import RecordQuery.Path.Insertion
import RecordQuery.Proofs.Json.Members
import RecordQuery.Proofs.Path.Composition
import RecordQuery.Proofs.Path.Hereditary

/-!
# RecordQuery.Proofs.Path.Insertion — what chains of names find after a value was set

Setting a value under a chain of member names is seen through the chains that look for it.  A chain
that goes on from the place finds in the value what is left of it; a chain that parts from the place
finds what it found before, provided that no value on the way had to give place to an object.

Two values set one after the other may be set in either order when their places part, or when the
inner one is what the outer one holds at that place already.  These laws are inductions over the
chain of names, one name at a time, from the laws of a single member.
-/

namespace RecordQuery

/-! ## Single members -/

namespace Json

/-- Of two values set under one name the later one stays. -/
theorem insert_insert (name : String) (v w : Json) (ms : List (String × Json)) :
    insert name v (insert name w ms) = insert name v ms := by
  induction ms with
  | nil => simp [insert]
  | cons m rest ih =>
      obtain ⟨k, u⟩ := m
      rw [insert.eq_def name w]
      cases hcmp : compare name k with
      | lt => simp [insert, hcmp]
      | eq => simp [insert, hcmp]
      | gt => simp [insert, hcmp, ih]

/-- Two values may be set in either order; here the first name comes before the other one. -/
theorem insert_comm_of_lt {name other : String} (h : compare name other = .lt) (v w : Json)
    (ms : List (String × Json)) :
    insert name v (insert other w ms) = insert other w (insert name v ms) := by
  have hgt : compare other name = .gt := Std.OrientedCmp.gt_iff_lt.mpr h
  induction ms with
  | nil => simp [insert, h, hgt]
  | cons m rest ih =>
      obtain ⟨k, u⟩ := m
      cases hother : compare other k with
      | lt =>
          have hname : compare name k = .lt := Std.TransCmp.lt_trans h hother
          simp [insert, h, hgt, hother, hname]
      | eq =>
          have hk : other = k := Std.LawfulEqCmp.compare_eq_iff_eq.mp hother
          subst hk
          simp [insert, h, hgt]
      | gt => cases hname : compare name k <;> simp [insert, hgt, hother, hname, ih]

/-- Values under different names may be set in either order. -/
theorem insert_comm {name other : String} (h : name ≠ other) (v w : Json)
    (ms : List (String × Json)) :
    insert name v (insert other w ms) = insert other w (insert name v ms) := by
  cases hcmp : compare name other with
  | lt => exact insert_comm_of_lt hcmp v w ms
  | eq => exact absurd (Std.LawfulEqCmp.compare_eq_iff_eq.mp hcmp) h
  | gt => exact (insert_comm_of_lt (Std.OrientedCmp.gt_iff_lt.mp hcmp) w v ms).symm

/-- Setting a member to the value that it has changes nothing. -/
theorem insert_of_lookup_eq_some {name : String} {v : Json} {ms : List (String × Json)}
    (hms : Ascending ms) (h : lookup name ms = some v) : insert name v ms = ms := by
  apply eq_of_lookup_eq (ascending_insert name v hms) hms
  intro k
  by_cases hname : k = name
  · rw [hname, lookup_insert_self, h]
  · exact lookup_insert_of_ne v ms hname

theorem canonicalMembers_iff {ms : List (String × Json)} :
    CanonicalMembers ms ↔ ∀ m ∈ ms, m.2.Canonical := by
  induction ms with
  | nil => simp [CanonicalMembers]
  | cons m rest ih => rw [CanonicalMembers, ih, List.forall_mem_cons]

theorem canonical_of_lookup {name : String} {v : Json} {ms : List (String × Json)}
    (hms : CanonicalMembers ms) (h : lookup name ms = some v) : v.Canonical :=
  canonicalMembers_iff.mp hms _ (mem_of_lookup_eq_some h)

theorem canonicalItems_iff {items : List Json} :
    CanonicalItems items ↔ ∀ v ∈ items, v.Canonical := by
  induction items with
  | nil => simp [CanonicalItems]
  | cons first rest ih => rw [CanonicalItems, ih, List.forall_mem_cons]

/-- The order of members is a property that values share with what is inside them. -/
theorem hereditary_canonical : Hereditary Canonical where
  null := trivial
  array_iff _ := canonicalItems_iff
  member h hlookup := canonical_of_lookup h.2 hlookup

end Json

/-! ## Chains of names -/

namespace FieldPath

/-- What a chain of member names finds in a value. -/
def chain (names : List String) : Json → Resolved :=
  resolve (names.map .member)

@[simp]
theorem chain_nil (v : Json) : chain [] v = .value v := rfl

theorem chain_cons_object (name : String) (rest : List String) (ms : List (String × Json)) :
    chain (name :: rest) (.object ms) = (Json.lookup name ms).elim .missing (chain rest) := by
  show intoMember name (chain rest) (.object ms) = _
  rw [intoMember]
  cases Json.lookup name ms with
  | none => rfl
  | some v => rfl

/-- A chain that finds a single value went through objects only. -/
theorem eq_object_of_chain_cons {name : String} {rest : List String} {v w : Json}
    (h : chain (name :: rest) v = .value w) :
    ∃ ms u, v = .object ms ∧ Json.lookup name ms = some u ∧ chain rest u = .value w := by
  cases v with
  | object ms =>
      rw [chain_cons_object] at h
      cases hlookup : Json.lookup name ms with
      | none =>
          rw [hlookup] at h
          cases h
      | some u =>
          rw [hlookup] at h
          exact ⟨ms, u, rfl, hlookup, h⟩
  | array items => cases h
  | null => cases h
  | bool b => cases h
  | number n => cases h
  | string s => cases h

theorem chain_append (names more : List String) (v : Json) :
    chain (names ++ more) v = (chain names v).andThen (chain more) := by
  unfold chain
  rw [List.map_append, resolve_append]

/-- The paths of member names are the chains. -/
theorem memberNames?_eq_some_iff {path : FieldPath} {names : List String} :
    path.memberNames? = some names ↔ path.segments = names.map .member := by
  unfold memberNames?
  generalize path.segments = segments
  induction segments generalizing names with
  | nil => cases names <;> simp
  | cons segment rest ih =>
      cases segment with
      | index i => cases names <;> simp [Segment.name?]
      | wildcard => cases names <;> simp [Segment.name?]
      | member name =>
          have hstep : (Segment.member name :: rest).mapM Segment.name?
              = (rest.mapM Segment.name?).bind fun names => some (name :: names) := by
            rw [List.mapM_cons]
            rfl
          rw [hstep, Option.bind_eq_some_iff]
          cases names with
          | nil => simp
          | cons first names => simp [ih, and_comm]

/-- Two chains part: neither goes on from the other. -/
def Apart (names other : List String) : Prop :=
  ¬ names <+: other ∧ ¬ other <+: names

theorem Apart.symm {names other : List String} (h : Apart names other) : Apart other names :=
  ⟨h.2, h.1⟩

theorem apart_cons_cons {a b : String} {names other : List String} :
    Apart (a :: names) (b :: other) ↔ a ≠ b ∨ Apart names other := by
  unfold Apart
  rw [List.cons_prefix_cons, List.cons_prefix_cons]
  by_cases hab : a = b
  · simp [hab]
  · simp [hab, Ne.symm hab]

/-- Two chains part, or one goes on from the other. -/
theorem apart_or_append (names other : List String) :
    Apart names other ∨ (∃ more, other = names ++ more) ∨ ∃ more, names = other ++ more := by
  by_cases h : names <+: other
  · obtain ⟨more, rfl⟩ := h
    exact Or.inr (Or.inl ⟨more, rfl⟩)
  · by_cases h' : other <+: names
    · obtain ⟨more, rfl⟩ := h'
      exact Or.inr (Or.inr ⟨more, rfl⟩)
    · exact Or.inl ⟨h, h'⟩

end FieldPath

/-! ## Values set under chains -/

namespace Json

/-- What stands in the place of a value once another one is set in it under a chain of names; under
the empty chain it is the other one. -/
def setAt (value : Json) : List String → Option Json → Json
  | [], _ => value
  | name :: rest, old =>
    object (insert name (setAt value rest (lookup name (membersIn old))) (membersIn old))

/-- Setting a value among the members of an object is setting it in the object. -/
theorem object_insertAt (value : Json) {names : List String} (h : names ≠ [])
    (ms : List (String × Json)) :
    object (insertAt value names ms) = setAt value names (some (object ms)) := by
  induction names generalizing ms with
  | nil => exact absurd rfl h
  | cons name rest ih =>
      cases rest with
      | nil => rfl
      | cons next rest =>
          have hinner := ih (List.cons_ne_nil _ _) (membersIn (lookup name ms))
          show object (insert name (object (insertAt value (next :: rest) _)) ms) = _
          rw [hinner]
          -- the members of an absent value and of the empty object are the same
          rfl

/-- A chain can be entered: what stands on the way to its last name, if anything, are objects. -/
def Open : List String → Option Json → Prop
  | [], _ => True
  | name :: rest, old => (∀ v ∈ old, ∃ ms, v = object ms) ∧ Open rest (lookup name (membersIn old))

theorem open_none (names : List String) : Open names none := by
  induction names with
  | nil => trivial
  | cons name rest ih => exact ⟨nofun, ih⟩

/-- Nothing stands in the way in an empty object. -/
theorem open_empty (names : List String) : Open names (some (object [])) := by
  cases names with
  | nil => trivial
  | cons name rest =>
      refine ⟨?_, open_none rest⟩
      intro v hv
      cases hv
      exact ⟨[], rfl⟩

section

open FieldPath

/-- A chain that goes on from the place looks into the value that was set. -/
theorem chain_append_setAt (value : Json) (names more : List String) (old : Option Json) :
    chain (names ++ more) (setAt value names old) = chain more value := by
  induction names generalizing old with
  | nil => rfl
  | cons name rest ih =>
      rw [setAt, List.cons_append, chain_cons_object, lookup_insert_self]
      exact ih _

theorem chain_setAt (value : Json) (names : List String) (old : Option Json) :
    chain names (setAt value names old) = .value value := by
  have h := chain_append_setAt value names [] old
  rwa [List.append_nil] at h

/-- A chain that parts from the place finds what it found before. -/
theorem chain_setAt_of_apart (value : Json) {names other : List String} {old : Option Json}
    (h : Apart names other) (hopen : Open names old) :
    chain other (setAt value names old) = old.elim .missing (chain other) := by
  induction names generalizing other old with
  | nil => exact absurd List.nil_prefix h.1
  | cons name rest ih =>
      cases other with
      | nil => exact absurd List.nil_prefix h.2
      | cons first later =>
          obtain ⟨hobject, hrest⟩ := hopen
          -- what was there is an object with these members, or nothing
          have hold : old.elim .missing (chain (first :: later))
              = (lookup first (membersIn old)).elim .missing (chain later) := by
            cases old with
            | none => rfl
            | some v =>
                obtain ⟨ms, rfl⟩ := hobject v rfl
                exact chain_cons_object first later ms
          rw [setAt, chain_cons_object, hold]
          by_cases hname : first = name
          · subst hname
            have hlater : Apart rest later := (apart_cons_cons.mp h).resolve_left fun hne => hne rfl
            rw [lookup_insert_self]
            exact ih hlater hrest
          · rw [lookup_insert_of_ne _ _ hname]

/-- Setting a value leaves a chain open that does not go on from the place. -/
theorem open_setAt (value : Json) {names other : List String} {old : Option Json}
    (h : names <+: other → names = other) (hopen : Open other old) :
    Open other (some (setAt value names old)) := by
  induction other generalizing names old with
  | nil => trivial
  | cons first later ih =>
      cases names with
      | nil => exact absurd (h List.nil_prefix) (List.cons_ne_nil _ _).symm
      | cons name rest =>
          rw [setAt]
          refine ⟨?_, ?_⟩
          · intro v hv
            cases hv
            exact ⟨_, rfl⟩
          · show Open later (lookup first (insert name _ (membersIn old)))
            by_cases hname : first = name
            · subst hname
              rw [lookup_insert_self]
              refine ih ?_ hopen.2
              intro hprefix
              have heq := h (List.cons_prefix_cons.mpr ⟨rfl, hprefix⟩)
              exact (List.cons.inj heq).2
            · rw [lookup_insert_of_ne _ _ hname]
              exact hopen.2

/-! ## Two values -/

/-- A value erases what was set at its place or further inside. -/
theorem setAt_setAt_append (value inner : Json) (names more : List String) (old : Option Json) :
    setAt value names (some (setAt inner (names ++ more) old)) = setAt value names old := by
  induction names generalizing old with
  | nil => rfl
  | cons name rest ih =>
      have hmembers : ∀ ms, membersIn (some (object ms)) = ms := fun _ => rfl
      rw [List.cons_append, setAt, setAt, hmembers, lookup_insert_self, ih, insert_insert]
      rfl

/-- A value that is set further inside is set in the value that stands there. -/
theorem setAt_append_setAt (value inner : Json) (names more : List String) (old : Option Json) :
    setAt inner (names ++ more) (some (setAt value names old))
      = setAt (setAt inner more (some value)) names old := by
  induction names generalizing old with
  | nil => rfl
  | cons name rest ih =>
      have hmembers : ∀ ms, membersIn (some (object ms)) = ms := fun _ => rfl
      rw [List.cons_append, setAt, setAt, hmembers, lookup_insert_self, ih, insert_insert]
      rfl

/-- Setting what a chain finds anyway changes nothing. -/
theorem setAt_of_chain_eq_value {v w : Json} {names : List String} (hv : v.Canonical)
    (h : chain names v = .value w) : setAt w names (some v) = v := by
  induction names generalizing v with
  | nil =>
      cases h
      rfl
  | cons name rest ih =>
      obtain ⟨ms, u, rfl, hlookup, hrest⟩ := eq_object_of_chain_cons h
      obtain ⟨hascending, hmembers⟩ := hv
      have hu : setAt w rest (some u) = u := ih (canonical_of_lookup hmembers hlookup) hrest
      show object (insert name (setAt w rest (lookup name ms)) ms) = object ms
      rw [hlookup, hu, insert_of_lookup_eq_some hascending hlookup]

/-- Values whose places part may be set in either order. -/
theorem setAt_comm_of_apart (value other : Json) {names more : List String} {old : Option Json}
    (h : Apart names more) :
    setAt value names (some (setAt other more old))
      = setAt other more (some (setAt value names old)) := by
  induction names generalizing more old with
  | nil => exact absurd List.nil_prefix h.1
  | cons name rest ih =>
      cases more with
      | nil => exact absurd List.nil_prefix h.2
      | cons first later =>
          have hunder : ∀ ms, membersIn (some (object ms)) = ms := fun _ => rfl
          rw [setAt, setAt, setAt, setAt, hunder, hunder]
          by_cases hname : name = first
          · subst hname
            have hlater : Apart rest later := (apart_cons_cons.mp h).resolve_left fun hne => hne rfl
            rw [lookup_insert_self, lookup_insert_self, insert_insert, insert_insert,
              ih hlater]
          · rw [lookup_insert_of_ne _ _ hname, lookup_insert_of_ne _ _ (Ne.symm hname),
              insert_comm hname]

/-- **Either order.** Values may be set in either order when the outer one holds the inner one at
its place already. -/
theorem setAt_comm_of_chain {value inner : Json} {names more : List String}
    (hvalue : value.Canonical) (h : chain more value = .value inner) (old : Option Json) :
    setAt value names (some (setAt inner (names ++ more) old))
      = setAt inner (names ++ more) (some (setAt value names old)) := by
  rw [setAt_setAt_append, setAt_append_setAt, setAt_of_chain_eq_value hvalue h]

end

end Json

end RecordQuery
