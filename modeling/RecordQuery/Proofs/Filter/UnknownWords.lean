import RecordQuery.Proofs.Filter.LiteralNodes
import RecordQuery.Window.Literal

/-!
# RecordQuery.Proofs.Filter.UnknownWords — which unknown word is reported

The nodes of a filter literal are addressed by lists of places: the literal itself by the empty
list, and below an object that is tagged as a group the items of its `filters` by their places.  As
lists, addresses are ordered as a depth-first walk meets them, a node before its children.

A node names an unknown word by its tag, or as a group by its connective.  Reading a literal that
has such nodes fails with the word of the one at the least address, whatever else is wrong with the
literal; reading any other literal gives a filter or a fault of its form.  A window reports the
words of its filter in the same way: `Filter.reportsWords_ofJson`.
-/

namespace RecordQuery

/-! ## Words outside the vocabulary -/

/-- The error tells of an unknown word. -/
def QueryError.IsUnknownWord : QueryError → Prop
  | unknownFilterType _ => True
  | unknownOperation _ => True
  | _ => False

theorem FilterKind.ofTag?_eq_none_iff {tag : String} :
    ofTag? tag = none ↔ ∀ kind : FilterKind, kind.tag ≠ tag := by
  constructor
  · rintro hnone kind rfl
    rw [ofTag?_tag] at hnone
    cases hnone
  · intro hne
    cases hkind : ofTag? tag with
    | none => rfl
    | some kind => exact absurd (tag_of_ofTag? hkind) (hne kind)

/-- A name is unknown when no connective is spelled like it in lower case. -/
theorem Connective.ofName?_eq_none_iff {name : String} :
    ofName? name = none ↔ ∀ op : Connective, op.name.toList ≠ name.toList.map Char.toLower := by
  constructor
  · intro hnone op hop
    unfold ofName? at hnone
    rw [← hop, String.ofList_toList] at hnone
    have hne := List.find?_eq_none.mp hnone op (by cases op <;> decide)
    simp at hne
  · intro hne
    cases hop : ofName? name with
    | none => rfl
    | some op =>
        have hname := name_of_ofName? hop
        exact absurd (by rw [hname, String.toList_ofList]) (hne op)

namespace Filter

/-! ## Nodes and their addresses -/

/-- The literals that stand in the array `filters` of an object. -/
def childLiterals (ms : List (String × Json)) : List Json :=
  match Json.lookup "filters" ms with
  | some (.array items) => items
  | _ => []

/-- `node` is what the address leads to from a literal. -/
inductive NodeAt : Json → List Nat → Json → Prop where
  | root (literal : Json) : NodeAt literal [] literal
  | child {ms : List (String × Json)} {i : Nat} {address : List Nat} {literal node : Json} :
      Json.lookup "type" ms = some (.string "logOp") → (childLiterals ms)[i]? = some literal →
      NodeAt literal address node → NodeAt (.object ms) (i :: address) node

/-- A node names an unknown word, of which the error tells. -/
inductive Misnames : Json → QueryError → Prop where
  | tag {ms : List (String × Json)} {tag : String} :
      Json.lookup "type" ms = some (.string tag) → (∀ kind : FilterKind, kind.tag ≠ tag) →
      Misnames (.object ms) (.unknownFilterType tag)
  | operation {ms : List (String × Json)} {name : String} :
      Json.lookup "type" ms = some (.string "logOp") →
      Json.lookup "operation" ms = some (.string name) →
      (∀ op : Connective, op.name.toList ≠ name.toList.map Char.toLower) →
      Misnames (.object ms) (.unknownOperation name)

/-- No node of a literal names an unknown word. -/
def WellNamed (literal : Json) : Prop :=
  ∀ address node, NodeAt literal address node → ∀ error, ¬ Misnames node error

/-- The error tells of the unknown word at the least address. -/
def FirstMisnamed (literal : Json) (error : QueryError) : Prop :=
  ∃ address node, NodeAt literal address node ∧ Misnames node error
    ∧ ∀ earlier < address, ∀ other, NodeAt literal earlier other → ∀ e, ¬ Misnames other e

/-! ## At most one word is the first -/

theorem NodeAt.unique {literal node other : Json} {address : List Nat}
    (h : NodeAt literal address node) (h' : NodeAt literal address other) : node = other := by
  induction h with
  | root literal => cases h'; rfl
  | child htag hchild _ ih =>
      cases h' with
      | child htag' hchild' h' =>
          cases hchild.symm.trans hchild'
          exact ih h'

theorem Misnames.unique {node : Json} {e e' : QueryError} (h : Misnames node e)
    (h' : Misnames node e') : e = e' := by
  cases h with
  | tag htag hne =>
      cases h' with
      | tag htag' _ =>
          cases htag.symm.trans htag'
          rfl
      | operation htag' _ _ =>
          cases htag.symm.trans htag'
          exact absurd rfl (hne .group)
  | operation htag hop _ =>
      cases h' with
      | tag htag' hne =>
          cases htag.symm.trans htag'
          exact absurd rfl (hne .group)
      | operation _ hop' _ =>
          cases hop.symm.trans hop'
          rfl

theorem FirstMisnamed.unique {literal : Json} {e e' : QueryError} (h : FirstMisnamed literal e)
    (h' : FirstMisnamed literal e') : e = e' := by
  obtain ⟨address, node, hnode, hmis, hfirst⟩ := h
  obtain ⟨address', node', hnode', hmis', hfirst'⟩ := h'
  -- neither address is before the other one
  obtain rfl : address = address' := List.le_antisymm
    (List.not_lt.mp fun hlt => hfirst address' hlt node' hnode' e' hmis')
    (List.not_lt.mp fun hlt => hfirst' address hlt node hnode e hmis)
  cases hnode.unique hnode'
  exact hmis.unique hmis'

theorem FirstMisnamed.not_wellNamed {literal : Json} {e : QueryError}
    (h : FirstMisnamed literal e) : ¬ WellNamed literal := by
  obtain ⟨address, node, hnode, hmis, -⟩ := h
  exact fun hwell => hwell address node hnode e hmis

/-! ## Nodes of objects -/

section

variable {ms : List (String × Json)}

/-- A literal that names an unknown word itself is the first node to do so. -/
theorem firstMisnamed_of_misnames {literal : Json} {e : QueryError} (h : Misnames literal e) :
    FirstMisnamed literal e :=
  ⟨[], literal, .root literal, h, fun _ hlt => absurd hlt (List.not_lt_nil _)⟩

/-- An object that is not tagged as a group has no node but itself. -/
theorem wellNamed_of_no_group (htag : Json.lookup "type" ms ≠ some (.string "logOp"))
    (h : ∀ e, ¬ Misnames (.object ms) e) : WellNamed (.object ms) := by
  intro address node hnode
  cases hnode with
  | root => exact h
  | child htag' => exact absurd htag' htag

/-- What is no object names no word. -/
theorem wellNamed_of_not_object {literal : Json} (h : ∀ ms, literal ≠ .object ms) :
    WellNamed literal := by
  intro address node hnode e hmis
  cases hnode with
  | root => cases hmis <;> exact h _ rfl
  | child => exact h _ rfl

/-- The first unknown word below several literals: those before the one that holds it name none. -/
def FirstAmong (literals : List Json) (error : QueryError) : Prop :=
  ∃ (i : Nat) (literal : Json), literals[i]? = some literal ∧ FirstMisnamed literal error
    ∧ ∀ j < i, ∀ other, literals[j]? = some other → WellNamed other

/-- The words of a group are those of its children when it names none itself. -/
theorem firstMisnamed_of_children (htag : Json.lookup "type" ms = some (.string "logOp"))
    (hroot : ∀ e, ¬ Misnames (.object ms) e) {e : QueryError}
    (h : FirstAmong (childLiterals ms) e) : FirstMisnamed (.object ms) e := by
  obtain ⟨i, literal, hi, ⟨address, node, hnode, hmis, hfirst⟩, hbefore⟩ := h
  refine ⟨i :: address, node, .child htag hi hnode, hmis, ?_⟩
  intro earlier hlt other hother
  cases hother with
  | root => exact hroot
  | @child _ j address' literal' _ _ hj hother =>
      -- an earlier address leads into an earlier child or to an earlier node of the same child
      rcases List.cons_lt_cons_iff.mp hlt with hlt | ⟨rfl, hless⟩
      · exact hbefore j hlt literal' hj address' other hother
      · cases hi.symm.trans hj
        exact hfirst address' hless other hother

theorem wellNamed_of_children (hroot : ∀ e, ¬ Misnames (.object ms) e)
    (h : ∀ literal ∈ childLiterals ms, WellNamed literal) : WellNamed (.object ms) := by
  intro address node hnode
  cases hnode with
  | root => exact hroot
  | child _ hi hnode => exact h _ (List.mem_of_getElem? hi) _ node hnode

end

/-! ## The check finds the first word -/

/-- What a check of a literal found is its first unknown word, if it has any. -/
def Finds (literal : Json) : Option QueryError → Prop
  | some e => FirstMisnamed literal e
  | none => WellNamed literal

/-- What a check of several literals found is the first unknown word of them all. -/
def FindsAmong (literals : List Json) : Option QueryError → Prop
  | some e => FirstAmong literals e
  | none => ∀ literal ∈ literals, WellNamed literal

section

variable {ms : List (String × Json)}

/-- A group names an unknown word itself when its connective is one. -/
theorem misnames_group_iff (htag : Json.lookup "type" ms = some (.string "logOp"))
    {e : QueryError} : Misnames (.object ms) e ↔ operationFault? ms = some e := by
  constructor
  · intro h
    cases h with
    | tag htag' hne =>
        cases htag.symm.trans htag'
        exact absurd rfl (hne .group)
    | operation _ hop hne =>
        rw [operationFault?, hop]
        simp only [Connective.ofName?_eq_none_iff.mpr hne]
  · intro h
    unfold operationFault? at h
    split at h
    · next name hop =>
        split at h
        · cases h
        · next hnone =>
            cases h
            exact .operation htag hop (Connective.ofName?_eq_none_iff.mp hnone)
    · cases h

/-- A group names its own unknown word before those of its children. -/
theorem finds_group (htag : Json.lookup "type" ms = some (.string "logOp"))
    {found : Option QueryError} (h : FindsAmong (childLiterals ms) found) :
    Finds (.object ms) ((operationFault? ms).or found) := by
  cases hop : operationFault? ms with
  | some e => exact firstMisnamed_of_misnames ((misnames_group_iff htag).mpr hop)
  | none =>
      have hroot : ∀ e, ¬ Misnames (.object ms) e := by
        intro e hmis
        rw [misnames_group_iff htag, hop] at hmis
        cases hmis
      cases found with
      | some e => exact firstMisnamed_of_children htag hroot h
      | none => exact wellNamed_of_children hroot h

/-- An object that is no group names an unknown word only by its tag. -/
theorem finds_of_no_group (htag : Json.lookup "type" ms ≠ some (.string "logOp")) :
    Finds (.object ms) (wordFault? (.object ms)) := by
  rw [wordFault?]
  split
  · next tag heq =>
      cases hkind : FilterKind.ofTag? tag with
      | none =>
          exact firstMisnamed_of_misnames (.tag heq (FilterKind.ofTag?_eq_none_iff.mp hkind))
      | some kind =>
          have hknown := FilterKind.tag_of_ofTag? hkind
          cases kind with
          | group =>
              rw [← hknown] at heq
              exact absurd heq htag
          | test kind =>
              refine wellNamed_of_no_group htag fun e hmis => ?_
              cases hmis with
              | tag heq' hne =>
                  cases heq.symm.trans heq'
                  exact hne _ hknown
              | operation heq' => exact htag heq'
  · next hno =>
      refine wellNamed_of_no_group htag fun e hmis => ?_
      cases hmis with
      | tag heq => exact hno _ heq
      | operation heq => exact hno _ heq

end

theorem findsAmong_cons {literal : Json} {rest : List Json} {found later : Option QueryError}
    (h : Finds literal found) (hrest : FindsAmong rest later) :
    FindsAmong (literal :: rest) (found.or later) := by
  cases found with
  | some e => exact ⟨0, literal, rfl, h, fun j hj => absurd hj (Nat.not_lt_zero j)⟩
  | none =>
      cases later with
      | none => exact List.forall_mem_cons.mpr ⟨h, hrest⟩
      | some e =>
          obtain ⟨i, other, hi, hfirst, hbefore⟩ := hrest
          refine ⟨i + 1, other, hi, hfirst, ?_⟩
          intro j hj literal' hliteral
          cases j with
          | zero =>
              cases hliteral
              exact h
          | succ j => exact hbefore j (Nat.lt_of_succ_lt_succ hj) literal' hliteral

mutual

/-- **The check finds the first unknown word.** -/
theorem finds_wordFault? : ∀ literal : Json, Finds literal (wordFault? literal)
  | .object ms => by
      by_cases htag : Json.lookup "type" ms = some (.string "logOp")
      · rw [wordFault?_of_group htag]
        exact finds_group htag (findsAmong_childrenFault? ms)
      · exact finds_of_no_group htag
  | .null => wellNamed_of_not_object nofun
  | .bool _ => wellNamed_of_not_object nofun
  | .number _ => wellNamed_of_not_object nofun
  | .string _ => wellNamed_of_not_object nofun
  | .array _ => wellNamed_of_not_object nofun

theorem findsAmong_childrenFault? :
    ∀ ms : List (String × Json), FindsAmong (childLiterals ms) (childrenFault? ms)
  | [] => nofun
  | (k, v) :: rest => by
      rw [childrenFault?_eq_bind, childLiterals, Json.lookup]
      by_cases hk : k = "filters"
      · simp only [if_pos hk]
        exact findsAmong_filtersFault? v
      · simp only [if_neg hk, ← childrenFault?_eq_bind]
        exact findsAmong_childrenFault? rest

theorem findsAmong_filtersFault? : ∀ v : Json,
    FindsAmong (match some v with | some (.array items) => items | _ => []) (filtersFault? v)
  | .array items => findsAmong_itemsFault? items
  | .null => nofun
  | .bool _ => nofun
  | .number _ => nofun
  | .string _ => nofun
  | .object _ => nofun

theorem findsAmong_itemsFault? : ∀ items : List Json, FindsAmong items (itemsFault? items)
  | [] => nofun
  | v :: rest => by
      have heq : itemsFault? (v :: rest) = (wordFault? v).or (itemsFault? rest) := by
        rw [itemsFault?]
        cases wordFault? v <;> rfl
      rw [heq]
      exact findsAmong_cons (finds_wordFault? v) (findsAmong_itemsFault? rest)

end

/-! ## Outcomes -/

/-- An outcome tells of the unknown words of a literal: it fails with one exactly when some node
names one, the word is then the first one, and every other outcome is a result or a fault of form.
-/
structure ReportsWords {α : Type} (literal : Json) (outcome : Except QueryError α) : Prop where
  fails_iff : (∃ e : QueryError, e.IsUnknownWord ∧ outcome = .error e)
    ↔ ∃ address node e, NodeAt literal address node ∧ Misnames node e
  first : ∀ e : QueryError, e.IsUnknownWord → (outcome = .error e ↔ FirstMisnamed literal e)
  otherwise : (∃ e : QueryError, e.IsUnknownWord ∧ outcome = .error e)
    ∨ (∃ result, outcome = .ok result) ∨ ∃ fault, outcome = .error (.invalidFilter fault)

theorem Misnames.isUnknownWord {node : Json} {e : QueryError} (h : Misnames node e) :
    e.IsUnknownWord := by
  cases h <;> trivial

theorem FirstMisnamed.isUnknownWord {literal : Json} {e : QueryError}
    (h : FirstMisnamed literal e) : e.IsUnknownWord := by
  obtain ⟨_, _, _, hmis, _⟩ := h
  exact hmis.isUnknownWord

section

variable {α : Type} {literal : Json}

/-- Stopping at the first unknown word reports it. -/
theorem reportsWords_error {e : QueryError} (h : FirstMisnamed literal e) :
    ReportsWords literal (.error e : Except QueryError α) where
  fails_iff := by
    obtain ⟨address, node, hnode, hmis, -⟩ := h
    exact ⟨fun _ => ⟨address, node, e, hnode, hmis⟩, fun _ => ⟨e, hmis.isUnknownWord, rfl⟩⟩
  first e' _ := by
    constructor
    · intro heq
      cases heq
      exact h
    · intro h'
      rw [h.unique h']
  otherwise := Or.inl ⟨e, h.isUnknownWord, rfl⟩

/-- Without unknown words a reading keeps its result or its fault of form. -/
theorem reportsWords_mapError (h : WellNamed literal) (reading : Except DecodeError α) :
    ReportsWords literal (reading.mapError fun fault => .invalidFilter (.form fault)) := by
  have hother : (∃ result, reading.mapError (fun fault => QueryError.invalidFilter (.form fault))
        = .ok result)
      ∨ ∃ fault, reading.mapError (fun fault => QueryError.invalidFilter (.form fault))
        = .error (.invalidFilter fault) := by
    cases reading with
    | ok result => exact Or.inl ⟨result, rfl⟩
    | error fault => exact Or.inr ⟨.form fault, rfl⟩
  have hno : ∀ e : QueryError, e.IsUnknownWord →
      reading.mapError (fun fault => QueryError.invalidFilter (.form fault)) ≠ .error e := by
    intro e he heq
    rcases hother with ⟨result, hok⟩ | ⟨fault, herror⟩
    · cases hok.symm.trans heq
    · cases herror.symm.trans heq
      exact he
  refine ⟨⟨?_, ?_⟩, ?_, Or.inr hother⟩
  · rintro ⟨e, he, heq⟩
    exact absurd heq (hno e he)
  · rintro ⟨address, node, e, hnode, hmis⟩
    exact absurd hmis (h address node hnode e)
  · intro e he
    exact ⟨fun heq => absurd heq (hno e he), fun hfirst => absurd h hfirst.not_wellNamed⟩

/-- Checking for unknown words before reading reports the first one. -/
theorem reportsWords_of_check {outcome : Except QueryError α} (reading : Except DecodeError α)
    (hstop : ∀ e, wordFault? literal = some e → outcome = .error e)
    (hread : wordFault? literal = none →
      outcome = reading.mapError fun fault => .invalidFilter (.form fault)) :
    ReportsWords literal outcome := by
  have hfinds := finds_wordFault? literal
  cases hword : wordFault? literal with
  | some e =>
      rw [hword] at hfinds
      rw [hstop e hword]
      exact reportsWords_error hfinds
  | none =>
      rw [hword] at hfinds
      rw [hread hword]
      exact reportsWords_mapError hfinds reading

end

end Filter

namespace Window

/-- The filter in a window literal; a literal that is no object or has no filter stands for null,
which names no word. -/
def filterMember : Json → Json
  | .object ms => (Json.lookup "filter" ms).getD .null
  | _ => .null

theorem wordFault?_eq (literal : Json) :
    wordFault? literal = Filter.wordFault? (filterMember literal) := by
  cases literal with
  | object ms =>
      rw [wordFault?, filterMember]
      cases Json.lookup "filter" ms <;> rfl
  | _ => rfl

end Window

/-- **Unknown words are never masked.** Reading a filter literal reports the first unknown word
among its nodes, whatever else is wrong with it, and reading a window literal reports that of its
filter, whatever is wrong with its other parts. -/
theorem Filter.reportsWords_ofJson :
    (∀ literal, ReportsWords literal (ofJson literal))
      ∧ ∀ literal, ReportsWords (Window.filterMember literal) (Window.ofJson literal) := by
  constructor
  · intro literal
    apply reportsWords_of_check (decode literal)
    · intro e hword
      rw [ofJson, hword]
    · intro hword
      rw [ofJson, hword]
  · intro literal
    apply reportsWords_of_check (Window.decode literal)
    · intro e hword
      rw [Window.ofJson, Window.wordFault?_eq, hword]
    · intro hword
      rw [Window.ofJson, Window.wordFault?_eq, hword]

/-- The tag below the first child comes before the connective of the second one; the sequence, the
leaf without a field and the connective that is no string are faults of form. -/
example :
    Filter.ofJson (.object
      [("filters", .array
        [.object
          [("filters", .array
            [.array [.string "xor"], .object [("type", .string "boolean")],
              .object [("type", .string "regex")]]),
          ("type", .string "logOp")],
        .object [("operation", .string "xor"), ("type", .string "logOp")]]),
      ("operation", .null), ("type", .string "logOp")])
      = .error (.unknownFilterType "regex") := rfl

end RecordQuery
