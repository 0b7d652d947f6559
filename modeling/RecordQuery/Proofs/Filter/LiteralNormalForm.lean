import RecordQuery.Proofs.Filter.LiteralNodes

/-!
# RecordQuery.Proofs.Filter.LiteralNormalForm — the literal of a filter that was read

A literal in object form is one all of whose nodes are objects with a tag.  Whatever filter such a
literal is read as, the literal of that filter is the normal form of the literal: each node keeps
the members of its kind, without options that are null, with its connective in lower case and with a
list of children.  Ranges of doubles are left out, since an integer bound comes back as a double.

Members are determined by what is found under each name, so a node is compared with what is written
name by name; the tree is an induction over the literal.
-/

namespace RecordQuery.Filter

/-! ## The normal form -/

/-- The members that literals of a kind need not have. -/
def optionalNames : TestKind → List String
  | .boolean | .null => []
  | .containsString => ["contains"]
  | .dateRange | .doubleRange | .longRange | .stringRange => ["max", "min"]
  | .like => ["like"]
  | .longEnum | .stringEnum => ["values"]
  | .string => ["value"]
  | .stringMap => ["key", "value"]

/-- Takes out the optional members that are null. -/
def withoutNulls (kind : TestKind) (ms : List (String × Json)) : List (String × Json) :=
  ms.filter fun m => !(decide (m.1 ∈ optionalNames kind) && decide (m.2 = .null))

/-- A word in lower case. -/
def lowerWord : Json → Json
  | .string word => .string (String.ofList (word.toList.map Char.toLower))
  | v => v

/-- Writes the connective in lower case. -/
def lowerOperation (ms : List (String × Json)) : List (String × Json) :=
  ms.map fun m => (m.1, if m.1 = "operation" then lowerWord m.2 else m.2)

/-- Adds an empty list of children to members without one. -/
def withFilters (ms : List (String × Json)) : List (String × Json) :=
  match Json.lookup "filters" ms with
  | some _ => ms
  | none => Json.insert "filters" (.array []) ms

/-- The members of a node in normal form. -/
def normalMembers : FilterKind → List (String × Json) → List (String × Json)
  | .test kind, ms => withoutNulls kind (knownMembers (.test kind) ms)
  | .group, ms => withFilters (lowerOperation (knownMembers .group ms))

/-- The normal form of a literal: every node with the members of its kind, without null options and
with its connective in lower case, and every group with a list of children. -/
def normal : Json → Json :=
  mapNodes normalMembers

/-! ## Nodes of tests -/

theorem memberNames_ascending (kind : FilterKind) :
    (memberNames kind).Pairwise fun a b => compare a b = .lt := by
  cases kind with
  | group => decide
  | test kind => cases kind <;> decide

section

variable {ms : List (String × Json)} {kind : TestKind} {name : String}

theorem lookup_normalMembers_test (hms : Json.Ascending ms) (name : String) :
    Json.lookup name (normalMembers (.test kind) ms)
      = (Json.lookup name (knownMembers (.test kind) ms)).filter
        fun v => !(decide (name ∈ optionalNames kind) && decide (v = .null)) :=
  Json.lookup_filter (Json.ascending_filter hms _)
    (fun name v => !(decide (name ∈ optionalNames kind) && decide (v = .null))) name

/-- A member that a kind needs is kept. -/
theorem lookup_kept_required (hms : Json.Ascending ms)
    (hname : name ∈ memberNames (.test kind)) (hrequired : name ∉ optionalNames kind) :
    Json.lookup name (normalMembers (.test kind) ms) = Json.lookup name ms := by
  rw [lookup_normalMembers_test hms, lookup_knownMembers hname, decide_eq_false hrequired]
  cases Json.lookup name ms with
  | none => rfl
  | some v => rfl

/-- A member that a kind need not have is kept unless it is null. -/
theorem lookup_kept_optional (hms : Json.Ascending ms)
    (hname : name ∈ memberNames (.test kind)) (hoptional : name ∈ optionalNames kind) :
    Json.lookup name (normalMembers (.test kind) ms)
      = (Json.lookup name ms).filter fun v => !decide (v = .null) := by
  rw [lookup_normalMembers_test hms, lookup_knownMembers hname, decide_eq_true hoptional]
  rfl

/-- The normal form of a node of a test lists the members of its kind. -/
theorem normalMembers_test_eq (hms : Json.Ascending ms) :
    normalMembers (.test kind) ms
      = Json.membersAt (memberNames (.test kind)) (normalMembers (.test kind) ms) := by
  have hascending : Json.Ascending (normalMembers (.test kind) ms) :=
    Json.ascending_filter (Json.ascending_filter hms _) _
  apply Json.eq_membersAt hascending (memberNames_ascending _)
  intro name hname
  rw [lookup_normalMembers_test hms, lookup_knownMembers_of_notMem hname]
  rfl

/-- A leaf with one more part was read from its field and that part. -/
theorem exists_of_decodeLeaf {α : Type} {record : String} {part : Slot α} {test : α → Test}
    {f : Filter} (h : decodeLeaf record part test (.members ms) = .ok f) :
    ∃ field x, f = leaf field (test x) ∧ fieldSlot.Finds ms field ∧ part.Finds ms x := by
  obtain ⟨parts, hparts, rfl⟩ := Except.map_eq_ok_iff.mp h
  exact ⟨parts.1, parts.2, rfl, Payload.pair_members_eq_ok_iff.mp hparts⟩

/-- A range was read from its field and its bounds. -/
theorem exists_of_decodeRange {α : Type} {bound : Decoder α} {test : Option α → Option α → Test}
    {f : Filter} (h : decodeRange bound test (.members ms) = .ok f) :
    ∃ field min max, f = leaf field (test min max) ∧ fieldSlot.Finds ms field
      ∧ (Slot.optional "min" bound).Finds ms min ∧ (Slot.optional "max" bound).Finds ms max := by
  obtain ⟨parts, hparts, rfl⟩ := Except.map_eq_ok_iff.mp h
  exact ⟨parts.1, parts.2.1, parts.2.2, rfl, Payload.triple_members_eq_ok_iff.mp hparts⟩

/-- An entry test was read from its field, its key and its value. -/
theorem exists_of_decodeTest_stringMap {f : Filter}
    (h : decodeTest .stringMap (.members ms) = .ok f) :
    ∃ field key value, f = leaf field (.stringMap key value) ∧ fieldSlot.Finds ms field
      ∧ (Slot.optional "key" Decoder.string).Finds ms key
      ∧ (Slot.optional "value" Decoder.string).Finds ms value := by
  obtain ⟨parts, hparts, rfl⟩ := Except.map_eq_ok_iff.mp h
  exact ⟨parts.1, parts.2.1, parts.2.2, rfl, Payload.triple_members_eq_ok_iff.mp hparts⟩

/-- The field of a leaf is kept. -/
theorem lookup_field_normalMembers (hms : Json.Ascending ms) {field : String}
    (h : fieldSlot.Finds ms field) :
    Json.lookup "fieldName" (normalMembers (.test kind) ms) = some (.string field) := by
  rw [lookup_kept_required hms (by cases kind <;> decide) (by cases kind <;> decide)]
  exact Slot.lookup_of_finds_required Decoder.string_undoneBy h

/-- The tag of a leaf is kept. -/
theorem lookup_type_normalMembers (hms : Json.Ascending ms)
    (h : Json.lookup "type" ms = some (.string (FilterKind.test kind).tag)) :
    Json.lookup "type" (normalMembers (.test kind) ms)
      = some (.string (FilterKind.test kind).tag) := by
  rw [lookup_kept_required hms (type_mem_memberNames _) (by cases kind <;> decide), h]

/-- A part that was read because it must be there is kept. -/
theorem keeps_required {α : Type} {decode : Decoder α} {write : α → Json} {x : α}
    (hms : Json.Ascending ms) (hundone : decode.UndoneBy write)
    (hname : name ∈ memberNames (.test kind)) (hrequired : name ∉ optionalNames kind)
    (h : (Slot.required name decode).Finds ms x) :
    Json.lookup name (normalMembers (.test kind) ms) = some (write x) := by
  rw [lookup_kept_required hms hname hrequired]
  exact Slot.lookup_of_finds_required hundone h

/-- A part that was read or found absent is kept or left out. -/
theorem keeps_optional {α : Type} {decode : Decoder α} {write : α → Json} {x : Option α}
    (hms : Json.Ascending ms) (hundone : decode.UndoneBy write)
    (hname : name ∈ memberNames (.test kind)) (hoptional : name ∈ optionalNames kind)
    (h : (Slot.optional name decode).Finds ms x) :
    Json.lookup name (normalMembers (.test kind) ms) = x.map write := by
  rw [lookup_kept_optional hms hname hoptional]
  exact Slot.lookup_of_finds_optional hundone h

/-- The normal form of a node of a test is a leaf with what is found under the other names. -/
theorem leafJson_eq_normal (before between after : List String)
    (hnames : memberNames (.test kind) = before ++ "fieldName" :: between ++ "type" :: after)
    (hms : Json.Ascending ms)
    (htag : Json.lookup "type" ms = some (.string (FilterKind.test kind).tag)) {field : String}
    (hfield : fieldSlot.Finds ms field) :
    leafJson kind field (Json.membersAt before (normalMembers (.test kind) ms))
        (Json.membersAt between (normalMembers (.test kind) ms))
        (Json.membersAt after (normalMembers (.test kind) ms))
      = .object (normalMembers (.test kind) ms) := by
  have hlisted : normalMembers (.test kind) ms
      = Json.membersAt (memberNames (.test kind)) (normalMembers (.test kind) ms) :=
    normalMembers_test_eq hms
  rw [hnames, Json.membersAt_append, Json.membersAt_append, Json.membersAt_cons,
    Json.membersAt_cons, lookup_field_normalMembers hms hfield,
    lookup_type_normalMembers hms htag] at hlisted
  exact (congrArg Json.object hlisted).symm

/-- A range is written as the normal form of the node that it was read from. -/
theorem rangeJson_of_decodeRange {α : Type} {bound : Decoder α} {write : α → Json}
    {test : Option α → Option α → Test} {f : Filter} (hundone : bound.UndoneBy write)
    (hnames : memberNames (.test kind) = ["fieldName", "max", "min", "type"])
    (hoptional : optionalNames kind = ["max", "min"]) (hms : Json.Ascending ms)
    (htag : Json.lookup "type" ms = some (.string (FilterKind.test kind).tag))
    (h : decodeRange bound test (.members ms) = .ok f) :
    ∃ field min max, f = leaf field (test min max)
      ∧ rangeJson kind field (min.map write) (max.map write)
        = .object (normalMembers (.test kind) ms) := by
  obtain ⟨field, min, max, rfl, hfield, hmin, hmax⟩ := exists_of_decodeRange h
  refine ⟨field, min, max, rfl, ?_⟩
  have hupper : Json.lookup "max" (normalMembers (.test kind) ms) = max.map write :=
    keeps_optional hms hundone (by simp [hnames]) (by simp [hoptional]) hmax
  have hlower : Json.lookup "min" (normalMembers (.test kind) ms) = min.map write :=
    keeps_optional hms hundone (by simp [hnames]) (by simp [hoptional]) hmin
  rw [← leafJson_eq_normal [] ["max", "min"] [] hnames hms htag hfield, Json.membersAt_cons, hupper,
    Json.membersAt_singleton hlower]
  rfl

/-- A leaf with one more part is written as the normal form of the node that it was read from,
wherever the name of the part stands beside those of the field and the tag. -/
theorem leafJson_of_decodeLeaf {α : Type} {record : String} {part : Slot α}
    {write : α → Option Json} {test : α → Test} {f : Filter} (before between after : List String)
    (hnames : memberNames (.test kind) = before ++ "fieldName" :: between ++ "type" :: after)
    (hms : Json.Ascending ms)
    (htag : Json.lookup "type" ms = some (.string (FilterKind.test kind).tag))
    (hkeeps : ∀ x, part.Finds ms x →
      Json.lookup name (normalMembers (.test kind) ms) = write x)
    (h : decodeLeaf record part test (.members ms) = .ok f) :
    ∃ field x, f = leaf field (test x)
      ∧ Json.membersAt [name] (normalMembers (.test kind) ms) = Json.optionalMember name (write x)
      ∧ leafJson kind field (Json.membersAt before (normalMembers (.test kind) ms))
          (Json.membersAt between (normalMembers (.test kind) ms))
          (Json.membersAt after (normalMembers (.test kind) ms))
        = .object (normalMembers (.test kind) ms) := by
  obtain ⟨field, x, rfl, hfield, hx⟩ := exists_of_decodeLeaf h
  exact ⟨field, x, rfl, Json.membersAt_singleton (hkeeps x hx),
    leafJson_eq_normal before between after hnames hms htag hfield⟩

/-- An enumeration is written as the normal form of the node that it was read from. -/
theorem enumJson_of_decodeLeaf {α : Type} {item : Decoder α} {write : α → Json}
    {test : Option (List α) → Test} {f : Filter} (hundone : item.UndoneBy write)
    (hnames : memberNames (.test kind) = ["fieldName", "type", "values"])
    (hoptional : optionalNames kind = ["values"]) (hms : Json.Ascending ms)
    (htag : Json.lookup "type" ms = some (.string (FilterKind.test kind).tag))
    (h : decodeLeaf "EnumFilter" (.optional "values" (Decoder.list item)) test (.members ms)
      = .ok f) :
    ∃ field values, f = leaf field (test values)
      ∧ enumJson kind field (values.map (·.map write))
        = .object (normalMembers (.test kind) ms) := by
  obtain ⟨field, values, rfl, hpart, heq⟩ := leafJson_of_decodeLeaf [] [] ["values"] hnames hms htag
    (fun _ => keeps_optional hms (Decoder.list_undoneBy hundone) (by simp [hnames])
      (by simp [hoptional])) h
  refine ⟨field, values, rfl, ?_⟩
  rw [hpart] at heq
  rw [enumJson, Option.map_map]
  exact heq

/-- **A leaf is written as the normal form of the node that it was read from**, and arrives from
there, unless it is a range of doubles. -/
theorem toJson_of_decodeTest (hms : Json.Ascending ms)
    (htag : Json.lookup "type" ms = some (.string (FilterKind.test kind).tag))
    (hkind : kind ≠ .doubleRange) {f : Filter} (h : decodeTest kind (.members ms) = .ok f) :
    f.toJson = .object (normalMembers (.test kind) ms) ∧ f.received = f := by
  cases kind with
  | boolean =>
      obtain ⟨field, value, rfl, hpart, heq⟩ := leafJson_of_decodeLeaf [] [] ["value"] rfl hms htag
        (fun _ => keeps_required hms Decoder.boolean_undoneBy (by decide) (by decide)) h
      rw [hpart] at heq
      exact ⟨heq, rfl⟩
  | containsString =>
      obtain ⟨field, needle, rfl, hpart, heq⟩ := leafJson_of_decodeLeaf ["contains"] [] [] rfl hms
        htag (fun _ => keeps_optional hms Decoder.string_undoneBy (by decide) (by decide)) h
      rw [hpart] at heq
      exact ⟨heq, rfl⟩
  | dateRange =>
      obtain ⟨field, min, max, rfl, heq⟩ :=
        rangeJson_of_decodeRange Decoder.string_undoneBy rfl rfl hms htag h
      exact ⟨heq, rfl⟩
  | doubleRange => exact absurd rfl hkind
  | like =>
      obtain ⟨field, pattern, rfl, hpart, heq⟩ := leafJson_of_decodeLeaf [] ["like"] [] rfl hms
        htag (fun _ => keeps_optional hms Decoder.string_undoneBy (by decide) (by decide)) h
      rw [hpart] at heq
      exact ⟨heq, rfl⟩
  | longEnum =>
      obtain ⟨field, values, rfl, heq⟩ :=
        enumJson_of_decodeLeaf Decoder.int64_undoneBy rfl rfl hms htag h
      exact ⟨heq, rfl⟩
  | longRange =>
      obtain ⟨field, min, max, rfl, heq⟩ :=
        rangeJson_of_decodeRange Decoder.int64_undoneBy rfl rfl hms htag h
      exact ⟨heq, rfl⟩
  | stringEnum =>
      obtain ⟨field, values, rfl, heq⟩ :=
        enumJson_of_decodeLeaf Decoder.string_undoneBy rfl rfl hms htag h
      exact ⟨heq, rfl⟩
  | string =>
      obtain ⟨field, value, rfl, hpart, heq⟩ := leafJson_of_decodeLeaf [] [] ["value"] rfl hms htag
        (fun _ => keeps_optional hms Decoder.string_undoneBy (by decide) (by decide)) h
      rw [hpart] at heq
      exact ⟨heq, rfl⟩
  | stringMap =>
      obtain ⟨field, key, value, rfl, hfield, hkey, hvalue⟩ := exists_of_decodeTest_stringMap h
      have hkeyPart : Json.lookup "key" (normalMembers (.test .stringMap) ms) = key.map .string :=
        keeps_optional hms Decoder.string_undoneBy (by decide) (by decide) hkey
      have hvaluePart : Json.lookup "value" (normalMembers (.test .stringMap) ms)
          = value.map .string :=
        keeps_optional hms Decoder.string_undoneBy (by decide) (by decide) hvalue
      refine ⟨?_, rfl⟩
      rw [← leafJson_eq_normal [] ["key"] ["value"] rfl hms htag hfield,
        Json.membersAt_singleton hkeyPart, Json.membersAt_singleton hvaluePart]
      rfl
  | stringRange =>
      obtain ⟨field, min, max, rfl, heq⟩ :=
        rangeJson_of_decodeRange Decoder.string_undoneBy rfl rfl hms htag h
      exact ⟨heq, rfl⟩
  | null =>
      obtain ⟨field, isNull, rfl, hpart, heq⟩ := leafJson_of_decodeLeaf [] ["isNull"] [] rfl hms
        htag (fun _ => keeps_required hms Decoder.boolean_undoneBy (by decide) (by decide)) h
      rw [hpart] at heq
      exact ⟨heq, rfl⟩

end

/-! ## Nodes of groups -/

section

variable {ms : List (String × Json)}

theorem ascending_normalMembers_group (hms : Json.Ascending ms) :
    Json.Ascending (normalMembers .group ms) := by
  have hlowered : Json.Ascending (lowerOperation (knownMembers .group ms)) :=
    Json.ascending_map_value (Json.ascending_filter hms _)
      fun name v => if name = "operation" then lowerWord v else v
  rw [normalMembers, withFilters]
  split
  · exact hlowered
  · exact Json.ascending_insert _ _ hlowered

theorem lookup_lowerOperation (name : String) (ms : List (String × Json)) :
    Json.lookup name (lowerOperation ms)
      = (Json.lookup name ms).map fun v => if name = "operation" then lowerWord v else v :=
  Json.lookup_map_value (fun name v => if name = "operation" then lowerWord v else v) name ms

theorem lookup_withFilters_of_ne {name : String} (h : name ≠ "filters")
    (ms : List (String × Json)) : Json.lookup name (withFilters ms) = Json.lookup name ms := by
  rw [withFilters]
  split
  · rfl
  · exact Json.lookup_insert_of_ne _ _ h

theorem lookup_withFilters (ms : List (String × Json)) :
    Json.lookup "filters" (withFilters ms)
      = some ((Json.lookup "filters" ms).getD (.array [])) := by
  rw [withFilters]
  split
  · next v hv => rw [hv, Option.getD_some]
  · next hnone => rw [Json.lookup_insert_self, hnone, Option.getD_none]

/-- The list of children of a node of a group in normal form. -/
theorem lookup_filters_normalMembers (ms : List (String × Json)) :
    Json.lookup "filters" (normalMembers .group ms)
      = some ((Json.lookup "filters" ms).getD (.array [])) := by
  rw [normalMembers, lookup_withFilters, lookup_lowerOperation, lookup_knownMembers (by decide)]
  simp

/-- The connective of a node of a group in normal form. -/
theorem lookup_operation_normalMembers (ms : List (String × Json)) :
    Json.lookup "operation" (normalMembers .group ms)
      = (Json.lookup "operation" ms).map lowerWord := by
  rw [normalMembers, lookup_withFilters_of_ne (by decide), lookup_lowerOperation,
    lookup_knownMembers (by decide)]
  simp

/-- What a node of a group in normal form holds under another name. -/
theorem lookup_normalMembers_group {name : String} (hfilters : name ≠ "filters")
    (hoperation : name ≠ "operation") (ms : List (String × Json)) :
    Json.lookup name (normalMembers .group ms) = Json.lookup name (knownMembers .group ms) := by
  rw [normalMembers, lookup_withFilters_of_ne hfilters, lookup_lowerOperation]
  simp [hoperation]

/-- A group is written as the normal form of a node with its connective, in any case of letters, and
its children, or no list of children when there are none. -/
theorem groupMembers_eq_normal {op : Connective} {word : String} {literals : List Json}
    (hms : Json.Ascending ms)
    (htag : Json.lookup "type" ms = some (.string FilterKind.group.tag))
    (hword : Json.lookup "operation" ms = some (.string word))
    (hop : Connective.ofName? word = some op)
    (hfilters : (Json.lookup "filters" ms).getD (.array []) = .array literals) :
    groupMembers op literals = normalMembers .group ms := by
  have hlower : lowerWord (.string word) = .string op.name := by
    rw [lowerWord, Connective.name_of_ofName? hop]
  -- the edits touch two of the names that groups have, and no other name
  have hothers : ∀ name, name ∉ memberNames .group →
      Json.lookup name (normalMembers .group ms) = none := by
    intro name hname
    have hne : name ≠ "filters" ∧ name ≠ "operation" := by
      simp only [memberNames, List.mem_cons, not_or] at hname
      exact ⟨hname.1, hname.2.1⟩
    rw [lookup_normalMembers_group hne.1 hne.2, lookup_knownMembers_of_notMem hname]
  have hlisted := Json.eq_membersAt (ascending_normalMembers_group hms)
    (memberNames_ascending .group) hothers
  have htype : Json.lookup "type" (normalMembers .group ms)
      = some (.string FilterKind.group.tag) := by
    rw [lookup_normalMembers_group (by decide) (by decide), lookup_knownMembers (by decide), htag]
  rw [hlisted]
  simp only [memberNames, Json.membersAt_cons, Json.membersAt_nil, htype,
    lookup_operation_normalMembers, lookup_filters_normalMembers, hword, hfilters, Option.map_some,
    hlower]
  rfl

end

/-! ## Literals in object form -/

mutual

/-- The nodes of a literal: the literal and, below an object that is tagged as a group, its
children. -/
def literalNodes : Json → List Json
  | .object members =>
    .object members ::
      if Json.lookup "type" members = some (.string FilterKind.group.tag) then childNodes members
      else []
  | v => [v]

/-- The nodes of the children of a group. -/
def childNodes : List (String × Json) → List Json
  | [] => []
  | (k, v) :: rest => if k = "filters" then filterNodes v else childNodes rest

/-- The nodes of the literals in an array. -/
def filterNodes : Json → List Json
  | .array items => itemNodes items
  | _ => []

/-- The nodes of several literals. -/
def itemNodes : List Json → List Json
  | [] => []
  | v :: rest => literalNodes v ++ itemNodes rest

end

/-- A node that is an object with a tag, and no range of doubles. -/
def ObjectNode (node : Json) : Prop :=
  ∃ ms tag, node = .object ms ∧ Json.lookup "type" ms = some (.string tag)
    ∧ tag ≠ (FilterKind.test .doubleRange).tag

/-- A literal in object form: every node is an object with a tag, and none is a range of doubles. -/
def ObjectForm (literal : Json) : Prop :=
  ∀ node ∈ literalNodes literal, ObjectNode node

/-- A literal that is no object is its only node, and not in object form. -/
theorem not_objectForm {literal : Json} (hnodes : literalNodes literal = [literal])
    (h : ∀ ms, literal ≠ .object ms) : ¬ ObjectForm literal := by
  intro hform
  rw [ObjectForm, hnodes] at hform
  obtain ⟨ms, tag, hobject, -⟩ := hform literal List.mem_cons_self
  exact h ms hobject

/-- A connective was read from a word that names it. -/
theorem exists_of_decodeConnective {v : Json} {op : Connective}
    (h : decodeConnective v = .ok op) :
    ∃ word, v = .string word ∧ Connective.ofName? word = some op := by
  cases v with
  | string word =>
      rw [decodeConnective, Decoder.string] at h
      cases hop : Connective.ofName? word with
      | none =>
          simp only [hop] at h
          cases h
      | some named =>
          simp only [hop] at h
          cases h
          exact ⟨word, rfl, hop⟩
  | _ => cases h

/-- A group was read from its connective and its children. -/
theorem exists_of_decodeAt_group {ms : List (String × Json)} {place : Place} {f : Filter}
    (htag : Json.lookup "type" ms = some (.string FilterKind.group.tag))
    (h : decodeAt place (.object ms) = .ok f) :
    ∃ op filters word, f = group op filters ∧ decodeChildren ms = .ok filters
      ∧ Json.lookup "operation" ms = some (.string word) ∧ Connective.ofName? word = some op := by
  rw [decodeAt_of_group htag] at h
  obtain ⟨filters, hfilters, h⟩ := Except.bind_eq_ok_iff.mp h
  obtain ⟨found, hfind, h⟩ := Except.bind_eq_ok_iff.mp h
  obtain ⟨op, hsettle, h⟩ := Except.bind_eq_ok_iff.mp h
  cases h
  have hfinds : operationSlot.Finds ms op := ⟨found, hfind, hsettle⟩
  obtain ⟨v, hlookup, hread⟩ := Slot.exists_of_finds_required hfinds
  obtain ⟨word, rfl, hop⟩ := exists_of_decodeConnective hread
  exact ⟨op, filters, word, rfl, hfilters, hlookup, hop⟩

/-- What was read by a tag has a kind with that tag. -/
theorem exists_kind_of_decodeAt {ms : List (String × Json)} {tag : String} {place : Place}
    {f : Filter} (htag : Json.lookup "type" ms = some (.string tag))
    (h : decodeAt place (.object ms) = .ok f) : ∃ kind : FilterKind, kind.tag = tag := by
  rw [decodeAt, htag] at h
  cases hkind : FilterKind.ofTag? tag with
  | none =>
      simp only [decodeKind, hkind, Except.error_bind] at h
      cases h
  | some kind => exact ⟨kind, FilterKind.tag_of_ofTag? hkind⟩

/-- What is read from a literal in object form: a filter whose literal is the normal form, and which
arrives from it. -/
def WritesNormal (place : Place) (literal : Json) : Prop :=
  ∀ f, decodeAt place literal = .ok f → f.toJson = normal literal ∧ f.received = f

mutual

theorem writesNormal (place : Place) : ∀ literal : Json, literal.Canonical → ObjectForm literal →
    WritesNormal place literal
  | .object ms, hcanonical, hform => by
      intro f h
      obtain ⟨hms, hvalues⟩ := hcanonical
      obtain ⟨ms', tag, ⟨⟩, htag, hdouble⟩ := hform _ List.mem_cons_self
      obtain ⟨kind, rfl⟩ := exists_kind_of_decodeAt htag h
      -- the tag settles which members the node keeps, and whether there are nodes below it
      cases kind with
      | test kind =>
          rw [decodeAt_of_test htag] at h
          rw [normal, mapNodes_of_test htag]
          exact toJson_of_decodeTest hms htag (fun heq => hdouble (by rw [heq])) h
      | group =>
          obtain ⟨op, filters, word, rfl, hchildren, hword, hop⟩ := exists_of_decodeAt_group htag h
          have hnodes : ∀ node ∈ childNodes ms, ObjectNode node := by
            intro node hnode
            apply hform
            rw [literalNodes, if_pos htag]
            exact List.mem_cons_of_mem _ hnode
          obtain ⟨hfilters, hreceived⟩ := writesNormal_children ms hvalues hnodes filters hchildren
          -- mapping the children leaves the tag and the connective where they are
          have htag' : Json.lookup "type" (mapChildren normalMembers ms)
              = some (.string FilterKind.group.tag) := by
            rw [lookup_mapChildren_of_ne (by decide), htag]
          have hword' : Json.lookup "operation" (mapChildren normalMembers ms)
              = some (.string word) := by
            rw [lookup_mapChildren_of_ne (by decide), hword]
          constructor
          · rw [normal, mapNodes_of_group htag, toJson,
              ← groupMembers_eq_normal (ascending_mapChildren hms) htag' hword' hop hfilters]
            rfl
          · rw [received, hreceived]
  | .null, _, hform => absurd hform (not_objectForm rfl nofun)
  | .bool _, _, hform => absurd hform (not_objectForm rfl nofun)
  | .number _, _, hform => absurd hform (not_objectForm rfl nofun)
  | .string _, _, hform => absurd hform (not_objectForm rfl nofun)
  | .array _, _, hform => absurd hform (not_objectForm rfl nofun)

theorem writesNormal_children : ∀ ms : List (String × Json), Json.CanonicalMembers ms →
    (∀ node ∈ childNodes ms, ObjectNode node) → ∀ filters, decodeChildren ms = .ok filters →
      (Json.lookup "filters" (mapChildren normalMembers ms)).getD (.array [])
          = .array (toJsons filters)
        ∧ receivedAll filters = filters
  | [], _, _ => by
      rintro filters ⟨⟩
      exact ⟨rfl, rfl⟩
  | (k, v) :: rest, hcanonical, hform => by
      intro filters h
      rw [mapChildren, Json.lookup]
      rw [decodeChildren] at h
      rw [childNodes] at hform
      by_cases hk : k = "filters"
      · rw [if_pos hk] at h hform
        rw [if_pos hk, if_pos hk]
        exact writesNormal_filters v hcanonical.1 hform filters h
      · rw [if_neg hk] at h hform
        rw [if_neg hk]
        exact writesNormal_children rest hcanonical.2 hform filters h

theorem writesNormal_filters : ∀ v : Json, v.Canonical →
    (∀ node ∈ filterNodes v, ObjectNode node) → ∀ filters, decodeFilters v = .ok filters →
      mapFilters normalMembers v = .array (toJsons filters) ∧ receivedAll filters = filters
  | .array items, hcanonical, hform => by
      intro filters h
      obtain ⟨hitems, hreceived⟩ := writesNormal_items items hcanonical hform filters h
      exact ⟨congrArg Json.array hitems, hreceived⟩
  | .null, _, _ => nofun
  | .bool _, _, _ => nofun
  | .number _, _, _ => nofun
  | .string _, _, _ => nofun
  | .object _, _, _ => nofun

theorem writesNormal_items : ∀ items : List Json, Json.CanonicalItems items →
    (∀ node ∈ itemNodes items, ObjectNode node) → ∀ filters, decodeItems items = .ok filters →
      mapItems normalMembers items = toJsons filters ∧ receivedAll filters = filters
  | [], _, _ => by
      rintro filters ⟨⟩
      exact ⟨rfl, rfl⟩
  | v :: rest, hcanonical, hform => by
      intro filters h
      obtain ⟨f, hf, h⟩ := Except.bind_eq_ok_iff.mp h
      obtain ⟨fs, hfs, h⟩ := Except.bind_eq_ok_iff.mp h
      cases h
      have hfirst : ObjectForm v := fun node hnode => hform node (List.mem_append_left _ hnode)
      have hrest : ∀ node ∈ itemNodes rest, ObjectNode node :=
        fun node hnode => hform node (List.mem_append_right _ hnode)
      obtain ⟨hjson, hreceived⟩ := writesNormal .child v hcanonical.1 hfirst f hf
      obtain ⟨hjsons, hreceivedAll⟩ := writesNormal_items rest hcanonical.2 hrest fs hfs
      constructor
      · rw [mapItems, toJsons, hjson, hjsons]
        rfl
      · rw [receivedAll, hreceived, hreceivedAll]

end

/-! ## Writing after reading -/

/-- **Writing undoes reading up to the normal form.** Unknown members do not change how a literal is
read, not even with what fault.  A filter that was read from a literal in object form is written as
the normal form of that literal, and read from it again.  Literals are canonical: their objects have
ascending names. -/
theorem toJson_eq_normal_of_ofJson :
    (∀ literal other : Json, withoutUnknown other = withoutUnknown literal →
      ofJson other = ofJson literal)
    ∧ ∀ (literal : Json) (f : Filter), literal.Canonical → ObjectForm literal →
      ofJson literal = .ok f → f.toJson = normal literal ∧ ofJson (normal literal) = .ok f := by
  refine ⟨fun literal other h => ofJson_eq_of_withoutUnknown_eq h, ?_⟩
  intro literal f hcanonical hform h
  have hread : decodeAt .top literal = .ok f := (ofJson_eq_ok_iff.mp h).2
  obtain ⟨hjson, hreceived⟩ := writesNormal .top literal hcanonical hform f hread
  refine ⟨hjson, ?_⟩
  rw [← hjson, ofJson_toJson, hreceived]

/-- A leaf with a null option and a member that its kind does not have. -/
def wordyLeaf : Json :=
  .object [("contains", .null), ("fieldName", .string "name"), ("note", .bool true),
    ("type", .string "containsString")]

/-- A group without a list of children. -/
def wordyGroup : Json :=
  .object [("operation", .string "OR"), ("type", .string "logOp")]

/-- A group of both, with its connective in mixed case and one more unknown member. -/
def wordyLiteral : Json :=
  .object [("filters", .array [wordyLeaf, wordyGroup]), ("operation", .string "NanD"),
    ("type", .string "logOp"), ("version", .ofInt64 2)]

/-- The normal form of the literal drops three members, adds one and lowers two words. -/
theorem toJson_eq_normal_of_wordyLiteral :
    ofJson wordyLiteral = .ok (.group .nand [.leaf "name" (.containsString none), .group .or []])
      ∧ ofJson (withoutUnknown wordyLiteral)
        = .ok (.group .nand [.leaf "name" (.containsString none), .group .or []])
      ∧ normal wordyLiteral = .object [("filters", .array
          [.object [("fieldName", .string "name"), ("type", .string "containsString")],
           .object [("filters", .array []), ("operation", .string "or"),
            ("type", .string "logOp")]]),
        ("operation", .string "nand"), ("type", .string "logOp")]
      ∧ toJson (.group .nand [.leaf "name" (.containsString none), .group .or []])
        = normal wordyLiteral
      ∧ ofJson (normal wordyLiteral)
        = .ok (.group .nand [.leaf "name" (.containsString none), .group .or []]) := by
  have hread : ofJson wordyLiteral
      = .ok (.group .nand [.leaf "name" (.containsString none), .group .or []]) := rfl
  have hcanonical : wordyLiteral.Canonical := by
    simp only [wordyLiteral, wordyLeaf, wordyGroup, Json.Canonical, Json.CanonicalMembers,
      Json.CanonicalItems, Json.Ascending, Json.ofInt64]
    decide
  have hform : ObjectForm wordyLiteral := by
    intro node hnode
    have hnodes : node = wordyLiteral ∨ node = wordyLeaf ∨ node = wordyGroup := by
      simpa [wordyLiteral, wordyLeaf, wordyGroup, literalNodes, childNodes, filterNodes, itemNodes,
        Json.lookup, FilterKind.tag] using hnode
    rcases hnodes with rfl | rfl | rfl
    · exact ⟨_, "logOp", rfl, rfl, by decide⟩
    · exact ⟨_, "containsString", rfl, rfl, by decide⟩
    · exact ⟨_, "logOp", rfl, rfl, by decide⟩
  obtain ⟨hunknown, hnormal⟩ := toJson_eq_normal_of_ofJson
  refine ⟨hread, ?_, rfl, ?_⟩
  · rw [hunknown wordyLiteral (withoutUnknown wordyLiteral) rfl, hread]
  · exact hnormal _ _ hcanonical hform hread

end RecordQuery.Filter
