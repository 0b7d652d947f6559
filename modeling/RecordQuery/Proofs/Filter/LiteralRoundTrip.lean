import RecordQuery.Filter.Literal
import RecordQuery.Proofs.Decode

/-!
# RecordQuery.Proofs.Filter.LiteralRoundTrip — filter literals read back

The literal of a filter holds no unknown word and reads as the filter, bound for bound, with one
exception: a bound that is no finite double is written as null, and null reads as no bound.
`Filter.received` is what arrives.
-/

namespace RecordQuery

/-! ## What arrives -/

/-- What a literal keeps of a double. -/
def Double.kept? : Double → Option Double
  | .finite x => some (.finite x)
  | _ => none

/-- The test that the literal of a test is read as. -/
def Test.received : Test → Test
  | .doubleRange min max => .doubleRange (min.bind Double.kept?) (max.bind Double.kept?)
  | test => test

/-- Whether a double is finite. -/
def Double.isFinite : Double → Bool
  | .finite _ => true
  | _ => false

/-- Whether all bounds that are doubles are finite. -/
def Test.boundsFinite : Test → Bool
  | doubleRange min max => min.all Double.isFinite && max.all Double.isFinite
  | _ => true

theorem Double.bind_kept? {bound : Option Double} (h : bound.all Double.isFinite = true) :
    bound.bind Double.kept? = bound := by
  cases bound with
  | none => rfl
  | some x =>
      cases x with
      | finite y => rfl
      | infinite negative => cases h
      | nan => cases h

/-- A bound that is not finite is a null, and nothing of it arrives. -/
theorem Double.null_of_not_finite {bound : Option Double} (h : bound.all Double.isFinite = false) :
    bound.map Json.ofDouble = some .null ∧ bound.bind Double.kept? = none := by
  cases bound with
  | none => cases h
  | some x =>
      cases x with
      | finite y => cases h
      | infinite negative => exact ⟨rfl, rfl⟩
      | nan => exact ⟨rfl, rfl⟩

/-- A test with finite bounds arrives unchanged from its literal. -/
theorem Test.received_of_boundsFinite {test : Test} (h : test.boundsFinite = true) :
    test.received = test := by
  cases test with
  | doubleRange min max =>
      obtain ⟨hmin, hmax⟩ := Bool.and_eq_true_iff.mp h
      rw [received, Double.bind_kept? hmin, Double.bind_kept? hmax]
  | _ => rfl

namespace Filter

mutual

/-- The filter that the literal of a filter is read as. -/
def received : Filter → Filter
  | leaf field test => leaf field test.received
  | group op filters => group op (receivedAll filters)

/-- The filters that the literals of several filters are read as. -/
def receivedAll : List Filter → List Filter
  | [] => []
  | f :: rest => received f :: receivedAll rest

end

/-! ## Tags -/

theorem decodeKind_tag (place : Place) (kind : FilterKind) :
    decodeKind place (.string kind.tag) = .ok kind := by
  rw [decodeKind, FilterKind.ofTag?_tag]

/-- An object with the tag of a test is read as that test. -/
theorem decodeAt_of_test {ms : List (String × Json)} {kind : TestKind}
    (h : Json.lookup "type" ms = some (.string (FilterKind.test kind).tag)) (place : Place) :
    decodeAt place (.object ms) = decodeTest kind (.members ms) := by
  rw [decodeAt, h]
  simp only [decodeKind_tag, Except.ok_bind]

/-- An object with the tag of a group is read as a group of its children. -/
theorem decodeAt_of_group {ms : List (String × Json)}
    (h : Json.lookup "type" ms = some (.string FilterKind.group.tag)) (place : Place) :
    decodeAt place (.object ms) = (do
      let filters ← decodeChildren ms
      let op ← operationSlot.find ms
      let op ← operationSlot.settle op
      return group op filters) := by
  rw [decodeAt, h]
  simp only [decodeKind_tag, Except.ok_bind]

/-- The tag of a test is no unknown word. -/
theorem wordFault?_of_test {ms : List (String × Json)} {kind : TestKind}
    (h : Json.lookup "type" ms = some (.string (FilterKind.test kind).tag)) :
    wordFault? (.object ms) = none := by
  rw [wordFault?, h]
  simp only [FilterKind.ofTag?_tag]

/-- The tag of a group is no unknown word, but its connective and its children may hold one. -/
theorem wordFault?_of_group {ms : List (String × Json)}
    (h : Json.lookup "type" ms = some (.string FilterKind.group.tag)) :
    wordFault? (.object ms) = (operationFault? ms).or (childrenFault? ms) := by
  rw [wordFault?, h]
  simp only [FilterKind.ofTag?_tag]
  cases operationFault? ms with
  | none => rfl
  | some error => rfl

/-! ## Leaves -/

section Leaves

variable {ms : List (String × Json)} {field : String}

theorem fieldSlot_finds (hfield : Json.lookup "fieldName" ms = some (.string field)) :
    fieldSlot.Finds ms field :=
  Slot.finds_required hfield rfl

/-- A leaf with one more part is read from its field and that part. -/
theorem decodeLeaf_members {α : Type} {part : Slot α} {x : α} (record : String) (test : α → Test)
    (hfield : Json.lookup "fieldName" ms = some (.string field)) (hpart : part.Finds ms x) :
    decodeLeaf record part test (.members ms) = .ok (leaf field (test x)) := by
  rw [decodeLeaf, Payload.pair_members_eq_ok_iff.mpr ⟨fieldSlot_finds hfield, hpart⟩]
  rfl

/-- A range is read from its field and its bounds. -/
theorem decodeRange_members {α : Type} {bound : Decoder α} {min max : Option α}
    (test : Option α → Option α → Test)
    (hfield : Json.lookup "fieldName" ms = some (.string field))
    (hmin : (Slot.optional "min" bound).Finds ms min)
    (hmax : (Slot.optional "max" bound).Finds ms max) :
    decodeRange bound test (.members ms) = .ok (leaf field (test min max)) := by
  rw [decodeRange, Payload.triple_members_eq_ok_iff.mpr ⟨fieldSlot_finds hfield, hmin, hmax⟩]
  rfl

/-- An entry test is read from its field, its key and its value. -/
theorem decodeTest_stringMap_members {key value : Option String}
    (hfield : Json.lookup "fieldName" ms = some (.string field))
    (hkey : (Slot.optional "key" Decoder.string).Finds ms key)
    (hvalue : (Slot.optional "value" Decoder.string).Finds ms value) :
    decodeTest .stringMap (.members ms) = .ok (leaf field (.stringMap key value)) := by
  rw [decodeTest]
  show (Payload.triple "StringMapFilter" fieldSlot _ _ (.members ms)).map _ = _
  rw [Payload.triple_members_eq_ok_iff.mpr ⟨fieldSlot_finds hfield, hkey, hvalue⟩]
  rfl

theorem optional_string (s : String) :
    Decoder.optional Decoder.string (.string s) = .ok (some s) := rfl

theorem optional_int64 (n : Int64) : Decoder.optional Decoder.int64 (.ofInt64 n) = .ok (some n) := by
  show (Decoder.int64 (.ofInt64 n)).map some = _
  rw [Decoder.int64_ofInt64]
  rfl

theorem optional_double (x : Double) :
    Decoder.optional Decoder.double (.ofDouble x) = .ok x.kept? := by
  cases x with
  | finite x => rfl
  | infinite negative => rfl
  | nan => rfl

/-- A literal is read as a leaf: it is an object with the tag of a kind, whose other members are
the parts. -/
def ReadsAs (literal : Json) (kind : TestKind) (f : Filter) : Prop :=
  ∃ ms, literal = .object ms ∧
    Json.lookup "type" ms = some (.string (FilterKind.test kind).tag) ∧
    decodeTest kind (.members ms) = .ok f

/-- The literal of a range is read as the range of what its bounds read as. -/
theorem readsAs_rangeJson {α β : Type} {kind : TestKind} {bound : Decoder α} {write : β → Json}
    {back : β → Option α} {test : Option α → Option α → Test} (field : String)
    (min max : Option β) (hkind : decodeTest kind = decodeRange bound test)
    (hread : ∀ b, Decoder.optional bound (write b) = .ok (back b)) :
    ReadsAs (rangeJson kind field (min.map write) (max.map write)) kind
      (leaf field (test (min.bind back) (max.bind back))) := by
  refine ⟨_, rfl, by simp [Json.lookup], ?_⟩
  rw [hkind]
  exact decodeRange_members test (by simp [Json.lookup])
    (Slot.finds_optional (by simp [Json.lookup]) hread)
    (Slot.finds_optional (by simp [Json.lookup]) hread)

/-- Bounds that read back as they were written give the same range. -/
theorem readsAs_rangeJson_written {α : Type} {kind : TestKind} {bound : Decoder α}
    {write : α → Json} {test : Option α → Option α → Test} (field : String) (min max : Option α)
    (hkind : decodeTest kind = decodeRange bound test)
    (hread : ∀ x, Decoder.optional bound (write x) = .ok (some x)) :
    ReadsAs (rangeJson kind field (min.map write) (max.map write)) kind
      (leaf field (test min max)) := by
  have hreads := readsAs_rangeJson field min max hkind hread
  rwa [Option.bind_fun_some, Option.bind_fun_some] at hreads

/-- The literal of an enumeration is read as the enumeration of its values. -/
theorem readsAs_enumJson {α : Type} {kind : TestKind} {item : Decoder α} {write : α → Json}
    {test : Option (List α) → Test} (field : String) (values : Option (List α))
    (hkind : decodeTest kind
      = decodeLeaf "EnumFilter" (.optional "values" (Decoder.list item)) test)
    (hread : ∀ x, item (write x) = .ok x) :
    ReadsAs (enumJson kind field (values.map (·.map write))) kind (leaf field (test values)) := by
  refine ⟨_, rfl, by simp [Json.lookup], ?_⟩
  rw [hkind, Option.map_map]
  refine decodeLeaf_members "EnumFilter" test (by simp [Json.lookup])
    (Slot.finds_written ?_ (Decoder.optional_list hread))
  simp only [Json.lookup_append, Json.lookup, Json.lookup_optionalMember]
  rfl

/-- **The literal of a leaf is read as the leaf**, but for bounds that are no finite doubles. -/
theorem readsAs_testJson (field : String) (test : Test) :
    ReadsAs (testJson field test) test.kind (leaf field test.received) := by
  cases test with
  | boolean value =>
      exact ⟨_, rfl, rfl, decodeLeaf_members "BooleanFilter" .boolean rfl
        (Slot.finds_required rfl rfl)⟩
  | containsString needle =>
      refine ⟨_, rfl, by simp [Json.lookup, Test.kind], ?_⟩
      exact decodeLeaf_members "ContainsStringFilter" .containsString (by simp [Json.lookup])
        (Slot.finds_written (by simp [Json.lookup]) optional_string)
  | dateRange min max => exact readsAs_rangeJson_written field min max rfl optional_string
  | doubleRange min max => exact readsAs_rangeJson field min max rfl optional_double
  | like pattern =>
      refine ⟨_, rfl, by simp [Json.lookup, Test.kind], ?_⟩
      exact decodeLeaf_members "LikeFilter" .like (by simp [Json.lookup])
        (Slot.finds_written (by simp [Json.lookup]) optional_string)
  | longEnum values => exact readsAs_enumJson field values rfl Decoder.int64_ofInt64
  | longRange min max => exact readsAs_rangeJson_written field min max rfl optional_int64
  | stringEnum values => exact readsAs_enumJson field values rfl fun _ => rfl
  | string value =>
      refine ⟨_, rfl, by simp [Json.lookup, Test.kind], ?_⟩
      exact decodeLeaf_members "StringFilter" .string (by simp [Json.lookup])
        (Slot.finds_written (by simp [Json.lookup]) optional_string)
  | stringMap key value =>
      refine ⟨_, rfl, by simp [Json.lookup, Test.kind], ?_⟩
      exact decodeTest_stringMap_members (by simp [Json.lookup])
        (Slot.finds_written (by simp [Json.lookup]) optional_string)
        (Slot.finds_written (by simp [Json.lookup]) optional_string)
  | stringRange min max => exact readsAs_rangeJson_written field min max rfl optional_string
  | null isNull =>
      exact ⟨_, rfl, rfl, decodeLeaf_members "NullFilter" .null rfl (Slot.finds_required rfl rfl)⟩

end Leaves

/-! ## Trees -/

theorem decodeConnective_name (op : Connective) :
    decodeConnective (.string op.name) = .ok op := by
  simp only [decodeConnective, Decoder.string, Connective.ofName?_name]

/-- The members of the literal of a group. -/
def groupMembers (op : Connective) (literals : List Json) : List (String × Json) :=
  [("filters", .array literals), ("operation", .string op.name), ("type", .string "logOp")]

theorem lookup_type_groupMembers (op : Connective) (literals : List Json) :
    Json.lookup "type" (groupMembers op literals) = some (.string FilterKind.group.tag) := by
  simp [groupMembers, Json.lookup, FilterKind.tag]

theorem lookup_operation_groupMembers (op : Connective) (literals : List Json) :
    Json.lookup "operation" (groupMembers op literals) = some (.string op.name) := by
  simp [groupMembers, Json.lookup]

/-- The literal of a group is read from the literals of its parts. -/
theorem decodeAt_groupMembers {op : Connective} {literals : List Json} {filters : List Filter}
    (h : decodeItems literals = .ok filters) (place : Place) :
    decodeAt place (.object (groupMembers op literals)) = .ok (group op filters) := by
  have hchildren : decodeChildren (groupMembers op literals) = .ok filters := by
    rw [groupMembers, decodeChildren, if_pos rfl, decodeFilters, h]
  have hop : operationSlot.Finds (groupMembers op literals) op :=
    Slot.finds_required (lookup_operation_groupMembers op literals) (decodeConnective_name op)
  obtain ⟨found, hfind, hsettle⟩ := hop
  rw [decodeAt_of_group (lookup_type_groupMembers op literals), hchildren, Except.ok_bind, hfind,
    Except.ok_bind, hsettle]
  rfl

/-- The literal of a group holds no unknown word but those of its parts. -/
theorem wordFault?_groupMembers {op : Connective} {literals : List Json}
    (h : itemsFault? literals = none) : wordFault? (.object (groupMembers op literals)) = none := by
  have hoperation : operationFault? (groupMembers op literals) = none := by
    rw [operationFault?, lookup_operation_groupMembers]
    simp only [Connective.ofName?_name]
  have hchildren : childrenFault? (groupMembers op literals) = none := by
    rw [groupMembers, childrenFault?, if_pos rfl]
    exact h
  rw [wordFault?_of_group (lookup_type_groupMembers op literals), hoperation, hchildren]
  rfl

mutual

/-- **The literal of a filter is read as the filter**, but for bounds that are no finite doubles. -/
theorem decodeAt_toJson (place : Place) (f : Filter) :
    decodeAt place f.toJson = .ok f.received := by
  match f with
  | leaf field test =>
      obtain ⟨ms, heq, htag, hread⟩ := readsAs_testJson field test
      rw [toJson, heq, decodeAt_of_test htag, hread]
      rfl
  | group op filters =>
      rw [received, toJson]
      exact decodeAt_groupMembers (decodeItems_toJsons filters) place

theorem decodeItems_toJsons (filters : List Filter) :
    decodeItems (toJsons filters) = .ok (receivedAll filters) := by
  match filters with
  | [] => rfl
  | f :: rest =>
      rw [toJsons, decodeItems, decodeAt_toJson .child f, decodeItems_toJsons rest]
      rfl

end

mutual

/-- The literal of a filter holds no unknown word. -/
theorem wordFault?_toJson (f : Filter) : wordFault? f.toJson = none := by
  match f with
  | leaf field test =>
      obtain ⟨ms, heq, htag, -⟩ := readsAs_testJson field test
      rw [toJson, heq, wordFault?_of_test htag]
  | group op filters =>
      rw [toJson]
      exact wordFault?_groupMembers (itemsFault?_toJsons filters)

theorem itemsFault?_toJsons (filters : List Filter) : itemsFault? (toJsons filters) = none := by
  match filters with
  | [] => rfl
  | f :: rest =>
      rw [toJsons, itemsFault?, wordFault?_toJson f]
      exact itemsFault?_toJsons rest

end

mutual

/-- A filter arrives unchanged when all its leaves do. -/
theorem received_eq_self (f : Filter) (h : ∀ leaf ∈ f.leaves, leaf.2.received = leaf.2) :
    f.received = f := by
  match f with
  | leaf field test =>
      have htest : test.received = test := h (field, test) List.mem_cons_self
      rw [received, htest]
  | group op filters => rw [received, receivedAll_eq_self filters h]

theorem receivedAll_eq_self (filters : List Filter)
    (h : ∀ leaf ∈ leavesOf filters, leaf.2.received = leaf.2) : receivedAll filters = filters := by
  match filters with
  | [] => rfl
  | f :: rest =>
      rw [receivedAll, received_eq_self f fun leaf hleaf => h leaf (List.mem_append_left _ hleaf),
        receivedAll_eq_self rest fun leaf hleaf => h leaf (List.mem_append_right _ hleaf)]

end

/-- The literal of a filter is an object. -/
theorem exists_toJson_eq_object (f : Filter) : ∃ ms, f.toJson = .object ms := by
  cases f with
  | leaf field test =>
      obtain ⟨ms, heq, -⟩ := readsAs_testJson field test
      exact ⟨ms, heq⟩
  | group op filters => exact ⟨_, rfl⟩

/-- A filter was read from a literal that holds no unknown word and has its form. -/
theorem ofJson_eq_ok_iff {literal : Json} {f : Filter} :
    ofJson literal = .ok f ↔ wordFault? literal = none ∧ decodeAt .top literal = .ok f := by
  unfold ofJson
  cases wordFault? literal with
  | none =>
      show (decode literal).mapError _ = .ok f ↔ none = none ∧ decode literal = .ok f
      rw [Except.mapError_eq_ok_iff, eq_self, true_and]
  | some error => exact ⟨nofun, nofun⟩

/-- A filter arrives from its literal. -/
theorem ofJson_toJson (f : Filter) : ofJson f.toJson = .ok f.received :=
  ofJson_eq_ok_iff.mpr ⟨wordFault?_toJson f, decodeAt_toJson .top f⟩

end Filter

end RecordQuery
