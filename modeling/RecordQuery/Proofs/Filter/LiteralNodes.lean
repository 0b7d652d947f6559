import RecordQuery.Proofs.Filter.LiteralRoundTrip

/-!
# RecordQuery.Proofs.Filter.LiteralNodes — the nodes of a filter literal and their members

The nodes of a literal are the literal itself and, below an object that is tagged as a group, the
items of its `filters`.  A node is read through look-up of the members that its kind has, so every
other member may be taken out of every node: `withoutUnknown` does, and neither the check for
unknown words nor the reader notices.  That holds of all literals, the ones with faults included.
-/

namespace RecordQuery.Filter

/-! ## Members by kind -/

/-- The names of the members that literals of a kind have, in ascending order. -/
def memberNames : FilterKind → List String
  | .test .boolean | .test .string => ["fieldName", "type", "value"]
  | .test .containsString => ["contains", "fieldName", "type"]
  | .test .dateRange | .test .doubleRange | .test .longRange | .test .stringRange =>
    ["fieldName", "max", "min", "type"]
  | .test .like => ["fieldName", "like", "type"]
  | .test .longEnum | .test .stringEnum => ["fieldName", "type", "values"]
  | .test .stringMap => ["fieldName", "key", "type", "value"]
  | .test .null => ["fieldName", "isNull", "type"]
  | .group => ["filters", "operation", "type"]

/-- The members that a kind has. -/
def knownMembers (kind : FilterKind) (ms : List (String × Json)) : List (String × Json) :=
  ms.filter fun m => m.1 ∈ memberNames kind

theorem type_mem_memberNames (kind : FilterKind) : "type" ∈ memberNames kind := by
  cases kind with
  | group => decide
  | test kind => cases kind <;> decide

theorem lookup_knownMembers {kind : FilterKind} {name : String} (h : name ∈ memberNames kind)
    (ms : List (String × Json)) :
    Json.lookup name (knownMembers kind ms) = Json.lookup name ms := by
  have hkeep := Json.lookup_filter_name (fun name => decide (name ∈ memberNames kind)) name ms
  rwa [if_pos (decide_eq_true h)] at hkeep

theorem lookup_knownMembers_of_notMem {kind : FilterKind} {name : String}
    (h : name ∉ memberNames kind) (ms : List (String × Json)) :
    Json.lookup name (knownMembers kind ms) = none := by
  have hkeep := Json.lookup_filter_name (fun name => decide (name ∈ memberNames kind)) name ms
  rwa [if_neg (by simpa using h)] at hkeep

/-! ## Nodes -/

section

variable (edit : FilterKind → List (String × Json) → List (String × Json))

mutual

/-- Changes the members of the nodes of a literal that are objects with a known tag, those of inner
nodes first. -/
def mapNodes : Json → Json
  | .object members =>
    match Json.lookup "type" members with
    | some (.string tag) =>
      match FilterKind.ofTag? tag with
      | some .group => .object (edit .group (mapChildren members))
      | some (.test kind) => .object (edit (.test kind) members)
      | none => .object members
    | _ => .object members
  | v => v

/-- Changes the nodes among the children of a group. -/
def mapChildren : List (String × Json) → List (String × Json)
  | [] => []
  | (k, v) :: rest => (k, if k = "filters" then mapFilters v else v) :: mapChildren rest

/-- Changes the nodes of the literals in an array. -/
def mapFilters : Json → Json
  | .array items => .array (mapItems items)
  | v => v

/-- Changes the nodes of several literals. -/
def mapItems : List Json → List Json
  | [] => []
  | v :: rest => mapNodes v :: mapItems rest

end

variable {edit}

/-- Changing the nodes among the children changes the member that holds them. -/
theorem mapChildren_eq_map (ms : List (String × Json)) :
    mapChildren edit ms
      = ms.map fun m => (m.1, if m.1 = "filters" then mapFilters edit m.2 else m.2) := by
  induction ms with
  | nil => rfl
  | cons m rest ih =>
      obtain ⟨k, v⟩ := m
      rw [mapChildren, ih, List.map_cons]

theorem lookup_mapChildren (name : String) (ms : List (String × Json)) :
    Json.lookup name (mapChildren edit ms)
      = (Json.lookup name ms).map fun v => if name = "filters" then mapFilters edit v else v := by
  rw [mapChildren_eq_map]
  exact Json.lookup_map_value (fun k v => if k = "filters" then mapFilters edit v else v) name ms

theorem lookup_mapChildren_of_ne {name : String} (h : name ≠ "filters")
    (ms : List (String × Json)) :
    Json.lookup name (mapChildren edit ms) = Json.lookup name ms := by
  rw [lookup_mapChildren]
  simp only [if_neg h, Option.map_id']

theorem ascending_mapChildren {ms : List (String × Json)} (h : Json.Ascending ms) :
    Json.Ascending (mapChildren edit ms) := by
  rw [mapChildren_eq_map]
  exact Json.ascending_map_value h fun k v => if k = "filters" then mapFilters edit v else v

theorem mapNodes_of_group {ms : List (String × Json)}
    (h : Json.lookup "type" ms = some (.string FilterKind.group.tag)) :
    mapNodes edit (.object ms) = .object (edit .group (mapChildren edit ms)) := by
  rw [mapNodes, h]
  simp only [FilterKind.ofTag?_tag]

theorem mapNodes_of_test {ms : List (String × Json)} {kind : TestKind}
    (h : Json.lookup "type" ms = some (.string (FilterKind.test kind).tag)) :
    mapNodes edit (.object ms) = .object (edit (.test kind) ms) := by
  rw [mapNodes, h]
  simp only [FilterKind.ofTag?_tag]

/-- An object that is no node with a known tag is left alone. -/
theorem mapNodes_of_no_kind {ms : List (String × Json)}
    (h : ∀ kind : FilterKind, Json.lookup "type" ms ≠ some (.string kind.tag)) :
    mapNodes edit (.object ms) = .object ms := by
  rw [mapNodes]
  split
  · next tag htag =>
      have hnone : FilterKind.ofTag? tag = none := by
        cases hkind : FilterKind.ofTag? tag with
        | none => rfl
        | some kind => exact absurd (FilterKind.tag_of_ofTag? hkind ▸ htag) (h kind)
      rw [hnone]
  · rfl

end

/-- A literal without the members that the kinds of its nodes do not have. -/
def withoutUnknown : Json → Json :=
  mapNodes knownMembers

/-! ## Nodes are read through look-up -/

section

variable {ms ns : List (String × Json)}

theorem decodeLeaf_congr {α : Type} {part : Slot α} (record : String) (test : α → Test)
    (hfield : Json.lookup "fieldName" ms = Json.lookup "fieldName" ns)
    (hpart : Json.lookup part.name ms = Json.lookup part.name ns) :
    decodeLeaf record part test (.members ms) = decodeLeaf record part test (.members ns) := by
  have hfind : fieldSlot.find ms = fieldSlot.find ns := Slot.find_congr hfield
  rw [decodeLeaf, decodeLeaf, Payload.pair_congr record hfind (Slot.find_congr hpart)]

theorem decodeRange_congr {α : Type} (bound : Decoder α) (test : Option α → Option α → Test)
    (hfield : Json.lookup "fieldName" ms = Json.lookup "fieldName" ns)
    (hmax : Json.lookup "max" ms = Json.lookup "max" ns)
    (hmin : Json.lookup "min" ms = Json.lookup "min" ns) :
    decodeRange bound test (.members ms) = decodeRange bound test (.members ns) := by
  have hfind : fieldSlot.find ms = fieldSlot.find ns := Slot.find_congr hfield
  have hlower : (Slot.optional "min" bound).find ms = (Slot.optional "min" bound).find ns :=
    Slot.find_congr hmin
  have hupper : (Slot.optional "max" bound).find ms = (Slot.optional "max" bound).find ns :=
    Slot.find_congr hmax
  rw [decodeRange, decodeRange, Payload.triple_congr _ hfind hlower hupper]

/-- A test is read from the members that its kind has. -/
theorem decodeTest_congr {kind : TestKind}
    (h : ∀ name ∈ memberNames (.test kind), Json.lookup name ms = Json.lookup name ns) :
    decodeTest kind (.members ms) = decodeTest kind (.members ns) := by
  have hfield : Json.lookup "fieldName" ms = Json.lookup "fieldName" ns :=
    h "fieldName" (by cases kind <;> decide)
  cases kind with
  | boolean => exact decodeLeaf_congr _ _ hfield (h "value" (by decide))
  | containsString => exact decodeLeaf_congr _ _ hfield (h "contains" (by decide))
  | dateRange => exact decodeRange_congr _ _ hfield (h "max" (by decide)) (h "min" (by decide))
  | doubleRange => exact decodeRange_congr _ _ hfield (h "max" (by decide)) (h "min" (by decide))
  | like => exact decodeLeaf_congr _ _ hfield (h "like" (by decide))
  | longEnum => exact decodeLeaf_congr _ _ hfield (h "values" (by decide))
  | longRange => exact decodeRange_congr _ _ hfield (h "max" (by decide)) (h "min" (by decide))
  | stringEnum => exact decodeLeaf_congr _ _ hfield (h "values" (by decide))
  | string => exact decodeLeaf_congr _ _ hfield (h "value" (by decide))
  | stringMap =>
      have hfind : fieldSlot.find ms = fieldSlot.find ns := Slot.find_congr hfield
      have hkey : (Slot.optional "key" Decoder.string).find ms
          = (Slot.optional "key" Decoder.string).find ns :=
        Slot.find_congr (h "key" (by decide))
      have hvalue : (Slot.optional "value" Decoder.string).find ms
          = (Slot.optional "value" Decoder.string).find ns :=
        Slot.find_congr (h "value" (by decide))
      have hparts := Payload.triple_congr "StringMapFilter" hfind hkey hvalue
      rw [decodeTest]
      show (Payload.triple "StringMapFilter" _ _ _ (.members ms)).map _ = _
      rw [hparts]
  | stringRange => exact decodeRange_congr _ _ hfield (h "max" (by decide)) (h "min" (by decide))
  | null => exact decodeLeaf_congr _ _ hfield (h "isNull" (by decide))

/-- The children of a group are read from its member named `filters`. -/
theorem decodeChildren_eq_elim (ms : List (String × Json)) :
    decodeChildren ms = (Json.lookup "filters" ms).elim (.ok []) decodeFilters := by
  induction ms with
  | nil => rfl
  | cons m rest ih =>
      obtain ⟨k, v⟩ := m
      rw [decodeChildren, Json.lookup, ih]
      split
      · rfl
      · rfl

/-- The first unknown word in the array of the children of a group. -/
def filtersFault? : Json → Option QueryError
  | .array items => itemsFault? items
  | _ => none

theorem childrenFault?_eq_bind (ms : List (String × Json)) :
    childrenFault? ms = (Json.lookup "filters" ms).bind filtersFault? := by
  induction ms with
  | nil => rfl
  | cons m rest ih =>
      obtain ⟨k, v⟩ := m
      unfold childrenFault?
      rw [Json.lookup, ih]
      split
      · cases v <;> rfl
      · rfl

end

/-! ## Unknown members do not matter -/

/-- Two literals that are read alike, with the same fault if with any. -/
structure Alike (v w : Json) : Prop where
  reading : ∀ place, decodeAt place v = decodeAt place w
  words : wordFault? v = wordFault? w

theorem Alike.refl (v : Json) : Alike v v :=
  ⟨fun _ => rfl, rfl⟩

theorem Alike.ofJson_eq {v w : Json} (h : Alike v w) : ofJson v = ofJson w := by
  unfold ofJson decode
  rw [h.words, h.reading]

section

variable {ms ns : List (String × Json)}

/-- Objects with the tag of a test are read alike when they have the same members of that kind. -/
theorem alike_of_test {kind : TestKind}
    (htag : Json.lookup "type" ms = some (.string (FilterKind.test kind).tag))
    (h : ∀ name ∈ memberNames (.test kind), Json.lookup name ns = Json.lookup name ms) :
    Alike (.object ns) (.object ms) := by
  have htag' := (h "type" (type_mem_memberNames _)).trans htag
  constructor
  · intro place
    rw [decodeAt_of_test htag, decodeAt_of_test htag', decodeTest_congr h]
  · rw [wordFault?_of_test htag, wordFault?_of_test htag']

/-- Objects with the tag of a group are read alike when they have the same connective and children
that are. -/
theorem alike_of_group (htag : Json.lookup "type" ms = some (.string FilterKind.group.tag))
    (htag' : Json.lookup "type" ns = some (.string FilterKind.group.tag))
    (hop : Json.lookup "operation" ns = Json.lookup "operation" ms)
    (hchildren : decodeChildren ns = decodeChildren ms)
    (hfault : childrenFault? ns = childrenFault? ms) : Alike (.object ns) (.object ms) := by
  have hfind : operationSlot.find ns = operationSlot.find ms := Slot.find_congr hop
  constructor
  · intro place
    rw [decodeAt_of_group htag, decodeAt_of_group htag', hchildren, hfind]
  · have hword : operationFault? ns = operationFault? ms := by
      rw [operationFault?, operationFault?, hop]
    rw [wordFault?_of_group htag, wordFault?_of_group htag', hword, hfault]

end

mutual

/-- Taking out unknown members changes no reading. -/
theorem alike_withoutUnknown : ∀ literal : Json, Alike (withoutUnknown literal) literal
  | .object ms => by
      by_cases h : ∃ kind : FilterKind, Json.lookup "type" ms = some (.string kind.tag)
      · obtain ⟨kind, htag⟩ := h
        cases kind with
        | test kind =>
            rw [withoutUnknown, mapNodes_of_test htag]
            exact alike_of_test htag fun name hname => lookup_knownMembers hname ms
        | group =>
            -- the three members of a group stand where they stood, its children without unknowns
            have hlookup : ∀ name ∈ memberNames .group,
                Json.lookup name (knownMembers .group (mapChildren knownMembers ms))
                  = Json.lookup name (mapChildren knownMembers ms) :=
              fun name hname => lookup_knownMembers hname _
            have hfilters := hlookup "filters" (by decide)
            have hop := (hlookup "operation" (by decide)).trans
              (lookup_mapChildren_of_ne (by decide) ms)
            have htag' := (hlookup "type" (by decide)).trans
              (lookup_mapChildren_of_ne (by decide) ms)
            obtain ⟨hchildren, hfault⟩ := alike_mapChildren ms
            rw [withoutUnknown, mapNodes_of_group htag]
            refine alike_of_group htag (htag'.trans htag) hop ?_ ?_
            · rw [← hchildren, decodeChildren_eq_elim, decodeChildren_eq_elim, hfilters]
            · rw [← hfault, childrenFault?_eq_bind, childrenFault?_eq_bind, hfilters]
      · rw [withoutUnknown, mapNodes_of_no_kind fun kind htag => h ⟨kind, htag⟩]
        exact .refl _
  | .null => .refl _
  | .bool _ => .refl _
  | .number _ => .refl _
  | .string _ => .refl _
  | .array _ => .refl _

theorem alike_mapChildren : ∀ ms : List (String × Json),
    decodeChildren (mapChildren knownMembers ms) = decodeChildren ms
      ∧ childrenFault? (mapChildren knownMembers ms) = childrenFault? ms
  | [] => ⟨rfl, rfl⟩
  | (k, v) :: rest => by
      rw [childrenFault?_eq_bind, childrenFault?_eq_bind, mapChildren, decodeChildren,
        decodeChildren, Json.lookup, Json.lookup]
      by_cases hk : k = "filters"
      · simp only [if_pos hk]
        exact alike_mapFilters v
      · simp only [if_neg hk, ← childrenFault?_eq_bind]
        exact alike_mapChildren rest

theorem alike_mapFilters : ∀ v : Json,
    decodeFilters (mapFilters knownMembers v) = decodeFilters v
      ∧ filtersFault? (mapFilters knownMembers v) = filtersFault? v
  | .array items => alike_mapItems items
  | .null => ⟨rfl, rfl⟩
  | .bool _ => ⟨rfl, rfl⟩
  | .number _ => ⟨rfl, rfl⟩
  | .string _ => ⟨rfl, rfl⟩
  | .object _ => ⟨rfl, rfl⟩

theorem alike_mapItems : ∀ items : List Json,
    decodeItems (mapItems knownMembers items) = decodeItems items
      ∧ itemsFault? (mapItems knownMembers items) = itemsFault? items
  | [] => ⟨rfl, rfl⟩
  | v :: rest => by
      have hfirst : Alike (mapNodes knownMembers v) v := alike_withoutUnknown v
      obtain ⟨hitems, hfault⟩ := alike_mapItems rest
      constructor
      · rw [mapItems, decodeItems, decodeItems, hfirst.reading, hitems]
      · rw [mapItems, itemsFault?, itemsFault?, hfirst.words, hfault]

end

/-- Literals that differ in unknown members only have the same outcome. -/
theorem ofJson_eq_of_withoutUnknown_eq {literal other : Json}
    (h : withoutUnknown other = withoutUnknown literal) : ofJson other = ofJson literal := by
  rw [← (alike_withoutUnknown other).ofJson_eq, h, (alike_withoutUnknown literal).ofJson_eq]

end RecordQuery.Filter
