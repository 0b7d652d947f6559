import RecordQuery.Proofs.Filter.LiteralRoundTrip
import RecordQuery.Proofs.Sort.FieldText
import RecordQuery.Window.Literal

/-!
# RecordQuery.Proofs.Window.LiteralRoundTrip — window literals read back

A window literal is read part by part, and the parts do not meddle with each other: the literal of a
window reads back exactly when each of its five parts does.  Bounds, filters and field selections
always do, as long as all double bounds are finite.  Sort fields do when they are writable: their
shortest encoding is a text that is trimmed and loses a sign when it is read.
-/

namespace RecordQuery

namespace Window

/-! ## The parts of a literal -/

/-- What the literal of a window holds under the name of each part. -/
structure Holds (w : Window) (ms : List (String × Json)) : Prop where
  fields : Json.lookup "fields" ms
    = if w.fields.isEmpty then none else some (.array (w.fields.map .string))
  filter : Json.lookup "filter" ms = w.filter.map Filter.toJson
  limit : Json.lookup "limit" ms = w.limit.map Json.ofUInt64
  offset : Json.lookup "offset" ms = if w.offset = 0 then none else some (Json.ofUInt64 w.offset)
  sortOrder : Json.lookup "sortOrder" ms
    = if w.sortOrder.isEmpty then none else some w.sortOrder.toJson

/-- The literal of a window is an object of its parts. -/
theorem exists_holds (w : Window) : ∃ ms, w.toJson = .object ms ∧ w.Holds ms := by
  refine ⟨_, rfl, ?_⟩
  constructor
  · simp
  · simp
  · simp
  · simp
  · simp

/-- A window is read from an object when each of its parts is. -/
theorem decode_object_eq_ok_iff {w : Window} {ms : List (String × Json)} :
    decode (.object ms) = .ok w ↔ limitSlot.Finds ms w.limit ∧ offsetSlot.Finds ms w.offset
      ∧ filterSlot.Finds ms w.filter ∧ sortOrderSlot.Finds ms w.sortOrder
      ∧ fieldsSlot.Finds ms w.fields := by
  rw [decode]
  simp only [Except.bind_eq_ok_iff]
  -- all parts are looked for before the first one is settled; each is paired with its own
  constructor
  · rintro ⟨fields, hfields, filter, hfilter, limit, hlimit, offset, hoffset, sortOrder, hsortOrder,
      _, hlimit', _, hoffset', _, hfilter', _, hsortOrder', _, hfields', heq⟩
    cases heq
    exact ⟨⟨limit, hlimit, hlimit'⟩, ⟨offset, hoffset, hoffset'⟩, ⟨filter, hfilter, hfilter'⟩,
      ⟨sortOrder, hsortOrder, hsortOrder'⟩, fields, hfields, hfields'⟩
  · rintro ⟨⟨limit, hlimit, hlimit'⟩, ⟨offset, hoffset, hoffset'⟩, ⟨filter, hfilter, hfilter'⟩,
      ⟨sortOrder, hsortOrder, hsortOrder'⟩, fields, hfields, hfields'⟩
    exact ⟨fields, hfields, filter, hfilter, limit, hlimit, offset, hoffset, sortOrder, hsortOrder,
      _, hlimit', _, hoffset', _, hfilter', _, hsortOrder', _, hfields', rfl⟩

/-! ## Which parts read back -/

section

variable {w : Window} {ms : List (String × Json)}

theorem optional_uint64 (n : UInt64) :
    Decoder.optional Decoder.uint64 (.ofUInt64 n) = .ok (some n) := by
  show (Decoder.uint64 (.ofUInt64 n)).map some = _
  rw [Decoder.uint64_ofUInt64]
  rfl

theorem optional_filter (f : Filter) :
    Decoder.optional Filter.decode f.toJson = .ok (some f.received) := by
  have hread : Filter.decode f.toJson = .ok f.received := Filter.decodeAt_toJson .top f
  -- the literal of a filter is not null, which would be read as no filter
  obtain ⟨ms, heq⟩ := f.exists_toJson_eq_object
  rw [heq] at hread ⊢
  show (Filter.decode (.object ms)).map some = _
  rw [hread]
  rfl

theorem Holds.limit_finds (h : w.Holds ms) : limitSlot.Finds ms w.limit :=
  Slot.finds_written h.limit optional_uint64

theorem Holds.offset_finds (h : w.Holds ms) : offsetSlot.Finds ms w.offset := by
  apply (Slot.finds_defaulted_iff h.offset _).mpr (Or.inr (Decoder.uint64_ofUInt64 w.offset))
  intro hzero
  rw [hzero]
  rfl

theorem Holds.filter_finds (h : w.Holds ms)
    (hfinite : ∀ f ∈ w.filter, ∀ leaf ∈ f.leaves, leaf.2.boundsFinite = true) :
    filterSlot.Finds ms w.filter := by
  have hfinds : filterSlot.Finds ms (w.filter.bind fun f => some f.received) :=
    Slot.finds_optional h.filter optional_filter
  have hsame : (w.filter.bind fun f => some f.received) = w.filter := by
    cases hfilter : w.filter with
    | none => rfl
    | some f =>
        have hleaves := hfinite f hfilter
        show some f.received = some f
        rw [f.received_eq_self fun leaf hleaf => Test.received_of_boundsFinite (hleaves leaf hleaf)]
  rwa [hsame] at hfinds

theorem Holds.fields_finds (h : w.Holds ms) : fieldsSlot.Finds ms w.fields := by
  apply (Slot.finds_defaulted_iff h.fields _).mpr (Or.inr _)
  · intro hempty
    rw [List.isEmpty_iff.mp hempty]
    rfl
  · exact Decoder.items_map_eq_ok_iff.mpr fun _ _ => rfl

/-- The sort order is the one part that need not read back. -/
theorem Holds.sortOrder_finds_iff (h : w.Holds ms) :
    sortOrderSlot.Finds ms w.sortOrder ↔ ∀ field ∈ w.sortOrder, field.Writable := by
  have hempty : w.sortOrder.isEmpty = true → sortOrderSlot.absent = some w.sortOrder := by
    intro hempty
    rw [List.isEmpty_iff.mp hempty]
    rfl
  have hdecode : sortOrderSlot.decode w.sortOrder.toJson = .ok w.sortOrder
      ↔ ∀ field ∈ w.sortOrder, field.Writable := SortOrder.decode_toJson_iff
  rw [Slot.finds_defaulted_iff h.sortOrder hempty, hdecode]
  constructor
  · rintro (hnone | hall)
    · rw [List.isEmpty_iff.mp hnone]
      nofun
    · exact hall
  · exact Or.inr

end

/-- The literal of a window holds no unknown word. -/
theorem wordFault?_toJson (w : Window) : wordFault? w.toJson = none := by
  obtain ⟨ms, heq, hholds⟩ := w.exists_holds
  rw [heq, wordFault?, hholds.filter]
  cases w.filter with
  | none => rfl
  | some f => exact Filter.wordFault?_toJson f

/-- **Which windows read back.** A window whose double bounds are finite is read from its own
literal exactly when no name of a sort field is empty or ends with a blank, and none of an ascending
one begins with a blank or a sign. -/
theorem ofJson_toJson_iff {w : Window}
    (hfinite : ∀ f ∈ w.filter, ∀ leaf ∈ f.leaves, leaf.2.boundsFinite = true) :
    ofJson w.toJson = .ok w ↔ ∀ field ∈ w.sortOrder, field.Writable := by
  obtain ⟨ms, heq, hholds⟩ := w.exists_holds
  unfold ofJson
  rw [wordFault?_toJson]
  show (decode w.toJson).mapError _ = _ ↔ _
  rw [Except.mapError_eq_ok_iff, heq, decode_object_eq_ok_iff, hholds.sortOrder_finds_iff]
  constructor
  · rintro ⟨-, -, -, hwritable, -⟩
    exact hwritable
  · intro hwritable
    exact ⟨hholds.limit_finds, hholds.offset_finds, hholds.filter_finds hfinite, hwritable,
      hholds.fields_finds⟩

/-- A window with all five parts, sorted by two names that hold signs and blanks. -/
def criticsWindow (ascending : Bool) : Window :=
  { limit := some 0
    offset := 18446744073709551615
    filter := some (.group .nor
      [.leaf "score" (.doubleRange (some (.finite ⟨true, 1, by decide⟩)) none)])
    sortOrder := [⟨" +critics", ascending⟩, ⟨"year +", true⟩]
    fields := ["", "a.b", "a"] }

/-- The window reads back when it descends by the first name.  When it ascends by that name it does
not, since the blank is cut off. -/
theorem ofJson_toJson_iff_of_critics :
    ofJson (criticsWindow false).toJson = .ok (criticsWindow false)
      ∧ ofJson (criticsWindow true).toJson ≠ .ok (criticsWindow true) := by
  have hfinite : ∀ ascending, ∀ f ∈ (criticsWindow ascending).filter, ∀ leaf ∈ f.leaves,
      leaf.2.boundsFinite = true := by
    rintro ascending f ⟨⟩ leaf hleaf
    rw [List.mem_singleton.mp hleaf]
    rfl
  have hcritics : SortField.Writable ⟨" +critics", false⟩ := by
    refine ⟨by decide, ?_, nofun⟩
    rintro c ⟨⟩
    rfl
  have hyear : SortField.Writable ⟨"year +", true⟩ := by
    refine ⟨by decide, ?_, ?_⟩
    · rintro c ⟨⟩
      rfl
    · rintro - c ⟨⟩
      decide
  constructor
  · apply (ofJson_toJson_iff (hfinite false)).mpr
    intro field hfield
    rcases List.mem_cons.mp hfield with rfl | hfield
    · exact hcritics
    · rw [List.mem_singleton.mp hfield]
      exact hyear
  · intro hback
    have hwritable := (ofJson_toJson_iff (hfinite true)).mp hback _ List.mem_cons_self
    have hblank := (hwritable.first rfl ' ' rfl).1
    exact absurd hblank (by decide)

end Window

end RecordQuery
