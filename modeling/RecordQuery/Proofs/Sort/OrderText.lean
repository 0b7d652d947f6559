import RecordQuery.Proofs.Sort.ReadFields

/-!
# RecordQuery.Proofs.Sort.OrderText — the text of a sort order

An order is written as its signed fields with commas between them, and read by cutting the text at
its commas and skipping what is blank.  Cutting undoes joining when no name holds a comma, a signed
field is never blank, and it reads back when its name is not empty and does not end with a blank.
No other order reads back, because no other field is ever read: a piece holds no comma, and the name
that is left of it is neither empty nor ends with a blank.
-/

namespace RecordQuery

namespace SortField

/-! ## Fields in a list -/

/-- A field that can stand in the text of an order: its name is not empty, does not end with a blank
and holds no comma. -/
structure Listable (field : SortField) : Prop extends Trimmed field where
  plain : ',' ∉ field.name.toList

/-- The characters of a name are characters of the text that it was read from. -/
theorem Reads.subset {cs : List Char} {field : SortField} (h : Reads cs field) :
    field.name.toList ⊆ cs := by
  obtain ⟨-, rfl | ⟨-, rfl, -⟩⟩ := h
  · exact List.subset_cons_self _ _
  · exact List.Subset.refl _

theorem listable_of_ofText? {text : String} {field : SortField} (h : ofText? text = some field)
    (hplain : ',' ∉ text.toList) : field.Listable := by
  refine ⟨trimmed_of_ofText? h, fun hcomma => hplain ?_⟩
  exact (Text.trim_eq_iff.mp rfl).subset ((reads_of_ofText? h).subset hcomma)

theorem Listable.comma_notMem_signed {field : SortField} (h : field.Listable) :
    ',' ∉ field.signed.toList := by
  rw [toList_signed, List.mem_cons, not_or]
  refine ⟨?_, h.plain⟩
  cases field.ascending <;> decide

/-- What is trimmed to a sign and a name is not blank. -/
theorem Trimmed.trim_signed_ne_nil {field : SortField} (h : field.Trimmed) :
    Text.trim field.signed.toList ≠ [] := by
  rw [h.trim_signed, toList_signed]
  exact List.cons_ne_nil _ _

end SortField

namespace SortOrder

/-! ## Cutting and joining -/

/-- The pieces of a text that are read as fields. -/
def entries (text : String) : List String :=
  ((Text.pieces ',' text.toList).filter fun piece => !(Text.trim piece).isEmpty).map String.ofList

theorem ofText_eq (text : String) : ofText text = ofEncoded (entries text) := rfl

theorem comma_notMem_of_mem_entries {text entry : String} (h : entry ∈ entries text) :
    ',' ∉ entry.toList := by
  obtain ⟨piece, hpiece, rfl⟩ := List.mem_map.mp h
  rw [String.toList_ofList]
  exact Text.separator_not_mem_of_mem_pieces ',' text.toList piece (List.mem_filter.mp hpiece).1

/-- Joined fields are cut apart again. -/
theorem pieces_text {order : SortOrder} (hne : order ≠ []) (h : ∀ field ∈ order, field.Listable) :
    Text.pieces ',' (text order).toList = order.map fun field => field.signed.toList := by
  have htext : (text order).toList
      = [','].intercalate (order.map fun field => field.signed.toList) := by
    rw [text, String.toList_intercalate, List.map_map]
    rfl
  rw [htext, Text.pieces_intercalate (mt List.map_eq_nil_iff.mp hne)]
  intro piece hpiece
  obtain ⟨field, hfield, rfl⟩ := List.mem_map.mp hpiece
  exact (h field hfield).comma_notMem_signed

theorem entries_text {order : SortOrder} (h : ∀ field ∈ order, field.Listable) :
    entries (text order) = order.map SortField.signed := by
  by_cases hne : order = []
  · -- the text without fields is one blank piece
    rw [hne]
    rfl
  · have hkept : ∀ piece ∈ order.map fun field => field.signed.toList,
        (!(Text.trim piece).isEmpty) = true := by
      intro piece hpiece
      obtain ⟨field, hfield, rfl⟩ := List.mem_map.mp hpiece
      rw [Bool.not_eq_true', List.isEmpty_eq_false_iff]
      exact (h field hfield).trim_signed_ne_nil
    rw [entries, pieces_text hne h, List.filter_eq_self.mpr hkept, List.map_map]
    refine List.map_congr_left fun field _ => ?_
    exact String.ofList_toList

/-! ## Reading back -/

/-- Encodings read back together when each of them does. -/
theorem ofEncoded_map_eq_ok {write : SortField → String} {order : SortOrder}
    (h : ∀ field ∈ order, SortField.ofText? (write field) = some field) :
    ofEncoded (order.map write) = .ok order := by
  induction order with
  | nil => rfl
  | cons field rest ih =>
      obtain ⟨hfield, hrest⟩ := List.forall_mem_cons.mp h
      exact ofEncoded_cons_eq_ok_iff.mpr ⟨field, rest, hfield, ih hrest, rfl⟩

/-- Every field that is read from the text of an order can stand in one. -/
theorem listable_of_ofText {given : String} {order : SortOrder} (h : ofText given = .ok order) :
    ∀ field ∈ order, field.Listable := by
  intro field hfield
  rw [ofText_eq] at h
  obtain ⟨entry, hentry, hread⟩ := exists_of_mem_ofEncoded h field hfield
  exact SortField.listable_of_ofText? hread (comma_notMem_of_mem_entries hentry)

theorem ofText_text {order : SortOrder} (h : ∀ field ∈ order, field.Listable) :
    ofText (text order) = .ok order := by
  rw [ofText_eq, entries_text h]
  apply ofEncoded_map_eq_ok
  intro field hfield
  exact SortField.ofText?_signed_iff.mpr (h field hfield).toTrimmed

/-- **Which orders read back** from their text: those in which every name is not empty, holds no
comma and does not end with a blank.  All others give an error or another order.  Whatever text an
order was read from, with blank pieces, blanks around its fields or repeated signs, the order reads
back from its own text. -/
theorem ofText_text_iff (order : SortOrder) :
    (ofText (text order) = .ok order ↔ ∀ field ∈ order, field.name ≠ ""
      ∧ ',' ∉ field.name.toList ∧ ∀ c ∈ field.name.toList.getLast?, Text.isBlank c = false)
    ∧ ∀ given, ofText given = .ok order → ofText (text order) = .ok order := by
  constructor
  · constructor
    · intro h field hfield
      obtain ⟨⟨hnamed, hlast⟩, hplain⟩ := listable_of_ofText h field hfield
      exact ⟨hnamed, hplain, hlast⟩
    · intro h
      apply ofText_text
      intro field hfield
      obtain ⟨hnamed, hplain, hlast⟩ := h field hfield
      exact ⟨⟨hnamed, hlast⟩, hplain⟩
  · intro given h
    exact ofText_text (listable_of_ofText h)

/-- Names that begin with a blank or hold a sign read back; the text they came from had blank pieces
and blanks around its fields. -/
theorem ofText_text_of_spaced :
    ofText " ,,- year, ++-title\t," = .ok [⟨" year", false⟩, ⟨"+-title", true⟩]
      ∧ ofText (text [⟨" year", false⟩, ⟨"+-title", true⟩])
        = .ok [⟨" year", false⟩, ⟨"+-title", true⟩] := by
  have hgiven : ofText " ,,- year, ++-title\t," = .ok [⟨" year", false⟩, ⟨"+-title", true⟩] := rfl
  exact ⟨hgiven, (ofText_text_iff _).2 _ hgiven⟩

end SortOrder

end RecordQuery
