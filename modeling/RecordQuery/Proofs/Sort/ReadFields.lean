import RecordQuery.Proofs.Except
import RecordQuery.Proofs.Sort.FieldText

/-!
# RecordQuery.Proofs.Sort.ReadFields — writing fields that were read

A field that was read from a text has a name that does not end with a blank, since the text was
trimmed.  That is all its encoding with a sign needs in order to read back.  The shortest encoding
needs more: it leaves out the plus sign, and what stood after that sign in the text may be a blank
or a sign of its own.  Then another field is read back, or none.  So a field that was read survives
its shortest encoding exactly when its text did not hide such a character behind a plus sign
(`SortField.reread_iff`).
-/

namespace RecordQuery

namespace SortField

/-! ## What reading leaves -/

/-- A field whose name is not cut when its encoding is trimmed. -/
structure Trimmed (field : SortField) : Prop where
  named : field.name ≠ ""
  last : ∀ c ∈ field.name.toList.getLast?, Text.isBlank c = false

/-- A name ends where the text that it was read from does. -/
theorem Reads.trimmed {cs : List Char} {field : SortField} (h : Reads cs field)
    (hlast : ∀ c ∈ cs.getLast?, Text.isBlank c = false) : field.Trimmed := by
  obtain ⟨hname, rfl | ⟨-, rfl, -⟩⟩ := h
  · rw [getLast?_cons_toList hname] at hlast
    exact ⟨hname, hlast⟩
  · exact ⟨hname, hlast⟩

theorem reads_of_ofText? {text : String} {field : SortField} (h : ofText? text = some field) :
    Reads (Text.trim text.toList) field :=
  ofSigned?_eq_some_iff.mp h

theorem trimmed_of_ofText? {text : String} {field : SortField} (h : ofText? text = some field) :
    field.Trimmed :=
  (reads_of_ofText? h).trimmed (Text.trim_eq_iff.mp rfl).last

/-! ## Encodings with a sign -/

theorem toList_signed (field : SortField) :
    field.signed.toList = sign field.ascending :: field.name.toList := by
  unfold signed sign
  rw [String.toList_append]
  cases field.ascending <;> rfl

theorem isBlank_sign (ascending : Bool) : Text.isBlank (sign ascending) = false := by
  cases ascending <;> decide

/-- Nothing is cut off an encoding with a sign when nothing is cut off its name. -/
theorem Trimmed.trim_signed {field : SortField} (h : field.Trimmed) :
    Text.trim field.signed.toList = field.signed.toList := by
  rw [toList_signed, Text.trim_eq_self_iff, getLast?_cons_toList h.named]
  refine ⟨?_, h.last⟩
  rintro c ⟨⟩
  exact isBlank_sign field.ascending

/-- **Which sort fields read back** from their encoding with a sign. -/
theorem ofText?_signed_iff {field : SortField} :
    ofText? field.signed = some field ↔ field.Trimmed := by
  constructor
  · exact trimmed_of_ofText?
  · intro h
    rw [ofText?, h.trim_signed, toList_signed]
    exact ofSigned?_eq_some_iff.mpr ⟨h.named, Or.inl rfl⟩

/-! ## Encodings without a plus sign -/

/-- A character that is not read as the beginning of a name. -/
def IsLost (c : Char) : Prop :=
  Text.isBlank c = true ∨ c = '+' ∨ c = '-'

/-- An ascending field whose name begins with a character that only a plus sign in front keeps. -/
def NeedsPlus (field : SortField) : Prop :=
  field.ascending = true ∧ ∃ c ∈ field.name.toList.head?, IsLost c

/-- A text that, once trimmed, has such a character after a plus sign. -/
def HidesBehindPlus (text : String) : Prop :=
  ∃ c rest, Text.trim text.toList = '+' :: c :: rest ∧ IsLost c

theorem writable_iff {field : SortField} : field.Writable ↔ field.Trimmed ∧ ¬ field.NeedsPlus := by
  have hkept : ∀ c, ¬ IsLost c ↔ Text.isBlank c = false ∧ c ≠ '+' ∧ c ≠ '-' := by
    intro c
    rw [IsLost, not_or, not_or, Bool.not_eq_true]
  have hfirst : ¬ field.NeedsPlus ↔ (field.ascending = true →
      ∀ c ∈ field.name.toList.head?, Text.isBlank c = false ∧ c ≠ '+' ∧ c ≠ '-') := by
    simp only [NeedsPlus, not_and, not_exists, hkept]
  rw [hfirst]
  exact ⟨fun h => ⟨⟨h.named, h.last⟩, h.first⟩, fun h => ⟨h.1.named, h.1.last, h.2⟩⟩

/-- A field needs its plus sign when the text that it was read from had one there. -/
theorem needsPlus_iff_of_ofText? {text : String} {field : SortField}
    (h : ofText? text = some field) : field.NeedsPlus ↔ HidesBehindPlus text := by
  have hhead := (Text.trim_eq_iff.mp (rfl : Text.trim text.toList = _)).head
  obtain ⟨-, hsigned | ⟨hascending, hbare, hkept⟩⟩ := reads_of_ofText? h
  · rw [NeedsPlus, HidesBehindPlus, hsigned]
    constructor
    · rintro ⟨hascending, c, hc, hlost⟩
      obtain ⟨rest, hname⟩ := List.head?_eq_some_iff.mp hc
      exact ⟨c, rest, by rw [hascending, hname]; rfl, hlost⟩
    · rintro ⟨c, rest, htext, hlost⟩
      obtain ⟨hsign, hname⟩ := List.cons.inj htext
      refine ⟨?_, c, by rw [hname]; rfl, hlost⟩
      cases hascending : field.ascending with
      | true => rfl
      | false =>
          rw [hascending] at hsign
          exact absurd hsign (by decide)
  · -- a text without a sign begins with its name, which was not cut
    constructor
    · rintro ⟨-, c, hc, hlost⟩
      rw [← hbare] at hc
      rcases hlost with hblank | rfl | rfl
      · rw [hhead c hc] at hblank
        cases hblank
      · exact absurd rfl (hkept _ hc).1
      · exact absurd rfl (hkept _ hc).2
    · rintro ⟨c, rest, htext, -⟩
      rw [htext] at hkept
      exact absurd rfl (hkept '+' rfl).1

end SortField

/-! ## Orders -/

namespace SortOrder

open SortField (ofText?)

theorem ofEncoded_cons_eq_ok_iff {text : String} {rest : List String} {order : SortOrder} :
    ofEncoded (text :: rest) = .ok order ↔
      ∃ field fields, ofText? text = some field ∧ ofEncoded rest = .ok fields
        ∧ order = field :: fields := by
  rw [ofEncoded, SortField.parse]
  cases ofText? text with
  | none => simp
  | some field =>
      cases ofEncoded rest with
      | error e => exact ⟨nofun, nofun⟩
      | ok fields =>
          constructor
          · rintro ⟨⟩
            exact ⟨field, fields, rfl, rfl, rfl⟩
          · rintro ⟨_, _, ⟨⟩, ⟨⟩, rfl⟩
            rfl

/-- Every field of an order was read from one of the texts. -/
theorem exists_of_mem_ofEncoded {texts : List String} {order : SortOrder}
    (h : ofEncoded texts = .ok order) : ∀ field ∈ order, ∃ text ∈ texts, ofText? text = some field
    := by
  induction texts generalizing order with
  | nil =>
      cases h
      nofun
  | cons text rest ih =>
      obtain ⟨first, fields, hfirst, hfields, rfl⟩ := ofEncoded_cons_eq_ok_iff.mp h
      rw [List.forall_mem_cons]
      refine ⟨⟨text, List.mem_cons_self, hfirst⟩, fun field hfield => ?_⟩
      obtain ⟨later, hlater, hread⟩ := ih hfields field hfield
      exact ⟨later, List.mem_cons_of_mem text hlater, hread⟩

/-- Every field of an order was read from one of the strings of its literal. -/
theorem exists_of_mem_decode {v : Json} {order : SortOrder} (h : decode v = .ok order) :
    ∀ field ∈ order, ∃ text, ofText? text = some field := by
  intro field hfield
  cases v with
  | array items =>
      obtain ⟨item, -, hitem⟩ := Decoder.exists_of_mem_items h field hfield
      cases item with
      | string text =>
          refine ⟨text, ?_⟩
          rw [SortField.decode] at hitem
          cases hread : ofText? text with
          | none => rw [hread] at hitem; cases hitem
          | some read => rw [hread] at hitem; cases hitem; rfl
      | _ => cases hitem
  | _ => cases h

/-- An order that was read: from a literal, from encoded fields, or from one text. -/
def IsRead (order : SortOrder) : Prop :=
  (∃ v, decode v = .ok order) ∨ (∃ texts, ofEncoded texts = .ok order)
    ∨ ∃ text, ofText text = .ok order

theorem IsRead.exists_text {order : SortOrder} (h : order.IsRead) :
    ∀ field ∈ order, ∃ text, ofText? text = some field := by
  have hencoded {texts : List String} (h : ofEncoded texts = .ok order) :
      ∀ field ∈ order, ∃ text, ofText? text = some field := by
    intro field hfield
    obtain ⟨text, -, hread⟩ := exists_of_mem_ofEncoded h field hfield
    exact ⟨text, hread⟩
  rcases h with ⟨v, h⟩ | ⟨texts, h⟩ | ⟨text, h⟩
  · exact exists_of_mem_decode h
  · exact hencoded h
  · exact hencoded h

end SortOrder

/-- **What survives being read and written.** A field that was read from a text always reads back
from its encoding with a sign.  From its shortest encoding it reads back exactly when it does not
need its plus sign, which is when its text, once trimmed, did not begin with a plus sign and then a
blank or a second sign.  An order that was read reads back from its literal exactly when none of its
fields needs its plus sign. -/
theorem SortField.reread_iff (text : String) (field : SortField) (order : SortOrder) :
    (ofText? text = some field →
      ofText? field.signed = some field
      ∧ (ofText? field.encoded = some field ↔ ¬ field.NeedsPlus)
      ∧ (field.NeedsPlus ↔ HidesBehindPlus text))
    ∧ (order.IsRead →
      (SortOrder.decode order.toJson = .ok order ↔ ∀ key ∈ order, ¬ key.NeedsPlus)) := by
  have hwritable {text : String} {field : SortField} (h : ofText? text = some field) :
      field.Writable ↔ ¬ field.NeedsPlus := by
    rw [writable_iff]
    exact and_iff_right (trimmed_of_ofText? h)
  constructor
  · intro h
    refine ⟨ofText?_signed_iff.mpr (trimmed_of_ofText? h), ?_, needsPlus_iff_of_ofText? h⟩
    rw [ofText?_encoded_iff, hwritable h]
  · intro horder
    rw [SortOrder.decode_toJson_iff]
    refine forall₂_congr fun key hkey => ?_
    obtain ⟨text, h⟩ := horder.exists_text key hkey
    exact hwritable h

/-- An order whose names hold blanks and signs. -/
def SortOrder.byYears : SortOrder :=
  [⟨" +year", false⟩, ⟨"year -", true⟩]

/-- A descending field survives whatever its name begins with, alone and in an order; an ascending
one whose name begins with a sign does not. -/
theorem SortField.reread_iff_byYears :
    ofText? (encoded ⟨" +year", false⟩) = some ⟨" +year", false⟩
      ∧ ofText? (encoded ⟨"+year", true⟩) ≠ some ⟨"+year", true⟩
      ∧ SortOrder.decode SortOrder.byYears.toJson = .ok SortOrder.byYears := by
  have hdescending : ofText? " - +year" = some ⟨" +year", false⟩ := rfl
  have hascending : ofText? "++year " = some ⟨"+year", true⟩ := rfl
  have hread : SortOrder.byYears.IsRead := .inr (.inr ⟨"- +year,year -", rfl⟩)
  have hkept : ∀ field ∈ SortOrder.byYears, ¬ field.NeedsPlus := by
    rw [SortOrder.byYears, List.forall_mem_cons, List.forall_mem_singleton]
    constructor
    · rintro ⟨⟨⟩, -⟩
    · rintro ⟨-, c, ⟨⟩, hlost⟩
      exact absurd hlost (by unfold IsLost; decide)
  have hhidden : HidesBehindPlus "++year " := ⟨'+', ['y', 'e', 'a', 'r'], rfl, .inr (.inl rfl)⟩
  obtain ⟨hfield, horder⟩ := reread_iff " - +year" ⟨" +year", false⟩ SortOrder.byYears
  obtain ⟨-, hback, -⟩ := hfield hdescending
  obtain ⟨-, hlost, hneeds⟩ := (reread_iff _ _ []).1 hascending
  exact ⟨hback.mpr (hkept _ List.mem_cons_self), mt hlost.mp (not_not_intro (hneeds.mpr hhidden)),
    (horder hread).mpr hkept⟩

/-- A minus sign behind a plus sign: once written and read again, the field has another name and the
other direction, alone and in an order. -/
theorem SortField.reread_turns :
    ofText? "+-year" = some ⟨"-year", true⟩
      ∧ ofText? (encoded ⟨"-year", true⟩) = some ⟨"year", false⟩
      ∧ SortOrder.decode (.array [.string "+-year"]) = .ok [⟨"-year", true⟩]
      ∧ SortOrder.decode (SortOrder.toJson [⟨"-year", true⟩]) = .ok [⟨"year", false⟩] :=
  ⟨rfl, rfl, rfl, rfl⟩

end RecordQuery
