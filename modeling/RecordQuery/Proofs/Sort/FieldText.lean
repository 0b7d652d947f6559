import RecordQuery.Proofs.Decode
import RecordQuery.Proofs.Text.Spans
import RecordQuery.Sort.Order

/-!
# RecordQuery.Proofs.Sort.FieldText — sort fields and their encodings

An encoding is trimmed and loses one sign; what is left is the name.  The shortest encoding of a
field has a sign only when the field is descending.  So a field reads back from it unless its name
is empty or ends with a blank, or the field is ascending and its name begins with a blank, which is
cut off, or with a character that is read as a sign.

`SortField.Reads` says what is read from a trimmed text, without reference to the reader, and
`SortField.Writable` which fields read back.  An order reads back when all its fields do.
-/

namespace RecordQuery

namespace SortField

/-- The sign of a direction. -/
def sign (ascending : Bool) : Char :=
  if ascending then '+' else '-'

/-- Characters that are a field once blanks are cut off: its name after its sign, or, when the field
is ascending and its name does not begin like a sign, its name. -/
def Reads (cs : List Char) (field : SortField) : Prop :=
  field.name ≠ "" ∧ (cs = sign field.ascending :: field.name.toList
    ∨ field.ascending = true ∧ cs = field.name.toList ∧ ∀ c ∈ cs.head?, c ≠ '+' ∧ c ≠ '-')

/-- A name that is left makes a field. -/
theorem named_eq_some_iff {rest : List Char} {ascending : Bool} {field : SortField} :
    (if rest.isEmpty then none else some (⟨String.ofList rest, ascending⟩ : SortField)) = some field
      ↔ field.name ≠ "" ∧ field.ascending = ascending ∧ rest = field.name.toList := by
  obtain ⟨name, direction⟩ := field
  cases rest with
  | nil =>
      constructor
      · nofun
      · rintro ⟨hname, -, hrest⟩
        exact absurd (String.toList_eq_nil_iff.mp hrest.symm) hname
  | cons c rest =>
      constructor
      · rintro ⟨⟩
        refine ⟨?_, rfl, String.toList_ofList.symm⟩
        intro hempty
        have hlist := congrArg String.toList hempty
        rw [String.toList_ofList] at hlist
        cases hlist
      · rintro ⟨-, rfl, hrest⟩
        rw [hrest, String.ofList_toList, ← hrest]
        rfl

theorem ofSigned?_sign (ascending : Bool) (rest : List Char) :
    ofSigned? (sign ascending :: rest)
      = if rest.isEmpty then none else some ⟨String.ofList rest, ascending⟩ := by
  cases ascending <;> rfl

theorem ofSigned?_bare {cs : List Char} (h : ∀ c ∈ cs.head?, c ≠ '+' ∧ c ≠ '-') :
    ofSigned? cs = if cs.isEmpty then none else some ⟨String.ofList cs, true⟩ := by
  cases cs with
  | nil => rfl
  | cons c rest =>
      obtain ⟨hplus, hminus⟩ := h c rfl
      simp [ofSigned?, hplus, hminus]

/-- One sign is cut, and what is left is the name. -/
theorem ofSigned?_eq_some_iff {cs : List Char} {field : SortField} :
    ofSigned? cs = some field ↔ Reads cs field := by
  by_cases hsign : ∃ ascending rest, cs = sign ascending :: rest
  · -- a text that begins with a sign is not read as a bare name
    obtain ⟨ascending, rest, rfl⟩ := hsign
    have hbare : ¬ ∀ c ∈ (sign ascending :: rest).head?, c ≠ '+' ∧ c ≠ '-' := by
      intro h
      cases ascending with
      | true => exact (h '+' rfl).1 rfl
      | false => exact (h '-' rfl).2 rfl
    have hsign : sign ascending = sign field.ascending ↔ field.ascending = ascending := by
      cases ascending <;> cases field.ascending <;> decide
    unfold Reads
    rw [ofSigned?_sign, named_eq_some_iff, List.cons.injEq, hsign]
    simp only [hbare, and_false, or_false]
  · have hbare : ∀ c ∈ cs.head?, c ≠ '+' ∧ c ≠ '-' := by
      intro c hc
      obtain ⟨rest, rfl⟩ := List.head?_eq_some_iff.mp hc
      constructor
      · rintro rfl
        exact hsign ⟨true, rest, rfl⟩
      · rintro rfl
        exact hsign ⟨false, rest, rfl⟩
    have hne : cs ≠ sign field.ascending :: field.name.toList := fun h => hsign ⟨_, _, h⟩
    unfold Reads
    rw [ofSigned?_bare hbare, named_eq_some_iff]
    simp only [hne, false_or]
    exact and_congr_right fun _ => and_congr_right fun _ => (and_iff_left hbare).symm

/-! ## Encodings that read back -/

/-- A field whose shortest encoding reads back: its name is not cut when the encoding is trimmed,
and does not begin with what is read as a sign. -/
structure Writable (field : SortField) : Prop where
  named : field.name ≠ ""
  last : ∀ c ∈ field.name.toList.getLast?, Text.isBlank c = false
  first : field.ascending = true →
    ∀ c ∈ field.name.toList.head?, Text.isBlank c = false ∧ c ≠ '+' ∧ c ≠ '-'

theorem toList_encoded (field : SortField) :
    field.encoded.toList
      = if field.ascending then field.name.toList else '-' :: field.name.toList := by
  unfold encoded
  split
  · rfl
  · rw [String.toList_append]
    rfl

/-- The shortest encoding of an ascending field is its name. -/
theorem ofText?_encoded_ascending {name : String} :
    ofText? (encoded ⟨name, true⟩) = some ⟨name, true⟩ ↔ Writable ⟨name, true⟩ := by
  have htext : (encoded ⟨name, true⟩).toList = name.toList := toList_encoded ⟨name, true⟩
  unfold ofText?
  rw [htext, ofSigned?_eq_some_iff]
  constructor
  · rintro ⟨hname, hsigned | ⟨-, htrim, hfirst⟩⟩
    · -- trimming does not add a sign
      have hle : name.toList.length + 1 ≤ name.toList.length :=
        (Text.trim_eq_iff.mp hsigned).length_le
      omega
    · have hends := Text.trim_eq_self_iff.mp htrim
      rw [htrim] at hfirst
      exact ⟨hname, hends.2, fun _ c hc => ⟨hends.1 c hc, hfirst c hc⟩⟩
  · intro h
    have hfirst := h.first rfl
    have htrim : Text.trim name.toList = name.toList :=
      Text.trim_eq_self_iff.mpr ⟨fun c hc => (hfirst c hc).1, h.last⟩
    rw [htrim]
    exact ⟨h.named, Or.inr ⟨rfl, rfl, fun c hc => (hfirst c hc).2⟩⟩

/-- A sign in front of a name does not change where the text ends. -/
theorem getLast?_cons_toList {name : String} (h : name ≠ "") (c : Char) :
    (c :: name.toList).getLast? = name.toList.getLast? := by
  obtain ⟨first, rest, hcons⟩ := List.exists_cons_of_ne_nil (mt String.toList_eq_nil_iff.mp h)
  rw [hcons, List.getLast?_cons_cons]

/-- The shortest encoding of a descending field begins with its sign. -/
theorem ofText?_encoded_descending {name : String} :
    ofText? (encoded ⟨name, false⟩) = some ⟨name, false⟩ ↔ Writable ⟨name, false⟩ := by
  have htext : (encoded ⟨name, false⟩).toList = '-' :: name.toList := toList_encoded ⟨name, false⟩
  unfold ofText?
  rw [htext, ofSigned?_eq_some_iff]
  constructor
  · rintro ⟨hname, htrim | ⟨hdirection, -, -⟩⟩
    · have hends := Text.trim_eq_self_iff.mp htrim
      rw [getLast?_cons_toList hname] at hends
      exact ⟨hname, hends.2, nofun⟩
    · cases hdirection
  · intro h
    have hfirst : ∀ c ∈ ('-' :: name.toList).head?, Text.isBlank c = false := by
      rintro c ⟨⟩
      decide
    have htrim : Text.trim ('-' :: name.toList) = '-' :: name.toList := by
      refine Text.trim_eq_self_iff.mpr ⟨hfirst, ?_⟩
      rw [getLast?_cons_toList h.named]
      exact h.last
    exact ⟨h.named, Or.inl htrim⟩

/-- **Which sort fields read back** from their shortest encoding. -/
theorem ofText?_encoded_iff {field : SortField} :
    ofText? field.encoded = some field ↔ field.Writable := by
  obtain ⟨name, ascending⟩ := field
  cases ascending with
  | true => exact ofText?_encoded_ascending
  | false => exact ofText?_encoded_descending

end SortField

/-! ## Orders -/

namespace SortOrder

theorem decode_encoded_iff {field : SortField} :
    SortField.decode (.string field.encoded) = .ok field ↔ field.Writable := by
  rw [SortField.decode, ← SortField.ofText?_encoded_iff]
  cases SortField.ofText? field.encoded with
  | none => exact ⟨nofun, nofun⟩
  | some read => simp

/-- **Which orders read back** from their literal: those all of whose fields do. -/
theorem decode_toJson_iff {order : SortOrder} :
    decode order.toJson = .ok order ↔ ∀ field ∈ order, field.Writable := by
  have hitems := @Decoder.items_map_eq_ok_iff _ SortField.decode
    (fun field => .string field.encoded) order
  simp only [decode_encoded_iff] at hitems
  exact hitems

end SortOrder

end RecordQuery
