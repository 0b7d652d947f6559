import RecordQuery.Text.Percent

/-!
# RecordQuery.Proofs.Text.PercentRoundTrip — percent-encoded text reads back

Decoding goes over bytes: an escape stands for the byte that its two digits spell, any other
character for its UTF-8 form, and the bytes together have to be UTF-8.  Encoding writes the UTF-8
form of a text as unreserved characters and escapes, so decoding gives the text back, whatever it
holds.
-/

namespace RecordQuery.Text

/-! ## Decoding -/

/-- The bytes that a percent-encoded text stands for.  A percent sign that no two hexadecimal
digits follow stands for itself. -/
def percentBytes : List Char → List UInt8
  | '%' :: high :: low :: rest =>
    match hexValue? high, hexValue? low with
    | some h, some l => UInt8.ofNat (16 * h + l) :: percentBytes rest
    | _, _ => String.utf8EncodeChar '%' ++ percentBytes (high :: low :: rest)
  | c :: rest => String.utf8EncodeChar c ++ percentBytes rest
  | [] => []

/-- The text that a percent-encoded text stands for, if its bytes are UTF-8. -/
def percentDecode? (cs : List Char) : Option (List Char) :=
  (percentBytes cs).toByteArray.utf8Decode?.map Array.toList

theorem percentBytes_cons_of_ne {c : Char} (h : c ≠ '%') (rest : List Char) :
    percentBytes (c :: rest) = String.utf8EncodeChar c ++ percentBytes rest := by
  rw [percentBytes.eq_def]
  split
  · next heq => exact absurd (List.cons.inj heq).1 h
  · next heq =>
      obtain ⟨rfl, rfl⟩ := List.cons.inj heq
      rfl
  · next heq => cases heq

/-! ## What encoding writes -/

theorem isUnreserved_hexUpper {d : Nat} (h : d < 16) : isUnreserved (hexUpper d) = true := by
  have cases : ∀ k : Fin 16, isUnreserved (hexUpper k) = true := by decide
  exact cases ⟨d, h⟩

/-- An encoded text holds unreserved characters and percent signs only. -/
theorem eq_percent_of_mem_percentEncode {cs : List Char} {c : Char} (h : c ∈ percentEncode cs)
    (hc : isUnreserved c = false) : c = '%' := by
  obtain ⟨d, -, hd⟩ := List.mem_flatMap.mp h
  unfold percentChar at hd
  split at hd
  · next hunreserved =>
      rw [List.mem_singleton.mp hd, hunreserved] at hc
      cases hc
  · obtain ⟨b, -, hb⟩ := List.mem_flatMap.mp hd
    have hlt : b.toNat < 256 := b.toNat_lt
    have hhigh : isUnreserved (hexUpper (b.toNat / 16)) = true := isUnreserved_hexUpper (by omega)
    have hlow : isUnreserved (hexUpper (b.toNat % 16)) = true := isUnreserved_hexUpper (by omega)
    simp only [percentByte, List.mem_cons, List.not_mem_nil, or_false] at hb
    rcases hb with rfl | rfl | rfl
    · rfl
    · rw [hhigh] at hc
      cases hc
    · rw [hlow] at hc
      cases hc

/-! ## The round trip -/

theorem percentBytes_percentByte (b : UInt8) (rest : List Char) :
    percentBytes (percentByte b ++ rest) = b :: percentBytes rest := by
  have hlt : b.toNat < 256 := b.toNat_lt
  have hhigh : hexValue? (hexUpper (b.toNat / 16)) = some (b.toNat / 16) :=
    hexValue?_hexUpper (by omega)
  have hlow : hexValue? (hexUpper (b.toNat % 16)) = some (b.toNat % 16) :=
    hexValue?_hexUpper (by omega)
  have hbyte : UInt8.ofNat (16 * (b.toNat / 16) + b.toNat % 16) = b := by
    rw [Nat.div_add_mod]
    exact UInt8.ofNat_toNat
  show percentBytes ('%' :: hexUpper (b.toNat / 16) :: hexUpper (b.toNat % 16) :: rest) = _
  rw [percentBytes, hhigh, hlow]
  simp only [hbyte]

theorem percentBytes_flatMap_percentByte (bs : List UInt8) (rest : List Char) :
    percentBytes (bs.flatMap percentByte ++ rest) = bs ++ percentBytes rest := by
  induction bs with
  | nil => rfl
  | cons b bs ih =>
      rw [List.flatMap_cons, List.append_assoc, percentBytes_percentByte, ih]
      rfl

/-- An encoded character stands for its UTF-8 form. -/
theorem percentBytes_percentChar (c : Char) (rest : List Char) :
    percentBytes (percentChar c ++ rest) = String.utf8EncodeChar c ++ percentBytes rest := by
  unfold percentChar
  split
  · next hunreserved =>
      apply percentBytes_cons_of_ne
      rintro rfl
      exact absurd hunreserved (by decide)
  · exact percentBytes_flatMap_percentByte _ rest

theorem percentBytes_percentEncode (cs : List Char) :
    percentBytes (percentEncode cs) = cs.flatMap String.utf8EncodeChar := by
  induction cs with
  | nil => rfl
  | cons c cs ih =>
      rw [percentEncode, List.flatMap_cons, percentBytes_percentChar, List.flatMap_cons]
      exact congrArg _ ih

/-- **Encoded text reads back.** -/
theorem percentDecode?_percentEncode (cs : List Char) :
    percentDecode? (percentEncode cs) = some cs := by
  have hbytes : (percentBytes (percentEncode cs)).toByteArray = cs.utf8Encode := by
    rw [percentBytes_percentEncode]
    rfl
  rw [percentDecode?, hbytes, List.utf8Decode?_utf8Encode, Option.map_some]

/-- Lower-case digits are read, and what is no escape is taken as it stands. -/
example : percentDecode? "100%25+%e2%82%ac".toList = some "100%+€".toList := by cbv

end RecordQuery.Text
