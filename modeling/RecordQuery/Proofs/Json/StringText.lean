import RecordQuery.Json.Printer
import RecordQuery.Json.Reader

/-!
# RecordQuery.Proofs.Json.StringText — string literals read back

A string literal is read back one character at a time: whatever way a character is escaped, the
reader takes exactly its escape and adds the character.
-/

namespace RecordQuery.Json

/-! ## Escapes -/

/-- The escape of a control character spells its code. -/
theorem hexUnit?_hexLower {n : Nat} (h : n < 256) :
    hexUnit? '0' '0' (Text.hexLower (n / 16)) (Text.hexLower (n % 16)) = some n := by
  have hzero : Text.hexValue? '0' = some 0 := by decide
  have hhigh : Text.hexValue? (Text.hexLower (n / 16)) = some (n / 16) :=
    Text.hexValue?_hexLower (by omega)
  have hlow : Text.hexValue? (Text.hexLower (n % 16)) = some (n % 16) :=
    Text.hexValue?_hexLower (by omega)
  simp only [hexUnit?, hzero, hhigh, hlow]
  show some (((0 * 16 + 0) * 16 + n / 16) * 16 + n % 16) = some n
  congr 1
  omega

/-- A one-letter escape is read as its character. -/
theorem readString_short {e d : Char} (hu : e ≠ 'u') (h : shortEscape? e = some d)
    (read rest : List Char) :
    readString read ('\\' :: e :: rest) = readString (d :: read) rest := by
  rw [readString.eq_def]
  simp only [if_neg hu, h]
  rfl

/-- A four-digit escape of a character below the surrogates is read as that character. -/
theorem readString_hex {c h₁ h₂ h₃ h₄ : Char} (hc : c.toNat < 0x20)
    (hunit : hexUnit? h₁ h₂ h₃ h₄ = some c.toNat) (read rest : List Char) :
    readString read ('\\' :: 'u' :: h₁ :: h₂ :: h₃ :: h₄ :: rest) = readString (c :: read) rest := by
  have htrailing : isTrailing c.toNat = false := by
    simp only [isTrailing, Bool.and_eq_false_iff, decide_eq_false_iff_not]
    omega
  have hleading : isLeading c.toNat = false := by
    simp only [isLeading, Bool.and_eq_false_iff, decide_eq_false_iff_not]
    omega
  rw [readString.eq_def]
  simp only [hunit, htrailing, hleading, Char.ofNat_toNat]
  rfl

/-- A character that needs no escape is read as itself. -/
theorem readString_plain {c : Char} (hquote : c ≠ '"') (hslash : c ≠ '\\')
    (hcontrol : ¬ c.toNat < 0x20) (read rest : List Char) :
    readString read (c :: rest) = readString (c :: read) rest := by
  rw [readString.eq_def]
  simp only [if_neg hquote, if_neg hslash, if_neg hcontrol]

/-- **The reader takes exactly the escape of a character.** -/
theorem readString_escapeChar (c : Char) (read rest : List Char) :
    readString read (escapeChar c ++ rest) = readString (c :: read) rest := by
  unfold escapeChar
  -- the seven short escapes, in the order of the writer
  split
  · subst c
    exact readString_short (by decide) (by decide) read rest
  split
  · subst c
    exact readString_short (by decide) (by decide) read rest
  split
  · subst c
    exact readString_short (by decide) (by decide) read rest
  split
  · subst c
    exact readString_short (by decide) (by decide) read rest
  split
  · subst c
    exact readString_short (by decide) (by decide) read rest
  split
  · subst c
    exact readString_short (by decide) (by decide) read rest
  split
  · subst c
    exact readString_short (by decide) (by decide) read rest
  split
  case isTrue hcontrol =>
    exact readString_hex hcontrol (hexUnit?_hexLower (by omega)) read rest
  case isFalse hquote hslash _ _ _ _ _ hcontrol =>
    exact readString_plain hquote hslash hcontrol read rest

/-! ## Whole literals -/

/-- The reader goes on to the closing quote and gives the characters in order. -/
theorem readString_escaped (cs read rest : List Char) :
    readString read (cs.flatMap escapeChar ++ '"' :: rest)
      = .ok (String.ofList (read.reverse ++ cs), rest) := by
  induction cs generalizing read with
  | nil =>
      rw [List.append_nil, readString.eq_def]
      rfl
  | cons c cs ih =>
      rw [List.flatMap_cons, List.append_assoc, readString_escapeChar, ih, List.reverse_cons,
        List.append_assoc]
      rfl

/-- A literal begins with a quote; what follows is read as the string. -/
theorem stringText_append (s : String) (rest : List Char) :
    stringText s ++ rest = '"' :: (s.toList.flatMap escapeChar ++ '"' :: rest) := by
  simp [stringText]

/-- **A string literal reads back as its string.** -/
theorem readString_stringText (s : String) (rest : List Char) :
    readString [] (s.toList.flatMap escapeChar ++ '"' :: rest) = .ok (s, rest) := by
  rw [readString_escaped, List.reverse_nil, List.nil_append, String.ofList_toList]

end RecordQuery.Json
