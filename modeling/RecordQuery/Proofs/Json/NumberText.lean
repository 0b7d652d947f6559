import RecordQuery.Json.Reader
import RecordQuery.Proofs.Numeric.Numeral

/-!
# RecordQuery.Proofs.Json.NumberText — stored integers read back

The text of a stored integer is a numeral with an optional minus sign.  The reader takes its digits,
finds neither point nor exponent after them, and stores the same integer again.
-/

namespace RecordQuery.Json

/-! ## Where a number ends -/

/-- A text that does not carry on a number in front of it. -/
def EndsNumber (rest : List Char) : Prop :=
  ∀ c s, rest = c :: s → Numeral.isDigit c = false ∧ c ≠ '.' ∧ c ≠ 'e' ∧ c ≠ 'E'

theorem endsNumber_nil : EndsNumber [] := by
  intro c s h
  cases h

/-- A number ends at the punctuation of arrays and objects. -/
theorem endsNumber_cons {c : Char} (s : List Char) (h : c = ',' ∨ c = ']' ∨ c = '\x7d') :
    EndsNumber (c :: s) := by
  intro d t heq
  obtain ⟨rfl, -⟩ := List.cons.inj heq
  rcases h with rfl | rfl | rfl
  · decide
  · decide
  · decide

variable {rest : List Char}

/-- Digits with no point and no exponent after them are an integer. -/
theorem readFraction_of_endsNumber (negative : Bool) (whole : List Char) (h : EndsNumber rest) :
    readFraction negative whole rest = integerNumber negative whole rest := by
  cases rest with
  | nil => rfl
  | cons c s =>
      obtain ⟨-, hpoint, he, hE⟩ := h c s rfl
      rw [readFraction.eq_def]
      split
      · next heq => exact absurd (List.cons.inj heq).1 hpoint
      · next heq =>
          obtain ⟨rfl, rfl⟩ := List.cons.inj heq
          exact if_neg (by simp [he, hE])
      · next heq => cases heq

/-- A numeral is split off before a text that carries on no number. -/
theorem span_digits (n : Nat) (h : EndsNumber rest) :
    (Numeral.digits n ++ rest).takeWhile Numeral.isDigit = Numeral.digits n ∧
      (Numeral.digits n ++ rest).dropWhile Numeral.isDigit = rest := by
  have hdigits : ∀ c ∈ Numeral.digits n, Numeral.isDigit c = true :=
    fun c hc => Numeral.isDigit_of_mem_digits hc
  rw [List.takeWhile_append_of_pos hdigits, List.dropWhile_append_of_pos hdigits]
  cases rest with
  | nil => simp
  | cons c s =>
      obtain ⟨hc, -⟩ := h c s rfl
      simp [hc]

/-- The reader takes a whole numeral. -/
theorem readUnsigned_digits (negative : Bool) (n : Nat) (h : EndsNumber rest) :
    readUnsigned negative (Numeral.digits n ++ rest)
      = integerNumber negative (Numeral.digits n) rest := by
  rcases Nat.eq_zero_or_pos n with rfl | hn
  · -- after a single zero no digit may follow
    have hnext : rest.head?.any Numeral.isDigit = false := by
      cases rest with
      | nil => rfl
      | cons c s => exact (h c s rfl).1
    rw [Numeral.digits_zero, ← readFraction_of_endsNumber negative ['0'] h]
    simp [readUnsigned, hnext]
  · obtain ⟨c, cs, heq, hzero⟩ := Numeral.digits_of_pos hn
    have hc : Numeral.isDigit c = true :=
      Numeral.isDigit_of_mem_digits (heq ▸ List.mem_cons_self)
    obtain ⟨htake, hdrop⟩ := span_digits n h
    rw [heq, List.cons_append] at htake hdrop ⊢
    rw [readUnsigned.eq_def]
    simp only [if_neg hzero, if_pos hc]
    rw [htake, hdrop]
    exact readFraction_of_endsNumber negative (c :: cs) h

/-! ## Stored integers -/

/-- A stored integer fits a word. -/
theorem ofInt?_val (n : WordInt) : WordInt.ofInt? n.val = some n :=
  dif_pos ⟨n.lower, n.upper⟩

/-- The digits of a stored integer, with its sign, are stored as the same integer. -/
theorem integerNumber_val (n : WordInt) (rest : List Char) :
    integerNumber (decide (n.val < 0)) (Numeral.digits n.val.natAbs) rest = .ok (.int n, rest) := by
  have hsigned :
      (if decide (n.val < 0) then -(n.val.natAbs : Int) else n.val.natAbs) = n.val := by
    by_cases hneg : n.val < 0
    · rw [decide_eq_true hneg, if_pos rfl]
      omega
    · rw [decide_eq_false hneg, if_neg Bool.false_ne_true]
      omega
  have hzero : (decide (n.val < 0) && n.val.natAbs == 0) = false := by
    by_cases hneg : n.val < 0
    · rw [decide_eq_true hneg, Bool.true_and, beq_eq_false_iff_ne]
      omega
    · rw [decide_eq_false hneg, Bool.false_and]
  simp only [integerNumber, Numeral.value_digits, hzero, hsigned, ofInt?_val]
  rfl

end RecordQuery.Json
