import RecordQuery.Numeric.Numeral

/-!
# RecordQuery.Proofs.Numeric.Numeral — numerals denote their numbers

The digits written for a natural number are digits, none of them a leading zero, and reading them
back gives the number.
-/

namespace RecordQuery.Numeral

/-! ## Single digits -/

theorem isDigit_digitChar {d : Nat} (h : d < 10) : isDigit (digitChar d) = true := by
  have cases : ∀ k : Fin 10, isDigit (digitChar k) = true := by decide
  exact cases ⟨d, h⟩

theorem digitValue_digitChar {d : Nat} (h : d < 10) : digitValue (digitChar d) = d := by
  have cases : ∀ k : Fin 10, digitValue (digitChar k) = k.val := by decide
  exact cases ⟨d, h⟩

/-- Only zero is written as the digit zero. -/
theorem digitChar_ne_zero {d : Nat} (h : d < 10) (hpos : 0 < d) : digitChar d ≠ '0' := by
  have cases : ∀ k : Fin 10, 0 < k.val → digitChar k ≠ '0' := by decide
  exact cases ⟨d, h⟩ hpos

/-! ## Runs of digits -/

theorem value_append_digit (cs : List Char) (c : Char) :
    value (cs ++ [c]) = 10 * value cs + digitValue c := by
  simp [value]

/-- **A numeral denotes its number.** -/
theorem value_digits (n : Nat) : value (digits n) = n := by
  induction n using digits.induct with
  | case1 n h =>
      rw [digits, if_pos h]
      simpa [value] using digitValue_digitChar h
  | case2 n h ih =>
      rw [digits, if_neg h, value_append_digit, ih, digitValue_digitChar (Nat.mod_lt _ (by decide))]
      exact Nat.div_add_mod n 10

/-- A numeral has digits only. -/
theorem isDigit_of_mem_digits {n : Nat} {c : Char} (hc : c ∈ digits n) : isDigit c = true := by
  induction n using digits.induct with
  | case1 n h =>
      rw [digits, if_pos h, List.mem_singleton] at hc
      rw [hc]
      exact isDigit_digitChar h
  | case2 n h ih =>
      rw [digits, if_neg h, List.mem_append, List.mem_singleton] at hc
      rcases hc with hc | rfl
      · exact ih hc
      · exact isDigit_digitChar (Nat.mod_lt _ (by decide))

/-- The numeral of a positive number does not begin with a zero. -/
theorem digits_of_pos {n : Nat} (hn : 0 < n) : ∃ c cs, digits n = c :: cs ∧ c ≠ '0' := by
  induction n using digits.induct with
  | case1 n h =>
      rw [digits, if_pos h]
      exact ⟨digitChar n, [], rfl, digitChar_ne_zero h hn⟩
  | case2 n h ih =>
      obtain ⟨c, cs, heq, hc⟩ := ih (by omega)
      rw [digits, if_neg h, heq]
      exact ⟨c, cs ++ [digitChar (n % 10)], rfl, hc⟩

theorem digits_zero : digits 0 = ['0'] := by
  rw [digits, if_pos (by decide)]
  rfl

/-- A numeral begins with a digit. -/
theorem digits_eq_cons (n : Nat) : ∃ c cs, digits n = c :: cs ∧ isDigit c = true := by
  rcases Nat.eq_zero_or_pos n with rfl | hn
  · exact ⟨'0', [], digits_zero, by decide⟩
  · obtain ⟨c, cs, heq, -⟩ := digits_of_pos hn
    exact ⟨c, cs, heq, isDigit_of_mem_digits (heq ▸ List.mem_cons_self)⟩

end RecordQuery.Numeral
