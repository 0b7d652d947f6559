/-!
# RecordQuery.Text.Hex — hexadecimal digits

Digits in either case, their values, and the shortest hexadecimal numeral of a number.
-/

namespace RecordQuery.Text

/-- The lower-case digit of a value below sixteen. -/
def hexLower (d : Nat) : Char :=
  if d < 10 then Char.ofNat (48 + d) else Char.ofNat (87 + d)

/-- The upper-case digit of a value below sixteen. -/
def hexUpper (d : Nat) : Char :=
  if d < 10 then Char.ofNat (48 + d) else Char.ofNat (55 + d)

/-- The value of a digit of either case. -/
def hexValue? (c : Char) : Option Nat :=
  if '0' ≤ c ∧ c ≤ '9' then some (c.toNat - 48)
  else if 'a' ≤ c ∧ c ≤ 'f' then some (c.toNat - 87)
  else if 'A' ≤ c ∧ c ≤ 'F' then some (c.toNat - 55)
  else none

/-- The hexadecimal numeral of `n` in lower case, without leading zeros. -/
def hexNumeral (n : Nat) : List Char :=
  if n < 16 then [hexLower n] else hexNumeral (n / 16) ++ [hexLower (n % 16)]

/-- Every digit reads back as the value it was written for. -/
theorem hexValue?_hexUpper {d : Nat} (h : d < 16) : hexValue? (hexUpper d) = some d := by
  have cases : ∀ k : Fin 16, hexValue? (hexUpper k) = some k.val := by decide
  exact cases ⟨d, h⟩

theorem hexValue?_hexLower {d : Nat} (h : d < 16) : hexValue? (hexLower d) = some d := by
  have cases : ∀ k : Fin 16, hexValue? (hexLower k) = some k.val := by decide
  exact cases ⟨d, h⟩

end RecordQuery.Text
