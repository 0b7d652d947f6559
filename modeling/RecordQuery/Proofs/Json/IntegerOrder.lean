import Mathlib.Order.Defs.Unbundled
import RecordQuery.Json.Loose

/-!
# RecordQuery.Proofs.Json.IntegerOrder — stored integers compare as integers

Two stored integers that fit one kind of word are compared in it.  The only other pairs hold a
negative integer and one of at least two to the power 63; these meet as doubles, and rounding cannot
bring them together, since zero lies between them.  So comparison is the order of the integers on
all stored ones, a linear order, whose equality is also the tolerant one.
-/

namespace RecordQuery

/-! ## Rounding keeps signs -/

namespace Double

/-- Rounding to a double does not take a positive integer to zero. -/
theorem nearestCode_pos {n : Nat} (h : 0 < n) : 0 < nearestCode n 1 := by
  have hlog : -1 ≤ floorLog2 n 1 := by
    have hone : Nat.log2 1 = 0 := by decide
    unfold floorLog2
    simp only [hone]
    split <;> omega
  have hbinade : 0 < (max (floorLog2 n 1 - 52) (-1074) + 1074).toNat * binadeSize :=
    Nat.mul_pos (by omega) (by decide)
  unfold nearestCode
  rw [if_neg (Nat.pos_iff_ne_zero.mp h)]
  exact Nat.lt_of_lt_of_le hbinade (Nat.le_add_right _ _)

/-- A negative integer has no place above zero. -/
theorem key_ofInt_of_neg {n : Int} (h : n < 0) : ∃ k, (ofInt n).key = some k ∧ k ≤ 0 := by
  unfold ofInt ofRatio
  rw [decide_eq_true h]
  split
  · refine ⟨_, rfl, ?_⟩
    simp only [FiniteDouble.key, if_true]
    omega
  · exact ⟨_, rfl, by decide⟩

/-- A positive integer has a place above zero. -/
theorem key_ofInt_of_pos {n : Int} (h : 0 < n) : ∃ k, (ofInt n).key = some k ∧ 0 < k := by
  have hneg : decide (n < 0) = false := decide_eq_false (by omega)
  have hcode : 0 < nearestCode n.natAbs 1 := nearestCode_pos (by omega)
  unfold ofInt ofRatio
  rw [hneg]
  split
  · refine ⟨_, rfl, ?_⟩
    simp only [FiniteDouble.key, Bool.false_eq_true, if_false]
    omega
  · exact ⟨_, rfl, by decide⟩

/-- As doubles, a negative integer comes before a positive one. -/
theorem compare?_ofInt_of_neg_of_pos {m n : Int} (hm : m < 0) (hn : 0 < n) :
    (ofInt m).compare? (ofInt n) = some .lt := by
  obtain ⟨j, hj, hj0⟩ := key_ofInt_of_neg hm
  obtain ⟨k, hk, hk0⟩ := key_ofInt_of_pos hn
  rw [compare?, hj, hk]
  exact congrArg some (Int.compare_eq_lt.mpr (by omega))

end Double

/-! ## Stored integers -/

/-- **Stored integers compare as integers**, whichever words they fit. -/
theorem Number.compare?_int (a b : WordInt) :
    (int a).compare? (int b) = some (compare a.val b.val) := by
  rw [compare?]
  by_cases hsigned : a.fitsSigned && b.fitsSigned
  · rw [if_pos hsigned]
  · rw [if_neg hsigned]
    by_cases hunsigned : a.fitsUnsigned && b.fitsUnsigned
    · rw [if_pos hunsigned]
    · rw [if_neg hunsigned]
      simp only [WordInt.fitsSigned, WordInt.fitsUnsigned, Bool.and_eq_true, decide_eq_true_eq]
        at hsigned hunsigned
      -- one of the two is negative, and the other is too large for a signed word
      by_cases ha : a.val < 0
      · rw [Double.compare?_ofInt_of_neg_of_pos ha (by omega)]
        exact congrArg some (Int.compare_eq_lt.mpr (by omega)).symm
      · rw [Double.compare?_swap, Double.compare?_ofInt_of_neg_of_pos (by omega) (by omega)]
        exact congrArg some (Int.compare_eq_gt.mpr (by omega)).symm

theorem WordInt.ext_val {a b : WordInt} (h : a.val = b.val) : a = b := by
  cases a
  cases b
  cases h
  rfl

/-- An integer is equal to itself only. -/
theorem Number.compare?_int_eq_iff (a b : WordInt) :
    (int a).compare? (int b) = some .eq ↔ a = b := by
  rw [compare?_int, Option.some_inj, Std.LawfulEqCmp.compare_eq_iff_eq]
  constructor
  · exact WordInt.ext_val
  · exact congrArg WordInt.val

theorem Number.compare?_int_ne_gt_iff (a b : WordInt) :
    (int a).compare? (int b) ≠ some .gt ↔ a.val ≤ b.val := by
  rw [compare?_int, ne_eq, Option.some_inj, Int.compare_eq_gt, Int.not_lt]

/-- **The order of stored integers.** Any two stored integers, whichever words they fit, have the
order of the integers they are.  This is a linear order, and they are equal in the tolerant sense
when they are equal in this order, which only an integer and itself are. -/
theorem Number.int_isLinearOrder :
    (∀ a b : WordInt, (int a).compare? (int b) = some (compare a.val b.val))
    ∧ IsLinearOrder WordInt (fun a b => (int a).compare? (int b) ≠ some .gt)
    ∧ (∀ a b : WordInt, (int a).compare? (int b) = some .eq ↔ a = b)
    ∧ ∀ a b : WordInt, Json.looseEq (.number (int a)) (.number (int b)) = true
      ↔ (int a).compare? (int b) = some .eq := by
  refine ⟨compare?_int, ?_, compare?_int_eq_iff, ?_⟩
  · simp only [compare?_int_ne_gt_iff]
    exact {
      refl := fun a => Int.le_refl a.val
      trans := fun _ _ _ hab hbc => Int.le_trans hab hbc
      antisymm := fun _ _ hab hba => WordInt.ext_val (Int.le_antisymm hab hba)
      total := fun a b => Int.le_total a.val b.val }
  · intro a b
    exact beq_iff_eq

end RecordQuery
