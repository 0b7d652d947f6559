import RecordQuery.Proofs.Filter.LeafTests
import RecordQuery.Proofs.Filter.LiteralRoundTrip
import RecordQuery.Proofs.Json.IntegerOrder
import RecordQuery.Proofs.Sort.KeyOrder

/-!
# RecordQuery.Proofs.Filter.Ranges — one rule for all ranges

Whatever its bounds are made of, a range with a bound looks for a truthy leaf that is at least the
lower bound and at most the upper one, in the tolerant order of values; a range without bounds asks
whether the result as a whole is truthy.  Equal bounds are a case of their own, in which leaves are
compared with one of them by tolerant equality.  That case keeps to the rule because the two bounds
of a range are stored alike: then values that compare equal cannot be told apart by comparing a
third one with them.
-/

namespace RecordQuery

/-! ## The tolerant order at a bound -/

/-- A double meets doubles in one place in the same way. -/
theorem Double.compare?_congr {x y : Double} (h : x.key = y.key) (d : Double) :
    d.compare? x = d.compare? y := by
  rw [compare?, compare?, h]

theorem Number.compare?_double (n : Number) (x : FiniteDouble) :
    n.compare? (double x) = n.toDouble.compare? (.finite x) := by
  cases n <;> rfl

/-- Doubles that compare equal stand in one place. -/
theorem Double.key_eq_of_compare? {x y : Double} (h : x.compare? y = some .eq) : x.key = y.key := by
  rw [compare?] at h
  cases hx : x.key with
  | none => simp [hx] at h
  | some i =>
      cases hy : y.key with
      | none => simp [hx, hy] at h
      | some j =>
          simp only [hx, hy, Option.some.injEq] at h
          rw [Std.LawfulEqCmp.compare_eq_iff_eq.mp h]

/-- A double equals another as the other equals it. -/
theorem Double.compare?_eq_comm {x y : Double} :
    x.compare? y = some .eq ↔ y.compare? x = some .eq := by
  rw [compare?_swap]
  cases y.compare? x with
  | none => simp
  | some o => cases o <;> simp

namespace Json

/-- A number meets a string in the same way under tolerant equality and in the tolerant order. -/
theorem bind_numberIn?_eq_comm (n : Number) (s : String) :
    (numberIn? s).bind (Double.compare? · n.toDouble) = some .eq ↔
      (numberIn? s).bind n.toDouble.compare? = some .eq := by
  cases numberIn? s with
  | none => exact Iff.rfl
  | some x => exact Double.compare?_eq_comm

/-- Tolerant equality with a scalar is equality in the tolerant order. -/
theorem looseEq_iff {bound other : Json} (hbound : bound.compareScalars other = some .eq)
    (v : Json) : v.looseEq bound = true ↔ v.compareLoose bound = some .eq := by
  cases bound with
  | null => cases hbound
  | array items => cases hbound
  | object members => cases hbound
  | bool b =>
      cases v with
      | bool a =>
          show (bool a == bool b) = true ↔ some (compare a b) = some .eq
          rw [beq_iff_eq, bool.injEq, Option.some.injEq, Std.LawfulEqCmp.compare_eq_iff_eq]
      | _ => exact ⟨nofun, nofun⟩
  | number n =>
      cases v with
      | number m => exact beq_iff_eq
      | string s => exact beq_iff_eq
      | _ => exact ⟨nofun, nofun⟩
  | string s =>
      cases v with
      | number n => exact beq_iff_eq.trans (bind_numberIn?_eq_comm n s)
      | string t =>
          show (string t == string s) = true ↔ some (compare t s) = some .eq
          rw [beq_iff_eq, string.injEq, Option.some.injEq, Std.LawfulEqCmp.compare_eq_iff_eq]
      | _ => exact ⟨nofun, nofun⟩

/-- A value is in a range: it is truthy, at least the lower bound and at most the upper one, where
there is such a bound. -/
def Within (min max : Option Json) (v : Json) : Prop :=
  v.truthy = true
    ∧ (∀ bound ∈ min, v.compareLoose bound = some .gt ∨ v.compareLoose bound = some .eq)
    ∧ ∀ bound ∈ max, v.compareLoose bound = some .lt ∨ v.compareLoose bound = some .eq

/-- Nothing is compared with null. -/
theorem compareLoose_null (v : Json) : v.compareLoose .null = none := by
  cases v <;> rfl

/-- No value is in a range with a bound that is null. -/
theorem not_within_of_null {min max : Option Json} (h : min = some .null ∨ max = some .null)
    (v : Json) : ¬ v.Within min max := by
  rintro ⟨-, hmin, hmax⟩
  rcases h with rfl | rfl
  · simpa only [compareLoose_null, reduceCtorEq, or_self] using hmin .null rfl
  · simpa only [compareLoose_null, reduceCtorEq, or_self] using hmax .null rfl

/-- Strings that compare equal are equal. -/
theorem compareLoose_string_congr {s t : String}
    (h : (string s).compareScalars (string t) = some .eq) (v : Json) :
    v.compareLoose (string s) = v.compareLoose (string t) := by
  rw [Std.LawfulEqCmp.compare_eq_iff_eq.mp (Option.some.inj h)]

/-- Signed words that compare equal are equal. -/
theorem compareLoose_ofInt64_congr {m n : Int64}
    (h : (ofInt64 m).compareScalars (ofInt64 n) = some .eq) (v : Json) :
    v.compareLoose (ofInt64 m) = v.compareLoose (ofInt64 n) := by
  have hcompare : (Number.ofInt64 m).compare? (Number.ofInt64 n) = some .eq := h
  rw [Number.ofInt64, Number.ofInt64, Number.compare?_int, Option.some.injEq,
    Std.LawfulEqCmp.compare_eq_iff_eq] at hcompare
  rw [Int64.toInt_inj.mp hcompare]

/-- Doubles that compare equal, such as the two zeros, may differ, but nothing is compared with them
differently. -/
theorem compareLoose_ofDouble_congr {x y : Double}
    (h : (ofDouble x).compareScalars (ofDouble y) = some .eq) (v : Json) :
    v.compareLoose (ofDouble x) = v.compareLoose (ofDouble y) := by
  cases x with
  | infinite negative => cases h
  | nan => cases h
  | finite x =>
      cases y with
      | infinite negative => cases h
      | nan => cases h
      | finite y =>
          have hkey : (Double.finite x).key = (Double.finite y).key := Double.key_eq_of_compare? h
          cases v with
          | number n =>
              show n.compare? (.double x) = n.compare? (.double y)
              rw [Number.compare?_double, Number.compare?_double, Double.compare?_congr hkey]
          | string s =>
              show (numberIn? s).bind (Double.compare? · (.finite x))
                = (numberIn? s).bind (Double.compare? · (.finite y))
              simp only [Double.compare?_congr hkey]
          | _ => rfl

end Json

/-! ## Bounded ranges -/

namespace FieldTest

theorem atLeast_iff {bound v : Json} :
    atLeast bound v = true ↔ v.compareLoose bound = some .gt ∨ v.compareLoose bound = some .eq := by
  rw [atLeast]
  split <;> simp_all

theorem atMost_iff {bound v : Json} :
    atMost bound v = true ↔ v.compareLoose bound = some .lt ∨ v.compareLoose bound = some .eq := by
  rw [atMost]
  split <;> simp_all

/-- Where equal bounds are met alike, tolerant equality with one of them is the two-sided test. -/
theorem looseEq_eq_atLeast_and_atMost {lo hi : Json} (h : lo.compareScalars hi = some .eq)
    (hcongr : ∀ v : Json, v.compareLoose lo = v.compareLoose hi) (v : Json) :
    v.looseEq lo = (atLeast lo v && atMost hi v) := by
  rw [Bool.eq_iff_iff, Bool.and_eq_true_iff, atLeast_iff, atMost_iff, Json.looseEq_iff h,
    ← hcongr v]
  cases v.compareLoose lo with
  | none => simp
  | some o => cases o <;> simp

/-- Equal bounds of a range are met alike by every value. -/
def BoundsAgree (min max : Option Json) : Prop :=
  ∀ lo ∈ min, ∀ hi ∈ max, lo.compareScalars hi = some .eq →
    ∀ v : Json, v.compareLoose lo = v.compareLoose hi

/-- Bounds agree when they are stored alike, in a way that sends what compares equal to values that
are met alike. -/
theorem boundsAgree_map {α : Type} {value : α → Json}
    (hcongr : ∀ {a b : α}, (value a).compareScalars (value b) = some .eq →
      ∀ v : Json, v.compareLoose (value a) = v.compareLoose (value b)) (min max : Option α) :
    BoundsAgree (min.map value) (max.map value) := by
  intro lo hlo hi hhi hequal
  obtain ⟨a, -, rfl⟩ := Option.map_eq_some_iff.mp hlo
  obtain ⟨b, -, rfl⟩ := Option.map_eq_some_iff.mp hhi
  exact hcongr hequal

variable {min max : Option Json}

/-- A bound that is null equals no other. -/
theorem boundsAgree_of_null (h : min = some .null ∨ max = some .null) : BoundsAgree min max := by
  intro lo hlo hi hhi hequal
  rcases h with rfl | rfl
  · cases hlo
    cases hi <;> cases hequal
  · cases hhi
    cases lo <;> cases hequal

/-- All ranges with a bound look for a truthy leaf by the same test. -/
theorem range_eq_someLeaf (hbound : (min.isSome || max.isSome) = true)
    (hagree : BoundsAgree min max) :
    range min max
      = someLeaf fun v => v.truthy && (min.all (atLeast · v) && max.all (atMost · v)) := by
  cases min with
  | none =>
      cases max with
      | none => cases hbound
      | some hi => rfl
  | some lo =>
      cases max with
      | none => simp [range]
      | some hi =>
          rw [range]
          split
          · next hequal =>
              have hequal := beq_iff_eq.mp hequal
              have hleaf := looseEq_eq_atLeast_and_atMost hequal (hagree lo rfl hi rfl hequal)
              simp only [hleaf, Option.all_some]
          · rfl

/-- A range with a bound passes when some leaf is in it. -/
theorem range_iff (hbound : (min.isSome || max.isSome) = true) (hagree : BoundsAgree min max)
    (r : Resolved) : range min max r = true ↔ ∃ v ∈ r.leaves, v.Within min max := by
  rw [range_eq_someLeaf hbound hagree, someLeaf_iff rfl]
  simp only [Bool.and_eq_true_iff, Option.all_eq_true, atLeast_iff, atMost_iff, Json.Within,
    Option.mem_def]

/-- A range with a bound that is null passes nowhere. -/
theorem range_eq_false (h : min = some .null ∨ max = some .null) (r : Resolved) :
    range min max r = false := by
  have hbound : (min.isSome || max.isSome) = true := by
    rcases h with rfl | rfl <;> simp
  refine Bool.eq_false_iff.mpr fun hrange => ?_
  obtain ⟨v, -, hv⟩ := (range_iff hbound (boundsAgree_of_null h) r).mp hrange
  exact Json.not_within_of_null h v hv

end FieldTest

/-! ## Tests with bounds -/

namespace Test

/-- The bounds of a range as values; other tests have none. -/
def bounds? : Test → Option (Option Json × Option Json)
  | dateRange min max => some (min.map .string, max.map .string)
  | doubleRange min max => some (min.map Json.ofDouble, max.map Json.ofDouble)
  | longRange min max => some (min.map Json.ofInt64, max.map Json.ofInt64)
  | stringRange min max => some (min.map .string, max.map .string)
  | _ => none

/-- A range without its upper bound. -/
def withoutMax : Test → Test
  | dateRange min _ => dateRange min none
  | doubleRange min _ => doubleRange min none
  | longRange min _ => longRange min none
  | stringRange min _ => stringRange min none
  | t => t

/-- A range without its lower bound. -/
def withoutMin : Test → Test
  | dateRange _ max => dateRange none max
  | doubleRange _ max => doubleRange none max
  | longRange _ max => longRange none max
  | stringRange _ max => stringRange none max
  | t => t

variable {t : Test} {min max : Option Json}

theorem bounds?_withoutMax (h : t.bounds? = some (min, max)) :
    t.withoutMax.bounds? = some (min, none) := by
  cases t <;> cases h <;> rfl

theorem bounds?_withoutMin (h : t.bounds? = some (min, max)) :
    t.withoutMin.bounds? = some (none, max) := by
  cases t <;> cases h <;> rfl

theorem compile_of_bounds? (h : t.bounds? = some (min, max)) (mode : Text.CaseMode) :
    t.compile mode = .ok (FieldTest.range min max) := by
  cases t <;> cases h <;> rfl

/-- The bounds of a range are stored alike, whatever its kind. -/
theorem boundsAgree_of_bounds? (h : t.bounds? = some (min, max)) :
    FieldTest.BoundsAgree min max := by
  cases t with
  | dateRange low high =>
      cases h
      exact FieldTest.boundsAgree_map Json.compareLoose_string_congr low high
  | stringRange low high =>
      cases h
      exact FieldTest.boundsAgree_map Json.compareLoose_string_congr low high
  | longRange low high =>
      cases h
      exact FieldTest.boundsAgree_map Json.compareLoose_ofInt64_congr low high
  | doubleRange low high =>
      cases h
      exact FieldTest.boundsAgree_map Json.compareLoose_ofDouble_congr low high
  | _ => cases h

/-- An integer is not zero and lies between bounds that are signed words, where there are any. -/
def IntWithin (low high : Option Int64) (n : Int) : Prop :=
  n ≠ 0 ∧ (∀ bound ∈ low, bound.toInt ≤ n) ∧ ∀ bound ∈ high, n ≤ bound.toInt

/-- In a range of signed words, an integer is compared as an integer. -/
theorem within_int_iff (low high : Option Int64) (n : WordInt) :
    (Json.number (.int n)).Within (low.map Json.ofInt64) (high.map Json.ofInt64) ↔
      IntWithin low high n.val := by
  have hcompare (bound : Int64) : (Json.number (.int n)).compareLoose (Json.ofInt64 bound)
      = some (compare n.val bound.toInt) := Number.compare?_int _ _
  have hmin (bound : Int64) :
      some (compare n.val bound.toInt) = some .gt ∨ some (compare n.val bound.toInt) = some .eq ↔
        bound.toInt ≤ n.val := by
    rw [Option.some.injEq, Option.some.injEq, Int.compare_eq_gt, Int.compare_eq_eq]
    omega
  have hmax (bound : Int64) :
      some (compare n.val bound.toInt) = some .lt ∨ some (compare n.val bound.toInt) = some .eq ↔
        n.val ≤ bound.toInt := by
    rw [Option.some.injEq, Option.some.injEq, Int.compare_eq_lt, Int.compare_eq_eq]
    omega
  have hnonzero : (Json.number (.int n)).truthy = true ↔ n.val ≠ 0 := by
    simp [Json.truthy, Number.isZero]
  simp only [Json.Within, IntWithin, hnonzero, Option.mem_def, Option.map_eq_some_iff, forall_exists_index,
    and_imp, forall_apply_eq_imp_iff₂, hcompare, hmin, hmax]

end Test

/-! ## Filters -/

theorem eq_of_mem_of_length_le_one {α : Type} {xs : List α} (h : xs.length ≤ 1) {x y : α}
    (hx : x ∈ xs) (hy : y ∈ xs) : x = y := by
  cases xs with
  | nil => cases hx
  | cons first rest =>
      have hrest : rest.length ≤ 0 := Nat.le_of_succ_le_succ h
      obtain rfl := List.eq_nil_of_length_eq_zero (Nat.le_zero.mp hrest)
      rw [List.mem_singleton.mp hx, List.mem_singleton.mp hy]

namespace Filter

variable {field : String} {t : Test} {min max : Option Json} {path : FieldPath}

theorem matches_range_iff (ht : t.bounds? = some (min, max))
    (hpath : FieldPath.parse field = .ok path) (options : MatchOptions) (record : Json) :
    (leaf field t).Matches options record ↔
      FieldTest.range min max (path.evaluate record) = true := by
  rw [matches_leaf_iff_of_parse hpath, Test.compile_of_bounds? ht]
  simp

/-- A range with a bound matches when some leaf is in it. -/
theorem matches_bounded_iff (ht : t.bounds? = some (min, max))
    (hpath : FieldPath.parse field = .ok path) (hbound : (min.isSome || max.isSome) = true)
    (options : MatchOptions) (record : Json) :
    (leaf field t).Matches options record ↔
      ∃ v ∈ (path.evaluate record).leaves, v.Within min max := by
  rw [matches_range_iff ht hpath,
    FieldTest.range_iff hbound (Test.boundsAgree_of_bounds? ht)]

/-- A path that finds one value matches when the value is in the range, with or without bounds. -/
theorem matches_number_iff (ht : t.bounds? = some (min, max))
    (hpath : FieldPath.parse field = .ok path) (options : MatchOptions) {record : Json} {n : Number}
    (hfound : path.evaluate record = .value (.number n)) :
    (leaf field t).Matches options record ↔ (Json.number n).Within min max := by
  cases hbound : min.isSome || max.isSome with
  | true =>
      rw [matches_bounded_iff ht hpath hbound, hfound]
      show (∃ v ∈ [Json.number n], v.Within min max) ↔ _
      simp only [List.mem_singleton, exists_eq_left]
  | false =>
      obtain ⟨hmin, hmax⟩ := Bool.or_eq_false_iff.mp hbound
      rw [Option.isSome_eq_false_iff, Option.isNone_iff_eq_none] at hmin hmax
      rw [matches_range_iff ht hpath, hfound, hmin, hmax]
      simp [Json.Within, FieldTest.range, Resolved.isTruthy]

/-- **All ranges follow one rule.** A range whose path is spelled compiles.  With a bound it matches
exactly when some leaf is truthy, at least the lower bound and at most the upper bound in the
tolerant order; without bounds it matches exactly when the result as a whole is truthy.  So the test
of equal bounds by tolerant equality is the two-sided test; a two-sided range implies both one-sided
ones, and is the same as both where there is at most one leaf.  A bound that is not finite is there,
and as nothing is compared with it, nothing matches.  An integer is in a range of signed words
exactly when it is not zero and lies between the bounds, among other leaves or alone. -/
theorem range_rule (ht : t.bounds? = some (min, max)) (hpath : FieldPath.parse field = .ok path)
    (options : MatchOptions) :
    (∃ test, (leaf field t).compile options.mode = .ok test)
    ∧ ((min.isSome || max.isSome) = true → ∀ record,
      (leaf field t).Matches options record ↔
        ∃ v ∈ (path.evaluate record).leaves, v.Within min max)
    ∧ (min = none → max = none → ∀ record,
      (leaf field t).Matches options record ↔ (path.evaluate record).isTruthy = true)
    ∧ (∀ lo hi, min = some lo → max = some hi →
      (lo.compareScalars hi = some .eq →
        ∀ v : Json, v.looseEq lo = (FieldTest.atLeast lo v && FieldTest.atMost hi v))
      ∧ (∀ record, (leaf field t).Matches options record →
        (leaf field t.withoutMax).Matches options record
          ∧ (leaf field t.withoutMin).Matches options record)
      ∧ ∀ record, (path.evaluate record).leaves.length ≤ 1 →
        ((leaf field t).Matches options record ↔
          (leaf field t.withoutMax).Matches options record
            ∧ (leaf field t.withoutMin).Matches options record))
    ∧ (∀ low high, t = .doubleRange low high →
      low.all Double.isFinite = false ∨ high.all Double.isFinite = false →
        (min.isSome || max.isSome) = true
          ∧ ∀ record, ¬ (leaf field t).Matches options record)
    ∧ ∀ low high, t = .longRange low high → ∀ n : WordInt,
      ((Json.number (.int n)).Within min max ↔ Test.IntWithin low high n.val)
      ∧ ∀ record, path.evaluate record = .value (.number (.int n)) →
        ((leaf field t).Matches options record ↔ Test.IntWithin low high n.val) := by
  refine ⟨?_, fun hbound => ?_, ?_, ?_, ?_, ?_⟩
  · exact ⟨_, compile_leaf_eq_ok_iff.mpr ⟨_, path, Test.compile_of_bounds? ht _, hpath, rfl⟩⟩
  · exact matches_bounded_iff ht hpath hbound options
  · rintro rfl rfl record
    exact matches_range_iff ht hpath options record
  · rintro lo hi rfl rfl
    have hboth := matches_bounded_iff ht hpath rfl options
    have hmin := matches_bounded_iff (Test.bounds?_withoutMax ht) hpath rfl options
    have hmax := matches_bounded_iff (Test.bounds?_withoutMin ht) hpath rfl options
    have himplies : ∀ record, (leaf field t).Matches options record →
        (leaf field t.withoutMax).Matches options record
          ∧ (leaf field t.withoutMin).Matches options record := by
      intro record h
      obtain ⟨v, hv, htruthy, hlo, hhi⟩ := (hboth record).mp h
      exact ⟨(hmin record).mpr ⟨v, hv, htruthy, hlo, nofun⟩,
        (hmax record).mpr ⟨v, hv, htruthy, nofun, hhi⟩⟩
    refine ⟨fun hequal => ?_, himplies, fun record hone => ⟨himplies record, ?_⟩⟩
    · have hagree := Test.boundsAgree_of_bounds? ht lo rfl hi rfl hequal
      exact FieldTest.looseEq_eq_atLeast_and_atMost hequal hagree
    · rintro ⟨hfrom, hto⟩
      obtain ⟨v, hv, htruthy, hlo, -⟩ := (hmin record).mp hfrom
      obtain ⟨w, hw, -, -, hhi⟩ := (hmax record).mp hto
      -- the leaf above the lower bound is the one below the upper bound
      obtain rfl : v = w := eq_of_mem_of_length_le_one hone hv hw
      exact (hboth record).mpr ⟨v, hv, htruthy, hlo, hhi⟩
  · rintro low high rfl hlost
    cases ht
    have hnull : low.map Json.ofDouble = some .null ∨ high.map Json.ofDouble = some .null :=
      hlost.imp (fun hlow => (Double.null_of_not_finite hlow).1)
        fun hhigh => (Double.null_of_not_finite hhigh).1
    refine ⟨?_, fun record hmatch => ?_⟩
    · rcases hnull with h | h <;> simp [h]
    · rw [matches_range_iff rfl hpath, FieldTest.range_eq_false hnull] at hmatch
      cases hmatch
  · rintro low high rfl n
    cases ht
    refine ⟨Test.within_int_iff low high n, fun record hfound => ?_⟩
    rw [matches_number_iff rfl hpath options hfound]
    exact Test.within_int_iff low high n

/-- The scores of a film, one of them written as a text. -/
def nestedScores : Json :=
  .object [("score", .array [.ofInt64 1, .array [.string " 3.0 "]])]

/-- Equal bounds find the text of three, which is then in both one-sided ranges; the largest
unsigned word is out of a range that ends at the largest signed word. -/
theorem range_rule_scores :
    ((leaf "score" (.longRange (some 3) (some 3))).Matches ⟨false⟩ nestedScores
      ∧ (leaf "score" (.longRange (some 3) none)).Matches ⟨false⟩ nestedScores)
    ∧ ¬ (leaf "score" (.longRange none (some 9223372036854775807))).Matches ⟨false⟩
      (.object [("score", .ofUInt64 18446744073709551615)]) := by
  have hpath : FieldPath.parse "score" = .ok ⟨"score", [.member "score"]⟩ := rfl
  constructor
  · obtain ⟨-, hbounded, -, htwo, -⟩ :=
      range_rule (t := .longRange (some 3) (some 3)) rfl hpath ⟨false⟩
    have hthree : (leaf "score" (.longRange (some 3) (some 3))).Matches ⟨false⟩ nestedScores := by
      refine (hbounded rfl nestedScores).mpr ⟨.string " 3.0 ", by decide, rfl, ?_, ?_⟩
      · rintro _ ⟨⟩
        exact Or.inr (by decide +kernel)
      · rintro _ ⟨⟩
        exact Or.inr (by decide +kernel)
    exact ⟨hthree, ((htwo _ _ rfl rfl).2.1 nestedScores hthree).1⟩
  · obtain ⟨-, -, -, -, -, hint⟩ :=
      range_rule (t := .longRange none (some 9223372036854775807)) rfl hpath ⟨false⟩
    rw [(hint _ _ rfl _).2 _ rfl]
    rintro ⟨-, -, hmax⟩
    exact absurd (hmax _ rfl) (by decide)

end Filter

end RecordQuery
