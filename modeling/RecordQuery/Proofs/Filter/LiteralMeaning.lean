import RecordQuery.Proofs.Filter.Ranges
import RecordQuery.Proofs.PathFaults

/-!
# RecordQuery.Proofs.Filter.LiteralMeaning — what a filter means after its literal was read

A filter whose double bounds are finite matches the same records after it was written and read.  A
bound that is not finite does not arrive: as a bound it is a null, which no value is compared with,
so that the range matches nothing, while its literal is read as a range without that bound.  Every
path leads somewhere in some record, so the range that was read always matches more.
-/

namespace RecordQuery

/-! ## Records for a path -/

namespace FieldPath

/-- A record that holds a value where a chain of segments leads, with one member for each name and
each index. -/
def holder (v : Json) : List Segment → Json
  | [] => v
  | .member name :: rest => .object [(name, holder v rest)]
  | .index i :: rest => .object [(Numeral.string i, holder v rest)]
  | .wildcard :: rest => holder v rest

theorem intoAll_of_ne_array {v : Json} (hv : ∀ items, v ≠ .array items) (next : Json → Resolved) :
    intoAll next v = next v := by
  cases v with
  | array items => exact absurd rfl (hv items)
  | _ => rfl

variable {v : Json}

theorem holder_ne_array (hv : ∀ items, v ≠ .array items) (segments : List Segment) :
    ∀ items, holder v segments ≠ .array items := by
  induction segments with
  | nil => exact hv
  | cons segment rest ih =>
      cases segment with
      | member name => exact fun _ => nofun
      | index i => exact fun _ => nofun
      | wildcard => exact ih

/-- A chain of segments finds in its record the value held there; an array would be opened by a
wildcard. -/
theorem resolve_holder (hv : ∀ items, v ≠ .array items) (segments : List Segment) :
    resolve segments (holder v segments) = .value v := by
  induction segments with
  | nil => rfl
  | cons segment rest ih =>
      cases segment with
      | member name => simpa [resolve, holder, intoMember, Json.lookup] using ih
      | index i => simpa [resolve, holder, intoIndex, Json.lookup] using ih
      | wildcard => exact (intoAll_of_ne_array (holder_ne_array hv rest) _).trans ih

theorem canonical_holder (hv : v.Canonical) (segments : List Segment) :
    (holder v segments).Canonical := by
  induction segments with
  | nil => exact hv
  | cons segment rest ih =>
      cases segment with
      | member name => exact ⟨List.pairwise_singleton _ _, ih, trivial⟩
      | index i => exact ⟨List.pairwise_singleton _ _, ih, trivial⟩
      | wildcard => exact ih

end FieldPath

/-! ## Bounds that are read -/

theorem FiniteDouble.key_bounds (x : FiniteDouble) :
    -(infinityCode : Int) < x.key ∧ x.key < infinityCode := by
  have hcode := x.code_lt
  rw [key]
  split <;> omega

namespace Double

/-- What arrives of a bound is no bound, or a finite one. -/
theorem map_kept? (bound : Option Double) :
    (bound.bind kept?).map Json.ofDouble = none
      ∨ ∃ x, (bound.bind kept?).map Json.ofDouble = some (.number (.double x)) := by
  cases bound with
  | none => exact Or.inl rfl
  | some x =>
      cases x with
      | finite y => exact Or.inr ⟨y, rfl⟩
      | infinite negative => exact Or.inl rfl
      | nan => exact Or.inl rfl

end Double

namespace FieldTest

/-- Minus infinity, as a text, is at most any finite double. -/
theorem atMost_minusInfinity (x : FiniteDouble) :
    atMost (.number (.double x)) (.string "-inf") = true := by
  have hread : Json.numberIn? "-inf" = some (.infinite true) := by decide
  have hless : compare (-(infinityCode : Int)) x.key = .lt := Int.compare_eq_lt.mpr x.key_bounds.1
  simp [atMost, Json.compareLoose, hread, Double.compare?, Double.key, Number.toDouble, hless]

/-- Infinity, as a text, is at least any finite double. -/
theorem atLeast_infinity (x : FiniteDouble) :
    atLeast (.number (.double x)) (.string "inf") = true := by
  have hread : Json.numberIn? "inf" = some (.infinite false) := by decide
  have hmore : compare (infinityCode : Int) x.key = .gt := Int.compare_eq_gt.mpr x.key_bounds.2
  simp [atLeast, Json.compareLoose, hread, Double.compare?, Double.key, Number.toDouble, hmore]

/-- Something is in every range that is open on one side and has finite bounds. -/
theorem exists_mem_range {min max : Option Json}
    (hmin : min = none ∨ ∃ x, min = some (.number (.double x)))
    (hmax : max = none ∨ ∃ x, max = some (.number (.double x))) (hopen : min = none ∨ max = none) :
    ∃ v : Json, (∀ items, v ≠ .array items) ∧ v.Canonical ∧ range min max (.value v) = true := by
  -- a number next to the bound would not do, for zero is in no bounded range
  rcases hmin with rfl | ⟨x, rfl⟩
  · rcases hmax with rfl | ⟨x, rfl⟩
    · exact ⟨.bool true, nofun, trivial, rfl⟩
    · exact ⟨.string "-inf", nofun, trivial, atMost_minusInfinity x⟩
  · rcases hopen with h | rfl
    · cases h
    · exact ⟨.string "inf", nofun, trivial, atLeast_infinity x⟩

end FieldTest

/-! ## Filters -/

/-- Only a range of doubles has a bound that is not finite. -/
theorem Test.exists_doubleRange {test : Test} (h : test.boundsFinite = false) :
    ∃ min max, test = .doubleRange min max
      ∧ (min.all Double.isFinite = false ∨ max.all Double.isFinite = false) := by
  cases test with
  | doubleRange min max => exact ⟨min, max, rfl, Bool.and_eq_false_iff.mp h⟩
  | _ => cases h

/-- A range with a bound that is not finite matches nothing, and what is read from its literal
matches something. -/
theorem Test.compile_received {test : Test} (h : test.boundsFinite = false)
    (mode : Text.CaseMode) :
    ∃ before after, test.compile mode = .ok before ∧ test.received.compile mode = .ok after
      ∧ (∀ r, before r = false)
      ∧ ∃ v : Json, (∀ items, v ≠ .array items) ∧ v.Canonical ∧ after (.value v) = true := by
  obtain ⟨min, max, rfl, hbound⟩ := exists_doubleRange h
  refine ⟨_, _, rfl, rfl, ?_, ?_⟩
  · exact FieldTest.range_eq_false (hbound.imp (fun hmin => (Double.null_of_not_finite hmin).1)
      fun hmax => (Double.null_of_not_finite hmax).1)
  · apply FieldTest.exists_mem_range (Double.map_kept? min) (Double.map_kept? max)
    exact hbound.imp (fun hmin => by rw [(Double.null_of_not_finite hmin).2]; rfl)
      fun hmax => by rw [(Double.null_of_not_finite hmax).2]; rfl

namespace Filter

/-- **What a filter means after its literal was read.** When all double bounds of a filter are
finite, what is read from its literal compiles to the same predicate, or fails alike.  In a single
test, a bound that is not finite is lost: the test matched no record, and what is read from its
literal matches one. -/
theorem meaning_of_literal (f : Filter) :
    ∃ g, ofJson f.toJson = .ok g
      ∧ ((∀ leaf ∈ f.leaves, leaf.2.boundsFinite = true) →
        ∀ options : MatchOptions, g.compile options.mode = f.compile options.mode)
      ∧ ∀ field test, f = leaf field test → FieldPath.Spelled field → test.boundsFinite = false →
        ∀ options : MatchOptions, ∃ before after, f.compile options.mode = .ok before
          ∧ g.compile options.mode = .ok after
          ∧ (∀ record, before record = false)
          ∧ ∃ record : Json, record.Canonical ∧ after record = true := by
  refine ⟨f.received, ofJson_toJson f, ?_, ?_⟩
  · intro hfinite options
    rw [f.received_eq_self fun leaf hleaf => Test.received_of_boundsFinite (hfinite leaf hleaf)]
  · rintro field test rfl ⟨path, hpath⟩ hlost options
    obtain ⟨before, after, hbefore, hafter, hnone, v, hv, hcanonical, hmatch⟩ :=
      Test.compile_received hlost options.mode
    refine ⟨_, _, compile_leaf_eq_ok_iff.mpr ⟨before, path, hbefore, hpath, rfl⟩,
      compile_leaf_eq_ok_iff.mpr ⟨after, path, hafter, hpath, rfl⟩, fun _ => hnone _, ?_⟩
    refine ⟨FieldPath.holder v path.segments, FieldPath.canonical_holder hcanonical _, ?_⟩
    rw [FieldPath.evaluate, FieldPath.resolve_holder hv]
    exact hmatch

/-- Ratings of at least one and a half, negated. -/
def lowRatings : Filter :=
  group .nor
    [leaf "rating" (.doubleRange (some (.finite ⟨false, 4609434218613702656, by decide⟩)) none)]

/-- A test of the members of a cast with an upper bound that is infinite. -/
def unboundedCast : Filter :=
  leaf "cast[*]" (.doubleRange none (some (.infinite false)))

/-- A finite bound arrives; an infinite one does not, and then some record is matched. -/
theorem meaning_of_literal_lowRatings :
    (∃ g, ofJson lowRatings.toJson = .ok g ∧
      g.compile (MatchOptions.mode ⟨true⟩) = lowRatings.compile (MatchOptions.mode ⟨true⟩))
    ∧ ∃ g after, ofJson unboundedCast.toJson = .ok g
      ∧ g.compile (MatchOptions.mode ⟨true⟩) = .ok after ∧ ∃ record, after record = true := by
  constructor
  · obtain ⟨g, hread, hsame, -⟩ := meaning_of_literal lowRatings
    exact ⟨g, hread, hsame (by decide) ⟨true⟩⟩
  · have hspelled : FieldPath.Spelled "cast[*]" :=
      ⟨⟨"cast[*]", [.member "cast", .wildcard]⟩, rfl⟩
    obtain ⟨g, hread, -, hlost⟩ := meaning_of_literal unboundedCast
    obtain ⟨_, after, -, hafter, -, record, -, hmatch⟩ := hlost _ _ rfl hspelled rfl ⟨true⟩
    exact ⟨g, after, hread, hafter, record, hmatch⟩

/-- The range from not-a-number upwards does not match five, and what is read from its literal
does. -/
theorem meaning_of_literal_nan :
    ∃ g before after,
      ofJson (leaf "x" (.doubleRange (some .nan) none)).toJson = .ok g
      ∧ compile (MatchOptions.mode ⟨false⟩) (leaf "x" (.doubleRange (some .nan) none)) = .ok before
      ∧ g.compile (MatchOptions.mode ⟨false⟩) = .ok after
      ∧ before (.object [("x", .ofInt64 5)]) = false
      ∧ after (.object [("x", .ofInt64 5)]) = true :=
  ⟨_, _, _, ofJson_toJson _, rfl, rfl, rfl, rfl⟩

end Filter

end RecordQuery
