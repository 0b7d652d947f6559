import RecordQuery.Filter.Predicate

/-!
# RecordQuery.Proofs.Filter.PatternLimit — tests whose patterns are not too large

The size of its pattern is all that can keep a test from being compiled.  A test within the limit
compiles in both case modes, although a mode that compares characters as they are builds fewer
patterns.  Whether the path of its field can be read is another matter.
-/

namespace RecordQuery

/-- The pattern of a test of texts: that of `like` has wildcards, the others describe one text. -/
def Test.pattern? : Test → Option Text.Pattern
  | .containsString needle => needle.map fun text => .literal text.toList
  | .like pattern => pattern.map fun text => .ofText text.toList
  | .string value => value.map fun text => .literal text.toList
  | .stringMap _ value => value.map fun text => .literal text.toList
  | _ => none

/-- The pattern of a test, if it has one, is not too large. -/
def Test.WithinLimit (test : Test) : Prop :=
  ∀ pattern ∈ test.pattern?, pattern.fits = true

instance (test : Test) : Decidable test.WithinLimit :=
  inferInstanceAs (Decidable (∀ pattern ∈ test.pattern?, pattern.fits = true))

/-- The patterns of all leaves are not too large. -/
def Filter.WithinLimit (f : Filter) : Prop :=
  ∀ leaf ∈ f.leaves, leaf.2.WithinLimit

instance (f : Filter) : Decidable f.WithinLimit :=
  inferInstanceAs (Decidable (∀ leaf ∈ f.leaves, leaf.2.WithinLimit))

/-- Leaving parts out makes no pattern larger. -/
theorem Text.Pattern.foldl_partSize_le {p q : Pattern} (h : p.Sublist q) {a b : Nat}
    (hab : a ≤ b) : p.foldl (fun total part => total + partSize part) a
      ≤ q.foldl (fun total part => total + partSize part) b := by
  induction h generalizing a b with
  | slnil => exact hab
  | cons part _ ih => exact ih (Nat.le_add_right_of_le hab)
  | cons_cons part _ ih => exact ih (Nat.add_le_add_right hab _)

/-- What is left of a pattern within the limit is within it. -/
theorem Text.Pattern.fits_of_sublist {p q : Pattern} (h : p.Sublist q) (hq : q.fits = true) :
    p.fits = true :=
  decide_eq_true (Nat.le_trans (foldl_partSize_le h (Nat.le_refl 0)) (of_decide_eq_true hq))

/-! ## Text tests -/

namespace TextTest

theorem limited_eq_ok_iff {pattern : Text.Pattern} {test result : TextTest} :
    limited pattern test = .ok result ↔ pattern.fits = true ∧ test = result := by
  rw [limited]
  split
  · next h => simp [h]
  · next h => simp [h]

variable {text : String} (mode : Text.CaseMode)

theorem exists_ofEquality (h : (Text.Pattern.literal text.toList).fits = true) :
    ∃ test, ofEquality mode text = .ok test := by
  cases mode with
  | exact => exact ⟨_, rfl⟩
  | folded => exact ⟨_, limited_eq_ok_iff.mpr ⟨h, rfl⟩⟩

theorem exists_ofNeedle (h : (Text.Pattern.literal text.toList).fits = true) :
    ∃ test, ofNeedle mode text = .ok test := by
  cases mode with
  | exact => exact ⟨_, rfl⟩
  | folded => exact ⟨_, limited_eq_ok_iff.mpr ⟨h, rfl⟩⟩

theorem exists_ofLike (h : (Text.Pattern.ofText text.toList).fits = true) :
    ∃ test, ofLike mode text = .ok test :=
  ⟨_, limited_eq_ok_iff.mpr ⟨h, rfl⟩⟩

end TextTest

/-- A test with an optional text compiles when the test of the text, if there is one, does. -/
theorem exists_mapM_eq_ok {α β γ : Type} {f : α → Except QueryError β} {x : Option α}
    (h : ∀ a ∈ x, ∃ b, f a = .ok b) (g : Option β → γ) :
    ∃ c, (x.mapM f >>= fun y => .ok (g y)) = .ok c := by
  cases x with
  | none => exact ⟨g none, rfl⟩
  | some a =>
      obtain ⟨b, hb⟩ := h a rfl
      exact ⟨g (some b), by rw [Option.mapM_some, hb]; rfl⟩

/-! ## Tests -/

/-- A test within the limit compiles in both case modes. -/
theorem Test.exists_compile {t : Test} (h : t.WithinLimit) (mode : Text.CaseMode) :
    ∃ test, t.compile mode = .ok test := by
  cases t with
  | containsString needle =>
      refine exists_mapM_eq_ok (fun text htext => ?_) FieldTest.text
      exact TextTest.exists_ofNeedle mode (h _ (Option.mem_map_of_mem _ htext))
  | like pattern =>
      refine exists_mapM_eq_ok (fun text htext => ?_) FieldTest.text
      exact TextTest.exists_ofLike mode (h _ (Option.mem_map_of_mem _ htext))
  | string value =>
      refine exists_mapM_eq_ok (fun text htext => ?_) FieldTest.text
      exact TextTest.exists_ofEquality mode (h _ (Option.mem_map_of_mem _ htext))
  | stringMap key value =>
      refine exists_mapM_eq_ok (fun text htext => ?_) (FieldTest.map key)
      exact TextTest.exists_ofEquality mode (h _ (Option.mem_map_of_mem _ htext))
  | _ => exact ⟨_, rfl⟩

end RecordQuery
