import RecordQuery.Text.Blank

/-!
# RecordQuery.Proofs.Text.Spans — where a run of characters ends

Readers take characters while a test passes and go on with the rest.  `Text.span_eq_iff` says which
split of the text that is: the only one whose first part passes throughout and whose second part does
not begin with a character that passes.  Trimming is two such splits, one from either end.
-/

namespace RecordQuery.Text

/-- **Where a run ends.** A text is split into its leading run and the rest in exactly one way. -/
theorem span_eq_iff {test : Char → Bool} {cs run rest : List Char} :
    cs.takeWhile test = run ∧ cs.dropWhile test = rest ↔
      cs = run ++ rest ∧ (∀ c ∈ run, test c = true) ∧ ∀ c ∈ rest.head?, test c = false := by
  constructor
  · rintro ⟨rfl, rfl⟩
    refine ⟨List.takeWhile_append_dropWhile.symm, fun c hc => ?_, ?_⟩
    · exact List.all_eq_true.mp List.all_takeWhile c hc
    · intro c hc
      have hhead := List.head?_dropWhile_not test cs
      rw [hc] at hhead
      simpa using hhead
  · rintro ⟨rfl, hrun, hrest⟩
    rw [List.takeWhile_append_of_pos hrun, List.dropWhile_append_of_pos hrun]
    cases rest with
    | nil => simp
    | cons c rest =>
        have hc : test c = false := hrest c rfl
        simp [hc]

/-- The split at the first occurrence of a character. -/
theorem span_ne_eq_iff {q : Char} {cs run rest : List Char} :
    cs.takeWhile (· != q) = run ∧ cs.dropWhile (· != q) = q :: rest ↔
      cs = run ++ q :: rest ∧ q ∉ run := by
  rw [span_eq_iff]
  constructor
  · rintro ⟨hcs, hrun, -⟩
    exact ⟨hcs, fun hq => by simpa using hrun q hq⟩
  · rintro ⟨hcs, hq⟩
    refine ⟨hcs, ?_, by simp⟩
    intro c hc
    have : c ≠ q := fun heq => hq (heq ▸ hc)
    simpa using this

/-- What a run up to a character leaves begins with that character. -/
theorem dropWhile_ne_eq_cons {q c : Char} {cs rest : List Char}
    (h : cs.dropWhile (· != q) = c :: rest) : c = q := by
  have := (span_eq_iff.mp ⟨rfl, h⟩).2.2 c rfl
  simpa using this

/-! ## Trimming -/

/-- `core` is what is left of `cs` without the blanks at its ends. -/
structure TrimsTo (cs core : List Char) : Prop where
  split : ∃ before after, cs = before ++ core ++ after
    ∧ (∀ c ∈ before, isBlank c = true) ∧ ∀ c ∈ after, isBlank c = true
  head : ∀ c ∈ core.head?, isBlank c = false
  last : ∀ c ∈ core.getLast?, isBlank c = false

/-- The blanks at the end of a text are what is cut off. -/
theorem trimRight_eq_iff {cs core : List Char} :
    trimRight cs = core ↔
      (∃ after, cs = core ++ after ∧ ∀ c ∈ after, isBlank c = true)
        ∧ ∀ c ∈ core.getLast?, isBlank c = false := by
  constructor
  · rintro rfl
    obtain ⟨hcs, hrun, hlast⟩ := (@span_eq_iff isBlank cs.reverse _ _).mp ⟨rfl, rfl⟩
    refine ⟨⟨(cs.reverse.takeWhile isBlank).reverse, ?_, ?_⟩, ?_⟩
    · rw [trimRight, ← List.reverse_append, ← hcs, List.reverse_reverse]
    · intro c hc
      exact hrun c (List.mem_reverse.mp hc)
    · intro c hc
      rw [trimRight, List.getLast?_reverse] at hc
      exact hlast c hc
  · rintro ⟨⟨after, rfl, hafter⟩, hlast⟩
    have hafter : ∀ c ∈ after.reverse, isBlank c = true :=
      fun c hc => hafter c (List.mem_reverse.mp hc)
    have hlast : ∀ c ∈ core.reverse.head?, isBlank c = false := by
      rw [List.head?_reverse]
      exact hlast
    have hspan := span_eq_iff.mpr ⟨List.reverse_append, hafter, hlast⟩
    rw [trimRight, hspan.2, List.reverse_reverse]

/-- **Trimming cuts exactly the blanks at both ends.** -/
theorem trim_eq_iff {cs core : List Char} : trim cs = core ↔ TrimsTo cs core := by
  rw [trim, trimRight_eq_iff]
  constructor
  · rintro ⟨⟨after, hdrop, hafter⟩, hlast⟩
    obtain ⟨hcs, hbefore, hhead⟩ := (@span_eq_iff isBlank cs _ _).mp ⟨rfl, rfl⟩
    refine ⟨⟨_, after, ?_, hbefore, hafter⟩, ?_, hlast⟩
    · rw [List.append_assoc, ← hdrop]
      exact hcs
    · intro c hc
      apply hhead
      rw [hdrop, List.head?_append, hc]
      rfl
  · rintro ⟨⟨before, after, hcs, hbefore, hafter⟩, hhead, hlast⟩
    refine ⟨?_, hlast⟩
    cases core with
    | nil =>
        -- a text of blanks only is cut off from its left end already
        have hall : ∀ c ∈ before ++ after, isBlank c = true := by
          intro c hc
          rcases List.mem_append.mp hc with hc | hc
          · exact hbefore c hc
          · exact hafter c hc
        have hspan := span_eq_iff.mpr ⟨(List.append_nil (before ++ after)).symm, hall, by simp⟩
        rw [List.append_nil] at hcs
        exact ⟨[], by rw [hcs, hspan.2]; rfl, by simp⟩
    | cons c core =>
        rw [List.append_assoc] at hcs
        have hspan := span_eq_iff.mpr ⟨hcs, hbefore, hhead⟩
        exact ⟨after, hspan.2, hafter⟩

/-- Nothing is cut off a text that neither begins nor ends with a blank. -/
theorem trim_eq_self_iff {cs : List Char} :
    trim cs = cs ↔ (∀ c ∈ cs.head?, isBlank c = false) ∧ ∀ c ∈ cs.getLast?, isBlank c = false := by
  rw [trim_eq_iff]
  constructor
  · intro h
    exact ⟨h.head, h.last⟩
  · rintro ⟨hhead, hlast⟩
    exact ⟨⟨[], [], (List.append_nil cs).symm, nofun, nofun⟩, hhead, hlast⟩

/-- Trimming leaves characters of the text only. -/
theorem TrimsTo.subset {cs core : List Char} (h : TrimsTo cs core) : core ⊆ cs := by
  obtain ⟨before, after, rfl, -, -⟩ := h.split
  intro c hc
  exact List.mem_append_left after (List.mem_append_right before hc)

/-- Trimming never gives a longer text. -/
theorem TrimsTo.length_le {cs core : List Char} (h : TrimsTo cs core) :
    core.length ≤ cs.length := by
  obtain ⟨before, after, rfl, -, -⟩ := h.split
  rw [List.length_append, List.length_append]
  omega

end RecordQuery.Text
