import RecordQuery.Text.Pattern

/-!
# RecordQuery.Proofs.Text.Folding — what is seen exactly is seen with folded case

Folding sends characters to characters and none but the line feed to the line feed.  So whatever a
text shows in the exact view it shows in every view: the same substrings, and the same ways to
follow a pattern, whose wildcards may not run over line feeds in either view.
-/

namespace RecordQuery.Text

/-! ## The line feed -/

/-- When all runs of a table lead past a code point, a code point that is sent to it or below was
not moved. -/
theorem eq_of_mapThrough_le {table : List CharRun} {low n : Nat}
    (htable : ∀ run ∈ table, (low : Int) < run.first + run.distance)
    (h : mapThrough n table ≤ low) : mapThrough n table = n := by
  induction table with
  | nil => rfl
  | cons run rest ih =>
      obtain ⟨hrun, hrest⟩ := List.forall_mem_cons.mp htable
      rw [mapThrough] at h ⊢
      split
      · rfl
      · next hfirst =>
          rw [if_neg hfirst] at h
          split
          · next hmoved =>
              rw [if_pos hmoved] at h
              omega
          · next hrange =>
              rw [if_neg hrange] at h
              exact ih hrest h

theorem foldingRuns_past_lineFeed :
    ∀ run ∈ foldingRuns, (('\n'.toNat : Nat) : Int) < run.first + run.distance := by
  decide +kernel

/-- Only the line feed folds to the line feed. -/
theorem eq_lineFeed_of_foldChar {c : Char} (h : foldChar c = '\n') : c = '\n' := by
  rw [foldChar, mapChar, Char.ofNat] at h
  by_cases hvalid : (mapThrough c.toNat foldingRuns).isValidChar
  · rw [dif_pos hvalid] at h
    have hcode : mapThrough c.toNat foldingRuns = '\n'.toNat := congrArg Char.toNat h
    rw [eq_of_mapThrough_le foldingRuns_past_lineFeed (Nat.le_of_eq hcode)] at hcode
    exact Char.toNat_inj.mp hcode
  · rw [dif_neg hvalid] at h
    cases h

namespace CaseMode

theorem view_lineFeed (mode : CaseMode) : mode.view '\n' = '\n' := by
  cases mode with
  | exact => rfl
  | folded => decide

theorem eq_lineFeed_of_view {mode : CaseMode} {c : Char} (h : mode.view c = '\n') : c = '\n' := by
  cases mode with
  | exact => exact h
  | folded => exact eq_lineFeed_of_foldChar h

/-- A view of a run without line feeds has none. -/
theorem lineFeed_notMem_viewText (mode : CaseMode) {cs : List Char} (h : '\n' ∉ cs) :
    '\n' ∉ mode.viewText cs := by
  intro hmem
  obtain ⟨c, hc, hview⟩ := List.mem_map.mp hmem
  rw [eq_lineFeed_of_view hview] at hc
  exact h hc

end CaseMode

/-! ## Substrings and patterns -/

/-- A substring is one in every view. -/
theorem occursIn_viewText (mode : CaseMode) {needle cs : List Char}
    (h : occursIn needle cs = true) :
    occursIn (mode.viewText needle) (mode.viewText cs) = true := by
  obtain ⟨before, after, rfl⟩ := (occursIn_iff _ _).mp h
  apply (occursIn_iff _ _).mpr
  exact ⟨mode.viewText before, mode.viewText after, by simp [CaseMode.viewText]⟩

namespace Pattern

@[simp]
theorem view_exact (p : Pattern) : p.view .exact = p := by
  induction p with
  | nil => rfl
  | cons part rest ih =>
      cases part with
      | char c => exact congrArg (.char c :: ·) ih
      | anyRun => exact congrArg (.anyRun :: ·) ih

/-- A text that follows a pattern follows it in every view. -/
theorem accepts_view (mode : CaseMode) {p : Pattern} {cs : List Char} (h : p.Accepts cs) :
    (p.view mode).Accepts (mode.viewText cs) := by
  induction p generalizing cs with
  | nil =>
      cases h
      rfl
  | cons part rest ih =>
      cases part with
      | char c =>
          obtain ⟨later, rfl, hlater⟩ := h
          exact ⟨mode.viewText later, rfl, ih hlater⟩
      | anyRun =>
          obtain ⟨run, later, rfl, hrun, hlater⟩ := h
          exact ⟨mode.viewText run, mode.viewText later, by simp [CaseMode.viewText],
            mode.lineFeed_notMem_viewText hrun, ih hlater⟩

theorem recognizes_view (mode : CaseMode) {p : Pattern} {cs : List Char}
    (h : p.recognizes cs = true) : (p.view mode).recognizes (mode.viewText cs) = true :=
  (recognizes_iff _ _).mpr (accepts_view mode ((recognizes_iff _ _).mp h))

end Pattern

end RecordQuery.Text
