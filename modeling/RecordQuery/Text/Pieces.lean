/-!
# RecordQuery.Text.Pieces — a text cut at a separator

Every separator ends a piece, so a text with `n` separators has `n + 1` pieces, of which some may be
empty.  No piece holds a separator, and pieces that hold none are what their join is cut into.
-/

namespace RecordQuery.Text

/-- The pieces of a text between separators; there is always at least one. -/
def pieces (separator : Char) : List Char → List (List Char)
  | [] => [[]]
  | c :: rest =>
    if c = separator then [] :: pieces separator rest
    else
      match pieces separator rest with
      | [] => [[c]]
      | piece :: later => (c :: piece) :: later

theorem pieces_ne_nil (separator : Char) (cs : List Char) : pieces separator cs ≠ [] := by
  cases cs with
  | nil => simp [pieces]
  | cons c rest =>
    rw [pieces]
    split
    · simp
    · split <;> simp

/-- No piece holds a separator. -/
theorem separator_not_mem_of_mem_pieces (separator : Char) (cs piece : List Char)
    (h : piece ∈ pieces separator cs) : separator ∉ piece := by
  induction cs generalizing piece with
  | nil =>
    rw [pieces, List.mem_singleton] at h
    simp [h]
  | cons c rest ih =>
    rw [pieces] at h
    split at h
    · rcases List.mem_cons.1 h with rfl | h
      · simp
      · exact ih piece h
    · next hc =>
      split at h
      · next heq => exact absurd heq (pieces_ne_nil separator rest)
      · next first later heq =>
        rcases List.mem_cons.1 h with rfl | h
        · have := ih first (by rw [heq]; exact List.mem_cons_self)
          simp [this, Ne.symm hc]
        · exact ih piece (by rw [heq]; exact List.mem_cons_of_mem _ h)

/-- A text without separators is one piece. -/
theorem pieces_of_notMem {separator : Char} {cs : List Char} (h : separator ∉ cs) :
    pieces separator cs = [cs] := by
  induction cs with
  | nil => rfl
  | cons c rest ih =>
    obtain ⟨hc, hrest⟩ := List.ne_and_not_mem_of_not_mem_cons h
    rw [pieces, if_neg (Ne.symm hc), ih hrest]

/-- The first separator ends the first piece. -/
theorem pieces_append_cons {separator : Char} {piece : List Char} (h : separator ∉ piece)
    (cs : List Char) :
    pieces separator (piece ++ separator :: cs) = piece :: pieces separator cs := by
  induction piece with
  | nil => rw [List.nil_append, pieces, if_pos rfl]
  | cons c rest ih =>
    obtain ⟨hc, hrest⟩ := List.ne_and_not_mem_of_not_mem_cons h
    rw [List.cons_append, pieces, if_neg (Ne.symm hc), ih hrest]

/-- Separators around a text cut off an empty piece at either end. -/
theorem pieces_between {separator : Char} {cs : List Char} (h : separator ∉ cs) :
    pieces separator (separator :: (cs ++ [separator])) = [[], cs, []] := by
  rw [pieces, if_pos rfl, pieces_append_cons h, pieces]

/-- Pieces without separators are what their join is cut into. -/
theorem pieces_intercalate {separator : Char} {ps : List (List Char)} (hne : ps ≠ [])
    (h : ∀ piece ∈ ps, separator ∉ piece) : pieces separator ([separator].intercalate ps) = ps := by
  induction ps with
  | nil => exact absurd rfl hne
  | cons piece later ih =>
    obtain ⟨hpiece, hlater⟩ := List.forall_mem_cons.1 h
    cases later with
    | nil => rw [List.intercalate_singleton, pieces_of_notMem hpiece]
    | cons next later =>
      rw [List.intercalate_cons_cons, List.append_assoc, List.singleton_append,
        pieces_append_cons hpiece, ih (List.cons_ne_nil next later) hlater]

end RecordQuery.Text
