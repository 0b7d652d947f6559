import RecordQuery.Proofs.Text.Folding
import RecordQuery.Text.Pieces

/-!
# RecordQuery.Proofs.Text.Wildcards — how the texts of a pattern are put together

Its percent signs cut a written pattern into pieces.  A text follows the pattern exactly when it can
be taken apart in the same way: into parts that a case mode sees as the pieces, with runs between
them that have no line feed.  Any such division will do, so parts may stand in the text more than
once and a run may be empty.
-/

namespace RecordQuery.Text

/-! ## Divisions -/

/-- A division of a text into parts with runs between them: the first part, and every later part
after the run before it. -/
structure Division where
  first : List Char
  later : List (List Char × List Char)

namespace Division

/-- The parts of a division from left to right. -/
def parts (d : Division) : List (List Char) :=
  d.first :: d.later.map Prod.snd

/-- The runs between the parts. -/
def runs (d : Division) : List (List Char) :=
  d.later.map Prod.fst

/-- The text that is divided. -/
def text (d : Division) : List Char :=
  d.first ++ d.later.flatMap fun x => x.1 ++ x.2

end Division

/-- A text can be divided into parts that a mode sees as the given pieces, with runs without line
feeds between them. -/
def Divides (mode : CaseMode) (ps : List (List Char)) (t : List Char) : Prop :=
  ∃ d : Division, d.text = t ∧ d.parts.map mode.viewText = ps.map mode.viewText
    ∧ ∀ run ∈ d.runs, '\n' ∉ run

variable {mode : CaseMode} {t : List Char}

/-- With one piece, the whole text is the part. -/
theorem divides_singleton {piece : List Char} :
    Divides mode [piece] t ↔ mode.viewText t = mode.viewText piece := by
  constructor
  · rintro ⟨⟨first, later⟩, rfl, hparts, -⟩
    cases later with
    | nil => simpa [Division.parts, Division.text] using hparts
    | cons x later => simp [Division.parts] at hparts
  · intro h
    exact ⟨⟨t, []⟩, List.append_nil t, congrArg (· :: []) h, nofun⟩

/-- With more pieces, a part and a run stand before a text that is divided by the others. -/
theorem divides_cons_cons {piece next : List Char} {later : List (List Char)} :
    Divides mode (piece :: next :: later) t ↔ ∃ part run rest, t = part ++ (run ++ rest)
      ∧ mode.viewText part = mode.viewText piece ∧ '\n' ∉ run
      ∧ Divides mode (next :: later) rest := by
  constructor
  · rintro ⟨⟨first, between⟩, rfl, hparts, hruns⟩
    cases between with
    | nil => simp [Division.parts] at hparts
    | cons x between =>
        obtain ⟨hfirst, hparts⟩ := List.cons_eq_cons.mp hparts
        obtain ⟨hrun, hruns⟩ := List.forall_mem_cons.mp hruns
        refine ⟨first, x.1, (Division.mk x.2 between).text, ?_, hfirst, hrun, ?_⟩
        · simp [Division.text]
        · exact ⟨⟨x.2, between⟩, rfl, hparts, hruns⟩
  · rintro ⟨part, run, _, rfl, hpart, hrun, ⟨first, between⟩, rfl, hparts, hruns⟩
    refine ⟨⟨part, (run, first) :: between⟩, ?_, ?_, ?_⟩
    · simp [Division.text]
    · exact List.cons_eq_cons.mpr ⟨hpart, hparts⟩
    · exact List.forall_mem_cons.mpr ⟨hrun, hruns⟩

/-- Before a second piece, an empty piece leaves only the run. -/
theorem divides_nil_cons {next : List Char} {later : List (List Char)} :
    Divides mode ([] :: next :: later) t ↔ ∃ run rest, t = run ++ rest ∧ '\n' ∉ run
      ∧ Divides mode (next :: later) rest := by
  rw [divides_cons_cons]
  constructor
  · rintro ⟨part, run, rest, rfl, hpart, hrun, hrest⟩
    obtain rfl := List.map_eq_nil_iff.mp hpart
    exact ⟨run, rest, rfl, hrun, hrest⟩
  · rintro ⟨run, rest, rfl, hrun, hrest⟩
    exact ⟨[], run, rest, rfl, rfl, hrun, hrest⟩

/-- The first character of the first piece is seen in the first character of the text. -/
theorem divides_char_cons {c : Char} {piece : List Char} {later : List (List Char)} :
    Divides mode ((c :: piece) :: later) t ↔ ∃ d rest, t = d :: rest ∧ mode.view d = mode.view c
      ∧ Divides mode (piece :: later) rest := by
  cases later with
  | nil =>
      simp only [divides_singleton]
      constructor
      · intro h
        obtain ⟨d, rest, rfl, hd, hrest⟩ := List.map_eq_cons_iff.mp h
        exact ⟨d, rest, rfl, hd, hrest⟩
      · rintro ⟨d, rest, rfl, hd, hrest⟩
        exact List.cons_eq_cons.mpr ⟨hd, hrest⟩
  | cons next later =>
      simp only [divides_cons_cons]
      constructor
      · rintro ⟨part, run, rest, rfl, hpart, hrest⟩
        obtain ⟨d, part, rfl, hd, hpart⟩ := List.map_eq_cons_iff.mp hpart
        exact ⟨d, part ++ (run ++ rest), rfl, hd, part, run, rest, rfl, hpart, hrest⟩
      · rintro ⟨d, _, rfl, hd, part, run, rest, rfl, hpart, hrest⟩
        exact ⟨d :: part, run, rest, rfl, List.cons_eq_cons.mpr ⟨hd, hpart⟩, hrest⟩

/-! ## Patterns -/

namespace Pattern

/-- A text without percent signs is a pattern of itself. -/
theorem ofText_of_notMem {cs : List Char} (h : '%' ∉ cs) : ofText cs = literal cs := by
  refine List.map_congr_left fun c hc => if_neg ?_
  rintro rfl
  exact h hc

theorem view_ofText_percent (cs : List Char) :
    (ofText ('%' :: cs)).view mode = .anyRun :: (ofText cs).view mode := rfl

theorem view_ofText_cons {c : Char} (hc : c ≠ '%') (cs : List Char) :
    (ofText (c :: cs)).view mode = .char (mode.view c) :: (ofText cs).view mode := by
  rw [ofText, List.map_cons, partOf, if_neg hc]
  rfl

/-- A character of a pattern is met by a character that the mode sees alike. -/
theorem accepts_char_viewText {c : Char} {p : Pattern} {t : List Char} :
    Accepts (.char (mode.view c) :: p) (mode.viewText t) ↔
      ∃ d rest, t = d :: rest ∧ mode.view d = mode.view c ∧ p.Accepts (mode.viewText rest) := by
  constructor
  · rintro ⟨_, hview, hrest⟩
    obtain ⟨d, rest, rfl, hd, rfl⟩ := List.map_eq_cons_iff.mp hview
    exact ⟨d, rest, rfl, hd, hrest⟩
  · rintro ⟨d, rest, rfl, hd, hrest⟩
    exact ⟨_, List.cons_eq_cons.mpr ⟨hd, rfl⟩, hrest⟩

/-- A wildcard is met by a run without line feeds, in whatever mode it is seen. -/
theorem accepts_anyRun_viewText {p : Pattern} {t : List Char} :
    Accepts (.anyRun :: p) (mode.viewText t) ↔
      ∃ run rest, t = run ++ rest ∧ '\n' ∉ run ∧ p.Accepts (mode.viewText rest) := by
  constructor
  · rintro ⟨_, _, hview, hrun, hrest⟩
    obtain ⟨run, rest, rfl, rfl, rfl⟩ := List.map_eq_append_iff.mp hview
    refine ⟨run, rest, rfl, fun hmem => hrun ?_, hrest⟩
    exact List.mem_map.mpr ⟨'\n', hmem, mode.view_lineFeed⟩
  · rintro ⟨run, rest, rfl, hrun, hrest⟩
    exact ⟨_, _, List.map_append, mode.lineFeed_notMem_viewText hrun, hrest⟩

/-- A mode sees a text follow a written pattern exactly when the pieces of the pattern divide the
text. -/
theorem accepts_view_ofText_iff (cs t : List Char) :
    ((ofText cs).view mode).Accepts (mode.viewText t) ↔ Divides mode (pieces '%' cs) t := by
  -- along the recursion that cuts the pattern into pieces
  induction cs generalizing t with
  | nil =>
      show mode.viewText t = mode.viewText [] ↔ Divides mode [[]] t
      exact divides_singleton.symm
  | cons c cs ih =>
      obtain ⟨piece, later, hpieces⟩ := List.exists_cons_of_ne_nil (pieces_ne_nil '%' cs)
      rw [hpieces] at ih
      by_cases hc : c = '%'
      · rw [hc, pieces, if_pos rfl, hpieces, view_ofText_percent, accepts_anyRun_viewText,
          divides_nil_cons]
        simp only [ih]
      · rw [pieces, if_neg hc, hpieces, view_ofText_cons hc, accepts_char_viewText,
          divides_char_cons]
        simp only [ih]

/-- What the table of a written pattern decides. -/
theorem recognizes_view_ofText_iff (cs t : List Char) :
    ((ofText cs).view mode).recognizes (mode.viewText t) = true ↔
      Divides mode (pieces '%' cs) t :=
  (recognizes_iff _ _).trans (accepts_view_ofText_iff cs t)

/-- Without percent signs a pattern is followed by what is seen as its own text. -/
theorem recognizes_of_notMem {cs : List Char} (h : '%' ∉ cs) (t : List Char) :
    ((ofText cs).view mode).recognizes (mode.viewText t) = true ↔
      mode.viewText t = mode.viewText cs := by
  rw [recognizes_view_ofText_iff, pieces_of_notMem h, divides_singleton]

end Pattern

/-! ## Substrings -/

/-- What a mode sees of a text holds what it sees of a needle when it sees a part of the text as
the needle. -/
theorem occursIn_viewText_iff (needle t : List Char) :
    occursIn (mode.viewText needle) (mode.viewText t) = true ↔
      ∃ before part after, t = before ++ (part ++ after)
        ∧ mode.viewText part = mode.viewText needle := by
  rw [occursIn_iff]
  constructor
  · rintro ⟨_, _, hview⟩
    rw [List.append_assoc] at hview
    obtain ⟨before, _, rfl, -, hrest⟩ := List.map_eq_append_iff.mp hview
    obtain ⟨part, after, rfl, hpart, -⟩ := List.map_eq_append_iff.mp hrest
    exact ⟨before, part, after, rfl, hpart⟩
  · rintro ⟨before, part, after, rfl, hpart⟩
    refine ⟨mode.viewText before, mode.viewText after, ?_⟩
    rw [← hpart]
    simp only [CaseMode.viewText, List.map_append, List.append_assoc]

/-- With empty pieces around it, one piece may stand anywhere between runs. -/
theorem divides_nil_piece_nil {piece : List Char} :
    Divides mode [[], piece, []] t ↔ ∃ before part after, t = before ++ (part ++ after)
      ∧ mode.viewText part = mode.viewText piece ∧ '\n' ∉ before ∧ '\n' ∉ after := by
  rw [divides_nil_cons]
  constructor
  · rintro ⟨before, _, rfl, hbefore, hpiece⟩
    obtain ⟨part, after, rest, rfl, hpart, hafter, hrest⟩ := divides_cons_cons.mp hpiece
    obtain rfl := List.map_eq_nil_iff.mp (divides_singleton.mp hrest)
    exact ⟨before, part, after, by rw [List.append_nil], hpart, hbefore, hafter⟩
  · rintro ⟨before, part, after, rfl, hpart, hbefore, hafter⟩
    refine ⟨before, _, rfl, hbefore, divides_cons_cons.mpr ⟨part, after, [], ?_, hpart, hafter, ?_⟩⟩
    · rw [List.append_nil]
    · exact divides_singleton.mpr rfl

end RecordQuery.Text
