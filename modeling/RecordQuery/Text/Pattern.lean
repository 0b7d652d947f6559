import RecordQuery.Text.Folding

/-!
# RecordQuery.Text.Pattern — the wildcard language of `like`, and substring search

In a pattern a percent sign stands for any run of characters without a line feed, and every other
character for itself; a pattern describes whole texts.  Matching fills a table with one row per part
of the pattern and one entry per end piece of the text, so its cost is the product of both lengths,
however the wildcards stand.  The recursive reading of the language, `Pattern.Accepts`, stands
beside the table, and `Pattern.recognizes_iff` says that they agree.
-/

namespace RecordQuery.Text

/-! ## Patterns -/

/-- A part of a pattern. -/
inductive PatternPart where
  | char (c : Char)
  | anyRun
deriving DecidableEq

/-- A pattern is a sequence of parts. -/
abbrev Pattern := List PatternPart

namespace Pattern

/-- The part that a character of the written pattern stands for. -/
def partOf (c : Char) : PatternPart :=
  if c = '%' then .anyRun else .char c

/-- The pattern that a text describes. -/
def ofText (cs : List Char) : Pattern :=
  cs.map partOf

/-- The pattern without wildcards that describes one text. -/
def literal (cs : List Char) : Pattern :=
  cs.map .char

/-- A pattern with its characters seen in a case mode. -/
def view (mode : CaseMode) (p : Pattern) : Pattern :=
  p.map fun
    | .char c => .char (mode.view c)
    | .anyRun => .anyRun

/-! ## Matching -/

/-- The texts of a pattern: a wildcard ends at once or takes one more character of the run. -/
def Accepts : Pattern → List Char → Prop
  | [], t => t = []
  | .char c :: p, t => ∃ rest, t = c :: rest ∧ Accepts p rest
  | .anyRun :: p, t => ∃ run rest, t = run ++ rest ∧ '\n' ∉ run ∧ Accepts p rest

/-- The table row of the empty pattern: of all end pieces it matches the empty one. -/
def emptyRow : List Char → List Bool
  | [] => [true]
  | _ :: t => false :: emptyRow t

/-- The row of a pattern that begins with a character, from the row of what follows. -/
def charRow (c : Char) : List Char → List Bool → List Bool
  | d :: t, _ :: below => (c == d && below.headD false) :: charRow c t below
  | _, _ => [false]

/-- The row of a pattern that begins with a wildcard, from the row of what follows. -/
def runRow : List Char → List Bool → List Bool
  | d :: t, here :: below =>
    let later := runRow t below
    (here || (d != '\n' && later.headD false)) :: later
  | _, row => row

/-- Which end pieces of a text, longest first, a pattern matches. -/
def row : Pattern → List Char → List Bool
  | [], t => emptyRow t
  | .char c :: p, t => charRow c t (row p t)
  | .anyRun :: p, t => runRow t (row p t)

/-- Whether a pattern matches a whole text. -/
def recognizes (p : Pattern) (t : List Char) : Bool :=
  (row p t).headD false

/-!
## Size limit

Pattern engines compile a pattern and refuse one whose compiled form is too large.  The limit is the
ten mebibytes that such an engine grants when it is not told otherwise; messages name it.  How many
bytes a part takes is an engine's own business and written down nowhere: `partSize` is an estimate,
which takes a character for the chain of its bytes, whatever the case mode, and a wildcard for a
class of nearly all characters.

No general result rests on the figures.  Where a pattern has to be within the limit, that is a
hypothesis on this pattern, and the only law of sizes in use is that leaving out parts makes no
pattern larger (`Pattern.fits_of_sublist`).
-/

/-- Bytes that a compiled pattern may take: ten mebibytes. -/
def sizeLimit : Nat := 10485760

/-- An estimate of the bytes that a compiled part takes, the same in both case modes. -/
def partSize : PatternPart → Nat
  | .char c => 40 * c.utf8Size
  | .anyRun => 464

/-- Whether a pattern compiles within the limit. -/
def fits (p : Pattern) : Bool :=
  p.foldl (fun total part => total + partSize part) 0 ≤ sizeLimit

/-! ## The table decides the language -/

theorem emptyRow_headD (t : List Char) : (emptyRow t).headD false = true ↔ t = [] := by
  cases t <;> simp [emptyRow]

/-- The rows of a text extend the rows of its end pieces. -/
theorem row_cons (p : Pattern) (d : Char) (t : List Char) : ∃ b, row p (d :: t) = b :: row p t := by
  induction p with
  | nil => exact ⟨false, rfl⟩
  | cons part p ih =>
    obtain ⟨b, hb⟩ := ih
    cases part with
    | char c => rw [row, hb]; exact ⟨_, rfl⟩
    | anyRun => rw [row, hb]; exact ⟨_, rfl⟩

theorem recognizes_nil (t : List Char) : recognizes [] t = true ↔ t = [] := emptyRow_headD t

theorem recognizes_char_cons (c : Char) (p : Pattern) (t : List Char) :
    recognizes (.char c :: p) t = true ↔ ∃ rest, t = c :: rest ∧ recognizes p rest = true := by
  cases t with
  | nil => simp [recognizes, row, charRow]
  | cons d t =>
    obtain ⟨b, hb⟩ := row_cons p d t
    simp only [recognizes, row, hb, charRow, List.headD_cons, Bool.and_eq_true, beq_iff_eq,
      List.cons.injEq]
    constructor
    · rintro ⟨rfl, h⟩
      exact ⟨t, ⟨rfl, rfl⟩, h⟩
    · rintro ⟨rest, ⟨rfl, rfl⟩, h⟩
      exact ⟨rfl, h⟩

theorem recognizes_anyRun_nil (p : Pattern) :
    recognizes (.anyRun :: p) [] = recognizes p [] := by
  simp [recognizes, row, runRow]

theorem recognizes_anyRun_cons (p : Pattern) (d : Char) (t : List Char) :
    recognizes (.anyRun :: p) (d :: t) = true
      ↔ recognizes p (d :: t) = true ∨ (d ≠ '\n' ∧ recognizes (.anyRun :: p) t = true) := by
  obtain ⟨b, hb⟩ := row_cons p d t
  simp [recognizes, row, hb, runRow]

theorem recognizes_anyRun (p : Pattern) (t : List Char) :
    recognizes (.anyRun :: p) t = true
      ↔ ∃ run rest, t = run ++ rest ∧ '\n' ∉ run ∧ recognizes p rest = true := by
  induction t with
  | nil =>
    rw [recognizes_anyRun_nil]
    constructor
    · intro h
      exact ⟨[], [], rfl, by simp, h⟩
    · rintro ⟨run, rest, h, -, hp⟩
      obtain ⟨rfl, rfl⟩ := List.append_eq_nil_iff.1 h.symm
      exact hp
  | cons d t ih =>
    rw [recognizes_anyRun_cons, ih]
    constructor
    · rintro (h | ⟨hd, run, rest, rfl, hr, hp⟩)
      · exact ⟨[], d :: t, rfl, by simp, h⟩
      · exact ⟨d :: run, rest, rfl, by simp [hr, Ne.symm hd], hp⟩
    · rintro ⟨run, rest, h, hr, hp⟩
      cases run with
      | nil => exact Or.inl (by rw [List.nil_append] at h; rw [h]; exact hp)
      | cons c run =>
        rw [List.cons_append, List.cons.injEq] at h
        rw [List.mem_cons, not_or] at hr
        exact Or.inr ⟨by rw [h.1]; exact Ne.symm hr.1, run, rest, h.2, hr.2, hp⟩

/-- The table matches exactly the texts of the pattern. -/
theorem recognizes_iff (p : Pattern) (t : List Char) : recognizes p t = true ↔ Accepts p t := by
  induction p generalizing t with
  | nil => exact recognizes_nil t
  | cons part p ih =>
    cases part with
    | char c => simp only [recognizes_char_cons, Accepts, ih]
    | anyRun => simp only [recognizes_anyRun, Accepts, ih]

end Pattern

/-! ## Substrings -/

/-- Whether `needle` stands somewhere in a text. -/
def occursIn (needle : List Char) : List Char → Bool
  | [] => needle.isEmpty
  | c :: t => needle.isPrefixOf (c :: t) || occursIn needle t

theorem occursIn_iff (needle t : List Char) :
    occursIn needle t = true ↔ ∃ before after, t = before ++ needle ++ after := by
  induction t with
  | nil =>
    rw [occursIn, List.isEmpty_iff]
    constructor
    · rintro rfl
      exact ⟨[], [], rfl⟩
    · rintro ⟨before, after, h⟩
      have h := List.append_eq_nil_iff.1 h.symm
      exact (List.append_eq_nil_iff.1 h.1).2
  | cons c t ih =>
    rw [occursIn, Bool.or_eq_true, List.isPrefixOf_iff_prefix, ih]
    constructor
    · rintro (⟨after, h⟩ | ⟨before, after, rfl⟩)
      · exact ⟨[], after, h.symm⟩
      · exact ⟨c :: before, after, rfl⟩
    · rintro ⟨before, after, h⟩
      cases before with
      | nil => exact Or.inl ⟨after, h.symm⟩
      | cons d before =>
        rw [List.cons_append, List.cons_append, List.cons.injEq] at h
        exact Or.inr ⟨before, after, h.2⟩

end RecordQuery.Text
