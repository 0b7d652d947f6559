import RecordQuery.Text.FoldingTable

/-!
# RecordQuery.Text.Folding — text seen with or without regard to case

Text tests compare characters either as they are or up to Unicode simple case folding, which sends
every character to one character.  Both ways are a function on characters: two characters are the
same in a mode exactly when their images are equal.
-/

namespace RecordQuery.Text

/-- The simple case folding of a character. -/
def foldChar (c : Char) : Char :=
  mapChar foldingRuns c

/-- How text tests look at characters. -/
inductive CaseMode where
  | exact
  | folded
deriving DecidableEq

namespace CaseMode

/-- What a mode sees of a character. -/
def view : CaseMode → Char → Char
  | exact => id
  | folded => foldChar

/-- What a mode sees of a text. -/
def viewText (mode : CaseMode) (cs : List Char) : List Char :=
  cs.map mode.view

/-- An exact view leaves a text as it is. -/
@[simp]
theorem viewText_exact (cs : List Char) : exact.viewText cs = cs := by
  simp [viewText, view]

end CaseMode

end RecordQuery.Text
