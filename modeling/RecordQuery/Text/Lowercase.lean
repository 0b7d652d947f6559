import RecordQuery.Text.LetterTable

/-!
# RecordQuery.Text.Lowercase — the full lowercase form of a text

Every character has a lowercase form of its own, except that capital I with a dot gives two
characters and capital sigma depends on its surroundings: it takes its final form when a cased
character comes before it and none after it, case-ignorable characters being skipped on both sides.
-/

namespace RecordQuery.Text

/-- The property `Cased`. -/
def isCased (c : Char) : Bool :=
  inRanges c.toNat casedRanges

/-- The property `Case_Ignorable`. -/
def isCaseIgnorable (c : Char) : Bool :=
  inRanges c.toNat caseIgnorableRanges

/-- Whether the first character that is not case-ignorable is cased. -/
def reachesCased (cs : List Char) : Bool :=
  (cs.dropWhile isCaseIgnorable).head?.any isCased

/-- The lowercase form of a character between the text before it, read backwards, and the text after
it. -/
def lowercaseChar (before : List Char) (c : Char) (after : List Char) : List Char :=
  if c = 'Σ' then
    [if reachesCased before && !reachesCased after then 'ς' else 'σ']
  else if c = 'İ' then ['i', '\u0307']
  else [mapChar lowercaseRuns c]

/-- The lowercase form of a text that follows the text `before`, read backwards. -/
def lowercaseAfter (before : List Char) : List Char → List Char
  | [] => []
  | c :: rest => lowercaseChar before c rest ++ lowercaseAfter (c :: before) rest

/-- The lowercase form of a text. -/
def lowercase (s : String) : String :=
  String.ofList (lowercaseAfter [] s.toList)

end RecordQuery.Text
