import RecordQuery.Proofs.Filter.LeafTests
import RecordQuery.Proofs.Filter.PatternLimit
import RecordQuery.Proofs.Text.Wildcards

/-!
# RecordQuery.Proofs.Filter.TextTests — what the tests of texts ask for, and where they agree

The tests of texts look for one text among those of the leaves.  A `like` filter asks for one that
the pieces of its pattern divide.  Written without percent signs it is a `string` filter that folds
case; with one at either end it is a `containsString` filter, but for line feeds, which a wildcard
does not run over.
-/

namespace RecordQuery

/-- The texts of the leaves of a result. -/
def Resolved.texts (r : Resolved) : List (List Char) :=
  r.leaves.filterMap Json.scalarText?

/-- The characters of a text with a percent sign at either end. -/
theorem toList_between (text : String) :
    ("%" ++ text ++ "%").toList = '%' :: (text.toList ++ ['%']) := by
  simp [String.toList_append]

/-! ## Searches for texts -/

/-- A test of the texts of values passes on a result that has such a text. -/
theorem FieldTest.text_iff {test : TextTest} {accept : List Char → Bool}
    (htest : test.passes = fun v => v.scalarText?.any accept) (r : Resolved) :
    text (some test) r = true ↔ ∃ t ∈ r.texts, accept t = true := by
  rw [text, htest, someLeaf_iff rfl]
  simp only [Option.any_eq_true, Resolved.texts, List.mem_filterMap]
  constructor
  · rintro ⟨v, hv, t, ht, haccept⟩
    exact ⟨t, ⟨v, hv, ht⟩, haccept⟩
  · rintro ⟨t, ⟨v, hv, ht⟩, haccept⟩
    exact ⟨v, hv, t, ht, haccept⟩

/-- A text without percent signs is within the limit if it is with a percent sign at either end. -/
theorem Text.Pattern.literal_fits_of_between {text : String} (h : '%' ∉ text.toList)
    (hfits : (ofText ("%" ++ text ++ "%").toList).fits = true) :
    (literal text.toList).fits = true := by
  rw [toList_between] at hfits
  rw [← ofText_of_notMem h]
  exact fits_of_sublist (((List.sublist_append_left text.toList ['%']).cons '%').map partOf) hfits

namespace Test

variable {mode : Text.CaseMode} {text : String}

/-- A test with a text compiles as the test of that text does. -/
theorem compile_text_eq {make : String → Except QueryError TextTest} :
    ((some text).mapM make >>= fun made => .ok (FieldTest.text made))
      = (make text).map fun made => FieldTest.text (some made) := by
  rw [Option.mapM_some]
  cases make text <;> rfl

/-- What `like` compiles to, if its pattern is not too large. -/
theorem compile_like (hfits : (Text.Pattern.ofText text.toList).fits = true) :
    (like (some text)).compile mode = .ok
      (FieldTest.text (some (.follows mode ((Text.Pattern.ofText text.toList).view mode)))) := by
  refine compile_text_eq.trans ?_
  rw [TextTest.ofLike, TextTest.limited_eq_ok_iff.mpr ⟨hfits, rfl⟩]
  rfl

/-- Only with a pattern that is not too large does `like` compile. -/
theorem fits_of_compile_like {test : FieldTest} (h : (like (some text)).compile mode = .ok test) :
    (Text.Pattern.ofText text.toList).fits = true := by
  obtain ⟨made, hmade, -⟩ := Except.map_eq_ok_iff.mp (compile_text_eq.symm.trans h)
  exact (TextTest.limited_eq_ok_iff.mp hmade).1

/-- What `containsString` compiles to, if the pattern of its text is not too large. -/
theorem compile_containsString (hfits : (Text.Pattern.literal text.toList).fits = true) :
    (containsString (some text)).compile mode
      = .ok (FieldTest.text (some (.contains mode (mode.viewText text.toList)))) := by
  refine compile_text_eq.trans ?_
  cases mode with
  | exact => rw [TextTest.ofNeedle, Text.CaseMode.viewText_exact]; rfl
  | folded => rw [TextTest.ofNeedle, TextTest.limited_eq_ok_iff.mpr ⟨hfits, rfl⟩]; rfl

/-- Without percent signs, `like` compiles to what `string` compiles to when both fold case. -/
theorem compile_like_eq_string (h : '%' ∉ text.toList) :
    (like (some text)).compile .folded = (string (some text)).compile .folded := by
  have hpasses : (TextTest.follows .folded ((Text.Pattern.ofText text.toList).view .folded)).passes
      = (TextTest.equalsFolded (Text.CaseMode.folded.viewText text.toList)).passes := by
    refine funext fun v => congrArg (v.scalarText?.any ·) (funext fun t => ?_)
    exact Bool.eq_iff_iff.mpr ((Text.Pattern.recognizes_of_notMem h t).trans beq_iff_eq.symm)
  refine compile_text_eq.trans (Eq.trans ?_ compile_text_eq.symm)
  rw [TextTest.ofLike, TextTest.ofEquality, ← Text.Pattern.ofText_of_notMem h, TextTest.limited,
    TextTest.limited]
  split
  · exact congrArg (fun passes => Except.ok (FieldTest.someLeaf passes)) hpasses
  · rfl

end Test

/-! ## Filters -/

namespace Filter

variable {options : MatchOptions} {field text : String} {path : FieldPath} {record : Json}

/-- A `like` filter asks for a text that the pieces of its pattern divide. -/
theorem matches_like_iff (hpath : FieldPath.parse field = .ok path)
    (hfits : (Text.Pattern.ofText text.toList).fits = true) :
    (leaf field (.like (some text))).Matches options record ↔
      ∃ t ∈ (path.evaluate record).texts,
        Text.Divides options.mode (Text.pieces '%' text.toList) t := by
  rw [matches_leaf_iff_of_parse hpath, Test.compile_like hfits]
  simp only [Except.ok.injEq, exists_eq_left']
  rw [FieldTest.text_iff rfl]
  simp only [Text.Pattern.recognizes_view_ofText_iff]

/-- A `containsString` filter asks for a text with a part that is seen as its own. -/
theorem matches_containsString_iff (hpath : FieldPath.parse field = .ok path)
    (hfits : (Text.Pattern.literal text.toList).fits = true) :
    (leaf field (.containsString (some text))).Matches options record ↔
      ∃ t ∈ (path.evaluate record).texts, ∃ before part after, t = before ++ (part ++ after)
        ∧ options.mode.viewText part = options.mode.viewText text.toList := by
  rw [matches_leaf_iff_of_parse hpath, Test.compile_containsString hfits]
  simp only [Except.ok.injEq, exists_eq_left']
  rw [FieldTest.text_iff rfl]
  simp only [Text.occursIn_viewText_iff]

/-- With a percent sign at either end, a text may stand anywhere between runs without line feeds. -/
theorem matches_like_between_iff (h : '%' ∉ text.toList)
    (hpath : FieldPath.parse field = .ok path)
    (hfits : (Text.Pattern.ofText ("%" ++ text ++ "%").toList).fits = true) :
    (leaf field (.like (some ("%" ++ text ++ "%")))).Matches options record ↔
      ∃ t ∈ (path.evaluate record).texts, ∃ before part after, t = before ++ (part ++ after)
        ∧ options.mode.viewText part = options.mode.viewText text.toList
        ∧ '\n' ∉ before ∧ '\n' ∉ after := by
  rw [matches_like_iff hpath hfits, toList_between, Text.pieces_between h]
  simp only [Text.divides_nil_piece_nil]

/-- **The wildcards of `like`.** A `like` filter whose pattern is not too large compiles, and it
matches a record exactly when one of the texts that its path finds is divided by the pieces of the
pattern: into parts that the case mode sees as the pieces, with runs without line feeds between
them.  A single text is matched exactly when it is so divided.  Without percent signs the whole text
has to be seen as the pattern is. -/
theorem matches_like_iff_divides (options : MatchOptions) (text : String)
    (hpath : FieldPath.parse field = .ok path)
    (hfits : (Text.Pattern.ofText text.toList).fits = true) :
    (∃ test, (leaf field (.like (some text))).compile options.mode = .ok test)
    ∧ (∀ record, (leaf field (.like (some text))).Matches options record ↔
      ∃ t ∈ (path.evaluate record).texts,
        Text.Divides options.mode (Text.pieces '%' text.toList) t)
    ∧ (∀ candidate : String, (leaf "" (.like (some text))).Matches options (.string candidate) ↔
      Text.Divides options.mode (Text.pieces '%' text.toList) candidate.toList)
    ∧ ('%' ∉ text.toList → ∀ record, (leaf field (.like (some text))).Matches options record ↔
      ∃ t ∈ (path.evaluate record).texts,
        options.mode.viewText t = options.mode.viewText text.toList) := by
  refine ⟨?_, fun record => matches_like_iff hpath hfits, fun candidate => ?_, fun h record => ?_⟩
  · exact ⟨_, compile_leaf_eq_ok_iff.mpr ⟨_, path, Test.compile_like hfits, hpath, rfl⟩⟩
  · rw [matches_like_iff parse_empty hfits]
    show (∃ t ∈ [candidate.toList], _) ↔ _
    simp only [List.mem_singleton, exists_eq_left]
  · rw [matches_like_iff hpath hfits, Text.pieces_of_notMem h]
    simp only [Text.divides_singleton]

/-- Peaks, one of them under a name in small letters. -/
def peaks : Json :=
  .object [("name", .array [.bool true, .array [.string "mt. everest", .null]])]

theorem matches_like_iff_divides_peaks :
    (leaf "name" (.like (some "M%.%T"))).Matches ⟨false⟩ peaks
      ∧ (leaf "" (.like (some "%8%8"))).Matches ⟨true⟩ (.string "8848")
      ∧ ¬ (leaf "name" (.like (some "mt.+"))).Matches ⟨true⟩ peaks := by
  have hpath : FieldPath.parse "name" = .ok ⟨"name", [.member "name"]⟩ := rfl
  obtain ⟨-, hfolded, -, -⟩ :=
    matches_like_iff_divides ⟨false⟩ "M%.%T" hpath (by decide)
  obtain ⟨-, -, hsingle, -⟩ := matches_like_iff_divides ⟨true⟩ "%8%8" hpath (by decide)
  obtain ⟨-, -, -, hwhole⟩ := matches_like_iff_divides ⟨true⟩ "mt.+" hpath (by decide)
  refine ⟨(hfolded peaks).mpr ?_, (hsingle "8848").mpr ?_, ?_⟩
  · refine ⟨"mt. everest".toList, by decide, ?_⟩
    exact ⟨⟨['m'], [(['t'], ['.']), (" everes".toList, ['t'])]⟩, by decide⟩
  · exact ⟨⟨[], [([], ['8']), (['8', '4'], ['8'])]⟩, by decide⟩
  · rw [hwhole (by decide) peaks]
    decide

/-- **Where the tests of texts agree.** For a text without percent signs, `like` and `string`
compile to the same predicate when they fold case, or fail alike, and so they match the same
records.  With a percent sign at either end, `like` matches no record that `containsString` does
not, in either case mode; and where no text that the path finds has a line feed, it matches the same
records. -/
theorem text_tests_agree (field text : String) (h : '%' ∉ text.toList) :
    (leaf field (.like (some text))).compile .folded
      = (leaf field (.string (some text))).compile .folded
    ∧ (∀ record, (leaf field (.like (some text))).Matches ⟨false⟩ record ↔
      (leaf field (.string (some text))).Matches ⟨false⟩ record)
    ∧ (∀ options path, FieldPath.parse field = .ok path →
      (Text.Pattern.ofText ("%" ++ text ++ "%").toList).fits = true →
      ∀ record, (∀ t ∈ (path.evaluate record).texts, '\n' ∉ t) →
        ((leaf field (.like (some ("%" ++ text ++ "%")))).Matches options record ↔
          (leaf field (.containsString (some text))).Matches options record))
    ∧ ∀ options record, (leaf field (.like (some ("%" ++ text ++ "%")))).Matches options record →
      (leaf field (.containsString (some text))).Matches options record := by
  have hsame : (leaf field (.like (some text))).compile .folded
      = (leaf field (.string (some text))).compile .folded := by
    rw [compile, compile, compileLeaf, compileLeaf, Test.compile_like_eq_string h]
  have hwider : ∀ options record,
      (leaf field (.like (some ("%" ++ text ++ "%")))).Matches options record →
        (leaf field (.containsString (some text))).Matches options record := by
    intro options record hlike
    obtain ⟨path, hpath, test, htest, -⟩ := matches_leaf_iff.mp hlike
    have hfits := Test.fits_of_compile_like htest
    obtain ⟨t, ht, before, part, after, hdivided, hpart, -⟩ :=
      (matches_like_between_iff h hpath hfits).mp hlike
    apply (matches_containsString_iff hpath (Text.Pattern.literal_fits_of_between h hfits)).mpr
    exact ⟨t, ht, before, part, after, hdivided, hpart⟩
  refine ⟨hsame, fun record => ?_, fun options path hpath hfits record hlines => ?_, hwider⟩
  · exact matches_congr hsame
  · refine ⟨hwider options record, fun hcontains => ?_⟩
    obtain ⟨t, ht, before, part, after, rfl, hpart⟩ :=
      (matches_containsString_iff hpath (Text.Pattern.literal_fits_of_between h hfits)).mp hcontains
    -- the runs around the part stand in the text, which has no line feed
    have hline := hlines _ ht
    simp only [List.mem_append, not_or] at hline
    apply (matches_like_between_iff h hpath hfits).mpr
    exact ⟨_, ht, before, part, after, rfl, hpart, hline.1, hline.2.2⟩

/-- A note of two lines. -/
def note : Json :=
  .object [("note", .string "two\nlines"), ("tags", .array [.string "a.b", .bool false])]

theorem text_tests_agree_note :
    (leaf "tags" (.like (some "A.B"))).Matches ⟨false⟩ note
      ∧ (leaf "tags" (.like (some "%als%"))).Matches ⟨true⟩ note
      ∧ ¬ (leaf "note" (.like (some "%els%"))).Matches ⟨true⟩ note := by
  have htags : FieldPath.parse "tags" = .ok ⟨"tags", [.member "tags"]⟩ := rfl
  have hnote : FieldPath.parse "note" = .ok ⟨"note", [.member "note"]⟩ := rfl
  obtain ⟨-, hwhole, -, -⟩ := text_tests_agree "tags" "A.B" (by decide)
  obtain ⟨-, -, hpart, -⟩ := text_tests_agree "tags" "als" (by decide)
  obtain ⟨-, -, -, hwider⟩ := text_tests_agree "note" "els" (by decide)
  refine ⟨(hwhole note).mpr ?_, (hpart ⟨true⟩ _ htags (by decide) note (by decide)).mpr ?_, ?_⟩
  · exact matches_leaf_iff.mpr ⟨_, htags, _, rfl, by decide⟩
  · exact matches_leaf_iff.mpr ⟨_, htags, _, rfl, by decide⟩
  · intro hlike
    obtain ⟨path, hpath, test, htest, htrue⟩ := matches_leaf_iff.mp (hwider ⟨true⟩ note hlike)
    cases hnote.symm.trans hpath
    cases htest
    exact absurd htrue (by decide)

end Filter

end RecordQuery
