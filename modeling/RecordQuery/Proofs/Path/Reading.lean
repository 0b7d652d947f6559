import RecordQuery.Proofs.Path.Grammar

/-!
# RecordQuery.Proofs.Path.Reading — the reader accepts the language of path texts

What carries both directions is one equivalence for one segment, `FieldPath.readSegment_eq_ok_iff`:
the reader takes a written segment off the front of a text exactly when the rest does not carry a
name on.  A sequence of segments follows by induction, over the budget of the reader in one
direction and over the written segments in the other.  A text splits in one way only, because the
split is found by a function of the text.
-/

namespace RecordQuery.FieldPath

/-! ## Reading what is inside a bracket -/

theorem isQuote_eq_true_iff {c : Char} : isQuote c = true ↔ c = '"' ∨ c = '\x27' := by
  simp [isQuote]

theorem isQuote_eq_false_iff {c : Char} : isQuote c = false ↔ c ≠ '"' ∧ c ≠ '\x27' := by
  simp [isQuote]

theorem endsName_eq_false_iff {c : Char} :
    endsName c = false ↔ c ≠ '.' ∧ c ≠ '[' ∧ c ≠ ']' := by
  simp [endsName, and_assoc]

/-- The check of digits is the rule of digits. -/
theorem indexDigits_iff {digits : List Char} {i : Nat} :
    (if !digits.isEmpty && digits.all Numeral.isDigit && Numeral.value digits < indexLimit then
      some (Numeral.value digits) else none) = some i ↔ IndexDigits digits i := by
  rw [Option.ite_none_right_eq_some]
  simp only [Bool.and_eq_true, Bool.not_eq_true', List.isEmpty_eq_false_iff, List.all_eq_true,
    decide_eq_true_eq, Option.some.injEq]
  constructor
  · rintro ⟨⟨⟨hne, hdigits⟩, hlimit⟩, rfl⟩
    exact ⟨hne, hdigits, hlimit, rfl⟩
  · rintro ⟨hne, hdigits, hlimit, rfl⟩
    exact ⟨⟨⟨hne, hdigits⟩, hlimit⟩, rfl⟩

theorem index?_plus_eq_some_iff {digits : List Char} {i : Nat} :
    index? ('+' :: digits) = some i ↔ IndexDigits digits i :=
  indexDigits_iff

theorem index?_eq_some_iff_of_ne_plus {digits : List Char} {i : Nat}
    (h : ∀ ds, digits ≠ '+' :: ds) : index? digits = some i ↔ IndexDigits digits i := by
  rw [index?]
  · exact indexDigits_iff
  · exact h

/-- A text is an index when it is digits after an optional plus sign. -/
theorem index?_eq_some_iff {cs : List Char} {i : Nat} :
    index? cs = some i ↔
      ∃ sign digits, cs = sign ++ digits ∧ (sign = [] ∨ sign = ['+']) ∧ IndexDigits digits i := by
  constructor
  · intro h
    by_cases hplus : ∃ ds, cs = '+' :: ds
    · obtain ⟨ds, rfl⟩ := hplus
      exact ⟨['+'], ds, rfl, Or.inr rfl, index?_plus_eq_some_iff.mp h⟩
    · rw [index?_eq_some_iff_of_ne_plus fun ds heq => hplus ⟨ds, heq⟩] at h
      exact ⟨[], cs, rfl, Or.inl rfl, h⟩
  · rintro ⟨sign, digits, rfl, rfl | rfl, h⟩
    · refine (index?_eq_some_iff_of_ne_plus ?_).mpr h
      rintro ds rfl
      exact absurd (h.isDigit '+' List.mem_cons_self) (by decide)
    · exact index?_plus_eq_some_iff.mpr h

/-- A token is read by the rules of tokens. -/
theorem tokenSegment?_eq_some_iff {inside : List Char} {segment : Segment} (hclose : ']' ∉ inside)
    (hquote : ∀ c ∈ inside.head?, c ≠ '"' ∧ c ≠ '\x27') :
    tokenSegment? inside = some segment ↔ (SegmentText.token inside).Denotes segment := by
  rw [tokenSegment?]
  constructor
  · intro h
    split at h
    · next hstar =>
        cases h
        exact .star hclose hquote (Text.trim_eq_iff.mp hstar)
    · obtain ⟨i, hi, rfl⟩ := Option.map_eq_some_iff.mp h
      obtain ⟨sign, digits, htrim, hsign, hdigits⟩ := index?_eq_some_iff.mp hi
      exact .index hclose hquote (Text.trim_eq_iff.mp htrim) hsign hdigits
  · intro h
    cases h with
    | star _ _ htrim => rw [if_pos (Text.trim_eq_iff.mpr htrim)]
    | @index _ sign digits i _ _ htrim hsign hdigits =>
        have htrim := Text.trim_eq_iff.mpr htrim
        have hindex := index?_eq_some_iff.mpr ⟨sign, digits, rfl, hsign, hdigits⟩
        have hstar : Text.trim inside ≠ ['*'] := by
          intro hstar
          have hnone : index? ['*'] = none := by decide
          rw [← htrim, hstar, hnone] at hindex
          cases hindex
        rw [if_neg hstar, htrim, hindex]
        rfl

/-! ## Reading one segment -/

variable {first : Bool} {s rest : List Char} {segment : Segment}

/-- A quoted key goes on up to its own quote, and the bracket is closed right after it. -/
theorem readQuoted_eq_ok_iff {quote : Char} :
    readQuoted quote s = .ok (segment, rest) ↔
      ∃ body, s = body ++ quote :: ']' :: rest ∧ quote ∉ body
        ∧ segment = .member (String.ofList body) := by
  rw [readQuoted]
  constructor
  · intro h
    split at h
    · cases h
    · next c after hdrop =>
        obtain rfl := Text.dropWhile_ne_eq_cons hdrop
        split at h
        · next hafter =>
            obtain ⟨hs, hbody⟩ := Text.span_ne_eq_iff.mp ⟨rfl, hdrop⟩
            cases h
            exact ⟨_, hs, hbody, rfl⟩
        · cases h
  · rintro ⟨body, hs, hbody, rfl⟩
    obtain ⟨htake, hdrop⟩ := Text.span_ne_eq_iff.mpr ⟨hs, hbody⟩
    rw [hdrop, htake]
    rfl

/-- A token goes on up to the first closing bracket. -/
theorem readToken_eq_ok_iff :
    readToken s = .ok (segment, rest) ↔
      ∃ inside, s = inside ++ ']' :: rest ∧ ']' ∉ inside
        ∧ tokenSegment? inside = some segment := by
  rw [readToken]
  constructor
  · intro h
    split at h
    · cases h
    · next c after hdrop =>
        obtain rfl := Text.dropWhile_ne_eq_cons hdrop
        split at h
        · next hsegment =>
            obtain ⟨hs, hinside⟩ := Text.span_ne_eq_iff.mp ⟨rfl, hdrop⟩
            cases h
            exact ⟨_, hs, hinside, hsegment⟩
        · cases h
  · rintro ⟨inside, hs, hinside, hsegment⟩
    obtain ⟨htake, hdrop⟩ := Text.span_ne_eq_iff.mpr ⟨hs, hinside⟩
    rw [hdrop, htake, hsegment]

/-- A name goes on up to a point, a bracket or the end. -/
theorem readName_eq_ok_iff :
    readName s = .ok (segment, rest) ↔
      ∃ cs, s = cs ++ rest ∧ (SegmentText.name cs).Denotes segment
        ∧ (SegmentText.name cs).EndsBefore rest := by
  rw [readName]
  constructor
  · intro h
    obtain ⟨hs, hcs, hrest⟩ := (@Text.span_eq_iff (!endsName ·) s _ _).mp ⟨rfl, rfl⟩
    split at h
    · cases h
    · next hne =>
        cases h
        refine ⟨_, hs, .name ?_ ?_, ?_⟩
        · simpa using hne
        · intro c hc
          exact endsName_eq_false_iff.mp (by simpa using hcs c hc)
        · intro c hc
          simpa using hrest c hc
  · rintro ⟨cs, hs, hdenotes, hends⟩
    cases hdenotes with
    | name hne hcs =>
        have hrun : ∀ c ∈ cs, (!endsName c) = true := by
          intro c hc
          rw [endsName_eq_false_iff.mpr (hcs c hc)]
          rfl
        have hrest : ∀ c ∈ rest.head?, (!endsName c) = false := by
          intro c hc
          rw [hends c hc]
          rfl
        obtain ⟨htake, hdrop⟩ := Text.span_eq_iff.mpr ⟨hs, hrun, hrest⟩
        rw [htake, hdrop, if_neg (by simpa using hne)]

/-- After its opening, a bracket is a key or a token. -/
theorem readBracket_eq_ok_iff :
    readBracket s = .ok (segment, rest) ↔
      (∃ quote body, s = quote :: (body ++ quote :: ']' :: rest)
        ∧ (SegmentText.key quote body).Denotes segment)
      ∨ ∃ inside, s = inside ++ ']' :: rest ∧ (SegmentText.token inside).Denotes segment := by
  cases s with
  | nil =>
      constructor
      · intro h
        cases h
      · rintro (⟨quote, body, hs, -⟩ | ⟨inside, hs, -⟩)
        · cases hs
        · cases inside <;> cases hs
  | cons c after =>
      rw [readBracket]
      constructor
      · intro h
        split at h
        · next hc =>
            obtain ⟨body, hafter, hbody, rfl⟩ := readQuoted_eq_ok_iff.mp h
            exact Or.inl ⟨c, body, by rw [hafter], .key (isQuote_eq_true_iff.mp hc) hbody⟩
        · next hc =>
            obtain ⟨inside, hs, hclose, hsegment⟩ := readToken_eq_ok_iff.mp h
            have hquote : ∀ d ∈ inside.head?, d ≠ '"' ∧ d ≠ '\x27' := by
              intro d hd
              have hd : (c :: after).head? = some d := by
                rw [hs, List.head?_append, hd]
                rfl
              cases hd
              exact isQuote_eq_false_iff.mp (by simpa using hc)
            exact Or.inr ⟨inside, hs, (tokenSegment?_eq_some_iff hclose hquote).mp hsegment⟩
      · rintro (⟨quote, body, hs, hdenotes⟩ | ⟨inside, hs, hdenotes⟩)
        · obtain ⟨rfl, rfl⟩ := List.cons.inj hs
          cases hdenotes with
          | key hquote hbody =>
              rw [if_pos (isQuote_eq_true_iff.mpr hquote)]
              exact readQuoted_eq_ok_iff.mpr ⟨body, rfl, hbody, rfl⟩
        · obtain ⟨hclose, hquote⟩ := hdenotes.token_inside
          have hc : isQuote c = false := by
            cases inside with
            | nil =>
                cases hs
                decide
            | cons d inside =>
                cases hs
                exact isQuote_eq_false_iff.mpr (hquote c rfl)
          rw [if_neg (by simp [hc])]
          exact readToken_eq_ok_iff.mpr
            ⟨inside, hs, hclose, (tokenSegment?_eq_some_iff hclose hquote).mpr hdenotes⟩

/-- **One segment.** The reader takes a written segment off the front of a text, if the rest does
not carry it on, and nothing else. -/
theorem readSegment_eq_ok_iff :
    readSegment first s = .ok (segment, rest) ↔
      ∃ piece : SegmentText, s = piece.chars first ++ rest ∧ piece.Denotes segment
        ∧ piece.EndsBefore rest := by
  constructor
  · intro h
    rw [readSegment.eq_def] at h
    split at h
    · rcases readBracket_eq_ok_iff.mp h with ⟨quote, body, rfl, hdenotes⟩ | ⟨inside, rfl, hdenotes⟩
      · exact ⟨.key quote body, (SegmentText.chars_key_append _ _ _ _).symm, hdenotes, trivial⟩
      · exact ⟨.token inside, (SegmentText.chars_token_append _ _ _).symm, hdenotes, trivial⟩
    · split at h
      · next hfirst =>
          obtain ⟨cs, rfl, hdenotes, hends⟩ := readName_eq_ok_iff.mp h
          exact ⟨.name cs, by simp [SegmentText.chars, hfirst], hdenotes, hends⟩
      · next hfirst =>
          split at h
          · obtain ⟨cs, rfl, hdenotes, hends⟩ := readName_eq_ok_iff.mp h
            exact ⟨.name cs, by simp [SegmentText.chars, hfirst], hdenotes, hends⟩
          · cases h
  · rintro ⟨piece, rfl, hdenotes, hends⟩
    cases piece with
    | key quote body =>
        rw [SegmentText.chars_key_append]
        exact readBracket_eq_ok_iff.mpr (Or.inl ⟨quote, body, rfl, hdenotes⟩)
    | token inside =>
        rw [SegmentText.chars_token_append]
        exact readBracket_eq_ok_iff.mpr (Or.inr ⟨inside, rfl, hdenotes⟩)
    | name cs =>
        have hname := readName_eq_ok_iff.mpr ⟨cs, rfl, hdenotes, hends⟩
        cases first with
        | false => exact hname
        | true =>
            cases hdenotes with
            | name hne hcs =>
                obtain ⟨c, cs, rfl⟩ := List.exists_cons_of_ne_nil hne
                show readSegment true (c :: (cs ++ rest)) = .ok _
                rw [readSegment.eq_def]
                split
                · next heq =>
                    obtain ⟨rfl, -⟩ := List.cons.inj heq
                    exact absurd rfl (hcs '[' List.mem_cons_self).2.1
                · exact hname

/-! ## Reading sequences of segments -/

variable {pieces : List SegmentText} {segments : List Segment}

/-- Every segment that is not the first one begins with a character that ends names. -/
theorem endsName_head_joined : ∀ c ∈ (joined false pieces).head?, endsName c = true := by
  intro c hc
  cases pieces with
  | nil => cases hc
  | cons piece rest =>
      cases piece <;> cases hc <;> decide

/-- A segment is read off the front of the segments after it. -/
theorem readSegment_chars_append (first : Bool) {piece : SegmentText} (h : piece.Denotes segment)
    (pieces : List SegmentText) :
    readSegment first (piece.chars first ++ joined false pieces)
      = .ok (segment, joined false pieces) :=
  readSegment_eq_ok_iff.mpr ⟨piece, rfl, h, .of_head endsName_head_joined⟩

/-- What is read has been spelled, whatever the budget. -/
theorem exists_joined_of_readSegments {budget : Nat}
    (h : readSegments budget first s = .ok segments) :
    ∃ pieces, joined first pieces = s ∧ List.Forall₂ SegmentText.Denotes pieces segments := by
  induction budget generalizing first s segments with
  | zero =>
      cases s with
      | nil =>
          cases h
          exact ⟨[], rfl, .nil⟩
      | cons c s => cases h
  | succ budget ih =>
      cases s with
      | nil =>
          cases h
          exact ⟨[], rfl, .nil⟩
      | cons c s =>
          rw [readSegments] at h
          split at h
          · cases h
          · next segment rest hsegment =>
              split at h
              · cases h
              · next later hlater =>
                  cases h
                  obtain ⟨piece, hs, hdenotes, -⟩ := readSegment_eq_ok_iff.mp hsegment
                  obtain ⟨pieces, rfl, hpieces⟩ := ih hlater
                  exact ⟨piece :: pieces, hs.symm, .cons hdenotes hpieces⟩

/-- What is spelled is read, if the budget is not shorter than the text. -/
theorem readSegments_joined (h : List.Forall₂ SegmentText.Denotes pieces segments) {budget : Nat}
    (hbudget : (joined first pieces).length ≤ budget) :
    readSegments budget first (joined first pieces) = .ok segments := by
  induction h generalizing first budget with
  | nil => cases budget <;> rfl
  | @cons piece segment pieces segments hdenotes _ ih =>
      have hsegment := readSegment_chars_append first hdenotes pieces
      obtain ⟨c, cs, hchars⟩ := List.exists_cons_of_ne_nil (hdenotes.chars_ne_nil first)
      rw [joined, hchars, List.cons_append] at hbudget ⊢
      rw [hchars, List.cons_append] at hsegment
      cases budget with
      | zero => cases hbudget
      | succ budget =>
          rw [List.length_cons, List.length_append] at hbudget
          rw [readSegments, hsegment]
          simp only
          rw [ih (by omega)]

/-- **Whole texts.** The segments of a text are what its written segments denote. -/
theorem segmentsOf_eq_ok_iff :
    segmentsOf s = .ok segments ↔ ∃ pieces, Spells s pieces segments := by
  constructor
  · intro h
    obtain ⟨pieces, htext, hdenotes⟩ := exists_joined_of_readSegments h
    exact ⟨pieces, htext, hdenotes⟩
  · rintro ⟨pieces, rfl, hdenotes⟩
    exact readSegments_joined hdenotes (Nat.le_refl _)

/-! ## The only split -/

/-- A text splits into written segments in one way. -/
theorem joined_injective {pieces' : List SegmentText} {segments' : List Segment}
    (h : List.Forall₂ SegmentText.Denotes pieces segments)
    (h' : List.Forall₂ SegmentText.Denotes pieces' segments')
    (heq : joined first pieces = joined first pieces') : pieces = pieces' := by
  induction h generalizing first pieces' segments' with
  | nil =>
      cases h' with
      | nil => rfl
      | cons hdenotes _ =>
          have hnil := (List.append_eq_nil_iff.mp heq.symm).1
          exact absurd hnil (hdenotes.chars_ne_nil first)
  | @cons piece segment pieces segments hdenotes _ ih =>
      cases h' with
      | nil =>
          have hnil := (List.append_eq_nil_iff.mp heq).1
          exact absurd hnil (hdenotes.chars_ne_nil first)
      | @cons piece' segment' pieces' segments' hdenotes' h' =>
          rw [joined, joined] at heq
          -- reading is a function, so both splits leave the same rest after their first segment
          have hread := readSegment_chars_append first hdenotes pieces
          rw [heq, readSegment_chars_append first hdenotes' pieces'] at hread
          obtain ⟨-, hrest⟩ := Prod.mk.inj (Except.ok.inj hread)
          rw [hrest] at heq
          have hpiece := hdenotes.eq_of_chars_eq hdenotes' (List.append_cancel_right heq)
          rw [hpiece, ih h' hrest.symm]

theorem Spells.unique {pieces' : List SegmentText} {segments' : List Segment}
    (h : Spells s pieces segments) (h' : Spells s pieces' segments') :
    pieces = pieces' ∧ segments = segments' := by
  have hpieces := joined_injective h.denotes h'.denotes (h.text.trans h'.text.symm)
  have hsegments := (segmentsOf_eq_ok_iff.mpr ⟨_, h⟩).symm.trans (segmentsOf_eq_ok_iff.mpr ⟨_, h'⟩)
  exact ⟨hpieces, Except.ok.inj hsegments⟩

theorem parse_eq_ok_iff {text : String} {path : FieldPath} :
    parse text = .ok path ↔ path.text = text ∧ segmentsOf text.toList = .ok path.segments := by
  rw [parse]
  constructor
  · intro h
    split at h
    · next hsegments =>
        cases h
        exact ⟨rfl, hsegments⟩
    · cases h
  · rintro ⟨rfl, hsegments⟩
    rw [hsegments]

/-- **The language of path texts.** A text is read as a path exactly when it splits into written
segments, which then are the segments of the path; and it splits in one way only. -/
theorem parse_iff_spells (text : String) :
    (∀ path, parse text = .ok path ↔
      path.text = text ∧ ∃ pieces, Spells text.toList pieces path.segments)
    ∧ ∀ pieces segments pieces' segments',
      Spells text.toList pieces segments → Spells text.toList pieces' segments' →
        pieces = pieces' ∧ segments = segments' := by
  constructor
  · intro path
    rw [parse_eq_ok_iff, segmentsOf_eq_ok_iff]
  · intro pieces segments pieces' segments' h h'
    exact h.unique h'

/-- A quoted key with a point and a bracket in it, and an index with blanks, a sign and a zero. -/
theorem parse_iff_spells_of_brackets :
    ∃ path, parse "a['.]'][ +07\t].b" = .ok path
      ∧ path.segments = [.member "a", .member ".]", .index 7, .member "b"]
      ∧ ∀ pieces segments, Spells "a['.]'][ +07\t].b".toList pieces segments →
        pieces = [.name ['a'], .key '\x27' ['.', ']'], .token [' ', '+', '0', '7', '\t'],
          .name ['b']] := by
  have htrim : Text.TrimsTo [' ', '+', '0', '7', '\t'] (['+'] ++ ['0', '7']) := by
    refine ⟨⟨[' '], ['\t'], rfl, ?_, ?_⟩, ?_, ?_⟩ <;> simp [Text.isBlank]
  have hdigits : IndexDigits ['0', '7'] 7 :=
    ⟨by simp, by simp [Numeral.isDigit], by decide, rfl⟩
  have hindex : (SegmentText.token [' ', '+', '0', '7', '\t']).Denotes (.index 7) :=
    .index (by decide) (by simp) htrim (Or.inr rfl) hdigits
  have hspells : Spells "a['.]'][ +07\t].b".toList
      [.name ['a'], .key '\x27' ['.', ']'], .token [' ', '+', '0', '7', '\t'], .name ['b']]
      [.member "a", .member ".]", .index 7, .member "b"] :=
    ⟨rfl, .cons (.name (by simp) (by simp)) (.cons (.key (by simp) (by decide))
      (.cons hindex (.cons (.name (by simp) (by simp)) .nil)))⟩
  obtain ⟨hread, hunique⟩ := parse_iff_spells "a['.]'][ +07\t].b"
  refine ⟨⟨_, _⟩, (hread _).mpr ⟨rfl, _, hspells⟩, rfl, ?_⟩
  intro pieces segments h
  exact (hunique _ _ _ _ h hspells).1

end RecordQuery.FieldPath
