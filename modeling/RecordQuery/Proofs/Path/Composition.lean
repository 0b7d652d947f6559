import RecordQuery.Path.Resolved
import RecordQuery.Proofs.Path.Reading

/-!
# RecordQuery.Proofs.Path.Composition — joining path texts composes paths

Two path texts are joined by a point, or by nothing where the second one begins with a bracket.  The
joined text is read as the segments of both, because a written segment never goes on over the seam;
and following both chains of segments is following the second one from every value that the first
one finds.

A member step stays at its segment while it crosses arrays, and a wildcard stays at its value when
that is no array.  So the law for whole paths is an induction over segments, with one lemma for each
kind of step, of which the lemma for member steps is an induction over the value.
-/

namespace RecordQuery

namespace Resolved

/-! ## Going on from what was found -/

mutual

/-- Every value found, at any depth of lists, gives place to what is found from there; missing
results and lists stay. -/
def andThen (next : Json → Resolved) : Resolved → Resolved
  | missing => missing
  | value v => next v
  | many items => many (andThenAll next items)

/-- Goes on from each of several results. -/
def andThenAll (next : Json → Resolved) : List Resolved → List Resolved
  | [] => []
  | r :: rest => andThen next r :: andThenAll next rest

end

/-- Lists keep their items one by one. -/
theorem andThenAll_eq_map (next : Json → Resolved) (items : List Resolved) :
    andThenAll next items = items.map (andThen next) := by
  induction items with
  | nil => rfl
  | cons r rest ih => rw [andThenAll, ih, List.map_cons]

end Resolved

namespace FieldPath

section

variable (next later : Json → Resolved)

mutual

theorem intoMember_andThen (name : String) : ∀ v : Json,
    intoMember name (fun w => (next w).andThen later) v
      = (intoMember name next v).andThen later
  | .object members => by
      rw [intoMember, intoMember]
      cases Json.lookup name members with
      | none => rfl
      | some v => rfl
  | .array items => by
      rw [intoMember, intoMember, Resolved.andThen, intoMembers_andThen name items]
  | .null => rfl
  | .bool _ => rfl
  | .number _ => rfl
  | .string _ => rfl

theorem intoMembers_andThen (name : String) : ∀ items : List Json,
    intoMembers name (fun w => (next w).andThen later) items
      = Resolved.andThenAll later (intoMembers name next items)
  | [] => rfl
  | v :: rest => by
      rw [intoMembers, intoMembers, Resolved.andThenAll, intoMember_andThen name v,
        intoMembers_andThen name rest]

end

theorem intoIndex_andThen (i : Nat) (v : Json) :
    intoIndex i (fun w => (next w).andThen later) v = (intoIndex i next v).andThen later := by
  cases v with
  | array items =>
      rw [intoIndex, intoIndex]
      cases items[i]? with
      | none => rfl
      | some v => rfl
  | object members =>
      rw [intoIndex, intoIndex]
      cases Json.lookup (Numeral.string i) members with
      | none => rfl
      | some v => rfl
  | null => rfl
  | bool b => rfl
  | number n => rfl
  | string s => rfl

theorem intoAll_andThen (v : Json) :
    intoAll (fun w => (next w).andThen later) v = (intoAll next v).andThen later := by
  cases v with
  | array items =>
      rw [intoAll, intoAll, Resolved.andThen, Resolved.andThenAll_eq_map, List.map_map]
      rfl
  | object members => rfl
  | null => rfl
  | bool b => rfl
  | number n => rfl
  | string s => rfl

end

/-- **Chains compose.** Following two chains of segments one after the other is following the second
one from every value that the first one finds. -/
theorem resolve_append (first second : List Segment) :
    resolve (first ++ second) = fun v => (resolve first v).andThen (resolve second) := by
  induction first with
  | nil => rfl
  | cons segment rest ih =>
      funext v
      cases segment with
      | member name =>
          show intoMember name (resolve (rest ++ second)) v = _
          rw [ih]
          exact intoMember_andThen _ _ name v
      | index i =>
          show intoIndex i (resolve (rest ++ second)) v = _
          rw [ih]
          exact intoIndex_andThen _ _ i v
      | wildcard =>
          show intoAll (resolve (rest ++ second)) v = _
          rw [ih]
          exact intoAll_andThen _ _ v

/-! ## Joining texts -/

/-- Two path texts as one: with a point between them, unless one is empty or the second one begins
with a bracket. -/
def joinText (p q : String) : String :=
  if p = "" then q
  else if q = "" then p
  else if q.toList.head? = some '[' then p ++ q
  else p ++ "." ++ q

/-- Written segments that follow others have a point in front, unless they begin with a bracket. -/
theorem joined_false_eq {pieces : List SegmentText} {segments : List Segment}
    (h : List.Forall₂ SegmentText.Denotes pieces segments) (hne : pieces ≠ []) :
    joined false pieces = if (joined true pieces).head? = some '[' then joined true pieces
      else '.' :: joined true pieces := by
  cases h with
  | nil => exact absurd rfl hne
  | @cons piece segment rest segments hdenotes _ =>
      rw [joined, joined]
      cases piece with
      | key quote body => rfl
      | token inside => rfl
      | name cs =>
          have hhead : ((SegmentText.name cs).chars true ++ joined false rest).head? ≠ some '[' := by
            intro hhead
            obtain ⟨c, inner, hchars⟩ := List.exists_cons_of_ne_nil (hdenotes.chars_ne_nil true)
            rw [hchars, List.cons_append, List.head?_cons] at hhead
            cases hhead
            exact hdenotes.name_chars_ne hchars
          rw [if_neg hhead]
          rfl

theorem joined_append {pieces later : List SegmentText} (first : Bool) (hne : pieces ≠ []) :
    joined first (pieces ++ later) = joined first pieces ++ joined false later := by
  induction pieces generalizing first with
  | nil => exact absurd rfl hne
  | cons piece rest ih =>
      rw [List.cons_append, joined, joined, List.append_assoc]
      cases rest with
      | nil => rfl
      | cons next rest => rw [ih false (List.cons_ne_nil _ _)]

/-- Only the empty text has no written segments. -/
theorem Spells.eq_empty_iff {p : String} {pieces : List SegmentText} {segments : List Segment}
    (h : Spells p.toList pieces segments) : p = "" ↔ pieces = [] := by
  rw [← String.toList_eq_nil_iff, ← h.text]
  constructor
  · intro hnil
    cases h.denotes with
    | nil => rfl
    | cons hdenotes _ =>
        exact absurd (List.append_eq_nil_iff.mp hnil).1 (hdenotes.chars_ne_nil true)
  · rintro rfl
    rfl

/-- **Texts join segment by segment.** No written segment goes on over the seam. -/
theorem Spells.join {p q : String} {pieces later : List SegmentText}
    {segments laterSegments : List Segment} (hp : Spells p.toList pieces segments)
    (hq : Spells q.toList later laterSegments) :
    Spells (joinText p q).toList (pieces ++ later) (segments ++ laterSegments) := by
  refine ⟨?_, List.rel_append hp.denotes hq.denotes⟩
  unfold joinText
  by_cases hpieces : pieces = []
  · rw [if_pos (hp.eq_empty_iff.mpr hpieces), hpieces]
    exact hq.text
  · rw [if_neg (mt hp.eq_empty_iff.mp hpieces)]
    by_cases hlater : later = []
    · rw [if_pos (hq.eq_empty_iff.mpr hlater), hlater, List.append_nil]
      exact hp.text
    · rw [if_neg (mt hq.eq_empty_iff.mp hlater), joined_append true hpieces,
        joined_false_eq hq.denotes hlater, hp.text, hq.text]
      split
      · rw [String.toList_append]
      · rw [String.toList_append, String.toList_append, List.append_assoc]
        rfl

/-- **Concatenation is composition.** Two texts that are read as paths join to a text that is read
as a path, and that path goes on with the second one from every value that the first one finds. -/
theorem parse_joinText {p q : String} {path next : FieldPath} (hp : parse p = .ok path)
    (hq : parse q = .ok next) :
    ∃ whole, parse (joinText p q) = .ok whole
      ∧ ∀ record, whole.evaluate record = (path.evaluate record).andThen next.evaluate := by
  obtain ⟨-, hp⟩ := parse_eq_ok_iff.mp hp
  obtain ⟨-, hq⟩ := parse_eq_ok_iff.mp hq
  obtain ⟨pieces, hp⟩ := segmentsOf_eq_ok_iff.mp hp
  obtain ⟨later, hq⟩ := segmentsOf_eq_ok_iff.mp hq
  refine ⟨⟨joinText p q, path.segments ++ next.segments⟩, ?_, ?_⟩
  · exact parse_eq_ok_iff.mpr ⟨rfl, segmentsOf_eq_ok_iff.mpr ⟨_, hp.join hq⟩⟩
  · intro record
    exact congrFun (resolve_append path.segments next.segments) record

/-- The names under a wildcard: the first path fans out, and the second one goes on in every item. -/
theorem parse_joinText_of_wildcard :
    joinText "cast[*]" "name" = "cast[*].name"
      ∧ ∃ whole, parse (joinText "cast[*]" "name") = .ok whole
        ∧ ∀ record, whole.evaluate record
          = (evaluate ⟨"cast[*]", [.member "cast", .wildcard]⟩ record).andThen
              (evaluate ⟨"name", [.member "name"]⟩) := by
  refine ⟨by decide, ?_⟩
  exact parse_joinText rfl rfl

end FieldPath

end RecordQuery
