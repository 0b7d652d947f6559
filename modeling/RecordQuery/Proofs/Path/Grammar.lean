import Mathlib.Data.List.Forall2
import RecordQuery.Path.Parser
import RecordQuery.Proofs.Text.Spans

/-!
# RecordQuery.Proofs.Path.Grammar — the language of path texts

A path text is a sequence of written segments: quoted keys, tokens between brackets, and names, of
which all but a first one stand after a point.  `SegmentText.Denotes` gives the rules of one segment
and what it denotes; `FieldPath.Spells` puts segments together.

Keys and tokens have an end of their own, and a name goes on up to a point or a bracket, so that
`SegmentText.EndsBefore` says which text may follow a segment.  The characters of a written segment
determine it.
-/

namespace RecordQuery

/-! ## Written segments -/

/-- A segment as it is written. -/
inductive SegmentText where
  /-- A key between two quotes of one kind, in brackets. -/
  | key (quote : Char) (body : List Char)
  /-- Anything else in brackets. -/
  | token (inside : List Char)
  | name (cs : List Char)
deriving DecidableEq

/-- Digits that spell an index, which is below two to the power 64, the number of words. -/
structure IndexDigits (digits : List Char) (i : Nat) : Prop where
  ne_nil : digits ≠ []
  isDigit : ∀ c ∈ digits, Numeral.isDigit c = true
  limit : i < UInt64.size
  value : Numeral.value digits = i

namespace SegmentText

/-- The characters of a segment; a name stands after a point unless it is the first segment. -/
def chars (first : Bool) : SegmentText → List Char
  | key quote body => '[' :: quote :: (body ++ [quote, ']'])
  | token inside => '[' :: (inside ++ [']'])
  | name cs => if first then cs else '.' :: cs

theorem chars_key_append (first : Bool) (quote : Char) (body rest : List Char) :
    (key quote body).chars first ++ rest = '[' :: quote :: (body ++ quote :: ']' :: rest) := by
  simp [chars]

theorem chars_token_append (first : Bool) (inside rest : List Char) :
    (token inside).chars first ++ rest = '[' :: (inside ++ ']' :: rest) := by
  simp [chars]

/-- The rules of written segments, and what they denote. -/
inductive Denotes : SegmentText → Segment → Prop where
  /-- A key holds anything but its own quote, also nothing at all. -/
  | key {quote : Char} {body : List Char} (hquote : quote = '"' ∨ quote = '\x27')
      (hbody : quote ∉ body) : Denotes (key quote body) (.member (String.ofList body))
  /-- A star between blanks stands for all items. -/
  | star {inside : List Char} (hclose : ']' ∉ inside)
      (hquote : ∀ c ∈ inside.head?, c ≠ '"' ∧ c ≠ '\x27') (htrim : Text.TrimsTo inside ['*']) :
      Denotes (token inside) .wildcard
  /-- Digits between blanks, after an optional plus sign, stand for one item. -/
  | index {inside sign digits : List Char} {i : Nat} (hclose : ']' ∉ inside)
      (hquote : ∀ c ∈ inside.head?, c ≠ '"' ∧ c ≠ '\x27')
      (htrim : Text.TrimsTo inside (sign ++ digits)) (hsign : sign = [] ∨ sign = ['+'])
      (hdigits : IndexDigits digits i) : Denotes (token inside) (.index i)
  /-- A name is not empty and holds no point and no bracket. -/
  | name {cs : List Char} (hne : cs ≠ []) (hcs : ∀ c ∈ cs, c ≠ '.' ∧ c ≠ '[' ∧ c ≠ ']') :
      Denotes (name cs) (.member (String.ofList cs))

/-- A token holds no closing bracket and does not begin with a quote. -/
theorem Denotes.token_inside {inside : List Char} {segment : Segment}
    (h : (token inside).Denotes segment) :
    ']' ∉ inside ∧ ∀ c ∈ inside.head?, c ≠ '"' ∧ c ≠ '\x27' := by
  cases h with
  | star hclose hquote _ => exact ⟨hclose, hquote⟩
  | index hclose hquote _ _ _ => exact ⟨hclose, hquote⟩

/-- A name goes on up to a point or a bracket; other segments have an end of their own. -/
def EndsBefore : SegmentText → List Char → Prop
  | name _, rest => ∀ c ∈ rest.head?, FieldPath.endsName c = true
  | _, _ => True

theorem EndsBefore.of_head {piece : SegmentText} {rest : List Char}
    (h : ∀ c ∈ rest.head?, FieldPath.endsName c = true) : piece.EndsBefore rest := by
  cases piece with
  | key quote body => trivial
  | token inside => trivial
  | name cs => exact h

/-! ## Characters determine segments -/

section

variable {first : Bool} {piece piece' : SegmentText} {segment segment' : Segment}

theorem Denotes.chars_ne_nil (h : piece.Denotes segment) (first : Bool) :
    piece.chars first ≠ [] := by
  cases h with
  | key => exact List.cons_ne_nil _ _
  | star => exact List.cons_ne_nil _ _
  | index => exact List.cons_ne_nil _ _
  | name hne _ =>
      cases first with
      | true => exact hne
      | false => exact List.cons_ne_nil _ _

/-- A name does not begin like a bracket. -/
theorem Denotes.name_chars_ne {cs inner : List Char} (h : Denotes (.name cs) segment) :
    (SegmentText.name cs).chars first ≠ '[' :: inner := by
  cases h with
  | name hne hcs =>
      intro heq
      cases first with
      | true =>
          have hhead : '[' ∈ cs := by
            rw [show cs = '[' :: inner from heq]
            exact List.mem_cons_self
          exact (hcs '[' hhead).2.1 rfl
      | false => exact absurd (List.cons.inj heq).1 (by decide)

/-- A token does not begin like a key. -/
theorem Denotes.token_chars_ne {quote : Char} {body inside : List Char}
    (h : Denotes (.token inside) segment) (hkey : Denotes (.key quote body) segment') :
    (SegmentText.token inside).chars first ≠ (SegmentText.key quote body).chars first := by
  intro heq
  have hinside : inside = quote :: (body ++ [quote]) := by
    have heq : inside ++ [']'] = (quote :: (body ++ [quote])) ++ [']'] := by
      simpa [chars] using heq
    exact List.append_cancel_right heq
  cases hkey with
  | key hquote _ =>
      obtain ⟨hdouble, hsingle⟩ := h.token_inside.2 quote (by rw [hinside]; rfl)
      rcases hquote with hquote | hquote
      · exact hdouble hquote
      · exact hsingle hquote

/-- Written segments with the same characters are the same. -/
theorem Denotes.eq_of_chars_eq (h : piece.Denotes segment) (h' : piece'.Denotes segment')
    (heq : piece.chars first = piece'.chars first) : piece = piece' := by
  cases piece with
  | key quote body =>
      cases piece' with
      | key quote' body' =>
          obtain ⟨rfl, hbody⟩ := List.cons.inj (List.cons.inj heq).2
          rw [List.append_cancel_right hbody]
      | token inside' => exact absurd heq.symm (h'.token_chars_ne h)
      | name cs' => exact absurd heq.symm h'.name_chars_ne
  | token inside =>
      cases piece' with
      | key quote' body' => exact absurd heq (h.token_chars_ne h')
      | token inside' => rw [List.append_cancel_right (List.cons.inj heq).2]
      | name cs' => exact absurd heq.symm h'.name_chars_ne
  | name cs =>
      cases piece' with
      | key quote' body' => exact absurd heq h.name_chars_ne
      | token inside' => exact absurd heq h.name_chars_ne
      | name cs' =>
          cases first with
          | true => exact congrArg SegmentText.name heq
          | false => exact congrArg SegmentText.name (List.cons.inj heq).2

end

end SegmentText

namespace FieldPath

/-- The text of a sequence of written segments, of which the first may be the first of a path. -/
def joined (first : Bool) : List SegmentText → List Char
  | [] => []
  | piece :: rest => piece.chars first ++ joined false rest

/-- A text is the given sequence of written segments, and they denote the given segments. -/
structure Spells (cs : List Char) (pieces : List SegmentText) (segments : List Segment) :
    Prop where
  text : joined true pieces = cs
  denotes : List.Forall₂ SegmentText.Denotes pieces segments

end FieldPath

end RecordQuery
