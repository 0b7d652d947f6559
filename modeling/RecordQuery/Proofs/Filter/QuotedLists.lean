import Mathlib.Data.List.Basic
import RecordQuery.Filter.Describe

/-!
# RecordQuery.Proofs.Filter.QuotedLists — lists of quoted texts are told apart

The values of a choice are described between single quotes, with a comma and a blank between them.
Quotes inside a value are marked by a backslash, but backslashes are not marked.  So a value that
ends with a backslash makes its closing quote look like a marked one, and up to some point a
description can be read in two ways.

Two readings that are out of step stay so: the one that is outside of quotes has to go on with a
comma, a blank and an opening quote, and this quote closes those of the reading that is inside
(`insideQuotes_ne_afterQuotes`).  A description ends outside of quotes, so no two readings of it get
out of step, and no two lists share it (`describe_stringEnum_eq_iff`).
-/

namespace RecordQuery.Filter

/-! ## Readings -/

/-- The text that follows a closing quote: the remaining values, each after a comma and a blank. -/
def afterQuotes : List (List Char) → List Char
  | [] => []
  | s :: rest => ',' :: ' ' :: '\x27' :: (s.flatMap quoteChar ++ '\x27' :: afterQuotes rest)

/-- The text that follows an opening quote: what is left of a value, and the remaining values. -/
def insideQuotes (s : List Char) (rest : List (List Char)) : List Char :=
  s.flatMap quoteChar ++ '\x27' :: afterQuotes rest

theorem afterQuotes_cons (s : List Char) (rest : List (List Char)) :
    afterQuotes (s :: rest) = ',' :: ' ' :: '\x27' :: insideQuotes s rest := rfl

theorem insideQuotes_quote (s : List Char) (rest : List (List Char)) :
    insideQuotes ('\x27' :: s) rest = '\\' :: '\x27' :: insideQuotes s rest := rfl

theorem insideQuotes_plain {c : Char} (h : c ≠ '\x27') (s : List Char) (rest : List (List Char)) :
    insideQuotes (c :: s) rest = c :: insideQuotes s rest := by
  rw [insideQuotes, List.flatMap_cons, quoteChar, if_neg h]
  rfl

/-- A quote that is not marked closes. -/
theorem eq_nil_of_quote_cons {s cs : List Char} {rest : List (List Char)}
    (h : '\x27' :: cs = insideQuotes s rest) : s = [] ∧ cs = afterQuotes rest := by
  cases s with
  | nil => exact ⟨rfl, (List.cons.inj h).2⟩
  | cons c s =>
      by_cases hc : c = '\x27'
      · subst hc
        rw [insideQuotes_quote] at h
        exact absurd (List.cons.inj h).1 (by decide)
      · rw [insideQuotes_plain hc] at h
        exact absurd (List.cons.inj h).1.symm hc

/-- Any other character stands for itself, or is a backslash that marks a quote. -/
theorem exists_of_cons {c : Char} (hc : c ≠ '\x27') {s cs : List Char} {rest : List (List Char)}
    (h : c :: cs = insideQuotes s rest) :
    (∃ later, s = c :: later ∧ cs = insideQuotes later rest)
      ∨ c = '\\' ∧ ∃ later, s = '\x27' :: later ∧ cs = '\x27' :: insideQuotes later rest := by
  cases s with
  | nil => exact absurd (List.cons.inj h).1 hc
  | cons d s =>
      by_cases hd : d = '\x27'
      · subst hd
        rw [insideQuotes_quote] at h
        obtain ⟨hmark, hcs⟩ := List.cons.inj h
        exact Or.inr ⟨hmark, s, rfl, hcs⟩
      · rw [insideQuotes_plain hd] at h
        obtain ⟨rfl, hcs⟩ := List.cons.inj h
        exact Or.inl ⟨s, rfl, hcs⟩

/-- A character that is neither a quote nor a backslash stands for itself. -/
theorem exists_of_plain_cons {c : Char} (hc : c ≠ '\x27') (hmark : c ≠ '\\') {s cs : List Char}
    {rest : List (List Char)} (h : c :: cs = insideQuotes s rest) :
    ∃ later, s = c :: later ∧ cs = insideQuotes later rest :=
  (exists_of_cons hc h).resolve_right fun hmarks => hmark hmarks.1

/-- **Out of step.** No text is read to its end both from inside and from outside of quotes. -/
theorem insideQuotes_ne_afterQuotes (s : List Char) (rest : List (List Char)) :
    ∀ other, insideQuotes s rest ≠ afterQuotes other
  | [], h => by
      rw [insideQuotes, afterQuotes] at h
      exact absurd (List.append_eq_nil_iff.mp h).2 (List.cons_ne_nil _ _)
  | t :: later, h => by
      -- the reading from inside passes the comma and the blank and closes at the opening quote
      obtain ⟨s, -, h⟩ := exists_of_plain_cons (by decide) (by decide) h.symm
      obtain ⟨s, -, h⟩ := exists_of_plain_cons (by decide) (by decide) h
      obtain ⟨-, h⟩ := eq_nil_of_quote_cons h
      exact insideQuotes_ne_afterQuotes t later rest h
termination_by other => rest.length + other.length

/-- Two readings from inside of quotes are the same if those of the remaining values are. -/
theorem insideQuotes_inj {rest other : List (List Char)}
    (hrest : afterQuotes rest = afterQuotes other → rest = other) {s t : List Char}
    (h : insideQuotes s rest = insideQuotes t other) : s = t ∧ rest = other := by
  induction s generalizing t with
  | nil =>
      obtain ⟨rfl, hafter⟩ := eq_nil_of_quote_cons h
      exact ⟨rfl, hrest hafter⟩
  | cons c s ih =>
      by_cases hc : c = '\x27'
      · subst hc
        rw [insideQuotes_quote] at h
        rcases exists_of_cons (by decide) h with ⟨later, rfl, hlater⟩ | ⟨-, later, rfl, hlater⟩
        · -- the mark of the quote on one side is a last backslash on the other side
          obtain ⟨-, hafter⟩ := eq_nil_of_quote_cons hlater
          exact absurd hafter (insideQuotes_ne_afterQuotes s rest other)
        · obtain ⟨rfl, heq⟩ := ih (List.cons.inj hlater).2
          exact ⟨rfl, heq⟩
      · rw [insideQuotes_plain hc] at h
        rcases exists_of_cons hc h with ⟨later, rfl, hlater⟩ | ⟨-, later, rfl, hlater⟩
        · obtain ⟨rfl, heq⟩ := ih hlater
          exact ⟨rfl, heq⟩
        · obtain ⟨-, hafter⟩ := eq_nil_of_quote_cons hlater.symm
          exact absurd hafter (insideQuotes_ne_afterQuotes later other rest)

/-- The values are determined by the text after a closing quote. -/
theorem afterQuotes_injective : Function.Injective afterQuotes := by
  intro rest
  induction rest with
  | nil =>
      intro other h
      cases other with
      | nil => rfl
      | cons t later => cases h
  | cons s rest ih =>
      intro other h
      cases other with
      | nil => cases h
      | cons t later =>
          have hinside : insideQuotes s rest = insideQuotes t later := by
            simpa only [afterQuotes_cons, List.cons.injEq, true_and] using h
          obtain ⟨rfl, rfl⟩ := insideQuotes_inj (fun hafter => ih hafter) hinside
          rfl

/-! ## Descriptions -/

theorem toList_quote (s : String) :
    (quote s).toList = '\x27' :: s.toList.flatMap quoteChar ++ ['\x27'] := by
  rw [quote, String.toList_ofList]

/-- A list of texts, of which there is at least one, begins with an opening quote. -/
theorem toList_intercalate_quote (s : String) (rest : List String) :
    (", ".intercalate ((s :: rest).map quote)).toList
      = '\x27' :: insideQuotes s.toList (rest.map String.toList) := by
  induction rest generalizing s with
  | nil =>
      rw [List.map_singleton, String.intercalate_singleton, toList_quote]
      rfl
  | cons t rest ih =>
      rw [List.map_cons, List.map_cons, String.intercalate_cons_cons, ← List.map_cons,
        String.toList_append, String.toList_append, ih, toList_quote]
      simp [insideQuotes, afterQuotes]

/-- The texts of a list can be read off its description. -/
theorem intercalate_quote_injective :
    Function.Injective fun texts : List String => ", ".intercalate (texts.map quote) := by
  intro vs us h
  have hlist := congrArg String.toList h
  cases vs with
  | nil =>
      cases us with
      | nil => rfl
      | cons u us =>
          rw [toList_intercalate_quote] at hlist
          cases hlist
  | cons v vs =>
      cases us with
      | nil =>
          rw [toList_intercalate_quote] at hlist
          cases hlist
      | cons u us =>
          rw [toList_intercalate_quote, toList_intercalate_quote] at hlist
          obtain ⟨hfirst, hrest⟩ :=
            insideQuotes_inj (fun h => afterQuotes_injective h) (List.cons.inj hlist).2
          have hchars : Function.Injective String.toList := fun _ _ => String.toList_injective
          rw [hchars hfirst, List.map_injective_iff.mpr hchars hrest]

/-- **Lists are told apart.** Two choices among texts, over one field, have the same description
only if they list the same texts in the same order. -/
theorem describe_stringEnum_eq_iff (field : String) (vs us : List String) :
    (leaf field (.stringEnum (some vs))).describe = (leaf field (.stringEnum (some us))).describe
      ↔ vs = us := by
  have hdescribe : ∀ texts : List String, (leaf field (.stringEnum (some texts))).describe
      = field ++ " IN (" ++ ", ".intercalate (texts.map quote) ++ ")" := fun _ => rfl
  constructor
  · intro h
    rw [hdescribe, hdescribe, String.append_left_inj, String.append_right_inj] at h
    exact intercalate_quote_injective h
  · rintro rfl
    rfl

end RecordQuery.Filter
