import Mathlib.Logic.Basic
import RecordQuery.Proofs.Numeric.Numeral
import RecordQuery.Proofs.Text.PercentRoundTrip
import RecordQuery.Proofs.Text.Spans
import RecordQuery.Window.Query

/-!
# RecordQuery.Proofs.Window.QueryText — query strings tell windows apart

A query string is read by cutting it at ampersands, every part at its first equals sign, and
decoding what stands after it.  Names are fixed words and values are encoded, so no text that a
window holds can end a value, start another parameter or change its name: reading gives back what
the window asks for, in the order in which it was written (`Window.readQuery?_toQuery`).  Two windows
with one query string therefore ask for the same.
-/

namespace RecordQuery

/-! ## Texts of parts -/

theorem Numeral.string_inj {m n : Nat} : string m = string n ↔ m = n := by
  constructor
  · intro h
    have hdigits : digits m = digits n := String.ofList_injective h
    rw [← value_digits m, hdigits, value_digits]
  · rintro rfl
    rfl

/-- Only the order without fields has no text. -/
theorem SortOrder.text_eq_empty_iff {order : SortOrder} : text order = "" ↔ order = [] := by
  constructor
  · intro h
    cases order with
    | nil => rfl
    | cons field rest =>
        have hsign : field.signed ≠ "" := by
          unfold SortField.signed
          split <;> simp
        cases rest with
        | nil =>
            rw [text, List.map_cons, List.map_nil, String.intercalate_singleton] at h
            exact absurd h hsign
        | cons next rest =>
            rw [text, List.map_cons, List.map_cons, String.intercalate_cons_cons] at h
            simp at h
  · rintro rfl
    rfl

namespace Window

/-! ## Reading query strings -/

/-- Reads one part of a query string: a name before the first equals sign, and an encoded value
after it. -/
def readPart? (part : List Char) : Option (String × String) :=
  match part.dropWhile (· != '=') with
  | [] => none
  | _ :: value =>
    (Text.percentDecode? value).map fun value =>
      (String.ofList (part.takeWhile (· != '=')), String.ofList value)

/-- Reads the parts of a query string, which stand between ampersands; the empty text has none. -/
def readQuery? (text : String) : Option (List (String × String)) :=
  if text = "" then some [] else (Text.pieces '&' text.toList).mapM readPart?

theorem readPart?_parameterText {name : String} (h : '=' ∉ name.toList) (value : List Char) :
    readPart? (parameterText (name, value)) = some (name, String.ofList value) := by
  obtain ⟨htake, hdrop⟩ := Text.span_ne_eq_iff.mpr ⟨rfl, h⟩
  rw [readPart?, parameterText, hdrop, htake]
  simp only [Text.percentDecode?_percentEncode, Option.map_some, String.ofList_toList]

theorem ampersand_notMem_parameterText {name : String} (h : '&' ∉ name.toList)
    (value : List Char) : '&' ∉ parameterText (name, value) := by
  intro hmem
  rcases List.mem_append.mp hmem with hname | hvalue
  · exact h hname
  · rcases List.mem_cons.mp hvalue with heq | hvalue
    · exact absurd heq (by decide)
    · exact absurd (Text.eq_percent_of_mem_percentEncode hvalue (by decide)) (by decide)

/-- **Joined parameters read back** when no name holds a separator. -/
theorem readQuery?_join {ps : List (String × List Char)}
    (h : ∀ p ∈ ps, '&' ∉ p.1.toList ∧ '=' ∉ p.1.toList) :
    readQuery? (String.ofList (['&'].intercalate (ps.map parameterText)))
      = some (ps.map fun p => (p.1, String.ofList p.2)) := by
  unfold readQuery?
  split
  · next hempty =>
      -- every parameter has an equals sign, so only no parameters join to the empty text
      cases ps with
      | nil => rfl
      | cons p ps =>
          have hlist := congrArg String.toList hempty
          rw [String.toList_ofList, List.map_cons] at hlist
          cases ps with
          | nil => simp [parameterText] at hlist
          | cons q ps => simp [List.intercalate_cons_cons] at hlist
  · next hne =>
      have hps : ps.map parameterText ≠ [] := by
        intro hnil
        rw [hnil] at hne
        exact hne rfl
      have hparts : ∀ part ∈ ps.map parameterText, '&' ∉ part := by
        intro part hpart
        obtain ⟨p, hp, rfl⟩ := List.mem_map.mp hpart
        exact ampersand_notMem_parameterText (h p hp).1 p.2
      rw [String.toList_ofList, Text.pieces_intercalate hps hparts]
      clear hne hps hparts
      induction ps with
      | nil => rfl
      | cons p ps ih =>
          obtain ⟨hp, hrest⟩ := List.forall_mem_cons.mp h
          rw [List.map_cons, List.mapM_cons, readPart?_parameterText hp.2, ih hrest]
          rfl

/-! ## What a window asks for -/

/-- Texts under one name. -/
def named (name : String) (texts : List String) : List (String × String) :=
  texts.map fun text => (name, text)

/-- The texts under a name. -/
def textsOf (name : String) (ps : List (String × String)) : List String :=
  (ps.filter fun p => p.1 == name).map Prod.snd

theorem textsOf_append (name : String) (ps qs : List (String × String)) :
    textsOf name (ps ++ qs) = textsOf name ps ++ textsOf name qs := by
  rw [textsOf, List.filter_append, List.map_append]
  rfl

theorem textsOf_named (name other : String) (texts : List String) :
    textsOf name (named other texts) = if other = name then texts else [] := by
  unfold textsOf named
  rw [List.filter_map]
  by_cases h : other = name
  · rw [if_pos h]
    simp [Function.comp_def, h]
  · rw [if_neg h]
    simp [Function.comp_def, h]

theorem named_eq_nil_iff {name : String} {texts : List String} :
    named name texts = [] ↔ texts = [] :=
  List.map_eq_nil_iff

/-- What a window asks for, as texts: the limit if there is one, the offset unless it is zero, the
sort order unless it has no fields, the filter if there is one, and every selected field. -/
def asked (w : Window) : List (String × String) :=
  named "limit" (w.limit.map fun n => Numeral.string n.toNat).toList
    ++ named "offset" (if w.offset = 0 then [] else [Numeral.string w.offset.toNat])
    ++ named "sortOrder" (if w.sortOrder = [] then [] else [SortOrder.text w.sortOrder])
    ++ named "filter" (w.filter.map fun f => f.toJson.render).toList
    ++ named "field" w.fields

theorem map_parameters (w : Window) :
    (w.parameters.map fun p => (p.1, String.ofList p.2)) = w.asked := by
  simp only [parameters, asked, List.map_append]
  -- one goal for each kind of parameter
  refine congrArg₂ _ (congrArg₂ _ (congrArg₂ _ (congrArg₂ _ ?_ ?_) ?_) ?_) ?_
  · cases w.limit <;> rfl
  · split <;> rfl
  · cases w.sortOrder with
    | nil => rfl
    | cons field rest => simp [named]
  · cases w.filter <;> rfl
  · simp [named]

/-- The names of parameters hold no separator. -/
theorem name_plain_of_mem_parameters {w : Window} {p : String × List Char}
    (h : p ∈ w.parameters) : '&' ∉ p.1.toList ∧ '=' ∉ p.1.toList := by
  have hname : p.1 ∈ ["limit", "offset", "sortOrder", "filter", "field"] := by
    have hasked : (p.1, String.ofList p.2) ∈ w.asked := by
      rw [← map_parameters]
      exact List.mem_map_of_mem h
    simp only [asked, List.mem_append, named, List.mem_map] at hasked
    rcases hasked with (((⟨_, _, heq⟩ | ⟨_, _, heq⟩) | ⟨_, _, heq⟩) | ⟨_, _, heq⟩) | ⟨_, _, heq⟩ <;>
      simp [← (Prod.mk.inj heq).1]
  have hall : ∀ name ∈ ["limit", "offset", "sortOrder", "filter", "field"],
      '&' ∉ String.toList name ∧ '=' ∉ String.toList name := by
    decide
  exact hall p.1 hname

/-- Reading the query string of a window gives what the window asks for. -/
theorem readQuery?_eq_asked (w : Window) : readQuery? w.toQuery = some w.asked := by
  rw [toQuery, readQuery?_join fun p hp => name_plain_of_mem_parameters hp, map_parameters]

/-! ## What tells windows apart -/

/-- What is asked for under each name. -/
theorem textsOf_asked (w : Window) :
    textsOf "limit" w.asked = (w.limit.map fun n => Numeral.string n.toNat).toList
      ∧ textsOf "offset" w.asked
        = (if w.offset = 0 then [] else [Numeral.string w.offset.toNat])
      ∧ textsOf "sortOrder" w.asked
        = (if w.sortOrder = [] then [] else [SortOrder.text w.sortOrder])
      ∧ textsOf "filter" w.asked = (w.filter.map fun f => f.toJson.render).toList
      ∧ textsOf "field" w.asked = w.fields := by
  simp only [asked, textsOf_append, textsOf_named]
  refine ⟨?_, ?_, ?_, ?_, ?_⟩ <;> simp

theorem eq_of_toList_eq {α : Type} {a b : Option α} (h : a.toList = b.toList) : a = b := by
  have hhead := congrArg List.head? h
  rwa [Option.head?_toList, Option.head?_toList] at hhead

theorem limit_eq_of_texts_eq {m n : Option UInt64}
    (h : (m.map fun n => Numeral.string n.toNat).toList
      = (n.map fun n => Numeral.string n.toNat).toList) : m = n := by
  refine Option.map_injective ?_ (eq_of_toList_eq h)
  intro a b hab
  exact UInt64.toNat_inj.mp (Numeral.string_inj.mp hab)

/-- Lists that hold one text or none are equal when both hold none or both the same one. -/
theorem ite_singleton_eq_iff {p q : Prop} [Decidable p] [Decidable q] {s t : String} :
    (if p then [] else [s]) = (if q then [] else [t]) ↔ (p ↔ q) ∧ (¬ p → s = t) := by
  by_cases hp : p
  · by_cases hq : q <;> simp [hp, hq]
  · by_cases hq : q <;> simp [hp, hq]

theorem offset_eq_of_texts_eq {m n : UInt64}
    (h : (if m = 0 then [] else [Numeral.string m.toNat])
      = if n = 0 then [] else [Numeral.string n.toNat]) : m = n := by
  obtain ⟨hzero, htext⟩ := ite_singleton_eq_iff.mp h
  by_cases hm : m = 0
  · rw [hm, hzero.mp hm]
  · exact UInt64.toNat_inj.mp (Numeral.string_inj.mp (htext hm))

theorem orderText_eq_of_texts_eq {order other : SortOrder}
    (h : (if order = [] then [] else [SortOrder.text order])
      = if other = [] then [] else [SortOrder.text other]) :
    SortOrder.text order = SortOrder.text other := by
  obtain ⟨hempty, htext⟩ := ite_singleton_eq_iff.mp h
  by_cases horder : order = []
  · rw [horder, hempty.mp horder]
  · exact htext horder

/-- Two windows ask for the same when they have the same limit, offset, text of the order, text of
the filter and fields. -/
theorem asked_eq_iff {w v : Window} :
    w.asked = v.asked ↔ w.limit = v.limit ∧ w.offset = v.offset
      ∧ SortOrder.text w.sortOrder = SortOrder.text v.sortOrder
      ∧ (w.filter.map fun f => f.toJson.render) = (v.filter.map fun f => f.toJson.render)
      ∧ w.fields = v.fields := by
  constructor
  · intro h
    obtain ⟨hlimit, hoffset, horder, hfilter, hfields⟩ := textsOf_asked w
    obtain ⟨hlimit', hoffset', horder', hfilter', hfields'⟩ := textsOf_asked v
    rw [h] at hlimit hoffset horder hfilter hfields
    exact ⟨limit_eq_of_texts_eq (hlimit.symm.trans hlimit'),
      offset_eq_of_texts_eq (hoffset.symm.trans hoffset'),
      orderText_eq_of_texts_eq (horder.symm.trans horder'),
      eq_of_toList_eq (hfilter.symm.trans hfilter'), hfields.symm.trans hfields'⟩
  · rintro ⟨hlimit, hoffset, horder, hfilter, hfields⟩
    have hempty : w.sortOrder = [] ↔ v.sortOrder = [] := by
      rw [← SortOrder.text_eq_empty_iff, horder, SortOrder.text_eq_empty_iff]
    unfold asked
    simp only [hlimit, hoffset, horder, hfilter, hfields, hempty]

theorem asked_eq_nil_iff {w : Window} : w.asked = [] ↔ w.isEmpty = true := by
  unfold asked isEmpty
  simp only [List.append_eq_nil_iff, named_eq_nil_iff, Bool.and_eq_true]
  simp [Option.isNone_iff_eq_none, and_assoc, and_left_comm]

/-- Windows that ask for the same have the same query string. -/
theorem toQuery_eq_iff_asked_eq {w v : Window} : w.toQuery = v.toQuery ↔ w.asked = v.asked := by
  constructor
  · intro h
    have hread := w.readQuery?_eq_asked
    rw [h, readQuery?_eq_asked] at hread
    exact (Option.some.inj hread).symm
  · intro h
    have hinj : ∀ p q : String × List Char, (p.1, String.ofList p.2) = (q.1, String.ofList q.2) →
        p = q := by
      intro p q heq
      obtain ⟨hname, hvalue⟩ := Prod.mk.inj heq
      exact Prod.ext hname (String.ofList_injective hvalue)
    rw [← map_parameters, ← map_parameters, List.map_inj_right hinj] at h
    rw [toQuery, toQuery, h]

/-- **Query strings cannot be confused.** Cut at ampersands, at first equals signs and decoded, the
query string of a window gives what the window asks for, in order and under its names.  Two windows
have one query string exactly when they agree in limit, offset, the texts of order and filter, and
fields, and the string is empty exactly for windows that ask for everything. -/
theorem readQuery?_toQuery (w : Window) :
    readQuery? w.toQuery = some (
        named "limit" (w.limit.map fun n => Numeral.string n.toNat).toList
          ++ named "offset" (if w.offset = 0 then [] else [Numeral.string w.offset.toNat])
          ++ named "sortOrder" (if w.sortOrder = [] then [] else [SortOrder.text w.sortOrder])
          ++ named "filter" (w.filter.map fun f => f.toJson.render).toList
          ++ named "field" w.fields)
    ∧ (∀ v : Window, w.toQuery = v.toQuery ↔ w.limit = v.limit ∧ w.offset = v.offset
        ∧ SortOrder.text w.sortOrder = SortOrder.text v.sortOrder
        ∧ (w.filter.map fun f => f.toJson.render) = (v.filter.map fun f => f.toJson.render)
        ∧ w.fields = v.fields)
    ∧ (w.toQuery = "" ↔ w.isEmpty = true) := by
  refine ⟨readQuery?_eq_asked w, fun v => ?_, ?_⟩
  · rw [toQuery_eq_iff_asked_eq, asked_eq_iff]
  · rw [← asked_eq_nil_iff]
    exact toQuery_eq_iff_asked_eq (v := empty)

/-- A field without a name has a parameter, and a field that spells one is encoded. -/
example : toQuery { fields := ["", "a&field=b", "100%"] }
    = "field=&field=a%26field%3Db&field=100%25" := by
  cbv

end Window

end RecordQuery
