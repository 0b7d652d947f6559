import RecordQuery.Json.Members
import RecordQuery.Proofs.Json.NumberText
import RecordQuery.Proofs.Json.Plain
import RecordQuery.Proofs.Json.StringText

/-!
# RecordQuery.Proofs.Json.TextRoundTrip — the text of a value reads back

The compact text of a value without doubles is read as the same value when its brackets nest no
deeper than the reader allows, and runs into the nesting limit otherwise.  The reader takes one
budget step per value and per item; a text of `n` characters never needs more than `2 * n` of them.
-/

namespace RecordQuery.Json

/-! ## Ascending members stay as they are -/

/-- A name after all others is set at the end. -/
theorem insert_of_forall_lt {name : String} (value : Json) {ms : List (String × Json)}
    (h : ∀ m ∈ ms, compare m.1 name = .lt) : insert name value ms = ms ++ [(name, value)] := by
  induction ms with
  | nil => rfl
  | cons m ms ih =>
      obtain ⟨k, v⟩ := m
      have hk : compare name k = .gt :=
        Std.OrientedCmp.gt_iff_lt.2 (h (k, v) List.mem_cons_self)
      rw [insert, hk]
      show (k, v) :: insert name value ms = _
      rw [ih fun m hm => h m (List.mem_cons_of_mem _ hm)]
      rfl

/-- **Ascending members are sorted already.** -/
theorem membersOf_of_ascending {ms : List (String × Json)} (h : Ascending ms) :
    membersOf ms = ms := by
  -- what is sorted so far and what is still to come are ascending together
  have key : ∀ ms sorted : List (String × Json), Ascending (sorted ++ ms) →
      ms.foldl (fun sorted m => insert m.1 m.2 sorted) sorted = sorted ++ ms := by
    intro ms
    induction ms with
    | nil =>
        intro sorted _
        rw [List.foldl_nil, List.append_nil]
    | cons m ms ih =>
        intro sorted hsorted
        have hlast : ∀ n ∈ sorted, compare n.1 m.1 = .lt :=
          fun n hn => (List.pairwise_append.1 hsorted).2.2 n hn m List.mem_cons_self
        rw [List.foldl_cons, insert_of_forall_lt m.2 hlast, ih, List.append_assoc]
        · rfl
        · rw [List.append_assoc]
          exact hsorted
  exact key ms [] h

/-! ## Texts with commas between them -/

theorem separated_singleton (text : List Char) : separated [text] = text := by
  simp [separated]

theorem separated_cons_cons (text next : List Char) (texts : List (List Char)) :
    separated (text :: next :: texts) = text ++ ',' :: separated (next :: texts) := by
  simp [separated]

/-- Texts with commas between them begin like the first of them. -/
theorem separated_cons_eq_cons {text : List Char} {c : Char} {cs : List Char}
    (h : text = c :: cs) (texts : List (List Char)) :
    ∃ t, separated (text :: texts) = c :: t := by
  cases texts with
  | nil => exact ⟨cs, by rw [separated_singleton, h]⟩
  | cons next texts => exact ⟨_, by rw [separated_cons_cons, h, List.cons_append]⟩

theorem skipSpace_cons {c : Char} (h : isSpace c = false) (s : List Char) :
    skipSpace (c :: s) = c :: s :=
  List.dropWhile_cons_of_neg (by rw [h]; exact Bool.false_ne_true)

theorem ne_of_isDigit {c d : Char} (hc : Numeral.isDigit c = true) (hd : Numeral.isDigit d = false) :
    c ≠ d := by
  rintro rfl
  exact absurd (hc.symm.trans hd) (by decide)

theorem isSpace_of_isDigit {c : Char} (h : Numeral.isDigit c = true) : isSpace c = false := by
  have hspace : c ≠ ' ' := ne_of_isDigit h (by decide)
  have hfeed : c ≠ '\n' := ne_of_isDigit h (by decide)
  have htab : c ≠ '\t' := ne_of_isDigit h (by decide)
  have hreturn : c ≠ '\r' := ne_of_isDigit h (by decide)
  simp [isSpace, hspace, hfeed, htab, hreturn]

/-- The text of a value begins with neither a blank nor the end of an array. -/
theorem text_eq_cons (v : Json) (h : v.Integral) :
    ∃ c cs, v.text = c :: cs ∧ isSpace c = false ∧ c ≠ ']' := by
  cases v with
  | null => exact ⟨_, _, rfl, by decide, by decide⟩
  | bool b =>
      cases b with
      | true => exact ⟨_, _, rfl, by decide, by decide⟩
      | false => exact ⟨_, _, rfl, by decide, by decide⟩
  | number n =>
      cases n with
      | double x => exact absurd h id
      | int n =>
          rw [text, Number.text, Numeral.ofInt]
          split
          · exact ⟨_, _, rfl, by decide, by decide⟩
          · obtain ⟨c, cs, heq, hc⟩ := Numeral.digits_eq_cons n.val.natAbs
            exact ⟨c, cs, heq, isSpace_of_isDigit hc, ne_of_isDigit hc (by decide)⟩
  | string s => exact ⟨_, _, rfl, by decide, by decide⟩
  | array items => exact ⟨_, _, rfl, by decide, by decide⟩
  | object members => exact ⟨_, _, rfl, by decide, by decide⟩

/-! ## One step of the reader -/

section Steps

variable {budget room d₁ d₂ : Nat} {s rest : List Char}

theorem readValue_string (budget room : Nat) (s : String) (rest : List Char) :
    readValue (budget + 1) room (stringText s ++ rest) = .ok (.string s, rest) := by
  rw [stringText_append, readValue, skipSpace_cons (by decide)]
  simp only [readString_stringText, if_true]
  rfl

/-- A stored integer is read with its sign. -/
theorem readValue_int (budget room : Nat) (n : WordInt) (h : EndsNumber rest) :
    readValue (budget + 1) room (Numeral.ofInt n.val ++ rest)
      = .ok (.number (.int n), rest) := by
  have hread := readUnsigned_digits (decide (n.val < 0)) n.val.natAbs h
  rw [integerNumber_val] at hread
  by_cases hneg : n.val < 0
  · rw [decide_eq_true hneg] at hread
    rw [Numeral.ofInt, if_pos hneg, List.cons_append, readValue, skipSpace_cons (by decide)]
    show (readUnsigned true _ >>= fun p => Except.ok (Json.number p.1, p.2)) = _
    rw [hread, Except.ok_bind]
  · rw [decide_eq_false hneg] at hread
    rw [Numeral.ofInt, if_neg hneg]
    obtain ⟨c, cs, heq, hc⟩ := Numeral.digits_eq_cons n.val.natAbs
    rw [heq, List.cons_append] at hread ⊢
    rw [readValue, skipSpace_cons (isSpace_of_isDigit hc)]
    -- a digit is none of the characters that begin other values
    have hother : ∀ d, Numeral.isDigit d = false → c ≠ d := fun d hd => ne_of_isDigit hc hd
    simp only [if_neg (hother '"' (by decide)), if_neg (hother '[' (by decide)),
      if_neg (hother '\x7b' (by decide)), if_neg (hother 'n' (by decide)),
      if_neg (hother 't' (by decide)), if_neg (hother 'f' (by decide)),
      if_neg (hother '-' (by decide)), if_pos hc, hread]
    rfl

/-- Without room, an opening bracket is the fault of too deep nesting. -/
theorem readValue_full {c : Char} (h : c = '[' ∨ c = '\x7b') (budget : Nat) (s : List Char) :
    readValue (budget + 1) 0 (c :: s) = .error (.atNext .nestingLimit (c :: s)) := by
  rcases h with rfl | rfl
  · rfl
  · rfl

/-- An array with items is read by its items. -/
theorem limited_readValue_array {items : List Json} {c : Char} (hspace : isSpace c = false)
    (hend : c ≠ ']') (h : Limited d₁ room (readItems budget room (c :: s)) (items, rest)) :
    Limited (d₁ + 1) (room + 1) (readValue (budget + 1) (room + 1) ('[' :: c :: s))
      (.array items, rest) := by
  rw [readValue, skipSpace_cons (by decide)]
  simp only [skipSpace_cons hspace, if_neg hend]
  refine (h.bind_ok ?_).bracket
  rfl

/-- An object with members is read by its members, if these are in order. -/
theorem limited_readValue_object {members : List (String × Json)} (horder : Ascending members)
    (h : Limited d₁ room (readMembers budget room ('"' :: s)) (members, rest)) :
    Limited (d₁ + 1) (room + 1) (readValue (budget + 1) (room + 1) ('\x7b' :: '"' :: s))
      (.object members, rest) := by
  rw [readValue, skipSpace_cons (by decide)]
  simp only [skipSpace_cons (show isSpace '"' = false by decide)]
  refine (h.bind_ok ?_).bracket
  show Except.ok (ofMembers members, rest) = _
  rw [ofMembers, membersOf_of_ascending horder]

/-- The last item is followed by the end of the array. -/
theorem limited_readItems_last {v : Json}
    (h : Limited d₁ room (readValue budget room s) (v, ']' :: rest)) :
    Limited d₁ room (readItems (budget + 1) room s) ([v], rest) := by
  rw [readItems]
  exact h.bind_ok rfl

/-- Any other item is followed by a comma and the remaining items. -/
theorem limited_readItems_cons {v : Json} {vs : List Json} {c : Char} {t : List Char}
    (hspace : isSpace c = false) (hend : c ≠ ']')
    (h : Limited d₁ room (readValue budget room s) (v, ',' :: c :: t))
    (hrest : Limited d₂ room (readItems budget room (c :: t)) (vs, rest)) :
    Limited (max d₁ d₂) room (readItems (budget + 1) room s) (v :: vs, rest) := by
  have hcomma : afterItem (',' :: c :: t) = .ok (.more (c :: t)) := by
    rw [afterItem, skipSpace_cons (by decide)]
    simp only [skipSpace_cons hspace, if_neg hend]
    rfl
  rw [readItems]
  refine h.bind ?_
  simp only [hcomma, Except.ok_bind]
  exact hrest.bind_ok rfl

theorem readKey_stringText (name : String) (rest : List Char) :
    readKey (stringText name ++ ':' :: rest) = .ok (name, rest) := by
  rw [stringText_append, readKey]
  simp only [readString_stringText, if_true, Except.ok_bind]
  rfl

/-- The last member is followed by the end of the object. -/
theorem limited_readMembers_last {name : String} {v : Json}
    (h : Limited d₁ room (readValue budget room s) (v, '\x7d' :: rest)) :
    Limited d₁ room (readMembers (budget + 1) room (stringText name ++ ':' :: s))
      ([(name, v)], rest) := by
  rw [readMembers, readKey_stringText, Except.ok_bind]
  exact h.bind_ok rfl

/-- Any other member is followed by a comma and the remaining members. -/
theorem limited_readMembers_cons {name : String} {v : Json} {ms : List (String × Json)}
    {t : List Char} (h : Limited d₁ room (readValue budget room s) (v, ',' :: '"' :: t))
    (hrest : Limited d₂ room (readMembers budget room ('"' :: t)) (ms, rest)) :
    Limited (max d₁ d₂) room (readMembers (budget + 1) room (stringText name ++ ':' :: s))
      ((name, v) :: ms, rest) := by
  rw [readMembers, readKey_stringText, Except.ok_bind]
  refine h.bind ?_
  show Limited d₂ room (readMembers budget room ('"' :: t) >>= fun p =>
    Except.ok ((name, v) :: p.1, p.2)) _
  exact hrest.bind_ok rfl

end Steps

/-! ## Whole values -/

theorem text_array_append (items : List Json) (rest : List Char) :
    (array items).text ++ rest = '[' :: (separated (itemTexts items) ++ ']' :: rest) := by
  simp [text]

theorem text_object_append (members : List (String × Json)) (rest : List Char) :
    (object members).text ++ rest
      = '\x7b' :: (separated (memberTexts members) ++ '\x7d' :: rest) := by
  simp [text]

/-- The text of items begins like the text of the first. -/
theorem separated_itemTexts_eq_cons (x : Json) (xs : List Json) (h : x.Integral) :
    ∃ c t, separated (itemTexts (x :: xs)) = c :: t ∧ isSpace c = false ∧ c ≠ ']' := by
  obtain ⟨c, cs, heq, hspace, hend⟩ := text_eq_cons x h
  obtain ⟨t, ht⟩ := separated_cons_eq_cons heq (itemTexts xs)
  exact ⟨c, t, by rw [itemTexts, ht], hspace, hend⟩

/-- The text of members begins with the quote of the first name. -/
theorem separated_memberTexts_eq_cons (m : String × Json) (ms : List (String × Json)) :
    ∃ t, separated (memberTexts (m :: ms)) = '"' :: t := by
  obtain ⟨k, v⟩ := m
  rw [memberTexts]
  exact separated_cons_eq_cons rfl (memberTexts ms)

mutual

/-- **The text of a value reads back**, up to the limit on nesting. -/
theorem limited_readValue_text (v : Json) (hv : v.Canonical) (hi : v.Integral)
    {budget : Nat} (room : Nat) {rest : List Char} (hb : 2 * v.text.length ≤ budget)
    (hend : EndsNumber rest) :
    Limited v.depth room (readValue budget room (v.text ++ rest)) (v, rest) := by
  obtain ⟨c, cs, hcons, -⟩ := text_eq_cons v hi
  -- the text has at least one character, which pays for the step that reads the value itself
  have hpos : 0 < v.text.length := by rw [hcons]; exact Nat.succ_pos _
  obtain ⟨budget, rfl⟩ : ∃ b, budget = b + 1 := ⟨budget - 1, by omega⟩
  match v with
  | null => exact Limited.ok room _
  | bool true => exact Limited.ok room _
  | bool false => exact Limited.ok room _
  | number (.double x) => exact absurd hi id
  | number (.int n) =>
      rw [text, Number.text, readValue_int budget room n hend]
      exact Limited.ok room _
  | string s =>
      rw [text, readValue_string]
      exact Limited.ok room _
  | array items =>
      have hlen : (array items).text.length = (separated (itemTexts items)).length + 2 := by
        simp [text]
      rw [text_array_append, depth]
      cases room with
      | zero =>
          rw [readValue_full (Or.inl rfl)]
          exact Limited.stopped _ _ _
      | succ room =>
          match items with
          | [] => exact (Limited.ok room _).bracket
          | x :: xs =>
              obtain ⟨c, t, heq, hspace, hclose⟩ := separated_itemTexts_eq_cons x xs hi.1
              have hitems := limited_readItems_texts (x :: xs) (List.cons_ne_nil x xs) hv hi
                room rest (show _ ≤ budget by omega)
              rw [heq, List.cons_append] at hitems ⊢
              exact limited_readValue_array hspace hclose hitems
  | object members =>
      have hlen : (object members).text.length
          = (separated (memberTexts members)).length + 2 := by simp [text]
      rw [text_object_append, depth]
      cases room with
      | zero =>
          rw [readValue_full (Or.inr rfl)]
          exact Limited.stopped _ _ _
      | succ room =>
          match members with
          | [] => exact (Limited.ok room _).bracket
          | m :: ms =>
              obtain ⟨t, heq⟩ := separated_memberTexts_eq_cons m ms
              have hmembers := limited_readMembers_texts (m :: ms) (List.cons_ne_nil m ms) hv.2 hi
                room rest (show _ ≤ budget by omega)
              rw [heq, List.cons_append] at hmembers ⊢
              exact limited_readValue_object hv.1 hmembers

/-- The texts of the items of an array read back. -/
theorem limited_readItems_texts (items : List Json) (hne : items ≠ []) (hv : CanonicalItems items)
    (hi : IntegralItems items) {budget : Nat} (room : Nat) (rest : List Char)
    (hb : 2 * (separated (itemTexts items)).length + 1 ≤ budget) :
    Limited (depthItems items) room
      (readItems budget room (separated (itemTexts items) ++ ']' :: rest)) (items, rest) := by
  obtain ⟨budget, rfl⟩ : ∃ b, budget = b + 1 := ⟨budget - 1, by omega⟩
  match items with
  | [] => exact absurd rfl hne
  | [x] =>
      rw [itemTexts, itemTexts, separated_singleton] at hb ⊢
      rw [depthItems, depthItems, Nat.max_zero]
      exact limited_readItems_last
        (limited_readValue_text x hv.1 hi.1 room (by omega) (endsNumber_cons _ (by simp)))
  | x :: y :: ys =>
      have hlen : (separated (itemTexts (x :: y :: ys))).length
          = x.text.length + (separated (itemTexts (y :: ys))).length + 1 := by
        rw [itemTexts, itemTexts, separated_cons_cons]
        simp [Nat.add_assoc]
      obtain ⟨c, t, heq, hspace, hclose⟩ := separated_itemTexts_eq_cons y ys hi.2.1
      have hitems := limited_readItems_texts (y :: ys) (List.cons_ne_nil y ys) hv.2 hi.2
        room rest (show _ ≤ budget by omega)
      have hitem := limited_readValue_text x hv.1 hi.1 room (show _ ≤ budget by omega)
        (endsNumber_cons (separated (itemTexts (y :: ys)) ++ ']' :: rest) (Or.inl rfl))
      rw [heq, List.cons_append] at hitems hitem
      rw [itemTexts, itemTexts, separated_cons_cons, ← itemTexts, heq, List.append_assoc]
      exact limited_readItems_cons hspace hclose hitem hitems

/-- The texts of the members of an object read back. -/
theorem limited_readMembers_texts (members : List (String × Json)) (hne : members ≠ [])
    (hv : CanonicalMembers members) (hi : IntegralMembers members) {budget : Nat} (room : Nat)
    (rest : List Char) (hb : 2 * (separated (memberTexts members)).length + 1 ≤ budget) :
    Limited (depthMembers members) room
      (readMembers budget room (separated (memberTexts members) ++ '\x7d' :: rest))
      (members, rest) := by
  obtain ⟨budget, rfl⟩ : ∃ b, budget = b + 1 := ⟨budget - 1, by omega⟩
  match members with
  | [] => exact absurd rfl hne
  | [(k, v)] =>
      have hlen : (separated (memberTexts [(k, v)])).length
          = (stringText k).length + v.text.length + 1 := by
        simp [memberTexts, separated_singleton, Nat.add_assoc]
      rw [memberTexts, memberTexts, separated_singleton, List.append_assoc, List.cons_append]
      rw [depthMembers, depthMembers, Nat.max_zero]
      exact limited_readMembers_last
        (limited_readValue_text v hv.1 hi.1 room (by omega) (endsNumber_cons _ (by simp)))
  | (k, v) :: n :: ns =>
      have hlen : (separated (memberTexts ((k, v) :: n :: ns))).length
          = (stringText k).length + v.text.length
            + (separated (memberTexts (n :: ns))).length + 2 := by
        obtain ⟨l, w⟩ := n
        rw [memberTexts, memberTexts, separated_cons_cons]
        simp only [List.length_append, List.length_cons]
        omega
      obtain ⟨t, heq⟩ := separated_memberTexts_eq_cons n ns
      have hmembers := limited_readMembers_texts (n :: ns) (List.cons_ne_nil n ns) hv.2 hi.2
        room rest (show _ ≤ budget by omega)
      have hvalue := limited_readValue_text v hv.1 hi.1 room (show _ ≤ budget by omega)
        (endsNumber_cons (separated (memberTexts (n :: ns)) ++ '\x7d' :: rest) (Or.inl rfl))
      rw [heq, List.cons_append] at hmembers hvalue
      obtain ⟨l, w⟩ := n
      rw [memberTexts, memberTexts, separated_cons_cons, ← memberTexts, heq, List.append_assoc,
        List.append_assoc, List.cons_append]
      exact limited_readMembers_cons hvalue hmembers

end

/-! ## Whole texts -/

variable {v : Json} {d : Nat}

theorem limited_readWhole_text (h : Plain v d) (room : Nat) :
    Limited d room (readWhole room v.text) v := by
  have hread := limited_readValue_text v h.canonical h.integral room
    (show 2 * v.text.length ≤ 2 * v.text.length + 2 by omega) endsNumber_nil
  rw [List.append_nil, h.depth_eq] at hread
  exact hread.bind_ok rfl

/-- **The rendered text of a plain value is read as the value** exactly when it nests no deeper than
the reader allows; otherwise the limit on nesting is the fault. -/
theorem readWithin_render (h : Plain v d) (room : Nat) :
    (d ≤ room → readWithin room v.render = .ok v) ∧
      (room < d → ∃ line column,
        readWithin room v.render = .error ⟨.nestingLimit, line, column⟩) := by
  have hwhole := limited_readWhole_text h room
  unfold readWithin render
  rw [String.toList_ofList]
  constructor
  · intro hle
    rw [hwhole.1 hle]
    rfl
  · intro hlt
    obtain ⟨unread, hstop⟩ := hwhole.2 hlt
    rw [hstop]
    exact ⟨_, _, rfl⟩

end RecordQuery.Json
