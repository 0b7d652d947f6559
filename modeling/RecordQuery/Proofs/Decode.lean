import RecordQuery.Decode
import RecordQuery.Proofs.Except
import RecordQuery.Proofs.Json.Members

/-!
# RecordQuery.Proofs.Decode — readers undo writers, and writers undo readers

A written scalar, option or list reads back as what was written, and what was read is written as it
stood.  A record is read part by part: `Slot.Finds` says what one part gives, and the records of two
and three parts give what their parts give, in whatever order these are looked for.
-/

namespace RecordQuery

/-! ## Scalars and lists -/

namespace Decoder

theorem int64_ofInt64 (n : Int64) : int64 (.ofInt64 n) = .ok n := by
  have hfits : n.toInt < 9223372036854775808 := n.toInt_lt
  show (if decide (n.toInt < 9223372036854775808) = true then Except.ok (Int64.ofInt n.toInt)
    else _) = _
  rw [if_pos (decide_eq_true hfits), Int64.ofInt_toInt]

theorem uint64_ofUInt64 (n : UInt64) : uint64 (.ofUInt64 n) = .ok n := by
  have hfits : (0 : Int) ≤ n.toNat := Int.natCast_nonneg _
  rw [Json.ofUInt64, Number.ofUInt64, uint64, WordInt.fitsUnsigned,
    if_pos (decide_eq_true hfits), Int.toNat_natCast, UInt64.ofNat_toNat]

/-- The items of an array give a list when the first one gives its head and the rest its tail. -/
theorem items_cons_eq_ok_iff {α : Type} {decode : Decoder α} {v : Json} {rest : List Json}
    {xs : List α} :
    items decode (v :: rest) = .ok xs
      ↔ ∃ x ys, decode v = .ok x ∧ items decode rest = .ok ys ∧ xs = x :: ys := by
  rw [items]
  cases decode v with
  | error e => simp
  | ok y =>
      cases items decode rest with
      | error e => simp [Except.map]
      | ok ys => simp [Except.map, eq_comm]

/-- A list reads back exactly when its items do. -/
theorem items_map_eq_ok_iff {α : Type} {decode : Decoder α} {write : α → Json} {xs : List α} :
    items decode (xs.map write) = .ok xs ↔ ∀ x ∈ xs, decode (write x) = .ok x := by
  induction xs with
  | nil => simp [items]
  | cons x xs ih =>
      rw [List.map_cons, items_cons_eq_ok_iff, List.forall_mem_cons, ← ih]
      constructor
      · rintro ⟨y, ys, hy, hys, ⟨⟩⟩
        exact ⟨hy, hys⟩
      · rintro ⟨hx, hxs⟩
        exact ⟨x, xs, hx, hxs, rfl⟩

/-- Whatever is in a list that was read was read from some item. -/
theorem exists_of_mem_items {α : Type} {decode : Decoder α} {vs : List Json} {xs : List α}
    (h : items decode vs = .ok xs) : ∀ x ∈ xs, ∃ v ∈ vs, decode v = .ok x := by
  induction vs generalizing xs with
  | nil =>
      cases h
      nofun
  | cons v rest ih =>
      obtain ⟨x, ys, hx, hys, rfl⟩ := items_cons_eq_ok_iff.mp h
      rw [List.forall_mem_cons]
      refine ⟨⟨v, List.mem_cons_self, hx⟩, fun y hy => ?_⟩
      obtain ⟨w, hw, hdecode⟩ := ih hys y hy
      exact ⟨w, List.mem_cons_of_mem v hw, hdecode⟩

/-- An array that may be left out reads back when its items do. -/
theorem optional_list {α : Type} {decode : Decoder α} {write : α → Json}
    (h : ∀ x, decode (write x) = .ok x) (xs : List α) :
    optional (list decode) (.array (xs.map write)) = .ok (some xs) := by
  show (items decode (xs.map write)).map some = _
  rw [items_map_eq_ok_iff.mpr fun x _ => h x]
  rfl

/-! ### Writers that undo readers -/

section

variable {α : Type}

/-- Whatever is read is written as it stood. -/
def UndoneBy (decode : Decoder α) (write : α → Json) : Prop :=
  ∀ v x, decode v = .ok x → write x = v

theorem string_undoneBy : string.UndoneBy .string := by
  intro v x h
  cases v with
  | string s =>
      cases h
      rfl
  | _ => cases h

theorem boolean_undoneBy : boolean.UndoneBy .bool := by
  intro v x h
  cases v with
  | bool b =>
      cases h
      rfl
  | _ => cases h

theorem int64_undoneBy : int64.UndoneBy .ofInt64 := by
  intro v x h
  cases v with
  | number n =>
      cases n with
      | int n =>
          rw [int64] at h
          split at h
          · next hfits =>
              cases h
              have hlt : n.val < 9223372036854775808 := of_decide_eq_true hfits
              have hval : (Int64.ofInt n.val).toInt = n.val :=
                Int64.toInt_ofInt_of_le n.lower hlt
              obtain ⟨val, lower, upper⟩ := n
              simp only [Json.ofInt64, Number.ofInt64, hval]
          · cases h
      | double x => cases h
  | _ => cases h

theorem list_undoneBy {decode : Decoder α} {write : α → Json} (hundone : decode.UndoneBy write) :
    (list decode).UndoneBy fun xs => .array (xs.map write) := by
  intro v xs h
  cases v with
  | array items =>
      have hitems : ∀ (items : List Json) (xs : List α), Decoder.items decode items = .ok xs →
          xs.map write = items := by
        intro items
        induction items with
        | nil =>
            rintro xs ⟨⟩
            rfl
        | cons v rest ih =>
            intro xs h
            obtain ⟨x, ys, hx, hys, rfl⟩ := items_cons_eq_ok_iff.mp h
            rw [List.map_cons, hundone v x hx, ih ys hys]
      exact congrArg Json.array (hitems items xs h)
  | _ => cases h

end

end Decoder

/-! ## Records -/

namespace Slot

variable {α β : Type} {name : String} {ms : List (String × Json)}

/-- What a part gives when it is looked for in members. -/
def Finds (slot : Slot α) (ms : List (String × Json)) (x : α) : Prop :=
  ∃ found, slot.find ms = .ok found ∧ slot.settle found = .ok x

theorem find_of_lookup_eq_some {slot : Slot α} {v : Json}
    (hlookup : Json.lookup slot.name ms = some v) : slot.find ms = (slot.decode v).map some := by
  unfold find
  rw [hlookup]

theorem find_of_lookup_eq_none {slot : Slot α} (hlookup : Json.lookup slot.name ms = none) :
    slot.find ms = .ok none := by
  unfold find
  rw [hlookup]

/-- Looking for a part depends on its own member only. -/
theorem find_congr {ns : List (String × Json)} {slot : Slot α}
    (h : Json.lookup slot.name ms = Json.lookup slot.name ns) : slot.find ms = slot.find ns := by
  unfold find
  rw [h]

/-- A part whose member is there gives what the member reads as. -/
theorem finds_iff_of_lookup_eq_some {slot : Slot α} {v : Json} {x : α}
    (hlookup : Json.lookup slot.name ms = some v) : slot.Finds ms x ↔ slot.decode v = .ok x := by
  have hfind := find_of_lookup_eq_some hlookup
  constructor
  · rintro ⟨found, hfound, hsettle⟩
    rw [hfind] at hfound
    obtain ⟨y, hread, rfl⟩ := Except.map_eq_ok_iff.mp hfound
    rw [hread]
    exact hsettle
  · intro hread
    rw [hread] at hfind
    exact ⟨some x, hfind, rfl⟩

/-- A part whose member is absent gives what its absence counts as. -/
theorem finds_iff_of_lookup_eq_none {slot : Slot α} {x : α}
    (hlookup : Json.lookup slot.name ms = none) : slot.Finds ms x ↔ slot.absent = some x := by
  have hfind := find_of_lookup_eq_none hlookup
  have hsettle : slot.settle none = .ok x ↔ slot.absent = some x := by
    unfold settle
    cases slot.absent with
    | none => simp
    | some y => simp
  constructor
  · rintro ⟨found, hfound, hsettled⟩
    rw [hfind] at hfound
    cases hfound
    exact hsettle.mp hsettled
  · intro habsent
    exact ⟨none, hfind, hsettle.mpr habsent⟩

/-- A part that must be there gives what its member reads as. -/
theorem finds_required {decode : Decoder α} {v : Json} {x : α}
    (hlookup : Json.lookup name ms = some v) (hread : decode v = .ok x) :
    (required name decode).Finds ms x := by
  have hpart : Json.lookup (required name decode).name ms = some v := hlookup
  exact (finds_iff_of_lookup_eq_some hpart).mpr hread

/-- A part that is left out when it is what its absence counts as gives its value exactly when it
was left out or reads back. -/
theorem finds_defaulted_iff {slot : Slot α} {leftOut : Prop} [Decidable leftOut] {v : Json} {x : α}
    (hlookup : Json.lookup slot.name ms = if leftOut then none else some v)
    (habsent : leftOut → slot.absent = some x) :
    slot.Finds ms x ↔ leftOut ∨ slot.decode v = .ok x := by
  by_cases h : leftOut
  · rw [if_pos h] at hlookup
    simp only [finds_iff_of_lookup_eq_none hlookup, habsent h, h, true_or]
  · rw [if_neg h] at hlookup
    simp only [finds_iff_of_lookup_eq_some hlookup, h, false_or]

/-- A part that is written when there is a value gives that value, as far as it reads back. -/
theorem finds_optional {decode : Decoder α} {write : β → Json} {back : β → Option α}
    {value : Option β} (hlookup : Json.lookup name ms = value.map write)
    (hread : ∀ b, Decoder.optional decode (write b) = .ok (back b)) :
    (optional name decode).Finds ms (value.bind back) := by
  have hpart : Json.lookup (optional name decode).name ms = value.map write := hlookup
  cases value with
  | none => exact (finds_iff_of_lookup_eq_none hpart).mpr rfl
  | some b => exact (finds_iff_of_lookup_eq_some hpart).mpr (hread b)

/-- The same for a reader that undoes the writer. -/
theorem finds_written {decode : Decoder α} {write : α → Json} {value : Option α}
    (hlookup : Json.lookup name ms = value.map write)
    (hread : ∀ x, Decoder.optional decode (write x) = .ok (some x)) :
    (optional name decode).Finds ms value := by
  have hfinds := finds_optional hlookup hread
  rwa [Option.bind_fun_some] at hfinds

/-- A part that must be there was read from its member. -/
theorem exists_of_finds_required {decode : Decoder α} {x : α}
    (h : (required name decode).Finds ms x) :
    ∃ v, Json.lookup name ms = some v ∧ decode v = .ok x := by
  cases hlookup : Json.lookup name ms with
  | none =>
      have hpart : Json.lookup (required name decode).name ms = none := hlookup
      cases (finds_iff_of_lookup_eq_none hpart).mp h
  | some v =>
      have hpart : Json.lookup (required name decode).name ms = some v := hlookup
      exact ⟨v, rfl, (finds_iff_of_lookup_eq_some hpart).mp h⟩

/-- A part that must be there is written as it stood. -/
theorem lookup_of_finds_required {decode : Decoder α} {write : α → Json}
    (hundone : decode.UndoneBy write) {x : α}
    (h : (required name decode).Finds ms x) : Json.lookup name ms = some (write x) := by
  obtain ⟨v, hlookup, hread⟩ := exists_of_finds_required h
  rw [hlookup, hundone v x hread]

/-- A part that may be absent is written as it stood, unless it was null. -/
theorem lookup_of_finds_optional {decode : Decoder α} {write : α → Json}
    (hundone : decode.UndoneBy write) {x : Option α}
    (h : (optional name decode).Finds ms x) :
    (Json.lookup name ms).filter (fun v => !decide (v = .null)) = x.map write := by
  cases hlookup : Json.lookup name ms with
  | none =>
      have hpart : Json.lookup (optional name decode).name ms = none := hlookup
      cases (finds_iff_of_lookup_eq_none hpart).mp h
      rfl
  | some v =>
      have hpart : Json.lookup (optional name decode).name ms = some v := hlookup
      have hread : Decoder.optional decode v = .ok x := (finds_iff_of_lookup_eq_some hpart).mp h
      by_cases hnull : v = .null
      · subst hnull
        cases hread
        rfl
      · have hsome : (decode v).map some = .ok x := by
          cases v with
          | null => exact absurd rfl hnull
          | _ => exact hread
        obtain ⟨y, hv, rfl⟩ := Except.map_eq_ok_iff.mp hsome
        rw [Option.map_some, hundone v y hv]
        simp [hnull]

end Slot

namespace Payload

variable {α β γ : Type} {ms ns : List (String × Json)} {a : Slot α} {b : Slot β} {c : Slot γ}
  {x : α} {y : β} {z : γ}

theorem findPair_eq_ok_iff {x : Option α} {y : Option β} :
    findPair ms a b = .ok (x, y) ↔ a.find ms = .ok x ∧ b.find ms = .ok y := by
  unfold findPair
  -- the order in which the members are looked for only matters to faults
  split
  · simp only [Except.bind_eq_ok_iff]
    constructor
    · rintro ⟨x', hx, y', hy, heq⟩
      cases heq
      exact ⟨hx, hy⟩
    · rintro ⟨hx, hy⟩
      exact ⟨x, hx, y, hy, rfl⟩
  · simp only [Except.bind_eq_ok_iff]
    constructor
    · rintro ⟨y', hy, x', hx, heq⟩
      cases heq
      exact ⟨hx, hy⟩
    · rintro ⟨hx, hy⟩
      exact ⟨y, hy, x, hx, rfl⟩

theorem findPair_congr (ha : a.find ms = a.find ns) (hb : b.find ms = b.find ns) :
    findPair ms a b = findPair ns a b := by
  unfold findPair
  rw [ha, hb]

theorem pair_congr (record : String) (ha : a.find ms = a.find ns) (hb : b.find ms = b.find ns) :
    pair record a b (.members ms) = pair record a b (.members ns) := by
  rw [pair, pair, findPair_congr ha hb]

theorem triple_congr (record : String) (ha : a.find ms = a.find ns) (hb : b.find ms = b.find ns)
    (hc : c.find ms = c.find ns) :
    triple record a b c (.members ms) = triple record a b c (.members ns) := by
  rw [triple, triple, ha, findPair_congr hb hc]

/-- A record of two parts gives what both give. -/
theorem pair_members_eq_ok_iff {record : String} :
    pair record a b (.members ms) = .ok (x, y) ↔ a.Finds ms x ∧ b.Finds ms y := by
  rw [pair, Except.bind_eq_ok_iff]
  constructor
  · rintro ⟨⟨foundA, foundB⟩, hfind, hrest⟩
    obtain ⟨hfindA, hfindB⟩ := findPair_eq_ok_iff.mp hfind
    obtain ⟨x', hsettleA, hrest⟩ := Except.bind_eq_ok_iff.mp hrest
    obtain ⟨y', hsettleB, hrest⟩ := Except.bind_eq_ok_iff.mp hrest
    cases hrest
    exact ⟨⟨foundA, hfindA, hsettleA⟩, foundB, hfindB, hsettleB⟩
  · rintro ⟨⟨foundA, hfindA, hsettleA⟩, foundB, hfindB, hsettleB⟩
    refine ⟨(foundA, foundB), findPair_eq_ok_iff.mpr ⟨hfindA, hfindB⟩, ?_⟩
    simp only [hsettleA, hsettleB, Except.ok_bind]
    rfl

/-- A record of three parts gives what all three give. -/
theorem triple_members_eq_ok_iff {record : String} :
    triple record a b c (.members ms) = .ok (x, y, z)
      ↔ a.Finds ms x ∧ b.Finds ms y ∧ c.Finds ms z := by
  rw [triple, Except.bind_eq_ok_iff]
  constructor
  · rintro ⟨foundA, hfindA, hrest⟩
    obtain ⟨⟨foundB, foundC⟩, hfind, hrest⟩ := Except.bind_eq_ok_iff.mp hrest
    obtain ⟨hfindB, hfindC⟩ := findPair_eq_ok_iff.mp hfind
    obtain ⟨x', hsettleA, hrest⟩ := Except.bind_eq_ok_iff.mp hrest
    obtain ⟨y', hsettleB, hrest⟩ := Except.bind_eq_ok_iff.mp hrest
    obtain ⟨z', hsettleC, hrest⟩ := Except.bind_eq_ok_iff.mp hrest
    cases hrest
    exact ⟨⟨foundA, hfindA, hsettleA⟩, ⟨foundB, hfindB, hsettleB⟩, foundC, hfindC, hsettleC⟩
  · rintro ⟨⟨foundA, hfindA, hsettleA⟩, ⟨foundB, hfindB, hsettleB⟩, foundC, hfindC, hsettleC⟩
    refine ⟨foundA, hfindA, ?_⟩
    rw [findPair_eq_ok_iff.mpr ⟨hfindB, hfindC⟩]
    simp only [hsettleA, hsettleB, hsettleC, Except.ok_bind]
    rfl

end Payload

end RecordQuery
