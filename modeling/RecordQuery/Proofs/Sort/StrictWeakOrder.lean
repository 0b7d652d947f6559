import Mathlib.Data.Set.Defs
import RecordQuery.Proofs.Json.IntegerOrder
import RecordQuery.Proofs.Path.Leaves
import RecordQuery.Proofs.Sort.KeyOrder
import RecordQuery.Sort.Comparator

/-!
# RecordQuery.Proofs.Sort.StrictWeakOrder — when records can be sorted

Comparison is no order on arbitrary data: scalars of different kinds are equal, so equality is not
transitive.  It is a strict weak order on records whose truthy leaves are of one kind under every
sort field, however scalars, lists and lists of lists are mixed and whatever is missing, null or
falsy.

The induction is on three keys at once.  What it carries is not transitivity but `Composes`: the
outcome for the outer two keys is the lexicographic composition of the two steps between them.  That
is preserved by going to heads and tails of lists, where plain transitivity is not.
-/

namespace RecordQuery

/-! ## Strict weak orders and composition -/

/-- On the items of a set, no item comes before itself, and both coming before and being equal are
transitive. -/
structure StrictWeakOn {α : Type} (compare : α → α → Ordering) (s : Set α) : Prop where
  irrefl : ∀ a ∈ s, compare a a ≠ .lt
  lt_trans : ∀ a ∈ s, ∀ b ∈ s, ∀ c ∈ s,
    compare a b = .lt → compare b c = .lt → compare a c = .lt
  eq_trans : ∀ a ∈ s, ∀ b ∈ s, ∀ c ∈ s,
    compare a b = .eq → compare b c = .eq → compare a c = .eq

/-- Two steps that do not go down compose: the outcome `o₃` over both is the first strict one. -/
def Composes (o₁ o₂ o₃ : Ordering) : Prop :=
  o₁.isLE → o₂.isLE → o₃ = o₁.then o₂

/-- Steps that do not go down may change places. -/
theorem Composes.comm {o₁ o₂ o₃ : Ordering} (h : Composes o₁ o₂ o₃) : Composes o₂ o₁ o₃ := by
  intro h₂ h₁
  rw [h h₁ h₂]
  cases o₁ <;> cases o₂ <;>
    first | rfl | exact absurd h₁ (by decide) | exact absurd h₂ (by decide)

/-- Lexicographic outcomes compose when both parts do. -/
theorem Composes.andThen {o₁ o₂ o₃ p₁ p₂ p₃ : Ordering} (ho : Composes o₁ o₂ o₃)
    (hp : Composes p₁ p₂ p₃) : Composes (o₁.then p₁) (o₂.then p₂) (o₃.then p₃) := by
  intro h₁ h₂
  obtain ⟨ho₁, hp₁⟩ := Ordering.isLE_then_iff_and.mp h₁
  obtain ⟨ho₂, hp₂⟩ := Ordering.isLE_then_iff_and.mp h₂
  rw [ho ho₁ ho₂]
  -- a strict first part decides; only two equal first parts leave it to the second parts
  cases o₁ with
  | lt => rfl
  | gt => cases ho₁
  | eq =>
      have hp₁ : p₁.isLE := hp₁.resolve_left (by decide)
      cases o₂ with
      | gt => cases ho₂
      | lt => cases p₁ <;> first | rfl | cases hp₁
      | eq => exact hp hp₁ (hp₂.resolve_left (by decide))

theorem Composes.of_transCmp {α : Type} {cmp : α → α → Ordering} [Std.TransCmp cmp] (a b c : α) :
    Composes (cmp a b) (cmp b c) (cmp a c) := by
  intro h₁ h₂
  cases hab : cmp a b with
  | lt => exact Std.TransCmp.lt_of_lt_of_isLE hab h₂
  | eq => exact Std.TransCmp.congr_left hab
  | gt => rw [hab] at h₁; cases h₁

/-- A comparison that swaps and composes on a set is a strict weak order there. -/
theorem StrictWeakOn.of_composes {α : Type} {compare : α → α → Ordering} {s : Set α}
    (hswap : ∀ a b, compare a b = (compare b a).swap)
    (hcomp : ∀ a ∈ s, ∀ b ∈ s, ∀ c ∈ s,
      Composes (compare a b) (compare b c) (compare a c)) : StrictWeakOn compare s where
  irrefl := by
    intro a _
    rw [Ordering.eq_eq_of_eq_swap (hswap a a)]
    decide
  lt_trans := by
    intro a ha b hb c hc hab hbc
    have h := hcomp a ha b hb c hc
    rw [hab, hbc] at h
    exact h rfl rfl
  eq_trans := by
    intro a ha b hb c hc hab hbc
    have h := hcomp a ha b hb c hc
    rw [hab, hbc] at h
    exact h rfl rfl

/-! ## Leaves of one kind -/

/-- The kinds of truthy leaves that may be sorted together. -/
inductive LeafKind where
  | string
  | integer
  | boolean
  | object
deriving DecidableEq

/-- The leaves of a kind. -/
def LeafKind.admits : LeafKind → Json → Bool
  | string, .string _ => true
  | integer, .number (.int _) => true
  | boolean, .bool _ => true
  | object, .object _ => true
  | _, _ => false

theorem LeafKind.eq_int_of_admits {v : Json} (h : integer.admits v = true) :
    ∃ n, v = .number (.int n) := by
  unfold admits at h
  split at h
  · next heq => cases heq
  · exact ⟨_, rfl⟩
  · next heq => cases heq
  · next heq => cases heq
  · cases h

namespace SortKey

variable {caseSensitive : Bool} {kind : LeafKind}

theorem composes_compareAlike {u v w : Json} (hu : kind.admits u = true) (hv : kind.admits v = true)
    (hw : kind.admits w = true) :
    Composes (compareAlike caseSensitive u v) (compareAlike caseSensitive v w)
      (compareAlike caseSensitive u w) := by
  cases kind with
  | string =>
      cases u <;> cases v <;> cases w <;> simp [LeafKind.admits] at hu hv hw
      simp only [compareAlike, compareStrings]
      split <;> exact Composes.of_transCmp _ _ _
  | integer =>
      obtain ⟨a, rfl⟩ := LeafKind.eq_int_of_admits hu
      obtain ⟨b, rfl⟩ := LeafKind.eq_int_of_admits hv
      obtain ⟨c, rfl⟩ := LeafKind.eq_int_of_admits hw
      simp only [compareAlike, Json.compareScalars, Number.compare?_int, Option.getD_some]
      exact Composes.of_transCmp _ _ _
  | boolean =>
      cases u <;> cases v <;> cases w <;> simp [LeafKind.admits] at hu hv hw
      simp only [compareAlike, Json.compareScalars, Option.getD_some]
      exact Composes.of_transCmp _ _ _
  | object =>
      cases u <;> cases v <;> cases w <;> simp [LeafKind.admits] at hu hv hw
      exact fun _ _ => rfl

/-- Falsy keys never stand in the way: only three truthy keys need an argument. -/
theorem composes_of_truthy {a b c : SortKey}
    (h : a.truthy = true → b.truthy = true → c.truthy = true →
      Composes (compare caseSensitive a b) (compare caseSensitive b c)
        (compare caseSensitive a c)) :
    Composes (compare caseSensitive a b) (compare caseSensitive b c)
      (compare caseSensitive a c) := by
  cases hb : b.truthy with
  | false =>
      cases ha : a.truthy with
      | true =>
          rw [compare_of_truthy_of_falsy ha hb]
          intro h₁
          cases h₁
      | false =>
          cases hc : c.truthy with
          | true =>
              rw [compare_of_falsy_of_truthy ha hc, compare_of_falsy_of_truthy hb hc,
                compare_of_falsy ha hb]
              exact fun _ _ => rfl
          | false =>
              rw [compare_of_falsy ha hc, compare_of_falsy hb hc, compare_of_falsy ha hb]
              exact fun _ _ => rfl
  | true =>
      cases hc : c.truthy with
      | false =>
          rw [compare_of_truthy_of_falsy hb hc]
          intro _ h₂
          cases h₂
      | true =>
          cases ha : a.truthy with
          | true => exact h ha hb hc
          | false =>
              rw [compare_of_falsy_of_truthy ha hb, compare_of_falsy_of_truthy ha hc]
              exact fun _ _ => rfl

/-! ## Lists -/

/-- A truthy head is an item of the list. -/
theorem headD_mem {xs : List SortKey} (h : (xs.headD nothing).truthy = true) :
    xs.headD nothing ∈ xs := by
  cases xs with
  | nil => cases h
  | cons x xs => exact List.mem_cons_self

theorem composes_compareItems {xs ys zs : List SortKey}
    (h : ∀ x ∈ xs, ∀ y ∈ ys, ∀ z ∈ zs, Composes (compare caseSensitive x y)
      (compare caseSensitive y z) (compare caseSensitive x z)) :
    Composes (compareItems caseSensitive xs ys) (compareItems caseSensitive ys zs)
      (compareItems caseSensitive xs zs) := by
  -- the three lists end at different places, so the induction is on a bound of their lengths
  have key : ∀ (n : Nat) (xs ys zs : List SortKey),
      (∀ x ∈ xs, ∀ y ∈ ys, ∀ z ∈ zs, Composes (compare caseSensitive x y)
        (compare caseSensitive y z) (compare caseSensitive x z)) →
      xs.length ≤ n → ys.length ≤ n → zs.length ≤ n →
      Composes (compareItems caseSensitive xs ys) (compareItems caseSensitive ys zs)
        (compareItems caseSensitive xs zs) := by
    intro n
    induction n with
    | zero =>
        intro xs ys zs _ hx hy hz
        rw [List.eq_nil_of_length_eq_zero (Nat.le_zero.mp hx),
          List.eq_nil_of_length_eq_zero (Nat.le_zero.mp hy),
          List.eq_nil_of_length_eq_zero (Nat.le_zero.mp hz)]
        exact fun _ _ => rfl
    | succ n ih =>
        intro xs ys zs h hx hy hz
        rw [compareItems_eq xs ys, compareItems_eq ys zs, compareItems_eq xs zs]
        apply Composes.andThen
        · exact composes_of_truthy fun hx hy hz =>
            h _ (headD_mem hx) _ (headD_mem hy) _ (headD_mem hz)
        · apply ih
          · intro x hx y hy z hz
            exact h x (List.mem_of_mem_tail hx) y (List.mem_of_mem_tail hy) z
              (List.mem_of_mem_tail hz)
          all_goals
            rw [List.length_tail]
            omega
  exact key (xs.length + ys.length + zs.length) xs ys zs h (by omega) (by omega) (by omega)

theorem composes_of_items {a b c : SortKey} (ha : a.truthy = true) (hb : b.truthy = true)
    (hc : c.truthy = true)
    (h : ∀ x ∈ a.items, ∀ y ∈ b.items, ∀ z ∈ c.items, Composes (compare caseSensitive x y)
      (compare caseSensitive y z) (compare caseSensitive x z)) :
    Composes (compare caseSensitive a b) (compare caseSensitive b c)
      (compare caseSensitive a c) := by
  rw [compare_eq_compareItems ha hb, compare_eq_compareItems hb hc, compare_eq_compareItems ha hc]
  exact composes_compareItems h

/-! ## Keys -/

/-- The truthy leaves of a key are of one kind. -/
def Uniform (kind : LeafKind) (a : SortKey) : Prop :=
  ∀ v ∈ a.leaves, v.truthy = true → kind.admits v = true

theorem Uniform.item {a x : SortKey} (h : a.Uniform kind) (hx : x ∈ a.items) : x.Uniform kind := by
  cases a with
  | scalar v =>
      rw [items, List.mem_singleton] at hx
      exact hx ▸ h
  | list xs =>
      intro v hv
      exact h v (mem_leavesOf.mpr ⟨x, hx, hv⟩)

/-- Keys whose truthy leaves are of one kind compose, whatever their shapes. -/
theorem composes_compare (a b c : SortKey) (ha : a.Uniform kind) (hb : b.Uniform kind)
    (hc : c.Uniform kind) :
    Composes (compare caseSensitive a b) (compare caseSensitive b c)
      (compare caseSensitive a c) := by
  refine composes_of_truthy fun ta tb tc => ?_
  -- three scalars are settled by their kind; otherwise some key is a list, which its items shrink
  match a, b, c with
  | scalar u, scalar v, scalar w =>
      have hu : u.truthy = true := ta
      have hv : v.truthy = true := tb
      have hw : w.truthy = true := tc
      simp only [compare, compareScalarTo, compareScalar, hu, hv, hw, if_true]
      exact composes_compareAlike (ha u List.mem_cons_self hu) (hb v List.mem_cons_self hv)
        (hc w List.mem_cons_self hw)
  | list xs, b, c =>
      exact composes_of_items ta tb tc fun x hx y hy z hz =>
        have := sizeOf_lt_of_mem_items hx
        have := sizeOf_le_of_mem_items hy
        have := sizeOf_le_of_mem_items hz
        composes_compare x y z (ha.item hx) (hb.item hy) (hc.item hz)
  | scalar u, list ys, c =>
      exact composes_of_items ta tb tc fun x hx y hy z hz =>
        have := sizeOf_le_of_mem_items hx
        have := sizeOf_lt_of_mem_items hy
        have := sizeOf_le_of_mem_items hz
        composes_compare x y z (ha.item hx) (hb.item hy) (hc.item hz)
  | scalar u, scalar v, list zs =>
      exact composes_of_items ta tb tc fun x hx y hy z hz =>
        have := sizeOf_le_of_mem_items hx
        have := sizeOf_le_of_mem_items hy
        have := sizeOf_lt_of_mem_items hz
        composes_compare x y z (ha.item hx) (hb.item hy) (hc.item hz)
termination_by sizeOf a + sizeOf b + sizeOf c
decreasing_by all_goals omega

end SortKey

/-! ## Records -/

/-- Swapping two records reverses what a field says of them. -/
theorem ComparatorKey.compare_swap {caseSensitive : Bool} (key : ComparatorKey) (a b : Json) :
    key.compare caseSensitive a b = (key.compare caseSensitive b a).swap := by
  unfold ComparatorKey.compare SortField.apply Resolved.compare
  rw [SortKey.compare_swap]
  split
  · rfl
  · rfl

theorem Comparator.compareBy_swap {caseSensitive : Bool} (ks : List ComparatorKey) (a b : Json) :
    compareBy caseSensitive ks a b = (compareBy caseSensitive ks b a).swap := by
  induction ks with
  | nil => rfl
  | cons key ks ih =>
      rw [compareBy, compareBy, Ordering.swap_then, ← ih, ← ComparatorKey.compare_swap]

/-- The truthy leaves that a path finds in the records of a set are of one kind. -/
def FieldPath.UniformOn (path : FieldPath) (records : Set Json) : Prop :=
  ∃ kind : LeafKind, ∀ r ∈ records, ∀ v ∈ (path.evaluate r).leaves,
    v.truthy = true → kind.admits v = true

section

variable {caseSensitive : Bool} {records : Set Json} {a b c : Json}

theorem ComparatorKey.composes {key : ComparatorKey} (h : key.path.UniformOn records)
    (ha : a ∈ records) (hb : b ∈ records) (hc : c ∈ records) :
    Composes (key.compare caseSensitive a b) (key.compare caseSensitive b c)
      (key.compare caseSensitive a c) := by
  obtain ⟨kind, hkind⟩ := h
  have huniform : ∀ r ∈ records, (key.path.evaluate r).sortKey.Uniform kind := by
    intro r hr v hv
    rw [Resolved.leaves_sortKey] at hv
    exact hkind r hr v hv
  cases hdir : key.field.ascending with
  | true =>
      simp only [ComparatorKey.compare, SortField.apply, hdir, if_true]
      exact SortKey.composes_compare _ _ _ (huniform a ha) (huniform b hb) (huniform c hc)
  | false =>
      -- a descending field compares the later record with the earlier one
      rw [key.compare_swap a b, key.compare_swap b c, key.compare_swap a c]
      simp only [ComparatorKey.compare, SortField.apply, hdir, Bool.false_eq_true, if_false,
        Ordering.swap_swap]
      exact (SortKey.composes_compare _ _ _ (huniform c hc) (huniform b hb) (huniform a ha)).comm

theorem Comparator.composes_compareBy (ks : List ComparatorKey)
    (h : ∀ key ∈ ks, key.path.UniformOn records)
    (ha : a ∈ records) (hb : b ∈ records) (hc : c ∈ records) :
    Composes (compareBy caseSensitive ks a b) (compareBy caseSensitive ks b c)
      (compareBy caseSensitive ks a c) := by
  induction ks with
  | nil => exact fun _ _ => rfl
  | cons key ks ih =>
      rw [compareBy, compareBy, compareBy]
      apply Composes.andThen
      · exact ComparatorKey.composes (h key List.mem_cons_self) ha hb hc
      · exact ih fun k hk => h k (List.mem_cons_of_mem key hk)

end

/-- **Homogeneous records can be sorted.** On records whose truthy leaves are of one kind under
each key separately, a comparator is a strict weak order. -/
theorem Comparator.strictWeakOn_of_uniform (c : Comparator) (records : Set Json)
    (h : ∀ key ∈ c.keys, key.path.UniformOn records) : StrictWeakOn c.compare records := by
  apply StrictWeakOn.of_composes
  · exact fun a b => compareBy_swap c.keys a b
  · exact fun a ha b hb d hd => composes_compareBy c.keys h ha hb hd

/-- Records whose names are texts: missing, alone, in lists, and in lists of lists. -/
def recordsOfNames : List Json :=
  [.object [], .object [("name", .string "b")],
    .object [("name", .array [.string "B", .null])],
    .object [("name", .array [.array [.string "c"], .number (.int ⟨0, by decide, by decide⟩)])],
    .array [.object [("name", .array [])]]]

theorem Comparator.strictWeakOn_recordsOfNames :
    StrictWeakOn (Comparator.compare ⟨[⟨⟨"name", false⟩, ⟨"name", [.member "name"]⟩⟩], false⟩)
      {r | r ∈ recordsOfNames} := by
  have hstring : ∀ r ∈ recordsOfNames,
      ∀ v ∈ (FieldPath.evaluate ⟨"name", [.member "name"]⟩ r).leaves,
        v.truthy = true → LeafKind.string.admits v = true := by decide
  apply strictWeakOn_of_uniform
  intro key hkey
  rw [List.mem_singleton.mp hkey]
  exact ⟨.string, hstring⟩

end RecordQuery
