import RecordQuery.Sort.Key

/-!
# RecordQuery.Proofs.Sort.KeyOrder — how sort keys compare

The comparison of keys recurses on one side at a time.  This module gives the equations that a
reader expects of it, and that all later proofs use in its place: falsy keys are equal and come
first (`compare_of_falsy`, `compare_of_falsy_of_truthy`); two truthy keys compare like their lists
of items, a scalar being the list of itself (`compare_eq_compareItems`); and lists compare by their
heads and then by their tails, an absent item being null (`compareItems_eq`).

The first consequence is that swapping the arguments reverses the outcome, on all keys.
-/

namespace RecordQuery

/-! ## Numbers and scalars -/

/-- Zeros have one place among the doubles, however they are stored. -/
theorem Number.key_toDouble_of_isZero {n : Number} (h : n.isZero = true) :
    n.toDouble.key = some 0 := by
  cases n with
  | int a =>
      have ha : a.val = 0 := by simpa [isZero] using h
      rw [toDouble, ha]
      rfl
  | double x =>
      have hx : x.code = 0 := by simpa [isZero, FiniteDouble.isZero] using h
      simp [toDouble, Double.key, FiniteDouble.key, hx]

theorem Number.compare?_of_isZero {m n : Number} (hm : m.isZero = true) (hn : n.isZero = true) :
    m.compare? n = some .eq := by
  have hdouble : m.toDouble.compare? n.toDouble = some .eq := by
    rw [Double.compare?, key_toDouble_of_isZero hm, key_toDouble_of_isZero hn]
    rfl
  cases m with
  | double x => cases n <;> exact hdouble
  | int a =>
      cases n with
      | double y => exact hdouble
      | int b =>
          have ha : a.val = 0 := by simpa [isZero] using hm
          have hb : b.val = 0 := by simpa [isZero] using hn
          simp [compare?, WordInt.fitsSigned, ha, hb]

namespace SortKey

variable {caseSensitive : Bool}

theorem compareStrings_swap (s t : String) :
    compareStrings caseSensitive s t = (compareStrings caseSensitive t s).swap := by
  unfold compareStrings
  split <;> exact Std.OrientedCmp.eq_swap

theorem compareAlike_swap (u v : Json) :
    compareAlike caseSensitive u v = (compareAlike caseSensitive v u).swap := by
  cases u <;> cases v <;> try rfl
  case bool.bool a b =>
      show Ord.compare a b = (Ord.compare b a).swap
      exact Std.OrientedCmp.eq_swap
  case string.string s t => exact compareStrings_swap s t
  case number.number m n =>
      show (m.compare? n).getD .eq = ((n.compare? m).getD .eq).swap
      rw [Number.compare?_swap]
      cases n.compare? m <;> rfl

/-- All falsy scalars are equal, whatever their kinds. -/
theorem compareAlike_of_falsy {u v : Json} (hu : u.truthy = false) (hv : v.truthy = false) :
    compareAlike caseSensitive u v = .eq := by
  cases u <;> cases v <;> try rfl
  case bool.bool a b =>
      simp only [Json.truthy] at hu hv
      rw [hu, hv]
      rfl
  case string.string s t =>
      have hs : s = "" := by simpa [Json.truthy] using hu
      have ht : t = "" := by simpa [Json.truthy] using hv
      rw [hs, ht, compareAlike, compareStrings]
      split <;> exact Std.ReflCmp.compare_self
  case number.number m n =>
      have hm : m.isZero = true := by simpa [Json.truthy] using hu
      have hn : n.isZero = true := by simpa [Json.truthy] using hv
      show (m.compare? n).getD .eq = .eq
      rw [Number.compare?_of_isZero hm hn]
      rfl

/-! ## Falsy keys -/

/-- What an absent item of a list counts as. -/
def nothing : SortKey := scalar .null

/-- Only scalars are falsy. -/
theorem eq_scalar_of_falsy {a : SortKey} (h : a.truthy = false) :
    ∃ v : Json, a = scalar v ∧ v.truthy = false := by
  cases a with
  | scalar v => exact ⟨v, rfl, h⟩
  | list xs => exact absurd h (by simp [truthy])

theorem compare_of_falsy {a b : SortKey} (ha : a.truthy = false) (hb : b.truthy = false) :
    compare caseSensitive a b = .eq := by
  obtain ⟨u, rfl, hu⟩ := eq_scalar_of_falsy ha
  obtain ⟨v, rfl, hv⟩ := eq_scalar_of_falsy hb
  rw [compare, compareScalarTo, compareScalar, if_pos (hu.trans hv.symm)]
  exact compareAlike_of_falsy hu hv

theorem compare_of_falsy_of_truthy {a b : SortKey} (ha : a.truthy = false) (hb : b.truthy = true) :
    compare caseSensitive a b = .lt := by
  obtain ⟨u, rfl, hu⟩ := eq_scalar_of_falsy ha
  cases b with
  | list ys => simp [compare, compareScalarTo, hu]
  | scalar v =>
      have hv : v.truthy = true := hb
      simp [compare, compareScalarTo, compareScalar, hu, hv]

theorem compare_of_truthy_of_falsy {a b : SortKey} (ha : a.truthy = true) (hb : b.truthy = false) :
    compare caseSensitive a b = .gt := by
  obtain ⟨v, rfl, hv⟩ := eq_scalar_of_falsy hb
  cases a with
  | list xs => simp [compare, hv]
  | scalar u =>
      have hu : u.truthy = true := ha
      simp [compare, compareScalarTo, compareScalar, hu, hv]

/-! ## Lists of items -/

/-- The items of a key; a scalar is the list of itself. -/
def items : SortKey → List SortKey
  | scalar v => [scalar v]
  | list xs => xs

theorem compare_nothing (a : SortKey) :
    compare caseSensitive a nothing = if a.truthy then .gt else .eq := by
  cases ha : a.truthy with
  | true => exact compare_of_truthy_of_falsy ha rfl
  | false => exact compare_of_falsy ha rfl

theorem nothing_compare (a : SortKey) :
    compare caseSensitive nothing a = if a.truthy then .lt else .eq := by
  cases ha : a.truthy with
  | true => exact compare_of_falsy_of_truthy rfl ha
  | false => exact compare_of_falsy rfl ha

theorem compareToNulls_cons (caseSensitive : Bool) (x : SortKey) (xs : List SortKey) :
    compareToNulls (x :: xs) = (compare caseSensitive x nothing).then (compareToNulls xs) := by
  rw [compare_nothing, compareToNulls, List.any_cons, compareToNulls]
  cases x.truthy <;> rfl

theorem compareItems_nil_left (ys : List SortKey) :
    compareItems caseSensitive [] ys = (compareToNulls ys).swap := by
  rw [compareItems]

theorem compareItems_nil_right (xs : List SortKey) :
    compareItems caseSensitive xs [] = compareToNulls xs := by
  cases xs with
  | nil => rfl
  | cons x xs => rw [compareItems]

/-- Lists compare by their heads and then by their tails; the shorter one goes on with nothing. -/
theorem compareItems_eq (xs ys : List SortKey) :
    compareItems caseSensitive xs ys
      = (compare caseSensitive (xs.headD nothing) (ys.headD nothing)).then
          (compareItems caseSensitive xs.tail ys.tail) := by
  cases xs with
  | nil =>
      cases ys with
      | nil => rw [List.headD_nil, compare_of_falsy rfl rfl]; rfl
      | cons y ys =>
          -- the list that has ended goes on with nothing, item by item
          rw [List.tail_nil, compareItems_nil_left, compareItems_nil_left,
            compareToNulls_cons caseSensitive, Ordering.swap_then, List.headD_nil,
            List.headD_cons, List.tail_cons, compare_nothing, nothing_compare]
          cases y.truthy <;> rfl
  | cons x xs =>
      cases ys with
      | nil =>
          rw [List.tail_nil, compareItems_nil_right, compareItems_nil_right,
            compareToNulls_cons caseSensitive]
          rfl
      | cons y ys => rw [compareItems]; rfl

/-- Truthy keys compare like their lists of items. -/
theorem compare_eq_compareItems {a b : SortKey} (ha : a.truthy = true) (hb : b.truthy = true) :
    compare caseSensitive a b = compareItems caseSensitive a.items b.items := by
  cases a with
  | scalar u =>
      have hu : u.truthy = true := ha
      cases b with
      | scalar v =>
          rw [items, items, compareItems, compareItems_nil_left]
          exact Ordering.then_eq.symm
      | list ys =>
          rw [items, items, compare, compareScalarTo, if_pos hu]
          cases ys with
          | nil => simp [compareScalarToItems, compareItems, compareToNulls, truthy, hu]
          | cons y ys =>
              rw [compareScalarToItems, compareItems, compareItems_nil_left, compare]
  | list xs =>
      cases b with
      | list ys => rw [compare, items, items]
      | scalar v =>
          have hv : v.truthy = true := hb
          rw [items, items, compare, if_pos hv]
          cases xs with
          | nil => simp [compareItemsToScalar, compareItems, compareToNulls, truthy, hv]
          | cons x xs => rw [compareItemsToScalar, compareItems, compareItems_nil_right]

/-! ## Induction on items -/

/-- No item is larger than its key. -/
theorem sizeOf_le_of_mem_items {a x : SortKey} (h : x ∈ a.items) : sizeOf x ≤ sizeOf a := by
  cases a with
  | scalar v =>
      rw [items, List.mem_singleton] at h
      exact Nat.le_of_eq (congrArg sizeOf h)
  | list xs =>
      rw [items] at h
      have hx := List.sizeOf_lt_of_mem h
      rw [list.sizeOf_spec]
      omega

/-- The items of a list are smaller than the list. -/
theorem sizeOf_lt_of_mem_items {xs : List SortKey} {x : SortKey} (h : x ∈ (list xs).items) :
    sizeOf x < sizeOf (list xs) := by
  rw [items] at h
  have hx := List.sizeOf_lt_of_mem h
  rw [list.sizeOf_spec]
  omega

/-! ## Swapping -/

theorem compareItems_swap {xs ys : List SortKey}
    (h : ∀ x ∈ xs, ∀ y ∈ ys,
      compare caseSensitive x y = (compare caseSensitive y x).swap) :
    compareItems caseSensitive xs ys = (compareItems caseSensitive ys xs).swap := by
  induction xs generalizing ys with
  | nil => rw [compareItems_nil_left, compareItems_nil_right]
  | cons x xs ih =>
      cases ys with
      | nil => rw [compareItems_nil_left, compareItems_nil_right, Ordering.swap_swap]
      | cons y ys =>
          have hhead := h x List.mem_cons_self y List.mem_cons_self
          have htail := ih fun x' hx y' hy =>
            h x' (List.mem_cons_of_mem x hx) y' (List.mem_cons_of_mem y hy)
          rw [compareItems, compareItems, Ordering.swap_then, ← hhead, ← htail]

/-- **Swapping reverses.** The order of two keys, whatever their shapes, is the reverse of the order
of the second and the first. -/
theorem compare_swap (a b : SortKey) :
    compare caseSensitive a b = (compare caseSensitive b a).swap := by
  cases ha : a.truthy with
  | false =>
      cases hb : b.truthy with
      | false => rw [compare_of_falsy ha hb, compare_of_falsy hb ha]; rfl
      | true => rw [compare_of_falsy_of_truthy ha hb, compare_of_truthy_of_falsy hb ha]; rfl
  | true =>
      cases hb : b.truthy with
      | false => rw [compare_of_truthy_of_falsy ha hb, compare_of_falsy_of_truthy hb ha]; rfl
      | true =>
          -- two scalars are settled by their kinds; otherwise some side loses a list
          match a, b with
          | scalar u, scalar v =>
              have hu : u.truthy = true := ha
              have hv : v.truthy = true := hb
              rw [compare, compareScalarTo, compareScalar, if_pos (hu.trans hv.symm), compare,
                compareScalarTo, compareScalar, if_pos (hv.trans hu.symm)]
              exact compareAlike_swap u v
          | scalar u, list ys =>
              rw [compare_eq_compareItems ha hb, compare_eq_compareItems hb ha]
              exact compareItems_swap fun x hx y hy =>
                have := sizeOf_le_of_mem_items hx
                have := sizeOf_lt_of_mem_items hy
                compare_swap x y
          | list xs, b =>
              rw [compare_eq_compareItems ha hb, compare_eq_compareItems hb ha]
              exact compareItems_swap fun x hx y hy =>
                have := sizeOf_lt_of_mem_items hx
                have := sizeOf_le_of_mem_items hy
                compare_swap x y
termination_by sizeOf a + sizeOf b
decreasing_by all_goals omega

end SortKey

end RecordQuery
