import Mathlib.Data.List.Pairwise
import RecordQuery.Proofs.Sort.StrictWeakOrder

/-!
# RecordQuery.Proofs.Sort.Stable — what sorting stably gives

A stable sort of a list holds the same items in order, and among items that compare equal it keeps
the order in which they stood.  Where swapping two items reverses their comparison, there is at most
one such list: its head is the first of the least items.  For a strict weak order there is one, and
merge sort finds it (`stablySorted_iff`).

Merge sort is known to sort when the comparison is transitive everywhere.  Here it is transitive on
the items only, so the items are sorted as a type of their own and then read back.
-/

namespace RecordQuery

/-- `ys` holds the items of `xs` in order, and items that compare equal as they stand in `xs`. -/
structure StablySorted {α : Type} (compare : α → α → Ordering) (xs ys : List α) : Prop where
  perm : ys.Perm xs
  ordered : ys.Pairwise fun x y => compare x y ≠ .gt
  stable : ∀ x ∈ xs,
    (ys.filter fun y => compare x y == .eq) = xs.filter fun y => compare x y == .eq

variable {α β : Type} {compare : α → α → Ordering}

/-! ## Uniqueness -/

/-- The heads of two lists of the same items tie when neither stands behind an item of its list. -/
theorem compare_heads_eq (hswap : ∀ a b, compare a b = (compare b a).swap) {y z : α}
    {ys zs : List α} (hperm : (y :: ys).Perm (z :: zs)) (hys : ∀ b ∈ ys, compare y b ≠ .gt)
    (hzs : ∀ b ∈ zs, compare z b ≠ .gt) : compare y z = .eq := by
  have hrefl : ∀ a, compare a a = .eq := fun a => Ordering.eq_eq_of_eq_swap (hswap a a)
  rcases List.mem_cons.mp (hperm.mem_iff.mp List.mem_cons_self) with rfl | hy
  · exact hrefl y
  · rcases List.mem_cons.mp (hperm.mem_iff.mpr List.mem_cons_self) with rfl | hz
    · exact hrefl z
    · have hle := hys z hz
      have hge := hzs y hy
      rw [hswap z y] at hge
      cases hcmp : compare y z with
      | lt =>
          rw [hcmp] at hge
          exact absurd rfl hge
      | eq => rfl
      | gt => exact absurd hcmp hle

/-- Two ordered lists of the same items are equal when the items that compare equal to any one stand
alike in both. -/
theorem eq_of_ordered_of_stable (hswap : ∀ a b, compare a b = (compare b a).swap) {ys zs : List α}
    (hperm : ys.Perm zs) (hys : ys.Pairwise fun x y => compare x y ≠ .gt)
    (hzs : zs.Pairwise fun x y => compare x y ≠ .gt)
    (hstable : ∀ x ∈ ys,
      (ys.filter fun y => compare x y == .eq) = zs.filter fun y => compare x y == .eq) :
    ys = zs := by
  induction ys generalizing zs with
  | nil => exact hperm.nil_eq
  | cons y ys ih =>
      cases zs with
      | nil => exact absurd hperm.length_eq (by simp)
      | cons z zs =>
          obtain ⟨hfirsty, hys'⟩ := List.pairwise_cons.mp hys
          obtain ⟨hfirstz, hzs'⟩ := List.pairwise_cons.mp hzs
          have hyy : compare y y = .eq := Ordering.eq_eq_of_eq_swap (hswap y y)
          have hyz := compare_heads_eq hswap hperm hfirsty hfirstz
          -- both heads come first among the items that compare equal to `y`
          have hheads := hstable y List.mem_cons_self
          rw [List.filter_cons_of_pos (by simp [hyy]),
            List.filter_cons_of_pos (by simp [hyz])] at hheads
          obtain ⟨rfl, -⟩ := List.cons.inj hheads
          congr 1
          apply ih hperm.cons_inv hys' hzs'
          intro x hx
          have hx := hstable x (List.mem_cons_of_mem y hx)
          by_cases hxy : compare x y = .eq
          · rw [List.filter_cons_of_pos (by simp [hxy]),
              List.filter_cons_of_pos (by simp [hxy])] at hx
            exact (List.cons.inj hx).2
          · rwa [List.filter_cons_of_neg (by simp [hxy]),
              List.filter_cons_of_neg (by simp [hxy])] at hx

/-- **Sorting stably has one result.** -/
theorem StablySorted.unique (hswap : ∀ a b, compare a b = (compare b a).swap) {xs ys zs : List α}
    (hys : StablySorted compare xs ys) (hzs : StablySorted compare xs zs) : ys = zs := by
  apply eq_of_ordered_of_stable hswap (hys.perm.trans hzs.perm.symm) hys.ordered hzs.ordered
  intro x hx
  have hmem : x ∈ xs := hys.perm.mem_iff.mp hx
  rw [hys.stable x hmem, hzs.stable x hmem]

/-! ## Strict weak orders -/

/-- A comparison of what a function gives is a strict weak order where that of its values is. -/
theorem StrictWeakOn.comap {s : Set α} (h : StrictWeakOn compare s) {t : Set β} (f : β → α)
    (hf : ∀ b ∈ t, f b ∈ s) : StrictWeakOn (fun a b => compare (f a) (f b)) t where
  irrefl a ha := h.irrefl (f a) (hf a ha)
  lt_trans a ha b hb c hc := h.lt_trans (f a) (hf a ha) (f b) (hf b hb) (f c) (hf c hc)
  eq_trans a ha b hb c hc := h.eq_trans (f a) (hf a ha) (f b) (hf b hb) (f c) (hf c hc)

/-- Standing not behind is transitive. -/
theorem StrictWeakOn.ne_gt_trans {s : Set α} (h : StrictWeakOn compare s)
    (hswap : ∀ a b, compare a b = (compare b a).swap) {a b c : α} (ha : a ∈ s) (hb : b ∈ s)
    (hc : c ∈ s) (hab : compare a b ≠ .gt) (hbc : compare b c ≠ .gt) : compare a c ≠ .gt := by
  intro hac
  have hca : compare c a = .lt := by rw [hswap c a, hac, Ordering.swap_gt]
  cases hlt : compare a b with
  | gt => exact hab hlt
  | lt =>
      apply hbc
      rw [hswap b c, h.lt_trans c hc a ha b hb hca hlt, Ordering.swap_lt]
  | eq =>
      cases hlt' : compare b c with
      | gt => exact hbc hlt'
      | lt =>
          have hba := h.lt_trans b hb c hc a ha hlt' hca
          rw [hswap b a, hlt] at hba
          cases hba
      | eq =>
          rw [h.eq_trans a ha b hb c hc hlt hlt'] at hac
          cases hac

/-! ## Merge sort -/

/-- Items may be sorted by what a function gives. -/
theorem StablySorted.map (f : β → α) {xs ys : List β}
    (h : StablySorted (fun a b => compare (f a) (f b)) xs ys) :
    StablySorted compare (xs.map f) (ys.map f) where
  perm := h.perm.map f
  ordered := List.pairwise_map.mpr h.ordered
  stable := by
    intro x hx
    obtain ⟨b, hb, rfl⟩ := List.mem_map.mp hx
    rw [List.filter_map, List.filter_map]
    exact congrArg (List.map f) (h.stable b hb)

/-- A comparison that orders a whole type is sorted by. -/
theorem stablySorted_mergeSort_of_univ (hswap : ∀ a b, compare a b = (compare b a).swap)
    (h : StrictWeakOn compare Set.univ) (xs : List α) :
    StablySorted compare xs (xs.mergeSort fun x y => compare x y != .gt) := by
  have htrans : ∀ a b c, (compare a b != .gt) = true → (compare b c != .gt) = true →
      (compare a c != .gt) = true := by
    intro a b c hab hbc
    rw [bne_iff_ne] at hab hbc ⊢
    exact h.ne_gt_trans hswap trivial trivial trivial hab hbc
  have htotal : ∀ a b, ((compare a b != .gt) || (compare b a != .gt)) = true := by
    intro a b
    rw [hswap b a]
    cases compare a b <;> rfl
  refine ⟨List.mergeSort_perm xs _, ?_, ?_⟩
  · exact (List.pairwise_mergeSort htrans htotal xs).imp fun h => bne_iff_ne.mp h
  · intro x hx
    -- items equal to `x` are equal to each other, so merge sort keeps them as a sublist
    have hequal : (xs.filter fun y => compare x y == .eq).Pairwise
        fun a b => (compare a b != .gt) = true := by
      apply List.pairwise_of_forall_mem_list
      intro a ha b hb
      have hxa : compare x a = .eq := by simpa using (List.mem_filter.mp ha).2
      have hxb : compare x b = .eq := by simpa using (List.mem_filter.mp hb).2
      have hax : compare a x = .eq := by rw [hswap a x, hxa, Ordering.swap_eq]
      rw [h.eq_trans a trivial x trivial b trivial hax hxb]
      rfl
    have hsub := (List.sublist_mergeSort htrans htotal hequal List.filter_sublist).filter
      fun y => compare x y == .eq
    rw [List.filter_filter] at hsub
    simp only [Bool.and_self] at hsub
    apply (hsub.eq_of_length _).symm
    exact ((List.mergeSort_perm xs _).filter _).length_eq.symm

/-- **Merge sort sorts stably.** A strict weak order on the items of a list is enough. -/
theorem stablySorted_mergeSort (hswap : ∀ a b, compare a b = (compare b a).swap) {xs : List α}
    (h : StrictWeakOn compare {x | x ∈ xs}) :
    StablySorted compare xs (xs.mergeSort fun x y => compare x y != .gt) := by
  have hitems : StrictWeakOn (fun a b : {x // x ∈ xs} => compare a.1 b.1) Set.univ :=
    h.comap Subtype.val fun a _ => a.2
  have hsorted := (stablySorted_mergeSort_of_univ (fun a b => hswap a.1 b.1) hitems xs.attach).map
    Subtype.val
  have hmap : (xs.attach.mergeSort fun a b => compare a.1 b.1 != .gt).map Subtype.val
      = (xs.attach.map Subtype.val).mergeSort fun x y => compare x y != .gt :=
    List.map_mergeSort fun a _ b _ => rfl
  rwa [hmap, List.attach_map_subtype_val] at hsorted

theorem stablySorted_iff (hswap : ∀ a b, compare a b = (compare b a).swap) {xs : List α}
    (h : StrictWeakOn compare {x | x ∈ xs}) {ys : List α} :
    StablySorted compare xs ys ↔ ys = xs.mergeSort fun x y => compare x y != .gt := by
  constructor
  · intro hys
    exact hys.unique hswap (stablySorted_mergeSort hswap h)
  · rintro rfl
    exact stablySorted_mergeSort hswap h

end RecordQuery
