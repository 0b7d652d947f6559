import Mathlib.Data.List.Basic
import RecordQuery.Window.Basic

/-!
# RecordQuery.Proofs.Filter.NormalForm — flat filters are the normal forms

In a flat filter no conjunction stands directly in a conjunction.  Flattening a filter gives a flat
one, and changes no flat one, so flattening twice is flattening once.

What a filter contributes to a conjunction around it, once it is flat, is its list of parts.  A
flattened conjunction is the conjunction of all parts of its filters in their order: that law, and
not the trees, is what makes different nestings of one conjunction the same.
-/

namespace RecordQuery.Filter

/-! ## Flat filters -/

mutual

/-- No conjunction in the tree has a conjunction among its parts. -/
def IsFlat : Filter → Prop
  | leaf _ _ => True
  | group op filters => (op = .and → ∀ f ∈ filters, f.isAnd = false) ∧ AllFlat filters

/-- All of several filters are flat. -/
def AllFlat : List Filter → Prop
  | [] => True
  | f :: rest => IsFlat f ∧ AllFlat rest

end

theorem allFlat_iff {filters : List Filter} : AllFlat filters ↔ ∀ f ∈ filters, f.IsFlat := by
  induction filters with
  | nil => simp [AllFlat]
  | cons f rest ih => rw [AllFlat, ih, List.forall_mem_cons]

/-- Flattening several filters flattens each. -/
theorem flattenAll_eq_map (filters : List Filter) : flattenAll filters = filters.map flatten := by
  induction filters with
  | nil => rfl
  | cons f rest ih => rw [flattenAll, ih, List.map_cons]

/-- What is no conjunction contributes itself. -/
theorem conjuncts_of_not_isAnd {f : Filter} (h : f.isAnd = false) : f.conjuncts = [f] := by
  rw [conjuncts.eq_def]
  split
  · cases h
  · rfl

/-- Groups that are no conjunctions keep their parts as they are. -/
theorem spliceAnd_of_ne {op : Connective} (h : op ≠ .and) (filters : List Filter) :
    spliceAnd op filters = filters := by
  unfold spliceAnd
  split
  · exact absurd rfl h
  · rfl

/-- A flat filter contributes flat filters that are no conjunctions. -/
theorem IsFlat.of_mem_conjuncts {f c : Filter} (hf : f.IsFlat) (hc : c ∈ f.conjuncts) :
    c.IsFlat ∧ c.isAnd = false := by
  cases hand : f.isAnd with
  | false =>
      rw [conjuncts_of_not_isAnd hand, List.mem_singleton] at hc
      rw [hc]
      exact ⟨hf, hand⟩
  | true =>
      unfold isAnd at hand
      split at hand
      · rw [IsFlat] at hf
        exact ⟨allFlat_iff.mp hf.2 c hc, hf.1 rfl c hc⟩
      · cases hand

/-- Splicing flat filters into a group makes a flat group. -/
theorem isFlat_group_spliceAnd (op : Connective) {filters : List Filter}
    (h : ∀ f ∈ filters, f.IsFlat) : (group op (spliceAnd op filters)).IsFlat := by
  rw [IsFlat]
  by_cases hop : op = .and
  · rw [hop]
    have hparts : ∀ c ∈ filters.flatMap conjuncts, c.IsFlat ∧ c.isAnd = false := by
      intro c hc
      obtain ⟨f, hf, hc⟩ := List.mem_flatMap.mp hc
      exact (h f hf).of_mem_conjuncts hc
    exact ⟨fun _ c hc => (hparts c hc).2, allFlat_iff.mpr fun c hc => (hparts c hc).1⟩
  · rw [spliceAnd_of_ne hop]
    exact ⟨fun h => absurd h hop, allFlat_iff.mpr h⟩

mutual

/-- **Flattening makes flat.** -/
theorem isFlat_flatten : ∀ f : Filter, f.flatten.IsFlat
  | leaf _ _ => by
      rw [flatten, IsFlat]
      trivial
  | group op filters => by
      rw [flatten]
      exact isFlat_group_spliceAnd op (isFlat_of_mem_flattenAll filters)

theorem isFlat_of_mem_flattenAll :
    ∀ filters : List Filter, ∀ f ∈ flattenAll filters, f.IsFlat
  | [] => by
      intro f hf
      cases hf
  | g :: rest => by
      intro f hf
      rw [flattenAll] at hf
      rcases List.mem_cons.mp hf with rfl | hf
      · exact isFlat_flatten g
      · exact isFlat_of_mem_flattenAll rest f hf

end

mutual

/-- **Flattening changes nothing flat.** -/
theorem IsFlat.flatten_eq : ∀ {f : Filter}, f.IsFlat → f.flatten = f
  | leaf _ _, _ => by rw [flatten]
  | group op filters, h => by
      rw [IsFlat] at h
      rw [flatten, h.2.flattenAll_eq]
      by_cases hop : op = .and
      · have hparts : ∀ f ∈ filters, f.conjuncts = [f] :=
          fun f hf => conjuncts_of_not_isAnd (h.1 hop f hf)
        rw [hop, spliceAnd, List.flatMap_congr hparts, List.flatMap_singleton']
      · rw [spliceAnd_of_ne hop]

theorem AllFlat.flattenAll_eq :
    ∀ {filters : List Filter}, AllFlat filters → flattenAll filters = filters
  | [], _ => rfl
  | _ :: _, h => by
      rw [AllFlat] at h
      rw [flattenAll, h.1.flatten_eq, h.2.flattenAll_eq]

end

/-- Flattening twice is flattening once. -/
theorem flatten_flatten (f : Filter) : f.flatten.flatten = f.flatten :=
  (isFlat_flatten f).flatten_eq

/-! ## Parts of conjunctions -/

/-- What a filter contributes, flattened, to a conjunction around it. -/
def parts (f : Filter) : List Filter :=
  f.flatten.conjuncts

/-- A flattened conjunction is the conjunction of all parts of its filters. -/
theorem flatten_and (filters : List Filter) :
    (group .and filters).flatten = group .and (filters.flatMap parts) := by
  rw [flatten, flattenAll_eq_map, spliceAnd, List.flatMap_map]
  rfl

theorem parts_and (filters : List Filter) : (group .and filters).parts = filters.flatMap parts := by
  rw [parts, flatten_and]
  rfl

/-! ## Conjunctions of any number of filters -/

/-- The conjunction of several filters; of none there is none, and one stands for itself. -/
def conjoin : List Filter → Option Filter
  | [] => none
  | [f] => some f
  | f :: g :: rest => some (group .and (f :: g :: rest))

theorem conjoin_ne_nil {filters : List Filter} (h : filters ≠ []) : ∃ f, conjoin filters = some f := by
  match filters, h with
  | [f], _ => exact ⟨f, rfl⟩
  | f :: g :: rest, _ => exact ⟨_, rfl⟩

/-- The conjunction of several filters contributes what each of them contributes. -/
theorem parts_of_conjoin {filters : List Filter} {f : Filter} (h : conjoin filters = some f) :
    f.parts = filters.flatMap parts := by
  match filters, h with
  | [g], h =>
      cases h
      rw [List.flatMap_singleton]
  | g :: g' :: rest, h =>
      cases h
      exact parts_and _

theorem conjoin_append {filters later : List Filter} (hf : filters ≠ []) (hl : later ≠ []) :
    conjoin (filters ++ later) = some (group .and (filters ++ later)) := by
  obtain ⟨f, rest, rfl⟩ := List.exists_cons_of_ne_nil hf
  cases rest with
  | nil =>
      obtain ⟨g, later, rfl⟩ := List.exists_cons_of_ne_nil hl
      rfl
  | cons g rest => rfl

/-- **Joining is associative up to flattening.** When two optional filters have the normal forms of
two conjunctions, both together have the normal form of one conjunction of all filters. -/
theorem map_flatten_bothFilters {a b : Option Filter} {filters later : List Filter}
    (ha : a.map flatten = (conjoin filters).map flatten)
    (hb : b.map flatten = (conjoin later).map flatten) :
    (Window.bothFilters a b).map flatten = (conjoin (filters ++ later)).map flatten := by
  by_cases hf : filters = []
  · rw [hf] at ha ⊢
    rw [Option.map_eq_none_iff.mp ha]
    exact hb
  · by_cases hl : later = []
    · rw [hl] at hb ⊢
      rw [Option.map_eq_none_iff.mp hb, List.append_nil, ← ha]
      cases a <;> rfl
    · obtain ⟨f', hconj⟩ := conjoin_ne_nil hf
      obtain ⟨g', hconj'⟩ := conjoin_ne_nil hl
      rw [hconj] at ha
      rw [hconj'] at hb
      obtain ⟨f, rfl, hflat⟩ := Option.map_eq_some_iff.mp ha
      obtain ⟨g, rfl, hflat'⟩ := Option.map_eq_some_iff.mp hb
      have hparts : f.parts = filters.flatMap parts := by
        rw [← parts_of_conjoin hconj, parts, hflat, parts]
      have hparts' : g.parts = later.flatMap parts := by
        rw [← parts_of_conjoin hconj', parts, hflat', parts]
      -- both sides are the conjunction of the same parts
      show some (group .and [f, g]).flatten = _
      rw [conjoin_append hf hl, Option.map_some, flatten_and, flatten_and, List.flatMap_append,
        ← hparts, ← hparts']
      simp

end RecordQuery.Filter
