import Mathlib.Logic.Relation
import RecordQuery.Proofs.Filter.NormalForm

/-!
# RecordQuery.Proofs.Filter.Regrouping — what flattening keeps, and what it identifies

Flattening takes away conjunctions and nothing else: read from left to right, the leaves of a tree
and its other groups, with their numbers of parts, stay as they were.  It does so by single steps,
each of which puts the parts of one conjunction in its place in the conjunction around it.  So two
trees have one normal form exactly when such steps, taken forwards and backwards, lead from one to
the other.
-/

namespace RecordQuery.Filter

/-! ## Landmarks -/

/-- What flattening keeps of a node: a leaf as it is, and of a group that is no conjunction its
connective and the number of its parts. -/
inductive Landmark where
  | leaf (field : String) (test : Test)
  | group (op : Connective) (size : Nat)
deriving DecidableEq

/-- The leaf of a landmark. -/
def Landmark.leaf? : Landmark → Option (String × Test)
  | leaf field test => some (field, test)
  | group _ _ => none

/-- The landmark at a node; a conjunction is none. -/
def landmark? : Filter → Option Landmark
  | leaf field test => some (.leaf field test)
  | group .and _ => none
  | group op filters => some (.group op filters.length)

/-- The landmarks of a tree, every group before its parts. -/
def landmarks (f : Filter) : List Landmark :=
  f.nodes.filterMap landmark?

/-- The landmarks of several trees. -/
def landmarksOf (filters : List Filter) : List Landmark :=
  (nodesOf filters).filterMap landmark?

theorem landmarksOf_cons (f : Filter) (rest : List Filter) :
    landmarksOf (f :: rest) = f.landmarks ++ landmarksOf rest := by
  rw [landmarksOf, nodesOf, List.filterMap_append]
  rfl

theorem landmarksOf_append (filters later : List Filter) :
    landmarksOf (filters ++ later) = landmarksOf filters ++ landmarksOf later := by
  induction filters with
  | nil => rfl
  | cons f rest ih =>
      rw [List.cons_append, landmarksOf_cons, landmarksOf_cons, ih, List.append_assoc]

theorem landmarks_and (filters : List Filter) :
    (group .and filters).landmarks = landmarksOf filters := by
  rw [landmarks, nodes, List.filterMap_cons_none rfl]
  rfl

theorem landmarks_group {op : Connective} (h : op ≠ .and) (filters : List Filter) :
    (group op filters).landmarks = .group op filters.length :: landmarksOf filters := by
  have hlandmark : landmark? (group op filters) = some (.group op filters.length) := by
    cases op with
    | and => exact absurd rfl h
    | or => rfl
    | nand => rfl
    | nor => rfl
  rw [landmarks, nodes, List.filterMap_cons_some hlandmark]
  rfl

/-- What a filter contributes to a conjunction has the landmarks of the filter. -/
theorem landmarksOf_conjuncts (f : Filter) : landmarksOf f.conjuncts = f.landmarks := by
  rw [conjuncts.eq_def]
  split
  · rw [landmarks_and]
  · rw [landmarksOf_cons]
    exact List.append_nil _

theorem landmarksOf_flatMap_conjuncts (filters : List Filter) :
    landmarksOf (filters.flatMap conjuncts) = landmarksOf filters := by
  induction filters with
  | nil => rfl
  | cons f rest ih =>
      rw [List.flatMap_cons, landmarksOf_append, landmarksOf_conjuncts, ih, landmarksOf_cons]

mutual

/-- **Flattening keeps landmarks.** -/
theorem landmarks_flatten : ∀ f : Filter, f.flatten.landmarks = f.landmarks
  | leaf _ _ => by rw [flatten]
  | group op filters => by
      have hparts := landmarksOf_flattenAll filters
      rw [flatten]
      by_cases h : op = .and
      · rw [h, spliceAnd, landmarks_and, landmarks_and, landmarksOf_flatMap_conjuncts, hparts]
      · rw [spliceAnd_of_ne h, landmarks_group h, landmarks_group h, hparts, flattenAll_eq_map,
          List.length_map]

theorem landmarksOf_flattenAll :
    ∀ filters : List Filter, landmarksOf (flattenAll filters) = landmarksOf filters
  | [] => rfl
  | f :: rest => by
      rw [flattenAll, landmarksOf_cons, landmarksOf_cons, landmarks_flatten f,
        landmarksOf_flattenAll rest]

end

mutual

/-- The leaves of a tree are among its landmarks. -/
theorem filterMap_leaf?_landmarks : ∀ f : Filter, f.landmarks.filterMap Landmark.leaf? = f.leaves
  | leaf _ _ => rfl
  | group op filters => by
      rw [leaves, ← filterMap_leaf?_landmarksOf filters]
      by_cases h : op = .and
      · rw [h, landmarks_and]
      · rw [landmarks_group h, List.filterMap_cons_none rfl]

theorem filterMap_leaf?_landmarksOf :
    ∀ filters : List Filter, (landmarksOf filters).filterMap Landmark.leaf? = leavesOf filters
  | [] => rfl
  | f :: rest => by
      rw [landmarksOf_cons, List.filterMap_append, leavesOf, filterMap_leaf?_landmarks f,
        filterMap_leaf?_landmarksOf rest]

end

/-- Flattening keeps the leaves, each in its place. -/
theorem leaves_flatten (f : Filter) : f.flatten.leaves = f.leaves := by
  rw [← filterMap_leaf?_landmarks, landmarks_flatten, filterMap_leaf?_landmarks]

/-! ## Regrouping -/

/-- Somewhere in a tree, the parts of one conjunction are put in its place in the conjunction around
it. -/
inductive Ungroups : Filter → Filter → Prop where
  | here (before inner after : List Filter) :
      Ungroups (group .and (before ++ group .and inner :: after))
        (group .and (before ++ inner ++ after))
  | under (op : Connective) (before after : List Filter) {f g : Filter} (h : Ungroups f g) :
      Ungroups (group op (before ++ f :: after)) (group op (before ++ g :: after))

/-- Two trees differ only by how conjunctions are grouped. -/
def Regroups : Filter → Filter → Prop :=
  Relation.EqvGen Ungroups

open Relation (ReflTransGen)

/-- Ungrouping does not change the normal form. -/
theorem Ungroups.flatten_eq {f g : Filter} (h : Ungroups f g) : f.flatten = g.flatten := by
  induction h with
  | here before inner after =>
      rw [flatten_and, flatten_and]
      simp only [List.flatMap_append, List.flatMap_cons, parts_and, List.append_assoc]
  | under op before after _ ih =>
      rw [flatten, flatten, flattenAll_eq_map, flattenAll_eq_map]
      simp only [List.map_append, List.map_cons, ih]

/-- Steps inside a part are steps of the group. -/
theorem ungroups_part (op : Connective) (before after : List Filter) {f g : Filter}
    (h : ReflTransGen Ungroups f g) :
    ReflTransGen Ungroups (group op (before ++ f :: after)) (group op (before ++ g :: after)) :=
  h.lift _ fun _ _ hstep => hstep.under op before after

/-- The parts of a conjunction are spliced one after the other. -/
theorem ungroups_conjuncts (before filters : List Filter) :
    ReflTransGen Ungroups (group .and (before ++ filters))
      (group .and (before ++ filters.flatMap conjuncts)) := by
  induction filters generalizing before with
  | nil => exact .refl
  | cons f rest ih =>
      have hrest := ih (before ++ f.conjuncts)
      rw [List.flatMap_cons, ← List.append_assoc]
      refine ReflTransGen.trans ?_ hrest
      rw [conjuncts.eq_def]
      split
      · next inner => exact .single (.here before inner rest)
      · rw [List.append_assoc]
        exact .refl

theorem ungroups_spliceAnd (op : Connective) (filters : List Filter) :
    ReflTransGen Ungroups (group op filters) (group op (spliceAnd op filters)) := by
  by_cases h : op = .and
  · rw [h]
    exact ungroups_conjuncts [] filters
  · rw [spliceAnd_of_ne h]

mutual

/-- **Flattening is ungrouping.** -/
theorem ungroups_flatten : ∀ f : Filter, ReflTransGen Ungroups f f.flatten
  | leaf _ _ => by
      rw [flatten]
  | group op filters => by
      rw [flatten]
      exact (ungroups_flattenAll op [] filters).trans (ungroups_spliceAnd op _)

theorem ungroups_flattenAll (op : Connective) : ∀ before filters : List Filter,
    ReflTransGen Ungroups (group op (before ++ filters)) (group op (before ++ flattenAll filters))
  | _, [] => .refl
  | before, f :: rest => by
      have hrest := ungroups_flattenAll op (before ++ [f.flatten]) rest
      rw [List.append_assoc, List.append_assoc] at hrest
      exact (ungroups_part op before rest (ungroups_flatten f)).trans hrest

end

/-- **One normal form for each grouping.** Two trees have the same normal form exactly when they
differ only by how conjunctions are grouped. -/
theorem regroups_iff {f g : Filter} : Regroups f g ↔ f.flatten = g.flatten := by
  constructor
  · intro h
    induction h with
    | rel f g hstep => exact hstep.flatten_eq
    | refl f => rfl
    | symm f g _ ih => exact ih.symm
    | trans f g k _ _ ih ih' => exact ih.trans ih'
  · intro h
    have hf : Regroups f f.flatten :=
      Relation.EqvGen.reflTransGen_le_eqvGen _ _ _ (ungroups_flatten f)
    have hg : Regroups g g.flatten :=
      Relation.EqvGen.reflTransGen_le_eqvGen _ _ _ (ungroups_flatten g)
    rw [← h] at hg
    exact .trans _ _ _ hf (.symm _ _ hg)

end RecordQuery.Filter
