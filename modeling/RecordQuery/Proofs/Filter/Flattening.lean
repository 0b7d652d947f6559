import RecordQuery.Filter.Predicate
import RecordQuery.Window.Basic

/-!
# RecordQuery.Proofs.Filter.Flattening — splicing conjunctions keeps their meaning

A conjunction compiles to the same predicate, or fails with the same error, when the parts of inner
conjunctions are put in their place: the leaves keep their order, so the first fault stays the
first one, and conjunction is associative.  `Filter.compile_flatten` says so for whole trees.

Everything here is an equation between results of compilation.  The error case is part of each
equation and never treated apart.
-/

namespace RecordQuery.Filter

variable {mode : Text.CaseMode}

/-! ## Compiling lists of filters -/

theorem compileAll_append (fs gs : List Filter) :
    compileAll mode (fs ++ gs) = do
      let tests ← compileAll mode fs
      let later ← compileAll mode gs
      return tests ++ later := by
  induction fs with
  | nil =>
      rw [List.nil_append, compileAll]
      cases compileAll mode gs <;> rfl
  | cons f fs ih =>
      rw [List.cons_append, compileAll, compileAll, ih]
      cases compile mode f with
      | error e => rfl
      | ok test => cases compileAll mode fs <;> cases compileAll mode gs <;> rfl

/-! ## Conjunctions -/

/-- The conjunction of two lists of filters is the conjunction of their conjunctions. -/
theorem compile_and_append (fs gs : List Filter) :
    compile mode (group .and (fs ++ gs)) = do
      let test ← compile mode (group .and fs)
      let later ← compile mode (group .and gs)
      return fun record => test record && later record := by
  rw [compile, compile, compile, compileAll_append]
  cases compileAll mode fs with
  | error e => rfl
  | ok tests =>
      cases compileAll mode gs with
      | error e => rfl
      | ok later =>
          show Except.ok _ = Except.ok _
          congr 1
          funext record
          exact List.all_append

/-- A conjunction of one filter is that filter. -/
theorem compile_and_singleton (f : Filter) : compile mode (group .and [f]) = compile mode f := by
  rw [compile, compileAll, compileAll]
  cases compile mode f with
  | error e => rfl
  | ok test =>
      show Except.ok _ = Except.ok _
      congr 1
      funext record
      exact Bool.and_true _

/-- A filter is the conjunction of what it contributes to a conjunction around it. -/
theorem compile_and_conjuncts (f : Filter) :
    compile mode (group .and f.conjuncts) = compile mode f := by
  -- only a conjunction contributes its parts; every other filter contributes itself
  rw [conjuncts.eq_def]
  split
  · rfl
  · exact compile_and_singleton f

/-- Splicing inner conjunctions into a list of conjuncts keeps what the list compiles to. -/
theorem compile_and_flatMap_conjuncts (fs : List Filter) :
    compile mode (group .and (fs.flatMap conjuncts)) = compile mode (group .and fs) := by
  induction fs with
  | nil => rfl
  | cons f fs ih =>
      rw [List.flatMap_cons, compile_and_append, compile_and_conjuncts, ih, ← List.singleton_append,
        compile_and_append, compile_and_singleton]

/-- Splicing keeps what a group compiles to, whatever its connective. -/
theorem compile_spliceAnd (op : Connective) (fs : List Filter) :
    compile mode (group op (spliceAnd op fs)) = compile mode (group op fs) := by
  cases op with
  | and => exact compile_and_flatMap_conjuncts fs
  | or => rfl
  | nand => rfl
  | nor => rfl

/-! ## Trees -/

mutual

/-- **Flattening keeps meaning.** A filter and its flattened form compile to one predicate, or fail
with one error. -/
theorem compile_flatten : ∀ f : Filter, compile mode f.flatten = compile mode f
  | leaf _ _ => by rw [flatten]
  | group op fs => by rw [flatten, compile_spliceAnd, compile, compile, compileAll_flattenAll fs]

theorem compileAll_flattenAll :
    ∀ fs : List Filter, compileAll mode (flattenAll fs) = compileAll mode fs
  | [] => by rw [flattenAll]
  | f :: fs => by
      rw [flattenAll, compileAll, compileAll, compile_flatten f, compileAll_flattenAll fs]

end

end RecordQuery.Filter
