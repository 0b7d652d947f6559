/-!
# RecordQuery.Proofs.Except — computations that may fail, taken apart

A chain of steps gives a result exactly when every step does.  These lemmas peel the first step off
a chain; the definitions that are chains never have to be unfolded further than that.
-/

namespace Except

variable {ε α β : Type}

@[simp]
theorem ok_bind (a : α) (f : α → Except ε β) : (ok a >>= f) = f a := rfl

@[simp]
theorem error_bind (e : ε) (f : α → Except ε β) : ((error e : Except ε α) >>= f) = error e := rfl

/-- A chain gives a result when its first step does and the rest goes on from there. -/
theorem bind_eq_ok_iff {x : Except ε α} {f : α → Except ε β} {b : β} :
    x >>= f = ok b ↔ ∃ a, x = ok a ∧ f a = ok b := by
  cases x with
  | error e => simp
  | ok a => simp

/-- A chain fails where its first step does, or else where the rest does. -/
theorem bind_eq_error_iff {x : Except ε α} {f : α → Except ε β} {e : ε} :
    x >>= f = error e ↔ x = error e ∨ ∃ a, x = ok a ∧ f a = error e := by
  cases x with
  | error e' => simp
  | ok a => simp

/-- A computation gives a result after `f` when it gives one that `f` makes it. -/
theorem map_eq_ok_iff {x : Except ε α} {f : α → β} {b : β} :
    x.map f = ok b ↔ ∃ a, x = ok a ∧ f a = b := by
  cases x with
  | error e => simp [Except.map]
  | ok a => simp [Except.map]

/-- Two computations are the same after `f` when they fail alike or give results that `f` does not
tell apart. -/
theorem map_eq_map_iff {x y : Except ε α} {f : α → β} :
    x.map f = y.map f ↔ (∃ e, x = error e ∧ y = error e) ∨
      ∃ a b, x = ok a ∧ y = ok b ∧ f a = f b := by
  cases x with
  | error e => cases y <;> simp [Except.map, eq_comm]
  | ok a => cases y <;> simp [Except.map]

theorem mapError_eq_ok_iff {ε' : Type} {x : Except ε α} {f : ε → ε'} {a : α} :
    x.mapError f = ok a ↔ x = ok a := by
  cases x with
  | error e => exact ⟨nofun, nofun⟩
  | ok b =>
      constructor
      · intro h
        exact congrArg ok (ok.inj h)
      · intro h
        exact congrArg ok (ok.inj h)

theorem mapError_eq_error_iff {ε' : Type} {x : Except ε α} {f : ε → ε'} {e' : ε'} :
    x.mapError f = error e' ↔ ∃ e, x = error e ∧ f e = e' := by
  cases x with
  | error e =>
      show error (f e) = error e' ↔ _
      simp
  | ok a => exact ⟨nofun, nofun⟩

end Except
