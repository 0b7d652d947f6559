import RecordQuery.Json.Reader
import RecordQuery.Proofs.Except

/-!
# RecordQuery.Proofs.Json.Nesting — how deep a value nests, and what the limit does

A reader that may still open `room` brackets reads a text to its end when the text nests no deeper,
and stops at the first bracket too many otherwise.  `Limited` says both at once, so that one
induction over a value follows its text through either outcome.
-/

namespace RecordQuery.Json

/-! ## Depth -/

mutual

/-- The number of brackets open at the deepest place of a value's text. -/
def depth : Json → Nat
  | array items => depthItems items + 1
  | object members => depthMembers members + 1
  | _ => 0

/-- The depth of the deepest item. -/
def depthItems : List Json → Nat
  | [] => 0
  | x :: xs => max (depth x) (depthItems xs)

/-- The depth of the deepest member value. -/
def depthMembers : List (String × Json) → Nat
  | [] => 0
  | (_, v) :: ms => max (depth v) (depthMembers ms)

end

theorem depthMembers_append (ms ns : List (String × Json)) :
    depthMembers (ms ++ ns) = max (depthMembers ms) (depthMembers ns) := by
  induction ms with
  | nil => simp [depthMembers]
  | cons m ms ih =>
      obtain ⟨k, v⟩ := m
      rw [List.cons_append, depthMembers, depthMembers, ih, Nat.max_assoc]

/-! ## Readers under the limit -/

/-- A reader of a text that nests `depth` deep, with `room` brackets left: it gives `x` when the
depth fits, and the fault of too deep nesting when it does not. -/
def Limited {α : Type} (depth room : Nat) (outcome : Except Fault α) (x : α) : Prop :=
  (depth ≤ room → outcome = .ok x) ∧
    (room < depth → ∃ unread, outcome = .error ⟨.nestingLimit, unread⟩)

namespace Limited

variable {α β : Type} {d₁ d₂ room : Nat} {x : α} {y : β}

/-- What opens no bracket is never stopped. -/
theorem ok (room : Nat) (x : α) : Limited 0 room (.ok x) x :=
  ⟨fun _ => rfl, fun h => absurd h (Nat.not_lt_zero _)⟩

/-- Without room, a bracket is too many. -/
theorem stopped (d unread : Nat) (x : α) :
    Limited (d + 1) 0 (.error ⟨.nestingLimit, unread⟩) x :=
  ⟨fun h => absurd h (Nat.not_succ_le_zero d), fun _ => ⟨unread, rfl⟩⟩

/-- A bracket costs one in depth and one in room. -/
theorem bracket {outcome : Except Fault α} (h : Limited d₁ room outcome x) :
    Limited (d₁ + 1) (room + 1) outcome x :=
  ⟨fun hle => h.1 (Nat.le_of_succ_le_succ hle), fun hlt => h.2 (Nat.lt_of_succ_lt_succ hlt)⟩

/-- Two readers one after the other are stopped when either is. -/
theorem bind {outcome : Except Fault α} {next : α → Except Fault β}
    (h₁ : Limited d₁ room outcome x) (h₂ : Limited d₂ room (next x) y) :
    Limited (max d₁ d₂) room (outcome >>= next) y := by
  constructor
  · intro hle
    rw [h₁.1 (by omega), Except.ok_bind]
    exact h₂.1 (by omega)
  · intro hlt
    -- the first reader is stopped already, or it goes through and the second is
    rcases Nat.lt_or_ge room d₁ with hfirst | hfirst
    · obtain ⟨unread, hstop⟩ := h₁.2 hfirst
      exact ⟨unread, by rw [hstop, Except.error_bind]⟩
    · rw [h₁.1 hfirst, Except.ok_bind]
      exact h₂.2 (by omega)

/-- What is made of a result does not change how deep its text nests. -/
theorem bind_ok {outcome : Except Fault α} {next : α → Except Fault β}
    (h : Limited d₁ room outcome x) (hnext : next x = .ok y) :
    Limited d₁ room (outcome >>= next) y := by
  have hboth := h.bind (hnext ▸ Limited.ok room y)
  rwa [Nat.max_zero] at hboth

end Limited

end RecordQuery.Json
