/-!
# Loops

The body of a loop leaves with a result or goes on with a new state.
`loop_leaves` is the rule of total correctness: an invariant that every turn
keeps and a rank that every turn decreases.
-/

namespace SixLoWPANd.Foundation

universe u v

section Loops

variable {State : Type u} {Result : Type v}
variable (body : State → Result ⊕ State)

/-- The result of the loop, if it is left within `fuel` turns. -/
def loop : Nat → State → Option Result
  | 0, _ => none
  | fuel + 1, state =>
      match body state with
      | .inl result => some result
      | .inr next => loop fuel next

variable {body}

/-- A loop that is left has kept what every turn keeps. -/
theorem loop_invariant {invariant : State → Prop} {outcome : Result → Prop}
    (goesOn : ∀ {state next}, invariant state → body state = .inr next →
      invariant next)
    (leaves : ∀ {state result}, invariant state → body state = .inl result →
      outcome result)
    {fuel : Nat} {start : State} (initial : invariant start)
    {result : Result} (left : loop body fuel start = some result) :
    outcome result := by
  induction fuel generalizing start with
  | zero =>
      cases left
  | succ fuel inductionHypothesis =>
      rw [loop] at left
      cases turn : body start with
      | inl final =>
          rw [turn] at left
          cases left
          exact leaves initial turn
      | inr next =>
          rw [turn] at left
          exact inductionHypothesis (goesOn initial turn) left

/-- A loop is left if it has more fuel than the rank of its start, and every
turn decreases the rank. -/
theorem loop_leaves {invariant : State → Prop} (rank : State → Nat)
    (goesOn : ∀ {state next}, invariant state → body state = .inr next →
      invariant next ∧ rank next < rank state)
    {fuel : Nat} {start : State} (initial : invariant start)
    (enough : rank start < fuel) :
    ∃ result, loop body fuel start = some result := by
  induction fuel generalizing start with
  | zero =>
      exact absurd enough (Nat.not_lt_zero _)
  | succ fuel inductionHypothesis =>
      rw [loop]
      cases turn : body start with
      | inl result =>
          exact ⟨result, rfl⟩
      | inr next =>
          obtain ⟨kept, lower⟩ := goesOn initial turn
          exact
            inductionHypothesis kept
              (Nat.lt_of_lt_of_le lower (Nat.le_of_lt_succ enough))

end Loops

end SixLoWPANd.Foundation
