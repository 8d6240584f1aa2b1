import Mathlib.Data.List.Basic

/-!
# Runs of guarded steps

A step that has no result is not possible.  A run of such steps reaches a state
if each of them is possible.  `guardedRun_invariant` carries an invariant
through a run, and `exists_guardedRun_of_rank` finds a run to a goal where a
rank says that it comes nearer.
-/

namespace SixLoWPANd.Foundation

universe u v

section GuardedRuns

variable {State : Type u} {Input : Type v}
variable (step : State → Input → Option State)

/-- The state reached with all inputs in order, if every step is possible. -/
def guardedRun (start : State) (inputs : List Input) : Option State :=
  inputs.foldlM step start

variable {step}

theorem guardedRun_nil_iff {start final : State} :
    guardedRun step start [] = some final ↔ start = final :=
  Option.some_inj

theorem guardedRun_cons_iff {start final : State} {input : Input}
    {rest : List Input} :
    guardedRun step start (input :: rest) = some final ↔
      ∃ next, step start input = some next ∧
        guardedRun step next rest = some final := by
  rw [guardedRun, List.foldlM_cons]
  exact Option.bind_eq_some_iff

theorem guardedRun_append_iff {start final : State}
    {earlier later : List Input} :
    guardedRun step start (earlier ++ later) = some final ↔
      ∃ between, guardedRun step start earlier = some between ∧
        guardedRun step between later = some final := by
  rw [guardedRun, List.foldlM_append]
  exact Option.bind_eq_some_iff

/-- An invariant that every possible admitted step preserves holds of every
state that admitted inputs reach. -/
theorem guardedRun_invariant {invariant : State → Prop}
    {admitted : Input → Prop}
    (preserved : ∀ {state input next}, invariant state → admitted input →
      step state input = some next → invariant next)
    {start final : State} (initial : invariant start)
    {inputs : List Input} (allAdmitted : ∀ input ∈ inputs, admitted input)
    (reached : guardedRun step start inputs = some final) :
    invariant final := by
  induction inputs generalizing start with
  | nil =>
      rwa [← guardedRun_nil_iff.mp reached]
  | cons input rest inductionHypothesis =>
      obtain ⟨next, first, later⟩ := guardedRun_cons_iff.mp reached
      exact
        inductionHypothesis
          (preserved initial (allAdmitted input List.mem_cons_self) first)
          (fun other member =>
            allAdmitted other (List.mem_cons_of_mem _ member))
          later

/-- If from every state that has not come to the goal an admitted step goes to
one of a lower rank, an admitted run comes to the goal. -/
theorem exists_guardedRun_of_rank (rank : State → Nat)
    {good goal : State → Prop} {admitted : Input → Prop}
    (nearer : ∀ {state}, good state → ¬ goal state →
      ∃ input next, admitted input ∧ step state input = some next ∧
        good next ∧ rank next < rank state)
    {start : State} (initial : good start) :
    ∃ inputs final, (∀ input ∈ inputs, admitted input) ∧
      guardedRun step start inputs = some final ∧ goal final := by
  by_cases arrived : goal start
  · exact ⟨[], start, by simp, rfl, arrived⟩
  · obtain ⟨input, next, isAdmitted, first, nextGood, lower⟩ :=
      nearer initial arrived
    obtain ⟨inputs, final, allAdmitted, later, there⟩ :=
      exists_guardedRun_of_rank rank nearer nextGood
    exact
      ⟨input :: inputs, final,
        List.forall_mem_cons.mpr ⟨isAdmitted, allAdmitted⟩,
        guardedRun_cons_iff.mpr ⟨next, first, later⟩, there⟩
termination_by rank start

end GuardedRuns

end SixLoWPANd.Foundation
