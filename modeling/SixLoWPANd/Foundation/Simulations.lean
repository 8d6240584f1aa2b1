import SixLoWPANd.Foundation.Histories

/-!
# Simulations between runs

Two machines are compared by a relation on their states.  `run_related` keeps
two machines with the same inputs in step.  In `run_simulates` the machines
have inputs of their own: `actions` collects what each input of one machine
means to the other.

A machine that also emits something with each input is a transducer; `actions`
is all that it emits, and `run_transduces` reads a log of outputs off it.
`run_ends_iff` finds the step with which a run has ended.
-/

namespace SixLoWPANd.Foundation

universe u v w x

section LockStep

variable {One : Type u} {Other : Type v} {Input : Type w}
variable {oneStep : One → Input → One}
variable {otherStep : Other → Input → Other}
variable {related : One → Other → Prop}

/-- A relation that every common input preserves holds behind all inputs. -/
theorem run_related
    (preserved : ∀ one other input, related one other →
      related (oneStep one input) (otherStep other input))
    {one : One} {other : Other} (initial : related one other)
    (inputs : List Input) :
    related (run oneStep one inputs) (run otherStep other inputs) := by
  induction inputs generalizing one other with
  | nil =>
      exact initial
  | cons input rest inductionHypothesis =>
      exact inductionHypothesis (preserved one other input initial)

end LockStep

section Stuttering

variable {Concrete : Type u} {Abstract : Type v}
variable {Input : Type w} {Action : Type x}
variable (step : Concrete → Input → Concrete)
variable (meaning : Concrete → Input → List Action)

/-- The actions that the inputs of a run mean in the states they meet. -/
def actions : Concrete → List Input → List Action
  | _, [] => []
  | state, input :: rest =>
      meaning state input ++ actions (step state input) rest

@[simp]
theorem actions_nil (state : Concrete) :
    actions step meaning state [] = [] := rfl

@[simp]
theorem actions_cons (state : Concrete) (input : Input)
    (rest : List Input) :
    actions step meaning state (input :: rest) =
      meaning state input ++
        actions step meaning (step state input) rest := rfl

theorem actions_append (state : Concrete) (earlier later : List Input) :
    actions step meaning state (earlier ++ later) =
      actions step meaning state earlier ++
        actions step meaning (run step state earlier) later := by
  induction earlier generalizing state with
  | nil =>
      rfl
  | cons input rest inductionHypothesis =>
      simp [inductionHypothesis]

variable {step meaning}

/-- What is kept of the meaning of each input is kept of all actions. -/
theorem actions_map_sublist {Kept : Type} {keep : Action → Kept}
    {allowed : Input → List Kept}
    (within : ∀ state input,
      ((meaning state input).map keep).Sublist (allowed input))
    (state : Concrete) (inputs : List Input) :
    ((actions step meaning state inputs).map keep).Sublist
      (inputs.flatMap allowed) := by
  induction inputs generalizing state with
  | nil =>
      exact List.Sublist.slnil
  | cons input rest inductionHypothesis =>
      rw [actions_cons, List.map_append, List.flatMap_cons]
      exact (within state input).append (inductionHypothesis _)

variable {act : Abstract → Action → Abstract}
variable {related : Concrete → Abstract → Prop}

/-- If each step is simulated by the actions it means, then a run is simulated
by all its actions. -/
theorem run_simulates
    (simulated : ∀ state abstract input, related state abstract →
      related (step state input)
        (run act abstract (meaning state input)))
    {state : Concrete} {abstract : Abstract}
    (initial : related state abstract) (inputs : List Input) :
    related (run step state inputs)
      (run act abstract (actions step meaning state inputs)) := by
  induction inputs generalizing state abstract with
  | nil =>
      exact initial
  | cons input rest inductionHypothesis =>
      rw [actions_cons, run_append]
      exact inductionHypothesis (simulated state abstract input initial)

end Stuttering

section Transducers

variable {Concrete : Type u} {Abstract : Type v}
variable {Input : Type w} {Output : Type x}
variable {step : Concrete → Input → Concrete}
variable {next : Abstract → Input → Abstract}
variable {emit : Abstract → Input → List Output}

/-- If each step extends a log by what a transducer emits, then a run extends
it by all that the transducer emits. -/
theorem run_transduces {observe : Concrete → Abstract}
    {log : Concrete → List Output}
    (observed : ∀ state input,
      observe (step state input) = next (observe state) input)
    (logged : ∀ state input,
      log (step state input) = log state ++ emit (observe state) input)
    (state : Concrete) (inputs : List Input) :
    observe (run step state inputs) = run next (observe state) inputs ∧
      log (run step state inputs) =
        log state ++ actions next emit (observe state) inputs := by
  induction inputs generalizing state with
  | nil =>
      simp
  | cons input rest inductionHypothesis =>
      obtain ⟨later, outputs⟩ := inductionHypothesis (step state input)
      rw [observed] at later outputs
      refine ⟨later, ?_⟩
      rw [run_cons, outputs, logged, actions_cons, List.append_assoc]

end Transducers

section EndingRuns

variable {State : Type u} {Input : Type v}
variable {step : State → Input → State}
variable {alive : State → Prop} {ends : State → Input → Prop}

theorem run_ended
    (remains : ∀ state input, ¬ alive state → ¬ alive (step state input))
    {state : State} (ended : ¬ alive state) (inputs : List Input) :
    ¬ alive (run step state inputs) := by
  induction inputs generalizing state with
  | nil =>
      exact ended
  | cons input rest inductionHypothesis =>
      exact inductionHypothesis (remains state input ended)

/-- Where a condition says exactly which step ends a run, and what has ended
does not begin again, a run has ended if and only if one of its steps meets the
condition. -/
theorem run_ends_iff
    (remains : ∀ state input, ¬ alive state → ¬ alive (step state input))
    (exactly : ∀ state input, alive state →
      (¬ alive (step state input) ↔ ends state input))
    {start : State} (initial : alive start) (inputs : List Input) :
    ¬ alive (run step start inputs) ↔
      ∃ earlier input later, inputs = earlier ++ input :: later ∧
        alive (run step start earlier) ∧
          ends (run step start earlier) input := by
  constructor
  · intro ended
    induction inputs generalizing start with
    | nil =>
        exact absurd initial ended
    | cons input rest inductionHypothesis =>
        by_cases goesOn : alive (step start input)
        · obtain ⟨earlier, last, later, rfl, before, isLast⟩ :=
            inductionHypothesis goesOn ended
          exact ⟨input :: earlier, last, later, rfl, before, isLast⟩
        · exact
            ⟨[], input, rest, rfl, initial,
              (exactly start input initial).mp goesOn⟩
  · rintro ⟨earlier, input, later, rfl, before, isLast⟩
    rw [run_append, run_cons]
    exact
      run_ended remains ((exactly _ input before).mpr isLast) later

end EndingRuns

section CountedRuns

variable {State : Type u} {Input : Type v}
variable {step : State → Input → State}

/-- An invariant that counts the admitted inputs holds at the end of every run
of admitted inputs. -/
theorem run_counted {admitted : Input → Prop}
    {invariant : Nat → State → Prop}
    (preserved : ∀ count state input, admitted input →
      invariant count state → invariant (count + 1) (step state input))
    {count : Nat} {start : State} (initial : invariant count start)
    {inputs : List Input} (allAdmitted : ∀ input ∈ inputs, admitted input) :
    invariant (count + inputs.length) (run step start inputs) := by
  induction inputs generalizing count start with
  | nil =>
      exact initial
  | cons input rest inductionHypothesis =>
      have first :=
        preserved count start input (allAdmitted input List.mem_cons_self)
          initial
      have later :=
        inductionHypothesis first fun other member =>
          allAdmitted other (List.mem_cons_of_mem _ member)
      rw [List.length_cons, Nat.add_comm rest.length 1, ← Nat.add_assoc]
      exact later

end CountedRuns

end SixLoWPANd.Foundation
