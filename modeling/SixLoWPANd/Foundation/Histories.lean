import Mathlib.Data.List.Basic
import Mathlib.Data.List.Infix

/-!
# Runs and histories

A deterministic machine is a step function; a run feeds it a list of inputs.
`EveryStep` states a condition on every step of a run, and `run_invariant` is
the one induction that carries an invariant through a run whose steps all meet
such a condition.

A history lists the events of a run, newest first.  `since` cuts it at the
latest marked event, and `Historically` states a property of every event
against the events before it.
-/

namespace SixLoWPANd.Foundation

universe u v

section Runs

variable {State : Type u} {Input : Type v}
variable (step : State → Input → State)

/-- The state reached after feeding all inputs in order. -/
def run (start : State) (inputs : List Input) : State :=
  inputs.foldl step start

/-- `condition` holds of every input and of the state that receives it. -/
def EveryStep (condition : State → Input → Prop) :
    State → List Input → Prop
  | _, [] => True
  | state, input :: rest =>
      condition state input ∧ EveryStep condition (step state input) rest

@[simp]
theorem run_nil (start : State) : run step start [] = start := rfl

@[simp]
theorem run_cons (start : State) (input : Input) (rest : List Input) :
    run step start (input :: rest) = run step (step start input) rest := rfl

theorem run_append (start : State) (earlier later : List Input) :
    run step start (earlier ++ later) =
      run step (run step start earlier) later :=
  List.foldl_append

variable {step}

@[simp]
theorem everyStep_nil {condition : State → Input → Prop} (state : State) :
    EveryStep step condition state [] := trivial

@[simp]
theorem everyStep_cons
    {condition : State → Input → Prop}
    (state : State) (input : Input) (rest : List Input) :
    EveryStep step condition state (input :: rest) ↔
      condition state input ∧
        EveryStep step condition (step state input) rest := Iff.rfl

theorem everyStep_append
    {condition : State → Input → Prop}
    (start : State) (earlier later : List Input) :
    EveryStep step condition start (earlier ++ later) ↔
      EveryStep step condition start earlier ∧
        EveryStep step condition (run step start earlier) later := by
  induction earlier generalizing start with
  | nil =>
      simp
  | cons input rest inductionHypothesis =>
      simp [inductionHypothesis, and_assoc]

/-- A condition that every step meets holds of every step of a run. -/
theorem everyStep_of_forall
    {condition : State → Input → Prop}
    (always : ∀ state input, condition state input)
    (start : State) (inputs : List Input) :
    EveryStep step condition start inputs := by
  induction inputs generalizing start with
  | nil =>
      trivial
  | cons input rest inductionHypothesis =>
      exact ⟨always start input, inductionHypothesis (step start input)⟩

instance decidableEveryStep
    (condition : State → Input → Prop)
    [∀ state input, Decidable (condition state input)] :
    ∀ start inputs, Decidable (EveryStep step condition start inputs)
  | _, [] => inferInstanceAs (Decidable True)
  | state, input :: rest =>
      have := decidableEveryStep condition (step state input) rest
      inferInstanceAs
        (Decidable
          (condition state input ∧
            EveryStep step condition (step state input) rest))

/-- An invariant that every admitted step preserves holds at the end of every
run of admitted steps. -/
theorem run_invariant
    {invariant : State → Prop} {condition : State → Input → Prop}
    (preserved : ∀ state input, invariant state → condition state input →
      invariant (step state input))
    {start : State} {inputs : List Input}
    (initial : invariant start)
    (admitted : EveryStep step condition start inputs) :
    invariant (run step start inputs) := by
  induction inputs generalizing start with
  | nil =>
      exact initial
  | cons input rest inductionHypothesis =>
      obtain ⟨first, later⟩ := admitted
      exact
        inductionHypothesis (preserved start input initial first) later

/-- A condition on the inputs and the states they meet, input by input. -/
theorem everyStep_of_splits
    {condition : State → Input → Prop}
    (start : State) (inputs : List Input)
    (holds : ∀ earlier input later, inputs = earlier ++ input :: later →
      condition (run step start earlier) input) :
    EveryStep step condition start inputs := by
  induction inputs generalizing start with
  | nil =>
      trivial
  | cons input rest inductionHypothesis =>
      constructor
      · exact holds [] input rest rfl
      · apply inductionHypothesis
        intro earlier later remaining split
        exact holds (input :: earlier) later remaining (by simp [split])

/-- Where a condition says exactly when a step preserves an invariant, the
invariant holds in every state of a run if and only if every step meets the
condition. -/
theorem run_invariant_iff
    {invariant : State → Prop} {condition : State → Input → Prop}
    (exactly : ∀ state input, invariant state →
      (invariant (step state input) ↔ condition state input))
    {start : State} (initial : invariant start) (inputs : List Input) :
    (∀ earlier, earlier <+: inputs → invariant (run step start earlier)) ↔
      EveryStep step condition start inputs := by
  constructor
  · intro holds
    apply everyStep_of_splits
    intro earlier input later split
    have before : invariant (run step start earlier) :=
      holds earlier ⟨input :: later, split.symm⟩
    have after : invariant (run step start (earlier ++ [input])) :=
      holds (earlier ++ [input]) ⟨later, by simp [split]⟩
    rw [run_append] at after
    exact (exactly _ input before).mp after
  · rintro admitted earlier ⟨later, rfl⟩
    have first := ((everyStep_append start earlier later).mp admitted).1
    exact
      run_invariant
        (fun state input holds met => (exactly state input holds).mpr met)
        initial first

/-! ### Counting loops -/

/-- The rule of a counting loop: an invariant of the number of turns made. -/
theorem run_range_invariant
    {turn : State → Nat → State} {invariant : Nat → State → Prop}
    (preserved : ∀ index state, invariant index state →
      invariant (index + 1) (turn state index))
    {start : State} (initial : invariant 0 start) (count : Nat) :
    invariant count (run turn start (List.range count)) := by
  induction count with
  | zero =>
      exact initial
  | succ count inductionHypothesis =>
      rw [List.range_succ, run_append]
      exact preserved count _ inductionHypothesis

/-- A counting loop that idles at every index but two makes two turns. -/
theorem run_range_two
    {turn : State → Nat → State} {first second count : Nat}
    (order : first < second) (within : second < count)
    (idle : ∀ state index, index ≠ first → index ≠ second →
      turn state index = state)
    (start : State) :
    run turn start (List.range count) =
      turn (turn start first) second := by
  let reached (index : Nat) (state : State) : Prop :=
    (index ≤ first → state = start) ∧
      (first < index → index ≤ second → state = turn start first) ∧
      (second < index → state = turn (turn start first) second)
  have initial : reached 0 start :=
    ⟨fun _ => rfl, fun passed => absurd passed (Nat.not_lt_zero _),
      fun passed => absurd passed (Nat.not_lt_zero _)⟩
  have preserved : ∀ index state, reached index state →
      reached (index + 1) (turn state index) := by
    rintro index state ⟨before, between, behind⟩
    by_cases isFirst : index = first
    · subst isFirst
      rw [before (Nat.le_refl _)]
      exact ⟨fun _ => by omega, fun _ _ => rfl, fun _ => by omega⟩
    · by_cases isSecond : index = second
      · subst isSecond
        rw [between order (Nat.le_refl _)]
        exact ⟨fun _ => by omega, fun _ _ => by omega, fun _ => rfl⟩
      · rw [idle state index isFirst isSecond]
        exact
          ⟨fun bound => before (by omega),
            fun passed bound => between (by omega) (by omega),
            fun passed => behind (by omega)⟩
  exact (run_range_invariant preserved initial count).2.2 within

/-! ### Timed runs -/

variable (time : Input → Int)

/-- The times of the inputs never decrease, from `now` on. -/
def NonDecreasing : Int → List Input → Prop
  | _, [] => True
  | now, input :: rest =>
      now ≤ time input ∧ NonDecreasing (time input) rest

/-- The time of the latest input, or `now` if there is none. -/
def latestTime : Int → List Input → Int
  | now, [] => now
  | _, input :: rest => latestTime (time input) rest

instance decidableNonDecreasing :
    ∀ now inputs, Decidable (NonDecreasing time now inputs)
  | _, [] => inferInstanceAs (Decidable True)
  | now, input :: rest =>
      have := decidableNonDecreasing (time input) rest
      inferInstanceAs
        (Decidable (now ≤ time input ∧ NonDecreasing time _ rest))

variable {time}

theorem nonDecreasing_append (now : Int) (earlier later : List Input) :
    NonDecreasing time now (earlier ++ later) ↔
      NonDecreasing time now earlier ∧
        NonDecreasing time (latestTime time now earlier) later := by
  induction earlier generalizing now with
  | nil =>
      simp [NonDecreasing, latestTime]
  | cons input rest inductionHypothesis =>
      simp [NonDecreasing, latestTime, inductionHypothesis, and_assoc]

theorem le_latestTime {now : Int} {inputs : List Input}
    (clock : NonDecreasing time now inputs) :
    now ≤ latestTime time now inputs := by
  induction inputs generalizing now with
  | nil =>
      exact Int.le_refl now
  | cons input rest inductionHypothesis =>
      exact Int.le_trans clock.1 (inductionHypothesis clock.2)

/-- An invariant of the state and the latest time that every admitted step
preserves as the clock goes on holds at the end of every run of admitted
steps. -/
theorem run_invariant_timed
    {invariant : Int → State → Prop} {condition : State → Input → Prop}
    (preserved : ∀ now state input, invariant now state →
      now ≤ time input → condition state input →
        invariant (time input) (step state input))
    {now : Int} {start : State} {inputs : List Input}
    (initial : invariant now start)
    (clock : NonDecreasing time now inputs)
    (admitted : EveryStep step condition start inputs) :
    invariant (latestTime time now inputs) (run step start inputs) := by
  induction inputs generalizing now start with
  | nil =>
      exact initial
  | cons input rest inductionHypothesis =>
      obtain ⟨ahead, clock⟩ := clock
      obtain ⟨first, later⟩ := admitted
      exact
        inductionHypothesis
          (preserved now start input initial ahead first) clock later

end Runs

section Histories

variable {Event : Type u}

/-- The events newer than the latest one that `mark` selects. -/
def since (mark : Event → Bool) : List Event → List Event
  | [] => []
  | event :: past => if mark event then [] else event :: since mark past

/-- Every event of the history is related by `property` to the events before
it. -/
def Historically (property : Event → List Event → Prop) :
    List Event → Prop
  | [] => True
  | event :: past => property event past ∧ Historically property past

@[simp]
theorem since_nil (mark : Event → Bool) : since mark [] = [] := rfl

@[simp]
theorem since_cons_of_marked
    {mark : Event → Bool} {event : Event}
    (marked : mark event = true) (past : List Event) :
    since mark (event :: past) = [] := by
  simp [since, marked]

@[simp]
theorem since_cons_of_unmarked
    {mark : Event → Bool} {event : Event}
    (unmarked : mark event = false) (past : List Event) :
    since mark (event :: past) = event :: since mark past := by
  simp [since, unmarked]

/-- A selected event has happened since the latest marked one. -/
def HappenedSince (mark selected : Event → Bool)
    (history : List Event) : Prop :=
  ∃ event ∈ since mark history, selected event = true

instance (mark selected : Event → Bool) (history : List Event) :
    Decidable (HappenedSince mark selected history) :=
  inferInstanceAs (Decidable (∃ event ∈ since mark history, _))

/-- How many selected events have happened since the latest marked one. -/
def countSince (mark selected : Event → Bool)
    (history : List Event) : Nat :=
  (since mark history).countP selected

theorem happenedSince_cons
    (mark selected : Event → Bool) (event : Event) (past : List Event) :
    HappenedSince mark selected (event :: past) ↔
      mark event = false ∧
        (selected event = true ∨ HappenedSince mark selected past) := by
  unfold HappenedSince
  by_cases marked : mark event = true
  · simp [marked]
  · simp [marked]

theorem countSince_cons
    (mark selected : Event → Bool) (event : Event) (past : List Event) :
    countSince mark selected (event :: past) =
      if mark event then 0
      else countSince mark selected past +
        if selected event then 1 else 0 := by
  unfold countSince
  by_cases marked : mark event = true
  · simp [marked]
  · simp [marked, List.countP_cons]

/-- Events that are not marked do not move the cut. -/
theorem since_append_of_unmarked
    {mark : Event → Bool} {newer : List Event}
    (unmarked : ∀ event ∈ newer, mark event = false) (past : List Event) :
    since mark (newer ++ past) = newer ++ since mark past := by
  induction newer with
  | nil =>
      rfl
  | cons event rest inductionHypothesis =>
      rw [List.cons_append, since_cons_of_unmarked (unmarked event (by simp)),
        inductionHypothesis (fun other member =>
          unmarked other (List.mem_cons_of_mem _ member)),
        List.cons_append]

/-- What is since the cut is in front of the past. -/
theorem mem_since_split
    {mark : Event → Bool} {event : Event} {history : List Event}
    (member : event ∈ since mark history) :
    ∃ newer past, history = newer ++ event :: past ∧
      ∀ other ∈ newer, mark other = false := by
  induction history with
  | nil =>
      simp at member
  | cons latest past inductionHypothesis =>
      by_cases marked : mark latest = true
      · simp [marked] at member
      · have unmarked : mark latest = false := by simpa using marked
        rw [since_cons_of_unmarked unmarked] at member
        rcases List.mem_cons.mp member with rfl | inPast
        · exact ⟨[], past, rfl, by simp⟩
        · obtain ⟨newer, older, rfl, others⟩ := inductionHypothesis inPast
          refine ⟨latest :: newer, older, rfl, ?_⟩
          intro other inNewer
          rcases List.mem_cons.mp inNewer with rfl | inNewer
          · exact unmarked
          · exact others other inNewer

@[simp]
theorem historically_nil (property : Event → List Event → Prop) :
    Historically property [] := trivial

@[simp]
theorem historically_cons
    (property : Event → List Event → Prop) (event : Event)
    (past : List Event) :
    Historically property (event :: past) ↔
      property event past ∧ Historically property past := Iff.rfl

/-- What holds of every event of a history holds of every event of an earlier
one. -/
theorem historically_of_suffix
    {property : Event → List Event → Prop} {earlier history : List Event}
    (suffix : earlier <:+ history)
    (holds : Historically property history) :
    Historically property earlier := by
  obtain ⟨newer, rfl⟩ := suffix
  induction newer with
  | nil =>
      exact holds
  | cons event rest inductionHypothesis =>
      exact inductionHypothesis holds.2

/-! ### Growing histories -/

/-- Between the two, events with the property have happened and no others. -/
def GrownBy (property : Event → Prop) (past present : List Event) :
    Prop :=
  ∃ newer, present = newer ++ past ∧ ∀ event ∈ newer, property event

namespace GrownBy

variable {property : Event → Prop} {past present future : List Event}

theorem refl (past : List Event) : GrownBy property past past :=
  ⟨[], rfl, fun _ member => absurd member List.not_mem_nil⟩

theorem trans (earlier : GrownBy property past present)
    (later : GrownBy property present future) :
    GrownBy property past future := by
  obtain ⟨older, rfl, olderHold⟩ := earlier
  obtain ⟨newer, rfl, newerHold⟩ := later
  refine ⟨newer ++ older, (List.append_assoc _ _ _).symm, ?_⟩
  intro event member
  rcases List.mem_append.mp member with isNewer | isOlder
  · exact newerHold event isNewer
  · exact olderHold event isOlder

theorem cons (grown : GrownBy property past present) {event : Event}
    (holds : property event) :
    GrownBy property past (event :: present) := by
  obtain ⟨newer, rfl, newerHold⟩ := grown
  exact
    ⟨event :: newer, rfl, List.forall_mem_cons.mpr ⟨holds, newerHold⟩⟩

theorem mono {weaker : Event → Prop}
    (implies : ∀ event, property event → weaker event)
    (grown : GrownBy property past present) :
    GrownBy weaker past present := by
  obtain ⟨newer, history, holds⟩ := grown
  exact
    ⟨newer, history, fun event member =>
      implies event (holds event member)⟩

/-- What holds of the past and of what has happened since holds of all. -/
theorem forall_mem (grown : GrownBy property past present)
    (before : ∀ event ∈ past, property event) :
    ∀ event ∈ present, property event := by
  obtain ⟨newer, rfl, holds⟩ := grown
  intro event member
  rcases List.mem_append.mp member with isNew | isOld
  · exact holds event isNew
  · exact before event isOld

end GrownBy

/-! ### Spaced events -/

/-- Events more than `gap` apart, latest first, from `start` on: with each of
them at least `gap + 1` has passed. -/
theorem length_mul_le_of_spaced {time : Event → Int} {gap start : Int}
    {latest : Event} {past : List Event}
    (apart : (latest :: past).Pairwise fun later earlier =>
      gap < time later - time earlier)
    (from_ : ∀ event ∈ latest :: past, start ≤ time event) :
    ((latest :: past).length : Int) * (gap + 1) ≤
      time latest - start + (gap + 1) := by
  induction past generalizing latest with
  | nil =>
      have first := from_ latest List.mem_cons_self
      simp only [List.length_singleton, Int.natCast_one, Int.one_mul]
      omega
  | cons previous rest inductionHypothesis =>
      obtain ⟨spaced, older⟩ := List.pairwise_cons.mp apart
      have step := spaced previous List.mem_cons_self
      have before :=
        inductionHypothesis older fun event member =>
          from_ event (List.mem_cons_of_mem _ member)
      rw [List.length_cons, Int.natCast_succ, Int.add_mul, Int.one_mul]
      omega

/-- Of events more than `gap` apart, a window of time holds at most one for
each `gap + 1`, and one more. -/
theorem window_of_spaced {time : Event → Int} {gap start : Int}
    {length : Nat} {events : List Event} (positive : 0 ≤ gap)
    (apart : events.Pairwise fun later earlier =>
      gap < time later - time earlier) :
    ((events.filter fun event =>
          decide (start ≤ time event ∧
            time event < start + length)).length : Int) * (gap + 1) ≤
      length + gap := by
  have spaced := apart.filter fun event =>
    decide (start ≤ time event ∧ time event < start + length)
  have within : ∀ event ∈ events.filter fun event =>
      decide (start ≤ time event ∧ time event < start + length),
      start ≤ time event ∧ time event < start + length := by
    intro event member
    exact of_decide_eq_true (List.mem_filter.mp member).2
  cases inWindow : events.filter fun event =>
      decide (start ≤ time event ∧ time event < start + length) with
  | nil =>
      simp only [List.length_nil, Int.natCast_zero, Int.zero_mul]
      omega
  | cons latest past =>
      rw [inWindow] at spaced within
      have last := (within latest List.mem_cons_self).2
      have counted :=
        length_mul_le_of_spaced spaced fun event member =>
          (within event member).1
      omega

instance decidableHistorically
    (property : Event → List Event → Prop)
    [∀ event past, Decidable (property event past)] :
    ∀ history, Decidable (Historically property history)
  | [] => inferInstanceAs (Decidable True)
  | event :: past =>
      have := decidableHistorically property past
      inferInstanceAs
        (Decidable (property event past ∧ Historically property past))

end Histories

end SixLoWPANd.Foundation
