import Mathlib.Logic.Function.Basic
import SixLoWPANd.Foundation.GuardedRuns

/-!
# Registrations

`ZC_RegisterService` replaces the Zeroconf thread of the last registration by
one of its own.  The two threads share the flag `iClientRunning`, the pointer
`simple_poll` and the texts of the registration.  They are taken apart into the
steps with which they read or write what they share, and these steps interleave
in every order.

No interleaving lets the Zeroconf thread use a text that has been freed, and
there are never two such threads.  But the request to quit can be lost, and then
a registration waits for a thread that does not end.
-/

namespace SixLoWPANd.Zeroconf

open SixLoWPANd.Foundation

/-! ## The two threads -/

/-- The texts of a registration. -/
inductive Text where
  | name
  | hostname
  | address
  deriving DecidableEq

namespace Text

/-- The place in the order in which they are copied and freed. -/
def place : Text → Nat
  | name => 0
  | hostname => 1
  | address => 2

def next : Text → Option Text
  | name => some hostname
  | hostname => some address
  | address => none

end Text

/-- What `simple_poll` points to: nothing, an object that may have been told to
quit, or one that has been freed. -/
inductive SimplePoll where
  | null
  | object (told : Bool)
  | freed
  deriving DecidableEq

/-- Where the main thread is in `ZC_RegisterService`. -/
inductive MainPoint where
  | outside
  | testRunning
  | clearRunning
  | testPoll
  | quitPoll
  | joining
  | freeing (text : Text)
  | copying (text : Text)
  | creating
  | setRunning
  /-- Behind the label `fail`. -/
  | givingUp (text : Text)
  /-- It has told an object to quit that is not there. -/
  | broken
  deriving DecidableEq

/-- Where the Zeroconf thread is in `pvZC_Thread`.  In `newClient` and in
`looping` its callbacks use the texts. -/
inductive ThreadPoint where
  /-- It has not been created, or it has ended. -/
  | absent
  | testRunning
  | newPoll
  | newClient
  | looping
  | freeingPoll
  | clearingPoll
  | sleeping
  deriving DecidableEq

structure Threads where
  iClientRunning : Bool
  simple_poll : SimplePoll
  /-- The texts whose storage has not been freed. -/
  allocated : Text → Bool
  main : MainPoint
  thread : ThreadPoint

namespace Threads

/-- The program when it starts. -/
def start : Threads where
  iClientRunning := false
  simple_poll := .null
  allocated _ := false
  main := .outside
  thread := .absent

def store (threads : Threads) (text : Text) (allocated : Bool)
    (main : MainPoint) : Threads :=
  { threads with
    allocated := Function.update threads.allocated text allocated
    main := main }

/-- The next step of the main thread, and whether `pthread_create` succeeds.
There is none while it waits for the end of the Zeroconf thread. -/
def mainStep (threads : Threads) (succeeds : Bool) : Option Threads :=
  match threads.main with
  | .outside => some { threads with main := .testRunning }
  | .testRunning =>
      some
        { threads with
          main :=
            if threads.iClientRunning then .clearRunning
            else .copying .name }
  | .clearRunning =>
      some { threads with iClientRunning := false, main := .testPoll }
  | .testPoll =>
      some
        { threads with
          main :=
            if threads.simple_poll = .null then .joining else .quitPoll }
  | .quitPoll =>
      match threads.simple_poll with
      | .object _ =>
          some
            { threads with simple_poll := .object true, main := .joining }
      | .null | .freed => some { threads with main := .broken }
  | .joining =>
      if threads.thread = .absent then
        some { threads with main := .freeing .name }
      else
        none
  | .freeing text =>
      some
        (threads.store text false
          ((text.next.map .freeing).getD (.copying .name)))
  | .copying text =>
      some
        (threads.store text true
          ((text.next.map .copying).getD .creating))
  | .creating =>
      if succeeds then
        some { threads with thread := .testRunning, main := .setRunning }
      else
        some { threads with main := .givingUp .name }
  | .setRunning =>
      some { threads with iClientRunning := true, main := .outside }
  | .givingUp text =>
      some
        (threads.store text false
          ((text.next.map .givingUp).getD .outside))
  | .broken => none

/-- The next step of the Zeroconf thread, and whether Avahi succeeds in it.
As long as Avahi does not fail, the loop ends only if it is told to. -/
def threadStep (threads : Threads) (succeeds : Bool) : Option Threads :=
  match threads.thread with
  | .absent => none
  | .testRunning =>
      some
        { threads with
          thread := if threads.iClientRunning then .newPoll else .absent }
  | .newPoll =>
      if succeeds then
        some
          { threads with
            simple_poll := .object false
            thread := .newClient }
      else
        some
          { threads with simple_poll := .null, thread := .testRunning }
  | .newClient =>
      some
        { threads with thread := if succeeds then .looping else .sleeping }
  | .looping =>
      if succeeds && threads.simple_poll != .object true then none
      else some { threads with thread := .freeingPoll }
  | .freeingPoll =>
      if threads.simple_poll = .null then
        some { threads with thread := .sleeping }
      else
        some
          { threads with simple_poll := .freed, thread := .clearingPoll }
  | .clearingPoll =>
      some { threads with simple_poll := .null, thread := .sleeping }
  | .sleeping => some { threads with thread := .testRunning }

end Threads

/-- A step of one of the threads. -/
structure ThreadEvent where
  ofMain : Bool
  succeeds : Bool
  deriving DecidableEq

def interleave (threads : Threads) (event : ThreadEvent) :
    Option Threads :=
  if event.ofMain then threads.mainStep event.succeeds
  else threads.threadStep event.succeeds

/-! ## What holds in every interleaving -/

/-- The texts that are allocated while the main thread is at the point. -/
def textsAt (iClientRunning : Bool) : MainPoint → Text → Bool
  | .outside, _ | .testRunning, _ => iClientRunning
  | .freeing first, text | .givingUp first, text =>
      first.place ≤ text.place
  | .copying first, text => text.place < first.place
  | _, _ => true

/-- The flag while the main thread is at the point. -/
def flagFits (iClientRunning : Bool) : MainPoint → Bool
  | .outside | .testRunning => true
  | .clearRunning => iClientRunning
  | _ => !iClientRunning

/-- Whether there may be a Zeroconf thread. -/
def mayRun (iClientRunning : Bool) : MainPoint → Bool
  | .outside | .testRunning => iClientRunning
  | .freeing _ | .givingUp _ | .copying _ | .creating => false
  | _ => true

/-- What the pointer is while the Zeroconf thread is at the point. -/
def pollFits (simple_poll : SimplePoll) : ThreadPoint → Bool
  | .newClient | .looping | .freeingPoll =>
      simple_poll = .object false ∨ simple_poll = .object true
  | .clearingPoll => simple_poll = .freed
  | _ => simple_poll ≠ .freed

structure Regular (threads : Threads) : Prop where
  texts : threads.allocated = textsAt threads.iClientRunning threads.main
  flag : flagFits threads.iClientRunning threads.main = true
  alone : threads.thread ≠ .absent →
    mayRun threads.iClientRunning threads.main = true
  poll : pollFits threads.simple_poll threads.thread = true

theorem start_regular : Regular .start where
  texts := rfl
  flag := rfl
  alone := nofun
  poll := rfl

/-- A text that is freed or copied is the next one in the order. -/
theorem update_textsAt (text : Text) (iClientRunning : Bool) :
    Function.update (textsAt iClientRunning (.freeing text)) text false =
        textsAt false ((text.next.map .freeing).getD (.copying .name)) ∧
      Function.update (textsAt iClientRunning (.copying text)) text true =
        textsAt false ((text.next.map .copying).getD .creating) ∧
      Function.update (textsAt iClientRunning (.givingUp text)) text
          false =
        textsAt false ((text.next.map .givingUp).getD .outside) := by
  refine ⟨?_, ?_, ?_⟩
  all_goals
    funext other
    cases text <;> cases other <;> rfl

/-- While the texts are freed or copied there is no Zeroconf thread. -/
theorem absent_of_alone {iClientRunning : Bool} {main : MainPoint}
    {thread : ThreadPoint}
    (alone : thread ≠ .absent → mayRun iClientRunning main = true)
    (never : mayRun iClientRunning main = false) : thread = .absent := by
  by_contra present
  rw [alone present] at never
  cases never

/-- A text is stored or freed while there is no Zeroconf thread. -/
theorem store_regular {threads : Threads} (regular : Regular threads)
    {text : Text} {allocated : Bool} {next : MainPoint}
    (never : mayRun threads.iClientRunning threads.main = false)
    (off : threads.iClientRunning = false)
    (updated :
      Function.update (textsAt threads.iClientRunning threads.main) text
        allocated = textsAt false next)
    (flag : flagFits false next = true) :
    Regular (threads.store text allocated next) where
  texts := by
    rw [Threads.store, off, ← updated, regular.texts]
  flag := by
    rw [Threads.store, off]
    exact flag
  alone := fun present =>
    absurd (absent_of_alone regular.alone never) present
  poll := regular.poll

theorem mainStep_regular {before after : Threads} {succeeds : Bool}
    (regular : Regular before)
    (stepped : before.mainStep succeeds = some after) :
    Regular after := by
  obtain ⟨iClientRunning, simple_poll, allocated, main, thread⟩ := before
  obtain ⟨texts, flag, alone, poll⟩ := regular
  dsimp only at texts flag alone poll
  subst texts
  cases main with
  | outside =>
      cases stepped
      exact ⟨rfl, flag, alone, poll⟩
  | testRunning =>
      cases stepped
      cases iClientRunning with
      | true => exact ⟨rfl, rfl, alone, poll⟩
      | false =>
          refine ⟨?_, rfl, alone, poll⟩
          funext text
          cases text <;> rfl
  | clearRunning =>
      cases stepped
      exact ⟨rfl, rfl, fun _ => rfl, poll⟩
  | testPoll =>
      cases stepped
      dsimp only
      split
      · exact ⟨rfl, flag, fun _ => rfl, poll⟩
      · exact ⟨rfl, flag, fun _ => rfl, poll⟩
  | quitPoll =>
      cases simple_poll with
      | object told =>
          cases stepped
          refine ⟨rfl, flag, fun _ => rfl, ?_⟩
          cases thread with
          | clearingPoll => exact poll
          | _ => rfl
      | null | freed =>
          cases stepped
          exact ⟨rfl, flag, fun _ => rfl, poll⟩
  | joining =>
      simp only [Threads.mainStep] at stepped
      split at stepped
      · rename_i absent
        cases stepped
        refine ⟨?_, flag, fun present => absurd absent present, poll⟩
        funext text
        cases text <;> rfl
      · cases stepped
  | freeing text =>
      cases stepped
      have off : iClientRunning = false := by simpa [flagFits] using flag
      subst off
      refine
        store_regular ⟨rfl, flag, alone, poll⟩ rfl rfl
          (update_textsAt text false).1 ?_
      cases text <;> rfl
  | copying text =>
      cases stepped
      have off : iClientRunning = false := by simpa [flagFits] using flag
      subst off
      refine
        store_regular ⟨rfl, flag, alone, poll⟩ rfl rfl
          (update_textsAt text false).2.1 ?_
      cases text <;> rfl
  | creating =>
      cases succeeds with
      | true =>
          cases stepped
          have absent := absent_of_alone alone rfl
          subst absent
          exact ⟨rfl, flag, fun _ => rfl, poll⟩
      | false =>
          cases stepped
          refine ⟨?_, flag, alone, poll⟩
          funext text
          cases text <;> rfl
  | setRunning =>
      cases stepped
      exact ⟨rfl, rfl, fun _ => rfl, poll⟩
  | givingUp text =>
      cases stepped
      have off : iClientRunning = false := by simpa [flagFits] using flag
      subst off
      refine
        store_regular ⟨rfl, flag, alone, poll⟩ rfl rfl
          (update_textsAt text false).2.2 ?_
      cases text <;> rfl
  | broken =>
      cases stepped

/-- The Zeroconf thread does not touch the texts and the flag. -/
theorem threadStep_regular {before after : Threads} {succeeds : Bool}
    (regular : Regular before)
    (stepped : before.threadStep succeeds = some after) :
    Regular after := by
  obtain ⟨iClientRunning, simple_poll, allocated, main, thread⟩ := before
  obtain ⟨texts, flag, alone, poll⟩ := regular
  dsimp only at texts flag alone poll
  subst texts
  cases thread with
  | absent =>
      cases stepped
  | testRunning =>
      cases stepped
      have present := alone nofun
      refine ⟨rfl, flag, fun _ => present, ?_⟩
      cases iClientRunning with
      | true => exact poll
      | false => exact poll
  | newPoll =>
      have present := alone nofun
      cases succeeds with
      | true =>
          cases stepped
          exact ⟨rfl, flag, fun _ => present, rfl⟩
      | false =>
          cases stepped
          exact ⟨rfl, flag, fun _ => present, rfl⟩
  | newClient =>
      have present := alone nofun
      cases stepped
      refine ⟨rfl, flag, fun _ => present, ?_⟩
      cases succeeds with
      | true => exact poll
      | false =>
          cases simple_poll with
          | object told => rfl
          | null | freed => cases poll
  | looping =>
      have present := alone nofun
      simp only [Threads.threadStep] at stepped
      split at stepped
      · cases stepped
      · cases stepped
        exact ⟨rfl, flag, fun _ => present, poll⟩
  | freeingPoll =>
      have present := alone nofun
      cases simple_poll with
      | object told =>
          cases stepped
          exact ⟨rfl, flag, fun _ => present, rfl⟩
      | null | freed => cases poll
  | clearingPoll =>
      have present := alone nofun
      cases stepped
      exact ⟨rfl, flag, fun _ => present, rfl⟩
  | sleeping =>
      have present := alone nofun
      cases stepped
      exact ⟨rfl, flag, fun _ => present, poll⟩

theorem interleave_regular {before after : Threads} {event : ThreadEvent}
    (regular : Regular before)
    (stepped : interleave before event = some after) : Regular after := by
  unfold interleave at stepped
  split at stepped
  · exact mainStep_regular regular stepped
  · exact threadStep_regular regular stepped

/-- What the interleavings reach is regular. -/
theorem reached_regular {events : List ThreadEvent} {threads : Threads}
    (reached : guardedRun interleave .start events = some threads) :
    Regular threads :=
  @guardedRun_invariant _ _ interleave Regular (fun _ => True)
    (fun regular _ => interleave_regular regular) _ _ start_regular events
    (by simp) reached

/-! ## As long as Avahi succeeds -/

/-- What the pointer is at the points of a thread that Avahi has not failed. -/
def pollSucceeds (simple_poll : SimplePoll) : ThreadPoint → Bool
  | .newClient | .looping =>
      simple_poll = .object false ∨ simple_poll = .object true
  | .freeingPoll => simple_poll = .object true
  | .clearingPoll => simple_poll = .freed
  | _ => simple_poll = .null

/-- Whether the Zeroconf thread has been told to quit and has not come back to
the test of the flag. -/
def quits (simple_poll : SimplePoll) : ThreadPoint → Bool
  | .freeingPoll | .clearingPoll | .sleeping => true
  | _ => simple_poll = .object true

structure Undisturbed (threads : Threads) : Prop where
  poll : pollSucceeds threads.simple_poll threads.thread = true
  joined : quits threads.simple_poll threads.thread = true →
    threads.main = .joining
  seen : threads.main = .quitPoll → threads.simple_poll ≠ .null
  whole : threads.main ≠ .broken

theorem start_undisturbed : Undisturbed .start where
  poll := rfl
  joined := nofun
  seen := nofun
  whole := nofun

theorem mainStep_undisturbed {before after : Threads}
    (regular : Regular before) (undisturbed : Undisturbed before)
    (stepped : before.mainStep true = some after) :
    Undisturbed after := by
  obtain ⟨iClientRunning, simple_poll, allocated, main, thread⟩ := before
  obtain ⟨-, flag, alone, -⟩ := regular
  obtain ⟨poll, joined, seen, whole⟩ := undisturbed
  dsimp only at flag alone poll joined seen whole
  have stays (other : main ≠ .joining) {next : MainPoint} :
      quits simple_poll thread = true → next = .joining :=
    fun quitting => absurd (joined quitting) other
  cases main with
  | outside | clearRunning | setRunning =>
      cases stepped
      exact ⟨poll, stays nofun, nofun, nofun⟩
  | testRunning =>
      cases stepped
      refine ⟨poll, stays nofun, ?_, ?_⟩
      · dsimp only
        split <;> exact nofun
      · dsimp only
        split <;> exact nofun
  | testPoll =>
      cases stepped
      dsimp only
      split
      · exact ⟨poll, fun _ => rfl, nofun, nofun⟩
      · rename_i there
        exact ⟨poll, stays nofun, fun _ => there, nofun⟩
  | quitPoll =>
      have there := seen rfl
      cases simple_poll with
      | object told =>
          cases stepped
          refine ⟨?_, fun _ => rfl, nofun, nofun⟩
          cases thread with
          | newClient | looping | freeingPoll => rfl
          | _ => cases poll
      | null => exact absurd rfl there
      | freed =>
          cases thread with
          | clearingPoll => cases joined rfl
          | _ => cases poll
  | joining =>
      simp only [Threads.mainStep] at stepped
      split at stepped
      · rename_i absent
        cases stepped
        subst absent
        have null : simple_poll = .null := of_decide_eq_true poll
        subst null
        exact ⟨rfl, nofun, nofun, nofun⟩
      · cases stepped
  | freeing text | copying text | givingUp text =>
      cases stepped
      refine ⟨poll, stays nofun, ?_, ?_⟩
      all_goals
        cases text <;> exact nofun
  | creating =>
      cases stepped
      have absent := absent_of_alone alone rfl
      subst absent
      exact ⟨poll, stays nofun, nofun, nofun⟩
  | broken =>
      exact absurd rfl whole

theorem threadStep_undisturbed {before after : Threads}
    (undisturbed : Undisturbed before)
    (stepped : before.threadStep true = some after) :
    Undisturbed after := by
  obtain ⟨iClientRunning, simple_poll, allocated, main, thread⟩ := before
  obtain ⟨poll, joined, seen, whole⟩ := undisturbed
  dsimp only at poll joined seen whole
  cases thread with
  | absent =>
      cases stepped
  | testRunning =>
      cases stepped
      have null : simple_poll = .null := of_decide_eq_true poll
      subst null
      cases iClientRunning with
      | true => exact ⟨rfl, nofun, seen, whole⟩
      | false => exact ⟨rfl, nofun, seen, whole⟩
  | newPoll =>
      cases stepped
      exact ⟨rfl, nofun, fun _ => nofun, whole⟩
  | newClient =>
      cases stepped
      exact ⟨poll, joined, seen, whole⟩
  | looping =>
      simp only [Threads.threadStep, Bool.true_and] at stepped
      split at stepped
      · cases stepped
      · rename_i told
        cases stepped
        have isTold : simple_poll = .object true := by simpa using told
        subst isTold
        exact ⟨rfl, fun _ => joined rfl, seen, whole⟩
  | freeingPoll =>
      have isTold : simple_poll = .object true := of_decide_eq_true poll
      subst isTold
      cases stepped
      exact ⟨rfl, fun _ => joined rfl, fun _ => nofun, whole⟩
  | clearingPoll =>
      cases stepped
      have waits := joined rfl
      exact
        ⟨rfl, fun _ => waits,
          fun quitting => absurd (waits.symm.trans quitting) nofun, whole⟩
  | sleeping =>
      cases stepped
      exact ⟨poll, fun _ => joined rfl, seen, whole⟩

theorem interleave_undisturbed {before after : Threads}
    {event : ThreadEvent} (regular : Regular before)
    (undisturbed : Undisturbed before) (succeeds : event.succeeds = true)
    (stepped : interleave before event = some after) :
    Undisturbed after := by
  unfold interleave at stepped
  rw [succeeds] at stepped
  split at stepped
  · exact mainStep_undisturbed regular undisturbed stepped
  · exact threadStep_undisturbed undisturbed stepped

/-- Where there may be a Zeroconf thread, all texts are allocated. -/
theorem textsAt_of_mayRun {iClientRunning : Bool} {main : MainPoint}
    (running : mayRun iClientRunning main = true) (text : Text) :
    textsAt iClientRunning main text = true := by
  cases main with
  | outside | testRunning => exact running
  | freeing first | givingUp first | copying first | creating =>
      cases running
  | _ => rfl

/-- In every interleaving of the two threads: a Zeroconf thread finds all texts
allocated, no text is freed twice or replaced without being freed, and a thread
is created only if there is none.  The main thread tells an object to quit that
is not there only if Avahi has failed. -/
theorem registrations_safe {events : List ThreadEvent} {threads : Threads}
    (reached : guardedRun interleave .start events = some threads) :
    (threads.thread ≠ .absent →
        ∀ text, threads.allocated text = true) ∧
      (threads.main = .creating → threads.thread = .absent) ∧
      (∀ text, threads.main = .freeing text ∨
          threads.main = .givingUp text →
        threads.allocated text = true) ∧
      (∀ text, threads.main = .copying text →
        threads.allocated text = false) ∧
      ((∀ event ∈ events, event.succeeds = true) →
        threads.main ≠ .broken) := by
  obtain ⟨texts, -, alone, -⟩ := reached_regular reached
  rw [texts]
  refine ⟨?_, ?_, ?_, ?_, ?_⟩
  · exact fun present => textsAt_of_mayRun (alone present)
  · intro creating
    rw [creating] at alone
    exact absent_of_alone alone rfl
  · rintro text (freeing | givingUp)
    · rw [freeing]
      exact decide_eq_true (Nat.le_refl _)
    · rw [givingUp]
      exact decide_eq_true (Nat.le_refl _)
  · intro text copying
    rw [copying]
    exact decide_eq_false (Nat.lt_irrefl _)
  · intro allSucceed
    have undisturbed :=
      @guardedRun_invariant _ _ interleave
        (fun threads => Regular threads ∧ Undisturbed threads)
        (fun event => event.succeeds = true)
        (fun held succeeds stepped =>
          ⟨interleave_regular held.1 stepped,
            interleave_undisturbed held.1 held.2 succeeds stepped⟩)
        _ _ ⟨start_regular, start_undisturbed⟩ events allSucceed reached
    exact undisturbed.2.whole

/-! ## The end of a registration -/

/-- The request to quit does not reach the Zeroconf thread: it is about to make
a new object, or its object has not been told. -/
def quitLost (threads : Threads) : Prop :=
  threads.thread = .newPoll ∨
    ((threads.thread = .newClient ∨ threads.thread = .looping) ∧
      threads.simple_poll = .object false)

/-- The number of steps to the end of a thread that has been told to quit. -/
def ThreadPoint.stepsToEnd : ThreadPoint → Nat
  | absent => 0
  | testRunning => 1
  | sleeping => 2
  | clearingPoll => 3
  | freeingPoll => 4
  | looping => 5
  | newClient | newPoll => 6

/-- A main thread that waits, and the steps of the thread it waits for. -/
def waitingSteps (threads : Threads) : Nat :=
  if threads.main = .joining then threads.thread.stepsToEnd + 1 else 0

/-- A lost request stays lost as long as Avahi succeeds. -/
theorem interleave_lost {before after : Threads} {event : ThreadEvent}
    (waiting : before.main = .joining) (lost : quitLost before)
    (succeeds : event.succeeds = true)
    (stepped : interleave before event = some after) :
    after.main = .joining ∧ quitLost after := by
  obtain ⟨iClientRunning, simple_poll, allocated, main, thread⟩ := before
  dsimp only at waiting
  subst waiting
  unfold interleave at stepped
  rw [succeeds] at stepped
  split at stepped
  · simp only [Threads.mainStep] at stepped
    split at stepped
    · rename_i absent
      simp [quitLost, absent] at lost
    · cases stepped
  · rcases lost with newPoll | ⟨newClient | looping, untold⟩
    · cases newPoll
      cases stepped
      exact ⟨rfl, Or.inr ⟨Or.inl rfl, rfl⟩⟩
    · cases newClient
      cases stepped
      exact ⟨rfl, Or.inr ⟨Or.inr rfl, untold⟩⟩
    · cases looping
      cases untold
      cases stepped

/-- A thread that has been told to quit comes nearer to its end. -/
theorem interleave_nearer {threads : Threads} (regular : Regular threads)
    (waiting : threads.main = .joining) (told : ¬ quitLost threads) :
    ∃ event after, event.succeeds = true ∧
      interleave threads event = some after ∧
      (Regular after ∧
        (after.main = .joining → ¬ quitLost after)) ∧
      waitingSteps after < waitingSteps threads := by
  have nearer {ofMain : Bool} {after : Threads}
      (stepped : interleave threads ⟨ofMain, true⟩ = some after)
      (stillTold : ¬ quitLost after)
      (lower : waitingSteps after < waitingSteps threads) :
      ∃ event after, event.succeeds = true ∧
        interleave threads event = some after ∧
        (Regular after ∧
          (after.main = .joining → ¬ quitLost after)) ∧
        waitingSteps after < waitingSteps threads :=
    ⟨⟨ofMain, true⟩, after, rfl, stepped,
      ⟨interleave_regular regular stepped, fun _ => stillTold⟩, lower⟩
  obtain ⟨iClientRunning, simple_poll, allocated, main, thread⟩ := threads
  obtain ⟨-, flag, -, poll⟩ := regular
  dsimp only at waiting flag poll
  subst waiting
  have off : iClientRunning = false := by simpa [flagFits] using flag
  subst off
  cases thread with
  | absent =>
      exact
        @nearer true _ rfl (by simp [quitLost])
          (by simp [waitingSteps])
  | testRunning =>
      exact
        @nearer false _ rfl (by simp [quitLost])
          (by simp [waitingSteps, ThreadPoint.stepsToEnd])
  | newPoll =>
      exact absurd (Or.inl rfl) told
  | newClient | looping =>
      have made : simple_poll = .object false ∨ simple_poll = .object true :=
        of_decide_eq_true poll
      have isTold := made.resolve_left (by simpa [quitLost] using told)
      subst isTold
      exact
        @nearer false _ rfl (by simp [quitLost])
          (by simp [waitingSteps, ThreadPoint.stepsToEnd])
  | freeingPoll =>
      cases simple_poll with
      | object told =>
          exact
            @nearer false _ rfl (by simp [quitLost])
              (by simp [waitingSteps, ThreadPoint.stepsToEnd])
      | null | freed => cases poll
  | clearingPoll | sleeping =>
      exact
        @nearer false _ rfl (by simp [quitLost])
          (by simp [waitingSteps, ThreadPoint.stepsToEnd])

/-- The main thread comes back from its wait for the Zeroconf thread, as long
as Avahi succeeds, if and only if its request to quit has not been lost. -/
theorem join_returns_iff {events : List ThreadEvent} {threads : Threads}
    (reached : guardedRun interleave .start events = some threads)
    (waiting : threads.main = .joining) :
    (∃ later final, (∀ event ∈ later, event.succeeds = true) ∧
        guardedRun interleave threads later = some final ∧
        final.main ≠ .joining) ↔
      ¬ quitLost threads := by
  constructor
  · rintro ⟨later, final, allSucceed, behind, returned⟩ lost
    have still :=
      @guardedRun_invariant _ _ interleave
        (fun threads => threads.main = .joining ∧ quitLost threads)
        (fun event => event.succeeds = true)
        (fun held succeeds stepped =>
          interleave_lost held.1 held.2 succeeds stepped)
        _ _ ⟨waiting, lost⟩ later allSucceed behind
    exact returned still.1
  · intro told
    apply
      @exists_guardedRun_of_rank _ _ interleave waitingSteps
        (fun threads =>
          Regular threads ∧ (threads.main = .joining → ¬ quitLost threads))
    · intro between good notReturned
      have stillWaiting := Classical.not_not.mp notReturned
      exact
        interleave_nearer good.1 stillWaiting (good.2 stillWaiting)
    · exact ⟨reached_regular reached, fun _ => told⟩

/-- A step of the main thread and one of the Zeroconf thread, both of which
succeed. -/
def ofMain : ThreadEvent := ⟨true, true⟩

def ofThread : ThreadEvent := ⟨false, true⟩

/-! ## The start of a thread -/

/-- With the flag set, a Zeroconf thread neither begins nor ends. -/
theorem threadStep_absent_iff {before after : Threads} {succeeds : Bool}
    (running : before.iClientRunning = true)
    (stepped : before.threadStep succeeds = some after) :
    after.iClientRunning = true ∧
      (after.thread = .absent ↔ before.thread = .absent) := by
  obtain ⟨iClientRunning, simple_poll, allocated, main, thread⟩ := before
  dsimp only at running
  subst running
  cases thread with
  | absent =>
      cases stepped
  | testRunning | clearingPoll | sleeping =>
      cases stepped
      exact ⟨rfl, by simp⟩
  | newPoll | newClient =>
      cases succeeds <;> cases stepped <;> exact ⟨rfl, by simp⟩
  | looping =>
      simp only [Threads.threadStep] at stepped
      split at stepped
      · cases stepped
      · cases stepped
        exact ⟨rfl, by simp⟩
  | freeingPoll =>
      simp only [Threads.threadStep] at stepped
      split at stepped <;> cases stepped <;> exact ⟨rfl, by simp⟩

/-- A new thread that makes steps while the flag is not set makes one, to its
end. -/
theorem window_absent_iff {created after : Threads}
    {window : List ThreadEvent}
    (ran : guardedRun interleave created window = some after)
    (ofThreads : ∀ event ∈ window, event.ofMain = false)
    (new : created.thread = .testRunning)
    (off : created.iClientRunning = false) :
    after.main = created.main ∧ (after.thread = .absent ↔ window ≠ []) := by
  cases window with
  | nil =>
      cases guardedRun_nil_iff.mp ran
      exact ⟨rfl, by simp [new]⟩
  | cons event rest =>
      obtain ⟨ended, first, later⟩ := guardedRun_cons_iff.mp ran
      have isThread := ofThreads event List.mem_cons_self
      simp only [interleave, isThread, Bool.false_eq_true, if_false,
        Threads.threadStep, new, off, Option.some.injEq] at first
      subst first
      cases rest with
      | nil =>
          cases guardedRun_nil_iff.mp later
          exact ⟨rfl, by simp⟩
      | cons other rest =>
          obtain ⟨impossible, second, -⟩ := guardedRun_cons_iff.mp later
          have alsoThread := ofThreads other (by simp)
          simp [interleave, alsoThread, Threads.threadStep] at second

/-- Behind a registration, and until the next one, its Zeroconf thread has ended
if and only if it has made a step before the flag was set. -/
theorem start_lost_iff {events window behind : List ThreadEvent}
    {threads final : Threads}
    (reached : guardedRun interleave .start events = some threads)
    (creating : threads.main = .creating)
    (ofThreads : ∀ event ∈ window ++ behind, event.ofMain = false)
    (ran :
      guardedRun interleave threads
          (ofMain :: (window ++ ofMain :: behind)) = some final) :
    final.thread = .absent ↔ window ≠ [] := by
  have regular := reached_regular reached
  have off : threads.iClientRunning = false := by
    have flag := regular.flag
    rw [creating] at flag
    simpa [flagFits] using flag
  obtain ⟨created, first, later⟩ := guardedRun_cons_iff.mp ran
  simp only [interleave, ofMain, if_true, Threads.mainStep, creating,
    Option.some.injEq] at first
  subst first
  obtain ⟨after, inWindow, rest⟩ := guardedRun_append_iff.mp later
  obtain ⟨stays, ended⟩ :=
    window_absent_iff inWindow
      (fun event member =>
        ofThreads event (List.mem_append_left _ member))
      rfl off
  obtain ⟨returned, last, untilNext⟩ := guardedRun_cons_iff.mp rest
  simp only [interleave, ofMain, if_true, Threads.mainStep, stays,
    Option.some.injEq] at last
  subst last
  have kept :=
    @guardedRun_invariant _ _ interleave
      (fun threads => threads.iClientRunning = true ∧
        (threads.thread = .absent ↔ window ≠ []))
      (fun event => event.ofMain = false)
      (by
        intro before event next held isThread stepped
        simp only [interleave, isThread, Bool.false_eq_true,
          if_false] at stepped
        obtain ⟨running, same⟩ := threadStep_absent_iff held.1 stepped
        exact ⟨running, same.trans held.2⟩)
      { after with iClientRunning := true, main := .outside } _
      ⟨rfl, ended⟩ behind
      (fun event member =>
        ofThreads event (List.mem_append_right _ member))
      untilNext
  exact kept.2

/-- The thread of the first registration is faster than the main thread. -/
theorem start_lost_iff_fast :
    ∃ final,
      guardedRun interleave
          ((guardedRun interleave .start
            (List.replicate 5 ofMain)).getD .start)
          (ofMain :: ([ofThread] ++ ofMain :: [])) = some final ∧
        final.iClientRunning = true ∧ final.thread = .absent :=
  ⟨_, rfl, rfl,
    (@start_lost_iff (List.replicate 5 ofMain) [ofThread] [] _ _ rfl rfl
      (by decide) rfl).mpr nofun⟩

/-- A service is registered, its thread goes past the test of the flag, and the
service is registered again before the thread has made its object. -/
def hastyEvents : List ThreadEvent :=
  List.replicate 7 ofMain ++ ofThread :: List.replicate 4 ofMain

theorem registrations_safe_hasty :
    ∃ threads, guardedRun interleave .start hastyEvents = some threads ∧
      threads.thread = .newPoll ∧
        ∀ text, threads.allocated text = true := by
  have reached :
      guardedRun interleave .start hastyEvents =
        some ((guardedRun interleave .start hastyEvents).getD .start) :=
    rfl
  exact ⟨_, reached, rfl, (registrations_safe reached).1 nofun⟩

/-- A registration that waits for ever. -/
theorem join_returns_iff_hasty :
    ∃ threads, guardedRun interleave .start hastyEvents = some threads ∧
      threads.main = .joining ∧
        ∀ later final, (∀ event ∈ later, event.succeeds = true) →
          guardedRun interleave threads later = some final →
            final.main = .joining := by
  have reached :
      guardedRun interleave .start hastyEvents =
        some ((guardedRun interleave .start hastyEvents).getD .start) :=
    rfl
  refine ⟨_, reached, rfl, fun later final allSucceed behind => ?_⟩
  by_contra returned
  exact
    (join_returns_iff reached rfl).mp
      ⟨later, final, allSucceed, behind, returned⟩ (Or.inl rfl)

end SixLoWPANd.Zeroconf
