import SixLoWPANd.JennicModule.LiveModule

/-!
# How often the module is probed

PING frames are written in `E_STATE_RUNNING` only, and only if the last one is
more than `PING_INTERVAL` seconds old.  The time of the last one survives
resets, configuration requests and everything the module sends, so in any
window of time there are few of them, even if the clock is set back.
-/

namespace SixLoWPANd.JennicModule

open SixLoWPANd.Foundation

/-- The PING frames of the history are apart, and none is later than the last
one that the daemon remembers. -/
structure PingRate (ledger : Ledger) : Prop where
  remembered : ∀ entry ∈ ledger.history, entry.wrote .ping = true →
    entry.time ≤ ledger.daemon.sLastPing
  apart : pingsApart ledger.history

namespace PingRate

variable {now : Int} {ledger after : Ledger}

theorem quietly (rate : PingRate ledger)
    (quietly : Quietly now ledger after) : PingRate after := by
  obtain ⟨newer, history, quiet⟩ := quietly.entries
  have noPing : newer.filter (Entry.wrote .ping) = [] := by
    rw [List.filter_eq_nil_iff]
    intro entry member
    simp [notPing_of_quiet (quiet entry member).1]
  constructor
  · intro entry member written
    rw [quietly.lastPing]
    rw [history] at member
    rcases List.mem_append.mp member with isNew | isOld
    · rw [notPing_of_quiet (quiet entry isNew).1] at written
      contradiction
    · exact rate.remembered entry isOld written
  · rw [pingsApart, history, List.filter_append, noPing, List.nil_append]
    exact rate.apart

theorem record (rate : PingRate ledger) (event : Event)
    (noPing : Entry.wrote .ping ⟨event, now, ledger.daemon⟩ = false) :
    PingRate (ledger.record now event) := by
  constructor
  · intro entry member written
    rcases List.mem_cons.mp member with rfl | isOld
    · rw [noPing] at written
      contradiction
    · exact rate.remembered entry isOld written
  · rw [pingsApart, Ledger.record_history,
      List.filter_cons_of_neg (by simp [noPing])]
    exact rate.apart

/-- A PING frame that is due is apart from all the others. -/
theorem ping (rate : PingRate ledger) (due : pingDue now ledger.daemon) :
    PingRate (ledger.ping now) := by
  have since := due.2
  constructor
  · intro entry member written
    rcases List.mem_cons.mp member with rfl | isOld
    · exact Int.le_refl now
    · have before := rate.remembered entry isOld written
      have positive : 0 ≤ pingInterval := by decide
      change entry.time ≤ now
      omega
  · refine List.Pairwise.cons ?_ rate.apart
    intro entry member
    obtain ⟨isOld, written⟩ := List.mem_filter.mp member
    have before := rate.remembered entry isOld written
    change pingInterval < now - entry.time
    omega

theorem transition {bTimeout : Bool} (rate : PingRate ledger)
    (transition : Transition now bTimeout ledger after) :
    PingRate after := by
  by_cases inRunning : ledger.daemon.eModuleState = .running
  · cases transition with
    | ping _ supported due =>
        exact rate.ping ⟨supported, due⟩
    | _ inState =>
        simp [inRunning] at inState
  · exact rate.quietly (transition_quietly inRunning transition)

theorem action {host : Host} (rate : PingRate ledger)
    (action : Action host unguarded now ledger after) :
    PingRate after := by
  cases action with
  | handled handling =>
      have handled := rate.quietly (handling_quietly handling)
      exact
        ⟨(handled.record _ rfl).remembered,
          (handled.record _ rfl).apart⟩
  | called bTimeout =>
      exact rate.record _ rfl
  | transition transition =>
      exact rate.transition transition
  | forwarded payload =>
      exact rate.record _ rfl

end PingRate

theorem runFrom_pingRate (host : Host) (env : Env) (settings : Settings)
    (calls : List ApiCall) :
    PingRate (runFrom host env settings calls).toLedger := by
  apply runFrom_invariant fun now before after action rate =>
    PingRate.action rate action
  constructor
  · intro entry member written
    rw [List.mem_singleton.mp member] at written
    contradiction
  · exact List.Pairwise.nil

end SixLoWPANd.JennicModule
