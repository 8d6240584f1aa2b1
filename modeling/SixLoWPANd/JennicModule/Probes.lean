import SixLoWPANd.JennicModule.Communication

/-!
# Probes before a failure

The communication test applies in every state, PING frames are written in
`E_STATE_RUNNING` only.  A failing call always finds the last processed message
more than `MODULE_TIMEOUT` seconds old.  An unanswered PING frame precedes it
if the state machine was called in `E_STATE_RUNNING` when that message was more
than `PING_INTERVAL` seconds old.
-/

namespace SixLoWPANd.JennicModule

open SixLoWPANd.Foundation

/-- The clock starts at or after the epoch and never goes back. -/
def clockRuns (env : Env) (calls : List ApiCall) : Prop :=
  0 ≤ env.now ∧ NonDecreasing ApiCall.time env.now calls

instance (env : Env) (calls : List ApiCall) :
    Decidable (clockRuns env calls) :=
  inferInstanceAs (Decidable (_ ∧ NonDecreasing _ _ _))

/-- A PING frame has been written after the last processed message. -/
def probedSince (history : List Entry) : Prop :=
  HappenedSince Entry.processed (Entry.wrote .ping) history

instance (history : List Entry) : Decidable (probedSince history) :=
  inferInstanceAs (Decidable (HappenedSince _ _ history))

/-- After the last processed message the state machine has been called in
`E_STATE_RUNNING`, more than `PING_INTERVAL` seconds later. -/
def probeDue (history : List Entry) : Prop :=
  ∃ entry ∈ since Entry.processed history,
    (entry.isCall = true ∧ entry.daemon.eModuleState = .running) ∧
      ∀ message ∈ history, message.processed = true →
        message.time + pingInterval < entry.time

instance (history : List Entry) : Decidable (probeDue history) :=
  inferInstanceAs
    (Decidable (∃ entry ∈ since Entry.processed history,
      (_ ∧ _) ∧ ∀ message ∈ history, _ → _))

theorem probedSince_cons (entry : Entry) (past : List Entry) :
    probedSince (entry :: past) ↔
      entry.processed = false ∧
        (entry.wrote .ping = true ∨ probedSince past) :=
  happenedSince_cons _ _ _ _

theorem probedSince_append {newer past : List Entry}
    (unmarked : ∀ entry ∈ newer, entry.processed = false)
    (probed : probedSince past) : probedSince (newer ++ past) := by
  obtain ⟨ping, member, written⟩ := probed
  refine ⟨ping, ?_, written⟩
  rw [since_append_of_unmarked unmarked]
  exact List.mem_append_right _ member

/-- What the two times say about the history when the clock shows `now`. -/
structure ProbeInvariant (now : Int) (ledger : Ledger) : Prop where
  pinged : ledger.daemon.sLastPing ≤ now
  heard : ledger.daemon.sLastSuccessfulComms ≤ now
  latest : ∀ entry ∈ ledger.history, entry.processed = true →
    entry.time ≤ ledger.daemon.sLastSuccessfulComms
  known : ledger.daemon.sFlags.uVersionKnown = true →
    ∃ entry ∈ ledger.history, entry.processed = true ∧
      ledger.daemon.sLastSuccessfulComms ≤ entry.time
  probe : ledger.daemon.sLastSuccessfulComms < ledger.daemon.sLastPing →
    probedSince ledger.history
  late : ledger.daemon.sFlags.uSupportsPing = true →
    ∀ entry ∈ since Entry.processed ledger.history,
      entry.isCall = true → entry.daemon.eModuleState = .running →
        ledger.daemon.sLastSuccessfulComms + pingInterval < entry.time →
          probedSince ledger.history

namespace ProbeInvariant

variable {now later : Int} {ledger after : Ledger}

theorem wait (invariant : ProbeInvariant now ledger)
    (ahead : now ≤ later) : ProbeInvariant later ledger :=
  { invariant with
    pinged := Int.le_trans invariant.pinged ahead
    heard := Int.le_trans invariant.heard ahead }

theorem quietly (invariant : ProbeInvariant now ledger)
    (quietly : Quietly now ledger after)
    (sameComms : after.daemon.sLastSuccessfulComms =
      ledger.daemon.sLastSuccessfulComms)
    (sameFlag : after.daemon.sFlags.uSupportsPing =
      ledger.daemon.sFlags.uSupportsPing)
    (sameVersion : after.daemon.sFlags.uVersionKnown =
      ledger.daemon.sFlags.uVersionKnown) :
    ProbeInvariant now after := by
  obtain ⟨newer, history, quiet⟩ := quietly.entries
  have unmarked : ∀ entry ∈ newer, entry.processed = false :=
    fun entry inNewer => processed_of_quiet (quiet entry inNewer).1
  constructor
  · rw [quietly.lastPing]
    exact invariant.pinged
  · rw [sameComms]
    exact invariant.heard
  · intro entry member isProcessed
    rw [history] at member
    rw [sameComms]
    rcases List.mem_append.mp member with inNewer | inPast
    · rw [unmarked entry inNewer] at isProcessed
      contradiction
    · exact invariant.latest entry inPast isProcessed
  · rw [sameVersion, sameComms, history]
    intro isKnown
    obtain ⟨entry, member, isProcessed⟩ := invariant.known isKnown
    exact ⟨entry, List.mem_append_right _ member, isProcessed⟩
  · rw [sameComms, quietly.lastPing, history]
    exact fun answered =>
      probedSince_append unmarked (invariant.probe answered)
  · rw [sameFlag, sameComms, history, since_append_of_unmarked unmarked]
    intro supported entry member isCall inRunning passed
    rcases List.mem_append.mp member with inNewer | inPast
    · rw [isCall_of_quiet (quiet entry inNewer).1] at isCall
      contradiction
    · exact
        probedSince_append unmarked
          (invariant.late supported entry inPast isCall inRunning passed)

/-- The call itself; whether it is a late one is looked at with its turn. -/
theorem called (invariant : ProbeInvariant now ledger)
    {bTimeout : Bool}
    (late : ledger.daemon.sFlags.uSupportsPing = true →
      ledger.daemon.eModuleState = .running →
        ledger.daemon.sLastSuccessfulComms + pingInterval < now →
          probedSince ledger.history) :
    ProbeInvariant now (ledger.record now (.called bTimeout)) := by
  constructor
  · exact invariant.pinged
  · exact invariant.heard
  · intro entry member isProcessed
    rcases List.mem_cons.mp member with rfl | inPast
    · contradiction
    · exact invariant.latest entry inPast isProcessed
  · intro isKnown
    obtain ⟨entry, member, isProcessed⟩ := invariant.known isKnown
    exact ⟨entry, List.mem_cons_of_mem _ member, isProcessed⟩
  · exact fun answered =>
      (probedSince_cons _ _).mpr ⟨rfl, Or.inr (invariant.probe answered)⟩
  · intro supported entry member isCall inRunning passed
    rw [Ledger.record_history, since_cons_of_unmarked rfl] at member
    have probed : probedSince ledger.history := by
      rcases List.mem_cons.mp member with rfl | inPast
      · exact late supported inRunning passed
      · exact invariant.late supported entry inPast isCall inRunning passed
    exact (probedSince_cons _ _).mpr ⟨rfl, Or.inr probed⟩

/-- A PING frame answers for every call before it. -/
theorem ping (invariant : ProbeInvariant now ledger) (bTimeout : Bool) :
    ProbeInvariant now
      ((ledger.record now (.called bTimeout)).ping now) := by
  have probed : probedSince
      ((ledger.record now (.called bTimeout)).ping now).history :=
    (probedSince_cons _ _).mpr ⟨rfl, Or.inl rfl⟩
  constructor
  · exact Int.le_refl now
  · exact invariant.heard
  · intro entry member isProcessed
    rcases List.mem_cons.mp member with rfl | inPast
    · contradiction
    · rcases List.mem_cons.mp inPast with rfl | inPast
      · contradiction
      · exact invariant.latest entry inPast isProcessed
  · intro isKnown
    obtain ⟨entry, member, isProcessed⟩ := invariant.known isKnown
    exact
      ⟨entry, List.mem_cons_of_mem _ (List.mem_cons_of_mem _ member),
        isProcessed⟩
  · exact fun _ => probed
  · exact fun _ _ _ _ _ _ => probed

/-- A call of the state machine.  In `E_STATE_RUNNING` a PING frame is written
or has been written less than `PING_INTERVAL` seconds ago, then after the last
message if that is older. -/
theorem turn {bTimeout : Bool} (invariant : ProbeInvariant now ledger)
    (turn : Turn now bTimeout (ledger.record now (.called bTimeout))
      after) :
    ProbeInvariant now after := by
  by_cases inRunning : ledger.daemon.eModuleState = .running
  · rcases turn_running turn inRunning with ⟨_, rfl⟩ | ⟨notDue, rfl⟩
    · exact invariant.ping bTimeout
    · apply invariant.called
      intro supported _ passed
      have recent :
          ¬ now - ledger.daemon.sLastPing > pingInterval :=
        fun due => notDue ⟨supported, due⟩
      exact invariant.probe (by omega)
  · have called : ProbeInvariant now
        (ledger.record now (.called bTimeout)) :=
      invariant.called fun _ isRunning => absurd isRunning inRunning
    exact
      called.quietly (turn_quietly turn inRunning)
        (turn_kept Daemon.sLastSuccessfulComms transition_lastComms turn)
        (turn_kept (fun daemon => daemon.sFlags.uSupportsPing)
          transition_supportsPing turn)
        (turn_kept (fun daemon => daemon.sFlags.uVersionKnown)
          transition_versionKnown turn)

/-- A processed message starts everything anew. -/
theorem processed {host : Host} {u8Message : UInt8} {u32Length : UInt32}
    {cells : Nat → UInt8} {eStatus : ModuleStatus}
    (invariant : ProbeInvariant now ledger)
    (handling : Handling host now u8Message u32Length cells eStatus
      ledger after) :
    ProbeInvariant now (after.complete now u8Message u32Length eStatus) := by
  have kept := handling_quietly handling
  obtain ⟨newer, history, quiet⟩ := kept.entries
  have pinged : after.daemon.sLastPing ≤ now := by
    rw [kept.lastPing]
    exact invariant.pinged
  constructor
  · exact pinged
  · exact Int.le_refl now
  · intro entry member isProcessed
    rcases List.mem_cons.mp member with rfl | inPast
    · exact Int.le_refl now
    · rw [history] at inPast
      rcases List.mem_append.mp inPast with inNewer | inPast
      · rw [processed_of_quiet (quiet entry inNewer).1] at isProcessed
        contradiction
      · exact
          Int.le_trans (invariant.latest entry inPast isProcessed)
            invariant.heard
  · exact fun _ => ⟨_, List.mem_cons_self, rfl, Int.le_refl now⟩
  · exact fun answered => absurd answered (Int.not_lt.mpr pinged)
  · exact fun _ entry member => absurd member List.not_mem_nil

theorem effect {host : Host} {call : ApiCall}
    (invariant : ProbeInvariant now ledger) (ahead : now ≤ call.time)
    (effect : Effect host call ledger after) :
    ProbeInvariant call.time after := by
  have waited := invariant.wait ahead
  cases effect with
  | rejected _ handling =>
      exact waited.processed handling
  | processed _ handling turn =>
      exact (waited.processed handling).turn turn
  | ticked _ turn =>
      exact waited.turn turn
  | forwarded =>
      exact waited.quietly ((Quietly.refl _).record _ rfl) rfl rfl rfl
  | unread =>
      exact waited

end ProbeInvariant

theorem runFrom_probes (host : Host) (env : Env) (settings : Settings)
    (calls : List ApiCall) (clock : clockRuns env calls) :
    ProbeInvariant (latestTime ApiCall.time env.now calls)
      (runFrom host env settings calls).toLedger := by
  have initial : ProbeInvariant env.now (startLedger env settings) := by
    constructor
    · exact clock.1
    · exact clock.1
    · intro entry member isProcessed
      rw [List.mem_singleton.mp member] at isProcessed
      contradiction
    · exact nofun
    · exact fun answered => absurd answered (Int.lt_irrefl 0)
    · exact nofun
  exact
    @run_invariant_timed World ApiCall (step host) ApiCall.time
      (fun now world => ProbeInvariant now world.toLedger)
      (fun _ _ => True)
      (fun now world call invariant ahead _ =>
        invariant.effect ahead (step_effect host world call))
      env.now (started host env settings) calls
      (initial.turn (started_turn host env settings)) clock.2
      (everyStep_of_forall (fun _ _ => trivial) _ _)

/-- In every run with a clock that does not go back, a failing call finds no
message processed in the last `MODULE_TIMEOUT` seconds.  If a probe was due
after the last message, a PING frame has been written since in an earlier
call. -/
theorem failed_after_silence
    (host : Host) (env : Env) (settings : Settings) (calls : List ApiCall)
    (call : ApiCall) (clock : clockRuns env (calls ++ [call]))
    (failed : status host (runFrom host env settings calls) call =
      .commsFailed) :
    (∀ entry ∈
        (step host (runFrom host env settings calls) call).history,
      entry.processed = true → moduleTimeout < call.time - entry.time) ∧
      (probeDue (runFrom host env settings calls).history →
        probedSince (runFrom host env settings calls).history) := by
  obtain ⟨isTimeout, isSilent⟩ :=
    (status_commsFailed_iff host _ call).mp failed
  obtain ⟨earlier, ahead, -⟩ :=
    (nonDecreasing_append _ _ _).mp clock.2
  have before := runFrom_probes host env settings calls ⟨clock.1, earlier⟩
  have effect :=
    step_effect host (runFrom host env settings calls) call
  have behind := before.effect ahead effect
  simp only [silent, Bool.and_eq_true, decide_eq_true_eq] at isSilent
  obtain ⟨⟨isKnown, supported⟩, expired⟩ := isSilent
  constructor
  · intro entry member isProcessed
    have heard := behind.latest entry member isProcessed
    unfold ApiCall.time
    omega
  · rintro ⟨entry, member, ⟨isCall, inRunning⟩, passed⟩
    have turn := turn_of_timeout isTimeout effect
    have sameFlag :=
      turn_kept (fun daemon => daemon.sFlags.uSupportsPing)
        transition_supportsPing turn
    have sameVersion :=
      turn_kept (fun daemon => daemon.sFlags.uVersionKnown)
        transition_versionKnown turn
    obtain ⟨message, inHistory, isProcessed, heard⟩ :=
      before.known (sameVersion.symm.trans isKnown)
    have old := passed message inHistory isProcessed
    exact
      before.late (sameFlag.symm.trans supported) entry member isCall
        inRunning (by omega)

/-- A module of version 1.1.0 that is running at second 7. -/
def pingingRun : List ApiCall :=
  [messageAt 1 .version [1, 1, 0], tickAt 2, tickAt 3, tickAt 4, tickAt 5,
    messageAt 6 .config (List.replicate 16 0x20),
    messageAt 7 .addr (List.replicate 16 0x20), tickAt 18]

theorem failed_after_silence_pinged :
    probedSince
      (runFrom sampleHost (granting 0) Settings.default
        pingingRun).history :=
  (failed_after_silence sampleHost (granting 0) Settings.default
    pingingRun (tickAt 68) (by decide +kernel) (by decide +kernel)).2
      (by decide +kernel)

/-- A module of version 1.1.0 falls silent before it reports its
configuration; the state machine is called every second. -/
def unprobedRun : List ApiCall :=
  messageAt 1 .version [1, 1, 0] ::
    (List.range 60).map fun second => tickAt (second + 2)

theorem failed_without_probe :
    ¬ ∀ host env settings calls call,
      clockRuns env (calls ++ [call]) →
      status host (runFrom host env settings calls) call = .commsFailed →
      (∀ entry ∈
          (step host (runFrom host env settings calls) call).history,
        entry.processed = true →
          moduleTimeout < call.time - entry.time) ∧
        probedSince (runFrom host env settings calls).history := by
  intro always
  have probed :=
    (always sampleHost (granting 0) Settings.default unprobedRun
      (tickAt 62) (by decide +kernel) (by decide +kernel)).2
  revert probed
  decide +kernel

end SixLoWPANd.JennicModule
