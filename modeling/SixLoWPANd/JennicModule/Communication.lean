import SixLoWPANd.JennicModule.Runs

/-!
# Communication with the module

The state machine fails if the module has been silent for too long, whatever
the state, and writes PING frames in `E_STATE_RUNNING` only.  Everything else
happens quietly: no message is processed, no PING frame is written and the
times of both are kept.
-/

namespace SixLoWPANd.JennicModule

open SixLoWPANd.Foundation

namespace Entry

/-- A message was processed, with whatever status. -/
def processed (entry : Entry) : Bool :=
  match entry.event with
  | .handled .. => true
  | _ => false

/-- The state machine was called. -/
def isCall (entry : Entry) : Bool :=
  match entry.event with
  | .called _ => true
  | _ => false

/-- Neither of them, and no PING frame. -/
def quiet (entry : Entry) : Bool :=
  !entry.processed && !entry.isCall && !entry.wrote .ping

end Entry

theorem processed_of_quiet {entry : Entry} (quiet : entry.quiet = true) :
    entry.processed = false := by
  simp only [Entry.quiet, Bool.and_eq_true, Bool.not_eq_true'] at quiet
  exact quiet.1.1

theorem isCall_of_quiet {entry : Entry} (quiet : entry.quiet = true) :
    entry.isCall = false := by
  simp only [Entry.quiet, Bool.and_eq_true, Bool.not_eq_true'] at quiet
  exact quiet.1.2

theorem notPing_of_quiet {entry : Entry} (quiet : entry.quiet = true) :
    entry.wrote .ping = false := by
  simp only [Entry.quiet, Bool.and_eq_true, Bool.not_eq_true'] at quiet
  exact quiet.2

def ApiCall.time (call : ApiCall) : Int :=
  call.env.now

/-! ## The status of a call -/

/-- The module has been silent for too long. -/
def silent (daemon : Daemon) (now : Int) : Bool :=
  daemon.sFlags.uVersionKnown && daemon.sFlags.uSupportsPing &&
    decide (now - daemon.sLastSuccessfulComms > moduleTimeout)

section Status

variable (host : Host) (env : Env) (world : World)

theorem checkComms_eStatus :
    (checkComms env world).1 =
      if silent (checkComms env world).2.daemon env.now then
        .commsFailed
      else
        .ok := by
  rw [checkComms_toLedger]
  unfold checkComms silent
  by_cases tested : (world.daemon.sFlags.uVersionKnown &&
      world.daemon.sFlags.uSupportsPing) = true
  · by_cases expired :
        env.now - world.daemon.sLastSuccessfulComms > moduleTimeout
    · simp [tested, expired]
    · simp [tested, expired]
  · simp [tested]

theorem eJennicModulePing_eStatus (pu8Data : Bool) :
    (eJennicModulePing env pu8Data world).1 = .ok := by
  unfold eJennicModulePing
  split
  · split
    · rfl
    · split <;> rfl
  · rfl

/-- Every case of the `switch` ends in the communication test. -/
theorem stateMachine_checkComms (bTimeout : Bool) :
    ∃ last, eJennicModuleStateMachine host env bTimeout world =
      checkComms env last := by
  unfold eJennicModuleStateMachine
  dsimp only
  generalize world.record env (.called bTimeout) = current
  cases current.daemon.eModuleState with
  | running =>
      refine ⟨(eJennicModulePing env false current).2, ?_⟩
      simp [eJennicModulePing_eStatus]
  | _ =>
      exact ⟨_, rfl⟩

/-- The state machine fails exactly if the module is silent behind the
`switch`. -/
theorem stateMachine_eStatus (bTimeout : Bool) :
    (eJennicModuleStateMachine host env bTimeout world).1 =
      if silent
          (eJennicModuleStateMachine host env bTimeout world).2.daemon
          env.now then
        .commsFailed
      else
        .ok := by
  obtain ⟨last, checked⟩ :=
    stateMachine_checkComms host env world bTimeout
  rw [checked]
  exact checkComms_eStatus env last

/-- No handler reports a failed communication. -/
theorem handleMessage_eStatus (u8Message : UInt8) (u32Length : UInt32)
    (pu8Data : TracedMemory UInt8) :
    (handleMessage host env u8Message u32Length pu8Data world).eStatus ≠
      .commsFailed := by
  apply handleMessage_cases (motive := fun handler =>
    (handler pu8Data world).eStatus ≠ .commsFailed)
  case ipv6 =>
    intro _
    unfold eJennicModuleProcessMessageIPv6
    dsimp only
    split <;> simp [eTunDeviceWritePacket]
  case config =>
    intro _
    unfold eJennicModuleProcessMessageConfig
    split
    · simp
    · split <;> simp
  case security =>
    intro _
    unfold eJennicModuleProcessMessageSecurity
    split <;> simp
  case addr =>
    intro _
    unfold eJennicModuleProcessMessageIPv6Address
    dsimp only
    split <;> simp
  case configRequest =>
    simp [eJennicModuleProcessMessageConfigRequest]
  case log =>
    simp [eJennicModuleProcessMessageLog]
  case version =>
    simp
  case ping =>
    simp [eJennicModulePing_eStatus]
  case unknown =>
    simp

end Status

/-! ## Quiet changes -/

theorem transition_lastComms {now : Int} {bTimeout : Bool}
    {before after : Ledger}
    (transition : Transition now bTimeout before after) :
    after.daemon.sLastSuccessfulComms =
      before.daemon.sLastSuccessfulComms := by
  cases transition <;> simp [Daemon.setRetries, Daemon.forgetAddress]

theorem transition_supportsPing {now : Int} {bTimeout : Bool}
    {before after : Ledger}
    (transition : Transition now bTimeout before after) :
    after.daemon.sFlags.uSupportsPing =
      before.daemon.sFlags.uSupportsPing := by
  cases transition <;> simp [Daemon.setRetries, Daemon.forgetAddress]

theorem transition_versionKnown {now : Int} {bTimeout : Bool}
    {before after : Ledger}
    (transition : Transition now bTimeout before after) :
    after.daemon.sFlags.uVersionKnown =
      before.daemon.sFlags.uVersionKnown := by
  cases transition <;> simp [Daemon.setRetries, Daemon.forgetAddress]

/-- Nothing but quiet entries is recorded, and the time of the last PING frame
is kept. -/
structure Quietly (now : Int) (before after : Ledger) : Prop where
  lastPing : after.daemon.sLastPing = before.daemon.sLastPing
  entries : GrownBy (fun entry => entry.quiet = true ∧ entry.time = now)
    before.history after.history

namespace Quietly

variable {now : Int}

theorem refl (ledger : Ledger) : Quietly now ledger ledger where
  lastPing := rfl
  entries := .refl _

theorem trans {first second third : Ledger}
    (earlier : Quietly now first second)
    (later : Quietly now second third) : Quietly now first third where
  lastPing := later.lastPing.trans earlier.lastPing
  entries := earlier.entries.trans later.entries

variable {before ledger : Ledger}

theorem record (quietly : Quietly now before ledger) (event : Event)
    (isQuiet : Entry.quiet ⟨event, now, ledger.daemon⟩ = true) :
    Quietly now before (ledger.record now event) where
  lastPing := quietly.lastPing
  entries := quietly.entries.cons ⟨isQuiet, rfl⟩

theorem update (quietly : Quietly now before ledger)
    (change : Daemon → Daemon)
    (kept : (change ledger.daemon).sLastPing = ledger.daemon.sLastPing) :
    Quietly now before (ledger.update change) where
  lastPing := kept.trans quietly.lastPing
  entries := quietly.entries

theorem assign (quietly : Quietly now before ledger)
    (next : ModuleState) : Quietly now before (ledger.assign now next) :=
  (quietly.record (.assigned next) rfl).update _ rfl

theorem runModule (quietly : Quietly now before ledger) :
    Quietly now before (ledger.runModule now) := by
  unfold Ledger.runModule
  split
  · exact quietly.record _ rfl
  · exact quietly.record _ rfl
  · exact quietly.record _ rfl
  · exact quietly

end Quietly

theorem transition_quietly {now : Int} {bTimeout : Bool}
    {before after : Ledger}
    (outside : before.daemon.eModuleState ≠ .running)
    (transition : Transition now bTimeout before after) :
    Quietly now before after := by
  have start : Quietly now before before := .refl before
  cases transition with
  | requestVersion =>
      exact (start.update _ rfl).record _ rfl
  | requestConfiguration =>
      exact start.record _ rfl
  | requestAddress =>
      exact ((start.update _ rfl).update _ rfl).record _ rfl
  | presumeVersion | versionKnown | addressKnown =>
      exact (start.update _ rfl).assign _
  | configurationKnown =>
      exact (start.assign _).update _ rfl
  | skipSecurity | skipProfile | skipFrontEnd | skipActivityLED =>
      exact start.assign _
  | configureNetwork | configureSecurity | configureProfile
  | configureFrontEnd | activityLED =>
      exact (start.record _ rfl).assign _
  | configureFrontEndDiversity =>
      exact ((start.record _ rfl).record _ rfl).assign _
  | startModule =>
      exact start.runModule.assign _
  | startOldModule =>
      exact (start.runModule.update _ rfl).assign _
  | resetModule =>
      exact ((start.update _ rfl).assign _).record _ rfl
  | ping inState =>
      exact absurd inState outside

theorem turn_quietly {now : Int} {bTimeout : Bool}
    {before after : Ledger} (turn : Turn now bTimeout before after)
    (outside : before.daemon.eModuleState ≠ .running) :
    Quietly now before after := by
  induction turn with
  | wait =>
      exact .refl _
  | last _ transition =>
      exact transition_quietly outside transition
  | fall falls transition _ inductionHypothesis =>
      refine (transition_quietly outside transition).trans
        (inductionHypothesis ?_)
      rcases state_of_fall falls transition with other | other | other
      · simp [other]
      · simp [other]
      · simp [other]

/-- A PING frame is due. -/
def pingDue (now : Int) (daemon : Daemon) : Prop :=
  daemon.sFlags.uSupportsPing = true ∧
    now - daemon.sLastPing > pingInterval

/-- The PING frame and its time. -/
def Ledger.ping (ledger : Ledger) (now : Int) : Ledger :=
  (ledger.record now (.wrote .ping [])).update fun daemon =>
    { daemon with sLastPing := now }

/-- In `E_STATE_RUNNING` a call does nothing but write a PING frame that is
due. -/
theorem turn_running {now : Int} {bTimeout : Bool}
    {before after : Ledger} (turn : Turn now bTimeout before after)
    (inRunning : before.daemon.eModuleState = .running) :
    pingDue now before.daemon ∧ after = before.ping now ∨
      ¬ pingDue now before.daemon ∧ after = before := by
  cases turn with
  | wait waiting =>
      right
      refine ⟨fun due => ?_, rfl⟩
      simp [waits, inRunning, due.1, due.2] at waiting
  | last _ transition =>
      left
      cases transition with
      | ping _ supported due =>
          exact ⟨⟨supported, due⟩, rfl⟩
      | _ inState =>
          simp [inRunning] at inState
  | fall falls =>
      simp [fallsThrough, inRunning] at falls

/-- A handler keeps the times, and records nothing but a new state. -/
theorem handling_quietly {host : Host} {now : Int} {u8Message : UInt8}
    {u32Length : UInt32} {cells : Nat → UInt8} {eStatus : ModuleStatus}
    {before after : Ledger}
    (handling : Handling host now u8Message u32Length cells eStatus
      before after) :
    Quietly now before after := by
  cases handling with
  | detached | configIgnored | securityIgnored | addressNotStored =>
      exact .refl before
  | version | config | security | addressStored =>
      exact (Quietly.refl before).update _ rfl
  | configRequest =>
      exact (Quietly.refl before).assign _

/-! ## What a call keeps -/

/-- What every transition keeps is kept by a call of the state machine. -/
theorem turn_kept {α : Type} (field : Daemon → α) {now : Int}
    {bTimeout : Bool} {before after : Ledger}
    (kept : ∀ {earlier later : Ledger},
      Transition now bTimeout earlier later →
        field later.daemon = field earlier.daemon)
    (turn : Turn now bTimeout before after) :
    field after.daemon = field before.daemon := by
  induction turn with
  | wait =>
      rfl
  | last _ transition =>
      exact kept transition
  | fall _ transition _ inductionHypothesis =>
      exact inductionHypothesis.trans (kept transition)

/-- A processed message is communication. -/
theorem processMessage_eStatus (host : Host) (env : Env)
    (u8Message : UInt8) (u32Length : UInt32)
    (pu8Data : TracedMemory UInt8) (world : World) :
    (eJennicModuleProcessMessage host env u8Message u32Length pu8Data
      world).eStatus ≠ .commsFailed := by
  have notFailed :=
    handleMessage_eStatus host env world u8Message u32Length pu8Data
  unfold eJennicModuleProcessMessage
  dsimp only
  generalize handleMessage host env u8Message u32Length pu8Data world =
    handled at notFailed ⊢
  by_cases accepted : handled.eStatus = .ok
  · let completed : World :=
      { handled.world with
        toLedger := handled.world.toLedger.complete env.now u8Message
          u32Length .ok }
    have spoken :
        (eJennicModuleStateMachine host env false
          completed).2.daemon.sLastSuccessfulComms = env.now :=
      turn_kept Daemon.sLastSuccessfulComms transition_lastComms
        (stateMachine_turn host env false completed)
    have heard :
        silent (eJennicModuleStateMachine host env false
          completed).2.daemon env.now = false := by
      simp [silent, spoken, moduleTimeout]
    rw [if_pos accepted, accepted]
    change (eJennicModuleStateMachine host env false completed).1 ≠ _
    simp [stateMachine_eStatus, heard]
  · rw [if_neg accepted]
    exact notFailed

/-- Only a timeout tick can fail for lack of communication, and it does so
exactly if the module is silent behind it. -/
theorem status_commsFailed_iff (host : Host) (world : World)
    (call : ApiCall) :
    status host world call = .commsFailed ↔
      call.input = .timeout ∧
        silent (step host world call).daemon call.env.now = true := by
  unfold status step
  cases call.input with
  | timeout =>
      simp [stateMachine_eStatus]
  | tunPacket read =>
      simp
  | message u8Message u32Length pu8Data =>
      simp [processMessage_eStatus]

/-! ## Times of the entries -/

/-- What has been recorded between the two has been recorded at the time. -/
def recordedAt (now : Int) (before after : Ledger) : Prop :=
  GrownBy (fun entry : Entry => entry.time = now) before.history
    after.history

theorem Quietly.recordedAt {now : Int} {before after : Ledger}
    (quietly : Quietly now before after) : recordedAt now before after :=
  quietly.entries.mono fun _ quiet => quiet.2

theorem record_recordedAt (now : Int) (ledger : Ledger) (event : Event) :
    recordedAt now ledger (ledger.record now event) :=
  (GrownBy.refl ledger.history).cons rfl

theorem handling_recordedAt {host : Host} {now : Int} {u8Message : UInt8}
    {u32Length : UInt32} {cells : Nat → UInt8} {eStatus : ModuleStatus}
    {before after : Ledger}
    (handling : Handling host now u8Message u32Length cells eStatus
      before after) :
    recordedAt now before
      (after.complete now u8Message u32Length eStatus) :=
  (handling_quietly handling).recordedAt.trans
    (record_recordedAt now after _)

/-- A call of the state machine records at its own time. -/
theorem turn_recordedAt {now : Int} {bTimeout : Bool}
    {before after : Ledger}
    (turn : Turn now bTimeout (before.record now (.called bTimeout))
      after) :
    recordedAt now before after := by
  have called := record_recordedAt now before (.called bTimeout)
  by_cases inRunning : before.daemon.eModuleState = .running
  · rcases turn_running turn inRunning with ⟨_, rfl⟩ | ⟨_, rfl⟩
    · exact called.trans (record_recordedAt now _ _)
    · exact called
  · exact called.trans (turn_quietly turn inRunning).recordedAt

theorem effect_recordedAt {host : Host} {call : ApiCall}
    {before after : Ledger} (effect : Effect host call before after) :
    recordedAt call.time before after := by
  cases effect with
  | rejected _ handling =>
      exact handling_recordedAt handling
  | processed _ handling turn =>
      exact (handling_recordedAt handling).trans (turn_recordedAt turn)
  | ticked _ turn =>
      exact turn_recordedAt turn
  | forwarded =>
      exact record_recordedAt call.time before _
  | unread =>
      exact .refl _

/-- What a run records is ordered by time. -/
theorem run_ordered (host : Host) (world : World) (now : Int)
    (calls : List ApiCall) (clock : NonDecreasing ApiCall.time now calls) :
    ∃ newer, (run (step host) world calls).history =
        newer ++ world.history ∧
      newer.Pairwise (fun later earlier => earlier.time ≤ later.time) ∧
      ∀ entry ∈ newer, now ≤ entry.time ∧
        entry.time ≤ latestTime ApiCall.time now calls := by
  induction calls generalizing world now with
  | nil =>
      exact ⟨[], rfl, by simp, by simp⟩
  | cons call rest inductionHypothesis =>
      obtain ⟨ahead, clock⟩ := clock
      obtain ⟨first, history, times⟩ :=
        effect_recordedAt (step_effect host world call)
      obtain ⟨later, laterHistory, ordered, bounds⟩ :=
        inductionHypothesis (step host world call) call.time clock
      refine ⟨later ++ first, ?_, ?_, ?_⟩
      · rw [run_cons, laterHistory, history, List.append_assoc]
      · refine List.pairwise_append.mpr ⟨ordered, ?_, ?_⟩
        · apply List.pairwise_of_forall_mem_list
          intro newer inNewer older inOlder
          have sameTime : older.time = newer.time :=
            (times older inOlder).trans (times newer inNewer).symm
          exact Int.le_of_eq sameTime
        · intro newer inNewer older inOlder
          rw [times older inOlder]
          exact (bounds newer inNewer).1
      · intro entry member
        rcases List.mem_append.mp member with inLater | inFirst
        · have bound := bounds entry inLater
          exact ⟨Int.le_trans ahead bound.1, bound.2⟩
        · rw [times entry inFirst]
          exact ⟨ahead, le_latestTime clock⟩

end SixLoWPANd.JennicModule
