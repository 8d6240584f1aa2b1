import SixLoWPANd.JennicModule.Runs

/-!
# The attempts of the version detection

The state machine asks for the version twice before it goes on without one.
It counts every call, also one behind a message, and starts to count where the
address discovery has stopped if that has reset the module.  In a run that
calls it only for timeouts, reports and configuration requests while the count
is below its limit, each version detection has its full chance.
-/

namespace SixLoWPANd.JennicModule

open SixLoWPANd.Foundation

namespace Entry

/-- A version report was handled. -/
def versionReported (entry : Entry) : Bool :=
  match entry.event with
  | .handled u8Message u32Length .ok => carriesVersion u8Message u32Length
  | _ => false

def ticked (entry : Entry) : Bool :=
  entry.event = .called true

/-- The state was assigned while it was `E_STATE_DETERMINE_VERSION`. -/
def leftVersion (entry : Entry) : Bool :=
  match entry.event with
  | .assigned _ => entry.daemon.eModuleState = .determineVersion
  | _ => false

end Entry

/-- A version report has been handled since the state last became
`E_STATE_DETERMINE_VERSION`. -/
def reportedSinceVersion (history : List Entry) : Prop :=
  HappenedSince (Entry.entered .determineVersion) Entry.versionReported
    history

def requestsSinceVersion (history : List Entry) : Nat :=
  countSince (Entry.entered .determineVersion)
    (Entry.wrote .versionRequest) history

def ticksSinceVersion (history : List Entry) : Nat :=
  countSince (Entry.entered .determineVersion) Entry.ticked history

/-- The version detection has had its full chance. -/
def fullChance (history : List Entry) : Prop :=
  reportedSinceVersion history ∨
    (maxVersionRetries.toNat - 1 ≤ requestsSinceVersion history ∧
      2 ≤ ticksSinceVersion history)

instance (history : List Entry) : Decidable (fullChance history) :=
  inferInstanceAs (Decidable (HappenedSince _ _ history ∨ (_ ∧ _)))

/-- The latest event is a call of the state machine.  In
`E_STATE_DETERMINE_VERSION` every call does something, so what is assigned
directly behind it is assigned by the state machine and not by a handler. -/
def behindCall (history : List Entry) : Bool :=
  match history with
  | ⟨.called _, _, _⟩ :: _ => true
  | _ => false

/-- Whenever the state machine itself has left the version detection, that had
its full chance. -/
def chancesGiven (history : List Entry) : Prop :=
  Historically
    (fun entry past =>
      entry.leftVersion = true → behindCall past = true →
        fullChance past)
    history

instance (history : List Entry) : Decidable (chancesGiven history) :=
  inferInstanceAs (Decidable (Historically _ history))

/-- In the version detection no message but a report or a configuration
request is processed, and a timeout finds attempts left. -/
def attemptsOpen (world : World) (call : ApiCall) : Prop :=
  world.daemon.eModuleState = .determineVersion →
    match call.input with
    | .message u8Message u32Length _ =>
        carriesVersion u8Message u32Length ∨
          u8Message = SLMsgType.configRequest.code
    | .timeout => world.daemon.u32Retries < maxVersionRetries
    | .tunPacket _ => True

instance (world : World) : ∀ call, Decidable (attemptsOpen world call)
  | ⟨_, .message ..⟩ => inferInstanceAs (Decidable (_ → _ ∨ _))
  | ⟨_, .timeout⟩ => inferInstanceAs (Decidable (_ → _ < _))
  | ⟨_, .tunPacket _⟩ => inferInstanceAs (Decidable (_ → True))

/-! ## Counting -/

theorem reportedSinceVersion_cons (entry : Entry) (past : List Entry) :
    reportedSinceVersion (entry :: past) ↔
      entry.entered .determineVersion = false ∧
        (entry.versionReported = true ∨ reportedSinceVersion past) :=
  happenedSince_cons _ _ _ _

theorem requestsSinceVersion_cons (entry : Entry) (past : List Entry) :
    requestsSinceVersion (entry :: past) =
      if entry.entered .determineVersion then 0
      else requestsSinceVersion past +
        if entry.wrote .versionRequest then 1 else 0 :=
  countSince_cons _ _ _ _

theorem ticksSinceVersion_cons (entry : Entry) (past : List Entry) :
    ticksSinceVersion (entry :: past) =
      if entry.entered .determineVersion then 0
      else ticksSinceVersion past + if entry.ticked then 1 else 0 :=
  countSince_cons _ _ _ _

/-- While the version is unknown and the count is below its limit, the count
is the number of requests, and `ticks` many of the calls behind them were
timeouts. -/
def attemptsCounted (daemon : Daemon) (history : List Entry)
    (ticks : Nat) : Prop :=
  daemon.sFlags.uVersionKnown = false ∧ daemon.u32Retries.toNat ≤ 2 ∧
    requestsSinceVersion history = daemon.u32Retries.toNat ∧
    daemon.u32Retries.toNat ≤ ticks

/-- What the state machine relies on when it is called. -/
def chanceReady (ledger : Ledger) : Prop :=
  ledger.daemon.eModuleState = .determineVersion →
    ledger.daemon.sFlags.uVersionKnown = true ∧
        reportedSinceVersion ledger.history ∨
      attemptsCounted ledger.daemon ledger.history
        (ticksSinceVersion ledger.history)

/-- What holds between two calls. -/
structure VersionInvariant (ledger : Ledger) : Prop where
  attempts : ledger.daemon.eModuleState = .determineVersion →
    attemptsCounted ledger.daemon ledger.history
        (ticksSinceVersion ledger.history + 1) ∨
      ¬ ledger.daemon.u32Retries < maxVersionRetries
  settled : ledger.daemon.eModuleState = .determineVersion →
    behindCall ledger.history = false
  past : chancesGiven ledger.history

namespace VersionInvariant

variable {ledger : Ledger}

theorem elsewhere
    (other : ledger.daemon.eModuleState ≠ .determineVersion)
    (past : chancesGiven ledger.history) : VersionInvariant ledger where
  attempts inState := absurd inState other
  settled inState := absurd inState other
  past := past

end VersionInvariant

/-! ## What a call records -/

theorem chancesGiven_record {ledger : Ledger} (now : Int) (event : Event)
    (kept : Entry.leftVersion ⟨event, now, ledger.daemon⟩ = false)
    (past : chancesGiven ledger.history) :
    chancesGiven (ledger.record now event).history :=
  ⟨fun left => by simp [kept] at left, past⟩

theorem chancesGiven_assign {ledger : Ledger} (now : Int)
    (next : ModuleState)
    (other : ledger.daemon.eModuleState ≠ .determineVersion)
    (past : chancesGiven ledger.history) :
    chancesGiven (ledger.assign now next).history :=
  ⟨fun left => by simp [Entry.leftVersion, other] at left, past⟩

/-- An assignment by which another state follows another state. -/
theorem VersionInvariant.assign {ledger : Ledger} (now : Int)
    {next : ModuleState} (leaves : next ≠ .determineVersion)
    (other : ledger.daemon.eModuleState ≠ .determineVersion)
    (past : chancesGiven ledger.history) :
    VersionInvariant (ledger.assign now next) :=
  .elsewhere leaves (chancesGiven_assign now next other past)

theorem chancesGiven_runModule {ledger : Ledger} (now : Int)
    (past : chancesGiven ledger.history) :
    chancesGiven (ledger.runModule now).history := by
  obtain same | ⟨u8Type, _, written⟩ := ledger.runModule_cases now
  · rw [same]
    exact past
  · rw [written]
    exact chancesGiven_record now _ rfl past

/-- What is neither an entry into the version detection nor a request, a
report or a tick changes no count. -/
theorem attemptsCounted_cons {daemon : Daemon} {entry : Entry}
    {past : List Entry} {ticks : Nat}
    (notEntered : entry.entered .determineVersion = false)
    (notRequest : entry.wrote .versionRequest = false)
    (counted : attemptsCounted daemon past ticks) :
    attemptsCounted daemon (entry :: past) ticks := by
  obtain ⟨unknown, bound, requests, enough⟩ := counted
  refine ⟨unknown, bound, ?_, enough⟩
  simpa [requestsSinceVersion_cons, notEntered, notRequest] using requests

/-- A request raises the count and the number of requests. -/
theorem attemptsCounted_request {ledger : Ledger} {now : Int}
    {ticks : Nat}
    (remaining : ledger.daemon.u32Retries + 1 < maxVersionRetries)
    (counted : attemptsCounted ledger.daemon ledger.history ticks) :
    attemptsCounted
      (ledger.daemon.setRetries (ledger.daemon.u32Retries + 1))
      (⟨.wrote .versionRequest [], now,
        ledger.daemon.setRetries (ledger.daemon.u32Retries + 1)⟩ ::
          ledger.history)
      (ticks + 1) := by
  obtain ⟨unknown, bound, requests, enough⟩ := counted
  have next : (ledger.daemon.u32Retries + 1).toNat =
      ledger.daemon.u32Retries.toNat + 1 := by
    rw [UInt32.toNat_add]
    simp only [UInt32.reduceToNat]
    omega
  rw [UInt32.lt_iff_toNat_lt, next] at remaining
  simp only [maxVersionRetries, UInt32.reduceToNat] at remaining
  refine ⟨unknown, ?_, ?_, ?_⟩
  · simp only [Daemon.setRetries, next]
    omega
  · simp [requestsSinceVersion_cons, Entry.entered, Entry.wrote,
      Daemon.setRetries, requests, next]
  · simp only [Daemon.setRetries, next]
    omega

/-- At the limit the counts amount to the full chance. -/
theorem fullChance_of_exhausted {ledger : Ledger}
    (exhausted : ¬ ledger.daemon.u32Retries + 1 < maxVersionRetries)
    (counted : attemptsCounted ledger.daemon ledger.history
      (ticksSinceVersion ledger.history)) :
    fullChance ledger.history := by
  obtain ⟨unknown, bound, requests, enough⟩ := counted
  have next : (ledger.daemon.u32Retries + 1).toNat =
      ledger.daemon.u32Retries.toNat + 1 := by
    rw [UInt32.toNat_add]
    simp only [UInt32.reduceToNat]
    omega
  rw [UInt32.lt_iff_toNat_lt, next] at exhausted
  simp only [maxVersionRetries, UInt32.reduceToNat] at exhausted
  right
  simp only [maxVersionRetries, UInt32.reduceToNat]
  omega

theorem versionInvariant_transition {before after : Ledger} {now : Int}
    {bTimeout : Bool}
    (ready : chanceReady before) (past : chancesGiven before.history)
    (transition : Transition now bTimeout before after) :
    VersionInvariant after := by
  cases transition with
  | requestVersion inState unknown remaining =>
      have counted := (ready inState).resolve_left
        (fun reported => by simp [unknown] at reported)
      refine ⟨fun _ => Or.inl ?_, fun _ => rfl,
        chancesGiven_record now _ rfl past⟩
      have ticks :
          ticksSinceVersion
              (⟨.wrote .versionRequest [], now,
                before.daemon.setRetries (before.daemon.u32Retries + 1)⟩ ::
                  before.history) =
            ticksSinceVersion before.history := by
        simp [ticksSinceVersion_cons, Entry.entered, Entry.ticked]
      have requested :=
        @attemptsCounted_request before now _ remaining counted
      rw [← ticks] at requested
      exact requested
  | presumeVersion inState unknown exhausted =>
      have counted := (ready inState).resolve_left
        (fun reported => by simp [unknown] at reported)
      have chance := fullChance_of_exhausted exhausted counted
      apply VersionInvariant.elsewhere
      · simp
      · exact ⟨fun _ _ => chance, past⟩
  | versionKnown inState known =>
      have reported := (ready inState).resolve_right
        (fun counted => by simp [counted.1] at known)
      apply VersionInvariant.elsewhere
      · simp
      · exact ⟨fun _ _ => Or.inl reported.2, past⟩
  | configureNetwork inState =>
      apply VersionInvariant.assign now (by decide)
      · simp [inState]
      · exact chancesGiven_record now _ rfl past
  | configureSecurity inState _ chosen =>
      subst chosen
      apply VersionInvariant.assign now
      · split <;> decide
      · simp [inState]
      · exact chancesGiven_record now _ rfl past
  | skipSecurity inState _ chosen =>
      subst chosen
      apply VersionInvariant.assign now
      · split <;> decide
      · simp [inState]
      · exact past
  | configureProfile inState | configureFrontEnd inState
  | activityLED inState =>
      apply VersionInvariant.assign now (by decide)
      · simp [inState]
      · exact chancesGiven_record now _ rfl past
  | skipProfile inState | skipFrontEnd inState
  | skipActivityLED inState =>
      apply VersionInvariant.assign now (by decide)
      · simp [inState]
      · exact past
  | startModule inState chosen =>
      subst chosen
      apply VersionInvariant.assign now
      · split <;> decide
      · simp [inState]
      · exact chancesGiven_runModule now past
  | startOldModule inState =>
      apply VersionInvariant.assign now (by decide)
      · simp [inState, Daemon.forgetAddress]
      · exact chancesGiven_runModule now past
  | configureFrontEndDiversity inState =>
      apply VersionInvariant.assign now (by decide)
      · simp [inState]
      · exact
          chancesGiven_record now _ rfl
            (chancesGiven_record now _ rfl past)
  | requestConfiguration inState =>
      apply VersionInvariant.elsewhere
      · simp [inState]
      · exact chancesGiven_record now _ rfl past
  | configurationKnown inState =>
      apply VersionInvariant.elsewhere
      · simp [Daemon.forgetAddress]
      · apply chancesGiven_assign now
        · simp [inState]
        · exact past
  | requestAddress inState =>
      apply VersionInvariant.elsewhere
      · simp [inState, Daemon.forgetAddress, Daemon.setRetries]
      · exact chancesGiven_record now _ rfl past
  | resetModule inState _ _ exhausted =>
      refine ⟨fun _ => Or.inr ?_, fun _ => rfl, ?_⟩
      · intro below
        apply exhausted
        apply UInt32.lt_trans below
        decide
      · apply chancesGiven_record now _ rfl
        apply chancesGiven_assign now
        · simp [inState, Daemon.setRetries]
        · exact past
  | addressKnown inState =>
      apply VersionInvariant.assign now (by decide)
      · simp [inState, Daemon.setRetries]
      · exact past
  | ping inState =>
      apply VersionInvariant.elsewhere
      · simp [inState]
      · exact chancesGiven_record now _ rfl past

/-- A case that falls through leaves the version detection. -/
theorem elsewhere_of_fall {now : Int} {bTimeout : Bool}
    {before after : Ledger}
    (falls : fallsThrough before.daemon = true)
    (transition : Transition now bTimeout before after) :
    after.daemon.eModuleState ≠ .determineVersion := by
  rcases state_of_fall falls transition with other | other | other
  · simp [other]
  · simp [other]
  · simp [other]

/-- In the version detection a call never just waits. -/
theorem elsewhere_of_wait {now : Int} {bTimeout : Bool} {daemon : Daemon}
    (waiting : waits now bTimeout daemon = true) :
    daemon.eModuleState ≠ .determineVersion := by
  intro inState
  simp [waits, inState] at waiting

theorem versionInvariant_turn {before after : Ledger} {now : Int}
    {bTimeout : Bool}
    (ready : chanceReady before) (past : chancesGiven before.history)
    (turn : Turn now bTimeout before after) : VersionInvariant after := by
  induction turn with
  | wait waiting =>
      exact .elsewhere (elsewhere_of_wait waiting) past
  | last _ transition =>
      exact versionInvariant_transition ready past transition
  | fall falls transition _ inductionHypothesis =>
      have left := elsewhere_of_fall falls transition
      exact
        inductionHypothesis (fun inState => absurd inState left)
          (versionInvariant_transition ready past transition).past

namespace VersionInvariant

variable {ledger : Ledger}

/-- What is recorded outside the state machine. -/
theorem record (invariant : VersionInvariant ledger) (now : Int)
    (event : Event)
    (notEntered :
      Entry.entered .determineVersion ⟨event, now, ledger.daemon⟩ = false)
    (notRequest :
      Entry.wrote .versionRequest ⟨event, now, ledger.daemon⟩ = false)
    (notTicked : Entry.ticked ⟨event, now, ledger.daemon⟩ = false)
    (notLeft : Entry.leftVersion ⟨event, now, ledger.daemon⟩ = false)
    (notCalled :
      behindCall (⟨event, now, ledger.daemon⟩ :: ledger.history) =
        false) :
    VersionInvariant (ledger.record now event) := by
  refine ⟨fun inState => ?_, fun _ => notCalled,
    chancesGiven_record now event notLeft invariant.past⟩
  refine (invariant.attempts inState).imp (fun counted => ?_) id
  have ticks :
      ticksSinceVersion
          (⟨event, now, ledger.daemon⟩ :: ledger.history) =
        ticksSinceVersion ledger.history := by
    simp [ticksSinceVersion_cons, notEntered, notTicked]
  rw [Ledger.record_history, ticks]
  exact attemptsCounted_cons notEntered notRequest counted

theorem complete (invariant : VersionInvariant ledger) (now : Int)
    (u8Message : UInt8) (u32Length : UInt32) (eStatus : ModuleStatus) :
    VersionInvariant
      (ledger.complete now u8Message u32Length eStatus) := by
  have recorded :=
    invariant.record now (.handled u8Message u32Length eStatus) rfl rfl rfl
      rfl rfl
  exact ⟨recorded.attempts, recorded.settled, recorded.past⟩

/-- A tick that finds attempts left is counted. -/
theorem ticked (invariant : VersionInvariant ledger) (now : Int)
    (below : ledger.daemon.eModuleState = .determineVersion →
      ledger.daemon.u32Retries < maxVersionRetries) :
    chanceReady (ledger.record now (.called true)) := by
  intro inState
  have counted :=
    (invariant.attempts inState).resolve_right
      (fun reached => reached (below inState))
  have ticks :
      ticksSinceVersion
          (⟨.called true, now, ledger.daemon⟩ :: ledger.history) =
        ticksSinceVersion ledger.history + 1 := by
    simp [ticksSinceVersion_cons, Entry.entered, Entry.ticked]
  right
  rw [Ledger.record_history, ticks]
  exact attemptsCounted_cons rfl rfl counted

/-- A handler leaves the version detection for a configuration request only,
which is not directly behind a call. -/
theorem handled {host : Host} {after : Ledger} {now : Int}
    {u8Message : UInt8} {u32Length : UInt32} {cells : Nat → UInt8}
    {eStatus : ModuleStatus} (invariant : VersionInvariant ledger)
    (handling : Handling host now u8Message u32Length cells eStatus
      ledger after) :
    chancesGiven
      (after.complete now u8Message u32Length eStatus).history := by
  apply chancesGiven_record now (.handled u8Message u32Length eStatus) rfl
  cases handling with
  | configRequest =>
      refine ⟨fun left called => ?_, invariant.past⟩
      have inState : ledger.daemon.eModuleState = .determineVersion := by
        simpa [Entry.leftVersion] using left
      rw [invariant.settled inState] at called
      contradiction
  | _ =>
      exact invariant.past

end VersionInvariant

/-- Behind a report the version is known; otherwise the version detection is
left, if its messages are restricted. -/
theorem chanceReady_of_handling {host : Host} {before after : Ledger}
    {now : Int} {u8Message : UInt8} {u32Length : UInt32}
    {cells : Nat → UInt8}
    (restricted : before.daemon.eModuleState = .determineVersion →
      carriesVersion u8Message u32Length ∨
        u8Message = SLMsgType.configRequest.code)
    (handling : Handling host now u8Message u32Length cells .ok
      before after) :
    chanceReady
      ((after.complete now u8Message u32Length .ok).record now
        (.called false)) := by
  intro inState
  by_cases reported : carriesVersion u8Message u32Length
  · have known := handling_version handling reported
    left
    constructor
    · simp [Ledger.complete, known, Daemon.reportVersion]
    · simp [Ledger.complete, reportedSinceVersion_cons, Entry.entered,
        Entry.versionReported, reported]
  · exfalso
    by_cases request : u8Message = SLMsgType.configRequest.code
    · subst request
      rw [handling_configRequest handling] at inState
      simp [Ledger.complete] at inState
    · have kept : after.daemon.eModuleState =
          before.daemon.eModuleState := by
        cases handling with
        | configRequest isRequest =>
            exact absurd isRequest request
        | _ =>
            rfl
      have inVersion : before.daemon.eModuleState = .determineVersion := by
        rw [← kept]
        exact inState
      exact (restricted inVersion).elim reported request

theorem version_effect {host : Host} {world : World} {call : ApiCall}
    {after : Ledger} (effect : Effect host call world.toLedger after)
    (attempts : attemptsOpen world call)
    (invariant : VersionInvariant world.toLedger) :
    VersionInvariant after := by
  unfold attemptsOpen at attempts
  cases effect with
  | rejected isMessage handling failed =>
      cases handling with
      | detached =>
          exact invariant.complete _ _ _ _
      | addressNotStored =>
          exact invariant.complete _ _ _ _
      | _ =>
          exact absurd rfl failed
  | processed isMessage handling turn =>
      rw [isMessage] at attempts
      apply versionInvariant_turn _ _ turn
      · exact chanceReady_of_handling attempts handling
      · exact chancesGiven_record _ _ rfl (invariant.handled handling)
  | ticked isTimeout turn =>
      rw [isTimeout] at attempts
      apply versionInvariant_turn _ _ turn
      · exact invariant.ticked _ attempts
      · exact chancesGiven_record _ _ rfl invariant.past
  | forwarded =>
      exact invariant.record _ _ rfl rfl rfl rfl rfl
  | unread =>
      exact invariant

/-- In every run whose version detections process no message but reports and
configuration requests, and whose ticks find attempts left there, the state
machine goes on from each version detection after its full chance only. -/
theorem version_attempts_given
    (host : Host) (env : Env) (settings : Settings) (calls : List ApiCall)
    (attempts : EveryStep (step host) attemptsOpen
      (started host env settings) calls) :
    chancesGiven (runFrom host env settings calls).history := by
  have begun :
      VersionInvariant (started host env settings).toLedger := by
    apply versionInvariant_turn _ _ (started_turn host env settings)
    · intro _
      right
      exact ⟨rfl, Nat.zero_le 2, rfl, Nat.zero_le _⟩
    · refine chancesGiven_record _ _ rfl ⟨fun left => ?_, trivial⟩
      simp [Entry.leftVersion, Daemon.boot] at left
  exact
    (runFrom_invariant_of_effects
      (fun _ _ _ effect attempts invariant =>
        version_effect effect attempts invariant)
      begun attempts).past

/-- A module that never answers. -/
theorem version_attempts_given_silent :
    let world :=
      runFrom sampleHost (granting 0) Settings.default
        [tickAt 1, tickAt 2]
    world.daemon.eModuleState = .configureNetwork ∧
      chancesGiven world.history :=
  ⟨by decide +kernel,
    version_attempts_given sampleHost (granting 0) Settings.default
      [tickAt 1, tickAt 2] (by decide +kernel)⟩

/-- Two log messages use up the attempts before the first timeout. -/
theorem version_attempts_used_up :
    ¬ ∀ host env settings calls,
      chancesGiven (runFrom host env settings calls).history := by
  intro always
  have given :=
    always sampleHost (granting 0) Settings.default
      [messageAt 1 .log [6, 0x48], messageAt 2 .log [6, 0x48]]
  revert given
  decide +kernel

end SixLoWPANd.JennicModule
