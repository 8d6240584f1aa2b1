import SixLoWPANd.JennicModule.StartOrder

/-!
# The complete configuration

Each step of the start-up decides by the version held at that moment whether
its frame is written.  `completelyConfigured` says of a history that all frames
have been written which the version supports.  A report that raises the
version when the step of a frame has passed leaves the frame out; in every run
without such a report the module counts as running with a complete
configuration only.
-/

namespace SixLoWPANd.JennicModule

open SixLoWPANd.Foundation

def writtenSinceConfig (u8Type : SLMsgType) (history : List Entry) :
    Prop :=
  HappenedSince (Entry.wrote .config) (Entry.wrote u8Type) history

/-- A PROFILE frame has been written since the last CONFIG frame, with no RUN
frame between the two. -/
def profileBeforeRun : List Entry → Prop
  | [] => False
  | entry :: past =>
      entry.wrote .config = false ∧
        ((entry.wrote .profile = true ∧ runsSinceConfig past = 0) ∨
          profileBeforeRun past)

instance (u8Type : SLMsgType) (history : List Entry) :
    Decidable (writtenSinceConfig u8Type history) :=
  inferInstanceAs (Decidable (HappenedSince _ _ history))

instance decidableProfileBeforeRun :
    ∀ history, Decidable (profileBeforeRun history)
  | [] => inferInstanceAs (Decidable False)
  | _ :: past =>
      have := decidableProfileBeforeRun past
      inferInstanceAs (Decidable (_ ∧ ((_ ∧ _) ∨ profileBeforeRun past)))

/-! ## What the version asks for -/

def profiled (daemon : Daemon) (history : List Entry) : Prop :=
  daemon.atLeast 1 1 0 = true → profileBeforeRun history

def frontEndSet (daemon : Daemon) (history : List Entry) : Prop :=
  daemon.atLeast 1 4 0 = true →
    writtenSinceConfig .setRadioFrontend history ∧
      (daemon.iAntennaDiversity ≠ 0 →
        writtenSinceConfig .enableDiversity history)

def ledSet (daemon : Daemon) (history : List Entry) : Prop :=
  daemon.atLeast 1 3 0 = true → daemon.eActivityLED ≠ activityLEDNone →
    writtenSinceConfig .activityLED history

/-- All frames that the version supports and the settings ask for have been
written since the last CONFIG frame. -/
def completelyConfigured (daemon : Daemon) (history : List Entry) : Prop :=
  profiled daemon history ∧ frontEndSet daemon history ∧
    ledSet daemon history

instance (daemon : Daemon) (history : List Entry) :
    Decidable (completelyConfigured daemon history) :=
  inferInstanceAs
    (Decidable ((_ → _) ∧ (_ → _ ∧ (_ → _)) ∧ (_ → _ → _)))

/-- The states behind the step of the PROFILE frame. -/
def behindProfile (eModuleState : ModuleState) : Prop :=
  eModuleState = .startModule ∨ eModuleState = .configureFrontend ∨
    eModuleState = .determineConfiguration ∨
    eModuleState = .determineAddress ∨ eModuleState = .activityLED

/-- The states behind the step of the SET_RADIO_FRONTEND frame. -/
def behindFrontEnd (eModuleState : ModuleState) : Prop :=
  eModuleState = .determineConfiguration ∨
    eModuleState = .determineAddress ∨ eModuleState = .activityLED

instance (eModuleState : ModuleState) :
    Decidable (behindProfile eModuleState) :=
  inferInstanceAs (Decidable (_ ∨ _ ∨ _ ∨ _ ∨ _))

instance (eModuleState : ModuleState) :
    Decidable (behindFrontEnd eModuleState) :=
  inferInstanceAs (Decidable (_ ∨ _ ∨ _))

/-- A report does not raise the version to one that supports a frame whose
step has passed. -/
def raisesInTime (before after : Daemon) : Prop :=
  (behindProfile before.eModuleState → after.atLeast 1 1 0 = true →
      before.atLeast 1 1 0 = true) ∧
    (behindFrontEnd before.eModuleState → after.atLeast 1 4 0 = true →
      before.atLeast 1 4 0 = true)

instance (before after : Daemon) : Decidable (raisesInTime before after) :=
  inferInstanceAs (Decidable ((_ → _ → _) ∧ (_ → _ → _)))

/-- No report comes too late. -/
def reportsInTime (world : World) (call : ApiCall) : Prop :=
  match call.input with
  | .message u8Message u32Length pu8Data =>
      carriesVersion u8Message u32Length →
        raisesInTime world.daemon
          (world.daemon.reportVersion (pu8Data 0) (pu8Data 1)
            (pu8Data 2))
  | _ => True

instance (world : World) : ∀ call, Decidable (reportsInTime world call)
  | ⟨_, .message ..⟩ => inferInstanceAs (Decidable (_ → _))
  | ⟨_, .timeout⟩ => inferInstanceAs (Decidable True)
  | ⟨_, .tunPacket _⟩ => inferInstanceAs (Decidable True)

/-! ## Later entries -/

theorem writtenSinceConfig_cons (u8Type : SLMsgType) (entry : Entry)
    (past : List Entry) :
    writtenSinceConfig u8Type (entry :: past) ↔
      entry.wrote .config = false ∧
        (entry.wrote u8Type = true ∨ writtenSinceConfig u8Type past) :=
  happenedSince_cons _ _ _ _

section Later

variable {daemon : Daemon} {entry : Entry} {past : List Entry}
variable (notConfig : entry.wrote .config = false)

include notConfig

theorem profiled_cons (before : profiled daemon past) :
    profiled daemon (entry :: past) :=
  fun supported => ⟨notConfig, Or.inr (before supported)⟩

theorem frontEndSet_cons (before : frontEndSet daemon past) :
    frontEndSet daemon (entry :: past) := by
  intro supported
  obtain ⟨frontEnd, diversity⟩ := before supported
  exact
    ⟨(writtenSinceConfig_cons _ _ _).mpr ⟨notConfig, Or.inr frontEnd⟩,
      fun diverse =>
        (writtenSinceConfig_cons _ _ _).mpr
          ⟨notConfig, Or.inr (diversity diverse)⟩⟩

end Later

/-! ## The invariant -/

/-- What has been written in each state. -/
def completionPhase (daemon : Daemon) (history : List Entry) : Prop :=
  match daemon.eModuleState with
  | .configureSecurity | .configureProfile => runsSinceConfig history = 0
  | .startModule | .configureFrontend => profiled daemon history
  | .determineConfiguration | .determineAddress | .activityLED =>
      profiled daemon history ∧ frontEndSet daemon history
  | _ => True

structure CompletionInvariant (ledger : Ledger) : Prop where
  phase : completionPhase ledger.daemon ledger.history
  past : Historically
    (fun entry past => entry.entered .running = true →
      completelyConfigured entry.daemon past)
    ledger.history

theorem completionPhase_cons {daemon : Daemon} {entry : Entry}
    {past : List Entry} (phase : completionPhase daemon past)
    (notConfig : entry.wrote .config = false)
    (notRun : entry.wroteRun = false) :
    completionPhase daemon (entry :: past) := by
  unfold completionPhase at phase ⊢
  split
  case h_1 inState | h_2 inState =>
    rw [inState] at phase
    simpa [runsSinceConfig_cons, notConfig, notRun] using phase
  case h_3 inState | h_4 inState =>
    rw [inState] at phase
    exact profiled_cons notConfig phase
  case h_5 inState | h_6 inState | h_7 inState =>
    rw [inState] at phase
    exact
      ⟨profiled_cons notConfig phase.1,
        frontEndSet_cons notConfig phase.2⟩
  case h_8 =>
    trivial

namespace CompletionInvariant

variable {ledger : Ledger}

theorem record (invariant : CompletionInvariant ledger) (now : Int)
    (event : Event)
    (notConfig :
      Entry.wrote .config ⟨event, now, ledger.daemon⟩ = false)
    (notRun : Entry.wroteRun ⟨event, now, ledger.daemon⟩ = false)
    (notEntered :
      Entry.entered .running ⟨event, now, ledger.daemon⟩ = false) :
    CompletionInvariant (ledger.record now event) where
  phase := completionPhase_cons invariant.phase notConfig notRun
  past :=
    ⟨fun entered => by simp [notEntered] at entered, invariant.past⟩

theorem update (invariant : CompletionInvariant ledger)
    (change : Daemon → Daemon)
    (phase : completionPhase (change ledger.daemon) ledger.history) :
    CompletionInvariant (ledger.update change) where
  phase := phase
  past := invariant.past

theorem assign {ledger : Ledger} (now : Int) (next : ModuleState)
    (past : Historically
      (fun entry past => entry.entered .running = true →
        completelyConfigured entry.daemon past)
      ledger.history)
    (phase :
      completionPhase { ledger.daemon with eModuleState := next }
        ledger.history)
    (notRunning : next ≠ .running) :
    CompletionInvariant (ledger.assign now next) where
  phase := completionPhase_cons phase rfl rfl
  past := by
    refine ⟨fun entered => ?_, past⟩
    simp [Entry.entered, notRunning] at entered

theorem assignRunning {ledger : Ledger} (now : Int)
    (past : Historically
      (fun entry past => entry.entered .running = true →
        completelyConfigured entry.daemon past)
      ledger.history)
    (complete : completelyConfigured ledger.daemon ledger.history) :
    CompletionInvariant (ledger.assign now .running) where
  phase := trivial
  past := ⟨fun _ => complete, past⟩

/-- A frame keeps the past, whatever it is. -/
theorem pastWritten (invariant : CompletionInvariant ledger) (now : Int)
    (u8Type : SLMsgType) (payload : List UInt8) :
    Historically
      (fun entry past => entry.entered .running = true →
        completelyConfigured entry.daemon past)
      (ledger.record now (.wrote u8Type payload)).history :=
  ⟨(nomatch ·), invariant.past⟩

theorem unstarted (invariant : CompletionInvariant ledger)
    (inState : ledger.daemon.eModuleState = .configureSecurity ∨
      ledger.daemon.eModuleState = .configureProfile) :
    runsSinceConfig ledger.history = 0 := by
  rcases inState with inState | inState
  · simpa [completionPhase, inState] using invariant.phase
  · simpa [completionPhase, inState] using invariant.phase

theorem written (invariant : CompletionInvariant ledger)
    (inState : ledger.daemon.eModuleState = .startModule ∨
      ledger.daemon.eModuleState = .configureFrontend) :
    profiled ledger.daemon ledger.history := by
  rcases inState with inState | inState
  · simpa [completionPhase, inState] using invariant.phase
  · simpa [completionPhase, inState] using invariant.phase

theorem configured (invariant : CompletionInvariant ledger)
    (inState : ledger.daemon.eModuleState = .determineConfiguration ∨
      ledger.daemon.eModuleState = .determineAddress ∨
      ledger.daemon.eModuleState = .activityLED) :
    profiled ledger.daemon ledger.history ∧
      frontEndSet ledger.daemon ledger.history := by
  rcases inState with inState | inState | inState
  · simpa [completionPhase, inState] using invariant.phase
  · simpa [completionPhase, inState] using invariant.phase
  · simpa [completionPhase, inState] using invariant.phase

/-- The start of the module keeps what has been written. -/
theorem runModule (invariant : CompletionInvariant ledger) (now : Int)
    (inState : ledger.daemon.eModuleState = .startModule) :
    CompletionInvariant (ledger.runModule now) := by
  have written := invariant.written (Or.inl inState)
  obtain same | ⟨u8Type, isRun, run⟩ := ledger.runModule_cases now
  · rw [same]
    exact invariant
  · have notConfig :
        Entry.wrote .config
          ⟨.wrote u8Type [], now, ledger.daemon⟩ = false := by
      have chosen := isRun now ledger.daemon
      cases u8Type <;> simp_all [Entry.wroteRun, Entry.wrote]
    rw [run]
    constructor
    · simpa [completionPhase, inState] using
        profiled_cons notConfig written
    · exact invariant.pastWritten now u8Type []

theorem transition {after : Ledger} {now : Int} {bTimeout : Bool}
    (invariant : CompletionInvariant ledger)
    (transition : Transition now bTimeout ledger after) :
    CompletionInvariant after := by
  have phase := invariant.phase
  cases transition with
  | requestVersion inState =>
      refine (invariant.update _ ?_).record now _ rfl rfl rfl
      simp [completionPhase, Daemon.setRetries, inState]
  | presumeVersion | versionKnown =>
      exact assign now _ invariant.past trivial (by decide)
  | configureNetwork =>
      apply assign now _ (invariant.pastWritten now _ _) _ (by decide)
      simp [completionPhase, runsSinceConfig_cons, Entry.wrote]
  | configureSecurity inState _ chosen =>
      have unstarted := invariant.unstarted (Or.inl inState)
      subst chosen
      apply assign now _ (invariant.pastWritten now _ _)
      · split
        · simpa [completionPhase, runsSinceConfig_cons, Entry.wrote,
            Entry.wroteRun] using unstarted
        · next unsupported =>
            exact fun supported => absurd supported unsupported
      · split <;> decide
  | skipSecurity inState _ chosen =>
      have unstarted := invariant.unstarted (Or.inl inState)
      subst chosen
      apply assign now _ invariant.past
      · split
        · exact unstarted
        · next unsupported =>
            exact fun supported => absurd supported unsupported
      · split <;> decide
  | configureProfile inState =>
      have unstarted := invariant.unstarted (Or.inr inState)
      apply assign now _ (invariant.pastWritten now _ _) _ (by decide)
      exact fun _ => ⟨rfl, Or.inl ⟨rfl, unstarted⟩⟩
  | skipProfile inState unsupported =>
      apply assign now _ invariant.past _ (by decide)
      exact fun supported =>
        absurd (unsupported.symm.trans supported) Bool.false_ne_true
  | startModule inState chosen =>
      have run := invariant.runModule now inState
      have written : profiled ledger.daemon
          (ledger.runModule now).history := by
        simpa [completionPhase, inState] using run.phase
      subst chosen
      apply assign now _ run.past
      · simp only [Ledger.runModule_daemon]
        split
        · exact written
        · next unsupported =>
            exact
              ⟨written, fun supported => absurd supported unsupported⟩
      · split <;> decide
  | startOldModule inState noFrontEnd unsupported =>
      have run := invariant.runModule now inState
      refine assign now _ run.past ?_ (by decide)
      simp only [Ledger.update_daemon, Ledger.runModule_daemon]
      exact
        ⟨fun supported =>
            absurd (unsupported.symm.trans supported) Bool.false_ne_true,
          fun supported =>
            absurd (noFrontEnd.symm.trans supported) Bool.false_ne_true⟩
  | configureFrontEnd inState _ single =>
      have written := invariant.written (Or.inr inState)
      apply assign now _ (invariant.pastWritten now _ _) _ (by decide)
      refine ⟨profiled_cons rfl written, fun _ => ⟨?_, ?_⟩⟩
      · exact (writtenSinceConfig_cons _ _ _).mpr ⟨rfl, Or.inl rfl⟩
      · exact fun diverse => absurd single diverse
  | configureFrontEndDiversity inState =>
      have written := invariant.written (Or.inr inState)
      have frontEnd :=
        invariant.record now
          (.wrote .setRadioFrontend [ledger.daemon.eRadioFrontEnd.code])
          rfl rfl rfl
      apply assign now _ (frontEnd.pastWritten now _ _) _ (by decide)
      refine ⟨profiled_cons rfl (profiled_cons rfl written),
        fun _ => ⟨?_, fun _ => ?_⟩⟩
      · exact
          (writtenSinceConfig_cons _ _ _).mpr
            ⟨rfl, Or.inr
              ((writtenSinceConfig_cons _ _ _).mpr ⟨rfl, Or.inl rfl⟩)⟩
      · exact (writtenSinceConfig_cons _ _ _).mpr ⟨rfl, Or.inl rfl⟩
  | skipFrontEnd inState unsupported =>
      have written := invariant.written (Or.inr inState)
      apply assign now _ invariant.past _ (by decide)
      exact
        ⟨written,
          fun supported =>
            absurd (unsupported.symm.trans supported) Bool.false_ne_true⟩
  | requestConfiguration =>
      exact invariant.record now _ rfl rfl rfl
  | configurationKnown inState =>
      obtain ⟨written, frontEnd⟩ := invariant.configured (Or.inl inState)
      have located : CompletionInvariant
          (ledger.assign now .determineAddress) :=
        assign now _ invariant.past ⟨written, frontEnd⟩ (by decide)
      exact located.update _ located.phase
  | requestAddress inState =>
      apply CompletionInvariant.record _ now _ rfl rfl rfl
      exact (invariant.update _ phase).update _ phase
  | resetModule =>
      apply CompletionInvariant.record _ now _ rfl rfl rfl
      exact assign now _ invariant.past trivial (by decide)
  | addressKnown inState =>
      obtain ⟨written, frontEnd⟩ :=
        invariant.configured (Or.inr (Or.inl inState))
      have cleared := invariant.update (Daemon.setRetries 0) phase
      exact assign now _ cleared.past ⟨written, frontEnd⟩ (by decide)
  | activityLED inState =>
      obtain ⟨written, frontEnd⟩ :=
        invariant.configured (Or.inr (Or.inr inState))
      apply assignRunning now (invariant.pastWritten now _ _)
      refine ⟨profiled_cons rfl written, frontEndSet_cons rfl frontEnd,
        fun _ _ => ?_⟩
      exact (writtenSinceConfig_cons _ _ _).mpr ⟨rfl, Or.inl rfl⟩
  | skipActivityLED inState without =>
      obtain ⟨written, frontEnd⟩ :=
        invariant.configured (Or.inr (Or.inr inState))
      apply assignRunning now invariant.past
      exact
        ⟨written, frontEnd,
          fun supported configured =>
            absurd ⟨supported, configured⟩ without⟩
  | ping inState =>
      refine (invariant.record now _ rfl rfl rfl).update _ ?_
      simp [completionPhase, inState]

theorem complete (invariant : CompletionInvariant ledger) (now : Int)
    (u8Message : UInt8) (u32Length : UInt32) (eStatus : ModuleStatus) :
    CompletionInvariant
      (ledger.complete now u8Message u32Length eStatus) :=
  let recorded := invariant.record now
    (.handled u8Message u32Length eStatus) rfl rfl rfl
  recorded.update _ recorded.phase

/-- A report in time asks for nothing that has not been written. -/
theorem report (invariant : CompletionInvariant ledger)
    (major minor revision : UInt8)
    (inTime : raisesInTime ledger.daemon
      (ledger.daemon.reportVersion major minor revision)) :
    CompletionInvariant
      (ledger.update (Daemon.reportVersion major minor revision)) := by
  apply invariant.update
  obtain ⟨profile, frontEnd⟩ := inTime
  have phase := invariant.phase
  unfold completionPhase at phase ⊢
  have sameState :
      (ledger.daemon.reportVersion major minor revision).eModuleState =
        ledger.daemon.eModuleState := rfl
  rw [sameState]
  cases inState : ledger.daemon.eModuleState with
  | configureSecurity | configureProfile =>
      simpa [inState] using phase
  | startModule | configureFrontend =>
      rw [inState] at phase
      intro supported
      exact phase (profile (by simp [behindProfile, inState]) supported)
  | determineConfiguration | determineAddress | activityLED =>
      rw [inState] at phase
      constructor
      · intro supported
        exact
          phase.1 (profile (by simp [behindProfile, inState]) supported)
      · intro supported
        exact
          phase.2
            (frontEnd (by simp [behindFrontEnd, inState]) supported)
  | idle | determineVersion | configureNetwork | running =>
      trivial

theorem handling {host : Host} {after : Ledger} {now : Int}
    {u8Message : UInt8} {u32Length : UInt32} {cells : Nat → UInt8}
    {eStatus : ModuleStatus} (invariant : CompletionInvariant ledger)
    (inTime : carriesVersion u8Message u32Length →
      raisesInTime ledger.daemon
        (ledger.daemon.reportVersion (cells 0) (cells 1) (cells 2)))
    (handling : Handling host now u8Message u32Length cells eStatus
      ledger after) :
    CompletionInvariant
      (after.complete now u8Message u32Length eStatus) := by
  apply CompletionInvariant.complete
  cases handling with
  | detached | configIgnored | securityIgnored | addressNotStored =>
      exact invariant
  | version reported =>
      exact invariant.report _ _ _ (inTime reported)
  | config | security | addressStored =>
      exact invariant.update _ invariant.phase
  | configRequest =>
      exact assign now _ invariant.past trivial (by decide)

theorem effect {host : Host} {world : World} {call : ApiCall}
    {after : Ledger} (effect : Effect host call world.toLedger after)
    (inTime : reportsInTime world call)
    (invariant : CompletionInvariant world.toLedger) :
    CompletionInvariant after := by
  refine effect_preserves ?_ ?_ ?_ ?_ effect invariant
  · intro u8Message u32Length pu8Data eStatus handled isMessage handling
    unfold reportsInTime at inTime
    rw [isMessage] at inTime
    exact invariant.handling inTime handling
  · intro ledger bTimeout invariant
    exact invariant.record _ _ rfl rfl rfl
  · intro bTimeout before after transition invariant
    exact invariant.transition transition
  · intro payload
    exact invariant.record _ _ rfl rfl rfl

end CompletionInvariant

/-- In every run in which no report comes too late, the configuration is
complete whenever the state becomes `E_STATE_RUNNING`. -/
theorem running_completely_configured
    (host : Host) (env : Env) (settings : Settings) (calls : List ApiCall)
    (inTime : EveryStep (step host) reportsInTime
      (started host env settings) calls) :
    Historically
      (fun entry past => entry.entered .running = true →
        completelyConfigured entry.daemon past)
      (runFrom host env settings calls).history := by
  have begun :
      CompletionInvariant (started host env settings).toLedger := by
    have initial : CompletionInvariant (startLedger env settings) := by
      refine ⟨trivial, fun entered => ?_, trivial⟩
      simp [Entry.entered] at entered
    exact
      turn_preserves
        (fun transition invariant =>
          CompletionInvariant.transition invariant transition)
        (started_turn host env settings)
        (initial.record _ _ rfl rfl rfl)
  exact
    (runFrom_invariant_of_effects
      (fun _ _ _ effect inTime invariant =>
        invariant.effect effect inTime)
      begun inTime).past

/-- Options with which a module of version 1.4.0 gets all frames. -/
def equippedSettings : Settings :=
  { Settings.default with
    eActivityLED := 4
    eRadioFrontEnd := .highPower
    iAntennaDiversity := 1 }

/-- A start-up in which the version is reported at once. -/
def promptRun : List ApiCall :=
  [messageAt 1 .version [1, 4, 0], tickAt 2, tickAt 3, tickAt 4, tickAt 5,
    tickAt 6, messageAt 7 .config (List.replicate 16 0x20),
    messageAt 8 .addr (List.replicate 16 0x20)]

theorem running_completely_configured_prompt :
    let world :=
      runFrom sampleHost (granting 0) equippedSettings promptRun
    world.daemon.eModuleState = .running ∧
      Historically
        (fun entry past => entry.entered .running = true →
          completelyConfigured entry.daemon past)
        world.history :=
  ⟨by decide +kernel,
    running_completely_configured sampleHost (granting 0)
      equippedSettings promptRun (by decide +kernel)⟩

/-- The version is presumed to be an old one and is reported as 1.4.0 when the
module has been started. -/
def lateReportRun : List ApiCall :=
  [tickAt 1, tickAt 2, tickAt 3, tickAt 4, tickAt 5,
    messageAt 6 .version [1, 4, 0],
    messageAt 7 .addr (List.replicate 16 0x20)]

theorem running_incompletely_configured :
    ¬ ∀ host env settings calls,
      Historically
        (fun entry past => entry.entered .running = true →
          completelyConfigured entry.daemon past)
        (runFrom host env settings calls).history := by
  intro always
  have configured :=
    always sampleHost (granting 0) equippedSettings lateReportRun
  revert configured
  decide +kernel

end SixLoWPANd.JennicModule
