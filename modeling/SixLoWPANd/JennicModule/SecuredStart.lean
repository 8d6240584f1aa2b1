import SixLoWPANd.JennicModule.Runs

/-!
# Start of a secured network

`securedStart` says of a RUN frame that a CONFIG frame stands between it and
the RUN frame before, and that a SECURITY frame with the current key follows
that CONFIG frame if the network was secure when it was written.  No action
clears `iSecureNetwork`, so a network that was secure at its CONFIG frame still
is when the state machine comes to the security settings.
-/

namespace SixLoWPANd.JennicModule

open SixLoWPANd.Foundation

/-- A SECURITY frame was written whose key field is `sSecurityKey` at that
time. -/
def Entry.wroteKey (entry : Entry) : Bool :=
  match entry.event with
  | .wrote .security payload =>
      payload.take 16 = entry.daemon.sSecurityKey.bytes
  | _ => false

def configSinceRun (history : List Entry) : Prop :=
  HappenedSince Entry.wroteRun (Entry.wrote .config) history

/-- `iSecureNetwork` was non-zero when the last CONFIG frame was written. -/
def secureAtConfig (history : List Entry) : Prop :=
  match history.find? (Entry.wrote .config) with
  | some entry => entry.daemon.iSecureNetwork ≠ 0
  | none => False

/-- The key has been written since the last CONFIG frame. -/
def keySinceConfig (history : List Entry) : Prop :=
  HappenedSince (Entry.wrote .config) Entry.wroteKey history

/-- What must have happened before a RUN frame. -/
def securedStart (history : List Entry) : Prop :=
  configSinceRun history ∧
    (secureAtConfig history → keySinceConfig history)

/-- What has happened in the states between a CONFIG and a RUN frame. -/
def securedPhase (daemon : Daemon) (history : List Entry) : Prop :=
  match daemon.eModuleState with
  | .configureSecurity =>
      configSinceRun history ∧
        (secureAtConfig history → daemon.iSecureNetwork ≠ 0)
  | .configureProfile | .startModule => securedStart history
  | _ => True

theorem configSinceRun_cons (entry : Entry) (past : List Entry) :
    configSinceRun (entry :: past) ↔
      entry.wroteRun = false ∧
        (entry.wrote .config = true ∨ configSinceRun past) :=
  happenedSince_cons _ _ _ _

theorem secureAtConfig_cons (entry : Entry) (past : List Entry) :
    secureAtConfig (entry :: past) ↔
      if entry.wrote .config then entry.daemon.iSecureNetwork ≠ 0
      else secureAtConfig past := by
  unfold secureAtConfig
  by_cases config : entry.wrote .config = true
  · simp [config]
  · simp [config]

theorem keySinceConfig_cons (entry : Entry) (past : List Entry) :
    keySinceConfig (entry :: past) ↔
      entry.wrote .config = false ∧
        (entry.wroteKey = true ∨ keySinceConfig past) :=
  happenedSince_cons _ _ _ _

/-- The key field of a SECURITY payload. -/
theorem securityEncoding_key (settings : Settings) :
    settings.securityEncoding.take 16 = settings.sSecurityKey.bytes := by
  rw [Settings.securityEncoding]
  exact List.take_left' settings.sSecurityKey.size

/-- Neither a CONFIG nor a RUN frame leaves a phase. -/
theorem securedPhase_cons {daemon : Daemon} {entry : Entry}
    {past : List Entry} (phase : securedPhase daemon past)
    (notConfig : entry.wrote .config = false)
    (notRun : entry.wroteRun = false) :
    securedPhase daemon (entry :: past) := by
  unfold securedPhase securedStart at phase ⊢
  simp only [configSinceRun_cons, secureAtConfig_cons,
    keySinceConfig_cons, notConfig, notRun]
  cases state : daemon.eModuleState <;> simp_all

/-- A phase survives any change that leaves the state alone and does not clear
`iSecureNetwork`. -/
theorem securedPhase_mono {first second : Daemon} {history : List Entry}
    (sameState : second.eModuleState = first.eModuleState)
    (stillSecure :
      first.iSecureNetwork ≠ 0 → second.iSecureNetwork ≠ 0)
    (phase : securedPhase first history) :
    securedPhase second history := by
  unfold securedPhase at phase ⊢
  rw [sameState]
  cases state : first.eModuleState <;> simp_all

/-- The invariant of the secured start: the history fits the state, and every
RUN frame was written as it must be. -/
structure SecureInvariant (ledger : Ledger) : Prop where
  phase : securedPhase ledger.daemon ledger.history
  past : Historically
    (fun entry past => entry.wroteRun = true → securedStart past)
    ledger.history

namespace SecureInvariant

variable {ledger : Ledger}

theorem record (invariant : SecureInvariant ledger) (now : Int)
    (event : Event)
    (notConfig :
      Entry.wrote .config ⟨event, now, ledger.daemon⟩ = false)
    (notRun : Entry.wroteRun ⟨event, now, ledger.daemon⟩ = false) :
    SecureInvariant (ledger.record now event) where
  phase := securedPhase_cons invariant.phase notConfig notRun
  past := by
    refine ⟨fun run => ?_, invariant.past⟩
    simp [notRun] at run

theorem update (invariant : SecureInvariant ledger)
    (change : Daemon → Daemon)
    (sameState :
      (change ledger.daemon).eModuleState = ledger.daemon.eModuleState)
    (stillSecure : ledger.daemon.iSecureNetwork ≠ 0 →
      (change ledger.daemon).iSecureNetwork ≠ 0) :
    SecureInvariant (ledger.update change) where
  phase := securedPhase_mono sameState stillSecure invariant.phase
  past := invariant.past

theorem assign (invariant : SecureInvariant ledger) (now : Int)
    (next : ModuleState)
    (phase :
      securedPhase { ledger.daemon with eModuleState := next }
        ledger.history) :
    SecureInvariant (ledger.assign now next) where
  phase := securedPhase_cons phase rfl rfl
  past := ⟨fun run => absurd run (by simp [Entry.wroteRun, Entry.wrote]),
    invariant.past⟩

theorem configure (invariant : SecureInvariant ledger) (now : Int)
    (payload : List UInt8) :
    SecureInvariant
      ((ledger.record now (.wrote .config payload)).assign now
        .configureSecurity) where
  phase := by
    apply securedPhase_cons _ rfl rfl
    constructor
    · exact (configSinceRun_cons _ _).mpr ⟨rfl, Or.inl rfl⟩
    · simp [secureAtConfig_cons, Entry.wrote]
  past := ⟨fun run => absurd run (by simp [Entry.wroteRun, Entry.wrote]),
    fun run => absurd run (by simp [Entry.wroteRun, Entry.wrote]),
    invariant.past⟩

/-- The start of the module, whatever the mode. -/
theorem launch (invariant : SecureInvariant ledger) (now : Int)
    (inState : ledger.daemon.eModuleState = .startModule)
    (change : Daemon → Daemon) (next : ModuleState)
    (phase : ∀ (daemon : Daemon) (history : List Entry),
      securedPhase { daemon with eModuleState := next } history) :
    SecureInvariant
      (((ledger.runModule now).update change).assign now next) := by
  have ready : securedStart ledger.history := by
    simpa [securedPhase, inState] using invariant.phase
  have past : Historically
      (fun entry past => entry.wroteRun = true → securedStart past)
      (ledger.runModule now).history := by
    unfold Ledger.runModule
    split
    · exact ⟨fun _ => ready, invariant.past⟩
    · exact ⟨fun _ => ready, invariant.past⟩
    · exact ⟨fun _ => ready, invariant.past⟩
    · exact invariant.past
  constructor
  · exact phase _ _
  · exact
      ⟨fun run => absurd run (by simp [Entry.wroteRun, Entry.wrote]),
        past⟩

theorem transition {after : Ledger} {now : Int} {bTimeout : Bool}
    (invariant : SecureInvariant ledger)
    (transition : Transition now bTimeout ledger after) :
    SecureInvariant after := by
  have phase := invariant.phase
  cases transition with
  | requestVersion inState =>
      exact (invariant.update _ rfl id).record now _ rfl rfl
  | presumeVersion inState | versionKnown inState
  | addressKnown inState =>
      exact (invariant.update _ rfl id).assign now _ trivial
  | configureNetwork inState =>
      exact invariant.configure now _
  | configureSecurity inState secure chosen =>
      apply (invariant.record now _ rfl rfl).assign
      simp only [securedPhase, inState] at phase
      have ready :
          securedStart
            (⟨.wrote .security ledger.daemon.securityEncoding, now,
              ledger.daemon⟩ :: ledger.history) := by
        constructor
        · exact (configSinceRun_cons _ _).mpr ⟨rfl, Or.inr phase.1⟩
        · intro _
          refine (keySinceConfig_cons _ _).mpr ⟨rfl, Or.inl ?_⟩
          simpa [Entry.wroteKey] using
            securityEncoding_key ledger.daemon.toSettings
      subst chosen
      split
      · exact ready
      · exact ready
  | skipSecurity inState open_ chosen =>
      apply invariant.assign
      simp only [securedPhase, inState] at phase
      have ready : securedStart ledger.history :=
        ⟨phase.1, fun secure => absurd open_ (phase.2 secure)⟩
      subst chosen
      split
      · exact ready
      · exact ready
  | configureProfile inState =>
      apply (invariant.record now _ rfl rfl).assign
      simp only [securedPhase, inState] at phase
      exact
        securedPhase_cons
          (show securedPhase
            { ledger.daemon with eModuleState := .startModule }
            ledger.history from phase) rfl rfl
  | skipProfile inState =>
      apply invariant.assign
      simpa only [securedPhase, inState] using phase
  | startModule inState chosen =>
      apply invariant.launch now inState id
      intro daemon history
      subst chosen
      split
      · trivial
      · trivial
  | startOldModule inState =>
      exact
        invariant.launch now inState Daemon.forgetAddress _
          (fun _ _ => trivial)
  | configureFrontEnd inState | activityLED inState =>
      exact (invariant.record now _ rfl rfl).assign now _ trivial
  | configureFrontEndDiversity inState =>
      exact
        ((invariant.record now _ rfl rfl).record now _ rfl rfl).assign
          now _ trivial
  | skipFrontEnd inState | skipActivityLED inState =>
      exact invariant.assign now _ trivial
  | requestConfiguration inState =>
      exact invariant.record now _ rfl rfl
  | configurationKnown inState =>
      exact
        (invariant.assign now .determineAddress trivial).update _ rfl id
  | requestAddress inState =>
      exact
        ((invariant.update _ rfl id).update _ rfl id).record now _ rfl
          rfl
  | resetModule inState =>
      exact
        ((invariant.update _ rfl id).assign now .determineVersion
          trivial).record now _ rfl rfl
  | ping inState =>
      exact (invariant.record now _ rfl rfl).update _ rfl id

/-- The handling of a message preserves the invariant: the only handler that
writes `iSecureNetwork` sets it. -/
theorem handling {host : Host} {after : Ledger} {now : Int}
    {u8Message : UInt8} {u32Length : UInt32} {cells : Nat → UInt8}
    {eStatus : ModuleStatus}
    (invariant : SecureInvariant ledger)
    (handling : Handling host now u8Message u32Length cells eStatus
      ledger after) :
    SecureInvariant (after.complete now u8Message u32Length eStatus) := by
  have complete : ∀ {handled : Ledger}, SecureInvariant handled →
      SecureInvariant
        (handled.complete now u8Message u32Length eStatus) := by
    intro handled invariant
    exact (invariant.record now _ rfl rfl).update _ rfl id
  cases handling with
  | detached | configIgnored | securityIgnored | addressNotStored =>
      exact complete invariant
  | version | config | addressStored =>
      exact complete (invariant.update _ rfl id)
  | security =>
      exact
        complete (invariant.update _ rfl (fun _ => Int.one_ne_zero))
  | configRequest =>
      exact complete (invariant.assign now _ trivial)

theorem action {host : Host} {after : Ledger} {now : Int}
    (invariant : SecureInvariant ledger)
    (action : Action host unguarded now ledger after) :
    SecureInvariant after := by
  cases action with
  | handled handling =>
      exact invariant.handling handling
  | called bTimeout =>
      exact invariant.record now _ rfl rfl
  | transition transition =>
      exact invariant.transition transition
  | forwarded payload =>
      exact invariant.record now _ rfl rfl

end SecureInvariant

/-- In every run every RUN frame follows a CONFIG frame with no RUN frame
between them, and the key follows that CONFIG frame if the network was secure
then. -/
theorem run_frame_secured
    (host : Host) (env : Env) (settings : Settings)
    (calls : List ApiCall) :
    Historically
      (fun entry past => entry.wroteRun = true → securedStart past)
      (runFrom host env settings calls).history := by
  have invariant :
      SecureInvariant (runFrom host env settings calls).toLedger := by
    apply runFrom_invariant
    · intro now before after action invariant
      exact invariant.action action
    · refine ⟨trivial, ?_, trivial⟩
      intro run
      simp [Entry.wroteRun, Entry.wrote] at run
  exact invariant.past

end SixLoWPANd.JennicModule
