import SixLoWPANd.JennicModule.Runs

/-!
# Order of the start-up

`startOrder` says of a history that the module has been configured, has been
started once since, and has reported its address after that.  `inPhase` indexes
by the state how much of this has already happened; it is an invariant, and
behind the last phase it is `startOrder`.  Handlers jump back only to the
configuration, whose phase asks for nothing.
-/

namespace SixLoWPANd.JennicModule

open SixLoWPANd.Foundation

def configWritten (history : List Entry) : Prop :=
  ∃ entry ∈ history, entry.wrote .config = true

/-- How many RUN frames have been written since the last CONFIG frame. -/
def runsSinceConfig (history : List Entry) : Nat :=
  countSince (Entry.wrote .config) Entry.wroteRun history

/-- An ADDR message has been handled successfully since the last RUN frame. -/
def addressSinceRun (history : List Entry) : Prop :=
  HappenedSince Entry.wroteRun (Entry.handledOk .addr) history

/-- What must have happened before the module counts as running. -/
def startOrder (history : List Entry) : Prop :=
  configWritten history ∧ runsSinceConfig history = 1 ∧
    addressSinceRun history

/-- The states behind the discovery of the address. -/
def located (daemon : Daemon) : Prop :=
  daemon.eModuleState = .running ∨ daemon.eModuleState = .activityLED

/-- What has happened in each state. -/
def inPhase (daemon : Daemon) (history : List Entry) : Prop :=
  match daemon.eModuleState with
  | .idle | .determineVersion | .configureNetwork => True
  | .configureSecurity | .configureProfile | .startModule =>
      configWritten history ∧ runsSinceConfig history = 0
  | .configureFrontend | .determineConfiguration =>
      configWritten history ∧ runsSinceConfig history = 1
  | .determineAddress =>
      configWritten history ∧ runsSinceConfig history = 1 ∧
        (daemon.sFlags.uAddressKnown = true → addressSinceRun history)
  | .activityLED | .running => startOrder history

theorem configWritten_cons (entry : Entry) (past : List Entry) :
    configWritten (entry :: past) ↔
      entry.wrote .config = true ∨ configWritten past := by
  simp [configWritten]

theorem runsSinceConfig_cons (entry : Entry) (past : List Entry) :
    runsSinceConfig (entry :: past) =
      if entry.wrote .config then 0
      else runsSinceConfig past + if entry.wroteRun then 1 else 0 :=
  countSince_cons _ _ _ _

theorem addressSinceRun_cons (entry : Entry) (past : List Entry) :
    addressSinceRun (entry :: past) ↔
      entry.wroteRun = false ∧
        (entry.handledOk .addr = true ∨ addressSinceRun past) :=
  happenedSince_cons _ _ _ _

/-- The invariant of the start-up: the mode is one of the three, the history
fits the state, and did so whenever something happened. -/
structure StartInvariant (ledger : Ledger) : Prop where
  declared : ledger.daemon.eModuleMode.declared = true
  phase : inPhase ledger.daemon ledger.history
  past : Historically
    (fun entry past => located entry.daemon → startOrder past)
    ledger.history

/-- In a located state the phase is the complete start-up. -/
theorem startOrder_of_located {daemon : Daemon} {history : List Entry}
    (phase : inPhase daemon history) (isLocated : located daemon) :
    startOrder history := by
  rcases isLocated with running | activityLED
  · simpa [inPhase, running] using phase
  · simpa [inPhase, activityLED] using phase

/-- Neither a CONFIG nor a RUN frame leaves a phase. -/
theorem inPhase_cons {daemon : Daemon} {entry : Entry} {past : List Entry}
    (phase : inPhase daemon past)
    (notConfig : entry.wrote .config = false)
    (notRun : entry.wroteRun = false) :
    inPhase daemon (entry :: past) := by
  unfold inPhase startOrder at phase ⊢
  simp only [configWritten_cons, runsSinceConfig_cons,
    addressSinceRun_cons, notConfig, notRun]
  cases state : daemon.eModuleState <;> simp_all

/-- A phase depends on the state and on the address flag only. -/
theorem inPhase_congr {first second : Daemon} {history : List Entry}
    (sameState : second.eModuleState = first.eModuleState)
    (sameFlag :
      second.sFlags.uAddressKnown = first.sFlags.uAddressKnown)
    (phase : inPhase first history) : inPhase second history := by
  unfold inPhase at phase ⊢
  rw [sameState, sameFlag]
  exact phase

/-- With the address reported, the flag may be set in every phase. -/
theorem inPhase_learnAddress {daemon : Daemon} {history : List Entry}
    (phase : inPhase daemon history) (reported : addressSinceRun history) :
    inPhase daemon.learnAddress history := by
  unfold inPhase at phase ⊢
  by_cases inState : daemon.eModuleState = .determineAddress
  · simp only [inState] at phase
    simpa [Daemon.learnAddress, inState] using
      ⟨phase.1, phase.2.1, reported⟩
  · cases other : daemon.eModuleState <;>
      simp_all [Daemon.learnAddress]

/-- In a declared mode the start of the module is one RUN frame. -/
theorem runModule_declared {ledger : Ledger} (now : Int)
    (declared : ledger.daemon.eModuleMode.declared = true) :
    ∃ entry : Entry, entry.wroteRun = true ∧ entry.wrote .config = false ∧
      entry.daemon = ledger.daemon ∧
      (ledger.runModule now).history = entry :: ledger.history := by
  unfold Ledger.runModule
  cases mode : ledger.daemon.eModuleMode with
  | coordinator =>
      exact ⟨_, rfl, rfl, rfl, rfl⟩
  | router =>
      exact ⟨_, rfl, rfl, rfl, rfl⟩
  | commissioning =>
      exact ⟨_, rfl, rfl, rfl, rfl⟩
  | unknown value =>
      simp [mode, ModuleMode.declared] at declared

namespace StartInvariant

variable {ledger : Ledger}

theorem recordIn (invariant : StartInvariant ledger) {now : Int}
    {event : Event}
    (phase :
      inPhase ledger.daemon
        (⟨event, now, ledger.daemon⟩ :: ledger.history)) :
    StartInvariant (ledger.record now event) where
  declared := invariant.declared
  phase := phase
  past := ⟨startOrder_of_located invariant.phase, invariant.past⟩

theorem record (invariant : StartInvariant ledger) (now : Int)
    (event : Event)
    (notConfig :
      Entry.wrote .config ⟨event, now, ledger.daemon⟩ = false)
    (notRun : Entry.wroteRun ⟨event, now, ledger.daemon⟩ = false) :
    StartInvariant (ledger.record now event) :=
  invariant.recordIn (inPhase_cons invariant.phase notConfig notRun)

theorem update (invariant : StartInvariant ledger)
    (change : Daemon → Daemon)
    (sameMode :
      (change ledger.daemon).eModuleMode = ledger.daemon.eModuleMode)
    (phase : inPhase (change ledger.daemon) ledger.history) :
    StartInvariant (ledger.update change) where
  declared := by
    rw [Ledger.update_daemon, sameMode]
    exact invariant.declared
  phase := phase
  past := invariant.past

theorem updateOther (invariant : StartInvariant ledger)
    (change : Daemon → Daemon)
    (sameMode :
      (change ledger.daemon).eModuleMode = ledger.daemon.eModuleMode)
    (sameState :
      (change ledger.daemon).eModuleState = ledger.daemon.eModuleState)
    (sameFlag :
      (change ledger.daemon).sFlags.uAddressKnown =
        ledger.daemon.sFlags.uAddressKnown) :
    StartInvariant (ledger.update change) :=
  invariant.update change sameMode
    (inPhase_congr sameState sameFlag invariant.phase)

theorem assign (invariant : StartInvariant ledger) (now : Int)
    (next : ModuleState)
    (phase :
      inPhase { ledger.daemon with eModuleState := next }
        ledger.history) :
    StartInvariant (ledger.assign now next) where
  declared := invariant.declared
  phase := inPhase_cons phase rfl rfl
  past := ⟨startOrder_of_located invariant.phase, invariant.past⟩

/-- The start of the module: one RUN frame, then a state whose phase asks for
one. -/
theorem launch (invariant : StartInvariant ledger) (now : Int)
    (inState : ledger.daemon.eModuleState = .startModule)
    (change : Daemon → Daemon) (next : ModuleState)
    (sameMode :
      (change ledger.daemon).eModuleMode = ledger.daemon.eModuleMode)
    (sameState :
      (change ledger.daemon).eModuleState = ledger.daemon.eModuleState)
    (phase : ∀ history, configWritten history →
      runsSinceConfig history = 1 →
      inPhase { change ledger.daemon with eModuleState := next }
        history) :
    StartInvariant
      (((ledger.runModule now).update change).assign now next) := by
  obtain ⟨entry, run, notConfig, snapshot, written⟩ :=
    runModule_declared now invariant.declared
  obtain ⟨configured, unstarted⟩ :
      configWritten ledger.history ∧
        runsSinceConfig ledger.history = 0 := by
    simpa [inPhase, inState] using invariant.phase
  have notLocated : ¬ located ledger.daemon := by
    simp [located, inState]
  have nowhere : ¬ located (change ledger.daemon) := by
    simp [located, sameState, inState]
  constructor
  · simpa [sameMode] using invariant.declared
  · simp only [Ledger.assign_daemon, Ledger.update_daemon,
      Ledger.runModule_daemon, Ledger.assign_history,
      Ledger.update_history, written]
    apply inPhase_cons _ rfl rfl
    apply phase
    · exact (configWritten_cons _ _).mpr (Or.inr configured)
    · simp [runsSinceConfig_cons, notConfig, run, unstarted]
  · simp only [Ledger.assign_history, Ledger.update_daemon,
      Ledger.update_history, Ledger.runModule_daemon, written]
    refine ⟨fun isLocated => absurd isLocated nowhere,
      fun isLocated => absurd isLocated ?_, invariant.past⟩
    rw [snapshot]
    exact notLocated

/-- A stored address: the flag is set before the message counts as handled,
so both are looked at together. -/
theorem learn (invariant : StartInvariant ledger) (now : Int)
    {u8Message : UInt8} (u32Length : UInt32)
    (isAddr : u8Message = SLMsgType.addr.code) :
    StartInvariant
      ((ledger.update Daemon.learnAddress).complete now u8Message
        u32Length .ok) where
  declared := invariant.declared
  phase := by
    let entry : Entry :=
      ⟨.handled u8Message u32Length .ok, now, ledger.daemon.learnAddress⟩
    have kept : inPhase ledger.daemon (entry :: ledger.history) :=
      inPhase_cons invariant.phase rfl rfl
    have reported : addressSinceRun (entry :: ledger.history) :=
      (addressSinceRun_cons _ _).mpr
        ⟨rfl, Or.inl (by simp [entry, Entry.handledOk, isAddr])⟩
    have learned :
        inPhase ledger.daemon.learnAddress (entry :: ledger.history) :=
      inPhase_learnAddress kept reported
    exact inPhase_congr rfl rfl learned
  past := by
    refine ⟨fun isLocated => ?_, invariant.past⟩
    have same : located ledger.daemon := isLocated
    exact startOrder_of_located invariant.phase same

theorem transition {after : Ledger} {now : Int} {bTimeout : Bool}
    (invariant : StartInvariant ledger)
    (transition : Transition now bTimeout ledger after) :
    StartInvariant after := by
  have phase := invariant.phase
  cases transition with
  | requestVersion inState =>
      exact
        (invariant.updateOther _ rfl rfl rfl).record now _ rfl rfl
  | presumeVersion inState | versionKnown inState =>
      exact (invariant.updateOther _ rfl rfl rfl).assign now _ trivial
  | configureNetwork inState =>
      apply (invariant.recordIn (by simp [inPhase, inState])).assign
      constructor
      · exact (configWritten_cons _ _).mpr (Or.inl rfl)
      · simp [runsSinceConfig_cons, Entry.wrote]
  | configureSecurity inState _ chosen =>
      apply (invariant.record now _ rfl rfl).assign
      simp only [inPhase, inState] at phase
      subst chosen
      split
      · exact inPhase_cons phase rfl rfl
      · exact inPhase_cons phase rfl rfl
  | skipSecurity inState _ chosen =>
      apply invariant.assign
      simp only [inPhase, inState] at phase
      subst chosen
      split
      · exact phase
      · exact phase
  | configureProfile inState | configureFrontEnd inState
  | activityLED inState =>
      apply (invariant.record now _ rfl rfl).assign
      simp only [inPhase, inState] at phase
      exact inPhase_cons phase rfl rfl
  | skipProfile inState | skipFrontEnd inState
  | skipActivityLED inState =>
      apply invariant.assign
      simpa only [inPhase, inState] using phase
  | startModule inState chosen =>
      apply invariant.launch now inState id _ rfl rfl
      intro history configured once
      subst chosen
      split
      · exact ⟨configured, once⟩
      · exact ⟨configured, once⟩
  | startOldModule inState =>
      apply invariant.launch now inState Daemon.forgetAddress _ rfl rfl
      intro history configured once
      exact ⟨configured, once, by simp [Daemon.forgetAddress]⟩
  | configureFrontEndDiversity inState =>
      apply
        ((invariant.record now _ rfl rfl).record now _ rfl rfl).assign
      simp only [inPhase, inState] at phase
      exact inPhase_cons (inPhase_cons phase rfl rfl) rfl rfl
  | requestConfiguration inState =>
      exact invariant.record now _ rfl rfl
  | configurationKnown inState =>
      simp only [inPhase, inState] at phase
      constructor
      · exact invariant.declared
      · have forgotten :
            inPhase
              (Daemon.forgetAddress
                { ledger.daemon with eModuleState := .determineAddress })
              ledger.history :=
          ⟨phase.1, phase.2, by simp [Daemon.forgetAddress]⟩
        exact inPhase_cons forgotten rfl rfl
      · exact ⟨startOrder_of_located invariant.phase, invariant.past⟩
  | requestAddress inState unknown =>
      apply StartInvariant.record _ now _ rfl rfl
      apply (invariant.updateOther _ rfl rfl rfl).updateOther _ rfl rfl
      exact unknown.symm
  | resetModule inState =>
      apply StartInvariant.record _ now _ rfl rfl
      exact (invariant.updateOther _ rfl rfl rfl).assign now _ trivial
  | addressKnown inState known =>
      apply (invariant.updateOther _ rfl rfl rfl).assign
      simp only [inPhase, inState] at phase
      exact ⟨phase.1, phase.2.1, phase.2.2 known⟩
  | ping inState =>
      exact (invariant.record now _ rfl rfl).updateOther _ rfl rfl rfl

theorem handling {host : Host} {after : Ledger} {now : Int}
    {u8Message : UInt8} {u32Length : UInt32} {cells : Nat → UInt8}
    {eStatus : ModuleStatus}
    (invariant : StartInvariant ledger)
    (handling : Handling host now u8Message u32Length cells eStatus
      ledger after) :
    StartInvariant (after.complete now u8Message u32Length eStatus) := by
  have complete : ∀ {handled : Ledger}, StartInvariant handled →
      StartInvariant
        (handled.complete now u8Message u32Length eStatus) := by
    intro handled invariant
    exact (invariant.record now _ rfl rfl).updateOther _ rfl rfl rfl
  cases handling with
  | detached | configIgnored | securityIgnored | addressNotStored =>
      exact complete invariant
  | version | config | security =>
      exact complete (invariant.updateOther _ rfl rfl rfl)
  | configRequest =>
      exact complete (invariant.assign now _ trivial)
  | addressStored isAddr =>
      exact invariant.learn now u32Length isAddr

theorem action {host : Host} {after : Ledger} {now : Int}
    (invariant : StartInvariant ledger)
    (action : Action host unguarded now ledger after) :
    StartInvariant after := by
  cases action with
  | handled handling =>
      exact invariant.handling handling
  | called bTimeout =>
      exact invariant.record now _ rfl rfl
  | transition transition =>
      exact invariant.transition transition
  | forwarded payload =>
      exact invariant.record now _ rfl rfl

end StartInvariant

/-- In every run in one of the three modes, whenever the state is
`E_STATE_RUNNING` or `E_STATE_ACTIVITY_LED` the start-up is complete: at the
end of the run and at each moment recorded on the way. -/
theorem running_after_startOrder
    (host : Host) (env : Env) (settings : Settings)
    (declared : settings.eModuleMode.declared = true)
    (calls : List ApiCall) :
    (located (runFrom host env settings calls).daemon →
        startOrder (runFrom host env settings calls).history) ∧
      Historically
        (fun entry past => located entry.daemon → startOrder past)
        (runFrom host env settings calls).history := by
  have invariant :
      StartInvariant (runFrom host env settings calls).toLedger := by
    apply runFrom_invariant
    · intro now before after action invariant
      exact invariant.action action
    · refine ⟨declared, trivial, ?_, trivial⟩
      intro isLocated
      simp [located, Daemon.boot] at isLocated
  exact ⟨startOrder_of_located invariant.phase, invariant.past⟩

/-- The run of an old module reaches `E_STATE_RUNNING`. -/
theorem running_after_startOrder_old :
    let world :=
      runFrom sampleHost (granting 0) Settings.default oldModuleRun
    world.daemon.eModuleState = .running ∧ startOrder world.history := by
  have reached :
      (runFrom sampleHost (granting 0) Settings.default
        oldModuleRun).daemon.eModuleState = .running := by
    decide +kernel
  exact
    ⟨reached,
      (running_after_startOrder sampleHost (granting 0) Settings.default
        rfl oldModuleRun).1 (Or.inl reached)⟩

end SixLoWPANd.JennicModule
