import SixLoWPANd.JennicModule.Runs

/-!
# Reading the configuration back

The configuration that the module reports ends the state
`E_STATE_DETERMINE_CONFIGURATION`.  Its flag is cleared by
`eJennicModuleStart` only, so a later start of the module can meet a flag that
an earlier network has set.  In a run that starts the module only while the
flag is clear, each start is followed by a configuration of its own.
-/

namespace SixLoWPANd.JennicModule

open SixLoWPANd.Foundation

namespace Entry

/-- A message was accepted as a configuration. -/
def configAccepted (entry : Entry) : Bool :=
  match entry.event with
  | .handled u8Message u32Length .ok =>
      acceptedConfig entry.daemon u8Message u32Length
  | _ => false

/-- The state machine went from the configuration to the address. -/
def configDetermined (entry : Entry) : Bool :=
  entry.entered .determineAddress &&
    entry.daemon.eModuleState = .determineConfiguration

end Entry

def readBackSinceRun (history : List Entry) : Prop :=
  HappenedSince Entry.wroteRun Entry.configAccepted history

instance (history : List Entry) : Decidable (readBackSinceRun history) :=
  inferInstanceAs (Decidable (HappenedSince _ _ history))

/-- A call that starts the module finds no configuration known and brings
none. -/
def startsUnread (world : World) (call : ApiCall) : Prop :=
  world.daemon.eModuleState = .startModule →
    match call.input with
    | .message u8Message u32Length _ =>
        u8Message = SLMsgType.configRequest.code ∨
          (world.daemon.sFlags.uConfigKnown = false ∧
            ¬ acceptedConfig world.daemon u8Message u32Length)
    | .timeout => world.daemon.sFlags.uConfigKnown = false
    | .tunPacket _ => True

instance (world : World) : ∀ call, Decidable (startsUnread world call)
  | ⟨_, .message ..⟩ => inferInstanceAs (Decidable (_ → _ ∨ _ ∧ ¬ _))
  | ⟨_, .timeout⟩ => inferInstanceAs (Decidable (_ → _ = _))
  | ⟨_, .tunPacket _⟩ => inferInstanceAs (Decidable (_ → True))

/-- The states between the start of the module and its configuration. -/
def readsBack (eModuleState : ModuleState) : Prop :=
  eModuleState = .configureFrontend ∨
    eModuleState = .determineConfiguration

theorem readBackSinceRun_cons (entry : Entry) (past : List Entry) :
    readBackSinceRun (entry :: past) ↔
      entry.wroteRun = false ∧
        (entry.configAccepted = true ∨ readBackSinceRun past) :=
  happenedSince_cons _ _ _ _

/-- Behind the start of the module the flag stands for a configuration that
has arrived since. -/
structure ReadBackInvariant (ledger : Ledger) : Prop where
  fresh : readsBack ledger.daemon.eModuleState →
    ledger.daemon.sFlags.uConfigKnown = true →
      readBackSinceRun ledger.history
  past : Historically
    (fun entry past =>
      entry.configDetermined = true → readBackSinceRun past)
    ledger.history

/-- The module is not started with a flag that is already set. -/
def startsCleared (ledger : Ledger) : Prop :=
  ledger.daemon.eModuleState = .startModule →
    ledger.daemon.sFlags.uConfigKnown = false

/-- A case that falls through does not lead to the start of the module. -/
theorem startsCleared_of_fall {now : Int} {bTimeout : Bool}
    {before after : Ledger}
    (falls : fallsThrough before.daemon = true)
    (transition : Transition now bTimeout before after) :
    startsCleared after := by
  intro inStart
  rcases state_of_fall falls transition with other | other | other
  · simp [other] at inStart
  · simp [other] at inStart
  · simp [other] at inStart

namespace ReadBackInvariant

variable {ledger : Ledger}

theorem record (invariant : ReadBackInvariant ledger) (now : Int)
    (event : Event)
    (notRun : Entry.wroteRun ⟨event, now, ledger.daemon⟩ = false)
    (elsewhere :
      Entry.configDetermined ⟨event, now, ledger.daemon⟩ = false) :
    ReadBackInvariant (ledger.record now event) where
  fresh reading known :=
    (readBackSinceRun_cons _ _).mpr
      ⟨notRun, Or.inr (invariant.fresh reading known)⟩
  past :=
    ⟨fun determined => by simp [elsewhere] at determined, invariant.past⟩

theorem update (invariant : ReadBackInvariant ledger)
    (change : Daemon → Daemon)
    (sameState :
      (change ledger.daemon).eModuleState = ledger.daemon.eModuleState)
    (sameFlag :
      (change ledger.daemon).sFlags.uConfigKnown =
        ledger.daemon.sFlags.uConfigKnown) :
    ReadBackInvariant (ledger.update change) where
  fresh reading known := by
    rw [Ledger.update_daemon, sameState] at reading
    rw [Ledger.update_daemon, sameFlag] at known
    exact invariant.fresh reading known
  past := invariant.past

/-- Outside the reading everything may be written. -/
theorem recordOutside (invariant : ReadBackInvariant ledger) (now : Int)
    (u8Type : SLMsgType) (payload : List UInt8)
    (outside : ¬ readsBack ledger.daemon.eModuleState) :
    ReadBackInvariant (ledger.record now (.wrote u8Type payload)) where
  fresh reading := absurd reading outside
  past := ⟨(nomatch ·), invariant.past⟩

theorem assign (invariant : ReadBackInvariant ledger) (now : Int)
    (next : ModuleState)
    (fresh : readsBack next →
      ledger.daemon.sFlags.uConfigKnown = true →
        readBackSinceRun ledger.history)
    (determined :
      Entry.configDetermined ⟨.assigned next, now, ledger.daemon⟩ = true →
        readBackSinceRun ledger.history) :
    ReadBackInvariant (ledger.assign now next) where
  fresh reading known :=
    (readBackSinceRun_cons _ _).mpr ⟨rfl, Or.inr (fresh reading known)⟩
  past := ⟨determined, invariant.past⟩

/-- Only the address discovery ends the reading. -/
theorem assignOther (invariant : ReadBackInvariant ledger) (now : Int)
    (next : ModuleState)
    (fresh : readsBack next →
      ledger.daemon.sFlags.uConfigKnown = true →
        readBackSinceRun ledger.history)
    (elsewhere : next ≠ .determineAddress) :
    ReadBackInvariant (ledger.assign now next) := by
  apply invariant.assign now next fresh
  intro determined
  simp [Entry.configDetermined, Entry.entered, elsewhere] at determined

/-- The start of the module. -/
theorem launch (invariant : ReadBackInvariant ledger) (now : Int)
    (inState : ledger.daemon.eModuleState = .startModule)
    (cleared : startsCleared ledger) (change : Daemon → Daemon)
    (next : ModuleState)
    (sameState :
      (change ledger.daemon).eModuleState = ledger.daemon.eModuleState)
    (sameFlag :
      (change ledger.daemon).sFlags.uConfigKnown =
        ledger.daemon.sFlags.uConfigKnown) :
    ReadBackInvariant
      (((ledger.runModule now).update change).assign now next) := by
  have run : ReadBackInvariant (ledger.runModule now) := by
    obtain same | ⟨u8Type, _, written⟩ := ledger.runModule_cases now
    · rw [same]
      exact invariant
    · rw [written]
      apply invariant.recordOutside
      simp [readsBack, inState]
  have changed :
      ReadBackInvariant ((ledger.runModule now).update change) := by
    apply run.update
    · simpa using sameState
    · simpa using sameFlag
  apply changed.assign
  · intro _ known
    rw [Ledger.update_daemon, Ledger.runModule_daemon, sameFlag,
      cleared inState] at known
    contradiction
  · intro determined
    simp [Entry.configDetermined, sameState, inState] at determined

theorem transition {after : Ledger} {now : Int} {bTimeout : Bool}
    (invariant : ReadBackInvariant ledger) (cleared : startsCleared ledger)
    (transition : Transition now bTimeout ledger after) :
    ReadBackInvariant after := by
  cases transition with
  | requestVersion =>
      exact (invariant.update _ rfl rfl).record now _ rfl rfl
  | presumeVersion | versionKnown | addressKnown =>
      apply (invariant.update _ rfl rfl).assignOther
      · simp [readsBack]
      · decide
  | configureNetwork =>
      apply (invariant.record now _ rfl rfl).assignOther
      · simp [readsBack]
      · decide
  | configureSecurity _ _ chosen =>
      subst chosen
      apply (invariant.record now _ rfl rfl).assignOther
      · split <;> simp [readsBack]
      · split <;> decide
  | skipSecurity _ _ chosen =>
      subst chosen
      apply invariant.assignOther
      · split <;> simp [readsBack]
      · split <;> decide
  | configureProfile | activityLED =>
      apply (invariant.record now _ rfl rfl).assignOther
      · simp [readsBack]
      · decide
  | skipProfile | skipActivityLED =>
      apply invariant.assignOther
      · simp [readsBack]
      · decide
  | startModule inState =>
      exact invariant.launch now inState cleared id _ rfl rfl
  | startOldModule inState =>
      exact
        invariant.launch now inState cleared Daemon.forgetAddress _ rfl
          rfl
  | configureFrontEnd inState =>
      have written := invariant.record now
        (.wrote .setRadioFrontend [ledger.daemon.eRadioFrontEnd.code])
        rfl rfl
      exact
        written.assignOther now _
          (fun _ => written.fresh (Or.inl inState)) (by decide)
  | configureFrontEndDiversity inState =>
      have written := (invariant.record now
        (.wrote .setRadioFrontend [ledger.daemon.eRadioFrontEnd.code])
        rfl rfl).record now (.wrote .enableDiversity []) rfl rfl
      exact
        written.assignOther now _
          (fun _ => written.fresh (Or.inl inState)) (by decide)
  | skipFrontEnd inState =>
      exact
        invariant.assignOther now _
          (fun _ => invariant.fresh (Or.inl inState)) (by decide)
  | requestConfiguration =>
      exact invariant.record now _ rfl rfl
  | configurationKnown inState known =>
      have located :
          ReadBackInvariant (ledger.assign now .determineAddress) := by
        apply invariant.assign
        · simp [readsBack]
        · exact fun _ => invariant.fresh (Or.inr inState) known
      exact located.update _ rfl rfl
  | requestAddress =>
      apply ReadBackInvariant.record _ now _ rfl rfl
      exact (invariant.update _ rfl rfl).update _ rfl rfl
  | resetModule =>
      apply ReadBackInvariant.record _ now _ rfl rfl
      apply (invariant.update _ rfl rfl).assignOther
      · simp [readsBack]
      · decide
  | ping =>
      exact (invariant.record now _ rfl rfl).update _ rfl rfl

theorem turn {after : Ledger} {now : Int} {bTimeout : Bool}
    (invariant : ReadBackInvariant ledger) (cleared : startsCleared ledger)
    (turn : Turn now bTimeout ledger after) : ReadBackInvariant after := by
  induction turn with
  | wait =>
      exact invariant
  | last _ transition =>
      exact invariant.transition cleared transition
  | fall falls transition _ inductionHypothesis =>
      exact
        inductionHypothesis (invariant.transition cleared transition)
          (startsCleared_of_fall falls transition)

theorem complete (invariant : ReadBackInvariant ledger) (now : Int)
    (u8Message : UInt8) (u32Length : UInt32) (eStatus : ModuleStatus) :
    ReadBackInvariant
      (ledger.complete now u8Message u32Length eStatus) :=
  (invariant.record now _ rfl rfl).update _ rfl rfl

/-- An accepted configuration sets the flag before the message counts as
handled, so both are looked at together. -/
theorem receive (invariant : ReadBackInvariant ledger) (host : Host)
    (now : Int) {u8Message : UInt8} {u32Length : UInt32}
    (cells : Nat → UInt8)
    (accepted : acceptedConfig ledger.daemon u8Message u32Length) :
    ReadBackInvariant
      ((ledger.update
        (Daemon.receiveConfig host.endian
          (ModuleConfigV10.ofCells host.endian cells))).complete now
            u8Message u32Length .ok) where
  fresh _ _ :=
    (readBackSinceRun_cons _ _).mpr
      ⟨rfl, Or.inl (decide_eq_true accepted)⟩
  past := ⟨(nomatch ·), invariant.past⟩

theorem handling {host : Host} {after : Ledger} {now : Int}
    {u8Message : UInt8} {u32Length : UInt32} {cells : Nat → UInt8}
    {eStatus : ModuleStatus} (invariant : ReadBackInvariant ledger)
    (handling : Handling host now u8Message u32Length cells eStatus
      ledger after) :
    ReadBackInvariant
      (after.complete now u8Message u32Length eStatus) := by
  cases handling with
  | detached | configIgnored | securityIgnored | addressNotStored =>
      exact invariant.complete now _ _ _
  | version | security | addressStored =>
      exact (invariant.update _ rfl rfl).complete now _ _ _
  | config accepted =>
      exact invariant.receive host now cells accepted
  | configRequest =>
      apply ReadBackInvariant.complete
      apply invariant.assignOther
      · simp [readsBack]
      · decide

end ReadBackInvariant

/-- A message that leaves the module to be started leaves the flag clear. -/
theorem startsCleared_of_handling {host : Host} {before after : Ledger}
    {now : Int} {u8Message : UInt8} {u32Length : UInt32}
    {cells : Nat → UInt8} {eStatus : ModuleStatus}
    (unread : before.daemon.eModuleState = .startModule →
      u8Message = SLMsgType.configRequest.code ∨
        (before.daemon.sFlags.uConfigKnown = false ∧
          ¬ acceptedConfig before.daemon u8Message u32Length))
    (handling : Handling host now u8Message u32Length cells eStatus
      before after) :
    startsCleared after := by
  by_cases requested : u8Message = SLMsgType.configRequest.code
  · subst requested
    rw [handling_configRequest handling]
    intro inStart
    exact absurd inStart (by simp)
  · intro inStart
    have kept : after.daemon.eModuleState = .startModule →
        before.daemon.eModuleState = .startModule := by
      cases handling with
      | configRequest isRequest =>
          exact absurd isRequest requested
      | _ =>
          exact id
    obtain isRequest | ⟨unknown, rejected⟩ := unread (kept inStart)
    · exact absurd isRequest requested
    · cases handling with
      | config accepted =>
          exact absurd accepted rejected
      | configRequest isRequest =>
          exact absurd isRequest requested
      | _ =>
          exact unknown

theorem readBack_effect {host : Host} {world : World} {call : ApiCall}
    {after : Ledger} (effect : Effect host call world.toLedger after)
    (unread : startsUnread world call)
    (invariant : ReadBackInvariant world.toLedger) :
    ReadBackInvariant after := by
  unfold startsUnread at unread
  cases effect with
  | rejected isMessage handling =>
      exact invariant.handling handling
  | processed isMessage handling turn =>
      rw [isMessage] at unread
      have cleared := startsCleared_of_handling unread handling
      exact
        ((invariant.handling handling).record _ _ rfl rfl).turn cleared
          turn
  | ticked isTimeout turn =>
      rw [isTimeout] at unread
      exact (invariant.record _ _ rfl rfl).turn unread turn
  | forwarded =>
      exact invariant.record _ _ rfl rfl
  | unread =>
      exact invariant

/-- In every run that starts the module only while no configuration is known,
each step from `E_STATE_DETERMINE_CONFIGURATION` to
`E_STATE_DETERMINE_ADDRESS` comes after a configuration of the module that was
started last. -/
theorem configuration_read_back
    (host : Host) (env : Env) (settings : Settings) (calls : List ApiCall)
    (unread : EveryStep (step host) startsUnread
      (started host env settings) calls) :
    Historically
      (fun entry past =>
        entry.configDetermined = true → readBackSinceRun past)
      (runFrom host env settings calls).history := by
  have begun :
      ReadBackInvariant (started host env settings).toLedger := by
    have initial : ReadBackInvariant (startLedger env settings) := by
      refine ⟨?_, fun determined => ?_, trivial⟩
      · simp [readsBack, startLedger]
      · simp [Entry.configDetermined, Entry.entered] at determined
    apply (initial.record _ _ rfl rfl).turn _
      (started_turn host env settings)
    simp [startsCleared, startLedger]
  exact
    (runFrom_invariant_of_effects
      (fun _ _ _ effect unread invariant =>
        readBack_effect effect unread invariant)
      begun unread).past

/-- A start of a module of version 1.1.0 up to the address discovery. -/
def readBackRun : List ApiCall :=
  [messageAt 1 .version [1, 1, 0], tickAt 2, tickAt 3, tickAt 4, tickAt 5,
    messageAt 6 .config (List.replicate 16 0x20)]

theorem configuration_read_back_started :
    let world :=
      runFrom sampleHost (granting 0) Settings.default readBackRun
    world.daemon.eModuleState = .determineAddress ∧
      Historically
        (fun entry past =>
          entry.configDetermined = true → readBackSinceRun past)
        world.history :=
  ⟨by decide +kernel,
    configuration_read_back sampleHost (granting 0) Settings.default
      readBackRun (by decide +kernel)⟩

/-- The module asks for its configuration: it is started again, with the flag
of the first start. -/
def staleConfigRun : List ApiCall :=
  readBackRun ++
    [messageAt 7 .configRequest [], tickAt 8, tickAt 9, tickAt 10,
      tickAt 11]

theorem configuration_not_read_back :
    ¬ ∀ host env settings calls,
      Historically
        (fun entry past =>
          entry.configDetermined = true → readBackSinceRun past)
        (runFrom host env settings calls).history := by
  intro always
  have readBack :=
    always sampleHost (granting 0) Settings.default staleConfigRun
  revert readBack
  decide +kernel

end SixLoWPANd.JennicModule
