import SixLoWPANd.JennicModule.Runs

/-!
# Remembered configurations

The network configuration and the security configuration are remembered in the
same way: a frame of the one type carries the encoding of the settings held
when it is written, and only certain messages change what is encoded.
`Memory` is such a pair of frame type and encoding.  `run_remembers` says that
as long as no message changes the encoding, every frame of the type carries
it.
-/

namespace SixLoWPANd.JennicModule

open SixLoWPANd.Foundation

/-- Every frame of the type among the entries carries the payload. -/
def Carries (u8Type : SLMsgType) (payload : List UInt8)
    (entries : List Entry) : Prop :=
  ∀ entry ∈ entries, ∀ written,
    entry.event = .wrote u8Type written → written = payload

@[simp]
theorem carries_nil (u8Type : SLMsgType) (payload : List UInt8) :
    Carries u8Type payload [] := by
  simp [Carries]

@[simp]
theorem carries_cons (u8Type : SLMsgType) (payload : List UInt8)
    (entry : Entry) (entries : List Entry) :
    Carries u8Type payload (entry :: entries) ↔
      (∀ written,
        entry.event = .wrote u8Type written → written = payload) ∧
      Carries u8Type payload entries := by
  simp [Carries]

theorem carries_append (u8Type : SLMsgType) (payload : List UInt8)
    (newer older : List Entry) :
    Carries u8Type payload (newer ++ older) ↔
      Carries u8Type payload newer ∧ Carries u8Type payload older := by
  simp [Carries, or_imp, forall_and]

/-- No transition changes the settings. -/
theorem transition_toSettings {now : Int} {bTimeout : Bool}
    {before after : Ledger}
    (transition : Transition now bTimeout before after) :
    after.daemon.toSettings = before.daemon.toSettings := by
  cases transition <;>
    simp [Daemon.setRetries, Daemon.forgetAddress]

theorem transition_version {now : Int} {bTimeout : Bool}
    {before after : Ledger}
    (transition : Transition now bTimeout before after) :
    after.daemon.u32JennicDeviceVersion =
      before.daemon.u32JennicDeviceVersion := by
  cases transition <;>
    simp [Daemon.setRetries, Daemon.forgetAddress]

/-- The start of the module writes neither a CONFIG nor a SECURITY frame. -/
theorem runModule_frames (ledger : Ledger) (now : Int)
    (config security : List UInt8) :
    ∃ newer, (ledger.runModule now).history = newer ++ ledger.history ∧
      Carries .config config newer ∧ Carries .security security newer := by
  unfold Ledger.runModule
  split
  · exact ⟨[_], rfl, by simp, by simp⟩
  · exact ⟨[_], rfl, by simp, by simp⟩
  · exact ⟨[_], rfl, by simp, by simp⟩
  · exact ⟨[], rfl, by simp, by simp⟩

/-- The CONFIG and SECURITY frames of a transition carry the encodings of the
settings held. -/
theorem transition_frames {now : Int} {bTimeout : Bool}
    {before after : Ledger}
    (transition : Transition now bTimeout before after) :
    ∃ newer, after.history = newer ++ before.history ∧
      Carries .config before.daemon.networkEncoding newer ∧
      Carries .security before.daemon.securityEncoding newer := by
  cases transition with
  | requestVersion | requestConfiguration | requestAddress | ping =>
      exact ⟨[_], rfl, by simp, by simp⟩
  | presumeVersion | versionKnown | skipSecurity | skipProfile
  | skipFrontEnd | configurationKnown | addressKnown
  | skipActivityLED =>
      exact ⟨[_], rfl, by simp, by simp⟩
  | configureNetwork | configureSecurity | configureProfile
  | configureFrontEnd | activityLED | resetModule =>
      exact ⟨[_, _], rfl, by simp, by simp⟩
  | configureFrontEndDiversity =>
      exact ⟨[_, _, _], rfl, by simp, by simp⟩
  | @startModule next =>
      obtain ⟨newer, written, config, security⟩ :=
        runModule_frames before now before.daemon.networkEncoding
          before.daemon.securityEncoding
      refine ⟨⟨.assigned next, now, (before.runModule now).daemon⟩ ::
        newer, ?_, ?_, ?_⟩
      · rw [Ledger.assign_history, written]
        rfl
      · simpa using config
      · simpa using security
  | startOldModule =>
      obtain ⟨newer, written, config, security⟩ :=
        runModule_frames before now before.daemon.networkEncoding
          before.daemon.securityEncoding
      refine ⟨⟨.assigned .determineAddress, now,
        (before.runModule now).daemon.forgetAddress⟩ :: newer,
        ?_, ?_, ?_⟩
      · rw [Ledger.assign_history, Ledger.update_history, written]
        rfl
      · simpa using config
      · simpa using security

/-- A frame type whose frames carry an encoding of the settings. -/
structure Memory where
  u8Type : SLMsgType
  encoding : Settings → List UInt8
  /-- The frames of the state machine carry the encoding. -/
  encoded : ∀ {now bTimeout before after},
    Transition now bTimeout before after →
      ∃ newer, after.history = newer ++ before.history ∧
        Carries u8Type (encoding before.daemon.toSettings) newer
  /-- Packets from the TUN device travel in frames of another type. -/
  separate : u8Type ≠ .ipv6

/-- CONFIG frames carry the network configuration. -/
def networkMemory : Memory where
  u8Type := .config
  encoding := Settings.networkEncoding
  encoded := by
    intro now bTimeout before after transition
    obtain ⟨newer, written, config, _⟩ := transition_frames transition
    exact ⟨newer, written, config⟩
  separate := by decide

/-- SECURITY frames carry the security configuration. -/
def securityMemory : Memory where
  u8Type := .security
  encoding := Settings.securityEncoding
  encoded := by
    intro now bTimeout before after transition
    obtain ⟨newer, written, _, security⟩ := transition_frames transition
    exact ⟨newer, written, security⟩
  separate := by decide

/-- The payload is what the settings encode, and all frames of the type since
`base` carry it. -/
structure Remembers (memory : Memory) (payload : List UInt8)
    (base : List Entry) (ledger : Ledger) : Prop where
  held : memory.encoding ledger.daemon.toSettings = payload
  written : ∃ newer, ledger.history = newer ++ base ∧
    Carries memory.u8Type payload newer

namespace Remembers

variable {memory : Memory} {payload : List UInt8} {base : List Entry}
variable {ledger : Ledger}

theorem record (remembers : Remembers memory payload base ledger)
    (now : Int) (event : Event)
    (other : ∀ written, event ≠ .wrote memory.u8Type written) :
    Remembers memory payload base (ledger.record now event) where
  held := remembers.held
  written := by
    obtain ⟨newer, history, carries⟩ := remembers.written
    refine ⟨_ :: newer, by rw [Ledger.record_history, history]; rfl, ?_⟩
    rw [carries_cons]
    exact ⟨fun written same => absurd same (other written), carries⟩

theorem update (remembers : Remembers memory payload base ledger)
    (change : Daemon → Daemon)
    (kept : memory.encoding (change ledger.daemon).toSettings =
      memory.encoding ledger.daemon.toSettings) :
    Remembers memory payload base (ledger.update change) where
  held := kept.trans remembers.held
  written := remembers.written

theorem transition {now : Int} {bTimeout : Bool} {after : Ledger}
    (remembers : Remembers memory payload base ledger)
    (transition : Transition now bTimeout ledger after) :
    Remembers memory payload base after where
  held := by
    rw [transition_toSettings transition]
    exact remembers.held
  written := by
    obtain ⟨newer, history, carries⟩ := remembers.written
    obtain ⟨newest, extended, encoded⟩ := memory.encoded transition
    refine ⟨newest ++ newer, ?_, ?_⟩
    · rw [extended, history, List.append_assoc]
    · rw [carries_append]
      rw [remembers.held] at encoded
      exact ⟨encoded, carries⟩

theorem complete (remembers : Remembers memory payload base ledger)
    (now : Int) (u8Message : UInt8) (u32Length : UInt32)
    (eStatus : ModuleStatus) :
    Remembers memory payload base
      (ledger.complete now u8Message u32Length eStatus) :=
  (remembers.record now _ (by simp)).update _ rfl

end Remembers

/-- No message that meets the guard changes what the memory encodes. -/
def Memory.KeptUnder (memory : Memory) (host : Host)
    (guard : UInt8 → UInt32 → Daemon → Prop) : Prop :=
  ∀ {now u8Message u32Length cells eStatus before after},
    Handling host now u8Message u32Length cells eStatus before after →
    guard u8Message u32Length before.daemon →
    memory.encoding after.daemon.toSettings =
      memory.encoding before.daemon.toSettings

/-- A handler writes no frame. -/
theorem handling_history {host : Host} {now : Int} {u8Message : UInt8}
    {u32Length : UInt32} {cells : Nat → UInt8} {eStatus : ModuleStatus}
    {before after : Ledger}
    (handling : Handling host now u8Message u32Length cells eStatus
      before after)
    (u8Type : SLMsgType) (payload : List UInt8) :
    ∃ newer, after.history = newer ++ before.history ∧
      Carries u8Type payload newer := by
  cases handling with
  | configRequest =>
      exact ⟨[_], rfl, by simp⟩
  | _ =>
      exact ⟨[], rfl, by simp⟩

section Runs

variable {host : Host} {memory : Memory} {payload : List UInt8}
variable {base : List Entry} {guard : UInt8 → UInt32 → Daemon → Prop}

theorem action_remembers (kept : memory.KeptUnder host guard)
    {now : Int} {before after : Ledger}
    (action : Action host guard now before after)
    (remembers : Remembers memory payload base before) :
    Remembers memory payload base after := by
  cases action with
  | @handled _ _ _ _ _ handled handling met =>
      apply Remembers.complete
      constructor
      · rw [kept handling met]
        exact remembers.held
      · obtain ⟨newer, history, carries⟩ := remembers.written
        obtain ⟨newest, extended, silent⟩ :=
          handling_history handling memory.u8Type payload
        refine ⟨newest ++ newer, ?_, ?_⟩
        · rw [extended, history, List.append_assoc]
        · exact (carries_append _ _ _ _).mpr ⟨silent, carries⟩
  | called bTimeout =>
      exact remembers.record now _ (by simp)
  | transition transition =>
      exact remembers.transition transition
  | forwarded packet =>
      apply remembers.record now
      intro written same
      simp only [Event.wrote.injEq] at same
      exact memory.separate same.1.symm

/-- After a message whose handler leaves settings that encode the payload, the
payload is remembered. -/
theorem message_remembers {world : World} {env : Env} {u8Message : UInt8}
    {u32Length : UInt32} {pu8Data : Nat → UInt8}
    (received : ∀ {eStatus handled},
      Handling host env.now u8Message u32Length pu8Data eStatus
        world.toLedger handled →
      memory.encoding handled.daemon.toSettings = payload) :
    Remembers memory payload world.history
      (step host world
        ⟨env, .message u8Message u32Length pu8Data⟩).toLedger := by
  obtain ⟨eStatus, handled, handling, rejected | accepted⟩ :=
    processMessage_cases host env u8Message u32Length
      (TracedMemory.untouched pu8Data) world
  · have remembers : Remembers memory payload world.history handled :=
      ⟨received handling, handling_history handling _ _⟩
    simpa only [step, rejected.2] using remembers.complete _ _ _ _
  · obtain ⟨rfl, transitions⟩ := accepted
    have remembers : Remembers memory payload world.history handled :=
      ⟨received handling, handling_history handling _ _⟩
    apply transitions_invariant _ transitions
    · exact
        (remembers.complete env.now u8Message u32Length .ok).record
          env.now _ (by simp)
    · exact fun _ _ transition remembers =>
        remembers.transition transition

/-- A part of the variables that neither the state machine nor the completion
of a message changes is after a message what its handler left. -/
theorem message_part {α : Type} {part : Daemon → α} {value : α}
    (stable : ∀ {now bTimeout before after},
      Transition now bTimeout before after →
        part after.daemon = part before.daemon)
    (communicated : ∀ daemon now,
      part { daemon with sLastSuccessfulComms := now } = part daemon)
    {world : World} {env : Env} {u8Message : UInt8} {u32Length : UInt32}
    {pu8Data : Nat → UInt8}
    (received : ∀ {eStatus handled},
      Handling host env.now u8Message u32Length pu8Data eStatus
        world.toLedger handled →
      part handled.daemon = value) :
    part (step host world
      ⟨env, .message u8Message u32Length pu8Data⟩).daemon = value := by
  obtain ⟨eStatus, handled, handling, rejected | accepted⟩ :=
    processMessage_cases host env u8Message u32Length
      (TracedMemory.untouched pu8Data) world
  · have settled : part handled.daemon = value := received handling
    rw [step, rejected.2]
    exact (communicated _ _).trans settled
  · obtain ⟨rfl, transitions⟩ := accepted
    have settled : part handled.daemon = value := received handling
    apply
      @transitions_invariant env.now false fun ledger =>
        part ledger.daemon = value
    · intro before after transition held
      exact (stable transition).trans held
    · exact transitions
    · exact (communicated _ _).trans settled

/-- The settings after a message are those its handler leaves. -/
theorem message_toSettings {world : World} {env : Env} {u8Message : UInt8}
    {u32Length : UInt32} {pu8Data : Nat → UInt8} {settings : Settings}
    (received : ∀ {eStatus handled},
      Handling host env.now u8Message u32Length pu8Data eStatus
        world.toLedger handled →
      handled.daemon.toSettings = settings) :
    (step host world
      ⟨env, .message u8Message u32Length pu8Data⟩).daemon.toSettings =
        settings :=
  message_part transition_toSettings (fun _ _ => rfl) received

/-- As long as no message changes what is encoded, every frame of the type
carries it. -/
theorem run_remembers (kept : memory.KeptUnder host guard)
    {world : World} {later : List ApiCall}
    (remembers : Remembers memory payload base world.toLedger)
    (met : EveryStep (step host) (meets guard) world later) :
    Remembers memory payload base
      (run (step host) world later).toLedger :=
  @run_invariant World ApiCall (step host)
    (fun world => Remembers memory payload base world.toLedger)
    (meets guard)
    (step_preserves fun _ _ _ action => action_remembers kept action)
    _ _ remembers met

end Runs

end SixLoWPANd.JennicModule
