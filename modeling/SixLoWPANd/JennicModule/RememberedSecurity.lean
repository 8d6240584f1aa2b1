import SixLoWPANd.JennicModule.Remembering

/-!
# The remembered security configuration

Of a SECURITY message the handler keeps the key only.  The SECURITY frames
after it carry the received key with the authorisation scheme and data that
the daemon already held, so the message is remembered exactly if its last 20
bytes are those.  A configuration request and a timeout tick bring the daemon
to such a frame from every state.
-/

namespace SixLoWPANd.JennicModule

open SixLoWPANd.Foundation

/-- The message is no SECURITY message. -/
def notSecurity (u8Message : UInt8) (_ : UInt32) (_ : Daemon) : Prop :=
  u8Message ≠ SLMsgType.security.code

instance (u8Message : UInt8) (u32Length : UInt32) (daemon : Daemon) :
    Decidable (notSecurity u8Message u32Length daemon) :=
  inferInstanceAs (Decidable (_ ≠ _))

/-- The SECURITY frames between `base` and the end of every run that receives
no further SECURITY message carry the payload. -/
def SecurityRemembered (host : Host) (base : List Entry) (after : World)
    (payload : List UInt8) : Prop :=
  ∀ later, EveryStep (step host) (meets notSecurity) after later →
    ∃ newer,
      (run (step host) after later).history = newer ++ base ∧
      Carries .security payload newer

/-- Only a SECURITY message changes what SECURITY frames carry. -/
theorem securityMemory_kept (host : Host) :
    securityMemory.KeptUnder host notSecurity := by
  intro now u8Message u32Length cells eStatus before after handling met
  cases handling with
  | security isSecurity =>
      exact absurd isSecurity met
  | _ =>
      rfl

/-- The key of a message is its first 16 bytes. -/
theorem ofCells_bytes (cells : Nat → UInt8) :
    (In6Addr.ofCells cells 0).bytes = (payloadOf cells 36).take 16 := by
  simp [In6Addr.ofCells, payloadOf, ← List.map_take, List.take_range]

/-! ## The way to a SECURITY frame -/

/-- From every state a configuration request leads to
`E_STATE_CONFIGURE_SECURITY`. -/
theorem configRequest_state (host : Host) (env : Env) (world : World)
    (pu8Data : Nat → UInt8) :
    (step host world
      ⟨env, .message SLMsgType.configRequest.code 0
        pu8Data⟩).daemon.eModuleState = .configureSecurity := by
  simp [step, eJennicModuleProcessMessage, handleMessage, SLMsgType.code,
    eJennicModuleProcessMessageConfigRequest, Ledger.complete,
    eJennicModuleStateMachine, caseConfigureNetwork]

/-- A tick in `E_STATE_CONFIGURE_SECURITY` writes a SECURITY frame if the
network is secure. -/
theorem tick_writes_security (host : Host) (env : Env) (world : World)
    (inState : world.daemon.eModuleState = .configureSecurity)
    (secure : world.daemon.iSecureNetwork ≠ 0) :
    ∃ newest, (step host world ⟨env, .timeout⟩).history =
        newest ++ world.history ∧
      ∃ entry ∈ newest,
        entry.event =
          .wrote .security world.daemon.securityEncoding := by
  let next : ModuleState :=
    if world.daemon.atLeast 1 1 0 then .configureProfile
    else .startModule
  refine ⟨[⟨.assigned next, env.now, world.daemon⟩,
    ⟨.wrote .security world.daemon.securityEncoding, env.now,
      world.daemon⟩,
    ⟨.called true, env.now, world.daemon⟩], ?_, ?_⟩
  · unfold step eJennicModuleStateMachine caseConfigureSecurity
    by_cases supported : world.daemon.atLeast 1 1 0 = true
    · simp [next, inState, secure, supported]
    · simp [next, inState, secure, supported]
  · simp

/-! ## What is remembered -/

section Message

variable (host : Host) (world : World) (env : Env) (pu8Data : Nat → UInt8)
variable (supported : world.daemon.atLeast 1 1 0 = true)

/-- The world after a full-size SECURITY message. -/
def afterSecurity : World :=
  step host world ⟨env, .message SLMsgType.security.code 36 pu8Data⟩

include supported

/-- After a SECURITY message its key is held with the authorisation that was
held before. -/
theorem afterSecurity_remembers :
    Remembers securityMemory
      ((payloadOf pu8Data 36).take 16 ++
        world.daemon.authorisationEncoding)
      world.history (afterSecurity host world env pu8Data).toLedger := by
  apply message_remembers
  intro eStatus handled handling
  rw [handling_security handling supported, ← ofCells_bytes]
  rfl

theorem afterSecurity_secure :
    (afterSecurity host world env pu8Data).daemon.iSecureNetwork = 1 := by
  have settings :
      (afterSecurity host world env pu8Data).daemon.toSettings =
        (world.daemon.receiveSecurity
          (In6Addr.ofCells pu8Data 0)).toSettings := by
    apply message_toSettings
    intro eStatus handled handling
    rw [handling_security handling supported]
    rfl
  rw [settings]
  rfl

/-- If all SECURITY frames carry the message, its authorisation part is the
one held before. -/
theorem authorisation_of_remembered
    (remembered : SecurityRemembered host world.history
      (afterSecurity host world env pu8Data) (payloadOf pu8Data 36)) :
    (payloadOf pu8Data 36).drop 16 =
      world.daemon.authorisationEncoding := by
  let after := afterSecurity host world env pu8Data
  let request : ApiCall :=
    ⟨env, .message SLMsgType.configRequest.code 0 pu8Data⟩
  let tick : ApiCall := ⟨env, .timeout⟩
  let requested := step host after request
  have requestMeets :
      EveryStep (step host) (meets notSecurity) after [request] :=
    ⟨by simp [meets, request, notSecurity, SLMsgType.code], trivial⟩
  have tickMeets :
      EveryStep (step host) (meets notSecurity) after [request, tick] :=
    ⟨requestMeets.1, trivial, trivial⟩
  have held :
      requested.daemon.securityEncoding =
        (payloadOf pu8Data 36).take 16 ++
          world.daemon.authorisationEncoding :=
    (run_remembers (securityMemory_kept host)
      (afterSecurity_remembers host world env pu8Data supported)
      requestMeets).held
  have secure : requested.daemon.iSecureNetwork ≠ 0 := by
    have settings :
        requested.daemon.toSettings = after.daemon.toSettings := by
      apply message_toSettings
      intro eStatus handled handling
      cases handling with
      | config accepted =>
          exact absurd accepted.1 (by decide)
      | security isSecurity =>
          exact absurd isSecurity (by decide)
      | _ =>
          rfl
    rw [settings, afterSecurity_secure host world env pu8Data supported]
    decide
  obtain ⟨newest, extended, entry, member, written⟩ :=
    tick_writes_security host env requested
      (configRequest_state host env after pu8Data) secure
  obtain ⟨middle, requestedHistory, _⟩ := remembered [request] requestMeets
  obtain ⟨newer, history, carries⟩ := remembered [request, tick] tickMeets
  have sameHistory :
      newer ++ world.history = newest ++ middle ++ world.history := by
    rw [← history, List.append_assoc, ← requestedHistory]
    exact extended
  have split : newer = newest ++ middle :=
    List.append_cancel_right sameHistory
  have same :
      requested.daemon.securityEncoding = payloadOf pu8Data 36 := by
    apply carries entry _ _ written
    rw [split]
    exact List.mem_append_left _ member
  rw [held] at same
  have dropped := congrArg (List.drop 16) same
  rw [List.drop_left' (by simp)] at dropped
  exact dropped.symm

end Message

/-- A full-size SECURITY message is remembered exactly, in every run, if and
only if its authorisation part is the one that the daemon already held. -/
theorem security_remembered_iff
    (host : Host) (env : Env) (settings : Settings)
    (earlier : List ApiCall) (messageEnv : Env) (pu8Data : Nat → UInt8)
    (supported :
      (runFrom host env settings earlier).daemon.atLeast 1 1 0 = true) :
    let before := runFrom host env settings earlier
    SecurityRemembered host before.history
        (afterSecurity host before messageEnv pu8Data)
        (payloadOf pu8Data 36) ↔
      (payloadOf pu8Data 36).drop 16 =
        before.daemon.authorisationEncoding := by
  intro before
  constructor
  · exact
      authorisation_of_remembered host before messageEnv pu8Data supported
  · intro same later met
    have remembers :=
      run_remembers (securityMemory_kept host)
        (afterSecurity_remembers host before messageEnv pu8Data supported)
        met
    rw [← same, List.take_append_drop] at remembers
    exact remembers.written

/-- A message that repeats the authorisation held, with a new key. -/
def rekeyedConfig : List UInt8 :=
  List.replicate 16 0x5A ++ List.replicate 20 0

/-- A message that names a RADIUS server. -/
def radiusConfig : List UInt8 :=
  List.replicate 16 0x5A ++ [0, 0, 0, 1] ++ List.replicate 16 0x20

/-- The settings without options hold the authorisation of `rekeyedConfig`. -/
theorem security_remembered_iff_rekeyed :
    let before :=
      runFrom sampleHost (granting 0) Settings.default
        [messageAt 1 .version [1, 1, 0]]
    SecurityRemembered sampleHost before.history
      (afterSecurity sampleHost before (granting 2)
        fun index => rekeyedConfig.getD index 0)
      rekeyedConfig :=
  (security_remembered_iff sampleHost (granting 0) Settings.default
    [messageAt 1 .version [1, 1, 0]] (granting 2)
    (fun index => rekeyedConfig.getD index 0) (by decide +kernel)).mpr
      (by decide +kernel)

/-- A reported RADIUS server is not in the SECURITY frames that follow. -/
theorem radius_server_forgotten :
    ¬ ∀ host env settings earlier messageEnv pu8Data,
      let before := runFrom host env settings earlier
      before.daemon.atLeast 1 1 0 = true →
      SecurityRemembered host before.history
        (afterSecurity host before messageEnv pu8Data)
        (payloadOf pu8Data 36) := by
  intro always
  have supported :
      (runFrom sampleHost (granting 0) Settings.default
        [messageAt 1 .version [1, 1, 0]]).daemon.atLeast 1 1 0 = true := by
    decide +kernel
  have authorisation :=
    authorisation_of_remembered sampleHost
      (runFrom sampleHost (granting 0) Settings.default
        [messageAt 1 .version [1, 1, 0]])
      (granting 2) (fun index => radiusConfig.getD index 0) supported
      (always sampleHost (granting 0) Settings.default
        [messageAt 1 .version [1, 1, 0]] (granting 2) _ supported)
  revert authorisation
  decide +kernel

end SixLoWPANd.JennicModule
