import SixLoWPANd.Foundation.Simulations
import SixLoWPANd.JennicModule.Clearance
import SixLoWPANd.JennicModule.Communication
import SixLoWPANd.MainLoop.Bridge

/-!
# The module interface as an automaton

For the module on the other end of the serial device, the interface is an
automaton: a call changes the variables and emits frames, and neither depends
on anything else.  `turnMove` and `callMove` are this automaton, written down
without logs, files and devices.  Every call of the interface makes its move,
so a run of the interface is a run of the automaton.
-/

namespace SixLoWPANd.MainLoop

open SixLoWPANd.Foundation
open SixLoWPANd.JennicModule

abbrev Frame := SLMsgType × List UInt8

/-- The variables that a call leaves and the frames that it writes. -/
structure Move where
  daemon : Daemon
  frames : List Frame
  deriving DecidableEq

/-! ## Moves of the state machine -/

def enter (eModuleState : ModuleState) (daemon : Daemon) : Daemon :=
  { daemon with eModuleState := eModuleState }

def activityLEDMove (daemon : Daemon) : Move where
  daemon := enter .running daemon
  frames :=
    if daemon.atLeast 1 3 0 ∧ daemon.eActivityLED ≠ activityLEDNone then
      [(.activityLED, [daemon.eActivityLED.toUInt8])]
    else
      []

def addressMove (bTimeout : Bool) (daemon : Daemon) : Move :=
  if daemon.sFlags.uAddressKnown then
    activityLEDMove (daemon.setRetries 0)
  else if !bTimeout then
    ⟨daemon, []⟩
  else if daemon.u32Retries + 1 < maxAddressRetries then
    ⟨(daemon.setRetries (daemon.u32Retries + 1)).forgetAddress,
      [(.addr, [])]⟩
  else
    ⟨enter .determineVersion (daemon.setRetries (daemon.u32Retries + 1)),
      [(.reset, [])]⟩

def configurationMove (bTimeout : Bool) (daemon : Daemon) : Move :=
  if daemon.sFlags.uConfigKnown then
    addressMove bTimeout (enter .determineAddress daemon).forgetAddress
  else
    ⟨daemon, [(.configRequest, [])]⟩

def frontEndMove (daemon : Daemon) : Move where
  daemon := enter .determineConfiguration daemon
  frames :=
    if daemon.atLeast 1 4 0 then
      (.setRadioFrontend, [daemon.eRadioFrontEnd.code]) ::
        (if daemon.iAntennaDiversity ≠ 0 then [(.enableDiversity, [])]
          else [])
    else
      []

/-- The frame that starts a module in the mode, if there is one. -/
def runFrames (daemon : Daemon) : List Frame :=
  match daemon.eModuleMode with
  | .coordinator => [(.runCoordinator, [])]
  | .router => [(.runRouter, [])]
  | .commissioning => [(.runCommissioning, [])]
  | .unknown _ => []

def startMove (daemon : Daemon) : Move where
  daemon :=
    if daemon.atLeast 1 4 0 then
      enter .configureFrontend daemon
    else if daemon.atLeast 1 1 0 then
      enter .determineConfiguration daemon
    else
      enter .determineAddress daemon.forgetAddress
  frames := runFrames daemon

def profileMove (daemon : Daemon) : Move where
  daemon := enter .startModule daemon
  frames :=
    if daemon.atLeast 1 1 0 then [(.profile, [daemon.u8JenNetProfile])]
    else []

def securityMove (daemon : Daemon) : Move where
  daemon :=
    enter
      (if daemon.atLeast 1 1 0 then .configureProfile else .startModule)
      daemon
  frames :=
    if daemon.iSecureNetwork ≠ 0 then
      [(.security, daemon.securityEncoding)]
    else
      []

def networkMove (daemon : Daemon) : Move where
  daemon := enter .configureSecurity daemon
  frames := [(.config, daemon.networkEncoding)]

def versionMove (daemon : Daemon) : Move :=
  if daemon.sFlags.uVersionKnown then
    networkMove (daemon.setRetries 0)
  else if daemon.u32Retries + 1 < maxVersionRetries then
    ⟨daemon.setRetries (daemon.u32Retries + 1), [(.versionRequest, [])]⟩
  else
    ⟨enter .configureNetwork (daemon.setRetries 0), []⟩

def pingMove (now : Int) (daemon : Daemon) : Move :=
  if daemon.sFlags.uSupportsPing ∧ now - daemon.sLastPing > pingInterval
  then
    ⟨{ daemon with sLastPing := now }, [(.ping, [])]⟩
  else
    ⟨daemon, []⟩

/-- The move of the state machine at a time. -/
def turnMove (now : Int) (bTimeout : Bool) (daemon : Daemon) : Move :=
  match daemon.eModuleState with
  | .idle => ⟨daemon, []⟩
  | .determineVersion => versionMove daemon
  | .configureNetwork => networkMove daemon
  | .configureSecurity => securityMove daemon
  | .configureProfile => profileMove daemon
  | .startModule => startMove daemon
  | .configureFrontend => frontEndMove daemon
  | .determineConfiguration => configurationMove bTimeout daemon
  | .determineAddress => addressMove bTimeout daemon
  | .activityLED => activityLEDMove daemon
  | .running => pingMove now daemon

/-! ## Every call makes its move -/

section Frames

variable (now : Int) (daemon : Daemon) (past : List Entry)

@[simp]
theorem emitted_wrote (u8Type : SLMsgType) (payload : List UInt8) :
    emitted (⟨.wrote u8Type payload, now, daemon⟩ :: past) =
      emitted past ++ [(u8Type, payload)] := by
  simp [emitted, frameOf]

@[simp]
theorem emitted_assigned (eModuleState : ModuleState) :
    emitted (⟨.assigned eModuleState, now, daemon⟩ :: past) =
      emitted past := by
  simp [emitted, frameOf]

@[simp]
theorem emitted_called (bTimeout : Bool) :
    emitted (⟨.called bTimeout, now, daemon⟩ :: past) = emitted past := by
  simp [emitted, frameOf]

@[simp]
theorem emitted_handled (u8Message : UInt8) (u32Length : UInt32)
    (eStatus : ModuleStatus) :
    emitted (⟨.handled u8Message u32Length eStatus, now, daemon⟩ :: past) =
      emitted past := by
  simp [emitted, frameOf]

end Frames

/-- Between the two ledgers lies the move. -/
structure Makes (move : Move) (before after : Ledger) : Prop where
  daemon : after.daemon = move.daemon
  frames :
    emitted after.history = emitted before.history ++ move.frames

section Transitions

variable {now : Int} {bTimeout : Bool} {before after : Ledger}

theorem runModule_frames (ledger : Ledger) (now : Int) :
    emitted (ledger.runModule now).history =
      emitted ledger.history ++ runFrames ledger.daemon := by
  unfold Ledger.runModule runFrames
  cases ledger.daemon.eModuleMode <;> simp

/-- A case that does not fall through makes the whole move. -/
theorem transition_makes (ends : fallsThrough before.daemon = false)
    (transition : Transition now bTimeout before after) :
    Makes (turnMove now bTimeout before.daemon) before after := by
  cases transition with
  | versionKnown inState known | configurationKnown inState known
  | addressKnown inState known =>
      simp [fallsThrough, inState, known] at ends
  | requestVersion inState unknown remaining =>
      constructor
      · simp [turnMove, inState, versionMove, unknown, remaining]
      · simp [turnMove, inState, versionMove, unknown, remaining]
  | presumeVersion inState unknown exhausted =>
      constructor
      · simp [turnMove, inState, versionMove, unknown, exhausted, enter]
      · simp [turnMove, inState, versionMove, unknown, exhausted]
  | configureNetwork inState =>
      constructor
      · simp [turnMove, inState, networkMove, enter]
      · simp [turnMove, inState, networkMove]
  | configureSecurity inState secure chosen =>
      constructor
      · simp [turnMove, inState, securityMove, enter, chosen]
      · simp [turnMove, inState, securityMove, secure]
  | skipSecurity inState open_ chosen =>
      constructor
      · simp [turnMove, inState, securityMove, enter, chosen]
      · simp [turnMove, inState, securityMove, open_]
  | configureProfile inState supported | skipProfile inState supported =>
      constructor
      · simp [turnMove, inState, profileMove, enter]
      · simp [turnMove, inState, profileMove, supported]
  | startModule inState chosen supported =>
      constructor
      · by_cases frontEnd : before.daemon.atLeast 1 4 0 = true
        · simp [turnMove, inState, startMove, enter, chosen, frontEnd]
        · have noted := supported.resolve_left frontEnd
          simp [turnMove, inState, startMove, enter, chosen, frontEnd,
            noted]
      · simp [turnMove, inState, startMove, runModule_frames]
  | startOldModule inState noFrontEnd unsupported =>
      constructor
      · simp [turnMove, inState, startMove, enter, noFrontEnd, unsupported]
      · simp [turnMove, inState, startMove, runModule_frames]
  | configureFrontEnd inState supported diversity
  | configureFrontEndDiversity inState supported diversity =>
      constructor
      · simp [turnMove, inState, frontEndMove, enter]
      · simp [turnMove, inState, frontEndMove, supported, diversity]
  | skipFrontEnd inState unsupported =>
      constructor
      · simp [turnMove, inState, frontEndMove, enter]
      · simp [turnMove, inState, frontEndMove, unsupported]
  | requestConfiguration inState unknown =>
      constructor
      · simp [turnMove, inState, configurationMove, unknown]
      · simp [turnMove, inState, configurationMove, unknown]
  | requestAddress inState unknown timeout remaining =>
      constructor
      · simp [turnMove, inState, addressMove, unknown, timeout, remaining]
      · simp [turnMove, inState, addressMove, unknown, timeout, remaining]
  | resetModule inState unknown timeout exhausted =>
      constructor
      · simp [turnMove, inState, addressMove, unknown, timeout, exhausted,
          enter]
      · simp [turnMove, inState, addressMove, unknown, timeout, exhausted]
  | activityLED inState supported configured =>
      constructor
      · simp [turnMove, inState, activityLEDMove, enter]
      · simp [turnMove, inState, activityLEDMove, supported, configured]
  | skipActivityLED inState skipped =>
      constructor
      · simp [turnMove, inState, activityLEDMove, enter]
      · simp [turnMove, inState, activityLEDMove, skipped]
  | ping inState supported due =>
      constructor
      · simp [turnMove, inState, pingMove, supported, due]
      · simp [turnMove, inState, pingMove, supported, due]

/-- A case that falls through leaves the whole move to the next one. -/
theorem fall_keeps_move (falls : fallsThrough before.daemon = true)
    (transition : Transition now bTimeout before after) :
    turnMove now bTimeout after.daemon =
        turnMove now bTimeout before.daemon ∧
      emitted after.history = emitted before.history := by
  cases transition with
  | versionKnown inState known =>
      have move :
          turnMove now bTimeout before.daemon =
            networkMove (before.daemon.setRetries 0) := by
        simp [turnMove, inState, versionMove, known]
      exact ⟨by rw [move]; rfl, by simp⟩
  | configurationKnown inState known =>
      have move :
          turnMove now bTimeout before.daemon =
            addressMove bTimeout
              (enter .determineAddress before.daemon).forgetAddress := by
        simp [turnMove, inState, configurationMove, known]
      exact ⟨by rw [move]; rfl, by simp⟩
  | addressKnown inState known =>
      have move :
          turnMove now bTimeout before.daemon =
            activityLEDMove (before.daemon.setRetries 0) := by
        simp [turnMove, inState, addressMove, known]
      exact ⟨by rw [move]; rfl, by simp⟩
  | presumeVersion inState unknown | requestVersion inState unknown
  | requestConfiguration inState unknown
  | requestAddress inState unknown | resetModule inState unknown =>
      simp [fallsThrough, inState, unknown] at falls
  | _ inState =>
      simp [fallsThrough, inState] at falls

/-- A case that does nothing is a move that does nothing. -/
theorem turnMove_of_waits {daemon : Daemon}
    (waiting : waits now bTimeout daemon = true) :
    turnMove now bTimeout daemon = ⟨daemon, []⟩ := by
  unfold waits at waiting
  unfold turnMove
  split at waiting
  · rename_i inState
    simp [inState]
  · rename_i inState
    simp only [Bool.and_eq_true, Bool.not_eq_true'] at waiting
    simp [inState, addressMove, waiting]
  · rename_i inState
    have idle : ¬ (daemon.sFlags.uSupportsPing ∧
        now - daemon.sLastPing > pingInterval) := by
      rintro ⟨supported, due⟩
      simp [supported, due] at waiting
    rw [inState]
    simp only [pingMove, if_neg idle]
  · cases waiting

/-- Whatever a turn does is the move of the automaton. -/
theorem turn_makes (turn : Turn now bTimeout before after) :
    Makes (turnMove now bTimeout before.daemon) before after := by
  induction turn with
  | wait waiting =>
      rw [turnMove_of_waits waiting]
      exact ⟨rfl, (List.append_nil _).symm⟩
  | last ends transition =>
      exact transition_makes ends transition
  | fall falls transition _ inductionHypothesis =>
      obtain ⟨sameMove, sameFrames⟩ := fall_keeps_move falls transition
      rw [sameMove] at inductionHypothesis
      exact
        ⟨inductionHypothesis.daemon,
          by rw [inductionHypothesis.frames, sameFrames]⟩

end Transitions

/-! ## Moves of messages -/

/-- Whether all operations on the address file succeed. -/
def addressStored (env : Env) : Bool :=
  env.openFile.isOk && env.writeAddress.isOk && env.writeNewline.isOk

/-- The status of a handler and the variables that it leaves. -/
def handledMove (host : Host) (env : Env) (u8Message : UInt8)
    (u32Length : UInt32) (cells : Nat → UInt8) (daemon : Daemon) :
    ModuleStatus × Daemon :=
  if u8Message = SLMsgType.ipv6.code then
    (if env.tunWrite % 4294967296 = u32Length.toNat then .ok else .error,
      daemon)
  else if u8Message = SLMsgType.config.code then
    if u32Length = 3 then
      (.ok, daemon.reportVersion (cells 0) (cells 1) (cells 2))
    else if daemon.atLeast 1 1 0 then
      (.ok,
        daemon.receiveConfig host.endian
          (ModuleConfigV10.ofCells host.endian cells))
    else
      (.ok, daemon)
  else if u8Message = SLMsgType.security.code then
    if daemon.atLeast 1 1 0 then
      (.ok, daemon.receiveSecurity (In6Addr.ofCells cells 0))
    else
      (.ok, daemon)
  else if u8Message = SLMsgType.addr.code then
    if addressStored env then (.ok, daemon.learnAddress)
    else (.error, daemon)
  else if u8Message = SLMsgType.configRequest.code then
    (.ok, enter .configureNetwork daemon)
  else if u8Message = SLMsgType.log.code then
    (.ok, daemon)
  else if u8Message = SLMsgType.version.code then
    (.ok, daemon.reportVersion (cells 0) (cells 1) (cells 2))
  else if u8Message = SLMsgType.ping.code then
    (.ok, daemon)
  else
    (.error, daemon)

/-- The move of a message. -/
def messageMove (host : Host) (env : Env) (u8Message : UInt8)
    (u32Length : UInt32) (cells : Nat → UInt8) (daemon : Daemon) : Move :=
  let handled := handledMove host env u8Message u32Length cells daemon
  let spoken := { handled.2 with sLastSuccessfulComms := env.now }
  if handled.1 = .ok then turnMove env.now false spoken
  else ⟨spoken, []⟩

/-- The move of a call. -/
def callMove (host : Host) (daemon : Daemon) (call : ApiCall) : Move :=
  match call.input with
  | .message u8Message u32Length pu8Data =>
      messageMove host call.env u8Message u32Length pu8Data daemon
  | .timeout => turnMove call.env.now true daemon
  | .tunPacket read =>
      ⟨daemon, if read.buf = [] then [] else [(.ipv6, read.buf)]⟩

/-- A handler leaves the status and the variables and writes no frame. -/
structure HandlerMakes (world : World) (handled : ModuleStatus × Daemon)
    (outcome : Outcome) : Prop where
  eStatus : outcome.eStatus = handled.1
  daemon : outcome.world.daemon = handled.2
  frames : emitted outcome.world.history = emitted world.history

section Handlers

variable (host : Host) (env : Env) (u32Length : UInt32)
variable (pu8Data : TracedMemory UInt8) (world : World)

theorem processMessageIPv6_makes :
    HandlerMakes world
      (if env.tunWrite % 4294967296 = u32Length.toNat then .ok else .error,
        world.daemon)
      (eJennicModuleProcessMessageIPv6 env u32Length pu8Data world) := by
  unfold eJennicModuleProcessMessageIPv6 eTunDeviceWritePacket
  by_cases whole : env.tunWrite % 4294967296 = u32Length.toNat
  · simp only [whole, decide_true, Bool.not_true, Bool.false_eq_true,
      if_false, if_true]
    exact ⟨rfl, rfl, rfl⟩
  · simp only [whole, decide_false, Bool.not_false, if_true, if_false]
    exact ⟨rfl, rfl, rfl⟩

theorem processMessageConfig_makes :
    HandlerMakes world
      (if u32Length = 3 then
        (.ok,
          world.daemon.reportVersion (pu8Data.cells 0) (pu8Data.cells 1)
            (pu8Data.cells 2))
      else if world.daemon.atLeast 1 1 0 then
        (.ok,
          world.daemon.receiveConfig host.endian
            (ModuleConfigV10.ofCells host.endian pu8Data.cells))
      else
        (.ok, world.daemon))
      (eJennicModuleProcessMessageConfig host env u32Length pu8Data
        world) := by
  unfold eJennicModuleProcessMessageConfig
  refine ite_related Iff.rfl (fun _ => ⟨rfl, rfl, rfl⟩) fun _ => ?_
  refine ite_related Iff.rfl (fun _ => ?_) fun _ => ⟨rfl, rfl, rfl⟩
  dsimp only
  refine ⟨rfl, ?_, ?_⟩
  · rw [notifyConfigChanged_toLedger]
    rfl
  · rw [notifyConfigChanged_toLedger]
    rfl

theorem processMessageSecurity_makes :
    HandlerMakes world
      (if world.daemon.atLeast 1 1 0 then
        (.ok,
          world.daemon.receiveSecurity (In6Addr.ofCells pu8Data.cells 0))
      else
        (.ok, world.daemon))
      (eJennicModuleProcessMessageSecurity host pu8Data world) := by
  unfold eJennicModuleProcessMessageSecurity
  refine ite_related Iff.rfl (fun _ => ?_) fun _ => ⟨rfl, rfl, rfl⟩
  refine ⟨rfl, ?_, rfl⟩
  rw [← In6Addr.load_fst]
  rfl

theorem writeAddressFile_stored (buffer : String) :
    (writeAddressFile host env buffer world).1 = addressStored env := by
  unfold writeAddressFile addressStored
  cases env.openFile with
  | error text =>
      rfl
  | ok opened =>
      cases env.writeAddress with
      | error text =>
          rfl
      | ok accepted =>
          cases env.writeNewline with
          | error text =>
              rfl
          | ok accepted =>
              rfl

theorem processMessageIPv6Address_makes :
    HandlerMakes world
      (if addressStored env then (.ok, world.daemon.learnAddress)
      else (.error, world.daemon))
      (eJennicModuleProcessMessageIPv6Address host env pu8Data world) := by
  unfold eJennicModuleProcessMessageIPv6Address
  refine ite_related (by rw [writeAddressFile_stored])
    (fun _ => ⟨rfl, ?_, ?_⟩) fun _ => ⟨rfl, ?_, ?_⟩
  · simp
  · simp
  · simp
  · simp

theorem ping_makes :
    HandlerMakes world (.ok, world.daemon)
      ⟨(eJennicModulePing env true world).1, pu8Data,
        (eJennicModulePing env true world).2⟩ := by
  have ledger := ping_received_toLedger env world
  refine ⟨?_, by dsimp only; rw [ledger], by dsimp only; rw [ledger]⟩
  unfold eJennicModulePing
  split
  · rfl
  · rfl

/-- Every handler makes its move. -/
theorem handleMessage_makes (u8Message : UInt8) :
    HandlerMakes world
      (handledMove host env u8Message u32Length pu8Data.cells
        world.daemon)
      (handleMessage host env u8Message u32Length pu8Data world) := by
  unfold handledMove handleMessage
  refine ite_related Iff.rfl
    (fun _ => processMessageIPv6_makes env u32Length pu8Data world)
    fun _ => ?_
  refine ite_related Iff.rfl
    (fun _ => processMessageConfig_makes host env u32Length pu8Data world)
    fun _ => ?_
  refine ite_related Iff.rfl
    (fun _ => processMessageSecurity_makes host pu8Data world) fun _ => ?_
  refine ite_related Iff.rfl
    (fun _ => processMessageIPv6Address_makes host env pu8Data world)
    fun _ => ?_
  refine ite_related Iff.rfl
    (fun _ => ⟨rfl, rfl, emitted_assigned _ _ _ _⟩) fun _ => ?_
  refine ite_related Iff.rfl (fun _ => ⟨rfl, rfl, rfl⟩) fun _ => ?_
  refine ite_related Iff.rfl (fun _ => ⟨rfl, rfl, rfl⟩) fun _ => ?_
  exact ite_related Iff.rfl (fun _ => ping_makes env pu8Data world)
    fun _ => ⟨rfl, rfl, rfl⟩

/-- Every call of the state machine makes its move. -/
theorem stateMachine_makes (bTimeout : Bool) :
    Makes (turnMove env.now bTimeout world.daemon) world.toLedger
      (eJennicModuleStateMachine host env bTimeout world).2.toLedger := by
  have turn := turn_makes (stateMachine_turn host env bTimeout world)
  exact ⟨turn.daemon, by rw [turn.frames]; simp⟩

/-- Every message makes its move. -/
theorem processMessage_makes (u8Message : UInt8) :
    Makes
      (messageMove host env u8Message u32Length pu8Data.cells world.daemon)
      world.toLedger
      (eJennicModuleProcessMessage host env u8Message u32Length pu8Data
        world).world.toLedger := by
  have handled :=
    handleMessage_makes host env u32Length pu8Data world u8Message
  unfold messageMove eJennicModuleProcessMessage
  dsimp only
  rw [handled.eStatus]
  by_cases accepted :
      (handledMove host env u8Message u32Length pu8Data.cells
        world.daemon).1 = .ok
  · rw [if_pos accepted, if_pos accepted, ← handled.daemon]
    have turn :=
      stateMachine_makes host env
        { (handleMessage host env u8Message u32Length pu8Data
            world).world with
          toLedger :=
            (handleMessage host env u8Message u32Length pu8Data
              world).world.toLedger.complete env.now u8Message u32Length
                (handledMove host env u8Message u32Length pu8Data.cells
                  world.daemon).1 }
        false
    refine ⟨turn.daemon, turn.frames.trans ?_⟩
    simp [Ledger.complete, handled.frames]
  · rw [if_neg accepted, if_neg accepted]
    constructor
    · simp [Ledger.complete, handled.daemon]
    · simp [Ledger.complete, handled.frames]

/-- The status of a message is the status of its handler. -/
theorem processMessage_status (u8Message : UInt8) :
    (eJennicModuleProcessMessage host env u8Message u32Length pu8Data
        world).eStatus =
      (handledMove host env u8Message u32Length pu8Data.cells
        world.daemon).1 := by
  have handled :=
    handleMessage_makes host env u32Length pu8Data world u8Message
  have heard :=
    processMessage_eStatus host env u8Message u32Length pu8Data world
  unfold eJennicModuleProcessMessage at heard ⊢
  dsimp only at heard ⊢
  rw [handled.eStatus] at heard ⊢
  by_cases accepted :
      (handledMove host env u8Message u32Length pu8Data.cells
        world.daemon).1 = .ok
  · rw [if_pos accepted] at heard ⊢
    dsimp only at heard ⊢
    rw [stateMachine_eStatus] at heard ⊢
    split
    · rename_i silent
      rw [if_pos silent] at heard
      exact absurd rfl heard
    · exact accepted.symm
  · rw [if_neg accepted]

/-- Every call makes its move. -/
theorem step_makes (call : ApiCall) :
    Makes (callMove host world.daemon call) world.toLedger
      (step host world call).toLedger := by
  obtain ⟨env, input⟩ := call
  cases input with
  | message u8Message u32Length pu8Data =>
      exact
        processMessage_makes host env u32Length
          (TracedMemory.untouched pu8Data) world u8Message
  | timeout =>
      exact stateMachine_makes host env world true
  | tunPacket read =>
      unfold callMove step
      dsimp only
      rw [eTunDeviceReadPacket_toLedger]
      by_cases nothing : read.buf = []
      · simp only [nothing, if_true]
        exact ⟨rfl, (List.append_nil _).symm⟩
      · simp only [nothing, if_false]
        exact ⟨rfl, emitted_wrote _ _ _ _ _⟩

end Handlers

/-! ## Runs of the automaton -/

/-- The variables behind the move of a call. -/
def nextDaemon (host : Host) (daemon : Daemon) (call : ApiCall) : Daemon :=
  (callMove host daemon call).daemon

/-- The frames of the move of a call. -/
def emits (host : Host) (daemon : Daemon) (call : ApiCall) : List Frame :=
  (callMove host daemon call).frames

/-- A run of the interface is a run of the automaton. -/
theorem run_moves (host : Host) (world : World) (calls : List ApiCall) :
    (run (step host) world calls).daemon =
        run (nextDaemon host) world.daemon calls ∧
      emitted (run (step host) world calls).history =
        emitted world.history ++
          actions (nextDaemon host) (emits host) world.daemon calls :=
  @run_transduces World Daemon ApiCall Frame (step host) (nextDaemon host)
    (emits host) (fun world => world.daemon)
    (fun world => emitted world.history)
    (fun world call => (step_makes host world call).daemon)
    (fun world call => (step_makes host world call).frames) world calls

/-- A run begins with a request for the version. -/
theorem started_makes (host : Host) (env : Env) (settings : Settings) :
    (started host env settings).daemon =
        { Daemon.boot settings with
          eModuleState := .determineVersion
          u32Retries := 1 } ∧
      emitted (started host env settings).history =
        [(.versionRequest, [])] := by
  have turn := turn_makes (started_turn host env settings)
  constructor
  · rw [turn.daemon]
    rfl
  · rw [turn.frames]
    rfl

end SixLoWPANd.MainLoop
