import SixLoWPANd.MainLoop.Automaton
import SixLoWPANd.MainLoop.InterfaceCalls

/-!
# Taking up a module again

A module that asks for its configuration, reports its version with each of the
next four messages and then its configuration and its address is running
behind the seventh message, wherever the daemon stood before: whatever state it
was in, whatever it believed about the module and whatever the version is.
-/

namespace SixLoWPANd.MainLoop

open SixLoWPANd.Foundation
open SixLoWPANd.JennicModule

/-- A CONFIG_REQUEST message. -/
def requestCall (env : Env) : ApiCall where
  env := env
  input := .message SLMsgType.configRequest.code 0 fun _ => 0

/-- A VERSION message. -/
def versionCall (env : Env) (version : Nat → UInt8) : ApiCall where
  env := env
  input := .message SLMsgType.version.code 3 version

/-- A CONFIG message with a whole configuration. -/
def configCall (env : Env) (configuration : Nat → UInt8) : ApiCall where
  env := env
  input := .message SLMsgType.config.code 16 configuration

/-- An ADDR message. -/
def addrCall (env : Env) (address : Nat → UInt8) : ApiCall where
  env := env
  input := .message SLMsgType.addr.code 16 address

/-- The seven messages. -/
def takeUp (env : Nat → Env) (version configuration address : Nat → UInt8) :
    List ApiCall :=
  [requestCall (env 0), versionCall (env 1) version,
    versionCall (env 2) version, versionCall (env 3) version,
    versionCall (env 4) version, configCall (env 5) configuration,
    addrCall (env 6) address]

/-- The version that three bytes report. -/
def reportedVersion (version : Nat → UInt8) : UInt32 :=
  jennicVersion (version 0).toUInt32 (version 1).toUInt32
    (version 2).toUInt32

/-! ## The moves of the seven messages -/

/-- The daemon has heard the version. -/
def heard (env : Env) (version : Nat → UInt8) (daemon : Daemon) : Daemon :=
  { daemon.reportVersion (version 0) (version 1) (version 2) with
    sLastSuccessfulComms := env.now }

section Moves

variable (host : Host) (env : Env) (daemon : Daemon)
variable (version configuration address : Nat → UInt8)

theorem requestCall_move :
    callMove host daemon (requestCall env) =
      networkMove
        (enter .configureNetwork
          { daemon with sLastSuccessfulComms := env.now }) := rfl

theorem configCall_move :
    callMove host daemon (configCall env configuration) =
      turnMove env.now false
        { (if daemon.atLeast 1 1 0 then
            daemon.receiveConfig host.endian
              (ModuleConfigV10.ofCells host.endian configuration)
          else daemon) with sLastSuccessfulComms := env.now } := by
  unfold callMove configCall messageMove handledMove
  by_cases supported : daemon.atLeast 1 1 0 = true
  · simp [supported, SLMsgType.code]
  · simp [supported, SLMsgType.code]

theorem addrCall_move (stored : addressStored env = true) :
    callMove host daemon (addrCall env address) =
      turnMove env.now false
        { daemon.learnAddress with sLastSuccessfulComms := env.now } := by
  simp [callMove, addrCall, messageMove, handledMove, SLMsgType.code,
    stored]

end Moves

/-! ## Where the daemon stands -/

/-- What is known of the variables from one message to the next. -/
structure Stands (settings : Settings) (version : UInt32)
    (configKnown : Bool) (eModuleState : ModuleState) (daemon : Daemon) :
    Prop where
  settings : daemon.toSettings = settings
  version : daemon.u32JennicDeviceVersion = version
  configKnown : daemon.sFlags.uConfigKnown = configKnown
  state : daemon.eModuleState = eModuleState
  address : eModuleState = .determineAddress →
    daemon.sFlags.uAddressKnown = false

/-- The state is left for one in which no address is waited for. -/
theorem Stands.enters {settings : Settings} {version : UInt32}
    {configKnown : Bool} {eModuleState next : ModuleState}
    {daemon : Daemon}
    (stands : Stands settings version configKnown eModuleState daemon)
    (elsewhere : next ≠ .determineAddress) :
    Stands settings version configKnown next (enter next daemon) where
  settings := stands.settings
  version := stands.version
  configKnown := stands.configKnown
  state := rfl
  address := fun waiting => absurd waiting elsewhere

/-- The state is left for the one that waits for an address. -/
theorem Stands.entersAddress {settings : Settings} {version : UInt32}
    {configKnown : Bool} {eModuleState : ModuleState} {daemon : Daemon}
    (stands : Stands settings version configKnown eModuleState daemon) :
    Stands settings version configKnown .determineAddress
      (enter .determineAddress daemon.forgetAddress) where
  settings := stands.settings
  version := stands.version
  configKnown := stands.configKnown
  state := rfl
  address := fun _ => rfl

/-- A daemon with the settings that believes in the version. -/
def believing (settings : Settings) (version : UInt32) : Daemon :=
  { Daemon.boot settings with u32JennicDeviceVersion := version }

/-- Nothing but the version decides what the module understands. -/
theorem atLeast_believing (settings : Settings) {version : UInt32}
    {daemon : Daemon} (same : daemon.u32JennicDeviceVersion = version)
    (major minor revision : UInt32) :
    daemon.atLeast major minor revision =
      (believing settings version).atLeast major minor revision := by
  rw [Daemon.atLeast, Daemon.atLeast, same]
  rfl

section Steps

variable {host : Host} {settings : Settings} {version : UInt32}
variable {configKnown : Bool} {daemon : Daemon}

/-- A turn without a timeout in a state behind the network configuration. -/
theorem turn_security (now : Int)
    (stands : Stands settings version configKnown .configureSecurity
      daemon) :
    Stands settings version configKnown
        (if (believing settings version).atLeast 1 1 0 then
          .configureProfile else .startModule)
        (turnMove now false daemon).daemon ∧
      (turnMove now false daemon).frames =
        (securityMove (believing settings version)).frames := by
  have move : turnMove now false daemon = securityMove daemon := by
    simp [turnMove, stands.state]
  rw [move, ← atLeast_believing settings stands.version 1 1 0]
  refine ⟨stands.enters ?_, ?_⟩
  · split
    · decide
    · decide
  · simp only [securityMove, stands.settings]
    rfl

theorem turn_profile (now : Int)
    (stands : Stands settings version configKnown .configureProfile
      daemon) :
    Stands settings version configKnown .startModule
        (turnMove now false daemon).daemon ∧
      (turnMove now false daemon).frames =
        (profileMove (believing settings version)).frames := by
  have move : turnMove now false daemon = profileMove daemon := by
    simp [turnMove, stands.state]
  rw [move]
  refine ⟨stands.enters (by decide), ?_⟩
  simp only [profileMove, stands.settings,
    atLeast_believing settings stands.version]
  rfl

theorem turn_start (now : Int)
    (stands : Stands settings version configKnown .startModule daemon) :
    Stands settings version configKnown
        (if (believing settings version).atLeast 1 4 0 then
          .configureFrontend
        else if (believing settings version).atLeast 1 1 0 then
          .determineConfiguration
        else
          .determineAddress)
        (turnMove now false daemon).daemon ∧
      (turnMove now false daemon).frames =
        (startMove (believing settings version)).frames := by
  have move : turnMove now false daemon = startMove daemon := by
    simp [turnMove, stands.state]
  rw [move]
  have frames :
      runFrames daemon = runFrames (believing settings version) := by
    simp only [runFrames, stands.settings]
    rfl
  refine ⟨?_, frames⟩
  simp only [startMove,
    atLeast_believing settings stands.version]
  split
  · exact stands.enters (by decide)
  · split
    · exact stands.enters (by decide)
    · exact stands.entersAddress

theorem turn_frontEnd (now : Int)
    (stands : Stands settings version configKnown .configureFrontend
      daemon) :
    Stands settings version configKnown .determineConfiguration
        (turnMove now false daemon).daemon ∧
      (turnMove now false daemon).frames =
        (frontEndMove (believing settings version)).frames := by
  have move : turnMove now false daemon = frontEndMove daemon := by
    simp [turnMove, stands.state]
  rw [move]
  refine ⟨stands.enters (by decide), ?_⟩
  simp only [frontEndMove, stands.settings,
    atLeast_believing settings stands.version]
  rfl

theorem turn_address (now : Int)
    (stands : Stands settings version configKnown .determineAddress
      daemon) :
    Stands settings version configKnown .determineAddress
        (turnMove now false daemon).daemon ∧
      (turnMove now false daemon).frames = [] := by
  have move : turnMove now false daemon = ⟨daemon, []⟩ := by
    simp [turnMove, stands.state, addressMove, stands.address rfl]
  rw [move]
  exact ⟨stands, rfl⟩

theorem turn_configuration (now : Int)
    (stands : Stands settings version configKnown .determineConfiguration
      daemon) :
    Stands settings version configKnown
        (if configKnown then .determineAddress
          else .determineConfiguration)
        (turnMove now false daemon).daemon ∧
      (turnMove now false daemon).frames =
        if configKnown then [] else [(.configRequest, [])] := by
  have unknown :
      ((enter .determineAddress
        daemon).forgetAddress).sFlags.uAddressKnown = false := rfl
  cases configKnown with
  | true =>
      have move :
          turnMove now false daemon =
            ⟨(enter .determineAddress daemon).forgetAddress, []⟩ := by
        simp [turnMove, stands.state, configurationMove,
          stands.configKnown, addressMove, unknown]
      rw [move]
      exact ⟨stands.entersAddress, rfl⟩
  | false =>
      have move :
          turnMove now false daemon =
            ⟨daemon, [(.configRequest, [])]⟩ := by
        simp [turnMove, stands.state, configurationMove,
          stands.configKnown]
      rw [move]
      exact
        ⟨⟨stands.settings, stands.version, stands.configKnown,
          stands.state, fun other => by cases other⟩, rfl⟩

end Steps

/-! ## The messages one by one -/

section Messages

variable {host : Host} {settings : Settings} {old : UInt32}
variable {configKnown : Bool} {eModuleState : ModuleState}
variable {daemon : Daemon} (env : Env)

theorem stands_heard (version : Nat → UInt8)
    (stands : Stands settings old configKnown eModuleState daemon) :
    Stands settings (reportedVersion version) configKnown eModuleState
      (heard env version daemon) :=
  ⟨stands.settings, rfl, stands.configKnown, stands.state,
    stands.address⟩

/-- Behind a CONFIG message the address is waited for: a module of version
1.1.0 or later has made its configuration known. -/
theorem configCall_stands (configuration : Nat → UInt8)
    (stands : Stands settings old configKnown eModuleState daemon)
    (waiting : eModuleState = .determineAddress ∨
      (eModuleState = .determineConfiguration ∧
        (believing settings old).atLeast 1 1 0 = true)) :
    ∃ later known,
      Stands later old known .determineAddress
          (callMove host daemon (configCall env configuration)).daemon ∧
        later.eActivityLED = settings.eActivityLED ∧
        (callMove host daemon (configCall env configuration)).frames =
          [] := by
  rw [configCall_move,
    atLeast_believing settings stands.version]
  by_cases supported : (believing settings old).atLeast 1 1 0 = true
  · rw [if_pos supported]
    have received :
        Stands
          (daemon.toSettings.receiveNetwork host.endian
            (ModuleConfigV10.ofCells host.endian configuration))
          old true eModuleState
          { daemon.receiveConfig host.endian
              (ModuleConfigV10.ofCells host.endian configuration) with
            sLastSuccessfulComms := env.now } :=
      ⟨rfl, stands.version, rfl, stands.state, stands.address⟩
    have sameLED :
        (daemon.toSettings.receiveNetwork host.endian
            (ModuleConfigV10.ofCells host.endian
              configuration)).eActivityLED = settings.eActivityLED := by
      rw [← stands.settings]
      rfl
    rcases waiting with rfl | ⟨rfl, -⟩
    · obtain ⟨after, frames⟩ := turn_address env.now received
      exact ⟨_, _, after, sameLED, frames⟩
    · obtain ⟨after, frames⟩ := turn_configuration env.now received
      exact ⟨_, _, after, sameLED, frames⟩
  · rw [if_neg supported]
    rcases waiting with rfl | ⟨-, supports⟩
    · have unchanged :
          Stands settings old configKnown .determineAddress
            { daemon with sLastSuccessfulComms := env.now } :=
        ⟨stands.settings, stands.version, stands.configKnown,
          stands.state, stands.address⟩
      obtain ⟨after, frames⟩ := turn_address env.now unchanged
      exact ⟨_, _, after, rfl, frames⟩
    · exact absurd supports supported

/-- Behind an ADDR message the module is running. -/
theorem addrCall_stands (address : Nat → UInt8)
    (stored : addressStored env = true)
    (stands : Stands settings old configKnown .determineAddress daemon) :
    (callMove host daemon (addrCall env address)).daemon.eModuleState =
        .running ∧
      (callMove host daemon
        (addrCall env address)).daemon.sFlags.uAddressKnown = true ∧
      (callMove host daemon
        (addrCall env address)).daemon.u32JennicDeviceVersion = old ∧
      (callMove host daemon (addrCall env address)).frames =
        (activityLEDMove (believing settings old)).frames := by
  rw [addrCall_move host env daemon address stored]
  have move :
      turnMove env.now false
          { daemon.learnAddress with sLastSuccessfulComms := env.now } =
        activityLEDMove
          (({ daemon.learnAddress with
              sLastSuccessfulComms := env.now } : Daemon).setRetries
            0) := by
    simp [turnMove, Daemon.learnAddress, stands.state, addressMove]
  rw [move]
  refine ⟨rfl, rfl, stands.version, ?_⟩
  have known := atLeast_believing settings stands.version
  have led :
      daemon.eActivityLED = (believing settings old).eActivityLED := by
    rw [stands.settings]
    rfl
  simp only [activityLEDMove, Daemon.setRetries, Daemon.learnAddress, led]
  rw [← known]
  rfl

end Messages

/-! ## All seven messages -/

/-- A message whose handler succeeds is processed successfully. -/
theorem status_of_handled (host : Host) (world : World) (env : Env)
    (u8Message : UInt8) (u32Length : UInt32) (pu8Data : Nat → UInt8)
    (handled : (handledMove host env u8Message u32Length pu8Data
      world.daemon).1 = .ok) :
    status host world ⟨env, .message u8Message u32Length pu8Data⟩ =
      .ok :=
  (processMessage_status host env u32Length
    (TracedMemory.untouched pu8Data) world u8Message).trans handled

theorem takeUp_succeeds (host : Host) (world : World) (env : Nat → Env)
    (version configuration address : Nat → UInt8)
    (stored : addressStored (env 6) = true) :
    allSucceed host world (takeUp env version configuration address) := by
  have request (world : World) :
      status host world (requestCall (env 0)) = .ok :=
    status_of_handled host world _ _ _ _ rfl
  have report (env : Env) (world : World) :
      status host world (versionCall env version) = .ok :=
    status_of_handled host world _ _ _ _ rfl
  have configure (world : World) :
      status host world (configCall (env 5) configuration) = .ok := by
    apply status_of_handled
    by_cases supported : world.daemon.atLeast 1 1 0 = true
    · simp [handledMove, SLMsgType.code, supported]
    · simp [handledMove, SLMsgType.code, supported]
  have locate (world : World) :
      status host world (addrCall (env 6) address) = .ok := by
    apply status_of_handled
    simp [handledMove, SLMsgType.code, stored]
  exact
    ⟨request _, report _ _, report _ _, report _ _, report _ _,
      configure _, locate _, trivial⟩

/-- The frames of the third, fourth and fifth message.  A version between 1.1.0
and 1.4.0 is asked for a configuration that is not known. -/
def middleFrames (settings : Settings) (version : UInt32)
    (configKnown : Bool) : List Frame :=
  (profileMove (believing settings version)).frames ++
    (startMove (believing settings version)).frames ++
    (frontEndMove (believing settings version)).frames ++
    (if (believing settings version).atLeast 1 1 0 ∧
        ¬ (believing settings version).atLeast 1 4 0 ∧
        ¬ configKnown then
      [(.configRequest, [])]
    else
      [])

/-- The frames with which a module is configured and started. -/
def takeUpFrames (settings : Settings) (version : UInt32)
    (configKnown : Bool) : List Frame :=
  [(.config, settings.networkEncoding)] ++
    ((securityMove (believing settings version)).frames ++
      (middleFrames settings version configKnown ++
        (activityLEDMove (believing settings version)).frames))

/-- Version 1.4.0 is later than 1.1.0. -/
theorem atLeast_of_frontEnd {daemon : Daemon}
    (frontEnd : daemon.atLeast 1 4 0 = true) :
    daemon.atLeast 1 1 0 = true := by
  have order : jennicVersion 1 1 0 ≤ jennicVersion 1 4 0 := by decide
  simp only [Daemon.atLeast, decide_eq_true_eq] at frontEnd ⊢
  exact UInt32.le_trans order frontEnd

theorem activityLEDMove_frames {settings later : Settings}
    (sameLED : later.eActivityLED = settings.eActivityLED)
    (version : UInt32) :
    (activityLEDMove (believing later version)).frames =
      (activityLEDMove (believing settings version)).frames := by
  have led :
      (believing later version).eActivityLED =
        (believing settings version).eActivityLED := sameLED
  simp only [activityLEDMove, led]
  rfl

/-- A run of the automaton from one place to another. -/
structure Leads (host : Host) (daemon : Daemon) (calls : List ApiCall)
    (next : Daemon) (frames : List Frame) : Prop where
  ends : run (nextDaemon host) daemon calls = next
  emitted : actions (nextDaemon host) (emits host) daemon calls = frames

theorem Leads.nil (host : Host) (daemon : Daemon) :
    Leads host daemon [] daemon [] :=
  ⟨rfl, rfl⟩

theorem Leads.cons {host : Host} {daemon between next : Daemon}
    {call : ApiCall} {calls : List ApiCall} {first frames : List Frame}
    (move : callMove host daemon call = ⟨between, first⟩)
    (rest : Leads host between calls next frames) :
    Leads host daemon (call :: calls) next (first ++ frames) := by
  have moved : nextDaemon host daemon call = between := by
    rw [nextDaemon, move]
  have emittedFirst : emits host daemon call = first := by
    rw [emits, move]
  constructor
  · rw [run_cons, moved, rest.ends]
  · rw [actions_cons, moved, emittedFirst, rest.emitted]

theorem Leads.append {host : Host} {daemon between next : Daemon}
    {calls later : List ApiCall} {first frames : List Frame}
    (start : Leads host daemon calls between first)
    (rest : Leads host between later next frames) :
    Leads host daemon (calls ++ later) next (first ++ frames) := by
  constructor
  · rw [run_append, start.ends, rest.ends]
  · rw [actions_append, start.emitted, start.ends, rest.emitted]

theorem requestCall_step (host : Host) (env : Env) (daemon : Daemon) :
    ∃ next,
      callMove host daemon (requestCall env) =
          ⟨next, [(.config, daemon.networkEncoding)]⟩ ∧
        Stands daemon.toSettings daemon.u32JennicDeviceVersion
          daemon.sFlags.uConfigKnown .configureSecurity next := by
  refine ⟨_, requestCall_move host env daemon, ?_⟩
  exact ⟨rfl, rfl, rfl, rfl, fun other => by cases other⟩

/-- The move of a VERSION message, from what is known of its turn. -/
theorem versionCall_step (host : Host) {settings : Settings}
    {configKnown : Bool} {after : ModuleState} {frames : List Frame}
    {env : Env} {version : Nat → UInt8} {daemon : Daemon}
    (turn :
      Stands settings (reportedVersion version) configKnown after
          (turnMove env.now false (heard env version daemon)).daemon ∧
        (turnMove env.now false (heard env version daemon)).frames =
          frames) :
    ∃ next,
      callMove host daemon (versionCall env version) = ⟨next, frames⟩ ∧
        Stands settings (reportedVersion version) configKnown after
          next := by
  obtain ⟨stands, rfl⟩ := turn
  exact ⟨_, rfl, stands⟩

/-- The third, fourth and fifth message lead to where the configuration or the
address is waited for. -/
theorem middle_moves (host : Host) {settings : Settings}
    {configKnown : Bool} {env : Nat → Env} {version : Nat → UInt8}
    {daemon : Daemon}
    (stands :
      Stands settings (reportedVersion version) configKnown
        (if (believing settings (reportedVersion version)).atLeast 1 1 0
          then .configureProfile
          else .startModule)
        daemon) :
    ∃ eModuleState next,
      Leads host daemon
          [versionCall (env 2) version, versionCall (env 3) version,
            versionCall (env 4) version]
          next
          (middleFrames settings (reportedVersion version)
            configKnown) ∧
        Stands settings (reportedVersion version) configKnown
          eModuleState next ∧
        (eModuleState = .determineAddress ∨
          (eModuleState = .determineConfiguration ∧
            (believing settings
              (reportedVersion version)).atLeast 1 1 0 = true)) := by
  have hear {eModuleState : ModuleState} {daemon : Daemon} (env : Env)
      (stands :
        Stands settings (reportedVersion version) configKnown eModuleState
          daemon) :=
    stands_heard env version stands
  by_cases modern :
      (believing settings (reportedVersion version)).atLeast 1 1 0 = true
  · rw [if_pos modern] at stands
    obtain ⟨third, thirdMove, started⟩ :=
      versionCall_step host (turn_profile (env 2).now (hear _ stands))
    obtain ⟨fourth, fourthMove, running⟩ :=
      versionCall_step host (turn_start (env 3).now (hear _ started))
    by_cases frontEnd :
        (believing settings (reportedVersion version)).atLeast 1 4 0 =
          true
    · rw [if_pos frontEnd] at running
      obtain ⟨fifth, fifthMove, configured⟩ :=
        versionCall_step host
          (turn_frontEnd (env 4).now (hear _ running))
      refine ⟨_, fifth, ?_, configured, .inr ⟨rfl, modern⟩⟩
      have moves :=
        Leads.cons thirdMove
          (.cons fourthMove (.cons fifthMove (.nil host fifth)))
      simpa [middleFrames, frontEnd] using moves
    · rw [if_neg frontEnd, if_pos modern] at running
      obtain ⟨fifth, fifthMove, configured⟩ :=
        versionCall_step host
          (turn_configuration (env 4).now (hear _ running))
      refine ⟨_, fifth, ?_, configured, ?_⟩
      · have moves :=
          Leads.cons thirdMove
            (.cons fourthMove (.cons fifthMove (.nil host fifth)))
        cases configKnown <;>
          simpa [middleFrames, frontEndMove, frontEnd, modern] using moves
      · cases configKnown with
        | true => exact .inl rfl
        | false => exact .inr ⟨rfl, modern⟩
  · have noFrontEnd :
        ¬ (believing settings (reportedVersion version)).atLeast 1 4 0 =
          true :=
      fun frontEnd => modern (atLeast_of_frontEnd frontEnd)
    rw [if_neg modern] at stands
    obtain ⟨third, thirdMove, started⟩ :=
      versionCall_step host (turn_start (env 2).now (hear _ stands))
    rw [if_neg noFrontEnd, if_neg modern] at started
    obtain ⟨fourth, fourthMove, waiting⟩ :=
      versionCall_step host (turn_address (env 3).now (hear _ started))
    obtain ⟨fifth, fifthMove, located⟩ :=
      versionCall_step host (turn_address (env 4).now (hear _ waiting))
    refine ⟨_, fifth, ?_, located, .inl rfl⟩
    have moves :=
      Leads.cons thirdMove
        (.cons fourthMove (.cons fifthMove (.nil host fifth)))
    simpa [middleFrames, profileMove, frontEndMove, noFrontEnd, modern]
      using moves

/-- The last two messages lead to a running module. -/
theorem lastTwo_moves (host : Host) {settings : Settings}
    {version : UInt32} {configKnown : Bool} {eModuleState : ModuleState}
    {env : Nat → Env} (configuration address : Nat → UInt8)
    {daemon : Daemon} (stored : addressStored (env 6) = true)
    (stands : Stands settings version configKnown eModuleState daemon)
    (waiting : eModuleState = .determineAddress ∨
      (eModuleState = .determineConfiguration ∧
        (believing settings version).atLeast 1 1 0 = true)) :
    ∃ next,
      Leads host daemon
          [configCall (env 5) configuration, addrCall (env 6) address]
          next (activityLEDMove (believing settings version)).frames ∧
        next.eModuleState = .running ∧
        next.sFlags.uAddressKnown = true ∧
        next.u32JennicDeviceVersion = version := by
  obtain ⟨later, known, waits, sameLED, configFrames⟩ :=
    @configCall_stands host settings version configKnown eModuleState
      daemon (env 5) configuration stands waiting
  obtain ⟨state, addressKnown, same, addressFrames⟩ :=
    @addrCall_stands host later version known
      (callMove host daemon (configCall (env 5) configuration)).daemon
      (env 6) address stored waits
  rw [activityLEDMove_frames sameLED] at addressFrames
  refine ⟨_, ?_, state, addressKnown, same⟩
  constructor
  · rfl
  · simp only [actions_cons, actions_nil, nextDaemon, emits, configFrames,
      addressFrames, List.nil_append, List.append_nil]

/-- The seven messages lead to a running module. -/
theorem takeUp_moves (host : Host) (daemon : Daemon) (env : Nat → Env)
    (version configuration address : Nat → UInt8)
    (stored : addressStored (env 6) = true) :
    ∃ next,
      Leads host daemon (takeUp env version configuration address) next
          (takeUpFrames daemon.toSettings (reportedVersion version)
            daemon.sFlags.uConfigKnown) ∧
        next.eModuleState = .running ∧
        next.sFlags.uAddressKnown = true ∧
        next.u32JennicDeviceVersion = reportedVersion version := by
  obtain ⟨first, firstMove, asked⟩ := requestCall_step host (env 0) daemon
  obtain ⟨second, secondMove, secured⟩ :=
    versionCall_step host
      (turn_security (env 1).now (stands_heard (env 1) version asked))
  obtain ⟨eModuleState, fifth, middle, stands, waiting⟩ :=
    @middle_moves host daemon.toSettings daemon.sFlags.uConfigKnown env
      version second secured
  obtain ⟨last, final, running⟩ :=
    @lastTwo_moves host daemon.toSettings (reportedVersion version)
      daemon.sFlags.uConfigKnown eModuleState env configuration address
      fifth stored stands waiting
  refine ⟨last, ?_, running⟩
  exact .cons firstMove (.cons secondMove (middle.append final))

end SixLoWPANd.MainLoop
