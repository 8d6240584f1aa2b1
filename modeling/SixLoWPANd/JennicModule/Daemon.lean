import SixLoWPANd.Foundation.Histories
import SixLoWPANd.JennicModule.Configuration

/-!
# The daemon and the world it acts on

`Daemon` holds every variable of the module interface.  A `Ledger` adds the
history of what the interface did, newest first, each entry with the variables
at that moment.  A `World` adds the other outputs: log, TUN device, address
file, service registrations and notification threads.  The state machine is
analysed on ledgers; logging never touches them.
-/

namespace SixLoWPANd.JennicModule

open SixLoWPANd.Foundation

/-- `teSL_MsgType`. -/
inductive SLMsgType where
  | versionRequest
  | version
  | ipv4
  | ipv6
  | config
  | runCoordinator
  | reset
  | addr
  | configRequest
  | security
  | log
  | ping
  | profile
  | runRouter
  | runCommissioning
  | activityLED
  | setRadioFrontend
  | enableDiversity
  deriving DecidableEq

def SLMsgType.code : SLMsgType → UInt8
  | versionRequest => 0
  | version => 1
  | ipv4 => 100
  | ipv6 => 101
  | config => 102
  | runCoordinator => 103
  | reset => 104
  | addr => 105
  | configRequest => 106
  | security => 107
  | log => 108
  | ping => 109
  | profile => 110
  | runRouter => 111
  | runCommissioning => 112
  | activityLED => 113
  | setRadioFrontend => 114
  | enableDiversity => 115

/-- `teModuleStatus`. -/
inductive ModuleStatus where
  | ok
  | error
  | commsFailed
  deriving DecidableEq

/-- The type of `eModuleState`. -/
inductive ModuleState where
  | idle
  | determineVersion
  | configureNetwork
  | configureSecurity
  | configureProfile
  | startModule
  | configureFrontend
  | determineConfiguration
  | determineAddress
  | activityLED
  | running
  deriving DecidableEq

def jennicVersion (major minor revision : UInt32) : UInt32 :=
  (major <<< 16) ||| (minor <<< 8) ||| (revision <<< 0)

/-- `sFlags`. -/
structure Flags where
  uVersionKnown : Bool
  uAddressKnown : Bool
  uConfigKnown : Bool
  uSupportsPing : Bool
  deriving DecidableEq

def Flags.zero : Flags where
  uVersionKnown := false
  uAddressKnown := false
  uConfigKnown := false
  uSupportsPing := false

/-- The variables of the module interface, function statics included. -/
structure Daemon extends Settings where
  sFlags : Flags
  eModuleState : ModuleState
  u32JennicDeviceVersion : UInt32
  sLastSuccessfulComms : Int
  sLastPing : Int
  u32Retries : UInt32
  deriving DecidableEq

def Daemon.boot (settings : Settings) : Daemon where
  toSettings := settings
  sFlags := .zero
  eModuleState := .idle
  u32JennicDeviceVersion := 0
  sLastSuccessfulComms := 0
  sLastPing := 0
  u32Retries := 0

namespace Daemon

def forgetAddress (daemon : Daemon) : Daemon :=
  { daemon with sFlags := { daemon.sFlags with uAddressKnown := false } }

def setRetries (u32Retries : UInt32) (daemon : Daemon) : Daemon :=
  { daemon with u32Retries := u32Retries }

/-- `u32JennicDeviceVersion >= JENNIC_VERSION(major, minor, revision)`. -/
def atLeast (daemon : Daemon) (major minor revision : UInt32) : Bool :=
  jennicVersion major minor revision ≤ daemon.u32JennicDeviceVersion

end Daemon

/-! ## What surrounds the daemon -/

/-- What is fixed while the program runs. -/
structure Host where
  endian : Endian
  inetNtop : In6Addr → String
  cpTunDevice : String
  /-- Whether the program is compiled with `USE_ZEROCONF`. -/
  useZeroconf : Bool

/-- What the operating system answers during one call of the interface.  The
clock has a resolution of one second and is read as one value per call.  A
failed file operation answers with the text of its error. -/
structure Env where
  now : Int
  tunWrite : Int
  openFile : Except String Unit
  writeAddress : Except String Nat
  writeNewline : Except String Nat
  pthreadCreate : Int

/-! ## Ledgers -/

/-- What the module interface does. -/
inductive Event where
  | called (bTimeout : Bool)
  | wrote (u8Type : SLMsgType) (payload : List UInt8)
  | assigned (eModuleState : ModuleState)
  | handled (u8Message : UInt8) (u32Length : UInt32)
      (eStatus : ModuleStatus)
  deriving DecidableEq

/-- An event, its time and the variables when it happened.  An assignment is
recorded with the variables before it, a handled message with those its
handler left. -/
structure Entry where
  event : Event
  time : Int
  daemon : Daemon
  deriving DecidableEq

namespace Entry

def wrote (u8Type : SLMsgType) (entry : Entry) : Bool :=
  match entry.event with
  | .wrote written _ => written = u8Type
  | _ => false

/-- One of the three RUN frames was written. -/
def wroteRun (entry : Entry) : Bool :=
  entry.wrote .runCoordinator || entry.wrote .runRouter ||
    entry.wrote .runCommissioning

/-- A message of the type was handled successfully. -/
def handledOk (u8Type : SLMsgType) (entry : Entry) : Bool :=
  match entry.event with
  | .handled u8Message _ .ok => u8Message = u8Type.code
  | _ => false

/-- The state variable got the value from another one. -/
def entered (eModuleState : ModuleState) (entry : Entry) : Bool :=
  match entry.event with
  | .assigned assigned =>
      assigned = eModuleState ∧ entry.daemon.eModuleState ≠ eModuleState
  | _ => false

end Entry

structure Ledger where
  daemon : Daemon
  history : List Entry

namespace Ledger

def record (ledger : Ledger) (now : Int) (event : Event) : Ledger :=
  { ledger with history := ⟨event, now, ledger.daemon⟩ :: ledger.history }

def update (ledger : Ledger) (change : Daemon → Daemon) : Ledger :=
  { ledger with daemon := change ledger.daemon }

def assign (ledger : Ledger) (now : Int) (eModuleState : ModuleState) :
    Ledger :=
  (ledger.record now (.assigned eModuleState)).update fun daemon =>
    { daemon with eModuleState := eModuleState }

@[simp]
theorem record_daemon (ledger : Ledger) (now : Int) (event : Event) :
    (ledger.record now event).daemon = ledger.daemon := rfl

@[simp]
theorem record_history (ledger : Ledger) (now : Int) (event : Event) :
    (ledger.record now event).history =
      ⟨event, now, ledger.daemon⟩ :: ledger.history := rfl

@[simp]
theorem update_daemon (ledger : Ledger) (change : Daemon → Daemon) :
    (ledger.update change).daemon = change ledger.daemon := rfl

@[simp]
theorem update_history (ledger : Ledger) (change : Daemon → Daemon) :
    (ledger.update change).history = ledger.history := rfl

@[simp]
theorem assign_daemon
    (ledger : Ledger) (now : Int) (eModuleState : ModuleState) :
    (ledger.assign now eModuleState).daemon =
      { ledger.daemon with eModuleState := eModuleState } := rfl

@[simp]
theorem assign_history
    (ledger : Ledger) (now : Int) (eModuleState : ModuleState) :
    (ledger.assign now eModuleState).history =
      ⟨.assigned eModuleState, now, ledger.daemon⟩ :: ledger.history := rfl

@[simp]
theorem update_setRetries_setRetries
    (ledger : Ledger) (earlier later : UInt32) :
    (ledger.update (Daemon.setRetries earlier)).update
        (Daemon.setRetries later) =
      ledger.update (Daemon.setRetries later) := rfl

end Ledger

/-! ## Worlds -/

inductive FileOperation where
  | opened (acFileName : String)
  | wrote (text : String) (accepted : Nat)
  | closed
  deriving DecidableEq

/-- A registration with the service announcer. -/
structure Registration where
  name : String
  hostname : String
  address : String
  deriving DecidableEq

structure World extends Ledger where
  /-- Priority and text of every log message, newest first. -/
  syslog : List (Nat × String)
  /-- Packets given to the TUN device with the result, newest first. -/
  tun : List (List UInt8 × Int)
  addressFile : List FileOperation
  registrations : List Registration
  /-- Results of the calls that start the notification thread. -/
  threads : List Int

def World.boot (settings : Settings) : World where
  daemon := .boot settings
  history := []
  syslog := []
  tun := []
  addressFile := []
  registrations := []
  threads := []

def logErr : Nat := 3

def logInfo : Nat := 6

def logDebug : Nat := 7

namespace World

def daemonLog (world : World) (priority : Nat) (text : String) : World :=
  { world with syslog := (priority, text) :: world.syslog }

/-- `daemon_log` behind the test of the verbosity. -/
def debugLog (world : World) (text : String) : World :=
  if world.daemon.verbosity ≥ logDebug then
    world.daemonLog logDebug text
  else
    world

/-- `debugLog` behind a further test. -/
def debugLogIf (world : World) (condition : Bool) (text : String) : World :=
  if condition then world.debugLog text else world

/-- `vSL_WriteMessage` as the module interface sees it.  The serial device is
taken to accept the bytes; where it does not, `serial_write` may end the
process. -/
def writeMessage (world : World) (env : Env)
    (u8Type : SLMsgType) (payload : List UInt8) : World :=
  { world with
    toLedger := world.toLedger.record env.now (.wrote u8Type payload) }

def update (world : World) (change : Daemon → Daemon) : World :=
  { world with toLedger := world.toLedger.update change }

def assign (world : World) (env : Env) (eModuleState : ModuleState) :
    World :=
  { world with toLedger := world.toLedger.assign env.now eModuleState }

def record (world : World) (env : Env) (event : Event) : World :=
  { world with toLedger := world.toLedger.record env.now event }

@[simp]
theorem daemonLog_toLedger
    (world : World) (priority : Nat) (text : String) :
    (world.daemonLog priority text).toLedger = world.toLedger := rfl

@[simp]
theorem debugLog_toLedger (world : World) (text : String) :
    (world.debugLog text).toLedger = world.toLedger := by
  unfold debugLog
  split <;> rfl

@[simp]
theorem debugLogIf_toLedger
    (world : World) (condition : Bool) (text : String) :
    (world.debugLogIf condition text).toLedger = world.toLedger := by
  cases condition <;> simp [debugLogIf]

@[simp]
theorem writeMessage_toLedger
    (world : World) (env : Env)
    (u8Type : SLMsgType) (payload : List UInt8) :
    (world.writeMessage env u8Type payload).toLedger =
      world.toLedger.record env.now (.wrote u8Type payload) := rfl

@[simp]
theorem update_toLedger (world : World) (change : Daemon → Daemon) :
    (world.update change).toLedger = world.toLedger.update change := rfl

@[simp]
theorem assign_toLedger
    (world : World) (env : Env) (eModuleState : ModuleState) :
    (world.assign env eModuleState).toLedger =
      world.toLedger.assign env.now eModuleState := rfl

@[simp]
theorem record_toLedger (world : World) (env : Env) (event : Event) :
    (world.record env event).toLedger =
      world.toLedger.record env.now event := rfl

end World

end SixLoWPANd.JennicModule
