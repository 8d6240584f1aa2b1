import SixLoWPANd.JennicModule.Runs
import SixLoWPANd.SerialLink.Receiver

/-!
# The main loop

`main` waits on the serial device and the TUN device with a timeout of one
second.  A wake-up takes at most one message from the serial device and at most
one packet from the TUN device, in the order of their descriptors; only a
timeout and a complete message lead to the state machine.  The receiver and its
message buffer survive from wake-up to wake-up, and so do the bytes that have
arrived but have not been read.
-/

namespace SixLoWPANd.MainLoop

open SixLoWPANd.Foundation
open SixLoWPANd.SerialLink
open SixLoWPANd.JennicModule

/-- The descriptors of the two open devices. -/
structure Descriptors where
  serial_fd : Nat
  tun_fd : Nat
  distinct : serial_fd ≠ tun_fd

def Descriptors.max_fd (fds : Descriptors) : Nat :=
  let max_fd := if fds.serial_fd > 0 then fds.serial_fd else 0
  if fds.tun_fd > max_fd then fds.tun_fd else max_fd

/-- The outcome of `select`: an error, or which of the two devices have data;
none of them has when it has timed out. -/
inductive Selected where
  | error (text : String)
  | ready (serial tun : Bool)
  deriving DecidableEq

/-- `FD_ISSET(i, &rfds)`. -/
def Selected.isSet (fds : Descriptors) (selected : Selected) (i : Nat) :
    Bool :=
  match selected with
  | .error _ => false
  | .ready serial tun =>
      (serial && i == fds.serial_fd) || (tun && i == fds.tun_fd)

/-- One turn of the loop: the outcome of `select`, what the operating system
answers behind it, what a read from the TUN device gets, and whether a signal
has asked to quit. -/
structure WakeUp where
  selected : Selected
  env : Env
  read : TunRead
  quit : Bool

def WakeUp.time (wakeUp : WakeUp) : Int :=
  wakeUp.env.now

/-- What survives from turn to turn.  The receiver holds `sIncomingMsg`
together with the statics of `bSL_ReadMessage`; `serialInput` are the outcomes
of the one-byte reads still to come. -/
structure MainState where
  world : World
  receiver : Receiver
  serialInput : List (Option UInt8)
  bRunning : Bool

namespace MainState

def daemonLog (main : MainState) (priority : Nat) (text : String) :
    MainState :=
  { main with world := main.world.daemonLog priority text }

/-- What the loop does when the module interface reports a failure. -/
def commsError (main : MainState) : MainState :=
  { main.daemonLog logErr
      "Error communicating with border router module" with
    bRunning := false }

end MainState

/-- `sizeof(sIncomingMsg.u8Message)`. -/
def messageSize : UInt16 := 2048

/-- The call of `bSL_ReadMessage` on what the serial device has. -/
def serialRead (main : MainState) : Call × List (Option UInt8) :=
  bSLReadMessage messageSize main.receiver main.serialInput

/-- `eJennicModuleProcessMessage` on the message that is received. -/
def received (host : Host) (env : Env) (main : MainState) : Outcome :=
  let receiver := (serialRead main).1.after
  eJennicModuleProcessMessage host env receiver.pu8Type
    receiver.pu16Length.toUInt32 receiver.pu8Message main.world

/-- Data on the serial device. -/
def onSerial (host : Host) (env : Env) (main : MainState) : MainState :=
  let call := serialRead main
  if call.1.result then
    let outcome := received host env main
    let main : MainState :=
      { main with
        receiver := { call.1.after with pu8Message := outcome.pu8Data }
        serialInput := call.2
        world := outcome.world }
    if outcome.eStatus ≠ .ok then main.commsError else main
  else
    { main with receiver := call.1.after, serialInput := call.2 }

/-- Whether `eTunDeviceReadPacket` returns `E_TUN_OK`. -/
def tunReadSucceeds (env : Env) (read : TunRead) (world : World) : Bool :=
  if read.buf.length > 0 then
    (eJennicModuleWriteIPv6 env (UInt32.ofNat read.buf.length) read.buf
      world).1 = .ok
  else
    true

/-- Data on the TUN device. -/
def onTun (env : Env) (read : TunRead) (main : MainState) : MainState :=
  let after : MainState :=
    { main with world := eTunDeviceReadPacket env read main.world }
  if !tunReadSucceeds env read main.world then
    after.daemonLog logErr "Error handling tun packet"
  else
    after

/-- The body of the loop over the descriptors. -/
def onDescriptor (host : Host) (fds : Descriptors) (wakeUp : WakeUp)
    (main : MainState) (i : Nat) : MainState :=
  if wakeUp.selected.isSet fds i ∧ i = fds.serial_fd then
    onSerial host wakeUp.env main
  else if wakeUp.selected.isSet fds i ∧ i = fds.tun_fd then
    onTun wakeUp.env wakeUp.read main
  else if wakeUp.selected.isSet fds i then
    main.daemonLog logDebug
      ("Data on unknown file desciptor (" ++ toString i ++ ")")
  else
    main

/-- `select` has timed out. -/
def onTimeout (host : Host) (env : Env) (main : MainState) : MainState :=
  let turn := eJennicModuleStateMachine host env true main.world
  let after : MainState := { main with world := turn.2 }
  if turn.1 ≠ .ok then after.commsError else after

/-- The body of the main loop. -/
def iterate (host : Host) (fds : Descriptors) (main : MainState)
    (wakeUp : WakeUp) : MainState :=
  match wakeUp.selected with
  | .error text => main.daemonLog logErr ("error in select(): " ++ text)
  | .ready serial tun =>
      if serial || tun then
        run (onDescriptor host fds wakeUp) main
          (List.range (fds.max_fd + 1))
      else
        onTimeout host wakeUp.env main

/-- `while (bRunning)`; the signal handler clears `bRunning` at any time. -/
def mainStep (host : Host) (fds : Descriptors) (main : MainState)
    (wakeUp : WakeUp) : MainState :=
  if main.bRunning then
    let after := iterate host fds main wakeUp
    { after with bRunning := after.bRunning && !wakeUp.quit }
  else
    main

/-- The loop begins behind `eJennicModuleStart`. -/
def mainStart (host : Host) (env : Env) (settings : Settings)
    (serialInput : List (Option UInt8)) : MainState where
  world := started host env settings
  receiver := .initial
  serialInput := serialInput
  bRunning := true

def mainFrom (host : Host) (fds : Descriptors) (env : Env)
    (settings : Settings) (serialInput : List (Option UInt8))
    (wakeUps : List WakeUp) : MainState :=
  run (mainStep host fds) (mainStart host env settings serialInput) wakeUps

/-! ## The devices one by one -/

theorem serial_fd_le_max_fd (fds : Descriptors) :
    fds.serial_fd ≤ fds.max_fd := by
  unfold Descriptors.max_fd
  dsimp only
  split_ifs <;> omega

theorem tun_fd_le_max_fd (fds : Descriptors) :
    fds.tun_fd ≤ fds.max_fd := by
  unfold Descriptors.max_fd
  dsimp only
  split_ifs <;> omega

/-- The serial device, if it is ready. -/
def serialPart (host : Host) (env : Env) (serial : Bool)
    (main : MainState) : MainState :=
  if serial then onSerial host env main else main

/-- The TUN device, if it is ready. -/
def tunPart (env : Env) (read : TunRead) (tun : Bool)
    (main : MainState) : MainState :=
  if tun then onTun env read main else main

section Devices

variable {host : Host} {fds : Descriptors} {wakeUp : WakeUp}
variable {serial tun : Bool}

theorem onDescriptor_serial
    (selected : wakeUp.selected = .ready serial tun) (main : MainState) :
    onDescriptor host fds wakeUp main fds.serial_fd =
      serialPart host wakeUp.env serial main := by
  have distinct := fds.distinct
  cases serial with
  | true =>
      simp [onDescriptor, Selected.isSet, selected, serialPart]
  | false =>
      simp [onDescriptor, Selected.isSet, selected, serialPart, distinct]

theorem onDescriptor_tun
    (selected : wakeUp.selected = .ready serial tun) (main : MainState) :
    onDescriptor host fds wakeUp main fds.tun_fd =
      tunPart wakeUp.env wakeUp.read tun main := by
  have distinct := fds.distinct.symm
  cases tun with
  | true =>
      simp [onDescriptor, Selected.isSet, selected, tunPart, distinct]
  | false =>
      simp [onDescriptor, Selected.isSet, selected, tunPart, distinct]

theorem onDescriptor_other
    (selected : wakeUp.selected = .ready serial tun) (main : MainState)
    {i : Nat} (notSerial : i ≠ fds.serial_fd) (notTun : i ≠ fds.tun_fd) :
    onDescriptor host fds wakeUp main i = main := by
  simp [onDescriptor, Selected.isSet, selected, notSerial, notTun]

/-- A turn of the loop: an error, a timeout, or both devices in the order of
their descriptors. -/
theorem iterate_cases (host : Host) (fds : Descriptors)
    (main : MainState) (wakeUp : WakeUp) :
    (∃ text, wakeUp.selected = .error text ∧
        iterate host fds main wakeUp =
          main.daemonLog logErr ("error in select(): " ++ text)) ∨
      (wakeUp.selected = .ready false false ∧
        iterate host fds main wakeUp = onTimeout host wakeUp.env main) ∨
      ∃ serial tun, wakeUp.selected = .ready serial tun ∧
        (serial = true ∨ tun = true) ∧
        (iterate host fds main wakeUp =
            tunPart wakeUp.env wakeUp.read tun
              (serialPart host wakeUp.env serial main) ∨
          iterate host fds main wakeUp =
            serialPart host wakeUp.env serial
              (tunPart wakeUp.env wakeUp.read tun main)) := by
  unfold iterate
  cases selected : wakeUp.selected with
  | error text =>
      exact Or.inl ⟨text, rfl, rfl⟩
  | ready serial tun =>
      right
      by_cases data : (serial || tun) = true
      · right
        refine ⟨serial, tun, rfl, Bool.or_eq_true_iff.mp data, ?_⟩
        have idle : ∀ (main : MainState) i,
            i ≠ fds.serial_fd → i ≠ fds.tun_fd →
              onDescriptor host fds wakeUp main i = main :=
          fun main i => onDescriptor_other selected main
        have serialWithin : fds.serial_fd < fds.max_fd + 1 :=
          Nat.lt_succ_of_le (serial_fd_le_max_fd fds)
        have tunWithin : fds.tun_fd < fds.max_fd + 1 :=
          Nat.lt_succ_of_le (tun_fd_le_max_fd fds)
        dsimp only
        rw [if_pos data]
        rcases Nat.lt_or_gt_of_ne fds.distinct with before | behind
        · left
          rw [run_range_two before tunWithin idle,
            onDescriptor_serial selected, onDescriptor_tun selected]
        · right
          have idle : ∀ (main : MainState) i,
              i ≠ fds.tun_fd → i ≠ fds.serial_fd →
                onDescriptor host fds wakeUp main i = main :=
            fun main i notTun notSerial => idle main i notSerial notTun
          rw [run_range_two behind serialWithin idle,
            onDescriptor_tun selected, onDescriptor_serial selected]
      · left
        simp only [Bool.or_eq_true, not_or, Bool.not_eq_true] at data
        simp [data.1, data.2]

end Devices

/-! ### Their effects -/

section Parts

variable (host : Host) (env : Env) (read : TunRead) (main : MainState)

/-- The call of `eJennicModuleProcessMessage` on the message that is
received. -/
def receivedCall : ApiCall where
  env := env
  input :=
    .message (serialRead main).1.after.pu8Type
      (serialRead main).1.after.pu16Length.toUInt32
      (serialRead main).1.after.pu8Message.cells

theorem received_effect :
    Effect host (receivedCall env main) main.world.toLedger
      (received host env main).world.toLedger :=
  processMessage_effect host env _ _ _ main.world

theorem tunReadSucceeds_true (world : World) :
    tunReadSucceeds env read world = true := by
  unfold tunReadSucceeds
  split <;> rfl

theorem onTun_eq :
    onTun env read main =
      { main with world := eTunDeviceReadPacket env read main.world } := by
  simp [onTun, tunReadSucceeds_true]

theorem tunPart_ready :
    tunPart env read true main =
      { main with world := eTunDeviceReadPacket env read main.world } :=
  onTun_eq env read main

theorem serialPart_ready :
    serialPart host env true main = onSerial host env main := rfl

theorem onSerial_of_incomplete
    (incomplete : (serialRead main).1.result = false) :
    onSerial host env main =
      { main with
        receiver := (serialRead main).1.after
        serialInput := (serialRead main).2 } := by
  simp [onSerial, incomplete]

/-- A complete message is processed; a failure ends the loop. -/
theorem onSerial_of_complete
    (complete : (serialRead main).1.result = true) :
    (onSerial host env main).world.toLedger =
        (received host env main).world.toLedger ∧
      (onSerial host env main).world.tun =
        (received host env main).world.tun ∧
      (onSerial host env main).serialInput = (serialRead main).2 ∧
      (onSerial host env main).bRunning =
        (main.bRunning && (received host env main).eStatus = .ok) := by
  unfold onSerial
  dsimp only
  rw [if_pos complete]
  by_cases accepted : (received host env main).eStatus = .ok
  · simp [accepted]
  · simp [accepted, MainState.commsError, MainState.daemonLog,
      World.daemonLog]

/-- A silent module ends the loop. -/
theorem onTimeout_spec :
    (onTimeout host env main).world.toLedger =
        (eJennicModuleStateMachine host env true
          main.world).2.toLedger ∧
      (onTimeout host env main).world.tun =
        (eJennicModuleStateMachine host env true main.world).2.tun ∧
      (onTimeout host env main).receiver = main.receiver ∧
      (onTimeout host env main).serialInput = main.serialInput ∧
      (onTimeout host env main).bRunning =
        (main.bRunning &&
          (eJennicModuleStateMachine host env true main.world).1 =
            .ok) := by
  unfold onTimeout
  dsimp only
  by_cases accepted :
      (eJennicModuleStateMachine host env true main.world).1 = .ok
  · simp [accepted]
  · simp [accepted, MainState.commsError, MainState.daemonLog,
      World.daemonLog]

end Parts

/-! ## Concrete turns -/

def sampleDescriptors : Descriptors where
  serial_fd := 3
  tun_fd := 4
  distinct := by decide

/-- The report of version 1.1.0. -/
def versionMessage : Message where
  u8Type := SLMsgType.version.code
  payload := [1, 1, 0]
  fits := by decide

/-- A turn of the loop with the devices that are ready; the TUN device
delivers a packet of one byte and accepts one of two bytes. -/
def wakeUpAt (now : Int) (serial tun : Bool) : WakeUp where
  selected := .ready serial tun
  env := { granting now with tunWrite := 2 }
  read := ⟨[0x60], by decide⟩
  quit := false

end SixLoWPANd.MainLoop
