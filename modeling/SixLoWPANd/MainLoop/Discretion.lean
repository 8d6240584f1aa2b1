import SixLoWPANd.Foundation.Simulations
import SixLoWPANd.JennicModule.AlikeMessages
import SixLoWPANd.MainLoop.Bridge

/-!
# What the verbosity, the key and the packets have influence on

Two daemons with the same devices are compared, one of them with another
verbosity, another network key or other packets from the TUN device.  Turn by
turn they read the same bytes from the module and end at the same time, and for
an observer with the right clearance their worlds are alike.  So the verbosity
is seen in the log only, the key in the log and in the first bytes of SECURITY
frames only, and a packet in IPV6 frames only.  The command that a notification
runs, which carries the key, is not among what is compared.
-/

namespace SixLoWPANd.MainLoop

open SixLoWPANd.Foundation
open SixLoWPANd.SerialLink
open SixLoWPANd.JennicModule

/-- The worlds are alike, and the loops stand at the same place. -/
structure AlikeMains (clearance : Clearance) (one other : MainState) :
    Prop where
  world : Alike clearance one.world other.world
  receiver : one.receiver = other.receiver
  serialInput : one.serialInput = other.serialInput
  bRunning : one.bRunning = other.bRunning

/-- The wake-up with something else to be read from the TUN device. -/
def withRead (read : TunRead) (wakeUp : WakeUp) : WakeUp :=
  { wakeUp with read := read }

section Turns

variable {clearance : Clearance} {one other : MainState}
variable (host : Host) (fds : Descriptors) (env : Env)

theorem AlikeMains.daemonLog (alike : AlikeMains clearance one other)
    (priority : Nat) (text : String) :
    AlikeMains clearance (one.daemonLog priority text)
      (other.daemonLog priority text) :=
  ⟨alike.world.daemonLog _ _ _, alike.receiver, alike.serialInput,
    alike.bRunning⟩

theorem AlikeMains.serialRead (alike : AlikeMains clearance one other) :
    serialRead one = serialRead other := by
  rw [MainLoop.serialRead, MainLoop.serialRead, alike.receiver,
    alike.serialInput]

theorem received_alike (alike : AlikeMains clearance one other) :
    AlikeOutcomes clearance (received host env one)
      (received host env other) := by
  unfold received
  rw [alike.serialRead]
  exact processMessage_alike host env alike.world _ _ _

theorem onSerial_alike (alike : AlikeMains clearance one other) :
    AlikeMains clearance (onSerial host env one)
      (onSerial host env other) := by
  have outcomes := received_alike host env alike
  unfold onSerial
  dsimp only
  rw [alike.serialRead, outcomes.eStatus, outcomes.pu8Data]
  split
  · split
    · exact ⟨outcomes.world.daemonLog _ _ _, rfl, rfl, rfl⟩
    · exact ⟨outcomes.world, rfl, rfl, alike.bRunning⟩
  · exact ⟨alike.world, rfl, rfl, alike.bRunning⟩

theorem onTun_alike (alike : AlikeMains clearance one other)
    {read read' : TunRead}
    (seen : clearance.packets = true → read = read') :
    AlikeMains clearance (onTun env read one) (onTun env read' other) := by
  rw [onTun_eq, onTun_eq]
  exact
    ⟨tunReadPacket_alike env alike.world seen, alike.receiver,
      alike.serialInput, alike.bRunning⟩

theorem onTimeout_alike (alike : AlikeMains clearance one other) :
    AlikeMains clearance (onTimeout host env one)
      (onTimeout host env other) := by
  have turned := stateMachine_alike host env alike.world true
  unfold onTimeout
  dsimp only
  rw [turned.eStatus]
  split
  · exact
      ⟨turned.world.daemonLog _ _ _, alike.receiver, alike.serialInput,
        rfl⟩
  · exact
      ⟨turned.world, alike.receiver, alike.serialInput, alike.bRunning⟩

variable {wakeUp : WakeUp} {read : TunRead}

theorem onDescriptor_alike
    (seen : clearance.packets = true → wakeUp.read = read)
    (one other : MainState) (i : Nat)
    (alike : AlikeMains clearance one other) :
    AlikeMains clearance (onDescriptor host fds wakeUp one i)
      (onDescriptor host fds (withRead read wakeUp) other i) := by
  unfold onDescriptor withRead
  dsimp only
  split
  · exact onSerial_alike host wakeUp.env alike
  · split
    · exact onTun_alike wakeUp.env alike seen
    · split
      · exact alike.daemonLog _ _
      · exact alike

theorem iterate_alike (alike : AlikeMains clearance one other)
    (seen : clearance.packets = true → wakeUp.read = read) :
    AlikeMains clearance (iterate host fds one wakeUp)
      (iterate host fds other (withRead read wakeUp)) := by
  unfold iterate withRead
  dsimp only
  split
  · exact alike.daemonLog _ _
  · split
    · exact
        run_related (onDescriptor_alike host fds seen) alike
          (List.range (fds.max_fd + 1))
    · exact onTimeout_alike host wakeUp.env alike

/-- A turn, with another packet where packets are not seen. -/
theorem mainStep_alike (alike : AlikeMains clearance one other)
    (seen : clearance.packets = true → wakeUp.read = read) :
    AlikeMains clearance (mainStep host fds one wakeUp)
      (mainStep host fds other (withRead read wakeUp)) := by
  have turned := iterate_alike host fds alike seen
  unfold mainStep
  dsimp only
  rw [alike.bRunning]
  split
  · refine ⟨turned.world, turned.receiver, turned.serialInput, ?_⟩
    dsimp only
    rw [turned.bRunning, withRead]
  · exact alike

theorem mainStart_alike {settings settings' : Settings}
    (seen : clearance.settings settings = clearance.settings settings')
    (serialInput : List (Option UInt8)) :
    AlikeMains clearance (mainStart host env settings serialInput)
      (mainStart host env settings' serialInput) := by
  have booted :
      Alike clearance (World.boot settings) (World.boot settings') :=
    ⟨congrArg Daemon.boot seen, rfl, rfl, rfl, rfl, rfl⟩
  exact ⟨(start_alike host env booted).world, rfl, rfl, rfl⟩

/-- Daemons whose settings look the same stay alike. -/
theorem mainFrom_alike {settings settings' : Settings}
    (seen : clearance.settings settings = clearance.settings settings')
    (serialInput : List (Option UInt8)) (wakeUps : List WakeUp) :
    AlikeMains clearance
      (mainFrom host fds env settings serialInput wakeUps)
      (mainFrom host fds env settings' serialInput wakeUps) := by
  have turn (one other : MainState) (wakeUp : WakeUp)
      (alike : AlikeMains clearance one other) :
      AlikeMains clearance (mainStep host fds one wakeUp)
        (mainStep host fds other wakeUp) :=
    mainStep_alike host fds alike fun _ => rfl
  exact run_related turn (mainStart_alike host env seen serialInput) wakeUps

/-- Daemons with other packets stay alike where packets are not seen. -/
theorem mainFrom_unread (unseen : clearance.packets = false)
    (settings : Settings) (serialInput : List (Option UInt8))
    (turns : List (WakeUp × TunRead)) :
    AlikeMains clearance
      (mainFrom host fds env settings serialInput
        (turns.map fun turn => turn.1))
      (mainFrom host fds env settings serialInput
        (turns.map fun turn => withRead turn.2 turn.1)) := by
  have turn (one other : MainState) (turn : WakeUp × TunRead)
      (alike : AlikeMains clearance one other) :
      AlikeMains clearance (mainStep host fds one turn.1)
        (mainStep host fds other (withRead turn.2 turn.1)) :=
    mainStep_alike host fds alike fun packets => by
      rw [unseen] at packets
      cases packets
  have ran :=
    run_related turn
      (@mainStart_alike clearance host env settings settings rfl
        serialInput) turns
  simpa only [mainFrom, run, List.foldl_map] using ran

end Turns

/-! ## Frames -/

/-- What is seen of a frame, if anything. -/
def seenFrame (clearance : Clearance) (frame : SLMsgType × List UInt8) :
    Option (SLMsgType × List UInt8) :=
  if frame.1 = .ipv6 ∧ clearance.packets = false then none
  else some (frame.1, clearance.frame frame.1 frame.2)

theorem frameOf_entry (clearance : Clearance) (entry : Entry) :
    (clearance.entry entry).bind frameOf =
      (frameOf entry).bind (seenFrame clearance) := by
  obtain ⟨event, time, daemon⟩ := entry
  cases event with
  | wrote u8Type payload =>
      cases u8Type with
      | ipv6 =>
          cases seen : clearance.packets with
          | true =>
              simp [Clearance.entry, Clearance.sees, Clearance.event,
                frameOf, seenFrame, seen]
          | false =>
              simp [Clearance.entry, Clearance.sees, frameOf, seenFrame,
                seen]
      | _ => rfl
  | called bTimeout | assigned eModuleState
  | handled u8Message u32Length eStatus =>
      rfl

theorem emitted_entries (clearance : Clearance) (history : List Entry) :
    emitted (history.filterMap clearance.entry) =
      (emitted history).filterMap (seenFrame clearance) := by
  unfold emitted
  rw [← List.filterMap_reverse, List.filterMap_filterMap,
    List.filterMap_filterMap]
  congr 1
  funext entry
  exact frameOf_entry clearance entry

theorem AlikeMains.emitted {clearance : Clearance} {one other : MainState}
    (alike : AlikeMains clearance one other) :
    (MainLoop.emitted one.world.history).filterMap (seenFrame clearance) =
      (MainLoop.emitted other.world.history).filterMap
        (seenFrame clearance) := by
  rw [← emitted_entries, ← emitted_entries, alike.world.history]

/-! ## The verbosity, the key and the packets -/

def withVerbosity (verbosity : Int) (settings : Settings) : Settings :=
  { settings with verbosity := verbosity }

def withKey (sSecurityKey : In6Addr) (settings : Settings) : Settings :=
  { settings with sSecurityKey := sSecurityKey }

/-- A frame without its key, if it has one. -/
def withoutKey (frame : SLMsgType × List UInt8) :
    SLMsgType × List UInt8 :=
  if frame.1 = .security then (frame.1, frame.2.drop 16) else frame

/-- Everything that a daemon does and decides, the log, the content of the
frames and the commands of the notifications apart. -/
structure SameConduct (one other : MainState) : Prop where
  tun : one.world.tun = other.world.tun
  addressFile : one.world.addressFile = other.world.addressFile
  registrations : one.world.registrations = other.world.registrations
  threads : one.world.threads = other.world.threads
  receiver : one.receiver = other.receiver
  serialInput : one.serialInput = other.serialInput
  bRunning : one.bRunning = other.bRunning

theorem AlikeMains.sameConduct {clearance : Clearance}
    {one other : MainState} (alike : AlikeMains clearance one other) :
    SameConduct one other :=
  ⟨alike.world.tun, alike.world.addressFile, alike.world.registrations,
    alike.world.threads, alike.receiver, alike.serialInput,
    alike.bRunning⟩

/-- Variables that look the same differ in what is not seen. -/
theorem daemon_of_seen {clearance : Clearance} {one other : Daemon}
    (seen : clearance.daemon one = clearance.daemon other) :
    other =
      { one with
        verbosity := other.verbosity
        sSecurityKey := other.sSecurityKey } := by
  obtain ⟨⟨⟩⟩ := one
  obtain ⟨⟨⟩⟩ := other
  simp only [Clearance.daemon, Clearance.settings, Daemon.mk.injEq,
    Settings.mk.injEq] at seen ⊢
  simp [seen]

/-- The verbosity changes nothing but itself and the log. -/
theorem verbosity_changes_log_only (host : Host) (fds : Descriptors)
    (env : Env) (settings : Settings) (verbosity : Int)
    (serialInput : List (Option UInt8)) (wakeUps : List WakeUp) :
    SameConduct (mainFrom host fds env settings serialInput wakeUps)
        (mainFrom host fds env (withVerbosity verbosity settings)
          serialInput wakeUps) ∧
      emitted
          (mainFrom host fds env settings serialInput
            wakeUps).world.history =
        emitted
          (mainFrom host fds env (withVerbosity verbosity settings)
            serialInput wakeUps).world.history ∧
      ∃ level,
        (mainFrom host fds env (withVerbosity verbosity settings)
            serialInput wakeUps).world.daemon =
          { (mainFrom host fds env settings serialInput
              wakeUps).world.daemon with
            verbosity := level } := by
  have alike :=
    @mainFrom_alike ⟨false, true, true⟩ host fds env settings
      (withVerbosity verbosity settings) rfl serialInput wakeUps
  have whole : seenFrame ⟨false, true, true⟩ = some := by
    funext frame
    simp [seenFrame, Clearance.frame]
  have frames := alike.emitted
  rw [whole, List.filterMap_some, List.filterMap_some] at frames
  have sameKey := alike.world.setting Settings.sSecurityKey fun _ => rfl
  have daemon := daemon_of_seen alike.world.daemon
  rw [← sameKey] at daemon
  exact ⟨alike.sameConduct, frames, _, daemon⟩

/-- The configured key changes nothing but itself, the log and the first bytes
of SECURITY frames, and the command of a notification, which is left out
here. -/
theorem key_changes_security_frames_only (host : Host)
    (fds : Descriptors) (env : Env) (settings : Settings)
    (sSecurityKey : In6Addr) (serialInput : List (Option UInt8))
    (wakeUps : List WakeUp) :
    SameConduct (mainFrom host fds env settings serialInput wakeUps)
        (mainFrom host fds env (withKey sSecurityKey settings)
          serialInput wakeUps) ∧
      (emitted
          (mainFrom host fds env settings serialInput
            wakeUps).world.history).map withoutKey =
        (emitted
          (mainFrom host fds env (withKey sSecurityKey settings)
            serialInput wakeUps).world.history).map withoutKey ∧
      ∃ sKey,
        (mainFrom host fds env (withKey sSecurityKey settings)
            serialInput wakeUps).world.daemon =
          { (mainFrom host fds env settings serialInput
              wakeUps).world.daemon with
            sSecurityKey := sKey } := by
  have alike :=
    @mainFrom_alike ⟨true, false, true⟩ host fds env settings
      (withKey sSecurityKey settings) rfl serialInput wakeUps
  have keyless :
      seenFrame ⟨true, false, true⟩ = some ∘ withoutKey := by
    funext frame
    by_cases isSecurity : frame.1 = .security
    · simp [seenFrame, withoutKey, Clearance.frame, isSecurity]
    · simp [seenFrame, withoutKey, Clearance.frame, isSecurity]
  have frames := alike.emitted
  rw [keyless, List.filterMap_eq_map] at frames
  have sameVerbosity := alike.world.setting Settings.verbosity fun _ => rfl
  have daemon := daemon_of_seen alike.world.daemon
  rw [← sameVerbosity] at daemon
  exact ⟨alike.sameConduct, frames, _, daemon⟩

/-- With the same outcomes of `select`, what is read from the TUN device changes
nothing but the IPV6 frames. -/
theorem packets_change_ipv6_frames_only (host : Host) (fds : Descriptors)
    (env : Env) (settings : Settings) (serialInput : List (Option UInt8))
    (turns : List (WakeUp × TunRead)) :
    SameConduct
        (mainFrom host fds env settings serialInput
          (turns.map fun turn => turn.1))
        (mainFrom host fds env settings serialInput
          (turns.map fun turn => withRead turn.2 turn.1)) ∧
      (emitted
          (mainFrom host fds env settings serialInput
            (turns.map fun turn => turn.1)).world.history).filter
          (fun frame => frame.1 ≠ .ipv6) =
        (emitted
          (mainFrom host fds env settings serialInput
            (turns.map fun turn => withRead turn.2 turn.1)).world.history).filter
          (fun frame => frame.1 ≠ .ipv6) ∧
      (mainFrom host fds env settings serialInput
          (turns.map fun turn => turn.1)).world.daemon =
        (mainFrom host fds env settings serialInput
          (turns.map fun turn => withRead turn.2 turn.1)).world.daemon := by
  have alike :=
    @mainFrom_unread ⟨true, true, false⟩ host fds env rfl settings
      serialInput turns
  have control :
      seenFrame ⟨true, true, false⟩ =
        Option.guard fun frame => frame.1 ≠ .ipv6 := by
    funext frame
    by_cases isPacket : frame.1 = .ipv6
    · simp [seenFrame, Option.guard, isPacket]
    · simp [seenFrame, Option.guard, Clearance.frame, isPacket]
  have frames := alike.emitted
  rw [control, List.filterMap_eq_filter] at frames
  exact ⟨alike.sameConduct, frames, alike.world.daemon⟩

end SixLoWPANd.MainLoop
