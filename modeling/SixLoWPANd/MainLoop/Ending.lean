import SixLoWPANd.MainLoop.Automaton
import SixLoWPANd.MainLoop.InterfaceCalls

/-!
# When the loop ends

The loop goes on whatever the module sends and whatever the devices answer,
with three exceptions besides the signals: a timeout that finds the module
silent, a message of a type that nobody handles, and a packet or an address
that cannot be passed on.  Errors of `select` and of the notifications, and
bytes that are no frame, never end it.  All this is for a serial device that
accepts every byte, since `serial_write` ends the process on another one.
-/

namespace SixLoWPANd.MainLoop

open SixLoWPANd.Foundation
open SixLoWPANd.SerialLink
open SixLoWPANd.JennicModule

/-- The handler of the message fails: nobody handles the type, the TUN device
does not take the packet, or the address is not stored. -/
def refused (env : Env) (u8Message : UInt8) (u32Length : UInt32) : Prop :=
  (∀ u8Type ∈ handledTypes, u8Message ≠ u8Type.code) ∨
    (u8Message = SLMsgType.ipv6.code ∧
      env.tunWrite % 4294967296 ≠ u32Length.toNat) ∨
    (u8Message = SLMsgType.addr.code ∧ addressStored env = false)

instance (env : Env) (u8Message : UInt8) (u32Length : UInt32) :
    Decidable (refused env u8Message u32Length) :=
  inferInstanceAs (Decidable (_ ∨ _ ∨ _))

/-- What in a turn ends the loop. -/
def endsLoop (main : MainState) (wakeUp : WakeUp) : Prop :=
  wakeUp.quit = true ∨
    match wakeUp.selected with
    | .error _ => False
    | .ready false false =>
        silent main.world.daemon wakeUp.time = true
    | .ready false true => False
    | .ready true _ =>
        (serialRead main).1.result = true ∧
          refused wakeUp.env (serialRead main).1.after.pu8Type
            (serialRead main).1.after.pu16Length.toUInt32

/-- Handlers do not look at the variables to decide whether they fail. -/
theorem handledMove_ok_iff (host : Host) (env : Env) (u8Message : UInt8)
    (u32Length : UInt32) (cells : Nat → UInt8) (daemon : Daemon) :
    (handledMove host env u8Message u32Length cells daemon).1 = .ok ↔
      ¬ refused env u8Message u32Length := by
  by_cases known : ∃ u8Type ∈ handledTypes, u8Message = u8Type.code
  · obtain ⟨u8Type, member, rfl⟩ := known
    have handled :
        ¬ ∀ other ∈ handledTypes, u8Type.code ≠ other.code :=
      fun unknown => unknown u8Type member rfl
    rw [refused, or_iff_right handled]
    cases u8Type with
    | ipv6 | configRequest | log | version | ping =>
        simp [handledMove, SLMsgType.code]
    | config | security | addr =>
        -- the status stands inside the branches of a test
        simp [handledMove, SLMsgType.code, apply_ite Prod.fst]
    | _ =>
        exact absurd member (by decide)
  · have unknown : ∀ u8Type ∈ handledTypes, u8Message ≠ u8Type.code :=
      fun u8Type member same => known ⟨u8Type, member, same⟩
    have refuses : refused env u8Message u32Length := Or.inl unknown
    simp only [handledTypes, List.forall_mem_cons] at unknown
    simp [handledMove, unknown, refuses]

/-! ## One turn -/

section Turns

variable (host : Host) (fds : Descriptors)

/-- The state machine keeps what it looks at to find the module silent. -/
theorem stateMachine_silent (env : Env) (bTimeout : Bool) (world : World) :
    silent (eJennicModuleStateMachine host env bTimeout world).2.daemon
        env.now =
      silent world.daemon env.now := by
  have turn := stateMachine_turn host env bTimeout world
  have comms :=
    turn_kept Daemon.sLastSuccessfulComms transition_lastComms turn
  have supported :=
    turn_kept (fun daemon => daemon.sFlags.uSupportsPing)
      transition_supportsPing turn
  have known :=
    turn_kept (fun daemon => daemon.sFlags.uVersionKnown)
      transition_versionKnown turn
  have same (daemon : Daemon) :
      silent daemon env.now =
        (daemon.sFlags.uVersionKnown && daemon.sFlags.uSupportsPing &&
          decide
            (env.now - daemon.sLastSuccessfulComms > moduleTimeout)) :=
    rfl
  rw [same, same, comms, supported, known]
  rfl

theorem onTimeout_running (env : Env) (main : MainState) :
    (onTimeout host env main).bRunning =
      (main.bRunning && !silent main.world.daemon env.now) := by
  obtain ⟨-, -, -, -, goesOn⟩ := onTimeout_spec host env main
  rw [goesOn, stateMachine_eStatus, stateMachine_silent]
  cases silent main.world.daemon env.now with
  | true => simp
  | false => simp

theorem serialPart_running (env : Env) (serial : Bool)
    (main : MainState) (running : main.bRunning = true) :
    (serialPart host env serial main).bRunning = true ↔
      ¬ (serial = true ∧ (serialRead main).1.result = true ∧
        refused env (serialRead main).1.after.pu8Type
          (serialRead main).1.after.pu16Length.toUInt32) := by
  cases serial with
  | false =>
      simp [serialPart, running]
  | true =>
      rw [serialPart_ready]
      by_cases complete : (serialRead main).1.result = true
      · obtain ⟨-, -, -, goesOn⟩ :=
          onSerial_of_complete host env main complete
        have accepted :=
          handledMove_ok_iff host env (serialRead main).1.after.pu8Type
            (serialRead main).1.after.pu16Length.toUInt32
            (serialRead main).1.after.pu8Message.cells main.world.daemon
        have status : (received host env main).eStatus = _ :=
          processMessage_status host env
            (serialRead main).1.after.pu16Length.toUInt32
            (serialRead main).1.after.pu8Message main.world
            (serialRead main).1.after.pu8Type
        rw [goesOn, running, status, Bool.true_and, decide_eq_true_iff,
          accepted]
        simp [complete]
      · rw [onSerial_of_incomplete host env main
          (Bool.eq_false_iff.mpr complete)]
        simp [running, complete]

/-- The turn goes on exactly if nothing in it ends the loop. -/
theorem mainStep_running_iff (main : MainState) (wakeUp : WakeUp)
    (running : main.bRunning = true) :
    (mainStep host fds main wakeUp).bRunning = true ↔
      ¬ endsLoop main wakeUp := by
  obtain ⟨-, goesOn⟩ := @mainStep_running host fds main wakeUp running
  rw [goesOn, Bool.and_eq_true, Bool.not_eq_true', endsLoop, not_or,
    Bool.not_eq_true, and_comm]
  refine and_congr_right fun _ => ?_
  rcases iterate_cases host fds main wakeUp with
    ⟨text, selected, turn⟩ | ⟨selected, turn⟩ |
      ⟨serial, tun, selected, data, turn | turn⟩
  · rw [turn, selected]
    simp [MainState.daemonLog, running]
  · rw [turn, selected, onTimeout_running, running]
    simp [WakeUp.time]
  · rw [turn, selected, tunPart_bRunning,
      serialPart_running host wakeUp.env serial main running]
    cases serial with
    | true => simp
    | false => simp [data.resolve_left Bool.false_ne_true]
  · have runningBehind :
        (tunPart wakeUp.env wakeUp.read tun main).bRunning = true := by
      rw [tunPart_bRunning, running]
    rw [turn, selected,
      serialPart_running host wakeUp.env serial _ runningBehind,
      serialRead_tunPart]
    cases serial with
    | true => simp
    | false => simp [data.resolve_left Bool.false_ne_true]

end Turns

end SixLoWPANd.MainLoop
