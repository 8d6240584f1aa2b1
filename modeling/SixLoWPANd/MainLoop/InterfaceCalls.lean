import SixLoWPANd.Foundation.Simulations
import SixLoWPANd.JennicModule.AlikeMessages
import SixLoWPANd.JennicModule.Isolation
import SixLoWPANd.MainLoop.Watchdog

/-!
# The loop as a run of the module interface

Whatever the devices do, the main loop is a run of the module interface: each
turn means a few calls of it, and the world of the loop is the world behind
these calls, up to the log.  So what is proved of all runs of the interface
holds of the main loop.  The loop also obeys the status of each call: behind a
failure nothing is called any more but for a packet that waits in the same
turn.
-/

namespace SixLoWPANd.MainLoop

open SixLoWPANd.Foundation
open SixLoWPANd.SerialLink
open SixLoWPANd.JennicModule

/-! ## What a message means does not depend on earlier accesses -/

section Accesses

variable (host : Host) (env : Env) (u8Message : UInt8)
variable (u32Length : UInt32) (pu8Data : TracedMemory UInt8) (world : World)

theorem handleMessage_untouched :
    (handleMessage host env u8Message u32Length pu8Data world).result =
      (handleMessage host env u8Message u32Length
        (TracedMemory.untouched pu8Data.cells) world).result := by
  apply handleMessage_cases (motive := fun handler =>
    (handler pu8Data world).result =
      (handler (TracedMemory.untouched pu8Data.cells) world).result)
  case ipv6 =>
    intro _
    unfold eJennicModuleProcessMessageIPv6 eTunDeviceWritePacket
    simp only [Outcome.result, TracedMemory.loadRange_fst,
      TracedMemory.untouched_cells]
    split
    · rfl
    · rfl
  case config =>
    intro _
    unfold eJennicModuleProcessMessageConfig
    split
    · rfl
    · split
      · rfl
      · rfl
  case security =>
    intro _
    unfold eJennicModuleProcessMessageSecurity
    split
    · simp [Outcome.result]
    · rfl
  case addr =>
    intro _
    unfold eJennicModuleProcessMessageIPv6Address
    simp only [In6Addr.load_fst, TracedMemory.untouched_cells]
    split
    · rfl
    · rfl
  case log =>
    intro _
    unfold eJennicModuleProcessMessageLog
    simp only [Outcome.result, TracedMemory.load_fst,
      TracedMemory.untouched_cells, Prod.mk.injEq, true_and]
    rw [TracedMemory.loadUntil_fst_of_cells]
    simp
  case configRequest | version | ping =>
    exact fun _ => rfl
  case unknown =>
    intros
    rfl

/-- A message in a buffer with a history of accesses is processed as in a
fresh one. -/
theorem processMessage_untouched :
    (eJennicModuleProcessMessage host env u8Message u32Length pu8Data
        world).result =
      (eJennicModuleProcessMessage host env u8Message u32Length
        (TracedMemory.untouched pu8Data.cells) world).result := by
  have same :=
    handleMessage_untouched host env u8Message u32Length pu8Data world
  simp only [Outcome.result, Prod.mk.injEq] at same
  unfold Outcome.result eJennicModuleProcessMessage
  dsimp only
  rw [same.1, same.2]
  split
  · rfl
  · rfl

end Accesses

/-! ## Calls of one turn -/

/-- The call on a timeout of `select`. -/
def timeoutCall (env : Env) : ApiCall where
  env := env
  input := .timeout

/-- The call on a packet of the TUN device. -/
def tunCall (env : Env) (read : TunRead) : ApiCall where
  env := env
  input := .tunPacket read

/-- The calls for the serial device: one if a message is complete. -/
def serialCalls (env : Env) (serial : Bool) (main : MainState) :
    List ApiCall :=
  if serial && (serialRead main).1.result then [receivedCall env main]
  else []

def tunCalls (env : Env) (read : TunRead) (tun : Bool) : List ApiCall :=
  if tun then [tunCall env read] else []

/-- The calls that a turn of the loop makes. -/
def turnCalls (fds : Descriptors) (main : MainState) (wakeUp : WakeUp) :
    List ApiCall :=
  if main.bRunning then
    match wakeUp.selected with
    | .error _ => []
    | .ready serial tun =>
        if serial || tun then
          if fds.serial_fd < fds.tun_fd then
            serialCalls wakeUp.env serial main ++
              tunCalls wakeUp.env wakeUp.read tun
          else
            tunCalls wakeUp.env wakeUp.read tun ++
              serialCalls wakeUp.env serial main
        else
          [timeoutCall wakeUp.env]
  else
    []

/-- The calls that the loop makes behind `eJennicModuleStart`. -/
def interfaceCalls (host : Host) (fds : Descriptors) (env : Env)
    (settings : Settings) (serialInput : List (Option UInt8))
    (wakeUps : List WakeUp) : List ApiCall :=
  actions (mainStep host fds) (turnCalls fds)
    (mainStart host env settings serialInput) wakeUps

/-! ## The world and the status behind a call -/

/-- Every call of the run succeeds. -/
def allSucceed (host : Host) : World → List ApiCall → Prop :=
  EveryStep (step host) fun world call => status host world call = .ok

/-- Behind a call that fails there is at most a packet of the TUN device. -/
def obeysStatus (host : Host) : World → List ApiCall → Prop
  | _, [] => True
  | world, call :: later =>
      (status host world call ≠ .ok →
        later = [] ∨ ∃ env read, later = [tunCall env read]) ∧
        obeysStatus host (step host world call) later

theorem obeysStatus_append {host : Host} {world : World}
    {earlier later : List ApiCall}
    (succeeded : allSucceed host world earlier)
    (obeys : obeysStatus host (run (step host) world earlier) later) :
    obeysStatus host world (earlier ++ later) := by
  induction earlier generalizing world with
  | nil =>
      exact obeys
  | cons call rest inductionHypothesis =>
      exact
        ⟨fun failed => absurd succeeded.1 failed,
          inductionHypothesis succeeded.2 obeys⟩

/-- What a part of a turn and its calls have to do with each other. -/
structure Matches (host : Host) (main after : MainState) (world : World)
    (calls : List ApiCall) : Prop where
  alike : Alike .full after.world (run (step host) world calls)
  obeys : obeysStatus host world calls
  running : after.bRunning = true →
    main.bRunning = true ∧ allSucceed host world calls

section Parts

variable {host : Host} {main : MainState} {world : World}

theorem matches_onSerial (env : Env)
    (alike : Alike .full main.world world)
    (complete : (serialRead main).1.result = true) :
    Matches host main (onSerial host env main) world
      [receivedCall env main] := by
  have processed :=
    processMessage_alike host env alike (serialRead main).1.after.pu8Type
      (serialRead main).1.after.pu16Length.toUInt32
      (TracedMemory.untouched (serialRead main).1.after.pu8Message.cells)
  have fresh :=
    processMessage_untouched host env (serialRead main).1.after.pu8Type
      (serialRead main).1.after.pu16Length.toUInt32
      (serialRead main).1.after.pu8Message main.world
  simp only [Outcome.result, Prod.mk.injEq] at fresh
  have sameStatus :
      (received host env main).eStatus =
        status host world (receivedCall env main) :=
    fresh.1.trans processed.eStatus
  have sameWorld :
      Alike .full (received host env main).world
        (step host world (receivedCall env main)) := by
    have same : (received host env main).world = _ := fresh.2
    rw [same]
    exact processed.world
  refine ⟨?_, ⟨fun _ => Or.inl rfl, trivial⟩, ?_⟩
  · unfold onSerial
    dsimp only
    rw [if_pos complete]
    split
    · exact (Alike.daemonLog_self _ _ _).symm.trans sameWorld
    · exact sameWorld
  · intro running
    obtain ⟨-, -, -, goesOn⟩ := onSerial_of_complete host env main complete
    rw [goesOn, Bool.and_eq_true, decide_eq_true_eq, sameStatus] at running
    exact ⟨running.1, running.2, trivial⟩

theorem matches_serialPart (env : Env) (serial : Bool)
    (alike : Alike .full main.world world) :
    Matches host main (serialPart host env serial main) world
      (serialCalls env serial main) := by
  cases serial with
  | false =>
      exact ⟨alike, trivial, fun running => ⟨running, trivial⟩⟩
  | true =>
      rw [serialPart_ready]
      cases complete : (serialRead main).1.result with
      | true =>
          simpa [serialCalls, complete] using
            matches_onSerial env alike complete
      | false =>
          rw [onSerial_of_incomplete host env main complete]
          simp only [serialCalls, complete, Bool.and_false,
            Bool.false_eq_true, if_false]
          exact ⟨alike, trivial, fun running => ⟨running, trivial⟩⟩

theorem matches_tunPart (env : Env) (read : TunRead) (tun : Bool)
    (alike : Alike .full main.world world) :
    Matches host main (tunPart env read tun main) world
      (tunCalls env read tun) := by
  cases tun with
  | false =>
      exact ⟨alike, trivial, fun running => ⟨running, trivial⟩⟩
  | true =>
      rw [tunPart_ready]
      exact
        ⟨tunReadPacket_alike env alike fun _ => rfl,
          ⟨fun _ => Or.inl rfl, trivial⟩,
          fun running => ⟨running, rfl, trivial⟩⟩

theorem matches_onTimeout (env : Env)
    (alike : Alike .full main.world world) :
    Matches host main (onTimeout host env main) world
      [timeoutCall env] := by
  have turned := stateMachine_alike host env alike true
  refine ⟨?_, ⟨fun _ => Or.inl rfl, trivial⟩, ?_⟩
  · unfold onTimeout
    dsimp only
    split
    · exact (Alike.daemonLog_self _ _ _).symm.trans turned.world
    · exact turned.world
  · intro running
    obtain ⟨-, -, -, -, goesOn⟩ := onTimeout_spec host env main
    rw [goesOn, Bool.and_eq_true, decide_eq_true_eq, turned.eStatus]
      at running
    exact ⟨running.1, running.2, trivial⟩

theorem allSucceed_tunCalls (env : Env) (read : TunRead) (tun : Bool) :
    allSucceed host world (tunCalls env read tun) := by
  cases tun with
  | false =>
      trivial
  | true =>
      exact ⟨rfl, trivial⟩

theorem obeysStatus_tunCalls (env : Env) (read : TunRead) (tun : Bool) :
    obeysStatus host world (tunCalls env read tun) := by
  cases tun with
  | false =>
      trivial
  | true =>
      exact ⟨fun _ => Or.inl rfl, trivial⟩

/-- The serial device before the TUN device. -/
theorem matches_serialFirst (env : Env) (read : TunRead)
    (serial tun : Bool) (alike : Alike .full main.world world) :
    Matches host main
      (tunPart env read tun (serialPart host env serial main)) world
      (serialCalls env serial main ++ tunCalls env read tun) := by
  have first := @matches_serialPart host main world env serial alike
  have second :=
    @matches_tunPart host (serialPart host env serial main) _ env read tun
      first.alike
  refine ⟨?_, ?_, fun running => ?_⟩
  · rw [run_append]
    exact second.alike
  · unfold serialCalls
    split
    · refine ⟨fun _ => ?_, obeysStatus_tunCalls env read tun⟩
      cases tun with
      | false =>
          exact Or.inl rfl
      | true =>
          exact Or.inr ⟨env, read, rfl⟩
    · exact obeysStatus_tunCalls env read tun
  · obtain ⟨stillRunning, packets⟩ := second.running running
    obtain ⟨wasRunning, messages⟩ := first.running stillRunning
    exact ⟨wasRunning, (everyStep_append _ _ _).mpr ⟨messages, packets⟩⟩

theorem serialCalls_tunPart (env : Env) (read : TunRead)
    (serial tun : Bool) :
    serialCalls env serial (tunPart env read tun main) =
      serialCalls env serial main := by
  unfold serialCalls receivedCall
  rw [serialRead_tunPart]

/-- The TUN device before the serial device. -/
theorem matches_tunFirst (env : Env) (read : TunRead)
    (serial tun : Bool) (alike : Alike .full main.world world) :
    Matches host main
      (serialPart host env serial (tunPart env read tun main)) world
      (tunCalls env read tun ++ serialCalls env serial main) := by
  have first := @matches_tunPart host main world env read tun alike
  have second :=
    @matches_serialPart host (tunPart env read tun main) _ env serial
      first.alike
  rw [serialCalls_tunPart] at second
  refine ⟨?_, ?_, fun running => ?_⟩
  · rw [run_append]
    exact second.alike
  · exact
      obeysStatus_append (allSucceed_tunCalls env read tun) second.obeys
  · obtain ⟨stillRunning, messages⟩ := second.running running
    obtain ⟨wasRunning, packets⟩ := first.running stillRunning
    exact ⟨wasRunning, (everyStep_append _ _ _).mpr ⟨packets, messages⟩⟩

end Parts

/-! ## Turns and runs -/

section Turns

variable {host : Host} {fds : Descriptors} {wakeUp : WakeUp}
variable {main : MainState} {world : World}

/-- Devices with data are served in the order of their descriptors. -/
theorem iterate_ready {serial tun : Bool}
    (selected : wakeUp.selected = .ready serial tun)
    (data : (serial || tun) = true) :
    iterate host fds main wakeUp =
      if fds.serial_fd < fds.tun_fd then
        tunPart wakeUp.env wakeUp.read tun
          (serialPart host wakeUp.env serial main)
      else
        serialPart host wakeUp.env serial
          (tunPart wakeUp.env wakeUp.read tun main) := by
  have idle : ∀ (main : MainState) i,
      i ≠ fds.serial_fd → i ≠ fds.tun_fd →
        onDescriptor host fds wakeUp main i = main :=
    fun main i => onDescriptor_other selected main
  have serialWithin : fds.serial_fd < fds.max_fd + 1 :=
    Nat.lt_succ_of_le (serial_fd_le_max_fd fds)
  have tunWithin : fds.tun_fd < fds.max_fd + 1 :=
    Nat.lt_succ_of_le (tun_fd_le_max_fd fds)
  have turn :
      iterate host fds main wakeUp =
        run (onDescriptor host fds wakeUp) main
          (List.range (fds.max_fd + 1)) := by
    simp [iterate, selected, data]
  rw [turn]
  split
  · rename_i before
    rw [run_range_two before tunWithin idle, onDescriptor_serial selected,
      onDescriptor_tun selected]
  · rename_i notBefore
    have distinct := fds.distinct
    have behind : fds.tun_fd < fds.serial_fd := by omega
    rw [run_range_two behind serialWithin
        (fun main i notTun notSerial => idle main i notSerial notTun),
      onDescriptor_tun selected, onDescriptor_serial selected]

theorem matches_iterate (running : main.bRunning = true)
    (alike : Alike .full main.world world) :
    Matches host main (iterate host fds main wakeUp) world
      (turnCalls fds main wakeUp) := by
  unfold turnCalls
  rw [if_pos running]
  cases selected : wakeUp.selected with
  | error text =>
      simp only [iterate, selected]
      exact
        ⟨(Alike.daemonLog_self _ _ _).symm.trans alike, trivial,
          fun _ => ⟨running, trivial⟩⟩
  | ready serial tun =>
      dsimp only
      by_cases data : (serial || tun) = true
      · rw [if_pos data, iterate_ready selected data]
        split
        · exact matches_serialFirst _ _ _ _ alike
        · exact matches_tunFirst _ _ _ _ alike
      · rw [if_neg data]
        have turn :
            iterate host fds main wakeUp =
              onTimeout host wakeUp.env main := by
          simp [iterate, selected, data]
        rw [turn]
        exact matches_onTimeout wakeUp.env alike

theorem matches_mainStep (alike : Alike .full main.world world) :
    Matches host main (mainStep host fds main wakeUp) world
      (turnCalls fds main wakeUp) := by
  cases isRunning : main.bRunning with
  | false =>
      rw [mainStep_stopped isRunning]
      have none : turnCalls fds main wakeUp = [] := by
        simp [turnCalls, isRunning]
      rw [none]
      exact ⟨alike, trivial, fun running => ⟨running, trivial⟩⟩
  | true =>
      have turn :=
        @matches_iterate host fds wakeUp main world isRunning alike
      obtain ⟨sameWorld, goesOn⟩ :=
        @mainStep_running host fds main wakeUp isRunning
      refine ⟨?_, turn.obeys, fun running => ?_⟩
      · rw [sameWorld]
        exact turn.alike
      · rw [goesOn, Bool.and_eq_true] at running
        exact turn.running running.1

/-- A loop that has ended makes no calls. -/
theorem actions_stopped (stopped : main.bRunning = false)
    (wakeUps : List WakeUp) :
    actions (mainStep host fds) (turnCalls fds) main wakeUps = [] := by
  induction wakeUps with
  | nil =>
      rfl
  | cons wakeUp rest inductionHypothesis =>
      rw [actions_cons, mainStep_stopped stopped, inductionHypothesis]
      simp [turnCalls, stopped]

theorem obeysStatus_actions (alike : Alike .full main.world world)
    (wakeUps : List WakeUp) :
    obeysStatus host world
      (actions (mainStep host fds) (turnCalls fds) main wakeUps) := by
  induction wakeUps generalizing main world with
  | nil =>
      trivial
  | cons wakeUp rest inductionHypothesis =>
      have turn := @matches_mainStep host fds wakeUp main world alike
      rw [actions_cons]
      cases running : (mainStep host fds main wakeUp).bRunning with
      | false =>
          rw [actions_stopped running, List.append_nil]
          exact turn.obeys
      | true =>
          exact
            obeysStatus_append (turn.running running).2
              (inductionHypothesis turn.alike)

end Turns

/-- A world that is fully alike differs in the log only. -/
theorem eq_of_alike_full {one other : World}
    (alike : Alike .full one other) :
    one = { other with syslog := one.syslog } := by
  obtain ⟨daemon, history, tun, addressFile, registrations, threads⟩ :=
    alike
  have entries : Clearance.full.entry = some := by
    funext entry
    exact Clearance.full_entry entry
  rw [Clearance.full_daemon, Clearance.full_daemon] at daemon
  rw [entries, List.filterMap_some, List.filterMap_some] at history
  obtain ⟨⟨oneDaemon, oneHistory⟩, _⟩ := one
  obtain ⟨⟨otherDaemon, otherHistory⟩, _⟩ := other
  dsimp only at daemon history tun addressFile registrations threads
  subst daemon history tun addressFile registrations threads
  rfl

/-- A turn makes at most two calls, with the answers it got. -/
theorem turnCalls_env (fds : Descriptors) (main : MainState)
    (wakeUp : WakeUp) :
    ((turnCalls fds main wakeUp).map ApiCall.env).Sublist
      [wakeUp.env, wakeUp.env] := by
  have serial (isReady : Bool) :
      ((serialCalls wakeUp.env isReady main).map ApiCall.env).Sublist
        [wakeUp.env] := by
    unfold serialCalls
    split
    · exact List.Sublist.refl _
    · exact List.nil_sublist _
  have tun (isReady : Bool) :
      ((tunCalls wakeUp.env wakeUp.read isReady).map
        ApiCall.env).Sublist [wakeUp.env] := by
    unfold tunCalls
    split
    · exact List.Sublist.refl _
    · exact List.nil_sublist _
  unfold turnCalls
  split
  · split
    · exact List.nil_sublist _
    · split
      · split
        · rw [List.map_append]
          exact (serial _).append (tun _)
        · rw [List.map_append]
          exact (tun _).append (serial _)
      · exact List.sublist_cons_self _ _
  · exact List.nil_sublist _

/-- The world of the loop and the world behind its calls are alike. -/
theorem mainFrom_alike_run (host : Host) (fds : Descriptors) (env : Env)
    (settings : Settings) (serialInput : List (Option UInt8))
    (wakeUps : List WakeUp) :
    Alike .full (mainFrom host fds env settings serialInput wakeUps).world
      (runFrom host env settings
        (interfaceCalls host fds env settings serialInput wakeUps)) := by
  have initial :
      Alike .full (mainStart host env settings serialInput).world
        (started host env settings) :=
    .refl _
  exact
    @run_simulates MainState World WakeUp ApiCall (mainStep host fds)
      (turnCalls fds) (step host)
      (fun main world => Alike .full main.world world)
      (fun _ _ _ alike => (matches_mainStep alike).alike) _ _ initial
      wakeUps

/-- The main loop is a run of the module interface, up to the log.  Each turn
makes at most two of its calls, with the answers that the turn got, and behind
a failure at most one more call is made, for a packet of the TUN device. -/
theorem main_is_interface_run (host : Host) (fds : Descriptors) (env : Env)
    (settings : Settings) (serialInput : List (Option UInt8))
    (wakeUps : List WakeUp) :
    (mainFrom host fds env settings serialInput wakeUps).world =
        { runFrom host env settings
            (interfaceCalls host fds env settings serialInput wakeUps) with
          syslog :=
            (mainFrom host fds env settings serialInput
              wakeUps).world.syslog } ∧
      obeysStatus host (started host env settings)
        (interfaceCalls host fds env settings serialInput wakeUps) ∧
      ((interfaceCalls host fds env settings serialInput wakeUps).map
        ApiCall.env).Sublist
          (wakeUps.flatMap fun wakeUp => [wakeUp.env, wakeUp.env]) := by
  have initial :
      Alike .full (mainStart host env settings serialInput).world
        (started host env settings) :=
    .refl _
  refine ⟨?_, ?_, ?_⟩
  · exact
      eq_of_alike_full
        (mainFrom_alike_run host fds env settings serialInput wakeUps)
  · exact obeysStatus_actions initial wakeUps
  · exact actions_map_sublist (turnCalls_env fds) _ wakeUps

end SixLoWPANd.MainLoop
