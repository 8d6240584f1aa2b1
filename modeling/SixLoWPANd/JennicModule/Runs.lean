import SixLoWPANd.JennicModule.Handlers

/-!
# Runs of the daemon

A run starts with `eJennicModuleStart` and continues with any calls the main
loop can make: messages from the module, packets from the TUN device and
timeout ticks, each with any answers of the operating system.  `Action` unites
everything a call does to the ledger; an invariant of all actions holds in
every state of every run.
-/

namespace SixLoWPANd.JennicModule

open SixLoWPANd.Foundation

/-- The outcome of a read from the TUN device into a buffer of 2048 bytes. -/
structure TunRead where
  buf : List UInt8
  size : buf.length ≤ 2048

def eTunDeviceReadPacket (env : Env) (read : TunRead) (world : World) :
    World :=
  if read.buf.length > 0 then
    (eJennicModuleWriteIPv6 env (UInt32.ofNat read.buf.length) read.buf
      world).2
  else
    world

/-- What the main loop calls the module interface for. -/
inductive Input where
  | message (u8Message : UInt8) (u32Length : UInt32)
      (pu8Data : Nat → UInt8)
  | timeout
  | tunPacket (read : TunRead)

/-- One call and what the operating system answers during it. -/
structure ApiCall where
  env : Env
  input : Input

/-- The world after one call; a run goes on whatever status it returns. -/
def step (host : Host) (world : World) (call : ApiCall) : World :=
  match call.input with
  | .message u8Message u32Length pu8Data =>
      (eJennicModuleProcessMessage host call.env u8Message u32Length
        (TracedMemory.untouched pu8Data) world).world
  | .timeout =>
      (eJennicModuleStateMachine host call.env true world).2
  | .tunPacket read => eTunDeviceReadPacket call.env read world

/-- The ledger when `eJennicModuleStart` calls the state machine. -/
def startLedger (env : Env) (settings : Settings) : Ledger where
  daemon := { Daemon.boot settings with eModuleState := .determineVersion }
  history := [⟨.assigned .determineVersion, env.now, .boot settings⟩]

/-- The world behind `eJennicModuleStart`. -/
def started (host : Host) (env : Env) (settings : Settings) : World :=
  (eJennicModuleStart host env (.boot settings)).2

/-- The world at the end of a run. -/
def runFrom (host : Host) (env : Env) (settings : Settings)
    (calls : List ApiCall) : World :=
  run (step host) (started host env settings) calls

/-- A condition on the type and the length of a message and on the variables it
meets, as a condition on calls. -/
def meets (guard : UInt8 → UInt32 → Daemon → Prop) (world : World)
    (call : ApiCall) : Prop :=
  match call.input with
  | .message u8Message u32Length _ => guard u8Message u32Length world.daemon
  | _ => True

instance (guard : UInt8 → UInt32 → Daemon → Prop)
    [∀ u8Message u32Length daemon,
      Decidable (guard u8Message u32Length daemon)]
    (world : World) (call : ApiCall) : Decidable (meets guard world call) :=
  match input : call.input with
  | .message u8Message u32Length _ =>
      decidable_of_iff (guard u8Message u32Length world.daemon)
        (by simp [meets, input])
  | .timeout => .isTrue (by simp [meets, input])
  | .tunPacket _ => .isTrue (by simp [meets, input])

/-- Everything that a call does to the ledger, if its message meets the
guard. -/
inductive Action (host : Host)
    (guard : UInt8 → UInt32 → Daemon → Prop) (now : Int) :
    Ledger → Ledger → Prop where
  | handled {u8Message : UInt8} {u32Length : UInt32}
      {cells : Nat → UInt8} {eStatus : ModuleStatus}
      {before after : Ledger}
      (handling : Handling host now u8Message u32Length cells eStatus
        before after)
      (met : guard u8Message u32Length before.daemon) :
      Action host guard now before
        (after.complete now u8Message u32Length eStatus)
  | called {before : Ledger} (bTimeout : Bool) :
      Action host guard now before (before.record now (.called bTimeout))
  | transition {bTimeout : Bool} {before after : Ledger}
      (transition : Transition now bTimeout before after) :
      Action host guard now before after
  | forwarded {before : Ledger} (payload : List UInt8) :
      Action host guard now before
        (before.record now (.wrote .ipv6 payload))

/-! ## Concrete calls -/

/-- The two hexadecimal digits of a byte. -/
def hexDigits (u8Data : UInt8) : List Char :=
  [Nat.digitChar (u8Data.toNat / 16), Nat.digitChar (u8Data.toNat % 16)]

/-- Pairs of bytes as groups of four digits, each behind a colon. -/
def hexGroups : List UInt8 → List Char
  | high :: low :: rest =>
      ':' :: (hexDigits high ++ (hexDigits low ++ hexGroups rest))
  | _ => []

/-- The text of an address with all digits of every group; it is the usual
text of an address none of whose groups starts with the digit zero. -/
def fullText (address : In6Addr) : String :=
  String.ofList (hexGroups address.bytes).tail

/-- A little-endian host that announces its services. -/
def sampleHost : Host where
  endian := .little
  inetNtop := fullText
  cpTunDevice := "tun0"
  useZeroconf := true

/-- Answers with which every operation on files and threads succeeds. -/
def granting (now : Int) : Env where
  now := now
  tunWrite := 0
  openFile := .ok ()
  writeAddress := .ok 39
  writeNewline := .ok 1
  pthreadCreate := 0

/-- A message with the payload in front of a cleared buffer. -/
def messageAt (now : Int) (u8Type : SLMsgType) (payload : List UInt8) :
    ApiCall where
  env := granting now
  input :=
    .message u8Type.code (UInt32.ofNat payload.length) fun index =>
      payload.getD index 0

/-- A timeout tick. -/
def tickAt (now : Int) : ApiCall where
  env := granting now
  input := .timeout

/-- A start-up of a module that reports version 1.0.0 and its address. -/
def oldModuleRun : List ApiCall :=
  [messageAt 1 .version [1, 0, 0], tickAt 2, tickAt 3, tickAt 4,
    messageAt 5 .addr (List.replicate 16 0x20)]

section Invariants

variable {host : Host} {guard : UInt8 → UInt32 → Daemon → Prop}
variable {invariant : Ledger → Prop}
variable (preserved : ∀ now before after,
  Action host guard now before after → invariant before → invariant after)

include preserved

theorem transitions_preserve
    {now : Int} {bTimeout : Bool} {first last : Ledger}
    (transitions : Transitions now bTimeout first last)
    (initial : invariant first) : invariant last :=
  transitions_invariant
    (fun before after transition =>
      preserved now before after (.transition transition))
    transitions initial

theorem stateMachine_preserves
    (env : Env) (bTimeout : Bool) (world : World)
    (initial : invariant world.toLedger) :
    invariant
      (eJennicModuleStateMachine host env bTimeout world).2.toLedger :=
  transitions_preserve preserved
    (stateMachine_transitions host env bTimeout world)
    (preserved env.now _ _ (.called bTimeout) initial)

/-- An invariant of all actions is preserved by a call. -/
theorem step_preserves (world : World) (call : ApiCall)
    (initial : invariant world.toLedger) (met : meets guard world call) :
    invariant (step host world call).toLedger := by
  unfold step
  unfold meets at met
  cases input : call.input with
  | message u8Message u32Length pu8Data =>
      have met : guard u8Message u32Length world.daemon := by
        simpa [input] using met
      obtain ⟨eStatus, handled, handling, rejected | accepted⟩ :=
        processMessage_cases host call.env u8Message u32Length
          (TracedMemory.untouched pu8Data) world
      · rw [rejected.2]
        exact preserved _ _ _ (.handled handling met) initial
      · obtain ⟨rfl, transitions⟩ := accepted
        have completed :=
          preserved _ _ _ (.handled handling met) initial
        exact
          transitions_preserve preserved transitions
            (preserved call.env.now _ _ (.called false) completed)
  | timeout =>
      exact stateMachine_preserves preserved call.env true world initial
  | tunPacket read =>
      unfold eTunDeviceReadPacket
      dsimp only
      split
      · exact preserved call.env.now _ _ (.forwarded _) initial
      · exact initial

/-- An invariant of all actions that holds when the state machine is first
called holds at the end of every run whose messages meet the guard. -/
theorem runFrom_invariant_of_meets
    (env : Env) (settings : Settings) (calls : List ApiCall)
    (initial : invariant (startLedger env settings))
    (met : EveryStep (step host) (meets guard)
      (started host env settings) calls) :
    invariant (runFrom host env settings calls).toLedger := by
  have begun : invariant (started host env settings).toLedger := by
    apply stateMachine_preserves preserved
    rw [World.update_toLedger, World.assign_toLedger,
      World.debugLog_toLedger]
    exact initial
  exact
    @run_invariant World ApiCall (step host)
      (fun world => invariant world.toLedger) (meets guard)
      (step_preserves preserved) _ _ begun met

end Invariants

/-- The guard that every message meets. -/
def unguarded : UInt8 → UInt32 → Daemon → Prop := fun _ _ _ => True

/-- An invariant of all actions that holds when the state machine is first
called holds at the end of every run. -/
theorem runFrom_invariant {host : Host} {invariant : Ledger → Prop}
    (preserved : ∀ now before after,
      Action host unguarded now before after →
        invariant before → invariant after)
    (env : Env) (settings : Settings) (calls : List ApiCall)
    (initial : invariant (startLedger env settings)) :
    invariant (runFrom host env settings calls).toLedger := by
  apply runFrom_invariant_of_meets preserved env settings calls initial
  apply everyStep_of_forall
  intro world call
  unfold meets
  split
  · trivial
  · trivial

/-! ## Calls as a whole

`Action` forgets which steps belong to one call.  `Effect` keeps them together
with the input of the call. -/

/-- The status that a call returns to the main loop. -/
def status (host : Host) (world : World) (call : ApiCall) : ModuleStatus :=
  match call.input with
  | .message u8Message u32Length pu8Data =>
      (eJennicModuleProcessMessage host call.env u8Message u32Length
        (TracedMemory.untouched pu8Data) world).eStatus
  | .timeout =>
      (eJennicModuleStateMachine host call.env true world).1
  | .tunPacket _ => .ok

/-- What a call does to the ledger. -/
inductive Effect (host : Host) (call : ApiCall) :
    Ledger → Ledger → Prop where
  | rejected {u8Message : UInt8} {u32Length : UInt32}
      {pu8Data : Nat → UInt8} {eStatus : ModuleStatus}
      {before handled : Ledger}
      (isMessage : call.input = .message u8Message u32Length pu8Data)
      (handling : Handling host call.env.now u8Message u32Length pu8Data
        eStatus before handled)
      (failed : eStatus ≠ .ok) :
      Effect host call before
        (handled.complete call.env.now u8Message u32Length eStatus)
  | processed {u8Message : UInt8} {u32Length : UInt32}
      {pu8Data : Nat → UInt8} {before handled after : Ledger}
      (isMessage : call.input = .message u8Message u32Length pu8Data)
      (handling : Handling host call.env.now u8Message u32Length pu8Data
        .ok before handled)
      (turn : Turn call.env.now false
        ((handled.complete call.env.now u8Message u32Length .ok).record
          call.env.now (.called false))
        after) :
      Effect host call before after
  | ticked {before after : Ledger} (isTimeout : call.input = .timeout)
      (turn : Turn call.env.now true
        (before.record call.env.now (.called true)) after) :
      Effect host call before after
  | forwarded {before : Ledger} {read : TunRead}
      (isPacket : call.input = .tunPacket read)
      (arrived : read.buf ≠ []) :
      Effect host call before
        (before.record call.env.now (.wrote .ipv6 read.buf))
  | unread {before : Ledger} {read : TunRead}
      (isPacket : call.input = .tunPacket read)
      (nothing : read.buf = []) :
      Effect host call before before

theorem eTunDeviceReadPacket_toLedger
    (env : Env) (read : TunRead) (world : World) :
    (eTunDeviceReadPacket env read world).toLedger =
      if read.buf = [] then world.toLedger
      else world.toLedger.record env.now (.wrote .ipv6 read.buf) := by
  have size := read.size
  have whole :
      (UInt32.ofNat read.buf.length).toUInt16.toNat = read.buf.length := by
    simp only [UInt32.toNat_toUInt16, UInt32.toNat_ofNat']
    omega
  unfold eTunDeviceReadPacket
  by_cases nothing : read.buf = []
  · simp [nothing]
  · have arrived : read.buf.length > 0 := List.length_pos_of_ne_nil nothing
    rw [if_pos arrived, if_neg nothing, eJennicModuleWriteIPv6_toLedger,
      whole, List.take_length]

theorem processMessage_effect (host : Host) (env : Env)
    (u8Message : UInt8) (u32Length : UInt32)
    (pu8Data : TracedMemory UInt8) (world : World) :
    Effect host ⟨env, .message u8Message u32Length pu8Data.cells⟩
      world.toLedger
      (eJennicModuleProcessMessage host env u8Message u32Length pu8Data
        world).world.toLedger := by
  obtain ⟨eStatus, handled, handling, rejected | accepted⟩ :=
    processMessage_turn host env u8Message u32Length pu8Data world
  · rw [rejected.2]
    exact .rejected rfl handling rejected.1
  · obtain ⟨rfl, turn⟩ := accepted
    exact .processed rfl handling turn

theorem stateMachine_effect (host : Host) (env : Env) (world : World) :
    Effect host ⟨env, .timeout⟩ world.toLedger
      (eJennicModuleStateMachine host env true world).2.toLedger :=
  .ticked rfl (stateMachine_turn host env true world)

theorem eTunDeviceReadPacket_effect (host : Host) (env : Env)
    (read : TunRead) (world : World) :
    Effect host ⟨env, .tunPacket read⟩ world.toLedger
      (eTunDeviceReadPacket env read world).toLedger := by
  rw [eTunDeviceReadPacket_toLedger]
  by_cases nothing : read.buf = []
  · rw [if_pos nothing]
    exact .unread rfl nothing
  · rw [if_neg nothing]
    exact .forwarded rfl nothing

theorem step_effect (host : Host) (world : World) (call : ApiCall) :
    Effect host call world.toLedger (step host world call).toLedger := by
  obtain ⟨env, input⟩ := call
  cases input with
  | message u8Message u32Length pu8Data =>
      exact
        processMessage_effect host env u8Message u32Length
          (TracedMemory.untouched pu8Data) world
  | timeout =>
      exact stateMachine_effect host env world
  | tunPacket read =>
      exact eTunDeviceReadPacket_effect host env read world

/-- A timeout tick is a turn of the state machine. -/
theorem turn_of_timeout {host : Host} {call : ApiCall}
    {before after : Ledger} (isTimeout : call.input = .timeout)
    (effect : Effect host call before after) :
    Turn call.env.now true (before.record call.env.now (.called true))
      after := by
  cases effect with
  | ticked _ turn =>
      exact turn
  | rejected isOther | processed isOther | forwarded isOther
  | unread isOther =>
      simp [isTimeout] at isOther

/-- The turn with which a run begins. -/
theorem started_turn (host : Host) (env : Env) (settings : Settings) :
    Turn env.now false
      ((startLedger env settings).record env.now (.called false))
      (started host env settings).toLedger := by
  have begun :=
    stateMachine_turn host env false
      (((World.boot settings |>.debugLog "Starting module").assign env
        .determineVersion).update fun daemon =>
          { daemon with sFlags := .zero })
  rw [World.update_toLedger, World.assign_toLedger,
    World.debugLog_toLedger] at begun
  exact begun

/-- What every effect of an admitted call preserves, and the first turn
establishes, holds at the end of every run of admitted calls. -/
theorem runFrom_invariant_of_effects
    {host : Host} {invariant : Ledger → Prop}
    {condition : World → ApiCall → Prop}
    (preserved : ∀ (world : World) call after,
      Effect host call world.toLedger after → condition world call →
        invariant world.toLedger → invariant after)
    {env : Env} {settings : Settings} {calls : List ApiCall}
    (begun : invariant (started host env settings).toLedger)
    (met : EveryStep (step host) condition (started host env settings)
      calls) :
    invariant (runFrom host env settings calls).toLedger :=
  @run_invariant World ApiCall (step host)
    (fun world => invariant world.toLedger) condition
    (fun world call initial admitted =>
      preserved world call _ (step_effect host world call) admitted
        initial)
    _ _ begun met

section Parts

variable {host : Host} {call : ApiCall} {invariant : Ledger → Prop}

theorem turn_preserves {now : Int} {bTimeout : Bool} {before after : Ledger}
    (transition : ∀ {before after : Ledger},
      Transition now bTimeout before after →
        invariant before → invariant after)
    (turn : Turn now bTimeout before after) (initial : invariant before) :
    invariant after :=
  transitions_invariant (fun _ _ => transition) turn.transitions initial

/-- An effect preserves what its parts preserve. -/
theorem effect_preserves {before after : Ledger}
    (handled : ∀ {u8Message : UInt8} {u32Length : UInt32}
      {pu8Data : Nat → UInt8} {eStatus : ModuleStatus} {handled : Ledger},
      call.input = .message u8Message u32Length pu8Data →
      Handling host call.env.now u8Message u32Length pu8Data eStatus
        before handled →
      invariant
        (handled.complete call.env.now u8Message u32Length eStatus))
    (called : ∀ {ledger : Ledger} (bTimeout : Bool), invariant ledger →
      invariant (ledger.record call.env.now (.called bTimeout)))
    (transition : ∀ {bTimeout : Bool} {before after : Ledger},
      Transition call.env.now bTimeout before after →
        invariant before → invariant after)
    (forwarded : ∀ (payload : List UInt8),
      invariant (before.record call.env.now (.wrote .ipv6 payload)))
    (effect : Effect host call before after)
    (initial : invariant before) : invariant after := by
  cases effect with
  | rejected isMessage handling =>
      exact handled isMessage handling
  | processed isMessage handling turn =>
      exact
        turn_preserves transition turn
          (called false (handled isMessage handling))
  | ticked isTimeout turn =>
      exact turn_preserves transition turn (called true initial)
  | forwarded isPacket =>
      exact forwarded _
  | unread isPacket =>
      exact initial

end Parts

end SixLoWPANd.JennicModule
