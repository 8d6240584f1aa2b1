import SixLoWPANd.JennicModule.ControlFrames
import SixLoWPANd.MainLoop.Loop
import SixLoWPANd.SerialLink.FrameStream

/-!
# The bridge between the module and the TUN device

The module sends a stream of frames, the TUN device delivers packets, and the
loop takes them in any order and in any pieces.  As long as it runs, the TUN
device has got the payload of each IPV6 frame that `bSL_ReadMessage` delivers
when it is called as often as the serial device was ready, and the serial device
the frame of each packet, in order and nothing else of that kind; and what the
serial device has got decodes to the messages that were meant.
-/

namespace SixLoWPANd.MainLoop

open SixLoWPANd.Foundation
open SixLoWPANd.SerialLink
open SixLoWPANd.JennicModule

/-! ## What goes in and out -/

/-- The types that `eJennicModuleProcessMessage` handles. -/
def handledTypes : List SLMsgType :=
  [.ipv6, .config, .security, .addr, .configRequest, .log, .version, .ping]

/-- A message that fits the message buffer; behind a LOG message there is
space for its terminator. -/
def admissible (message : Message) : Prop :=
  (∃ u8Type ∈ handledTypes, message.u8Type = u8Type.code) ∧
    message.payload.length ≤ 2048 ∧
      (message.u8Type = SLMsgType.log.code →
        message.payload.length < 2048)

instance (message : Message) : Decidable (admissible message) :=
  inferInstanceAs (Decidable ((∃ u8Type ∈ handledTypes, _) ∧ _ ∧ (_ → _)))

def isPacket (message : Message) : Bool :=
  message.u8Type = SLMsgType.ipv6.code

/-- How often `select` says that the serial device has data. -/
def serialWakeUps (wakeUps : List WakeUp) : Nat :=
  wakeUps.countP fun wakeUp =>
    match wakeUp.selected with
    | .ready serial _ => serial
    | .error _ => false

/-- One call of `bSL_ReadMessage` for every time that the serial device has
data, by a receiver that does nothing else. -/
def receiverCalls (reads : List (Option UInt8)) (wakeUps : List WakeUp) :
    List Call :=
  readCalls messageSize (serialWakeUps wakeUps) .initial reads

/-- The packets given to the TUN device, in order. -/
def packetsWritten (world : World) : List (List UInt8) :=
  (world.tun.map Prod.fst).reverse

/-- The packets that the TUN device delivers, in order. -/
def packetsRead (wakeUps : List WakeUp) : List (List UInt8) :=
  wakeUps.filterMap fun wakeUp =>
    match wakeUp.selected with
    | .ready _ true =>
        if wakeUp.read.buf = [] then none else some wakeUp.read.buf
    | _ => none

def frameOf (entry : Entry) : Option (SLMsgType × List UInt8) :=
  match entry.event with
  | .wrote u8Type payload => some (u8Type, payload)
  | _ => none

/-- The messages given to `vSL_WriteMessage`, in order. -/
def emitted (history : List Entry) : List (SLMsgType × List UInt8) :=
  history.reverse.filterMap frameOf

def packetsEmitted (history : List Entry) : List (List UInt8) :=
  ((emitted history).filter fun frame => frame.1 = .ipv6).map Prod.snd

/-- The bytes of a message on a device that accepts every byte. -/
def transmitted (frame : SLMsgType × List UInt8) : List UInt8 :=
  (vSLWriteMessage acceptByte frame.1.code
    (UInt16.ofNat frame.2.length) (fun n => frame.2.getD n 0) []).2

/-- The bytes that the serial device has got. -/
def serialOutput (history : List Entry) : List UInt8 :=
  (emitted history).flatMap transmitted

/-! ## Decoding the serial output -/

theorem byteDeliveries_transmitted {frame : SLMsgType × List UInt8}
    (short : frame.2.length ≤ 2048) (receiver : Receiver) :
    (byteDeliveries messageSize receiver (transmitted frame)).map
        (fun message => (message.u8Type, message.payload)) =
      [(frame.1.code, frame.2)] := by
  let message : Message := ⟨frame.1.code, frame.2, by omega⟩
  have fits : message.u16Length ≤ messageSize := by
    rw [UInt16.le_iff_toNat_le, Message.u16Length_toNat]
    exact short
  have bytes : transmitted frame = encode message := rfl
  rw [bytes, byteDeliveries_encode messageSize fits]
  rfl

theorem byteDeliveries_output {frames : List (SLMsgType × List UInt8)}
    (short : ∀ frame ∈ frames, frame.2.length ≤ 2048)
    (receiver : Receiver) :
    (byteDeliveries messageSize receiver (frames.flatMap transmitted)).map
        (fun message => (message.u8Type, message.payload)) =
      frames.map fun frame => (frame.1.code, frame.2) := by
  induction frames generalizing receiver with
  | nil =>
      rfl
  | cons frame rest inductionHypothesis =>
      have first :=
        byteDeliveries_transmitted (short frame List.mem_cons_self)
          receiver
      have later :=
        inductionHypothesis fun other member =>
          short other (List.mem_cons_of_mem frame member)
      rw [List.flatMap_cons, byteDeliveries_append, List.map_append, first,
        later]
      rfl

/-! ## Emitted frames -/

theorem emitted_append (newer past : List Entry) :
    emitted (newer ++ past) = emitted past ++ emitted newer := by
  simp [emitted]

theorem packetsEmitted_append (newer past : List Entry) :
    packetsEmitted (newer ++ past) =
      packetsEmitted past ++ packetsEmitted newer := by
  simp [packetsEmitted, emitted_append]

theorem control_of_mem_emitted {entries : List Entry}
    (control : ∀ entry ∈ entries, entry.control)
    {frame : SLMsgType × List UInt8} (member : frame ∈ emitted entries) :
    frame.1 ≠ .ipv6 ∧ frame.2.length ≤ 36 := by
  obtain ⟨entry, inEntries, isFrame⟩ := List.mem_filterMap.mp member
  have isControl := control entry (List.mem_reverse.mp inEntries)
  unfold Entry.control at isControl
  unfold frameOf at isFrame
  cases entry with
  | mk event time daemon =>
      cases event with
      | wrote u8Type payload =>
          rw [← Option.some_injective _ isFrame]
          exact isControl
      | _ =>
          contradiction

theorem packetsEmitted_control {entries : List Entry}
    (control : ∀ entry ∈ entries, entry.control) :
    packetsEmitted entries = [] := by
  have none : (emitted entries).filter
      (fun frame => frame.1 = SLMsgType.ipv6) = [] := by
    rw [List.filter_eq_nil_iff]
    intro frame member
    simp [(control_of_mem_emitted control member).1]
  rw [packetsEmitted, none]
  rfl

/-- The emitted frames fit the buffer, and their packets are `packets`. -/
structure Emits (packets : List (List UInt8)) (ledger : Ledger) :
    Prop where
  forwarded : packetsEmitted ledger.history = packets
  short : ∀ frame ∈ emitted ledger.history, frame.2.length ≤ 2048

namespace Emits

variable {packets : List (List UInt8)} {before after : Ledger}

/-- Control frames change nothing for the packets. -/
theorem controlled (emits : Emits packets before)
    (isControlled : Controlled before after) : Emits packets after := by
  obtain ⟨newer, history, control⟩ := isControlled
  constructor
  · rw [history, packetsEmitted_append, packetsEmitted_control control,
      List.append_nil]
    exact emits.forwarded
  · intro frame member
    rw [history, emitted_append] at member
    rcases List.mem_append.mp member with isOld | isNew
    · exact emits.short frame isOld
    · have bound := (control_of_mem_emitted control isNew).2
      omega

/-- A packet of the TUN device is emitted behind the others. -/
theorem packet (emits : Emits packets before) (now : Int)
    {payload : List UInt8} (fits : payload.length ≤ 2048) :
    Emits (packets ++ [payload])
      (before.record now (.wrote .ipv6 payload)) := by
  have history :
      (before.record now (.wrote .ipv6 payload)).history =
        [⟨.wrote .ipv6 payload, now, before.daemon⟩] ++ before.history :=
    rfl
  constructor
  · rw [history, packetsEmitted_append, emits.forwarded]
    rfl
  · intro frame member
    rw [history, emitted_append] at member
    rcases List.mem_append.mp member with isOld | isNew
    · exact emits.short frame isOld
    · rw [List.mem_singleton.mp isNew]
      exact fits

end Emits

/-! ## Received frames -/

/-- After `count` wake-ups for the serial device the receiver stands inside the
first frame that is not complete, as far in the input as `count` calls of a
receiver by itself get, and the TUN device has accepted the packets of the
complete frames. -/
structure Receives (sent : List Message) (reads : List (Option UInt8))
    (count : Nat) (main : MainState) : Prop where
  position : ∃ completed later part origin alone,
    sent = completed ++ later ∧ partOf later part ∧
    main.receiver = run (nextReceiver messageSize) origin part ∧
    (afterCall messageSize)^[count] (.initial, reads) =
      (run (nextReceiver messageSize) alone part, main.serialInput) ∧
    part ++ main.serialInput.reduceOption = later.flatMap encode ∧
    packetsWritten main.world =
      (completed.filter isPacket).map Message.payload
  accepted : ∀ written ∈ main.world.tun,
    written.2 % 4294967296 = written.1.length

theorem Receives.congr {sent : List Message} {reads : List (Option UInt8)}
    {count : Nat} {main after : MainState}
    (receives : Receives sent reads count main)
    (sameReceiver : after.receiver = main.receiver)
    (sameInput : after.serialInput = main.serialInput)
    (sameTun : after.world.tun = main.world.tun) :
    Receives sent reads count after where
  position := by
    have sameWritten :
        packetsWritten after.world = packetsWritten main.world := by
      rw [packetsWritten, sameTun, packetsWritten]
    rw [sameReceiver, sameInput, sameWritten]
    exact receives.position
  accepted := by
    rw [sameTun]
    exact receives.accepted

section Parts

variable {host : Host} {env : Env} {main : MainState}
variable {sent : List Message} {reads : List (Option UInt8)} {count : Nat}
variable {packets : List (List UInt8)}

/-- What the TUN device gets when a message is processed. -/
theorem received_tun {next : Message}
    (isNext : (serialRead main).1.after.message = next)
    (succeeded : (received host env main).eStatus = .ok) :
    packetsWritten (received host env main).world =
        packetsWritten main.world ++
          ([next].filter isPacket).map Message.payload ∧
      ∀ written ∈ (received host env main).world.tun,
        written ∈ main.world.tun ∨
          written.2 % 4294967296 = written.1.length := by
  have sameType : (serialRead main).1.after.pu8Type = next.u8Type :=
    congrArg Message.u8Type isNext
  have samePayload : (serialRead main).1.after.payload = next.payload :=
    congrArg Message.payload isNext
  have length :
      (serialRead main).1.after.pu16Length.toUInt32.toNat =
        (serialRead main).1.after.pu16Length.toNat :=
    UInt16.toNat_toUInt32 _
  have contents :
      (serialRead main).1.after.pu8Message.contents
          (serialRead main).1.after.pu16Length.toUInt32.toNat =
        next.payload := by
    rw [length]
    exact samePayload
  have given :=
    processMessage_tun host env (serialRead main).1.after.pu8Type
      (serialRead main).1.after.pu16Length.toUInt32
      (serialRead main).1.after.pu8Message main.world
  have whole :=
    processMessage_accepted host env (serialRead main).1.after.pu8Type
      (serialRead main).1.after.pu16Length.toUInt32
      (serialRead main).1.after.pu8Message main.world
  change (received host env main).world.tun = _ at given
  rw [contents, sameType] at given
  by_cases isIPv6 : next.u8Type = SLMsgType.ipv6.code
  · rw [if_pos isIPv6] at given
    have accepted := whole (sameType.trans isIPv6) succeeded
    constructor
    · simp [packetsWritten, given, isPacket, isIPv6]
    · intro written member
      rw [given] at member
      rcases List.mem_cons.mp member with rfl | isOld
      · right
        rw [accepted, length]
        dsimp only
        rw [← samePayload, Receiver.payload, TracedMemory.contents_length]
      · exact Or.inl isOld
  · rw [if_neg isIPv6] at given
    constructor
    · simp [packetsWritten, given, isPacket, isIPv6]
    · intro written member
      rw [given] at member
      exact Or.inl member

theorem receives_serial
    (fits : ∀ message ∈ sent, message.u16Length ≤ messageSize)
    (receives : Receives sent reads count main)
    (running : (onSerial host env main).bRunning = true) :
    Receives sent reads (count + 1) (onSerial host env main) := by
  obtain ⟨completed, later, part, origin, alone, split, isPart, receiver,
    reached, stream, written⟩ := receives.position
  have fitsLater : ∀ message ∈ later,
      message.u16Length ≤ messageSize := by
    intro message member
    apply fits
    rw [split]
    exact List.mem_append_right completed member
  have isCall :
      callBehind messageSize origin part main.serialInput =
        serialRead main := by
    rw [callBehind, ← receiver, serialRead]
  have call :=
    @callBehind_frames messageSize origin part main.serialInput later
      fitsLater isPart stream
  -- the receiver by itself has read the same part, behind another frame
  obtain ⟨sameBytes, sameInput⟩ :=
    @callBehind_alike messageSize origin part main.serialInput later
      fitsLater isPart stream alone
  have aloneAfter :
      (afterCall messageSize)^[count + 1] (.initial, reads) =
        ((callBehind messageSize alone part main.serialInput).1.after,
          (serialRead main).2) := by
    rw [Function.iterate_succ_apply', reached, ← isCall, ← sameInput]
    rfl
  rw [isCall] at call sameBytes
  rcases call with
    ⟨incomplete, stillPart, after, remaining⟩ |
      ⟨next, rest, isLater, complete, isNext, remaining⟩
  · rw [callBehind_after, sameBytes] at aloneAfter
    rw [onSerial_of_incomplete _ _ _ incomplete]
    exact
      ⟨⟨completed, later, _, origin, alone, split, stillPart, after,
        aloneAfter, remaining, written⟩, receives.accepted⟩
  · obtain ⟨-, sameTun, sameInput, goesOn⟩ :=
      onSerial_of_complete host env main complete
    rw [goesOn, Bool.and_eq_true, decide_eq_true_eq] at running
    obtain ⟨newWritten, newAccepted⟩ :=
      received_tun isNext running.2
    constructor
    · refine
        ⟨completed ++ [next], rest, [], _,
          (callBehind messageSize alone part main.serialInput).1.after, ?_,
          Or.inl rfl, rfl, ?_, ?_, ?_⟩
      · rw [split, isLater, List.append_assoc]
        rfl
      · rw [sameInput]
        exact aloneAfter
      · rw [sameInput]
        exact remaining
      · have sameWritten :
            packetsWritten (onSerial host env main).world =
              packetsWritten (received host env main).world := by
          rw [packetsWritten, sameTun, packetsWritten]
        rw [sameWritten, newWritten, written, List.filter_append,
          List.map_append]
    · rw [sameTun]
      intro packet member
      rcases newAccepted packet member with isOld | accepted
      · exact receives.accepted packet isOld
      · exact accepted

end Parts

/-! ## Turns of the loop -/

/-- The invariant of the bridge while the loop runs. -/
structure Bridges (sent : List Message) (reads : List (Option UInt8))
    (count : Nat) (packets : List (List UInt8)) (main : MainState) :
    Prop where
  receives : Receives sent reads count main
  emits : Emits packets main.world.toLedger

/-- The packet that a turn gets from the TUN device, if there is one. -/
def packetRead (tun : Bool) (read : TunRead) : List (List UInt8) :=
  if tun = true ∧ read.buf ≠ [] then [read.buf] else []

section Turns

variable {host : Host} {env : Env} {main : MainState}
variable {sent : List Message} {reads : List (Option UInt8)} {count : Nat}
variable {packets : List (List UInt8)}

theorem bridges_serialPart (serial : Bool)
    (fits : ∀ message ∈ sent, message.u16Length ≤ messageSize)
    (bridges : main.bRunning = true →
      Bridges sent reads count packets main)
    (running : (serialPart host env serial main).bRunning = true) :
    Bridges sent reads (count + serial.toNat) packets
      (serialPart host env serial main) := by
  cases serial with
  | false =>
      exact bridges running
  | true =>
      rw [serialPart_ready] at running ⊢
      by_cases complete : (serialRead main).1.result = true
      · obtain ⟨sameLedger, -, -, goesOn⟩ :=
          onSerial_of_complete host env main complete
        have ran := running
        rw [goesOn, Bool.and_eq_true] at ran
        obtain ⟨receives, emits⟩ := bridges ran.1
        have controlled :=
          effect_controlled (received_effect host env main)
            (fun read => by simp [receivedCall])
        rw [← sameLedger] at controlled
        exact
          ⟨receives_serial fits receives running,
            emits.controlled controlled⟩
      · have incomplete : (serialRead main).1.result = false := by
          simpa using complete
        have same := onSerial_of_incomplete host env main incomplete
        have ran : main.bRunning = true := by
          rw [same] at running
          exact running
        obtain ⟨receives, emits⟩ := bridges ran
        refine ⟨receives_serial fits receives running, ?_⟩
        rw [same]
        exact emits

theorem bridges_tunPart (tun : Bool) (read : TunRead)
    (bridges : main.bRunning = true →
      Bridges sent reads count packets main)
    (running : (tunPart env read tun main).bRunning = true) :
    Bridges sent reads count (packets ++ packetRead tun read)
      (tunPart env read tun main) := by
  cases tun with
  | false =>
      have none : packetRead false read = [] := by simp [packetRead]
      rw [none, List.append_nil]
      exact bridges running
  | true =>
      rw [tunPart_ready] at running ⊢
      obtain ⟨receives, emits⟩ := bridges running
      constructor
      · have sameTun :
            (eTunDeviceReadPacket env read main.world).tun =
              main.world.tun := by
          unfold eTunDeviceReadPacket
          split <;> rfl
        exact receives.congr rfl rfl sameTun
      · change Emits _ (eTunDeviceReadPacket env read main.world).toLedger
        rw [eTunDeviceReadPacket_toLedger]
        by_cases nothing : read.buf = []
        · rw [if_pos nothing, packetRead, if_neg (by simp [nothing]),
            List.append_nil]
          exact emits
        · rw [if_neg nothing, packetRead, if_pos ⟨rfl, nothing⟩]
          exact emits.packet env.now read.size

theorem bridges_timeout
    (bridges : main.bRunning = true →
      Bridges sent reads count packets main)
    (running : (onTimeout host env main).bRunning = true) :
    Bridges sent reads count packets (onTimeout host env main) := by
  obtain ⟨sameLedger, sameTun, sameReceiver, sameInput, goesOn⟩ :=
    onTimeout_spec host env main
  rw [goesOn, Bool.and_eq_true] at running
  obtain ⟨receives, emits⟩ := bridges running.1
  have logs := stateMachine_onlyLogs host env true main.world
  have controlled :=
    effect_controlled (stateMachine_effect host env main.world)
      (fun read => by simp)
  rw [← sameLedger] at controlled
  exact
    ⟨receives.congr sameReceiver sameInput (sameTun.trans logs.tun),
      emits.controlled controlled⟩

theorem packetsRead_single {wakeUp : WakeUp} {serial tun : Bool}
    (selected : wakeUp.selected = .ready serial tun) :
    packetsRead [wakeUp] = packetRead tun wakeUp.read := by
  by_cases nothing : wakeUp.read.buf = []
  · cases tun <;> simp [packetsRead, packetRead, selected, nothing]
  · cases tun <;> simp [packetsRead, packetRead, selected, nothing]

theorem serialWakeUps_single {wakeUp : WakeUp} {serial tun : Bool}
    (selected : wakeUp.selected = .ready serial tun) :
    serialWakeUps [wakeUp] = serial.toNat := by
  cases serial <;> simp [serialWakeUps, selected]

theorem bridges_iterate {fds : Descriptors} {wakeUp : WakeUp}
    (fits : ∀ message ∈ sent, message.u16Length ≤ messageSize)
    (bridges : main.bRunning = true →
      Bridges sent reads count packets main)
    (running : (iterate host fds main wakeUp).bRunning = true) :
    Bridges sent reads (count + serialWakeUps [wakeUp])
      (packets ++ packetsRead [wakeUp])
      (iterate host fds main wakeUp) := by
  rcases iterate_cases host fds main wakeUp with
    ⟨text, selected, turn⟩ | ⟨selected, turn⟩ |
      ⟨serial, tun, selected, -, turn | turn⟩
  · have none : packetsRead [wakeUp] = [] := by
      simp [packetsRead, selected]
    have noSerial : serialWakeUps [wakeUp] = 0 := by
      simp [serialWakeUps, selected]
    rw [turn] at running ⊢
    rw [none, noSerial, List.append_nil]
    obtain ⟨receives, emits⟩ := bridges running
    exact ⟨receives.congr rfl rfl rfl, emits⟩
  · have none : packetsRead [wakeUp] = [] := by
      simp [packetsRead, selected]
    rw [turn] at running ⊢
    rw [none, serialWakeUps_single selected, List.append_nil]
    exact bridges_timeout bridges running
  · rw [packetsRead_single selected, serialWakeUps_single selected]
    rw [turn] at running ⊢
    exact
      bridges_tunPart tun wakeUp.read (bridges_serialPart serial fits bridges)
        running
  · rw [packetsRead_single selected, serialWakeUps_single selected]
    rw [turn] at running ⊢
    exact
      bridges_serialPart serial fits
        (bridges_tunPart tun wakeUp.read bridges) running

theorem bridges_step {fds : Descriptors} {wakeUp : WakeUp}
    (fits : ∀ message ∈ sent, message.u16Length ≤ messageSize)
    (bridges : main.bRunning = true →
      Bridges sent reads count packets main)
    (running : (mainStep host fds main wakeUp).bRunning = true) :
    Bridges sent reads (count + serialWakeUps [wakeUp])
      (packets ++ packetsRead [wakeUp])
      (mainStep host fds main wakeUp) := by
  unfold mainStep at running ⊢
  split
  case isTrue isRunning =>
    rw [if_pos isRunning, Bool.and_eq_true] at running
    obtain ⟨receives, emits⟩ :=
      @bridges_iterate host main sent reads count packets fds wakeUp fits
        bridges running.1
    exact ⟨receives.congr rfl rfl rfl, emits⟩
  case isFalse notRunning =>
    rw [if_neg notRunning] at running
    exact absurd running notRunning

end Turns

/-! ## Runs of the loop -/

theorem bridges_run {host : Host} {fds : Descriptors} {sent : List Message}
    (fits : ∀ message ∈ sent, message.u16Length ≤ messageSize)
    {reads : List (Option UInt8)} {count : Nat}
    {packets : List (List UInt8)} {main : MainState}
    (bridges : main.bRunning = true →
      Bridges sent reads count packets main)
    (wakeUps : List WakeUp)
    (running : (run (mainStep host fds) main wakeUps).bRunning = true) :
    Bridges sent reads (count + serialWakeUps wakeUps)
      (packets ++ packetsRead wakeUps)
      (run (mainStep host fds) main wakeUps) := by
  induction wakeUps generalizing count packets main with
  | nil =>
      rw [packetsRead, List.filterMap_nil, List.append_nil]
      exact bridges running
  | cons wakeUp rest inductionHypothesis =>
      have split : packetsRead (wakeUp :: rest) =
          packetsRead [wakeUp] ++ packetsRead rest := by
        rw [packetsRead, ← List.singleton_append, List.filterMap_append]
        rfl
      have sum : serialWakeUps (wakeUp :: rest) =
          serialWakeUps [wakeUp] + serialWakeUps rest := by
        rw [serialWakeUps, ← List.singleton_append, List.countP_append]
        rfl
      rw [split, ← List.append_assoc, sum, ← Nat.add_assoc]
      exact
        inductionHypothesis
          (fun stillRunning => bridges_step fits bridges stillRunning)
          running

theorem bridges_start (host : Host) (env : Env) (settings : Settings)
    {sent : List Message} {reads : List (Option UInt8)}
    (stream : reads.reduceOption = sent.flatMap encode) :
    Bridges sent reads 0 [] (mainStart host env settings reads) := by
  have noPackets : (started host env settings).tun = [] := by
    have logs :=
      stateMachine_onlyLogs host env false
        (((World.boot settings |>.debugLog "Starting module").assign env
          .determineVersion).update fun daemon =>
            { daemon with sFlags := .zero })
    have begun :=
      World.OnlyLogs.debugLog (World.boot settings) "Starting module"
    exact logs.tun.trans begun.tun
  constructor
  · constructor
    · refine
        ⟨[], sent, [], .initial, .initial, rfl, Or.inl rfl, rfl, rfl, stream,
          ?_⟩
      change ((started host env settings).tun.map Prod.fst).reverse = []
      rw [noPackets]
      rfl
    · intro written member
      change written ∈ (started host env settings).tun at member
      rw [noPackets] at member
      exact absurd member List.not_mem_nil
  · have initial : Emits [] (startLedger env settings) :=
      ⟨rfl, fun _ member => absurd member List.not_mem_nil⟩
    have called :=
      (Controlled.refl (startLedger env settings)).record env.now
        (.called false) trivial
    exact
      initial.controlled
        (called.trans (turn_controlled (started_turn host env settings)))

/-- The loop has taken from the serial device what `count` calls of a receiver
by itself take, and the packets among their deliveries have been written. -/
theorem Receives.calls {sent : List Message} {reads : List (Option UInt8)}
    {count : Nat} {main : MainState}
    (fits : ∀ message ∈ sent, message.u16Length ≤ messageSize)
    (stream : reads.reduceOption = sent.flatMap encode)
    (receives : Receives sent reads count main) :
    let calls := readCalls messageSize count .initial reads
    completedBy sent (consumed calls) (deliveries calls) ∧
      reads.reduceOption =
        consumed calls ++ main.serialInput.reduceOption ∧
      packetsWritten main.world =
        ((deliveries calls).filter isPacket).map Message.payload := by
  intro calls
  obtain ⟨completed, later, part, -, alone, split, isPart, -, reached,
    remaining, written⟩ := receives.position
  have whole := consumed_readCalls messageSize count .initial reads
  rw [reached] at whole
  change reads.reduceOption =
    consumed calls ++ main.serialInput.reduceOption at whole
  have joined :
      consumed calls ++ main.serialInput.reduceOption =
        completed.flatMap encode ++ part ++
          main.serialInput.reduceOption := by
    rw [← whole, stream, split, List.flatMap_append, ← remaining,
      List.append_assoc]
  have bytes : consumed calls = completed.flatMap encode ++ part :=
    List.append_cancel_right joined
  have completes : completedBy sent (consumed calls) completed :=
    ⟨later, part, split, isPart, bytes⟩
  have delivered : deliveries calls = completed := by
    rw [deliveries_consumed]
    exact byteDeliveries_completedBy messageSize fits completes .initial
  rw [delivered]
  exact ⟨completes, whole, written⟩

/-- While the loop runs, whatever the order of events.  The messages that
`bSL_ReadMessage` delivers over the wake-ups for the serial device are the
frames that are complete, and the TUN device has got and accepted the payloads
of the IPV6 ones, and all of them as soon as there were as many wake-ups as
reads.  What the serial device has got decodes to the messages that were
emitted, however it is cut, and the packets among these are those of the TUN
device. -/
theorem nothing_lost
    (host : Host) (fds : Descriptors) (env : Env) (settings : Settings)
    (sent : List Message)
    (admitted : ∀ message ∈ sent, admissible message)
    (reads : List (Option UInt8))
    (stream : reads.reduceOption = sent.flatMap encode)
    (wakeUps : List WakeUp)
    (running :
      (mainFrom host fds env settings reads wakeUps).bRunning = true) :
    let main := mainFrom host fds env settings reads wakeUps
    let calls := receiverCalls reads wakeUps
    (completedBy sent (consumed calls) (deliveries calls) ∧
        reads.reduceOption =
          consumed calls ++ main.serialInput.reduceOption ∧
        packetsWritten main.world =
          ((deliveries calls).filter isPacket).map Message.payload ∧
        ∀ written ∈ main.world.tun,
          written.2 % 4294967296 = written.1.length) ∧
      (reads.length ≤ serialWakeUps wakeUps →
        packetsWritten main.world =
          (sent.filter isPacket).map Message.payload) ∧
      (∀ (output : List (Option UInt8)) (count : Nat)
          (receiver : Receiver),
        output.reduceOption = serialOutput main.world.history →
        output.length ≤ count →
          (deliveries (readCalls 2048 count receiver output)).map
              (fun message => (message.u8Type, message.payload)) =
            (emitted main.world.history).map fun frame =>
              (frame.1.code, frame.2)) ∧
      packetsEmitted main.world.history = packetsRead wakeUps := by
  intro main calls
  have fits : ∀ message ∈ sent, message.u16Length ≤ messageSize := by
    intro message member
    rw [UInt16.le_iff_toNat_le, Message.u16Length_toNat]
    exact (admitted message member).2.1
  obtain ⟨receives, emits⟩ :=
    bridges_run fits
      (fun _ => bridges_start host env settings stream) wakeUps running
  rw [Nat.zero_add] at receives
  obtain ⟨completes, whole, written⟩ := receives.calls fits stream
  refine ⟨⟨completes, whole, written, receives.accepted⟩, ?_, ?_,
    emits.forwarded⟩
  · intro enough
    have everything :=
      byteDeliveries_completedBy messageSize fits (completedBy_flatMap sent)
        .initial
    rw [deliveries_readCalls messageSize enough, stream, everything]
      at written
    exact written
  · intro output count receiver bytes enough
    have decoded :=
      deliveries_readCalls messageSize enough receiver
    change deliveries (readCalls 2048 count receiver output) = _ at decoded
    rw [decoded, bytes]
    exact byteDeliveries_output emits.short receiver

/-- The module reports its version and sends a packet. -/
def bridgedFrames : List Message :=
  [versionMessage, ⟨SLMsgType.ipv6.code, [0x60, 0x02], by decide⟩]

/-- The frames arrive in two pieces, cut inside the second one. -/
def bridgedInput : List (Option UInt8) :=
  ((bridgedFrames.flatMap encode).take 20).map some ++
    none :: ((bridgedFrames.flatMap encode).drop 20).map some

/-- Both devices have data in turns and together. -/
def bridgedRun : List WakeUp :=
  [wakeUpAt 1 true false, wakeUpAt 2 false false, wakeUpAt 3 true true,
    wakeUpAt 4 false true, wakeUpAt 5 true false]

/-- The packet of the module reaches the TUN device and the two packets of the
TUN device the module. -/
theorem nothing_lost_two :
    let main :=
      mainFrom sampleHost sampleDescriptors (granting 0) Settings.default
        bridgedInput bridgedRun
    packetsWritten main.world = [[0x60, 0x02]] ∧
      packetsEmitted main.world.history = [[0x60], [0x60]] := by
  obtain ⟨⟨-, -, written, -⟩, -, -, forwarded⟩ :=
    nothing_lost sampleHost sampleDescriptors (granting 0)
      Settings.default bridgedFrames (by decide) bridgedInput (by decide)
      bridgedRun (by decide +kernel)
  exact ⟨written.trans (by decide +kernel), forwarded.trans (by decide)⟩

end SixLoWPANd.MainLoop
