import SixLoWPANd.SerialLink.Reception

/-!
# What the receive loop holds inside a frame

`frameContent` computes from the bytes of a stream alone what the frame that
is being received contains so far.  `Collects` describes the receiver's
variables by it in the state that collects data, and `Progress` does so in
every state of the loop.  One byte preserves it, so it holds between any two
reads of any number of calls.
-/

namespace SixLoWPANd.SerialLink

open SixLoWPANd.Foundation

variable (u16MaxLength : UInt16)

/-! ## The content received so far -/

/-- The bytes consumed since the last start character. -/
def sinceStart (bytes : List UInt8) : List UInt8 :=
  (since (fun u8Data => u8Data = slStartChar) bytes.reverse).reverse

/-- The bytes since the last start character, without end characters. -/
def frameBytes (bytes : List UInt8) : List UInt8 :=
  (sinceStart bytes).filter fun u8Data => u8Data ≠ slEndChar

/-- The content of the frame being received: each run of escape characters is
removed and the byte behind it unmasked. -/
def frameContent (bytes : List UInt8) : List UInt8 :=
  slStuffing.unstuff false (frameBytes bytes)

theorem frameBytes_start (bytes : List UInt8) :
    frameBytes (bytes ++ [slStartChar]) = [] := by
  simp [frameBytes, sinceStart]

theorem frameBytes_end (bytes : List UInt8) :
    frameBytes (bytes ++ [slEndChar]) = frameBytes bytes := by
  have notStart : slEndChar ≠ slStartChar := by decide
  simp [frameBytes, sinceStart, notStart]

theorem frameBytes_append
    {u8Data : UInt8} (notStart : u8Data ≠ slStartChar)
    (notEnd : u8Data ≠ slEndChar) (bytes : List UInt8) :
    frameBytes (bytes ++ [u8Data]) = frameBytes bytes ++ [u8Data] := by
  simp [frameBytes, sinceStart, notStart, notEnd]

/-! ## How one byte changes the content -/

theorem frame_start (bytes : List UInt8) :
    slStuffing.pending false (frameBytes (bytes ++ [slStartChar])) =
        false ∧
      frameContent (bytes ++ [slStartChar]) = [] := by
  rw [frameContent, frameBytes_start]
  exact ⟨rfl, rfl⟩

theorem frame_end (bytes : List UInt8) :
    slStuffing.pending false (frameBytes (bytes ++ [slEndChar])) =
        slStuffing.pending false (frameBytes bytes) ∧
      frameContent (bytes ++ [slEndChar]) = frameContent bytes := by
  rw [frameContent, frameBytes_end]
  exact ⟨rfl, rfl⟩

/-- An escape character is not part of the content. -/
theorem frame_escape (bytes : List UInt8) :
    slStuffing.pending false (frameBytes (bytes ++ [slEscChar])) =
        true ∧
      frameContent (bytes ++ [slEscChar]) = frameContent bytes := by
  have extended :=
    @frameBytes_append slEscChar (by decide) (by decide) bytes
  have nothing (inEsc : Bool) : slStuffing.unstuff inEsc [slEscChar] = [] :=
    slStuffing.unstuff_escape inEsc []
  rw [frameContent, extended, slStuffing.pending_append,
    slStuffing.unstuff_append, nothing, List.append_nil]
  exact ⟨rfl, rfl⟩

theorem frame_content {u8Data : UInt8} (notStart : u8Data ≠ slStartChar)
    (notEsc : u8Data ≠ slEscChar) (notEnd : u8Data ≠ slEndChar)
    (bytes : List UInt8) :
    slStuffing.pending false (frameBytes (bytes ++ [u8Data])) = false ∧
      frameContent (bytes ++ [u8Data]) =
        frameContent bytes ++
          [if slStuffing.pending false (frameBytes bytes) then
            u8Data ^^^ 0x10
          else
            u8Data] := by
  have extended := frameBytes_append notStart notEnd bytes
  have settled (inEsc : Bool) :
      slStuffing.pending inEsc [u8Data] = false :=
    decide_eq_false notEsc
  rw [frameContent, extended, slStuffing.pending_append,
    slStuffing.unstuff_append, settled,
    slStuffing.unstuff_cons_of_ne notEsc, slStuffing.unstuff_nil]
  exact ⟨rfl, rfl⟩

/-! ## The receiver inside a frame -/

/-- A receiver that collects data holds the header of the content and, up to
the announced length, its data bytes in order. -/
def Collects (content : List UInt8) (receiver : Receiver) : Prop :=
  ∃ hi lo data,
    content = receiver.pu8Type :: hi :: lo :: receiver.u8CRC :: data ∧
      receiver.pu16Length.toNat = 256 * hi.toNat + lo.toNat ∧
      receiver.pu16Length ≤ u16MaxLength ∧
      receiver.u16Bytes.toNat =
        min receiver.pu16Length.toNat data.length ∧
      receiver.pu8Message.contents receiver.u16Bytes.toNat =
        data.take receiver.u16Bytes.toNat

/-- How far the receiver has come with the content. -/
def Progress (content : List UInt8) (receiver : Receiver) : Prop :=
  match receiver.eRxState with
  | .waitStart => True
  | .waitType => content = [] ∧ receiver.u16Bytes = 0
  | .waitLenMSB => content = [receiver.pu8Type] ∧ receiver.u16Bytes = 0
  | .waitLenLSB =>
      ∃ hi, content = [receiver.pu8Type, hi] ∧
        receiver.pu16Length = hi.toUInt16 <<< 8 ∧ receiver.u16Bytes = 0
  | .waitCRC =>
      ∃ hi lo, content = [receiver.pu8Type, hi, lo] ∧
        receiver.pu16Length.toNat = 256 * hi.toNat + lo.toNat ∧
        receiver.pu16Length ≤ u16MaxLength ∧ receiver.u16Bytes = 0
  | .waitData => Collects u16MaxLength content receiver

/-- The invariant of the receive loop behind the given bytes. -/
structure LoopInvariant (bytes : List UInt8) (receiver : Receiver) :
    Prop where
  escape : receiver.bInEsc = slStuffing.pending false (frameBytes bytes)
  progress : Progress u16MaxLength (frameContent bytes) receiver

/-! ## One byte -/

/-- A content byte extends what the receiver has collected. -/
theorem Collects.contentByte
    {content : List UInt8} {receiver : Receiver}
    (collects : Collects u16MaxLength content receiver)
    (inData : receiver.eRxState = .waitData) (u8Data : UInt8) :
    Collects u16MaxLength (content ++ [u8Data])
      (contentByte u16MaxLength receiver u8Data) := by
  obtain ⟨hi, lo, data, rfl, length, fits, counted, held⟩ := collects
  have lengthBound := receiver.pu16Length.toNat_lt
  by_cases space : receiver.u16Bytes < receiver.pu16Length
  · have strict := UInt16.lt_iff_toNat_lt.mp space
    have all : receiver.u16Bytes.toNat = data.length := by omega
    have advanced :
        (receiver.u16Bytes + 1).toNat = data.length + 1 := by
      rw [UInt16.toNat_add, all]
      have one : (1 : UInt16).toNat = 1 := rfl
      omega
    simp only [SerialLink.contentByte, inData, space, if_true]
    refine ⟨hi, lo, data ++ [u8Data], by simp, length, fits, ?_, ?_⟩
    · simp only [advanced, List.length_append, List.length_singleton]
      omega
    · rw [all, List.take_length] at held
      simp only [advanced, all]
      rw [TracedMemory.contents_store, held,
        List.take_of_length_le (by simp)]
  · have full : ¬ receiver.u16Bytes.toNat < receiver.pu16Length.toNat :=
      fun strict => space (UInt16.lt_iff_toNat_lt.mpr strict)
    simp only [SerialLink.contentByte, inData, space, if_false]
    refine ⟨hi, lo, data ++ [u8Data], by simp, length, fits, ?_, ?_⟩
    · simp only [List.length_append, List.length_singleton]
      omega
    · rw [held, List.take_append_of_le_length (by omega)]

theorem Progress.contentByte
    {content : List UInt8} {receiver : Receiver}
    (progress : Progress u16MaxLength content receiver) (u8Data : UInt8) :
    Progress u16MaxLength (content ++ [u8Data])
      (contentByte u16MaxLength receiver u8Data) := by
  cases state : receiver.eRxState with
  | waitStart =>
      simp [SerialLink.contentByte, Progress, state]
  | waitType =>
      simp only [Progress, state] at progress
      simp [SerialLink.contentByte, Progress, state, progress]
  | waitLenMSB =>
      simp only [Progress, state] at progress
      simp [SerialLink.contentByte, Progress, state, progress]
  | waitLenLSB =>
      simp only [Progress, state] at progress
      obtain ⟨hi, rfl, length, nothing⟩ := progress
      -- the comparison with the buffer size decides the next state
      by_cases oversized :
          receiver.pu16Length + u8Data.toUInt16 > u16MaxLength
      · simp [SerialLink.contentByte, Progress, state, oversized]
      · have joined := toNat_joined_length hi u8Data
        rw [← length] at joined
        simp only [SerialLink.contentByte, Progress, state, oversized,
          if_false]
        exact
          ⟨hi, u8Data, rfl, joined, UInt16.not_lt.mp oversized, nothing⟩
  | waitCRC =>
      simp only [Progress, state] at progress
      obtain ⟨hi, lo, rfl, length, fits, nothing⟩ := progress
      simp only [SerialLink.contentByte, Progress, state]
      exact
        ⟨hi, lo, [], rfl, length, fits, by simp [nothing],
          by simp [nothing, TracedMemory.contents]⟩
  | waitData =>
      simp only [Progress, state] at progress
      have collects := progress.contentByte u16MaxLength state u8Data
      have inData :
          (SerialLink.contentByte u16MaxLength receiver
            u8Data).eRxState = .waitData := by
        simp only [SerialLink.contentByte, state]
        split
        · rfl
        · exact state
      simpa only [Progress, inData] using collects

/-- Neither the escape flag nor the reads of the buffer matter. -/
theorem Progress.congr
    {content : List UInt8} {first second : Receiver}
    (progress : Progress u16MaxLength content first)
    (state : second.eRxState = first.eRxState)
    (crc : second.u8CRC = first.u8CRC)
    (bytes : second.u16Bytes = first.u16Bytes)
    (type : second.pu8Type = first.pu8Type)
    (length : second.pu16Length = first.pu16Length)
    (cells : second.pu8Message.cells = first.pu8Message.cells) :
    Progress u16MaxLength content second := by
  have contents : ∀ count, second.pu8Message.contents count =
      first.pu8Message.contents count := by
    intro count
    rw [TracedMemory.contents, cells, TracedMemory.contents]
  simpa only [Progress, Collects, state, crc, bytes, type, length,
    contents] using progress

theorem loopInvariant_initial :
    LoopInvariant u16MaxLength [] Receiver.initial :=
  ⟨rfl, trivial⟩

/-- One turn of the loop preserves the invariant. -/
theorem LoopInvariant.next
    {bytes : List UInt8} {receiver : Receiver}
    (invariant : LoopInvariant u16MaxLength bytes receiver)
    (u8Data : UInt8) :
    LoopInvariant u16MaxLength (bytes ++ [u8Data])
      (nextReceiver u16MaxLength receiver u8Data) := by
  obtain ⟨escape, progress⟩ := invariant
  by_cases isStart : u8Data = slStartChar
  · subst isStart
    obtain ⟨pending, content⟩ := frame_start bytes
    rw [nextReceiver, receiveByte_start]
    exact ⟨pending.symm, by rw [content]; exact ⟨rfl, rfl⟩⟩
  · by_cases isEnd : u8Data = slEndChar
    · subst isEnd
      obtain ⟨pending, content⟩ := frame_end bytes
      by_cases matching : receiver.checksumMatches
      · rw [nextReceiver, receiveByte_end_of_matches _ matching]
        exact ⟨by rw [pending]; exact escape, trivial⟩
      · rw [nextReceiver, receiveByte_end_of_mismatch _ matching]
        refine ⟨by rw [pending]; exact escape, ?_⟩
        rw [content]
        exact
          progress.congr _ rfl rfl rfl rfl rfl
            (afterChecksum_cells receiver)
    · by_cases isEsc : u8Data = slEscChar
      · subst isEsc
        obtain ⟨pending, content⟩ := frame_escape bytes
        rw [nextReceiver, receiveByte_escape]
        refine ⟨pending.symm, ?_⟩
        rw [content]
        exact progress.congr _ rfl rfl rfl rfl rfl rfl
      · obtain ⟨pending, content⟩ :=
          frame_content isStart isEsc isEnd bytes
        rw [nextReceiver, receiveByte_content _ isStart isEsc isEnd,
          contentByte_withEsc]
        refine ⟨pending.symm, ?_⟩
        rw [content, ← escape]
        exact
          (progress.contentByte _ _).congr _ rfl rfl rfl rfl rfl rfl

/-! ## Whole streams and calls -/

/-- The invariant holds behind every stream. -/
theorem loopInvariant_run (bytes : List UInt8) :
    LoopInvariant u16MaxLength bytes
      (run (nextReceiver u16MaxLength) Receiver.initial bytes) := by
  induction bytes using List.reverseRecOn with
  | nil =>
      exact loopInvariant_initial u16MaxLength
  | append_singleton earlier u8Data inductionHypothesis =>
      rw [run_append]
      exact inductionHypothesis.next _ u8Data

/-- Behind every stream a receiver that collects data has collected the
content of the frame. -/
theorem collects_run
    {bytes : List UInt8}
    (inData :
      (run (nextReceiver u16MaxLength) Receiver.initial bytes).eRxState =
        .waitData) :
    Collects u16MaxLength (frameContent bytes)
      (run (nextReceiver u16MaxLength) Receiver.initial bytes) := by
  have progress := (loopInvariant_run u16MaxLength bytes).progress
  simpa only [Progress, inData] using progress

/-- Each call leaves the receiver that the bytes consumed so far make. -/
theorem after_eq_run
    {count : Nat} {receiver : Receiver} {reads : List (Option UInt8)}
    {earlier later : List Call} {call : Call}
    (calls : readCalls u16MaxLength count receiver reads =
      earlier ++ call :: later) :
    call.after =
      run (nextReceiver u16MaxLength) receiver
        (consumed (earlier ++ [call])) := by
  induction count generalizing receiver reads earlier with
  | zero =>
      simp [readCalls] at calls
  | succ count inductionHypothesis =>
      obtain ⟨-, after, -⟩ :=
        bSLReadMessage_spec u16MaxLength receiver reads
      cases earlier with
      | nil =>
          simp only [readCalls, List.nil_append, List.cons.injEq] at calls
          simpa [consumed, ← calls.1] using after
      | cons first rest =>
          simp only [readCalls, List.cons_append, List.cons.injEq] at calls
          obtain ⟨rfl, remaining⟩ := calls
          have reached := inductionHypothesis remaining
          rw [after, ← run_append] at reached
          simpa [consumed] using reached

/-- From the initial state, in every turn of the loop over any number of calls
and behind each call, a receiver that collects data has collected the content
of the bytes consumed since the last start character. -/
theorem receive_loop_collects (count : Nat) (reads : List (Option UInt8)) :
    (∀ bytes,
        bytes <+:
            consumed
              (readCalls u16MaxLength count Receiver.initial reads) →
          (run (nextReceiver u16MaxLength) Receiver.initial
                bytes).eRxState =
              .waitData →
            Collects u16MaxLength (frameContent bytes)
              (run (nextReceiver u16MaxLength) Receiver.initial bytes)) ∧
      ∀ earlier call later,
        readCalls u16MaxLength count Receiver.initial reads =
            earlier ++ call :: later →
          call.after.eRxState = .waitData →
            Collects u16MaxLength
              (frameContent (consumed (earlier ++ [call])))
              call.after := by
  constructor
  · intro bytes _ inData
    exact collects_run u16MaxLength inData
  · intro earlier call later split inData
    have after := after_eq_run u16MaxLength split
    rw [after] at inData ⊢
    exact collects_run u16MaxLength inData

/-- An escaped length byte whose escape character is sent twice, and an end
character between the next escape character and its byte. -/
example :
    let bytes : List UInt8 :=
      [slStartChar, 0x65, slEscChar, slEscChar, 0x10, slEscChar, slEndChar,
        0x12, 0x04, 0x60]
    (run (nextReceiver 2048) Receiver.initial bytes).eRxState =
        .waitData ∧
      frameContent bytes = [0x65, 0x00, 0x02, 0x04, 0x60] := by
  decide

end SixLoWPANd.SerialLink
