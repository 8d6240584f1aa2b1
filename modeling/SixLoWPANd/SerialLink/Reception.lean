import SixLoWPANd.SerialLink.Receiver
import Mathlib.Data.List.ReduceOption

/-!
# Runs of the receive loop

The calls of `bSLReadMessage` see a stream cut at arbitrary points.
`bSLReadMessage_spec` says what one call makes of the bytes it consumes,
`deliveries_consumed` the same of several calls, and `deliveries_readCalls`
removes the cuts: what the calls deliver depends on the bytes of the stream
alone.

Inside a frame, `run_noFraming` reduces a string without start and end
characters to the unstuffed bytes it stands for, and `run_contentByte_data`
says what the data bytes of a frame store.
-/

namespace SixLoWPANd.SerialLink

open SixLoWPANd.Foundation

variable (u16MaxLength : UInt16)

/-! ## One byte -/

@[simp]
theorem receiveByte_start (receiver : Receiver) :
    receiveByte u16MaxLength receiver slStartChar =
      (false,
        { receiver with
          u16Bytes := 0, bInEsc := false, eRxState := .waitType }) := rfl

@[simp]
theorem receiveByte_escape (receiver : Receiver) :
    receiveByte u16MaxLength receiver slEscChar =
      (false, { receiver with bInEsc := true }) := rfl

/-- The message buffer after the checksum has been computed over it. -/
def afterChecksum (receiver : Receiver) : TracedMemory UInt8 :=
  (u8SLCalculateCRC receiver.pu8Type receiver.pu16Length
    receiver.pu8Message).2

@[simp]
theorem afterChecksum_cells (receiver : Receiver) :
    (afterChecksum receiver).cells = receiver.pu8Message.cells :=
  u8SLCalculateCRC_cells _ _ _

theorem receiveByte_end_of_matches
    {receiver : Receiver} (matching : receiver.checksumMatches) :
    receiveByte u16MaxLength receiver slEndChar =
      (true,
        { receiver with
          pu8Message := afterChecksum receiver
          eRxState := .waitStart }) := by
  have equal :
      receiver.u8CRC =
        (u8SLCalculateCRC receiver.pu8Type receiver.pu16Length
          receiver.pu8Message).1 := by
    rw [u8SLCalculateCRC_fst]
    exact matching
  unfold receiveByte
  rw [if_neg (by decide), if_neg (by decide), if_pos rfl]
  exact if_pos equal

theorem receiveByte_end_of_mismatch
    {receiver : Receiver} (mismatch : ¬ receiver.checksumMatches) :
    receiveByte u16MaxLength receiver slEndChar =
      (false, { receiver with pu8Message := afterChecksum receiver }) := by
  have different :
      receiver.u8CRC ≠
        (u8SLCalculateCRC receiver.pu8Type receiver.pu16Length
          receiver.pu8Message).1 := by
    rw [u8SLCalculateCRC_fst]
    exact mismatch
  unfold receiveByte
  rw [if_neg (by decide), if_neg (by decide), if_pos rfl]
  exact if_neg different

theorem receiveByte_content
    {u8Data : UInt8} (notStart : u8Data ≠ slStartChar)
    (notEsc : u8Data ≠ slEscChar) (notEnd : u8Data ≠ slEndChar)
    (receiver : Receiver) :
    receiveByte u16MaxLength receiver u8Data =
      (false,
        contentByte u16MaxLength { receiver with bInEsc := false }
          (if receiver.bInEsc then u8Data ^^^ 0x10 else u8Data)) := by
  cases receiver with
  | mk eRxState u8CRC u16Bytes bInEsc pu8Type pu16Length pu8Message =>
      cases bInEsc <;>
        simp [receiveByte, notStart, notEsc, notEnd]

/-- Only an end character ends a call with `TRUE`, and only when the checksum
matches. -/
theorem receiveByte_fst_iff (receiver : Receiver) (u8Data : UInt8) :
    (receiveByte u16MaxLength receiver u8Data).1 = true ↔
      u8Data = slEndChar ∧ receiver.checksumMatches := by
  by_cases isStart : u8Data = slStartChar
  · have notEnd : u8Data ≠ slEndChar := by
      rw [isStart]
      decide
    simp [isStart ▸ receiveByte_start u16MaxLength receiver, notEnd]
  · by_cases isEsc : u8Data = slEscChar
    · have notEnd : u8Data ≠ slEndChar := by
        rw [isEsc]
        decide
      simp [isEsc ▸ receiveByte_escape u16MaxLength receiver, notEnd]
    · by_cases isEnd : u8Data = slEndChar
      · subst isEnd
        by_cases matching : receiver.checksumMatches
        · simp [receiveByte_end_of_matches u16MaxLength matching, matching]
        · simp [receiveByte_end_of_mismatch u16MaxLength matching,
            matching]
      · simp [receiveByte_content u16MaxLength isStart isEsc isEnd, isEnd]

/-! ## Calls and runs -/

/-- The messages delivered while the bytes of a stream are consumed. -/
def byteDeliveries (u16MaxLength : UInt16) :
    Receiver → List UInt8 → List Message
  | _, [] => []
  | receiver, u8Data :: rest =>
      let turn := receiveByte u16MaxLength receiver u8Data
      (if turn.1 then [turn.2.message] else []) ++
        byteDeliveries u16MaxLength turn.2 rest

theorem byteDeliveries_append
    (receiver : Receiver) (earlier later : List UInt8) :
    byteDeliveries u16MaxLength receiver (earlier ++ later) =
      byteDeliveries u16MaxLength receiver earlier ++
        byteDeliveries u16MaxLength
          (run (nextReceiver u16MaxLength) receiver earlier) later := by
  induction earlier generalizing receiver with
  | nil =>
      rfl
  | cons u8Data rest inductionHypothesis =>
      simp [byteDeliveries, inductionHypothesis, nextReceiver]

/-- A string without end character delivers nothing. -/
theorem byteDeliveries_eq_nil
    {bytes : List UInt8} (noEnd : slEndChar ∉ bytes)
    (receiver : Receiver) :
    byteDeliveries u16MaxLength receiver bytes = [] := by
  induction bytes generalizing receiver with
  | nil =>
      rfl
  | cons u8Data rest inductionHypothesis =>
      simp only [List.mem_cons, not_or] at noEnd
      have continues :
          (receiveByte u16MaxLength receiver u8Data).1 = false := by
        rw [← Bool.not_eq_true, receiveByte_fst_iff]
        rintro ⟨isEnd, -⟩
        exact noEnd.1 isEnd.symm
      simp [byteDeliveries, continues, inductionHypothesis noEnd.2]

/-- What one call consumes, where it leaves the receiver and what it
delivers. -/
theorem bSLReadMessage_spec
    (receiver : Receiver) (reads : List (Option UInt8)) :
    let call := bSLReadMessage u16MaxLength receiver reads
    reads.reduceOption = call.1.bytes ++ call.2.reduceOption ∧
      call.1.after =
        run (nextReceiver u16MaxLength) receiver call.1.bytes ∧
      byteDeliveries u16MaxLength receiver call.1.bytes =
        (if call.1.result then [call.1.after.message] else []) := by
  induction reads generalizing receiver with
  | nil =>
      exact ⟨rfl, rfl, rfl⟩
  | cons outcome reads inductionHypothesis =>
      cases outcome with
      | none =>
          exact ⟨by simp [bSLReadMessage], rfl, rfl⟩
      | some u8Data =>
          by_cases returns :
              (receiveByte u16MaxLength receiver u8Data).1 = true
          · simp [bSLReadMessage, returns, nextReceiver, byteDeliveries]
          · obtain ⟨stream, after, delivered⟩ :=
              inductionHypothesis
                (receiveByte u16MaxLength receiver u8Data).2
            simp only [bSLReadMessage, returns, Bool.false_eq_true,
              ↓reduceIte]
            refine ⟨?_, ?_, ?_⟩
            · simpa using stream
            · simpa [nextReceiver] using after
            · simpa [byteDeliveries, returns] using delivered

/-- A call on outcomes that are left over uses at least one of them. -/
theorem bSLReadMessage_progress
    (receiver : Receiver) (reads : List (Option UInt8)) :
    (bSLReadMessage u16MaxLength receiver reads).2.length ≤
      reads.length - 1 := by
  induction reads generalizing receiver with
  | nil =>
      simp [bSLReadMessage]
  | cons outcome reads inductionHypothesis =>
      cases outcome with
      | none =>
          simp [bSLReadMessage]
      | some u8Data =>
          by_cases returns :
              (receiveByte u16MaxLength receiver u8Data).1 = true
          · simp [bSLReadMessage, returns]
          · have later :=
              inductionHypothesis
                (receiveByte u16MaxLength receiver u8Data).2
            simp only [bSLReadMessage, returns, Bool.false_eq_true,
              ↓reduceIte, List.length_cons]
            omega

/-- With all bytes available, a call does not return before the first end
character. -/
theorem bSLReadMessage_through_end
    {body : List UInt8} (noEnd : slEndChar ∉ body) (receiver : Receiver) :
    (bSLReadMessage u16MaxLength receiver
        ((body ++ [slEndChar]).map some)).1.bytes =
      body ++ [slEndChar] := by
  induction body generalizing receiver with
  | nil =>
      simp only [List.nil_append, List.map, bSLReadMessage]
      split <;> rfl
  | cons u8Data rest inductionHypothesis =>
      simp only [List.mem_cons, not_or] at noEnd
      have continues :
          ¬ (receiveByte u16MaxLength receiver u8Data).1 = true := by
        rw [receiveByte_fst_iff]
        rintro ⟨isEnd, -⟩
        exact noEnd.1 isEnd.symm
      simpa [bSLReadMessage, continues] using
        inductionHypothesis noEnd.2
          (receiveByte u16MaxLength receiver u8Data).2

/-- The receiver and the outcomes of reads that a call leaves for the next
one. -/
def afterCall (state : Receiver × List (Option UInt8)) :
    Receiver × List (Option UInt8) :=
  let call := bSLReadMessage u16MaxLength state.1 state.2
  (call.1.after, call.2)

/-- The calls consume the bytes of the stream in order. -/
theorem consumed_readCalls
    (count : Nat) (receiver : Receiver) (reads : List (Option UInt8)) :
    reads.reduceOption =
      consumed (readCalls u16MaxLength count receiver reads) ++
        ((afterCall u16MaxLength)^[count]
          (receiver, reads)).2.reduceOption := by
  induction count generalizing receiver reads with
  | zero =>
      rfl
  | succ count inductionHypothesis =>
      have stream := (bSLReadMessage_spec u16MaxLength receiver reads).1
      rw [Function.iterate_succ_apply, stream,
        inductionHypothesis
          (bSLReadMessage u16MaxLength receiver reads).1.after]
      simp [readCalls, consumed, afterCall]

/-- The calls deliver what the bytes that they consume deliver. -/
theorem deliveries_consumed
    (count : Nat) (receiver : Receiver) (reads : List (Option UInt8)) :
    deliveries (readCalls u16MaxLength count receiver reads) =
      byteDeliveries u16MaxLength receiver
        (consumed (readCalls u16MaxLength count receiver reads)) := by
  induction count generalizing receiver reads with
  | zero =>
      rfl
  | succ count inductionHypothesis =>
      obtain ⟨-, after, delivered⟩ :=
        bSLReadMessage_spec u16MaxLength receiver reads
      have later :=
        inductionHypothesis
          (bSLReadMessage u16MaxLength receiver reads).1.after
          (bSLReadMessage u16MaxLength receiver reads).2
      change _ = byteDeliveries u16MaxLength receiver
        ((bSLReadMessage u16MaxLength receiver reads).1.bytes ++
          consumed (readCalls u16MaxLength count _ _))
      rw [byteDeliveries_append, ← after, delivered, ← later]
      by_cases returned :
          (bSLReadMessage u16MaxLength receiver reads).1.result = true
      · simp [readCalls, deliveries, returned]
      · simp [readCalls, deliveries, returned]

/-- As many calls as there are outcomes of reads use all of them. -/
theorem afterCall_exhausts
    {count : Nat} {reads : List (Option UInt8)}
    (enough : reads.length ≤ count) (receiver : Receiver) :
    ((afterCall u16MaxLength)^[count] (receiver, reads)).2 = [] := by
  induction count generalizing receiver reads with
  | zero =>
      exact List.eq_nil_of_length_eq_zero (Nat.le_zero.mp enough)
  | succ count inductionHypothesis =>
      have progress :=
        bSLReadMessage_progress u16MaxLength receiver reads
      have fewer :
          (bSLReadMessage u16MaxLength receiver reads).2.length ≤ count := by
        omega
      rw [Function.iterate_succ_apply]
      exact
        inductionHypothesis fewer
          (bSLReadMessage u16MaxLength receiver reads).1.after

/-- However the stream is cut into calls, the calls deliver what the stream
delivers, once they are numerous enough to consume all of it. -/
theorem deliveries_readCalls
    {count : Nat} {reads : List (Option UInt8)}
    (enough : reads.length ≤ count) (receiver : Receiver) :
    deliveries (readCalls u16MaxLength count receiver reads) =
      byteDeliveries u16MaxLength receiver reads.reduceOption := by
  have stream := consumed_readCalls u16MaxLength count receiver reads
  rw [afterCall_exhausts u16MaxLength enough receiver,
    List.reduceOption_nil, List.append_nil] at stream
  rw [stream, deliveries_consumed]

/-! ## Content between framing characters -/

/-- The inner `switch` neither reads nor writes the escape flag. -/
theorem contentByte_withEsc
    (receiver : Receiver) (u8Data : UInt8) (flag : Bool) :
    contentByte u16MaxLength { receiver with bInEsc := flag } u8Data =
      { contentByte u16MaxLength receiver u8Data with bInEsc := flag } := by
  cases receiver with
  | mk eRxState u8CRC u16Bytes bInEsc pu8Type pu16Length pu8Message =>
      cases eRxState with
      | waitData =>
          simp only [contentByte]
          split <;> rfl
      | _ =>
          rfl

theorem run_contentByte_withEsc
    (receiver : Receiver) (content : List UInt8) (flag : Bool) :
    run (contentByte u16MaxLength) { receiver with bInEsc := flag }
        content =
      { run (contentByte u16MaxLength) receiver content with
        bInEsc := flag } := by
  induction content generalizing receiver with
  | nil =>
      rfl
  | cons u8Data rest inductionHypothesis =>
      simp [contentByte_withEsc, inductionHypothesis]

/-- A string without start and end characters acts through the bytes it
unstuffs to; a trailing escape stays pending. -/
theorem run_noFraming
    {bytes : List UInt8} (noStart : slStartChar ∉ bytes)
    (noEnd : slEndChar ∉ bytes) (receiver : Receiver) :
    run (nextReceiver u16MaxLength) receiver bytes =
      { run (contentByte u16MaxLength) receiver
          (slStuffing.unstuff receiver.bInEsc bytes) with
        bInEsc := slStuffing.pending receiver.bInEsc bytes } := by
  induction bytes generalizing receiver with
  | nil =>
      rfl
  | cons u8Data rest inductionHypothesis =>
      simp only [List.mem_cons, not_or] at noStart noEnd
      by_cases isEsc : u8Data = slEscChar
      · subst isEsc
        rw [run_cons, nextReceiver, receiveByte_escape,
          inductionHypothesis noStart.2 noEnd.2]
        rw [run_contentByte_withEsc]
        rfl
      · have next :=
          receiveByte_content u16MaxLength (Ne.symm noStart.1) isEsc
            (Ne.symm noEnd.1) receiver
        rw [run_cons, nextReceiver, next,
          inductionHypothesis noStart.2 noEnd.2,
          slStuffing.unstuff_cons_of_ne isEsc, run_cons,
          contentByte_withEsc, run_contentByte_withEsc]
        have notPending : decide (u8Data = slStuffing.escape) = false :=
          decide_eq_false isEsc
        rw [Stuffing.pending, notPending]
        rfl

/-! ## A whole frame -/

def startOfFrame (receiver : Receiver) : Receiver :=
  { receiver with u16Bytes := 0, bInEsc := false, eRxState := .waitType }

/-- What the content of a frame makes of the receiver that gets it. -/
def frameReceived (u16MaxLength : UInt16) (receiver : Receiver)
    (content : List UInt8) : Receiver :=
  run (contentByte u16MaxLength) (startOfFrame receiver) content

theorem message_congr
    {first second : Receiver}
    (type : first.pu8Type = second.pu8Type)
    (length : first.pu16Length = second.pu16Length)
    (cells : first.pu8Message.cells = second.pu8Message.cells) :
    first.message = second.message := by
  simp [Receiver.message, Receiver.payload, TracedMemory.contents, type,
    length, cells]

/-- An end character delivers the message variables or nothing. -/
theorem byteDeliveries_end (receiver : Receiver) :
    byteDeliveries u16MaxLength receiver [slEndChar] =
      if receiver.checksumMatches then [receiver.message] else [] := by
  by_cases matching : receiver.checksumMatches
  · have same :
        Receiver.message
            { receiver with
              pu8Message := afterChecksum receiver
              eRxState := .waitStart } =
          receiver.message :=
      message_congr rfl rfl (afterChecksum_cells receiver)
    simp [byteDeliveries, matching, same,
      receiveByte_end_of_matches u16MaxLength matching]
  · simp [byteDeliveries, matching,
      receiveByte_end_of_mismatch u16MaxLength matching]

/-- Whether a frame is delivered, and as which message, depends only on the
bytes its body unstuffs to. -/
theorem byteDeliveries_frame
    {body : List UInt8} (noStart : slStartChar ∉ body)
    (noEnd : slEndChar ∉ body) (receiver : Receiver) :
    byteDeliveries u16MaxLength receiver
        (slStartChar :: (body ++ [slEndChar])) =
      let received :=
        frameReceived u16MaxLength receiver
          (slStuffing.unstuff false body)
      if received.checksumMatches then [received.message] else [] := by
  have start :
      byteDeliveries u16MaxLength receiver
          (slStartChar :: (body ++ [slEndChar])) =
        byteDeliveries u16MaxLength (startOfFrame receiver)
          (body ++ [slEndChar]) := rfl
  rw [start, byteDeliveries_append,
    byteDeliveries_eq_nil u16MaxLength noEnd,
    run_noFraming u16MaxLength noStart noEnd, List.nil_append,
    byteDeliveries_end]
  rfl

/-! ## The data bytes of a frame -/

/-- Cells after `data` has been stored from `start` on, clipped at `limit`. -/
def overlay (cells : Nat → UInt8) (start limit : Nat)
    (data : List UInt8) (index : Nat) : UInt8 :=
  if start ≤ index ∧ index < limit then
    data.getD (index - start) (cells index)
  else
    cells index

/-- Data bytes fill the buffer in order until the announced length is reached;
surplus bytes are dropped. -/
theorem run_contentByte_data
    (receiver : Receiver) (data : List UInt8)
    (inData : receiver.eRxState = .waitData)
    (within : receiver.u16Bytes ≤ receiver.pu16Length) :
    let filled := run (contentByte u16MaxLength) receiver data
    filled.eRxState = .waitData ∧
      filled.u8CRC = receiver.u8CRC ∧
      filled.pu8Type = receiver.pu8Type ∧
      filled.pu16Length = receiver.pu16Length ∧
      filled.pu8Message.cells =
        overlay receiver.pu8Message.cells receiver.u16Bytes.toNat
          receiver.pu16Length.toNat data := by
  induction data generalizing receiver with
  | nil =>
      refine ⟨inData, rfl, rfl, rfl, ?_⟩
      funext index
      simp [overlay]
  | cons u8Data rest inductionHypothesis =>
      rw [UInt16.le_iff_toNat_le] at within
      have lengthBound := receiver.pu16Length.toNat_lt
      by_cases space : receiver.u16Bytes < receiver.pu16Length
      · have strict := UInt16.lt_iff_toNat_lt.mp space
        have advanced :
            (receiver.u16Bytes + 1).toNat =
              receiver.u16Bytes.toNat + 1 := by
          rw [UInt16.toNat_add]
          have one : (1 : UInt16).toNat = 1 := rfl
          omega
        have stored :
            contentByte u16MaxLength receiver u8Data =
              { receiver with
                pu8Message :=
                  receiver.pu8Message.store receiver.u16Bytes.toNat u8Data
                u16Bytes := receiver.u16Bytes + 1 } := by
          simp [contentByte, inData, space]
        obtain ⟨state, crc, type, length, cells⟩ :=
          inductionHypothesis
            (contentByte u16MaxLength receiver u8Data)
            (by rw [stored]; exact inData)
            (by
              rw [stored, UInt16.le_iff_toNat_le]
              simp only [advanced]
              omega)
        rw [stored] at crc type length cells
        refine ⟨state, ?_, ?_, ?_, ?_⟩
        · simpa [stored] using crc
        · simpa [stored] using type
        · simpa [stored] using length
        · rw [run_cons, stored, cells]
          funext index
          simp only [overlay, advanced, TracedMemory.store_cells]
          by_cases current : index = receiver.u16Bytes.toNat
          · subst current
            simp [strict]
          · by_cases beyond : receiver.u16Bytes.toNat < index
            · have shifted :
                  index - receiver.u16Bytes.toNat =
                    index - (receiver.u16Bytes.toNat + 1) + 1 := by
                omega
              simp [current, shifted, Nat.succ_le_of_lt beyond,
                Nat.le_of_lt beyond]
            · simp [current, show ¬ receiver.u16Bytes.toNat + 1 ≤ index by
                  omega, show ¬ receiver.u16Bytes.toNat ≤ index by omega]
      · have full : ¬ receiver.u16Bytes.toNat < receiver.pu16Length.toNat :=
          fun strict => space (UInt16.lt_iff_toNat_lt.mpr strict)
        have dropped :
            contentByte u16MaxLength receiver u8Data = receiver := by
          simp [contentByte, inData, space]
        obtain ⟨state, crc, type, length, cells⟩ :=
          inductionHypothesis receiver inData
            (UInt16.le_iff_toNat_le.mpr within)
        rw [run_cons, dropped]
        refine ⟨state, crc, type, length, ?_⟩
        rw [cells]
        funext index
        simp only [overlay]
        rw [if_neg (by omega), if_neg (by omega)]

end SixLoWPANd.SerialLink
