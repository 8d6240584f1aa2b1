import SixLoWPANd.SerialLink.RoundTrip

/-!
# Which frames are accepted

`Carries` is the grammar of the link: what the unescaped content of a frame
has to look like for it to carry a message.  The receiver decides at the end
character, on message variables that a short frame has only partly overwritten.
`received_matches_iff` computes the test it makes, and `accepts_iff` says for
which frames this test agrees with the grammar.
-/

namespace SixLoWPANd.SerialLink

open SixLoWPANd.Foundation

variable (u16MaxLength : UInt16)

/-- Content consisting of a type, two length bytes, a checksum and at least as
many data bytes as the length says carries the message formed by these. -/
def Carries (content : List UInt8) (message : Message) : Prop :=
  ∃ hi lo crc data,
    content = message.u8Type :: hi :: lo :: crc :: data ∧
      256 * hi.toNat + lo.toNat ≤ u16MaxLength.toNat ∧
      256 * hi.toNat + lo.toNat ≤ data.length ∧
      message.payload = data.take (256 * hi.toNat + lo.toNat) ∧
      crc =
        message.payload.foldl (· ^^^ ·) (message.u8Type ^^^ hi ^^^ lo)

/-- The header and all announced data bytes have arrived, and the length is
within the buffer. -/
def Complete : List UInt8 → Prop
  | _ :: hi :: lo :: _ :: data =>
      256 * hi.toNat + lo.toNat ≤ u16MaxLength.toNat ∧
        256 * hi.toNat + lo.toNat ≤ data.length
  | _ => False

instance (content : List UInt8) :
    Decidable (Complete u16MaxLength content) := by
  unfold Complete
  split <;> infer_instance

def joinedLength (hi lo : UInt8) : UInt16 :=
  (hi.toUInt16 <<< 8) + lo.toUInt16

/-- The type, length, checksum and buffer cells after the content of a frame:
bytes that have not arrived are those of earlier frames. -/
def heldFields (receiver : Receiver) :
    List UInt8 → UInt8 × UInt16 × UInt8 × (Nat → UInt8)
  | [] =>
      (receiver.pu8Type, receiver.pu16Length, receiver.u8CRC,
        receiver.pu8Message.cells)
  | [type] =>
      (type, receiver.pu16Length, receiver.u8CRC,
        receiver.pu8Message.cells)
  | [type, hi] =>
      (type, hi.toUInt16 <<< 8, receiver.u8CRC,
        receiver.pu8Message.cells)
  | [type, hi, lo] =>
      (type, joinedLength hi lo, receiver.u8CRC,
        receiver.pu8Message.cells)
  | type :: hi :: lo :: crc :: data =>
      if joinedLength hi lo > u16MaxLength then
        (type, joinedLength hi lo, receiver.u8CRC,
          receiver.pu8Message.cells)
      else
        (type, joinedLength hi lo, crc,
          overlay receiver.pu8Message.cells 0 (joinedLength hi lo).toNat
            data)

/-- The checksum held after the content of a frame is the checksum of the
fields held. -/
def heldChecksumMatches (receiver : Receiver) (content : List UInt8) :
    Prop :=
  let held := heldFields u16MaxLength receiver content
  held.2.2.1 =
    checksum held.1 held.2.1
      ((List.range held.2.1.toNat).map held.2.2.2)

instance (receiver : Receiver) (content : List UInt8) :
    Decidable (heldChecksumMatches u16MaxLength receiver content) :=
  inferInstanceAs (Decidable (_ = _))

private theorem run_contentByte_waitStart
    {receiver : Receiver} (idle : receiver.eRxState = .waitStart)
    (content : List UInt8) :
    run (contentByte u16MaxLength) receiver content = receiver := by
  induction content with
  | nil =>
      rfl
  | cons u8Data rest inductionHypothesis =>
      have ignored : contentByte u16MaxLength receiver u8Data = receiver := by
        simp [contentByte, idle]
      rw [run_cons, ignored, inductionHypothesis]

/-- `heldFields` is what the receive loop leaves. -/
theorem frameReceived_fields (receiver : Receiver) (content : List UInt8) :
    let received := frameReceived u16MaxLength receiver content
    (received.pu8Type, received.pu16Length, received.u8CRC,
        received.pu8Message.cells) =
      heldFields u16MaxLength receiver content := by
  match content with
  | [] => rfl
  | [type] => rfl
  | [type, hi] => rfl
  | [type, hi, lo] => rfl
  | type :: hi :: lo :: crc :: data =>
      by_cases oversized : joinedLength hi lo > u16MaxLength
      · have rejected :
            frameReceived u16MaxLength receiver
                (type :: hi :: lo :: crc :: data) =
              { receiver with
                u16Bytes := 0, bInEsc := false, eRxState := .waitStart
                pu8Type := type
                pu16Length := joinedLength hi lo } := by
          have header :
              frameReceived u16MaxLength receiver
                  (type :: hi :: lo :: crc :: data) =
                run (contentByte u16MaxLength)
                  { receiver with
                    u16Bytes := 0, bInEsc := false, eRxState := .waitStart
                    pu8Type := type
                    pu16Length := joinedLength hi lo }
                  (crc :: data) := by
            unfold joinedLength at oversized ⊢
            simp [frameReceived, startOfFrame, contentByte, oversized]
          rw [header, run_contentByte_waitStart u16MaxLength rfl]
        simp [rejected, heldFields, oversized]
      · have header :
            frameReceived u16MaxLength receiver
                (type :: hi :: lo :: crc :: data) =
              run (contentByte u16MaxLength)
                { receiver with
                  u8CRC := crc
                  u16Bytes := 0, bInEsc := false, eRxState := .waitData
                  pu8Type := type
                  pu16Length := joinedLength hi lo }
                data := by
          unfold joinedLength at oversized ⊢
          simp [frameReceived, startOfFrame, contentByte, oversized]
        obtain ⟨-, crcKept, typeKept, lengthKept, cells⟩ :=
          run_contentByte_data u16MaxLength
            { receiver with
              u8CRC := crc
              u16Bytes := 0, bInEsc := false, eRxState := .waitData
              pu8Type := type
              pu16Length := joinedLength hi lo }
            data rfl (UInt16.le_iff_toNat_le.mpr (Nat.zero_le _))
        simp [header, crcKept, typeKept, lengthKept, cells, heldFields,
          oversized]

/-- The test at the end character, computed from the frame and from what the
receiver held before it. -/
theorem received_matches_iff (receiver : Receiver) (content : List UInt8) :
    (frameReceived u16MaxLength receiver content).checksumMatches ↔
      heldChecksumMatches u16MaxLength receiver content := by
  have fields := frameReceived_fields u16MaxLength receiver content
  simp only [heldChecksumMatches, ← fields]
  rfl

theorem Carries.complete
    {content : List UInt8} {message : Message}
    (carries : Carries u16MaxLength content message) :
    Complete u16MaxLength content := by
  obtain ⟨hi, lo, crc, data, rfl, withinBuffer, arrived, -⟩ := carries
  exact ⟨withinBuffer, arrived⟩

private theorem overlay_contents
    (cells : Nat → UInt8) {data : List UInt8} {length : Nat}
    (arrived : length ≤ data.length) :
    (List.range length).map (overlay cells 0 length data) =
      data.take length := by
  apply List.ext_getElem
  · simp [arrived]
  · intro index left right
    have below : index < length := by simpa using left
    simp [overlay, below, Nat.lt_of_lt_of_le below arrived]

/-- On complete content the fields held are those of the frame. -/
theorem heldFields_of_complete
    {type hi lo crc : UInt8} {data : List UInt8}
    (complete : Complete u16MaxLength (type :: hi :: lo :: crc :: data))
    (receiver : Receiver) :
    heldFields u16MaxLength receiver (type :: hi :: lo :: crc :: data) =
        (type, joinedLength hi lo, crc,
          overlay receiver.pu8Message.cells 0 (joinedLength hi lo).toNat
            data) ∧
      (List.range (joinedLength hi lo).toNat).map
          (overlay receiver.pu8Message.cells 0 (joinedLength hi lo).toNat
            data) =
        data.take (256 * hi.toNat + lo.toNat) := by
  obtain ⟨withinBuffer, arrived⟩ := complete
  have joined :
      (joinedLength hi lo).toNat = 256 * hi.toNat + lo.toNat :=
    toNat_joined_length hi lo
  have accepted : ¬ joinedLength hi lo > u16MaxLength := by
    rw [gt_iff_lt, UInt16.lt_iff_toNat_lt, joined]
    omega
  constructor
  · simp [heldFields, accepted]
  · rw [joined]
    exact overlay_contents _ arrived

/-- On complete content the receiver's test is that of the grammar. -/
theorem heldChecksumMatches_iff_of_complete
    {type hi lo crc : UInt8} {data : List UInt8}
    (complete : Complete u16MaxLength (type :: hi :: lo :: crc :: data))
    (receiver : Receiver) :
    heldChecksumMatches u16MaxLength receiver
        (type :: hi :: lo :: crc :: data) ↔
      crc =
        (data.take (256 * hi.toNat + lo.toNat)).foldl (· ^^^ ·)
          (type ^^^ hi ^^^ lo) := by
  obtain ⟨fields, payload⟩ :=
    heldFields_of_complete u16MaxLength complete receiver
  have split := bytes_of_joined_length hi lo
  simp only [heldChecksumMatches, fields, payload, checksum]
  rw [joinedLength, split.1, split.2]

/-- On complete content the receiver's test and the message it hands over are
those of the grammar. -/
theorem carries_iff_of_complete
    {content : List UInt8} (complete : Complete u16MaxLength content)
    (receiver : Receiver) (message : Message) :
    Carries u16MaxLength content message ↔
      heldChecksumMatches u16MaxLength receiver content ∧
        (frameReceived u16MaxLength receiver content).message =
          message := by
  match content, complete with
  | type :: hi :: lo :: crc :: data, complete =>
      obtain ⟨held, payload⟩ :=
        heldFields_of_complete u16MaxLength complete receiver
      have fields :=
        frameReceived_fields u16MaxLength receiver
          (type :: hi :: lo :: crc :: data)
      simp only [held, Prod.mk.injEq] at fields
      obtain ⟨typeHeld, lengthHeld, -, cellsHeld⟩ := fields
      have delivered :
          (frameReceived u16MaxLength receiver
              (type :: hi :: lo :: crc :: data)).payload =
            data.take (256 * hi.toNat + lo.toNat) := by
        rw [Receiver.payload, TracedMemory.contents, lengthHeld,
          cellsHeld, payload]
      obtain ⟨withinBuffer, arrived⟩ := complete
      rw [heldChecksumMatches_iff_of_complete u16MaxLength
        ⟨withinBuffer, arrived⟩ receiver]
      cases message with
      | mk messageType messagePayload fits =>
          simp only [Receiver.message, delivered, typeHeld,
            Message.mk.injEq]
          constructor
          · rintro ⟨hi', lo', crc', data', equal, -, -, taken, sum⟩
            simp only [List.cons.injEq] at equal
            obtain ⟨rfl, rfl, rfl, rfl, rfl⟩ := equal
            simp only at taken sum
            exact ⟨by rw [sum, taken], rfl, taken.symm⟩
          · rintro ⟨sum, rfl, rfl⟩
            exact
              ⟨hi, lo, crc, data, rfl, withinBuffer, arrived, rfl, sum⟩

/-- A frame is accepted exactly as the grammar says if and only if it is
complete, or the checksum held at its end does not happen to match the fields
that it shares with earlier frames. -/
theorem accepts_grammar_iff
    {body : List UInt8} (noStart : slStartChar ∉ body)
    (noEnd : slEndChar ∉ body)
    {reads : List (Option UInt8)}
    (stream :
      reads.reduceOption = slStartChar :: (body ++ [slEndChar]))
    {count : Nat} (enough : reads.length ≤ count)
    (receiver : Receiver) :
    (∀ message,
      deliveries (readCalls u16MaxLength count receiver reads) =
          [message] ↔
        Carries u16MaxLength (slStuffing.unstuff false body) message) ↔
      Complete u16MaxLength (slStuffing.unstuff false body) ∨
        ¬ heldChecksumMatches u16MaxLength receiver
            (slStuffing.unstuff false body) := by
  rw [deliveries_readCalls u16MaxLength enough, stream,
    byteDeliveries_frame u16MaxLength noStart noEnd]
  generalize slStuffing.unstuff false body = content
  simp only [received_matches_iff]
  by_cases complete : Complete u16MaxLength content
  · simp only [complete, true_or, iff_true]
    intro message
    rw [carries_iff_of_complete u16MaxLength complete receiver]
    by_cases matching : heldChecksumMatches u16MaxLength receiver content
    · simp [matching]
    · simp [matching]
  · have carriesNothing :
        ∀ message, ¬ Carries u16MaxLength content message :=
      fun _ carries => complete carries.complete
    by_cases matching : heldChecksumMatches u16MaxLength receiver content
    · simp [matching, complete, carriesNothing]
    · simp [matching, carriesNothing]

/-- A complete frame, read by a fresh receiver. -/
theorem accepts_grammar_iff_complete :
    (∀ message,
      deliveries
          (readCalls 2048 12 Receiver.initial
            ((frame [0x65, 0x00, 0x01, 0x04, 0x60]).map some)) =
          [message] ↔
        Carries 2048
          (slStuffing.unstuff false
            (slStuffing.stuff [0x65, 0x00, 0x01, 0x04, 0x60]))
          message) ↔
      Complete 2048
          (slStuffing.unstuff false
            (slStuffing.stuff [0x65, 0x00, 0x01, 0x04, 0x60])) ∨
        ¬ heldChecksumMatches 2048 Receiver.initial
            (slStuffing.unstuff false
              (slStuffing.stuff [0x65, 0x00, 0x01, 0x04, 0x60])) :=
  @accepts_grammar_iff 2048
    (slStuffing.stuff [0x65, 0x00, 0x01, 0x04, 0x60])
    (by decide) (by decide) _ (by decide) 12 (by decide)
    Receiver.initial

/-- After a message with payload `60`, a frame cut short behind its checksum
is completed with the byte `60` of that message. -/
theorem cut_short_frame_accepted :
    ¬ ∀ message,
      deliveries
          (readCalls 2048 12
            (run (nextReceiver 2048) Receiver.initial
              (encode ⟨0x65, [0x60], by decide⟩))
            ((frame [0x65, 0x00, 0x01, 0x04]).map some)) =
          [message] ↔
        Carries 2048
          (slStuffing.unstuff false
            (slStuffing.stuff [0x65, 0x00, 0x01, 0x04]))
          message := by
  intro agrees
  have delivered :
      deliveries
          (readCalls 2048 12
            (run (nextReceiver 2048) Receiver.initial
              (encode ⟨0x65, [0x60], by decide⟩))
            ((frame [0x65, 0x00, 0x01, 0x04]).map some)) =
        [⟨0x65, [0x60], by decide⟩] := by decide
  have complete :=
    ((agrees ⟨0x65, [0x60], by decide⟩).mp delivered).complete
  exact absurd complete (by decide)

end SixLoWPANd.SerialLink
