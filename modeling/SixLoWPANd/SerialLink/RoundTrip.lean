import SixLoWPANd.SerialLink.Reception

/-!
# What the transmitter sends is what the receiver delivers

A start character resets the receiver whatever it was doing, so a frame is
decoded the same way from every state.  Noise between frames may contain
anything but an end character: without one nothing is delivered, and whatever
state the noise leaves is overwritten by the next start character.
-/

namespace SixLoWPANd.SerialLink

open SixLoWPANd.Foundation

variable (u16MaxLength : UInt16)

theorem special_slStartChar :
    slStuffing.special slStartChar = true := by decide

theorem special_slEndChar : slStuffing.special slEndChar = true := by decide

theorem slStartChar_notMem_stuff (content : List UInt8) :
    slStartChar ∉ slStuffing.stuff content := by
  intro member
  have equal :=
    slStuffing.eq_escape_of_mem_stuff member special_slStartChar
  exact absurd equal (by decide)

theorem slEndChar_notMem_stuff (content : List UInt8) :
    slEndChar ∉ slStuffing.stuff content := by
  intro member
  have equal :=
    slStuffing.eq_escape_of_mem_stuff member special_slEndChar
  exact absurd equal (by decide)

/-- Payload bytes laid over the start of a buffer are its contents. -/
theorem contents_overlay
    (memory : TracedMemory UInt8) (cells : Nat → UInt8)
    (payload : List UInt8)
    (laid : memory.cells = overlay cells 0 payload.length payload) :
    memory.contents payload.length = payload := by
  apply TracedMemory.contents_eq
  intro index bound
  simp [laid, overlay, bound]

/-- From a start character on, the content of a message that fits the buffer
fills the message variables with exactly that message. -/
theorem frameReceived_content
    {message : Message}
    (fits : message.u16Length ≤ u16MaxLength) (receiver : Receiver) :
    let received := frameReceived u16MaxLength receiver message.content
    received.checksumMatches ∧ received.message = message := by
  let header : Receiver :=
    { receiver with
      u8CRC := checksum message.u8Type message.u16Length message.payload
      u16Bytes := 0, bInEsc := false, eRxState := .waitData
      pu8Type := message.u8Type
      pu16Length := message.u16Length }
  have headerReceived :
      frameReceived u16MaxLength receiver message.content =
        run (contentByte u16MaxLength) header message.payload := by
    simp [frameReceived, Message.content, startOfFrame, contentByte,
      length_of_bytes, UInt16.not_lt.mpr fits, header]
  rw [headerReceived]
  obtain ⟨-, crc, type, length, cells⟩ :=
    run_contentByte_data u16MaxLength header message.payload rfl
      (UInt16.le_iff_toNat_le.mpr (Nat.zero_le _))
  generalize
    run (contentByte u16MaxLength) header message.payload = received at *
  simp only [header, Message.u16Length_toNat, UInt16.toNat_zero] at *
  have payload : received.payload = message.payload := by
    rw [Receiver.payload, length, Message.u16Length_toNat]
    exact contents_overlay _ _ _ cells
  constructor
  · rw [Receiver.checksumMatches, crc, type, length, payload]
  · simp [Receiver.message, type, payload]

/-- A frame delivers its message from every receiver state. -/
theorem byteDeliveries_encode
    {message : Message}
    (fits : message.u16Length ≤ u16MaxLength) (receiver : Receiver) :
    byteDeliveries u16MaxLength receiver (encode message) = [message] := by
  obtain ⟨matching, delivered⟩ :=
    frameReceived_content u16MaxLength fits receiver
  rw [encode_eq_frame, frame,
    byteDeliveries_frame u16MaxLength (slStartChar_notMem_stuff _)
      (slEndChar_notMem_stuff _),
    slStuffing.unstuff_stuff]
  simp only [matching, delivered, ↓reduceIte]

/-- The stream `n0 ++ enc m1 ++ n1 ++ ... ++ enc mk ++ nk`. -/
def noisyStream (noise : List UInt8) :
    List (Message × List UInt8) → List UInt8
  | [] => noise
  | (message, laterNoise) :: rest =>
      noise ++ encode message ++ noisyStream laterNoise rest

theorem byteDeliveries_noisyStream
    {noise : List UInt8} {frames : List (Message × List UInt8)}
    (quiet : slEndChar ∉ noise)
    (admitted : ∀ sent ∈ frames,
      sent.1.u16Length ≤ u16MaxLength ∧ slEndChar ∉ sent.2)
    (receiver : Receiver) :
    byteDeliveries u16MaxLength receiver (noisyStream noise frames) =
      frames.map Prod.fst := by
  induction frames generalizing noise receiver with
  | nil =>
      exact byteDeliveries_eq_nil u16MaxLength quiet receiver
  | cons sent rest inductionHypothesis =>
      obtain ⟨message, laterNoise⟩ := sent
      obtain ⟨fits, laterQuiet⟩ := admitted (message, laterNoise) (by simp)
      have later := inductionHypothesis laterQuiet
        (fun other member => admitted other (by simp [member]))
      rw [noisyStream, List.append_assoc, byteDeliveries_append,
        byteDeliveries_append, byteDeliveries_eq_nil _ quiet,
        byteDeliveries_encode u16MaxLength fits, later]
      rfl

/-- Messages sent through any noise without end characters are delivered
exactly, in order, from every receiver state and for every way to cut the
stream into calls. -/
theorem noisyStream_delivered
    {noise : List UInt8} {frames : List (Message × List UInt8)}
    (quiet : slEndChar ∉ noise)
    (admitted : ∀ sent ∈ frames,
      sent.1.payload.length ≤ u16MaxLength.toNat ∧ slEndChar ∉ sent.2)
    {reads : List (Option UInt8)}
    (stream : reads.reduceOption = noisyStream noise frames)
    {count : Nat} (enough : reads.length ≤ count)
    (receiver : Receiver) :
    deliveries (readCalls u16MaxLength count receiver reads) =
      frames.map Prod.fst := by
  rw [deliveries_readCalls u16MaxLength enough, stream]
  apply byteDeliveries_noisyStream u16MaxLength quiet
  intro sent member
  obtain ⟨fits, laterQuiet⟩ := admitted sent member
  refine ⟨?_, laterQuiet⟩
  rw [UInt16.le_iff_toNat_le, Message.u16Length_toNat]
  exact fits

/-- Two messages behind a dangling escape and a truncated header, read with
gaps. -/
theorem noisyStream_delivered_two :
    deliveries
        (readCalls 2048 40 Receiver.initial
          (none ::
            (noisyStream [0x01, 0x6d, 0x02]
              [(⟨0x6d, [], by decide⟩, [0x02]),
                (⟨0x65, [0x03, 0x60], by decide⟩, [])]).map some)) =
      [⟨0x6d, [], by decide⟩, ⟨0x65, [0x03, 0x60], by decide⟩] :=
  @noisyStream_delivered 2048 [0x01, 0x6d, 0x02]
    [(⟨0x6d, [], by decide⟩, [0x02]),
      (⟨0x65, [0x03, 0x60], by decide⟩, [])]
    (by decide) (by decide) _ (by decide) 40 (by decide)
    Receiver.initial

end SixLoWPANd.SerialLink
