import SixLoWPANd.SerialLink.FrameGrammar

/-!
# Corruption of a single byte

The checksum is an exclusive or, so replacing the type, the checksum or a
payload byte always changes it.  A length byte also decides how many payload
bytes are summed: a shortened length drops the bytes behind it, and the change
goes unnoticed exactly if their exclusive or is the change of the length byte.
-/

namespace SixLoWPANd.SerialLink

open SixLoWPANd.Foundation

variable {u16MaxLength : UInt16}

/-! ## Exclusive or of bytes -/

def xorSum (bytes : List UInt8) : UInt8 :=
  bytes.foldl (· ^^^ ·) 0

theorem foldl_xor (start : UInt8) (bytes : List UInt8) :
    bytes.foldl (· ^^^ ·) start = start ^^^ xorSum bytes := by
  induction bytes generalizing start with
  | nil =>
      simp [xorSum]
  | cons u8Data rest inductionHypothesis =>
      rw [xorSum, List.foldl_cons, List.foldl_cons, inductionHypothesis,
        inductionHypothesis (0 ^^^ u8Data), UInt8.zero_xor,
        UInt8.xor_assoc]

theorem xorSum_cons (u8Data : UInt8) (rest : List UInt8) :
    xorSum (u8Data :: rest) = u8Data ^^^ xorSum rest := by
  rw [xorSum, List.foldl_cons, UInt8.zero_xor, foldl_xor]

theorem xorSum_append (first second : List UInt8) :
    xorSum (first ++ second) = xorSum first ^^^ xorSum second := by
  rw [xorSum, List.foldl_append, foldl_xor]
  rfl

/-- A replaced byte changes the sum. -/
theorem xorSum_set_ne
    {bytes : List UInt8} {index : Nat} (inside : index < bytes.length)
    {u8Data : UInt8} (different : u8Data ≠ bytes.getD index 0) :
    xorSum (bytes.set index u8Data) ≠ xorSum bytes := by
  induction bytes generalizing index with
  | nil =>
      simp at inside
  | cons first rest inductionHypothesis =>
      cases index with
      | zero =>
          simp only [List.set_cons_zero, xorSum_cons, ne_eq,
            UInt8.xor_left_inj]
          simpa using different
      | succ index =>
          simp only [List.set_cons_succ, xorSum_cons, ne_eq,
            UInt8.xor_right_inj]
          apply inductionHypothesis
          · simpa using inside
          · simpa using different

/-! ## Frames with one byte replaced -/

/-- The length that the content of a frame announces. -/
def announcedLength : List UInt8 → Nat
  | _ :: hi :: lo :: _ => 256 * hi.toNat + lo.toNat
  | _ => 0

/-- The replaced byte is a length byte, and the payload bytes behind the new
length sum up to its change. -/
def cancels (message : Message) (position : Nat) (u8Data : UInt8) : Prop :=
  (position = 1 ∨ position = 2) ∧
    xorSum
        (message.payload.drop
          (announcedLength (message.content.set position u8Data))) =
      message.content.getD position 0 ^^^ u8Data

instance (message : Message) (position : Nat) (u8Data : UInt8) :
    Decidable (cancels message position u8Data) :=
  inferInstanceAs (Decidable ((_ ∨ _) ∧ _ = _))

theorem announcedLength_content (message : Message) :
    256 * (lengthMSB message.u16Length).toNat +
        (lengthLSB message.u16Length).toNat =
      message.payload.length := by
  rw [lengthMSB_toNat, lengthLSB_toNat, Message.u16Length_toNat]
  omega

theorem content_eq (message : Message) :
    message.content =
      message.u8Type :: lengthMSB message.u16Length ::
        lengthLSB message.u16Length ::
        (message.u8Type ^^^ lengthMSB message.u16Length ^^^
          lengthLSB message.u16Length ^^^ xorSum message.payload) ::
        message.payload := by
  rw [Message.content, checksum, foldl_xor]

/-- A changed length byte and the dropped bytes leave the sum as it was
exactly if they cancel. -/
private theorem shortened_iff
    (rest old new : UInt8) (payload : List UInt8) (length : Nat) :
    rest ^^^ old ^^^ xorSum payload =
        rest ^^^ new ^^^ xorSum (payload.take length) ↔
      xorSum (payload.drop length) = old ^^^ new := by
  have whole :
      rest ^^^ old ^^^ xorSum payload =
        rest ^^^ xorSum (payload.take length) ^^^
          (old ^^^ xorSum (payload.drop length)) := by
    rw [← List.take_append_drop length payload, xorSum_append,
      List.take_append_drop]
    ac_rfl
  have short :
      rest ^^^ new ^^^ xorSum (payload.take length) =
        rest ^^^ xorSum (payload.take length) ^^^ new := by
    ac_rfl
  rw [whole, short, UInt8.xor_right_inj]
  constructor
  · rintro rfl
    rw [← UInt8.xor_assoc, UInt8.xor_self, UInt8.zero_xor]
  · intro cancelled
    rw [cancelled, ← UInt8.xor_assoc, UInt8.xor_self, UInt8.zero_xor]

/-- The receiver's test on a frame whose byte has been replaced, as long as
the frame holds all the bytes it announces. -/
theorem corrupted_matches_iff
    {message : Message} (fits : message.payload.length ≤ u16MaxLength.toNat)
    {position : Nat} (inside : position < message.content.length)
    {u8Data : UInt8}
    (different : u8Data ≠ message.content.getD position 0)
    (announced :
      announcedLength (message.content.set position u8Data) ≤
        message.payload.length)
    (receiver : Receiver) :
    heldChecksumMatches u16MaxLength receiver
        (message.content.set position u8Data) ↔
      cancels message position u8Data := by
  -- the content with its checksum written out
  have whole := announcedLength_content message
  have content := content_eq message
  generalize lengthMSB message.u16Length = hi at whole content
  generalize lengthLSB message.u16Length = lo at whole content
  unfold cancels
  rw [content] at inside different announced ⊢
  generalize message.u8Type = type at *
  generalize message.payload = payload at *
  have matching : ∀ (type hi lo crc : UInt8) (data : List UInt8),
      announcedLength (type :: hi :: lo :: crc :: data) ≤ data.length →
      data.length = payload.length →
      (heldChecksumMatches u16MaxLength receiver
          (type :: hi :: lo :: crc :: data) ↔
        crc =
          type ^^^ hi ^^^ lo ^^^
            xorSum (data.take (256 * hi.toNat + lo.toNat))) := by
    intro type hi lo crc data arrived sameLength
    have complete :
        Complete u16MaxLength (type :: hi :: lo :: crc :: data) := by
      simp only [announcedLength] at arrived
      exact ⟨by omega, arrived⟩
    rw [heldChecksumMatches_iff_of_complete u16MaxLength complete,
      foldl_xor]
  have all : payload.take (256 * hi.toNat + lo.toNat) = payload := by
    rw [whole, List.take_length]
  match position with
  | 0 =>
      rw [List.set_cons_zero] at announced ⊢
      rw [matching _ _ _ _ _ announced rfl, all]
      simp only [UInt8.xor_left_inj]
      simpa using Ne.symm different
  | 1 =>
      simp only [List.set_cons_succ, List.set_cons_zero] at announced ⊢
      rw [matching _ _ _ _ _ announced rfl]
      have reordered : ∀ byte : UInt8,
          type ^^^ byte ^^^ lo = type ^^^ lo ^^^ byte := by
        intro byte
        ac_rfl
      rw [reordered, reordered, shortened_iff]
      simp [announcedLength]
  | 2 =>
      simp only [List.set_cons_succ, List.set_cons_zero] at announced ⊢
      rw [matching _ _ _ _ _ announced rfl, shortened_iff]
      simp [announcedLength]
  | 3 =>
      simp only [List.set_cons_succ, List.set_cons_zero] at announced ⊢
      rw [matching _ _ _ _ _ announced rfl, all]
      simpa using different
  | index + 4 =>
      simp only [List.set_cons_succ] at announced ⊢
      have stored : index < payload.length := by simpa using inside
      have changed : u8Data ≠ payload.getD index 0 := by
        simpa using different
      have sum := xorSum_set_ne stored changed
      have length : (payload.set index u8Data).length = payload.length :=
        List.length_set
      rw [matching _ _ _ _ _ (by rw [length]; exact announced) length,
        whole, ← length, List.take_length, UInt8.xor_right_inj]
      simpa using Ne.symm sum

/-- A frame with one byte replaced is not delivered, from whatever receiver
state and however it is cut into calls, unless a shortened length drops payload
bytes that cancel the change.  Frames that announce more bytes than they hold
are left out. -/
theorem corruption_detected_iff
    {message : Message} (fits : message.payload.length ≤ u16MaxLength.toNat)
    {position : Nat} (inside : position < message.content.length)
    {u8Data : UInt8}
    (different : u8Data ≠ message.content.getD position 0)
    (announced :
      announcedLength (message.content.set position u8Data) ≤
        message.payload.length)
    {reads : List (Option UInt8)}
    (stream :
      reads.reduceOption = frame (message.content.set position u8Data))
    {count : Nat} (enough : reads.length ≤ count)
    (receiver : Receiver) :
    deliveries (readCalls u16MaxLength count receiver reads) = [] ↔
      ¬ cancels message position u8Data := by
  have delivered :=
    byteDeliveries_frame u16MaxLength
      (slStartChar_notMem_stuff (message.content.set position u8Data))
      (slEndChar_notMem_stuff _) receiver
  rw [slStuffing.unstuff_stuff] at delivered
  rw [deliveries_readCalls u16MaxLength enough, stream, frame, delivered,
    ← corrupted_matches_iff fits inside different announced receiver,
    ← received_matches_iff]
  by_cases matching :
      (frameReceived u16MaxLength receiver
        (message.content.set position u8Data)).checksumMatches
  · simp [matching]
  · simp [matching]

/-- A changed payload byte. -/
theorem corruption_detected_iff_payload :
    deliveries
        (readCalls 2048 10 Receiver.initial
          ((frame ((⟨0x65, [0x60, 0x61], by decide⟩ :
            Message).content.set 5 0x71)).map some)) = [] ↔
      ¬ cancels ⟨0x65, [0x60, 0x61], by decide⟩ 5 0x71 :=
  @corruption_detected_iff 2048 ⟨0x65, [0x60, 0x61], by decide⟩
    (by decide) 5 (by decide) 0x71 (by decide) (by decide) _ (by decide)
    10 (by decide) Receiver.initial

/-- The length of a message with payload `01` is replaced by zero: the message
is delivered without its payload. -/
theorem shortened_length_delivered :
    ¬ ∀ (message : Message) (position : Nat) (u8Data : UInt8)
        (reads : List (Option UInt8)) (count : Nat) (receiver : Receiver),
      message.payload.length ≤ 2048 →
      position < message.content.length →
      u8Data ≠ message.content.getD position 0 →
      reads.reduceOption = frame (message.content.set position u8Data) →
      reads.length ≤ count →
      deliveries (readCalls 2048 count receiver reads) = [] := by
  intro detected
  let reads : List (Option UInt8) :=
    [some 0x01, some 0x65, some 0x02, some 0x10, some 0x02, some 0x10,
      some 0x65, some 0x02, some 0x11, some 0x03]
  have silent :
      deliveries (readCalls 2048 10 Receiver.initial reads) = [] :=
    detected ⟨0x65, [0x01], by decide⟩ 2 0x00 reads 10 Receiver.initial
      (by decide) (by decide) (by decide) (by decide) (by decide)
  have delivered :
      deliveries (readCalls 2048 10 Receiver.initial reads) =
        [⟨0x65, [], by decide⟩] := by decide
  rw [delivered] at silent
  cases silent

end SixLoWPANd.SerialLink
