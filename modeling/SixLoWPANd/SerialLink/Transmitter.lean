import SixLoWPANd.Foundation.ByteStuffing
import SixLoWPANd.SerialLink.Checksum

/-!
# Sending a message

`vSLWriteMessage` is stated over any monad that can write one byte to the
serial device: the result of a write decides whether the message is continued.
`encode` is its output on a device that accepts every byte, and
`encode_eq_frame` shows that this output is a start character, the stuffed
content and an end character.
-/

namespace SixLoWPANd.SerialLink

open SixLoWPANd.Foundation

section Sending

variable {m : Type → Type} [Monad m] (serialWrite : UInt8 → m Int)

/-- Send one byte, escaping it unless it is a framing character. -/
def iSLTxByte (bSpecialCharacter : Bool) (u8Data : UInt8) : m Int := do
  if !bSpecialCharacter && u8Data < 0x10 then
    if (← serialWrite slEscChar) < 0 then
      return -1
    serialWrite (u8Data ^^^ 0x10)
  else
    serialWrite u8Data

/-- `if (tx < 0) return;` in front of the rest of the message. -/
def orReturn (tx : m Int) (rest : m Unit) : m Unit := do
  if (← tx) < 0 then
    return ()
  rest

/-- The payload loop of `vSLWriteMessage` over the remaining indices. -/
def sendPayload (pu8Data : Nat → UInt8) (rest : m Unit) :
    List Nat → m Unit
  | [] => rest
  | n :: later =>
      orReturn (iSLTxByte serialWrite false (pu8Data n))
        (sendPayload pu8Data rest later)

def vSLWriteMessage
    (u8Type : UInt8) (u16Length : UInt16) (pu8Data : Nat → UInt8) :
    m Unit :=
  -- start character, type, length, checksum, payload, end character
  orReturn (iSLTxByte serialWrite true slStartChar) <|
  orReturn (iSLTxByte serialWrite false u8Type) <|
  orReturn (iSLTxByte serialWrite false (lengthMSB u16Length)) <|
  orReturn (iSLTxByte serialWrite false (lengthLSB u16Length)) <|
  orReturn
    (iSLTxByte serialWrite false
      (u8SLCalculateCRC u8Type u16Length
        (TracedMemory.untouched pu8Data)).1) <|
  sendPayload serialWrite pu8Data
    (orReturn (iSLTxByte serialWrite true slEndChar) (return ()))
    (List.range u16Length.toNat)

end Sending

/-- A message that fits the 16-bit length field. -/
structure Message where
  u8Type : UInt8
  payload : List UInt8
  fits : payload.length < 65536
  deriving DecidableEq

namespace Message

def u16Length (message : Message) : UInt16 :=
  UInt16.ofNat message.payload.length

@[simp]
theorem u16Length_toNat (message : Message) :
    message.u16Length.toNat = message.payload.length := by
  have fits := message.fits
  simp only [u16Length, UInt16.toNat_ofNat']
  omega

/-- The unescaped content of a frame: header, checksum and payload. -/
def content (message : Message) : List UInt8 :=
  message.u8Type :: lengthMSB message.u16Length ::
    lengthLSB message.u16Length ::
    checksum message.u8Type message.u16Length message.payload ::
    message.payload

end Message

/-- The escaping of the serial link. -/
def slStuffing : Stuffing UInt8 where
  escape := slEscChar
  mask := (· ^^^ 0x10)
  special := fun u8Data => decide (u8Data < 0x10)
  mask_mask := by
    intro u8Data
    rw [UInt8.xor_assoc, UInt8.xor_self, UInt8.xor_zero]
  special_escape := by decide
  mask_plain := by
    rintro ⟨bits⟩
    revert bits
    decide

def frame (content : List UInt8) : List UInt8 :=
  slStartChar :: (slStuffing.stuff content ++ [slEndChar])

/-- A device that accepts every byte. -/
def acceptByte (u8Data : UInt8) : StateM (List UInt8) Int :=
  fun sent => (0, sent ++ [u8Data])

/-- The bytes `vSLWriteMessage` emits when every write succeeds. -/
def encode (message : Message) : List UInt8 :=
  (vSLWriteMessage acceptByte message.u8Type message.u16Length
    (fun n => message.payload.getD n 0) []).2

private theorem map_getD_range (items : List UInt8) :
    (List.range items.length).map (fun n => items.getD n 0) = items := by
  apply List.ext_getElem
  · simp
  · intro index _ bound
    simp [bound]

/-! ## Devices that never report a failure

Where every write returns zero, no early return is taken, and sending a message
is writing the bytes of its frame one after another. -/

section Reliable

variable {m : Type → Type} [Monad m] [LawfulMonad m]
variable {serialWrite : UInt8 → m Int} {act : UInt8 → m Unit}
variable (reliable : ∀ u8Data, serialWrite u8Data = do
  act u8Data
  return 0)

include reliable

private theorem iSLTxByte_special (u8Data : UInt8) :
    iSLTxByte serialWrite true u8Data = do
      forM [u8Data] act
      return 0 := by
  simp [iSLTxByte, reliable]

private theorem iSLTxByte_plain (u8Data : UInt8) :
    iSLTxByte serialWrite false u8Data = do
      forM (slStuffing.stuffItem u8Data) act
      return 0 := by
  by_cases special : u8Data < 0x10
  · simp [iSLTxByte, reliable, Stuffing.stuffItem, slStuffing, special]
  · simp [iSLTxByte, reliable, Stuffing.stuffItem, slStuffing, special]

omit reliable in
private theorem orReturn_written
    {tx : m Int} {bytes : List UInt8}
    (written : tx = do
      forM bytes act
      return 0)
    (rest : m Unit) :
    orReturn tx rest = forM bytes act >>= fun _ => rest := by
  simp [orReturn, written]

private theorem sendPayload_written
    (pu8Data : Nat → UInt8) (rest : m Unit) (indices : List Nat) :
    sendPayload serialWrite pu8Data rest indices =
      forM (slStuffing.stuff (indices.map pu8Data)) act >>=
        fun _ => rest := by
  induction indices with
  | nil =>
      simp [sendPayload, Stuffing.stuff]
  | cons n later inductionHypothesis =>
      rw [sendPayload, orReturn_written (iSLTxByte_plain reliable _),
        inductionHypothesis]
      simp [Stuffing.stuff]

/-- A message is sent as the bytes of its frame. -/
theorem vSLWriteMessage_eq_forM (message : Message) :
    vSLWriteMessage serialWrite message.u8Type message.u16Length
        (fun n => message.payload.getD n 0) =
      forM (frame message.content) act := by
  have payload :
      (List.range message.u16Length.toNat).map
        (fun n => message.payload.getD n 0) = message.payload := by
    rw [Message.u16Length_toNat, map_getD_range]
  have crc :
      (u8SLCalculateCRC message.u8Type message.u16Length
        (TracedMemory.untouched fun n => message.payload.getD n 0)).1 =
        checksum message.u8Type message.u16Length message.payload := by
    rw [u8SLCalculateCRC_fst]
    exact congrArg _ payload
  unfold vSLWriteMessage
  rw [orReturn_written (iSLTxByte_special reliable _),
    orReturn_written (iSLTxByte_plain reliable _),
    orReturn_written (iSLTxByte_plain reliable _),
    orReturn_written (iSLTxByte_plain reliable _),
    orReturn_written (iSLTxByte_plain reliable _),
    sendPayload_written reliable,
    orReturn_written (iSLTxByte_special reliable _), payload, crc]
  simp [frame, Message.content, Stuffing.stuff]

end Reliable

/-- `acceptByte` without its result. -/
def appendByte (u8Data : UInt8) : StateM (List UInt8) Unit :=
  fun sent => ((), sent ++ [u8Data])

private theorem forM_appendByte (bytes sent : List UInt8) :
    forM bytes appendByte sent = ((), sent ++ bytes) := by
  induction bytes generalizing sent with
  | nil =>
      rw [List.append_nil]
      rfl
  | cons u8Data rest inductionHypothesis =>
      rw [List.forM_cons]
      change forM rest appendByte (sent ++ [u8Data]) = _
      rw [inductionHypothesis, List.append_assoc]
      rfl

/-- On a device that accepts every byte, a message becomes its frame. -/
theorem encode_eq_frame (message : Message) :
    encode message = frame message.content := by
  have reliable : ∀ u8Data, acceptByte u8Data = do
      appendByte u8Data
      return 0 := fun _ => rfl
  rw [encode, vSLWriteMessage_eq_forM reliable, forM_appendByte]
  rfl

end SixLoWPANd.SerialLink
