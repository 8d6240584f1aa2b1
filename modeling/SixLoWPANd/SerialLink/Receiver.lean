import SixLoWPANd.Foundation.Histories
import SixLoWPANd.SerialLink.Transmitter

/-!
# Receiving a message

`Receiver` gathers the static variables of `bSLReadMessage` and the objects its
pointer arguments refer to, which the daemon keeps from call to call.
`receiveByte` is one turn of the receive loop, and `bSLReadMessage` runs the
loop over the outcomes of successive one-byte reads, where `none` says that no
byte is available.
-/

namespace SixLoWPANd.SerialLink

open SixLoWPANd.Foundation

inductive RxState where
  | waitStart
  | waitType
  | waitLenMSB
  | waitLenLSB
  | waitCRC
  | waitData
  deriving DecidableEq, Repr

/-- The receiver's statics together with `*pu8Type`, `*pu16Length` and the
memory from `pu8Message` on. -/
structure Receiver where
  eRxState : RxState
  u8CRC : UInt8
  u16Bytes : UInt16
  bInEsc : Bool
  pu8Type : UInt8
  pu16Length : UInt16
  pu8Message : TracedMemory UInt8

namespace Receiver

/-- The program's initial state: statics and message buffer are zero. -/
def initial : Receiver where
  eRxState := .waitStart
  u8CRC := 0
  u16Bytes := 0
  bInEsc := false
  pu8Type := 0
  pu16Length := 0
  pu8Message := TracedMemory.untouched fun _ => 0

def payload (receiver : Receiver) : List UInt8 :=
  receiver.pu8Message.contents receiver.pu16Length.toNat

/-- The message that a return of `TRUE` hands to the caller. -/
def message (receiver : Receiver) : Message where
  u8Type := receiver.pu8Type
  payload := receiver.payload
  fits := by
    rw [payload, TracedMemory.contents_length]
    exact receiver.pu16Length.toNat_lt

/-- The test at an end character: the checksum received last against the
checksum of the message variables. -/
def checksumMatches (receiver : Receiver) : Prop :=
  receiver.u8CRC =
    checksum receiver.pu8Type receiver.pu16Length receiver.payload

instance (receiver : Receiver) : Decidable receiver.checksumMatches :=
  inferInstanceAs (Decidable (_ = _))

end Receiver

/-- The inner `switch`: an unescaped byte that is no framing character. -/
def contentByte (u16MaxLength : UInt16) (receiver : Receiver)
    (u8Data : UInt8) : Receiver :=
  match receiver.eRxState with
  | .waitStart => receiver
  | .waitType =>
      { receiver with pu8Type := u8Data, eRxState := .waitLenMSB }
  | .waitLenMSB =>
      { receiver with
        pu16Length := u8Data.toUInt16 <<< 8
        eRxState := .waitLenLSB }
  | .waitLenLSB =>
      let length := receiver.pu16Length + u8Data.toUInt16
      { receiver with
        pu16Length := length
        eRxState := if length > u16MaxLength then .waitStart else .waitCRC }
  | .waitCRC =>
      { receiver with u8CRC := u8Data, eRxState := .waitData }
  | .waitData =>
      if receiver.u16Bytes < receiver.pu16Length then
        { receiver with
          pu8Message :=
            receiver.pu8Message.store receiver.u16Bytes.toNat u8Data
          u16Bytes := receiver.u16Bytes + 1 }
      else
        receiver

/-- One turn of the receive loop; the flag is `TRUE` when the function
returns. -/
def receiveByte (u16MaxLength : UInt16) (receiver : Receiver)
    (u8Data : UInt8) : Bool × Receiver :=
  if u8Data = slStartChar then
    (false,
      { receiver with
        u16Bytes := 0, bInEsc := false, eRxState := .waitType })
  else if u8Data = slEscChar then
    (false, { receiver with bInEsc := true })
  else if u8Data = slEndChar then
    let crc :=
      u8SLCalculateCRC receiver.pu8Type receiver.pu16Length
        receiver.pu8Message
    if receiver.u8CRC = crc.1 then
      (true, { receiver with pu8Message := crc.2, eRxState := .waitStart })
    else
      (false, { receiver with pu8Message := crc.2 })
  else if receiver.bInEsc then
    (false,
      contentByte u16MaxLength { receiver with bInEsc := false }
        (u8Data ^^^ 0x10))
  else
    (false, contentByte u16MaxLength receiver u8Data)

/-- The outcomes of the reads a call makes, the bytes it consumes, its result
and the variables it leaves. -/
structure Call where
  bytes : List UInt8
  result : Bool
  after : Receiver

/-- One call, over the outcomes of the reads still to come.  The outcomes that
the call does not use are returned with it; a list that is used up stands for
a device without further bytes. -/
def bSLReadMessage (u16MaxLength : UInt16) :
    Receiver → List (Option UInt8) → Call × List (Option UInt8)
  | receiver, [] => (⟨[], false, receiver⟩, [])
  | receiver, none :: reads => (⟨[], false, receiver⟩, reads)
  | receiver, some u8Data :: reads =>
      let turn := receiveByte u16MaxLength receiver u8Data
      if turn.1 then
        (⟨[u8Data], true, turn.2⟩, reads)
      else
        let rest := bSLReadMessage u16MaxLength turn.2 reads
        (⟨u8Data :: rest.1.bytes, rest.1.result, rest.1.after⟩, rest.2)

def readCalls (u16MaxLength : UInt16) :
    Nat → Receiver → List (Option UInt8) → List Call
  | 0, _, _ => []
  | count + 1, receiver, reads =>
      let call := bSLReadMessage u16MaxLength receiver reads
      call.1 :: readCalls u16MaxLength count call.1.after call.2

/-- The messages handed over by the calls that return `TRUE`, in order. -/
def deliveries (calls : List Call) : List Message :=
  calls.filterMap fun call =>
    if call.result then some call.after.message else none

/-- The bytes consumed by the calls, in order. -/
def consumed (calls : List Call) : List UInt8 :=
  calls.flatMap Call.bytes

/-- The receiver after one byte, whatever the loop does next. -/
def nextReceiver (u16MaxLength : UInt16) (receiver : Receiver)
    (u8Data : UInt8) : Receiver :=
  (receiveByte u16MaxLength receiver u8Data).2

end SixLoWPANd.SerialLink
