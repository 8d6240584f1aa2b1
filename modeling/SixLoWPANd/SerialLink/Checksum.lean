import SixLoWPANd.Foundation.TracedMemory

/-!
# Frame characters, message types and the frame checksum

The serial link sends a message as a start character, the stuffed content and
an end character.  The content is the message type, the two bytes of the
length, a checksum and the payload.  The checksum is the exclusive or of the
type, the two length bytes and the payload.
-/

namespace SixLoWPANd.SerialLink

open SixLoWPANd.Foundation

abbrev slStartChar : UInt8 := 0x01
abbrev slEscChar : UInt8 := 0x02
abbrev slEndChar : UInt8 := 0x03

def lengthMSB (u16Length : UInt16) : UInt8 :=
  ((u16Length >>> 8) &&& 0xff).toUInt8

def lengthLSB (u16Length : UInt16) : UInt8 :=
  ((u16Length >>> 0) &&& 0xff).toUInt8

/-- The loop of `u8SLCalculateCRC`: fold the first `count` data bytes into the
running checksum. -/
def crcLoop (u8CRC : UInt8) (pu8Data : TracedMemory UInt8) :
    Nat → UInt8 × TracedMemory UInt8
  | 0 => (u8CRC, pu8Data)
  | n + 1 =>
      let earlier := crcLoop u8CRC pu8Data n
      let current := earlier.2.load n
      (earlier.1 ^^^ current.1, current.2)

/-- The checksum of a message whose payload lies in memory at `pu8Data`. -/
def u8SLCalculateCRC
    (u8Type : UInt8) (u16Length : UInt16)
    (pu8Data : TracedMemory UInt8) :
    UInt8 × TracedMemory UInt8 :=
  crcLoop (0 ^^^ u8Type ^^^ lengthMSB u16Length ^^^ lengthLSB u16Length)
    pu8Data u16Length.toNat

/-- The checksum as a function of the message itself. -/
def checksum (u8Type : UInt8) (u16Length : UInt16) (payload : List UInt8) :
    UInt8 :=
  payload.foldl (· ^^^ ·)
    (u8Type ^^^ lengthMSB u16Length ^^^ lengthLSB u16Length)

private theorem crcLoop_fst
    (u8CRC : UInt8) (pu8Data : TracedMemory UInt8) (count : Nat) :
    (crcLoop u8CRC pu8Data count).1 =
      (pu8Data.contents count).foldl (· ^^^ ·) u8CRC ∧
    (crcLoop u8CRC pu8Data count).2.cells = pu8Data.cells := by
  induction count with
  | zero =>
      exact ⟨rfl, rfl⟩
  | succ count inductionHypothesis =>
      obtain ⟨value, cells⟩ := inductionHypothesis
      constructor
      · simp [crcLoop, value, cells, TracedMemory.contents_succ]
      · simp [crcLoop, cells]

private theorem mem_crcLoop_reads
    (u8CRC : UInt8) (pu8Data : TracedMemory UInt8) (count index : Nat) :
    index ∈ (crcLoop u8CRC pu8Data count).2.reads ↔
      index < count ∨ index ∈ pu8Data.reads := by
  induction count with
  | zero =>
      simp [crcLoop]
  | succ count inductionHypothesis =>
      simp only [crcLoop, TracedMemory.load_reads, List.mem_cons,
        inductionHypothesis, Nat.lt_succ_iff_lt_or_eq]
      tauto

@[simp]
theorem u8SLCalculateCRC_fst
    (u8Type : UInt8) (u16Length : UInt16)
    (pu8Data : TracedMemory UInt8) :
    (u8SLCalculateCRC u8Type u16Length pu8Data).1 =
      checksum u8Type u16Length (pu8Data.contents u16Length.toNat) := by
  simp [u8SLCalculateCRC, checksum, crcLoop_fst]

@[simp]
theorem u8SLCalculateCRC_cells
    (u8Type : UInt8) (u16Length : UInt16)
    (pu8Data : TracedMemory UInt8) :
    (u8SLCalculateCRC u8Type u16Length pu8Data).2.cells =
      pu8Data.cells :=
  (crcLoop_fst _ _ _).2

@[simp]
theorem u8SLCalculateCRC_writes
    (u8Type : UInt8) (u16Length : UInt16)
    (pu8Data : TracedMemory UInt8) :
    (u8SLCalculateCRC u8Type u16Length pu8Data).2.writes =
      pu8Data.writes := by
  unfold u8SLCalculateCRC
  induction u16Length.toNat with
  | zero =>
      rfl
  | succ count inductionHypothesis =>
      simpa [crcLoop] using inductionHypothesis

/-- The checksum loop reads every cell below the length, and no other. -/
theorem mem_u8SLCalculateCRC_reads
    (u8Type : UInt8) (u16Length : UInt16)
    (pu8Data : TracedMemory UInt8) (index : Nat) :
    index ∈ (u8SLCalculateCRC u8Type u16Length pu8Data).2.reads ↔
      index < u16Length.toNat ∨ index ∈ pu8Data.reads :=
  mem_crcLoop_reads _ _ _ _

private theorem and_low_byte (value : Nat) : value &&& 255 = value % 256 :=
  Nat.and_two_pow_sub_one_eq_mod value 8

@[simp]
theorem lengthMSB_toNat (u16Length : UInt16) :
    (lengthMSB u16Length).toNat = u16Length.toNat / 256 := by
  have bound := u16Length.toNat_lt
  simp only [lengthMSB, UInt16.toNat_toUInt8, UInt16.toNat_and,
    UInt16.toNat_shiftRight, UInt16.reduceToNat, and_low_byte,
    Nat.shiftRight_eq_div_pow, Nat.reduceMod, Nat.reducePow]
  omega

@[simp]
theorem lengthLSB_toNat (u16Length : UInt16) :
    (lengthLSB u16Length).toNat = u16Length.toNat % 256 := by
  have bound := u16Length.toNat_lt
  simp only [lengthLSB, UInt16.toNat_toUInt8, UInt16.toNat_and,
    UInt16.toNat_shiftRight, UInt16.reduceToNat, and_low_byte,
    Nat.shiftRight_eq_div_pow, Nat.reduceMod, Nat.reducePow]
  omega

/-- The length that the receiver puts together from two length bytes. -/
theorem toNat_joined_length (hi lo : UInt8) :
    ((hi.toUInt16 <<< 8) + lo.toUInt16).toNat =
      256 * hi.toNat + lo.toNat := by
  have hiBound := hi.toNat_lt
  have loBound := lo.toNat_lt
  simp only [UInt16.toNat_add, UInt16.toNat_shiftLeft,
    UInt8.toNat_toUInt16, UInt16.reduceToNat, Nat.shiftLeft_eq,
    Nat.reduceMod, Nat.reducePow]
  omega

/-- The two length bytes determine the length. -/
theorem length_of_bytes (u16Length : UInt16) :
    ((lengthMSB u16Length).toUInt16 <<< 8) +
      (lengthLSB u16Length).toUInt16 = u16Length := by
  apply UInt16.toNat_inj.mp
  rw [toNat_joined_length, lengthMSB_toNat, lengthLSB_toNat]
  omega

/-- A joined length splits into the bytes it was joined from. -/
theorem bytes_of_joined_length (hi lo : UInt8) :
    lengthMSB ((hi.toUInt16 <<< 8) + lo.toUInt16) = hi ∧
      lengthLSB ((hi.toUInt16 <<< 8) + lo.toUInt16) = lo := by
  have hiBound := hi.toNat_lt
  have loBound := lo.toNat_lt
  constructor
  · apply UInt8.toNat_inj.mp
    rw [lengthMSB_toNat, toNat_joined_length]
    omega
  · apply UInt8.toNat_inj.mp
    rw [lengthLSB_toNat, toNat_joined_length]
    omega

end SixLoWPANd.SerialLink
