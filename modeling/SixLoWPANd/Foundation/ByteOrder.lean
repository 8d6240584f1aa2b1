import Mathlib.Data.Nat.Bitwise

/-!
# Host and network byte order

A word is stored in memory in the byte order of the host.  `htons` and `htonl`
reorder it so that what is stored is the word in network order; `ntohs` and
`ntohl` are the inverse conversions.  On every host each pair is one and the
same function, and storing a converted word gives the same bytes on every host.
-/

namespace SixLoWPANd.Foundation

inductive Endian where
  | little
  | big
  deriving DecidableEq, Repr

/-! ## Words of two bytes -/

/-- The bytes of a word, most significant first. -/
def networkBytes16 (word : UInt16) : List UInt8 :=
  [UInt8.ofNat (word.toNat / 256), UInt8.ofNat word.toNat]

/-- The word with the given bytes, most significant first. -/
def join16 (msb lsb : UInt8) : UInt16 :=
  UInt16.ofNat (256 * msb.toNat + lsb.toNat)

/-- How a word lies in the host's memory. -/
def storeUInt16 (host : Endian) (word : UInt16) : List UInt8 :=
  match host with
  | .little => (networkBytes16 word).reverse
  | .big => networkBytes16 word

/-- The word that lies in the host's memory at two consecutive bytes. -/
def loadUInt16 (host : Endian) (first second : UInt8) : UInt16 :=
  match host with
  | .little => join16 second first
  | .big => join16 first second

def swap16 (word : UInt16) : UInt16 :=
  join16 (UInt8.ofNat word.toNat) (UInt8.ofNat (word.toNat / 256))

def htons (host : Endian) (word : UInt16) : UInt16 :=
  match host with
  | .little => swap16 word
  | .big => word

def ntohs (host : Endian) (word : UInt16) : UInt16 :=
  match host with
  | .little => swap16 word
  | .big => word

@[simp]
theorem join16_toNat (msb lsb : UInt8) :
    (join16 msb lsb).toNat = 256 * msb.toNat + lsb.toNat := by
  have msbBound := msb.toNat_lt
  have lsbBound := lsb.toNat_lt
  simp only [join16, UInt16.toNat_ofNat']
  omega

theorem networkBytes16_join16 (msb lsb : UInt8) :
    networkBytes16 (join16 msb lsb) = [msb, lsb] := by
  have msbBound := msb.toNat_lt
  have lsbBound := lsb.toNat_lt
  simp only [networkBytes16, join16_toNat, List.cons.injEq,
    ← UInt8.toNat_inj, UInt8.toNat_ofNat', and_true]
  constructor <;> omega

theorem join16_networkBytes16 (word : UInt16) :
    join16 (UInt8.ofNat (word.toNat / 256)) (UInt8.ofNat word.toNat) =
      word := by
  have bound := word.toNat_lt
  rw [← UInt16.toNat_inj, join16_toNat]
  simp only [UInt8.toNat_ofNat']
  omega

theorem networkBytes16_injective : Function.Injective networkBytes16 := by
  intro first second same
  simp only [networkBytes16, List.cons.injEq, and_true] at same
  rw [← join16_networkBytes16 first, same.1, same.2,
    join16_networkBytes16]

@[simp]
theorem swap16_join16 (msb lsb : UInt8) :
    swap16 (join16 msb lsb) = join16 lsb msb := by
  have bytes := networkBytes16_join16 msb lsb
  simp only [networkBytes16, List.cons.injEq, and_true] at bytes
  rw [swap16, bytes.1, bytes.2]

/-- A converted word is stored in network order on every host. -/
theorem storeUInt16_htons (host : Endian) (word : UInt16) :
    storeUInt16 host (htons host word) = networkBytes16 word := by
  cases host with
  | little =>
      change (networkBytes16 (swap16 word)).reverse = networkBytes16 word
      rw [swap16, networkBytes16_join16]
      rfl
  | big =>
      rfl

/-- A word loaded from network order and converted has the bytes in their
network order on every host. -/
theorem ntohs_loadUInt16 (host : Endian) (first second : UInt8) :
    ntohs host (loadUInt16 host first second) = join16 first second := by
  cases host with
  | little =>
      simp [ntohs, loadUInt16]
  | big =>
      rfl

/-! ## Words of four bytes -/

def networkBytes32 (word : UInt32) : List UInt8 :=
  [UInt8.ofNat (word.toNat / 16777216), UInt8.ofNat (word.toNat / 65536),
    UInt8.ofNat (word.toNat / 256), UInt8.ofNat word.toNat]

def join32 (first second third fourth : UInt8) : UInt32 :=
  UInt32.ofNat
    (16777216 * first.toNat + 65536 * second.toNat + 256 * third.toNat +
      fourth.toNat)

def storeUInt32 (host : Endian) (word : UInt32) : List UInt8 :=
  match host with
  | .little => (networkBytes32 word).reverse
  | .big => networkBytes32 word

def loadUInt32 (host : Endian) (first second third fourth : UInt8) :
    UInt32 :=
  match host with
  | .little => join32 fourth third second first
  | .big => join32 first second third fourth

/-- Reverse the four bytes of a word. -/
def swap32 (word : UInt32) : UInt32 :=
  join32 (UInt8.ofNat word.toNat) (UInt8.ofNat (word.toNat / 256))
    (UInt8.ofNat (word.toNat / 65536))
    (UInt8.ofNat (word.toNat / 16777216))

def htonl (host : Endian) (word : UInt32) : UInt32 :=
  match host with
  | .little => swap32 word
  | .big => word

def ntohl (host : Endian) (word : UInt32) : UInt32 :=
  match host with
  | .little => swap32 word
  | .big => word

@[simp]
theorem join32_toNat (first second third fourth : UInt8) :
    (join32 first second third fourth).toNat =
      16777216 * first.toNat + 65536 * second.toNat +
        256 * third.toNat + fourth.toNat := by
  have firstBound := first.toNat_lt
  have secondBound := second.toNat_lt
  have thirdBound := third.toNat_lt
  have fourthBound := fourth.toNat_lt
  simp only [join32, UInt32.toNat_ofNat']
  omega

theorem networkBytes32_join32 (first second third fourth : UInt8) :
    networkBytes32 (join32 first second third fourth) =
      [first, second, third, fourth] := by
  have firstBound := first.toNat_lt
  have secondBound := second.toNat_lt
  have thirdBound := third.toNat_lt
  have fourthBound := fourth.toNat_lt
  simp only [networkBytes32, join32_toNat, List.cons.injEq,
    ← UInt8.toNat_inj, UInt8.toNat_ofNat', and_true]
  refine ⟨?_, ?_, ?_, ?_⟩ <;> omega

theorem join32_networkBytes32 (word : UInt32) :
    join32 (UInt8.ofNat (word.toNat / 16777216))
        (UInt8.ofNat (word.toNat / 65536))
        (UInt8.ofNat (word.toNat / 256)) (UInt8.ofNat word.toNat) =
      word := by
  have bound := word.toNat_lt
  rw [← UInt32.toNat_inj, join32_toNat]
  simp only [UInt8.toNat_ofNat']
  omega

theorem networkBytes32_injective : Function.Injective networkBytes32 := by
  intro first second same
  simp only [networkBytes32, List.cons.injEq, and_true] at same
  obtain ⟨firstByte, secondByte, thirdByte, fourthByte⟩ := same
  rw [← join32_networkBytes32 first, firstByte, secondByte, thirdByte,
    fourthByte, join32_networkBytes32]

@[simp]
theorem swap32_join32 (first second third fourth : UInt8) :
    swap32 (join32 first second third fourth) =
      join32 fourth third second first := by
  have bytes := networkBytes32_join32 first second third fourth
  simp only [networkBytes32, List.cons.injEq, and_true] at bytes
  obtain ⟨firstByte, secondByte, thirdByte, fourthByte⟩ := bytes
  rw [swap32, firstByte, secondByte, thirdByte, fourthByte]

theorem storeUInt32_htonl (host : Endian) (word : UInt32) :
    storeUInt32 host (htonl host word) = networkBytes32 word := by
  cases host with
  | little =>
      change (networkBytes32 (swap32 word)).reverse = networkBytes32 word
      rw [swap32, networkBytes32_join32]
      rfl
  | big =>
      rfl

/-- The two conversions of a four-byte word coincide on every host. -/
theorem ntohl_eq_htonl (host : Endian) : ntohl host = htonl host := by
  cases host <;> rfl

theorem ntohl_loadUInt32
    (host : Endian) (first second third fourth : UInt8) :
    ntohl host (loadUInt32 host first second third fourth) =
      join32 first second third fourth := by
  cases host with
  | little =>
      simp [ntohl, loadUInt32]
  | big =>
      rfl

/-! ## Words of eight bytes as two words of four -/

def highHalf (word : UInt64) : UInt32 :=
  ((word >>> 32) &&& 0xFFFFFFFF).toUInt32

def lowHalf (word : UInt64) : UInt32 :=
  ((word >>> 0) &&& 0xFFFFFFFF).toUInt32

def joinHalves (high low : UInt32) : UInt64 :=
  (high.toUInt64 <<< 32) ||| low.toUInt64

private theorem and_low_half (value : Nat) :
    value &&& 4294967295 = value % 4294967296 :=
  Nat.and_two_pow_sub_one_eq_mod value 32

theorem highHalf_toNat (word : UInt64) :
    (highHalf word).toNat = word.toNat / 4294967296 := by
  have bound := word.toNat_lt
  simp only [highHalf, UInt64.toNat_toUInt32, UInt64.toNat_and,
    UInt64.toNat_shiftRight, UInt64.reduceToNat, and_low_half,
    Nat.shiftRight_eq_div_pow, Nat.reduceMod, Nat.reducePow]
  omega

theorem lowHalf_toNat (word : UInt64) :
    (lowHalf word).toNat = word.toNat % 4294967296 := by
  have bound := word.toNat_lt
  simp only [lowHalf, UInt64.toNat_toUInt32, UInt64.toNat_and,
    UInt64.toNat_shiftRight, UInt64.reduceToNat, and_low_half,
    Nat.shiftRight_eq_div_pow, Nat.reduceMod, Nat.reducePow]
  omega

theorem joinHalves_toNat (high low : UInt32) :
    (joinHalves high low).toNat =
      4294967296 * high.toNat + low.toNat := by
  have highBound := high.toNat_lt
  have lowBound := low.toNat_lt
  simp only [joinHalves, UInt64.toNat_or, UInt64.toNat_shiftLeft,
    UInt32.toNat_toUInt64, UInt64.reduceToNat, Nat.reduceMod]
  have fits : high.toNat <<< 32 % 2 ^ 64 = high.toNat <<< 32 := by
    rw [Nat.shiftLeft_eq]
    omega
  rw [fits, ← Nat.shiftLeft_add_eq_or_of_lt (by omega), Nat.shiftLeft_eq]
  omega

@[simp]
theorem highHalf_joinHalves (high low : UInt32) :
    highHalf (joinHalves high low) = high := by
  have lowBound := low.toNat_lt
  rw [← UInt32.toNat_inj, highHalf_toNat, joinHalves_toNat]
  omega

@[simp]
theorem lowHalf_joinHalves (high low : UInt32) :
    lowHalf (joinHalves high low) = low := by
  have lowBound := low.toNat_lt
  rw [← UInt32.toNat_inj, lowHalf_toNat, joinHalves_toNat]
  omega

@[simp]
theorem joinHalves_halves (word : UInt64) :
    joinHalves (highHalf word) (lowHalf word) = word := by
  rw [← UInt64.toNat_inj, joinHalves_toNat, highHalf_toNat, lowHalf_toNat]
  omega

/-! ## Bytes of a word of eight bytes -/

/-- A byte is shifted to its place in a word without a loss. -/
theorem toUInt64_shiftLeft_toNat (byte : UInt8) {shift : UInt64}
    (fits : shift.toNat ≤ 56) :
    (byte.toUInt64 <<< shift).toNat = byte.toNat <<< shift.toNat := by
  have bound := byte.toNat_lt
  have power : 2 ^ shift.toNat ≤ 2 ^ 56 :=
    Nat.pow_le_pow_right (by omega) fits
  have inWord : byte.toNat <<< shift.toNat < 2 ^ 64 := by
    rw [Nat.shiftLeft_eq]
    calc
      byte.toNat * 2 ^ shift.toNat ≤ 255 * 2 ^ 56 :=
        Nat.mul_le_mul (by omega) power
      _ < 2 ^ 64 := by omega
  rw [UInt64.toNat_shiftLeft, UInt8.toNat_toUInt64,
    Nat.mod_eq_of_lt (show shift.toNat < 64 by omega),
    Nat.mod_eq_of_lt inWord]

/-- The byte at a place of a word. -/
theorem shiftRight_byte_toNat (word : UInt64) {shift : UInt64}
    (fits : shift.toNat < 64) :
    ((word >>> shift) &&& 0xFF).toUInt8.toNat =
      word.toNat / 2 ^ shift.toNat % 256 := by
  have mask (number : Nat) : number &&& 255 = number % 256 :=
    Nat.and_two_pow_sub_one_eq_mod number 8
  rw [UInt64.toNat_toUInt8, UInt64.toNat_and, UInt64.toNat_shiftRight,
    Nat.mod_eq_of_lt fits, Nat.shiftRight_eq_div_pow]
  simp [mask]

/-- The upper bytes of a word and the byte below them are the upper bytes from
that byte on. -/
theorem upperBytes_or_byte (word shift : Nat) :
    (word / 2 ^ (shift + 8)) <<< (shift + 8) |||
        (word / 2 ^ shift % 256) <<< shift =
      (word / 2 ^ shift) <<< shift := by
  have bound : word / 2 ^ shift % 256 < 2 ^ 8 := Nat.mod_lt _ (by omega)
  have upper : word / 2 ^ (shift + 8) = word / 2 ^ shift / 256 := by
    rw [Nat.pow_add, ← Nat.div_div_eq_div_mul]
  have joined :
      (word / 2 ^ shift / 256) <<< 8 ||| word / 2 ^ shift % 256 =
        word / 2 ^ shift := by
    rw [← Nat.shiftLeft_add_eq_or_of_lt bound, Nat.shiftLeft_eq]
    exact Nat.div_add_mod' (word / 2 ^ shift) 256
  rw [upper, Nat.add_comm shift 8, Nat.shiftLeft_add,
    ← Nat.shiftLeft_or_distrib, joined]

end SixLoWPANd.Foundation
