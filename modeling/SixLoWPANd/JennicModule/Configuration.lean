import SixLoWPANd.Foundation.ByteOrder
import SixLoWPANd.Foundation.TracedMemory

/-!
# Configuration of the module

The settings of the daemon and the packed structures in which the module's
configuration travels.  A packed structure keeps its multi-byte members in
network order, so its bytes do not depend on the host: `networkEncoding` and
`securityEncoding` are the payloads that describe given settings.
-/

namespace SixLoWPANd.JennicModule

open SixLoWPANd.Foundation

/-- `struct in6_addr`. -/
structure In6Addr where
  bytes : List UInt8
  size : bytes.length = 16
  deriving DecidableEq

namespace In6Addr

def unspecified : In6Addr where
  bytes := List.replicate 16 0
  size := rfl

/-- The address in 16 cells from `offset` on. -/
def ofCells (cells : Nat → UInt8) (offset : Nat) : In6Addr where
  bytes := (List.range 16).map fun index => cells (offset + index)
  size := by simp

def load (memory : TracedMemory UInt8) (offset : Nat) :
    In6Addr × TracedMemory UInt8 :=
  (⟨(memory.loadRange offset 16).1, by simp⟩,
    (memory.loadRange offset 16).2)

@[simp]
theorem load_fst (memory : TracedMemory UInt8) (offset : Nat) :
    (load memory offset).1 = ofCells memory.cells offset := by
  simp [load, ofCells]

@[simp]
theorem load_cells (memory : TracedMemory UInt8) (offset : Nat) :
    (load memory offset).2.cells = memory.cells := by
  simp [load]

/-- An address depends on its own 16 cells only. -/
theorem ofCells_congr {first second : Nat → UInt8} {offset : Nat}
    (agree : ∀ index < offset + 16, first index = second index) :
    ofCells first offset = ofCells second offset := by
  simp only [ofCells, mk.injEq]
  apply List.map_congr_left
  intro index member
  have bound := List.mem_range.mp member
  exact agree (offset + index) (by omega)

end In6Addr

/-- `teModuleMode`; the last constructor holds every other value. -/
inductive ModuleMode where
  | coordinator
  | router
  | commissioning
  | unknown (value : Nat)
  deriving DecidableEq

namespace ModuleMode

def value : ModuleMode → Nat
  | coordinator => 0
  | router => 1
  | commissioning => 2
  | unknown value => value

def declared : ModuleMode → Bool
  | unknown _ => false
  | _ => true

end ModuleMode

/-- `teRadioFrontEnd`. -/
inductive RadioFrontEnd where
  | standardPower
  | highPower
  | etsi
  deriving DecidableEq

def RadioFrontEnd.code : RadioFrontEnd → UInt8
  | standardPower => 0
  | highPower => 1
  | etsi => 2

def regionMax : UInt32 := 3

def channelAutomatic : UInt32 := 0

def channelMinimum : UInt32 := 11

def channelMaximum : UInt32 := 26

def authSchemeNone : UInt32 := 0

def authSchemeRadiusPAP : UInt32 := 1

def activityLEDNone : UInt32 := 0xFFFFFFFF

/-- The variables that the command line sets. -/
structure Settings where
  eModuleMode : ModuleMode
  eRegion : UInt32
  eChannel : UInt32
  u16PanID : UInt16
  u32UserData : UInt32
  u64NetworkPrefix : UInt64
  u8JenNetProfile : UInt8
  iSecureNetwork : Int
  sSecurityKey : In6Addr
  eAuthScheme : UInt32
  /-- `uAuthSchemeData.sRadiusPAP.sAuthServerIP`. -/
  uAuthSchemeData : In6Addr
  /-- Whether a configuration-changed callback is installed. -/
  vprConfigChanged : Bool
  eActivityLED : UInt32
  eRadioFrontEnd : RadioFrontEnd
  iAntennaDiversity : Int
  verbosity : Int
  deriving DecidableEq

namespace Settings

/-- The settings without any option on the command line. -/
def default : Settings where
  eModuleMode := .coordinator
  eRegion := 0
  eChannel := 0
  u16PanID := 0xFFFF
  u32UserData := 0x11121112
  u64NetworkPrefix := 0xfd040bd380e80002
  u8JenNetProfile := 0
  iSecureNetwork := 0
  sSecurityKey := .unspecified
  eAuthScheme := authSchemeNone
  uAuthSchemeData := .unspecified
  vprConfigChanged := false
  eActivityLED := activityLEDNone
  eRadioFrontEnd := .standardPower
  iAntennaDiversity := 0
  verbosity := 6

/-- The range checks of `main` on the region and on the channel. -/
def rangeChecked (settings : Settings) : Prop :=
  settings.eRegion ≤ regionMax ∧
    (settings.eChannel = channelAutomatic ∨
      (channelMinimum ≤ settings.eChannel ∧
        settings.eChannel ≤ channelMaximum))

instance (settings : Settings) : Decidable settings.rangeChecked :=
  inferInstanceAs (Decidable (_ ∧ _))

theorem default_rangeChecked : default.rangeChecked := by decide

/-- The payload of a CONFIG frame for the settings. -/
def networkEncoding (settings : Settings) : List UInt8 :=
  [settings.eRegion.toUInt8, settings.eChannel.toUInt8] ++
    networkBytes16 settings.u16PanID ++
    networkBytes32 settings.u32UserData ++
    networkBytes32 (highHalf settings.u64NetworkPrefix) ++
    networkBytes32 (lowHalf settings.u64NetworkPrefix)

/-- The authorisation part of a SECURITY payload. -/
def authorisationEncoding (settings : Settings) : List UInt8 :=
  networkBytes32 settings.eAuthScheme ++ settings.uAuthSchemeData.bytes

/-- The payload of a SECURITY frame for the settings. -/
def securityEncoding (settings : Settings) : List UInt8 :=
  settings.sSecurityKey.bytes ++ settings.authorisationEncoding

end Settings

/-- `tsModule_ConfigV10`. -/
structure ModuleConfigV10 where
  u8Region : UInt8
  u8Channel : UInt8
  u16PanID : UInt16
  u32NetworkID : UInt32
  u64NetworkPrefixMSB : UInt32
  u64NetworkPrefixLSB : UInt32

/-- `tsModule_ConfigV11` declares the same members. -/
abbrev ModuleConfigV11 := ModuleConfigV10

namespace ModuleConfigV10

/-- How the packed structure lies in memory. -/
def toBytes (endian : Endian) (sConfig : ModuleConfigV10) : List UInt8 :=
  [sConfig.u8Region, sConfig.u8Channel] ++
    storeUInt16 endian sConfig.u16PanID ++
    storeUInt32 endian sConfig.u32NetworkID ++
    storeUInt32 endian sConfig.u64NetworkPrefixMSB ++
    storeUInt32 endian sConfig.u64NetworkPrefixLSB

/-- The structure that lies in the first cells of the memory. -/
def ofCells (endian : Endian) (cells : Nat → UInt8) :
    ModuleConfigV10 where
  u8Region := cells 0
  u8Channel := cells 1
  u16PanID := loadUInt16 endian (cells 2) (cells 3)
  u32NetworkID := loadUInt32 endian (cells 4) (cells 5) (cells 6) (cells 7)
  u64NetworkPrefixMSB :=
    loadUInt32 endian (cells 8) (cells 9) (cells 10) (cells 11)
  u64NetworkPrefixLSB :=
    loadUInt32 endian (cells 12) (cells 13) (cells 14) (cells 15)

/-- The members as `eJennicModuleWriteConfig` fills them. -/
def fill (endian : Endian) (settings : Settings) : ModuleConfigV10 where
  u8Region := settings.eRegion.toUInt8
  u8Channel := settings.eChannel.toUInt8
  u16PanID := htons endian settings.u16PanID
  u32NetworkID := htonl endian settings.u32UserData
  u64NetworkPrefixMSB := htonl endian (highHalf settings.u64NetworkPrefix)
  u64NetworkPrefixLSB := htonl endian (lowHalf settings.u64NetworkPrefix)

/-- On every host the filled structure is the encoding of the settings. -/
theorem toBytes_fill (endian : Endian) (settings : Settings) :
    (fill endian settings).toBytes endian = settings.networkEncoding := by
  simp only [toBytes, fill, storeUInt16_htons, storeUInt32_htonl,
    Settings.networkEncoding]

end ModuleConfigV10

/-- `tsSecurityConfig`. -/
structure SecurityConfig where
  sKey : In6Addr
  eAuthScheme : UInt32
  uAuthSchemeData : In6Addr

namespace SecurityConfig

/-- How the packed structure lies in memory. -/
def toBytes (endian : Endian) (sSecurityConfig : SecurityConfig) :
    List UInt8 :=
  sSecurityConfig.sKey.bytes ++
    storeUInt32 endian sSecurityConfig.eAuthScheme ++
    sSecurityConfig.uAuthSchemeData.bytes

/-- The members as `eJennicModuleWriteSecurityConfig` fills them. -/
def fill (endian : Endian) (settings : Settings) : SecurityConfig where
  sKey := settings.sSecurityKey
  eAuthScheme := htonl endian settings.eAuthScheme
  uAuthSchemeData := settings.uAuthSchemeData

/-- On every host the filled structure is the encoding of the settings. -/
theorem toBytes_fill (endian : Endian) (settings : Settings) :
    (fill endian settings).toBytes endian = settings.securityEncoding := by
  simp only [toBytes, fill, storeUInt32_htonl, Settings.securityEncoding,
    Settings.authorisationEncoding, List.append_assoc]

end SecurityConfig

/-! ## What a received configuration changes -/

/-- The settings after the assignments of `eJennicModuleProcessMessageConfig`
from the structure that was received. -/
def Settings.receiveNetwork
    (settings : Settings) (endian : Endian) (psConfig : ModuleConfigV11) :
    Settings :=
  { settings with
    eRegion := psConfig.u8Region.toUInt32
    eChannel := psConfig.u8Channel.toUInt32
    u16PanID := ntohs endian psConfig.u16PanID
    u32UserData := ntohl endian psConfig.u32NetworkID
    u64NetworkPrefix :=
      -- the source applies `htonl` here, not `ntohl`
      joinHalves (htonl endian psConfig.u64NetworkPrefixMSB)
        (htonl endian psConfig.u64NetworkPrefixLSB) }

/-- The five-way test before those assignments. -/
def Settings.configChanged
    (settings : Settings) (endian : Endian) (psConfig : ModuleConfigV11) :
    Bool :=
  settings.eRegion != psConfig.u8Region.toUInt32 ||
    settings.eChannel != psConfig.u8Channel.toUInt32 ||
    settings.u16PanID != ntohs endian psConfig.u16PanID ||
    settings.u32UserData != ntohl endian psConfig.u32NetworkID ||
    joinHalves (htonl endian psConfig.u64NetworkPrefixMSB)
      (htonl endian psConfig.u64NetworkPrefixLSB) !=
      settings.u64NetworkPrefix

def payloadOf (cells : Nat → UInt8) (count : Nat) : List UInt8 :=
  (List.range count).map cells

@[simp]
theorem payloadOf_length (cells : Nat → UInt8) (count : Nat) :
    (payloadOf cells count).length = count := by
  simp [payloadOf]

/-- The received configuration is encoded as the bytes it came in. -/
theorem networkEncoding_receiveNetwork
    (settings : Settings) (endian : Endian) (cells : Nat → UInt8) :
    (settings.receiveNetwork endian
        (ModuleConfigV10.ofCells endian cells)).networkEncoding =
      payloadOf cells 16 := by
  simp only [Settings.networkEncoding, Settings.receiveNetwork,
    ModuleConfigV10.ofCells, ntohs_loadUInt16, ← ntohl_eq_htonl,
    ntohl_loadUInt32, highHalf_joinHalves, lowHalf_joinHalves,
    networkBytes16_join16, networkBytes32_join32,
    UInt8.toUInt8_toUInt32]
  rfl

/-- Region and channel fit the byte that carries them. -/
def Settings.fitsBytes (settings : Settings) : Prop :=
  settings.eRegion.toNat < 256 ∧ settings.eChannel.toNat < 256

theorem Settings.rangeChecked.fitsBytes {settings : Settings}
    (checked : settings.rangeChecked) : settings.fitsBytes := by
  obtain ⟨region, automatic | ⟨_, channel⟩⟩ := checked
  · have regionBound := UInt32.le_iff_toNat_le.mp region
    rw [Settings.fitsBytes, automatic]
    simp only [regionMax, channelAutomatic,
      UInt32.reduceToNat] at regionBound ⊢
    omega
  · have regionBound := UInt32.le_iff_toNat_le.mp region
    have channelBound := UInt32.le_iff_toNat_le.mp channel
    simp only [regionMax, channelMaximum,
      UInt32.reduceToNat] at regionBound channelBound
    exact ⟨by omega, by omega⟩

theorem fitsBytes_receiveNetwork
    (settings : Settings) (endian : Endian) (psConfig : ModuleConfigV11) :
    (settings.receiveNetwork endian psConfig).fitsBytes := by
  have region := psConfig.u8Region.toNat_lt
  have channel := psConfig.u8Channel.toNat_lt
  simpa [Settings.fitsBytes, Settings.receiveNetwork] using
    And.intro region channel

private theorem toUInt8_inj_of_lt {first second : UInt32}
    (firstFits : first.toNat < 256) (secondFits : second.toNat < 256) :
    first.toUInt8 = second.toUInt8 ↔ first = second := by
  constructor
  · intro same
    have values := congrArg UInt8.toNat same
    simp only [UInt32.toNat_toUInt8] at values
    rw [← UInt32.toNat_inj]
    omega
  · exact congrArg UInt32.toUInt8

/-- Settings that fit their bytes have the same encoding exactly if they agree
in the five encoded members. -/
theorem networkEncoding_eq_iff {first second : Settings}
    (firstFits : first.fitsBytes) (secondFits : second.fitsBytes) :
    first.networkEncoding = second.networkEncoding ↔
      first.eRegion = second.eRegion ∧
        first.eChannel = second.eChannel ∧
        first.u16PanID = second.u16PanID ∧
        first.u32UserData = second.u32UserData ∧
        first.u64NetworkPrefix = second.u64NetworkPrefix := by
  constructor
  · intro same
    simp only [Settings.networkEncoding] at same
    -- the members lie at fixed places, so they are compared from the end
    have four (word other : UInt32) :
        (networkBytes32 word).length = (networkBytes32 other).length := rfl
    have two (word other : UInt16) :
        (networkBytes16 word).length = (networkBytes16 other).length := rfl
    obtain ⟨same, lsb⟩ := List.append_inj' same (four _ _)
    obtain ⟨same, msb⟩ := List.append_inj' same (four _ _)
    obtain ⟨same, userData⟩ := List.append_inj' same (four _ _)
    obtain ⟨same, panID⟩ := List.append_inj' same (two _ _)
    simp only [List.cons.injEq, and_true] at same
    have networkPrefix :
        first.u64NetworkPrefix = second.u64NetworkPrefix := by
      rw [← joinHalves_halves first.u64NetworkPrefix,
        networkBytes32_injective msb, networkBytes32_injective lsb,
        joinHalves_halves]
    exact
      ⟨(toUInt8_inj_of_lt firstFits.1 secondFits.1).mp same.1,
        (toUInt8_inj_of_lt firstFits.2 secondFits.2).mp same.2,
        networkBytes16_injective panID,
        networkBytes32_injective userData, networkPrefix⟩
  · rintro ⟨region, channel, panID, userData, networkPrefix⟩
    simp only [Settings.networkEncoding, region, channel, panID, userData,
      networkPrefix]

/-- The five-way test finds a change exactly if the bytes received differ from
the encoding of the settings held. -/
theorem configChanged_iff
    {settings : Settings} (fits : settings.fitsBytes) (endian : Endian)
    (cells : Nat → UInt8) :
    settings.configChanged endian (ModuleConfigV10.ofCells endian cells) =
        true ↔
      payloadOf cells 16 ≠ settings.networkEncoding := by
  let psConfig := ModuleConfigV10.ofCells endian cells
  have same :
      payloadOf cells 16 = settings.networkEncoding ↔
        settings.configChanged endian psConfig = false := by
    rw [← networkEncoding_receiveNetwork settings endian cells,
      networkEncoding_eq_iff
        (fitsBytes_receiveNetwork settings endian psConfig) fits]
    simp only [Settings.receiveNetwork, Settings.configChanged,
      Bool.or_eq_false_iff, bne_eq_false_iff_eq, and_assoc]
    constructor
    · rintro ⟨region, channel, panID, userData, networkPrefix⟩
      exact
        ⟨region.symm, channel.symm, panID.symm, userData.symm,
          networkPrefix⟩
    · rintro ⟨region, channel, panID, userData, networkPrefix⟩
      exact
        ⟨region.symm, channel.symm, panID.symm, userData.symm,
          networkPrefix⟩
  rw [Ne, same, Bool.not_eq_false]

end SixLoWPANd.JennicModule
