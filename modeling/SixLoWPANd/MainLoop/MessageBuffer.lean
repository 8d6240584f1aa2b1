import SixLoWPANd.MainLoop.Loop
import SixLoWPANd.SerialLink.BufferBounds

/-!
# What the handlers access of the message buffer

The receiver admits messages as long as the buffer.  The handlers read a
structure from its beginning or as many bytes as the message has, which stays
inside.  The handler of a LOG message goes further: it stores a terminator
behind the message and scans for a terminator from the second byte on.
`handlers_within_iff` says for which messages it leaves the buffer.
-/

namespace SixLoWPANd.MainLoop

open SixLoWPANd.Foundation
open SixLoWPANd.SerialLink
open SixLoWPANd.JennicModule

/-- A LOG message leaves room for its terminator and, if it is empty, meets a
zero byte in the buffer behind its first cell. -/
def logInBuffer (u8Message : UInt8) (u32Length : UInt32)
    (cells : Nat → UInt8) : Prop :=
  u8Message = SLMsgType.log.code →
    u32Length.toNat ≠ 2048 ∧
      (u32Length = 0 → ∃ index < 2048, 0 < index ∧ cells index = 0)

/-! ## Accesses of the single operations -/

theorem accessesWithin_load {limit : UInt16}
    {memory : TracedMemory UInt8} {index : Nat}
    (inside : index < limit.toNat)
    (within : AccessesWithin limit memory) :
    AccessesWithin limit (memory.load index).2 :=
  ⟨List.forall_mem_cons.mpr ⟨inside, within.1⟩, within.2⟩

theorem accessesWithin_loadRange {limit : UInt16}
    {memory : TracedMemory UInt8} {start count : Nat}
    (inside : start + count ≤ limit.toNat)
    (within : AccessesWithin limit memory) :
    AccessesWithin limit (memory.loadRange start count).2 := by
  constructor
  · intro index member
    rcases (TracedMemory.mem_loadRange_reads _ _ _ _).mp member with
      ⟨_, below⟩ | earlier
    · omega
    · exact within.1 index earlier
  · simpa using within.2

section Handlers

variable (host : Host) (env : Env) (u32Length : UInt32)
variable {pu8Data : TracedMemory UInt8} (world : World)
variable (within : AccessesWithin messageSize pu8Data)

include within

theorem processMessageVersion_within :
    AccessesWithin messageSize
      (eJennicModuleProcessMessageVersion pu8Data world).pu8Data :=
  accessesWithin_load (by decide)
    (accessesWithin_load (by decide)
      (accessesWithin_load (by decide) within))

theorem processMessageConfig_within :
    AccessesWithin messageSize
      (eJennicModuleProcessMessageConfig host env u32Length pu8Data
        world).pu8Data := by
  unfold eJennicModuleProcessMessageConfig
  split
  · exact processMessageVersion_within world within
  · split
    · exact accessesWithin_loadRange (by decide) within
    · exact within

theorem processMessageSecurity_within :
    AccessesWithin messageSize
      (eJennicModuleProcessMessageSecurity host pu8Data
        world).pu8Data := by
  unfold eJennicModuleProcessMessageSecurity
  split
  · exact accessesWithin_loadRange (by decide) within
  · exact within

theorem processMessageIPv6Address_within :
    AccessesWithin messageSize
      (eJennicModuleProcessMessageIPv6Address host env pu8Data
        world).pu8Data := by
  have address : AccessesWithin messageSize (pu8Data.loadRange 0 16).2 :=
    accessesWithin_loadRange (by decide) within
  unfold eJennicModuleProcessMessageIPv6Address
  dsimp only
  split
  · exact address
  · exact address

theorem processMessageIPv6_within (fits : u32Length.toNat ≤ 2048) :
    AccessesWithin messageSize
      (eJennicModuleProcessMessageIPv6 env u32Length pu8Data
        world).pu8Data := by
  have packet :
      AccessesWithin messageSize
        (pu8Data.loadRange 0 u32Length.toNat).2 :=
    accessesWithin_loadRange (by rw [Nat.zero_add]; exact fits) within
  unfold eJennicModuleProcessMessageIPv6
  dsimp only
  split
  · exact packet
  · exact packet

/-- Handlers of all other messages stay inside the buffer. -/
theorem handleMessage_within {u8Message : UInt8}
    (notLog : u8Message ≠ SLMsgType.log.code)
    (fits : u32Length.toNat ≤ 2048) :
    AccessesWithin messageSize
      (handleMessage host env u8Message u32Length pu8Data
        world).pu8Data := by
  apply handleMessage_cases (motive := fun handler =>
    AccessesWithin messageSize (handler pu8Data world).pu8Data)
  case ipv6 =>
    exact fun _ =>
      processMessageIPv6_within env u32Length world within fits
  case config =>
    exact fun _ =>
      processMessageConfig_within host env u32Length world within
  case security =>
    exact fun _ => processMessageSecurity_within host world within
  case addr =>
    exact fun _ => processMessageIPv6Address_within host env world within
  case log =>
    exact fun isLog => absurd isLog notLog
  case version =>
    exact fun _ => processMessageVersion_within world within
  case configRequest | ping =>
    exact fun _ => within
  case unknown =>
    intros
    exact within

end Handlers

/-! ## The handler of LOG messages -/

/-- A scan from the second cell on stays inside exactly if it meets a zero
byte there; the limit of the scan does not matter. -/
theorem scan_within_iff {pu8Data : TracedMemory UInt8} {fuel : Nat}
    (within : AccessesWithin messageSize pu8Data) (enough : 2048 ≤ fuel) :
    AccessesWithin messageSize
        (TracedMemory.loadUntil (· == 0) fuel 1 pu8Data).2 ↔
      ∃ index < 2048, 0 < index ∧ pu8Data.cells index = 0 := by
  have size : messageSize.toNat = 2048 := rfl
  constructor
  · rintro ⟨reads, -⟩
    by_contra nothing
    -- without a zero byte the cell behind the buffer is read
    have running : ∀ earlier, 1 ≤ earlier → earlier < 2048 →
        (pu8Data.cells earlier == 0) = false := by
      intro earlier behind before
      rw [beq_eq_false_iff_ne]
      exact fun zero => nothing ⟨earlier, before, behind, zero⟩
    have outside :=
      reads 2048
        ((TracedMemory.mem_loadUntil_reads pu8Data 2048).mpr
          (Or.inl ⟨by omega, by omega, running⟩))
    omega
  · rintro ⟨zeroAt, inBuffer, behind, zero⟩
    refine ⟨?_, by simpa using within.2⟩
    intro index member
    rcases (TracedMemory.mem_loadUntil_reads pu8Data index).mp member with
      ⟨above, below, running⟩ | earlier
    · by_contra beyond
      have went := running zeroAt behind (by omega)
      simp [zero] at went
    · exact within.1 index earlier

theorem pu8Data_of_eq {outcome : Outcome} {eStatus : ModuleStatus}
    {pu8Data : TracedMemory UInt8} {world : World}
    (equal : outcome = ⟨eStatus, pu8Data, world⟩) :
    outcome.pu8Data = pu8Data := by
  rw [equal]

/-- The memory behind the terminator, and then the scan. -/
theorem processMessageLog_pu8Data (u32Length : UInt32)
    (pu8Data : TracedMemory UInt8) (world : World) :
    (eJennicModuleProcessMessageLog u32Length pu8Data world).pu8Data =
      (TracedMemory.loadUntil (· == 0) (u32Length.toNat + scanLimit) 1
        ((pu8Data.load 0).2.store u32Length.toNat 0)).2 := by
  -- by an equation of outcomes: comparing the memories would run the scan
  apply pu8Data_of_eq
  rw [eJennicModuleProcessMessageLog]

/-- The terminator is the zero byte that the scan meets, unless it lies in front
of the scan. -/
theorem zero_in_terminated_iff {u32Length : UInt32}
    (short : u32Length.toNat < 2048) (pu8Data : TracedMemory UInt8) :
    (∃ index < 2048, 0 < index ∧
        (pu8Data.store u32Length.toNat 0).cells index = 0) ↔
      (u32Length = 0 →
        ∃ index < 2048, 0 < index ∧ pu8Data.cells index = 0) := by
  by_cases empty : u32Length = 0
  · have behind : ∀ index, 0 < index →
        (pu8Data.store u32Length.toNat 0).cells index =
          pu8Data.cells index := by
      intro index positive
      have other : index ≠ 0 := by omega
      simp [empty, other]
    rw [forall_prop_of_true empty]
    constructor
    · rintro ⟨index, inBuffer, positive, zero⟩
      rw [behind index positive] at zero
      exact ⟨index, inBuffer, positive, zero⟩
    · rintro ⟨index, inBuffer, positive, zero⟩
      refine ⟨index, inBuffer, positive, ?_⟩
      rw [behind index positive]
      exact zero
  · have positive : 0 < u32Length.toNat := by
      rw [← UInt32.toNat_inj] at empty
      exact Nat.pos_of_ne_zero empty
    refine iff_of_true ?_ fun zero => absurd zero empty
    exact ⟨u32Length.toNat, short, positive, by simp⟩

theorem processMessageLog_within_iff (u32Length : UInt32)
    (fits : u32Length.toNat ≤ 2048) (cells : Nat → UInt8) (world : World) :
    AccessesWithin messageSize
        (eJennicModuleProcessMessageLog u32Length
          (TracedMemory.untouched cells) world).pu8Data ↔
      u32Length.toNat ≠ 2048 ∧
        (u32Length = 0 →
          ∃ index < 2048, 0 < index ∧ cells index = 0) := by
  have size : messageSize.toNat = 2048 := rfl
  let first : TracedMemory UInt8 :=
    ((TracedMemory.untouched cells).load 0).2
  have reads : first.reads = [0] := rfl
  have writes : (first.store u32Length.toNat 0).writes =
      [u32Length.toNat] := rfl
  rw [processMessageLog_pu8Data]
  by_cases whole : u32Length.toNat = 2048
  · -- the terminator is stored behind the buffer
    refine iff_of_false ?_ fun condition => condition.1 whole
    rintro ⟨-, stores⟩
    rw [TracedMemory.loadUntil_writes, writes, whole] at stores
    have outside := stores 2048 (by simp)
    omega
  · have within :
        AccessesWithin messageSize (first.store u32Length.toNat 0) := by
      constructor
      · simp [reads, size]
      · simp only [writes, List.mem_singleton, forall_eq, size]
        omega
    rw [scan_within_iff within (by simp only [scanLimit]; omega),
      zero_in_terminated_iff (by omega)]
    exact (and_iff_right whole).symm

/-! ## All messages -/

/-- Behind the handler nothing is accessed. -/
theorem processMessage_pu8Data (host : Host) (env : Env)
    (u8Message : UInt8) (u32Length : UInt32)
    (pu8Data : TracedMemory UInt8) (world : World) :
    (eJennicModuleProcessMessage host env u8Message u32Length pu8Data
        world).pu8Data =
      (handleMessage host env u8Message u32Length pu8Data
        world).pu8Data := by
  unfold eJennicModuleProcessMessage
  dsimp only
  split
  · rfl
  · rfl

/-- For messages no longer than the buffer, all accesses lie inside the buffer
if and only if the message is no LOG message, or one whose terminator and whose
string lie in the buffer. -/
theorem handlers_within_iff
    (host : Host) (env : Env) (world : World) (u8Message : UInt8)
    (u32Length : UInt32) (fits : u32Length.toNat ≤ 2048)
    (cells : Nat → UInt8) :
    AccessesWithin messageSize
        (eJennicModuleProcessMessage host env u8Message u32Length
          (TracedMemory.untouched cells) world).pu8Data ↔
      logInBuffer u8Message u32Length cells := by
  have untouched :
      AccessesWithin messageSize (TracedMemory.untouched cells) :=
    ⟨fun _ member => absurd member List.not_mem_nil,
      fun _ member => absurd member List.not_mem_nil⟩
  rw [processMessage_pu8Data]
  by_cases isLog : u8Message = SLMsgType.log.code
  · have handled :
        handleMessage host env u8Message u32Length
            (TracedMemory.untouched cells) world =
          eJennicModuleProcessMessageLog u32Length
            (TracedMemory.untouched cells) world := by
      simp [handleMessage, isLog, SLMsgType.code]
    rw [handled, processMessageLog_within_iff u32Length fits]
    simp [logInBuffer, isLog]
  · refine iff_of_true ?_ (fun isLog' => absurd isLog' isLog)
    exact
      handleMessage_within host env u32Length world untouched isLog fits

/-- A LOG message of one byte in front of a buffer without zero bytes. -/
theorem handlers_within_iff_short :
    AccessesWithin messageSize
      (eJennicModuleProcessMessage sampleHost (granting 1)
        SLMsgType.log.code 1 (TracedMemory.untouched fun _ => 6)
        (World.boot Settings.default)).pu8Data :=
  (handlers_within_iff sampleHost (granting 1)
    (World.boot Settings.default) SLMsgType.log.code 1 (by decide)
    fun _ => 6).mpr fun _ => ⟨by decide, fun empty => by cases empty⟩

/-- The terminator of a LOG message that fills the buffer. -/
theorem log_terminator_outside :
    ¬ ∀ host env world u8Message (u32Length : UInt32) cells,
      u32Length.toNat ≤ 2048 →
      AccessesWithin messageSize
        (eJennicModuleProcessMessage host env u8Message u32Length
          (TracedMemory.untouched cells) world).pu8Data := by
  intro always
  have within :=
    always sampleHost (granting 1) (World.boot Settings.default)
      SLMsgType.log.code 2048 (fun _ => 6) (by decide)
  rw [processMessage_pu8Data] at within
  exact
    ((processMessageLog_within_iff 2048 (by decide) (fun _ => 6)
      (World.boot Settings.default)).mp within).1 rfl

end SixLoWPANd.MainLoop
