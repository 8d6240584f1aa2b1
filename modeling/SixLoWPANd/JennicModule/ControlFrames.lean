import SixLoWPANd.JennicModule.Outputs
import SixLoWPANd.JennicModule.Runs

/-!
# Control frames and packets

What the module interface sends on its own account are control frames: short
ones, and never of type IPV6.  Packets come from the TUN device alone, and the
TUN device gets the payloads of IPV6 messages alone.
-/

namespace SixLoWPANd.JennicModule

open SixLoWPANd.Foundation

/-! ## Frames of the module interface -/

/-- If the entry is a frame, it is short and no packet. -/
def Entry.control (entry : Entry) : Prop :=
  match entry.event with
  | .wrote u8Type payload => u8Type ≠ .ipv6 ∧ payload.length ≤ 36
  | _ => True

theorem networkEncoding_length (settings : Settings) :
    settings.networkEncoding.length = 16 := by
  simp [Settings.networkEncoding, networkBytes16, networkBytes32]

theorem securityEncoding_length (settings : Settings) :
    settings.securityEncoding.length = 36 := by
  have key := settings.sSecurityKey.size
  have server := settings.uAuthSchemeData.size
  simp [Settings.securityEncoding, Settings.authorisationEncoding,
    networkBytes32, key, server]

/-- Nothing but control entries has been recorded between the two. -/
def Controlled (before after : Ledger) : Prop :=
  GrownBy Entry.control before.history after.history

namespace Controlled

variable {before ledger : Ledger}

theorem refl (ledger : Ledger) : Controlled ledger ledger :=
  GrownBy.refl ledger.history

theorem record (controlled : Controlled before ledger) (now : Int)
    (event : Event)
    (isControl : Entry.control ⟨event, now, ledger.daemon⟩) :
    Controlled before (ledger.record now event) :=
  controlled.cons isControl

theorem write (controlled : Controlled before ledger) (now : Int)
    (u8Type : SLMsgType) (payload : List UInt8) (other : u8Type ≠ .ipv6)
    (short : payload.length ≤ 36) :
    Controlled before (ledger.record now (.wrote u8Type payload)) :=
  controlled.record now _ ⟨other, short⟩

theorem update (controlled : Controlled before ledger)
    (change : Daemon → Daemon) :
    Controlled before (ledger.update change) :=
  controlled

theorem assign (controlled : Controlled before ledger) (now : Int)
    (next : ModuleState) : Controlled before (ledger.assign now next) :=
  (controlled.record now (.assigned next) trivial).update _

theorem runModule (controlled : Controlled before ledger) (now : Int) :
    Controlled before (ledger.runModule now) := by
  unfold Ledger.runModule
  split
  · exact controlled.write now _ _ (by decide) (Nat.zero_le _)
  · exact controlled.write now _ _ (by decide) (Nat.zero_le _)
  · exact controlled.write now _ _ (by decide) (Nat.zero_le _)
  · exact controlled

theorem complete (controlled : Controlled before ledger) (now : Int)
    (u8Message : UInt8) (u32Length : UInt32) (eStatus : ModuleStatus) :
    Controlled before (ledger.complete now u8Message u32Length eStatus) :=
  controlled.record now (.handled u8Message u32Length eStatus) trivial

end Controlled

theorem transition_controlled {now : Int} {bTimeout : Bool}
    {before after : Ledger}
    (transition : Transition now bTimeout before after) :
    Controlled before after := by
  have start := Controlled.refl before
  have empty : ([] : List UInt8).length ≤ 36 := Nat.zero_le _
  have single : ∀ u8Data : UInt8, [u8Data].length ≤ 36 :=
    fun _ => Nat.succ_le_succ (Nat.zero_le _)
  have network := networkEncoding_length before.daemon.toSettings
  have security := securityEncoding_length before.daemon.toSettings
  cases transition with
  | requestVersion =>
      exact (start.update _).write now .versionRequest [] (by decide) empty
  | requestAddress =>
      exact
        ((start.update _).update _).write now .addr [] (by decide) empty
  | requestConfiguration =>
      exact start.write now .configRequest [] (by decide) empty
  | ping =>
      exact (start.write now .ping [] (by decide) empty).update _
  | presumeVersion | versionKnown | addressKnown =>
      exact (start.update _).assign now _
  | configurationKnown =>
      exact (start.assign now _).update _
  | skipSecurity | skipProfile | skipFrontEnd | skipActivityLED =>
      exact start.assign now _
  | configureNetwork =>
      exact (start.write now _ _ (by decide) (by omega)).assign now _
  | configureSecurity =>
      exact (start.write now _ _ (by decide) (by omega)).assign now _
  | configureProfile | configureFrontEnd | activityLED =>
      exact (start.write now _ _ (by decide) (single _)).assign now _
  | configureFrontEndDiversity =>
      have chosen := start.write now .setRadioFrontend _ (by decide)
        (single before.daemon.eRadioFrontEnd.code)
      exact (chosen.write now _ _ (by decide) empty).assign now _
  | startModule =>
      exact (start.runModule now).assign now _
  | startOldModule =>
      exact ((start.runModule now).update _).assign now _
  | resetModule =>
      exact
        ((start.update _).assign now _).write now .reset [] (by decide)
          empty

theorem turn_controlled {now : Int} {bTimeout : Bool}
    {before after : Ledger} (turn : Turn now bTimeout before after) :
    Controlled before after := by
  induction turn with
  | wait =>
      exact .refl _
  | last _ transition =>
      exact transition_controlled transition
  | fall _ transition _ inductionHypothesis =>
      exact (transition_controlled transition).trans inductionHypothesis

theorem handling_controlled {host : Host} {now : Int}
    {u8Message : UInt8} {u32Length : UInt32} {cells : Nat → UInt8}
    {eStatus : ModuleStatus} {before after : Ledger}
    (handling : Handling host now u8Message u32Length cells eStatus
      before after) :
    Controlled before after := by
  cases handling with
  | configRequest =>
      exact (Controlled.refl before).assign now _
  | _ =>
      exact .refl before

/-- Messages and timeouts make the interface send control frames only. -/
theorem effect_controlled {host : Host} {call : ApiCall}
    {before after : Ledger} (effect : Effect host call before after)
    (notPacket : ∀ read, call.input ≠ .tunPacket read) :
    Controlled before after := by
  cases effect with
  | rejected _ handling =>
      have handled := handling_controlled handling
      exact handled.complete _ _ _ _
  | @processed u8Message u32Length _ _ _ _ _ handling turn =>
      have handled := handling_controlled handling
      have completed :=
        handled.complete call.env.now u8Message u32Length .ok
      have called := completed.record call.env.now (.called false) trivial
      exact called.trans (turn_controlled turn)
  | ticked _ turn =>
      have called :=
        (Controlled.refl before).record call.env.now (.called true) trivial
      exact called.trans (turn_controlled turn)
  | forwarded isPacket =>
      exact absurd isPacket (notPacket _)
  | unread isPacket =>
      exact absurd isPacket (notPacket _)

/-! ## Packets for the TUN device -/

section Packets

variable (host : Host) (env : Env) (u8Message : UInt8) (u32Length : UInt32)
variable (pu8Data : TracedMemory UInt8) (world : World)

theorem processMessageConfig_tun :
    (eJennicModuleProcessMessageConfig host env u32Length pu8Data
      world).world.tun = world.tun := by
  unfold eJennicModuleProcessMessageConfig
  split
  · rfl
  · split
    · dsimp only
      unfold notifyConfigChanged
      split
      · dsimp only
        split <;> rfl
      · rfl
    · rfl

theorem processMessageIPv6Address_tun :
    (eJennicModuleProcessMessageIPv6Address host env pu8Data
      world).world.tun = world.tun := by
  have stored : ∀ (buffer : String) (world : World),
      (writeAddressFile host env buffer world).2.tun = world.tun := by
    intro buffer world
    unfold writeAddressFile
    cases env.openFile with
    | error text =>
        rfl
    | ok _ =>
        cases env.writeAddress with
        | error text =>
            rfl
        | ok accepted =>
            cases env.writeNewline <;> rfl
  have registered : ∀ (buffer : String) (world : World),
      (registerService host buffer world).tun = world.tun := by
    intro buffer world
    unfold registerService
    split <;> rfl
  unfold eJennicModuleProcessMessageIPv6Address
  dsimp only
  split
  · exact (stored _ _).trans (registered _ _)
  · exact (stored _ _).trans (registered _ _)

theorem processMessageSecurity_tun :
    (eJennicModuleProcessMessageSecurity host pu8Data world).world.tun =
      world.tun := by
  unfold eJennicModuleProcessMessageSecurity
  split <;> rfl

theorem processMessageIPv6_tun :
    (eJennicModuleProcessMessageIPv6 env u32Length pu8Data
        world).world.tun =
      (pu8Data.contents u32Length.toNat, env.tunWrite) :: world.tun := by
  have packet : (pu8Data.loadRange 0 u32Length.toNat).1 =
      pu8Data.contents u32Length.toNat := by
    rw [TracedMemory.loadRange_fst, TracedMemory.contents]
    simp only [Nat.zero_add]
  unfold eJennicModuleProcessMessageIPv6 eTunDeviceWritePacket
  dsimp only
  rw [packet]
  split <;> rfl

/-- A handler gives the TUN device the payload of an IPV6 message and nothing
else. -/
theorem handleMessage_tun :
    (handleMessage host env u8Message u32Length pu8Data world).world.tun =
      if u8Message = SLMsgType.ipv6.code then
        (pu8Data.contents u32Length.toNat, env.tunWrite) :: world.tun
      else
        world.tun := by
  apply handleMessage_cases (motive := fun handler =>
    (handler pu8Data world).world.tun =
      if u8Message = SLMsgType.ipv6.code then
        (pu8Data.contents u32Length.toNat, env.tunWrite) :: world.tun
      else
        world.tun)
  case ipv6 =>
    rintro rfl
    exact processMessageIPv6_tun env u32Length pu8Data world
  case config =>
    rintro rfl
    exact processMessageConfig_tun host env u32Length pu8Data world
  case security =>
    rintro rfl
    exact processMessageSecurity_tun host pu8Data world
  case addr =>
    rintro rfl
    exact processMessageIPv6Address_tun host env pu8Data world
  case configRequest | log | version =>
    rintro rfl
    rfl
  case ping =>
    rintro rfl
    exact (ping_onlyLogs env world true).tun
  case unknown =>
    intro notIPv6 _ _ _ _ _
    rw [if_neg notIPv6]

theorem processMessage_tun :
    (eJennicModuleProcessMessage host env u8Message u32Length pu8Data
        world).world.tun =
      if u8Message = SLMsgType.ipv6.code then
        (pu8Data.contents u32Length.toNat, env.tunWrite) :: world.tun
      else
        world.tun := by
  have behind :=
    processMessage_onlyLogs host env world u8Message u32Length pu8Data
  rw [behind.tun, handleMessage_tun]

/-- An IPV6 message that is processed successfully was accepted whole. -/
theorem processMessage_accepted
    (isIPv6 : u8Message = SLMsgType.ipv6.code)
    (accepted :
      (eJennicModuleProcessMessage host env u8Message u32Length pu8Data
        world).eStatus = .ok) :
    env.tunWrite % 4294967296 = u32Length.toNat := by
  by_contra refused
  have failed :
      (handleMessage host env u8Message u32Length pu8Data
        world).eStatus = .error := by
    rw [handleMessage, if_pos isIPv6]
    simp [eJennicModuleProcessMessageIPv6, eTunDeviceWritePacket, refused]
  unfold eJennicModuleProcessMessage at accepted
  simp [failed] at accepted

end Packets

end SixLoWPANd.JennicModule
