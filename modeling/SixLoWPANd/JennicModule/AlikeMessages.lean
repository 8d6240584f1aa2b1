import SixLoWPANd.JennicModule.Clearance

/-!
# Alike worlds under messages

The handlers and the calls of the module interface take alike worlds to alike
worlds.
-/

namespace SixLoWPANd.JennicModule

open SixLoWPANd.Foundation

section Handlers

variable {clearance : Clearance} {one other : World}
variable (host : Host) (env : Env)

theorem processMessageIPv6_alike (alike : Alike clearance one other)
    (u32Length : UInt32) (pu8Data : TracedMemory UInt8) :
    AlikeOutcomes clearance
      (eJennicModuleProcessMessageIPv6 env u32Length pu8Data one)
      (eJennicModuleProcessMessageIPv6 env u32Length pu8Data other) := by
  have written :
      Alike clearance
        (eTunDeviceWritePacket env u32Length pu8Data one).2.world
        (eTunDeviceWritePacket env u32Length pu8Data other).2.world :=
    { alike with tun := by simp [eTunDeviceWritePacket, alike.tun] }
  unfold eJennicModuleProcessMessageIPv6
  apply ite_related Iff.rfl
  · exact fun _ => ⟨rfl, rfl, written.daemonLog _ _ _⟩
  · exact fun _ => ⟨rfl, rfl, written⟩

theorem processMessageVersion_alike (alike : Alike clearance one other)
    (pu8Data : TracedMemory UInt8) :
    AlikeOutcomes clearance
      (eJennicModuleProcessMessageVersion pu8Data one)
      (eJennicModuleProcessMessageVersion pu8Data other) := by
  have reported :
      Alike clearance
        (one.update (Daemon.reportVersion (pu8Data.cells 0)
          (pu8Data.cells 1) (pu8Data.cells 2)))
        (other.update (Daemon.reportVersion (pu8Data.cells 0)
          (pu8Data.cells 1) (pu8Data.cells 2))) :=
    alike.updateSeen fun _ => rfl
  exact ⟨rfl, rfl, reported.daemonLog _ _ _⟩

theorem notifyConfigChanged_alike (alike : Alike clearance one other)
    (iConfigChanged : Bool) :
    Alike clearance (notifyConfigChanged env iConfigChanged one)
      (notifyConfigChanged env iConfigChanged other) := by
  have threads :
      Alike clearance
        { one with threads := env.pthreadCreate :: one.threads }
        { other with threads := env.pthreadCreate :: other.threads } :=
    { alike with threads := by simp [alike.threads] }
  have callback := alike.setting Settings.vprConfigChanged fun _ => rfl
  unfold notifyConfigChanged
  apply ite_related (by rw [callback])
  · intro _
    apply ite_related Iff.rfl
    · exact fun _ => threads.daemonLog _ _ _
    · exact fun _ => threads
  · exact fun _ => alike

theorem logReceivedConfig_alike (alike : Alike clearance one other) :
    Alike clearance (logReceivedConfig one) (logReceivedConfig other) :=
  (((((alike.daemonLog _ _ _).daemonLog _ _ _).daemonLog _ _ _).daemonLog
    _ _ _).daemonLog _ _ _).daemonLog _ _ _

theorem processMessageConfig_alike (alike : Alike clearance one other)
    (u32Length : UInt32) (pu8Data : TracedMemory UInt8) :
    AlikeOutcomes clearance
      (eJennicModuleProcessMessageConfig host env u32Length pu8Data one)
      (eJennicModuleProcessMessageConfig host env u32Length pu8Data
        other) := by
  have received :
      Alike clearance
        (one.update (Daemon.receiveConfig host.endian
          (ModuleConfigV10.ofCells host.endian pu8Data.cells)))
        (other.update (Daemon.receiveConfig host.endian
          (ModuleConfigV10.ofCells host.endian pu8Data.cells))) :=
    alike.updateSeen fun _ => rfl
  have changed :=
    alike.setting
      (fun settings => settings.configChanged host.endian
        (ModuleConfigV10.ofCells host.endian pu8Data.cells))
      fun _ => rfl
  unfold eJennicModuleProcessMessageConfig
  apply ite_related Iff.rfl
  · exact fun _ => processMessageVersion_alike alike pu8Data
  · intro _
    apply ite_related (by rw [alike.atLeast])
    · intro _
      refine ⟨rfl, rfl, ?_⟩
      dsimp only at changed ⊢
      rw [changed]
      exact
        notifyConfigChanged_alike env (logReceivedConfig_alike received) _
    · exact fun _ => ⟨rfl, rfl, alike⟩

theorem processMessageSecurity_alike (alike : Alike clearance one other)
    (pu8Data : TracedMemory UInt8) :
    AlikeOutcomes clearance
      (eJennicModuleProcessMessageSecurity host pu8Data one)
      (eJennicModuleProcessMessageSecurity host pu8Data other) := by
  have received (sKey : In6Addr) :
      Alike clearance (one.update (Daemon.receiveSecurity sKey))
        (other.update (Daemon.receiveSecurity sKey)) :=
    alike.update
      (congrArg
        (Daemon.receiveSecurity
          (if clearance.key then sKey else .unspecified))
        alike.daemon)
  unfold eJennicModuleProcessMessageSecurity
  apply ite_related (by rw [alike.atLeast])
  · exact fun _ =>
      ⟨rfl, rfl, ((received _).daemonLog _ _ _).daemonLog _ _ _⟩
  · exact fun _ => ⟨rfl, rfl, alike⟩

/-- An operation on the address file. -/
theorem Alike.performed (alike : Alike clearance one other)
    (operation : FileOperation) :
    Alike clearance
      { one with addressFile := operation :: one.addressFile }
      { other with addressFile := operation :: other.addressFile } :=
  { alike with addressFile := by simp [alike.addressFile] }

theorem writeAddressFile_alike (alike : Alike clearance one other)
    (buffer : String) :
    (writeAddressFile host env buffer one).1 =
        (writeAddressFile host env buffer other).1 ∧
      Alike clearance (writeAddressFile host env buffer one).2
        (writeAddressFile host env buffer other).2 := by
  unfold writeAddressFile
  dsimp only
  split
  · exact ⟨rfl, alike.daemonLog _ _ _⟩
  · split
    · exact ⟨rfl, ((alike.performed _).daemonLog _ _ _).performed _⟩
    · split
      · exact
          ⟨rfl, (((alike.performed _).performed _).daemonLog _ _
            _).performed _⟩
      · exact
          ⟨rfl, (((alike.performed _).performed _).performed _).performed
            _⟩

theorem registerService_alike (alike : Alike clearance one other)
    (buffer : String) :
    Alike clearance (registerService host buffer one)
      (registerService host buffer other) := by
  unfold registerService
  split
  · exact { alike with registrations := by simp [alike.registrations] }
  · exact alike

theorem processMessageIPv6Address_alike
    (alike : Alike clearance one other) (pu8Data : TracedMemory UInt8) :
    AlikeOutcomes clearance
      (eJennicModuleProcessMessageIPv6Address host env pu8Data one)
      (eJennicModuleProcessMessageIPv6Address host env pu8Data other) := by
  unfold eJennicModuleProcessMessageIPv6Address
  dsimp only
  have stored :=
    writeAddressFile_alike host env
      (registerService_alike host
        (alike.daemonLog logInfo
          ("Module address: " ++
            host.inetNtop (In6Addr.load pu8Data 0).1)
          ("Module address: " ++
            host.inetNtop (In6Addr.load pu8Data 0).1))
        (host.inetNtop (In6Addr.load pu8Data 0).1))
      (host.inetNtop (In6Addr.load pu8Data 0).1)
  rw [stored.1]
  split
  · exact ⟨rfl, rfl, stored.2.updateSeen fun _ => rfl⟩
  · exact ⟨rfl, rfl, stored.2⟩

theorem handleMessage_alike (alike : Alike clearance one other)
    (u8Message : UInt8) (u32Length : UInt32)
    (pu8Data : TracedMemory UInt8) :
    AlikeOutcomes clearance
      (handleMessage host env u8Message u32Length pu8Data one)
      (handleMessage host env u8Message u32Length pu8Data other) := by
  apply handleMessage_cases (motive := fun handler =>
    AlikeOutcomes clearance (handler pu8Data one) (handler pu8Data other))
  case ipv6 =>
    exact fun _ => processMessageIPv6_alike env alike u32Length pu8Data
  case config =>
    exact fun _ =>
      processMessageConfig_alike host env alike u32Length pu8Data
  case security =>
    exact fun _ => processMessageSecurity_alike host alike pu8Data
  case addr =>
    exact fun _ => processMessageIPv6Address_alike host env alike pu8Data
  case configRequest =>
    exact fun _ => ⟨rfl, rfl, (alike.daemonLog _ _ _).assign env _⟩
  case log =>
    exact fun _ => ⟨rfl, rfl, alike.daemonLog _ _ _⟩
  case version =>
    exact fun _ => processMessageVersion_alike alike pu8Data
  case ping =>
    intro _
    have ponged := ping_alike env alike true
    exact ⟨ponged.eStatus, rfl, ponged.world⟩
  case unknown =>
    intros
    exact ⟨rfl, rfl, alike⟩

/-- The message is recorded, and the time of the communication. -/
theorem Alike.complete (alike : Alike clearance one other)
    (u8Message : UInt8) (u32Length : UInt32) (eStatus : ModuleStatus) :
    Alike clearance
      { one with
        toLedger := one.toLedger.complete env.now u8Message u32Length
          eStatus }
      { other with
        toLedger := other.toLedger.complete env.now u8Message u32Length
          eStatus } := by
  have recorded :
      Alike clearance
        (one.record env (.handled u8Message u32Length eStatus))
        (other.record env (.handled u8Message u32Length eStatus)) :=
    alike.record env rfl
  have stamped (daemon : Daemon) :
      clearance.daemon { daemon with sLastSuccessfulComms := env.now } =
        { clearance.daemon daemon with
          sLastSuccessfulComms := env.now } := rfl
  exact recorded.updateSeen stamped

theorem processMessage_alike (alike : Alike clearance one other)
    (u8Message : UInt8) (u32Length : UInt32)
    (pu8Data : TracedMemory UInt8) :
    AlikeOutcomes clearance
      (eJennicModuleProcessMessage host env u8Message u32Length pu8Data
        one)
      (eJennicModuleProcessMessage host env u8Message u32Length pu8Data
        other) := by
  have handled :=
    handleMessage_alike host env alike u8Message u32Length pu8Data
  unfold eJennicModuleProcessMessage
  dsimp only
  rw [handled.eStatus, handled.pu8Data]
  have completed :=
    handled.world.complete env u8Message u32Length
      (handleMessage host env u8Message u32Length pu8Data other).eStatus
  split
  · have turned := stateMachine_alike host env completed false
    exact ⟨turned.eStatus, rfl, turned.world⟩
  · exact ⟨rfl, rfl, completed⟩

theorem start_alike (alike : Alike clearance one other) :
    AlikeResults clearance (eJennicModuleStart host env one)
      (eJennicModuleStart host env other) := by
  have cleared (daemon : Daemon) :
      clearance.daemon { daemon with sFlags := .zero } =
        { clearance.daemon daemon with sFlags := .zero } := rfl
  unfold eJennicModuleStart
  exact
    stateMachine_alike host env
      (((alike.debugLog _ _).assign env _).updateSeen cleared) false

/-- What is read from the TUN device is in the packets only. -/
theorem tunReadPacket_alike (alike : Alike clearance one other)
    {read read' : TunRead}
    (seen : clearance.packets = true → read = read') :
    Alike clearance (eTunDeviceReadPacket env read one)
      (eTunDeviceReadPacket env read' other) := by
  by_cases packets : clearance.packets = true
  · rw [seen packets]
    unfold eTunDeviceReadPacket
    split
    · exact alike.writeMessage env _ rfl
    · exact alike
  · have unseen (payload : List UInt8) :
        clearance.sees (.wrote .ipv6 payload) = false :=
      Bool.eq_false_iff.mpr packets
    have written {one other : World} (alike : Alike clearance one other)
        (read : TunRead) :
        Alike clearance one (eTunDeviceReadPacket env read other) := by
      unfold eTunDeviceReadPacket
      split
      · exact alike.record_unseen env (unseen _)
      · exact alike
    exact (written (written alike read').symm read).symm

end Handlers

end SixLoWPANd.JennicModule
