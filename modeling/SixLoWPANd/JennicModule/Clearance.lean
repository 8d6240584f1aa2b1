import SixLoWPANd.JennicModule.Runs

/-!
# What an observer can tell apart

A clearance says whether an observer sees the verbosity, the network key and the
packets for the module.  Two worlds are alike for it if they agree in everything
but these three, the key inside of SECURITY frames and the log.  Every function
of the module interface takes alike worlds to alike worlds and returns the same
status, so neither the verbosity nor the key nor a packet is ever found in
anything else.
-/

namespace SixLoWPANd.JennicModule

open SixLoWPANd.Foundation

structure Clearance where
  verbosity : Bool
  key : Bool
  /-- The IPV6 frames for the module. -/
  packets : Bool

namespace Clearance

variable (clearance : Clearance)

def settings (settings : Settings) : Settings :=
  { settings with
    verbosity := if clearance.verbosity then settings.verbosity else 0
    sSecurityKey :=
      if clearance.key then settings.sSecurityKey else .unspecified }

def daemon (daemon : Daemon) : Daemon :=
  { daemon with toSettings := clearance.settings daemon.toSettings }

/-- A frame without what is not seen of it: the key stands in the first 16
bytes of a SECURITY frame. -/
def frame (u8Type : SLMsgType) (payload : List UInt8) : List UInt8 :=
  if u8Type = .security ∧ clearance.key = false then payload.drop 16
  else payload

def event : Event → Event
  | .wrote u8Type payload => .wrote u8Type (clearance.frame u8Type payload)
  | event => event

def sees : Event → Bool
  | .wrote .ipv6 _ => clearance.packets
  | _ => true

/-- What is seen of an entry, if anything. -/
def entry (entry : Entry) : Option Entry :=
  if clearance.sees entry.event then
    some
      { event := clearance.event entry.event
        time := entry.time
        daemon := clearance.daemon entry.daemon }
  else
    none

@[simp]
theorem sees_event (event : Event) :
    clearance.sees (clearance.event event) = clearance.sees event := by
  cases event with
  | wrote u8Type payload =>
      cases u8Type with
      | ipv6 => rfl
      | _ => rfl
  | called bTimeout | assigned eModuleState
  | handled u8Message u32Length eStatus =>
      rfl

/-- The clearance of an observer who sees everything but the log. -/
def full : Clearance where
  verbosity := true
  key := true
  packets := true

@[simp]
theorem full_daemon (daemon : Daemon) : full.daemon daemon = daemon := rfl

@[simp]
theorem full_event (event : Event) : full.event event = event := by
  cases event with
  | wrote u8Type payload =>
      simp [Clearance.event, frame, full]
  | called bTimeout | assigned eModuleState
  | handled u8Message u32Length eStatus =>
      rfl

/-- With the packets every event is seen. -/
theorem sees_of_packets (packets : clearance.packets = true)
    (event : Event) : clearance.sees event = true := by
  unfold sees
  split
  · exact packets
  · rfl

@[simp]
theorem full_entry (entry : Entry) : full.entry entry = some entry := by
  have seen := full.sees_of_packets rfl entry.event
  simp [Clearance.entry, seen]

theorem frame_securityEncoding (one : Settings) :
    clearance.frame .security one.securityEncoding =
      clearance.frame .security
        (clearance.settings one).securityEncoding := by
  have unseen (settings : Settings) :
      settings.securityEncoding.drop 16 = settings.authorisationEncoding :=
    List.drop_left' settings.sSecurityKey.size
  cases seen : clearance.key with
  | true =>
      simp [frame, seen, Clearance.settings, Settings.securityEncoding,
        Settings.authorisationEncoding]
  | false =>
      simp only [frame, seen, unseen, and_self, if_true]
      rfl

end Clearance

/-- The worlds differ in what is not seen and in the log only. -/
structure Alike (clearance : Clearance) (one other : World) : Prop where
  daemon : clearance.daemon one.daemon = clearance.daemon other.daemon
  history :
    one.history.filterMap clearance.entry =
      other.history.filterMap clearance.entry
  tun : one.tun = other.tun
  addressFile : one.addressFile = other.addressFile
  registrations : one.registrations = other.registrations
  threads : one.threads = other.threads

/-- Two functions return the same status and alike worlds. -/
structure AlikeResults (clearance : Clearance)
    (one other : ModuleStatus × World) : Prop where
  eStatus : one.1 = other.1
  world : Alike clearance one.2 other.2

/-- Two handlers leave the same status and memory and alike worlds. -/
structure AlikeOutcomes (clearance : Clearance) (one other : Outcome) :
    Prop where
  eStatus : one.eStatus = other.eStatus
  pu8Data : one.pu8Data = other.pu8Data
  world : Alike clearance one.world other.world

/-- Alternatives with the same condition are related if both branches are. -/
theorem ite_related {α β : Type} {related : α → β → Prop}
    {condition condition' : Prop}
    [Decidable condition] [Decidable condition']
    (same : condition ↔ condition') {yes no : α} {yes' no' : β}
    (positive : condition → related yes yes')
    (negative : ¬ condition → related no no') :
    related (if condition then yes else no)
      (if condition' then yes' else no') := by
  by_cases holds : condition
  · rw [if_pos holds, if_pos (same.mp holds)]
    exact positive holds
  · rw [if_neg holds, if_neg (fun holds' => holds (same.mpr holds'))]
    exact negative holds

namespace Alike

variable {clearance : Clearance} {one other : World}

theorem refl (world : World) : Alike clearance world world :=
  ⟨rfl, rfl, rfl, rfl, rfl, rfl⟩

theorem symm (alike : Alike clearance one other) :
    Alike clearance other one :=
  ⟨alike.daemon.symm, alike.history.symm, alike.tun.symm,
    alike.addressFile.symm, alike.registrations.symm, alike.threads.symm⟩

theorem trans {third : World} (first : Alike clearance one other)
    (second : Alike clearance other third) : Alike clearance one third where
  daemon := first.daemon.trans second.daemon
  history := first.history.trans second.history
  tun := first.tun.trans second.tun
  addressFile := first.addressFile.trans second.addressFile
  registrations := first.registrations.trans second.registrations
  threads := first.threads.trans second.threads

/-- Alike worlds agree in what is seen of the variables. -/
theorem field {α : Type} (alike : Alike clearance one other)
    (read : Daemon → α)
    (seen : ∀ daemon, read (clearance.daemon daemon) = read daemon) :
    read one.daemon = read other.daemon := by
  rw [← seen one.daemon, alike.daemon, seen]

theorem setting {α : Type} (alike : Alike clearance one other)
    (read : Settings → α)
    (seen : ∀ settings, read (clearance.settings settings) = read settings) :
    read one.daemon.toSettings = read other.daemon.toSettings :=
  alike.field (fun daemon => read daemon.toSettings) fun daemon =>
    seen daemon.toSettings

/-! ### Elementary changes -/

theorem daemonLog_self (world : World) (priority : Nat) (text : String) :
    Alike clearance world (world.daemonLog priority text) :=
  ⟨rfl, rfl, rfl, rfl, rfl, rfl⟩

theorem debugLog_self (world : World) (text : String) :
    Alike clearance world (world.debugLog text) := by
  unfold World.debugLog
  split
  · exact daemonLog_self world _ _
  · exact refl world

theorem debugLogIf_self (world : World) (condition : Bool)
    (text : String) :
    Alike clearance world (world.debugLogIf condition text) := by
  cases condition with
  | true =>
      exact debugLog_self world text
  | false =>
      exact refl world

theorem daemonLog (alike : Alike clearance one other)
    (priority : Nat) (text text' : String) :
    Alike clearance (one.daemonLog priority text)
      (other.daemonLog priority text') :=
  (daemonLog_self one _ _).symm.trans
    (alike.trans (daemonLog_self other _ _))

theorem debugLog (alike : Alike clearance one other)
    (text text' : String) :
    Alike clearance (one.debugLog text) (other.debugLog text') :=
  (debugLog_self one _).symm.trans (alike.trans (debugLog_self other _))

theorem debugLogIf (alike : Alike clearance one other)
    (condition condition' : Bool) (text : String) :
    Alike clearance (one.debugLogIf condition text)
      (other.debugLogIf condition' text) :=
  (debugLogIf_self one _ _).symm.trans
    (alike.trans (debugLogIf_self other _ _))

theorem record (alike : Alike clearance one other) (env : Env)
    {event event' : Event}
    (seen : clearance.event event = clearance.event event') :
    Alike clearance (one.record env event) (other.record env event') where
  daemon := alike.daemon
  history := by
    have sees : clearance.sees event = clearance.sees event' := by
      rw [← clearance.sees_event event, seen, clearance.sees_event]
    simp [Clearance.entry, List.filterMap_cons, sees, seen, alike.daemon,
      alike.history]
  tun := alike.tun
  addressFile := alike.addressFile
  registrations := alike.registrations
  threads := alike.threads

/-- An event that is not seen changes nothing. -/
theorem record_unseen (alike : Alike clearance one other) (env : Env)
    {event : Event} (unseen : clearance.sees event = false) :
    Alike clearance one (other.record env event) where
  daemon := alike.daemon
  history := by
    simp [Clearance.entry, unseen, alike.history]
  tun := alike.tun
  addressFile := alike.addressFile
  registrations := alike.registrations
  threads := alike.threads

theorem writeMessage (alike : Alike clearance one other) (env : Env)
    (u8Type : SLMsgType) {payload payload' : List UInt8}
    (seen : clearance.frame u8Type payload =
      clearance.frame u8Type payload') :
    Alike clearance (one.writeMessage env u8Type payload)
      (other.writeMessage env u8Type payload') :=
  alike.record env (by simp [Clearance.event, seen])

theorem update (alike : Alike clearance one other)
    {change change' : Daemon → Daemon}
    (seen : clearance.daemon (change one.daemon) =
      clearance.daemon (change' other.daemon)) :
    Alike clearance (one.update change) (other.update change') where
  daemon := seen
  history := alike.history
  tun := alike.tun
  addressFile := alike.addressFile
  registrations := alike.registrations
  threads := alike.threads

/-- A change that does not depend on what is not seen. -/
theorem updateSeen (alike : Alike clearance one other)
    {change : Daemon → Daemon}
    (commutes : ∀ daemon,
      clearance.daemon (change daemon) = change (clearance.daemon daemon)) :
    Alike clearance (one.update change) (other.update change) :=
  alike.update (by rw [commutes, commutes, alike.daemon])

theorem setRetries (alike : Alike clearance one other)
    (u32Retries : UInt32) :
    Alike clearance (one.update (Daemon.setRetries u32Retries))
      (other.update (Daemon.setRetries u32Retries)) :=
  alike.updateSeen fun _ => rfl

theorem forgetAddress (alike : Alike clearance one other) :
    Alike clearance (one.update Daemon.forgetAddress)
      (other.update Daemon.forgetAddress) :=
  alike.updateSeen fun _ => rfl

theorem assign (alike : Alike clearance one other) (env : Env)
    (eModuleState : ModuleState) :
    Alike clearance (one.assign env eModuleState)
      (other.assign env eModuleState) := by
  have recorded :
      Alike clearance (one.record env (.assigned eModuleState))
        (other.record env (.assigned eModuleState)) :=
    alike.record env rfl
  exact recorded.updateSeen fun _ => rfl

end Alike

/-! ## The functions of the module interface -/

section Functions

variable {clearance : Clearance} {one other : World}
variable (host : Host) (env : Env)

theorem Alike.atLeast (alike : Alike clearance one other)
    (major minor revision : UInt32) :
    one.daemon.atLeast major minor revision =
      other.daemon.atLeast major minor revision :=
  alike.field (fun daemon => daemon.atLeast major minor revision)
    fun _ => rfl

theorem Alike.sFlags (alike : Alike clearance one other) :
    one.daemon.sFlags = other.daemon.sFlags :=
  alike.field Daemon.sFlags fun _ => rfl

/-! ### Writers -/

theorem logConfig_alike (alike : Alike clearance one other)
    (sConfig sConfig' : ModuleConfigV10) :
    Alike clearance (logConfig host sConfig one)
      (logConfig host sConfig' other) :=
  ((((((alike.daemonLog _ _ _).daemonLog _ _ _).daemonLog _ _ _).daemonLog
    _ _ _).daemonLog _ _ _).daemonLog _ _ _).debugLog _ _

theorem writeConfig_alike (alike : Alike clearance one other) :
    AlikeResults clearance (eJennicModuleWriteConfig host env one)
      (eJennicModuleWriteConfig host env other) := by
  have flags := alike.sFlags
  have version := alike.field Daemon.u32JennicDeviceVersion fun _ => rfl
  have network := alike.setting Settings.networkEncoding fun _ => rfl
  unfold eJennicModuleWriteConfig
  apply ite_related (by rw [flags, version])
  · intro _
    refine ⟨rfl, (logConfig_alike host alike _ _).writeMessage env _ ?_⟩
    rw [ModuleConfigV10.toBytes_fill, ModuleConfigV10.toBytes_fill, network]
  · intro _
    apply ite_related (by rw [flags, alike.atLeast])
    · intro _
      refine ⟨rfl, (logConfig_alike host alike _ _).writeMessage env _ ?_⟩
      rw [ModuleConfigV10.toBytes_fill, ModuleConfigV10.toBytes_fill,
        network]
    · intro _
      exact ⟨rfl, alike.daemonLog _ _ _⟩

theorem writeSecurityConfig_alike (alike : Alike clearance one other) :
    Alike clearance (eJennicModuleWriteSecurityConfig host env one).2
      (eJennicModuleWriteSecurityConfig host env other).2 := by
  have scheme := alike.setting Settings.eAuthScheme fun _ => rfl
  have payload :
      clearance.frame .security one.daemon.securityEncoding =
        clearance.frame .security other.daemon.securityEncoding := by
    rw [clearance.frame_securityEncoding one.daemon.toSettings,
      clearance.frame_securityEncoding other.daemon.toSettings]
    exact
      congrArg
        (fun daemon : Daemon =>
          clearance.frame .security daemon.securityEncoding)
        alike.daemon
  have logged :=
    (alike.daemonLog logInfo "Enabling network security:"
      "Enabling network security:").daemonLog logInfo
        ("Network Key           : " ++ host.inetNtop
          (SecurityConfig.fill host.endian one.daemon.toSettings).sKey)
        ("Network Key           : " ++ host.inetNtop
          (SecurityConfig.fill host.endian other.daemon.toSettings).sKey)
  unfold eJennicModuleWriteSecurityConfig
  refine (Alike.debugLog ?_ _ _).writeMessage env _ (by
    rw [SecurityConfig.toBytes_fill, SecurityConfig.toBytes_fill, payload])
  have same :
      ntohl host.endian
          (SecurityConfig.fill host.endian
            one.daemon.toSettings).eAuthScheme =
        ntohl host.endian
          (SecurityConfig.fill host.endian
            other.daemon.toSettings).eAuthScheme := by
    simp only [SecurityConfig.fill, scheme]
  apply ite_related (by rw [same])
  · exact fun _ => logged.daemonLog _ _ _
  · intro _
    apply ite_related (by rw [same])
    · exact fun _ => logged.daemonLog _ _ _
    · exact fun _ => logged

theorem writeActivityLED_alike (alike : Alike clearance one other) :
    Alike clearance (eJennicModuleWriteActivityLED env one).2
      (eJennicModuleWriteActivityLED env other).2 := by
  have activityLED := alike.setting Settings.eActivityLED fun _ => rfl
  unfold eJennicModuleWriteActivityLED
  rw [activityLED]
  split
  · exact (alike.debugLog _ _).writeMessage env _ rfl
  · exact alike

theorem writeProfile_alike (alike : Alike clearance one other) :
    Alike clearance (eJennicModuleWriteProfile env one).2
      (eJennicModuleWriteProfile env other).2 := by
  have profile := alike.setting Settings.u8JenNetProfile fun _ => rfl
  unfold eJennicModuleWriteProfile
  rw [alike.atLeast, profile]
  split
  · exact (alike.debugLog _ _).writeMessage env _ rfl
  · exact alike

theorem writeFrontEndConfig_alike (alike : Alike clearance one other) :
    Alike clearance (eJennicModuleWriteFrontEndConfig env one).2
      (eJennicModuleWriteFrontEndConfig env other).2 := by
  have frontEnd := alike.setting Settings.eRadioFrontEnd fun _ => rfl
  unfold eJennicModuleWriteFrontEndConfig
  rw [alike.atLeast, frontEnd]
  split
  · have written (text : String) :
        Alike clearance
          ((one.debugLog text).writeMessage env .setRadioFrontend
            [other.daemon.eRadioFrontEnd.code])
          ((other.debugLog text).writeMessage env .setRadioFrontend
            [other.daemon.eRadioFrontEnd.code]) :=
      (alike.debugLog _ _).writeMessage env _ rfl
    dsimp only
    rw [(written _).setting Settings.iAntennaDiversity fun _ => rfl]
    split
    · exact ((written _).debugLog _ _).writeMessage env _ rfl
    · exact written _
  · exact alike

theorem run_alike (alike : Alike clearance one other) :
    Alike clearance (eJennicModuleRun env one).2
      (eJennicModuleRun env other).2 := by
  have mode := alike.setting Settings.eModuleMode fun _ => rfl
  unfold eJennicModuleRun
  rw [mode]
  split
  · exact (alike.debugLog _ _).writeMessage env _ rfl
  · exact (alike.debugLog _ _).writeMessage env _ rfl
  · exact (alike.debugLog _ _).writeMessage env _ rfl
  · exact alike.daemonLog _ _ _

theorem ping_alike (alike : Alike clearance one other) (pu8Data : Bool) :
    AlikeResults clearance (eJennicModulePing env pu8Data one)
      (eJennicModulePing env pu8Data other) := by
  have lastPing := alike.field Daemon.sLastPing fun _ => rfl
  unfold eJennicModulePing
  rw [alike.sFlags, lastPing]
  split
  · split
    · exact ⟨rfl, alike.debugLog _ _⟩
    · split
      · exact
          ⟨rfl, ((alike.debugLog _ _).writeMessage env _ rfl).updateSeen
            fun _ => rfl⟩
      · exact ⟨rfl, alike⟩
  · exact ⟨rfl, alike⟩

/-! ### The state machine -/

theorem caseActivityLED_alike (alike : Alike clearance one other) :
    Alike clearance (caseActivityLED env one)
      (caseActivityLED env other) := by
  unfold caseActivityLED
  rw [alike.atLeast]
  split
  · exact (writeActivityLED_alike env alike).assign env _
  · exact alike.assign env _

theorem caseDetermineAddress_alike (alike : Alike clearance one other)
    (bTimeout : Bool) :
    Alike clearance (caseDetermineAddress env bTimeout one)
      (caseDetermineAddress env bTimeout other) := by
  unfold caseDetermineAddress
  rw [alike.sFlags]
  split
  · split
    · have logged :=
        alike.debugLogIf (one.daemon.u32Retries ≠ 0)
          (other.daemon.u32Retries ≠ 0) "Timeout waiting for address"
      dsimp only
      rw [logged.field Daemon.u32Retries fun _ => rfl]
      split
      · exact
          ((((logged.setRetries _).debugLog _ _).debugLog _
            _).forgetAddress).writeMessage env _ rfl
      · exact
          ((((logged.setRetries _).daemonLog _ _ _).assign env
            _).debugLog _ _).writeMessage env _ rfl
    · exact alike
  · exact caseActivityLED_alike env ((alike.setRetries 0).assign env _)

theorem caseDetermineConfiguration_alike
    (alike : Alike clearance one other) (bTimeout : Bool) :
    Alike clearance (caseDetermineConfiguration env bTimeout one)
      (caseDetermineConfiguration env bTimeout other) := by
  unfold caseDetermineConfiguration
  rw [alike.sFlags]
  split
  · exact
      ((alike.debugLog _ _).debugLog _ _).writeMessage env _ rfl
  · exact
      caseDetermineAddress_alike env
        (alike.assign env _).forgetAddress bTimeout

theorem caseConfigureFrontEnd_alike (alike : Alike clearance one other) :
    Alike clearance (caseConfigureFrontEnd env one)
      (caseConfigureFrontEnd env other) :=
  (writeFrontEndConfig_alike env alike).assign env _

theorem caseStartModule_alike (alike : Alike clearance one other) :
    Alike clearance (caseStartModule env one)
      (caseStartModule env other) := by
  have ran := run_alike env alike
  unfold caseStartModule
  dsimp only
  rw [ran.atLeast, ran.atLeast]
  split
  · exact ran.assign env _
  · split
    · exact ran.assign env _
    · exact ran.forgetAddress.assign env _

theorem caseConfigureProfile_alike (alike : Alike clearance one other) :
    Alike clearance (caseConfigureProfile env one)
      (caseConfigureProfile env other) :=
  (writeProfile_alike env alike).assign env _

theorem caseConfigureSecurity_alike (alike : Alike clearance one other) :
    Alike clearance (caseConfigureSecurity host env one)
      (caseConfigureSecurity host env other) := by
  have secure := alike.setting Settings.iSecureNetwork fun _ => rfl
  have written :
      Alike clearance
        (if one.daemon.iSecureNetwork ≠ 0 then
          (eJennicModuleWriteSecurityConfig host env one).2 else one)
        (if other.daemon.iSecureNetwork ≠ 0 then
          (eJennicModuleWriteSecurityConfig host env other).2
            else other) :=
    ite_related (by rw [secure])
      (fun _ => writeSecurityConfig_alike host env alike)
      (fun _ => alike)
  unfold caseConfigureSecurity
  apply ite_related (by rw [written.atLeast])
  · exact fun _ => written.assign env _
  · exact fun _ => written.assign env _

theorem caseConfigureNetwork_alike (alike : Alike clearance one other) :
    Alike clearance (caseConfigureNetwork host env one)
      (caseConfigureNetwork host env other) :=
  (writeConfig_alike host env alike).world.assign env _

theorem caseDetermineVersion_alike (alike : Alike clearance one other) :
    Alike clearance (caseDetermineVersion host env one)
      (caseDetermineVersion host env other) := by
  unfold caseDetermineVersion
  rw [alike.sFlags]
  split
  · have logged :=
      alike.debugLogIf (one.daemon.u32Retries ≠ 0)
        (other.daemon.u32Retries ≠ 0) "Timeout waiting for version"
    dsimp only
    rw [logged.field Daemon.u32Retries fun _ => rfl]
    split
    · exact
        (((logged.setRetries _).debugLog _ _).debugLog _ _).writeMessage
          env _ rfl
    · exact ((logged.setRetries _).setRetries 0).assign env _
  · exact
      caseConfigureNetwork_alike host env
        ((alike.setRetries 0).assign env _)

theorem checkComms_alike (alike : Alike clearance one other) :
    AlikeResults clearance (checkComms env one) (checkComms env other) := by
  have last := alike.field Daemon.sLastSuccessfulComms fun _ => rfl
  unfold checkComms
  rw [alike.sFlags, last]
  split
  · dsimp only
    split
    · exact ⟨rfl, alike.daemonLog _ _ _⟩
    · exact ⟨rfl, alike⟩
  · exact ⟨rfl, alike⟩

theorem stateMachine_alike (alike : Alike clearance one other)
    (bTimeout : Bool) :
    AlikeResults clearance (eJennicModuleStateMachine host env bTimeout one)
      (eJennicModuleStateMachine host env bTimeout other) := by
  have called :
      Alike clearance (one.record env (.called bTimeout))
        (other.record env (.called bTimeout)) :=
    alike.record env rfl
  unfold eJennicModuleStateMachine
  dsimp only
  rw [called.field Daemon.eModuleState fun _ => rfl]
  split
  · exact checkComms_alike env (caseDetermineVersion_alike host env called)
  · exact checkComms_alike env (caseConfigureNetwork_alike host env called)
  · exact
      checkComms_alike env (caseConfigureSecurity_alike host env called)
  · exact checkComms_alike env (caseConfigureProfile_alike env called)
  · exact checkComms_alike env (caseStartModule_alike env called)
  · exact checkComms_alike env (caseConfigureFrontEnd_alike env called)
  · exact
      checkComms_alike env
        (caseDetermineConfiguration_alike env called bTimeout)
  · exact
      checkComms_alike env (caseDetermineAddress_alike env called bTimeout)
  · exact checkComms_alike env (caseActivityLED_alike env called)
  · have pinged := ping_alike env called false
    rw [pinged.eStatus]
    split
    · exact ⟨rfl, pinged.world⟩
    · exact checkComms_alike env pinged.world
  · exact checkComms_alike env called

end Functions

end SixLoWPANd.JennicModule
