import SixLoWPANd.JennicModule.StateMachine

/-!
# Messages from the module

One definition for each handler, over the memory the message lies in.
`Handling` lists what a handler does to the ledger, and
`handleMessage_handling` shows that the dispatcher does nothing else.
-/

namespace SixLoWPANd.JennicModule

open SixLoWPANd.Foundation

/-- What a handler leaves: its status, the message memory and the world. -/
structure Outcome where
  eStatus : ModuleStatus
  pu8Data : TracedMemory UInt8
  world : World

/-! ## What messages change in the daemon -/

namespace Daemon

/-- The version variables after a report of three bytes. -/
def reportVersion (major minor revision : UInt8) (daemon : Daemon) :
    Daemon :=
  let version :=
    jennicVersion major.toUInt32 minor.toUInt32 revision.toUInt32
  { daemon with
    u32JennicDeviceVersion := version
    sFlags :=
      { daemon.sFlags with
        uVersionKnown := true
        uSupportsPing :=
          if jennicVersion 1 1 0 ≤ version then true
          else daemon.sFlags.uSupportsPing } }

/-- The variables after an accepted configuration. -/
def receiveConfig (endian : Endian) (psConfig : ModuleConfigV11)
    (daemon : Daemon) : Daemon :=
  { daemon with
    toSettings := daemon.toSettings.receiveNetwork endian psConfig
    sFlags := { daemon.sFlags with uConfigKnown := true } }

/-- The variables after an accepted security configuration. -/
def receiveSecurity (sKey : In6Addr) (daemon : Daemon) : Daemon :=
  { daemon with iSecureNetwork := 1, sSecurityKey := sKey }

def learnAddress (daemon : Daemon) : Daemon :=
  { daemon with sFlags := { daemon.sFlags with uAddressKnown := true } }

end Daemon

/-! ## Handlers -/

def eTunDeviceWritePacket (env : Env) (u32Length : UInt32)
    (pu8Data : TracedMemory UInt8) (world : World) : Bool × Outcome :=
  let packet := pu8Data.loadRange 0 u32Length.toNat
  let world :=
    { world with tun := (packet.1, env.tunWrite) :: world.tun }
  -- the signed result is compared with the unsigned length
  (env.tunWrite % 4294967296 = u32Length.toNat,
    ⟨.ok, packet.2, world⟩)

def eJennicModuleProcessMessageIPv6 (env : Env) (u32Length : UInt32)
    (pu8Data : TracedMemory UInt8) (world : World) : Outcome :=
  let written := eTunDeviceWritePacket env u32Length pu8Data world
  if !written.1 then
    { written.2 with
      eStatus := .error
      world := written.2.world.daemonLog logErr
        "Error writing to tun device" }
  else
    written.2

def eJennicModuleProcessMessageVersion
    (pu8Data : TracedMemory UInt8) (world : World) : Outcome :=
  let major := pu8Data.load 0
  let minor := major.2.load 1
  let revision := minor.2.load 2
  let world :=
    (world.update
      (Daemon.reportVersion major.1 minor.1 revision.1)).daemonLog logInfo
        ("Connected to Border router V" ++
          formatVersion major.1.toNat minor.1.toNat revision.1.toNat)
  ⟨.ok, revision.2, world⟩

/-- The log lines behind the assignments of a received configuration. -/
def logReceivedConfig (world : World) : World :=
  (((((world.daemonLog logInfo
    "Received configuration from Module").daemonLog
    logInfo ("Config 15.4 Region    : " ++
      toString world.daemon.eRegion.toNat)).daemonLog
    logInfo ("Config 15.4 Channel   : " ++
      toString world.daemon.eChannel.toNat)).daemonLog
    logInfo ("Config 15.4 PAN ID    : 0x" ++
      formatHex world.daemon.u16PanID.toNat)).daemonLog
    logInfo ("Config JenNet ID      : 0x" ++
      formatHex world.daemon.u32UserData.toNat)).daemonLog
    logInfo ("Config 6LoWPAN Prefix : 0x" ++
      formatPaddedHex 16 world.daemon.u64NetworkPrefix.toNat)

/-- Start the configuration-changed callback, if there is one, in a thread of
its own. -/
def notifyConfigChanged (env : Env) (iConfigChanged : Bool)
    (world : World) : World :=
  if world.daemon.vprConfigChanged && iConfigChanged then
    let world :=
      { world with threads := env.pthreadCreate :: world.threads }
    if env.pthreadCreate ≠ 0 then
      world.daemonLog logErr
        "Error starting configuration changed notification thread\n"
    else
      world
  else
    world

def eJennicModuleProcessMessageConfig
    (host : Host) (env : Env) (u32Length : UInt32)
    (pu8Data : TracedMemory UInt8) (world : World) : Outcome :=
  if u32Length = 3 then
    eJennicModuleProcessMessageVersion pu8Data world
  else if world.daemon.atLeast 1 1 0 then
    let bytes := pu8Data.loadRange 0 16
    let psConfig := ModuleConfigV10.ofCells host.endian pu8Data.cells
    let iConfigChanged :=
      world.daemon.toSettings.configChanged host.endian psConfig
    let world :=
      logReceivedConfig
        (world.update (Daemon.receiveConfig host.endian psConfig))
    ⟨.ok, bytes.2, notifyConfigChanged env iConfigChanged world⟩
  else
    ⟨.ok, pu8Data, world⟩

def eJennicModuleProcessMessageSecurity
    (host : Host) (pu8Data : TracedMemory UInt8) (world : World) :
    Outcome :=
  if world.daemon.atLeast 1 1 0 then
    let sKey := In6Addr.load pu8Data 0
    let world :=
      ((world.update (Daemon.receiveSecurity sKey.1)).daemonLog logInfo
        "Received security configuration from Module").daemonLog logInfo
          ("Security key: " ++ host.inetNtop sKey.1)
    ⟨.ok, sKey.2, world⟩
  else
    ⟨.ok, pu8Data, world⟩

def eJennicModuleProcessMessageConfigRequest (env : Env)
    (pu8Data : TracedMemory UInt8) (world : World) : Outcome :=
  ⟨.ok, pu8Data,
    (world.daemonLog logInfo "Configuration request from module").assign
      env .configureNetwork⟩

/-- A step on the address file; the boolean is false after an error, which the
handler logs and returns. -/
def writeAddressFile (host : Host) (env : Env) (buffer : String)
    (world : World) : Bool × World :=
  let perform (operation : FileOperation) (world : World) : World :=
    { world with addressFile := operation :: world.addressFile }
  match env.openFile with
  | .error text =>
      (false,
        world.daemonLog logErr
          ("Error storing Module address: open (" ++ text ++ ")"))
  | .ok _ =>
      let world :=
        perform (.opened ("/tmp/6LoWPANd." ++ host.cpTunDevice)) world
      match env.writeAddress with
      | .error text =>
          (false,
            perform .closed
              (world.daemonLog logErr
                ("Error storing Module address: write (" ++ text ++ ")")))
      | .ok accepted =>
          let world := perform (.wrote buffer accepted) world
          match env.writeNewline with
          | .error text =>
              (false,
                perform .closed
                  (world.daemonLog logErr
                    ("Error storing Module address: write (" ++ text ++
                      ")")))
          | .ok accepted =>
              (true, perform .closed (perform (.wrote "\n" accepted) world))

/-- `ZC_RegisterService`, if the program is compiled with it. -/
def registerService (host : Host) (buffer : String) (world : World) :
    World :=
  if host.useZeroconf then
    { world with
      registrations :=
        ⟨"JIP Border Router", "BR_" ++ host.cpTunDevice, buffer⟩ ::
          world.registrations }
  else
    world

def eJennicModuleProcessMessageIPv6Address (host : Host) (env : Env)
    (pu8Data : TracedMemory UInt8) (world : World) : Outcome :=
  let address := In6Addr.load pu8Data 0
  let buffer := host.inetNtop address.1
  let world := world.daemonLog logInfo ("Module address: " ++ buffer)
  let stored :=
    writeAddressFile host env buffer (registerService host buffer world)
  if stored.1 then
    ⟨.ok, address.2, stored.2.update Daemon.learnAddress⟩
  else
    ⟨.error, address.2, stored.2⟩

/-- How many cells behind the end of a message the scan for its terminator is
followed. -/
def scanLimit : Nat := 65536

/-- The priority of a logged message, at most `LOG_DEBUG`. -/
def logPriority (u8Priority : UInt8) : Nat :=
  if u8Priority.toNat > logDebug then logDebug else u8Priority.toNat

def eJennicModuleProcessMessageLog (u32Length : UInt32)
    (pu8Data : TracedMemory UInt8) (world : World) : Outcome :=
  let first := pu8Data.load 0
  -- the terminator, then the string from the second cell on
  let pu8Data := first.2.store u32Length.toNat 0
  let text :=
    TracedMemory.loadUntil (· == 0) (u32Length.toNat + scanLimit) 1 pu8Data
  ⟨.ok, text.2,
    world.daemonLog (logPriority first.1)
      ("Module: " ++
        String.ofList (text.1.map fun u8Data => Char.ofNat u8Data.toNat))⟩

/-- The `switch` of `eJennicModuleProcessMessage`. -/
def handleMessage (host : Host) (env : Env) (u8Message : UInt8)
    (u32Length : UInt32) (pu8Data : TracedMemory UInt8) (world : World) :
    Outcome :=
  if u8Message = SLMsgType.ipv6.code then
    eJennicModuleProcessMessageIPv6 env u32Length pu8Data world
  else if u8Message = SLMsgType.config.code then
    eJennicModuleProcessMessageConfig host env u32Length pu8Data world
  else if u8Message = SLMsgType.security.code then
    eJennicModuleProcessMessageSecurity host pu8Data world
  else if u8Message = SLMsgType.addr.code then
    eJennicModuleProcessMessageIPv6Address host env pu8Data world
  else if u8Message = SLMsgType.configRequest.code then
    eJennicModuleProcessMessageConfigRequest env pu8Data world
  else if u8Message = SLMsgType.log.code then
    eJennicModuleProcessMessageLog u32Length pu8Data world
  else if u8Message = SLMsgType.version.code then
    eJennicModuleProcessMessageVersion pu8Data world
  else if u8Message = SLMsgType.ping.code then
    let ping := eJennicModulePing env true world
    ⟨ping.1, pu8Data, ping.2⟩
  else
    ⟨.error, pu8Data, world⟩

/-- What each handler has for the messages it is called for, the dispatcher
has. -/
theorem handleMessage_cases
    {motive : (TracedMemory UInt8 → World → Outcome) → Prop}
    (host : Host) (env : Env) (u8Message : UInt8) (u32Length : UInt32)
    (ipv6 : u8Message = SLMsgType.ipv6.code →
      motive (eJennicModuleProcessMessageIPv6 env u32Length))
    (config : u8Message = SLMsgType.config.code →
      motive (eJennicModuleProcessMessageConfig host env u32Length))
    (security : u8Message = SLMsgType.security.code →
      motive (eJennicModuleProcessMessageSecurity host))
    (addr : u8Message = SLMsgType.addr.code →
      motive (eJennicModuleProcessMessageIPv6Address host env))
    (configRequest : u8Message = SLMsgType.configRequest.code →
      motive (eJennicModuleProcessMessageConfigRequest env))
    (log : u8Message = SLMsgType.log.code →
      motive (eJennicModuleProcessMessageLog u32Length))
    (version : u8Message = SLMsgType.version.code →
      motive eJennicModuleProcessMessageVersion)
    (ping : u8Message = SLMsgType.ping.code →
      motive fun pu8Data world =>
        ⟨(eJennicModulePing env true world).1, pu8Data,
          (eJennicModulePing env true world).2⟩)
    (unknown :
      u8Message ≠ SLMsgType.ipv6.code →
      u8Message ≠ SLMsgType.config.code →
      u8Message ≠ SLMsgType.security.code →
      u8Message ≠ SLMsgType.addr.code →
      u8Message ≠ SLMsgType.configRequest.code →
      u8Message ≠ SLMsgType.version.code →
      motive fun pu8Data world => ⟨.error, pu8Data, world⟩) :
    motive (handleMessage host env u8Message u32Length) := by
  have dispatched :
      handleMessage host env u8Message u32Length =
        if u8Message = SLMsgType.ipv6.code then
          eJennicModuleProcessMessageIPv6 env u32Length
        else if u8Message = SLMsgType.config.code then
          eJennicModuleProcessMessageConfig host env u32Length
        else if u8Message = SLMsgType.security.code then
          eJennicModuleProcessMessageSecurity host
        else if u8Message = SLMsgType.addr.code then
          eJennicModuleProcessMessageIPv6Address host env
        else if u8Message = SLMsgType.configRequest.code then
          eJennicModuleProcessMessageConfigRequest env
        else if u8Message = SLMsgType.log.code then
          eJennicModuleProcessMessageLog u32Length
        else if u8Message = SLMsgType.version.code then
          eJennicModuleProcessMessageVersion
        else if u8Message = SLMsgType.ping.code then
          fun pu8Data world =>
            ⟨(eJennicModulePing env true world).1, pu8Data,
              (eJennicModulePing env true world).2⟩
        else
          fun pu8Data world => ⟨.error, pu8Data, world⟩ := by
    funext pu8Data world
    simp only [ite_apply]
    rfl
  rw [dispatched]
  refine iteInduction ipv6 fun notIPv6 => ?_
  refine iteInduction config fun notConfig => ?_
  refine iteInduction security fun notSecurity => ?_
  refine iteInduction addr fun notAddr => ?_
  refine iteInduction configRequest fun notConfigRequest => ?_
  refine iteInduction log fun _ => ?_
  refine iteInduction version fun notVersion => ?_
  refine iteInduction ping fun _ => ?_
  exact
    unknown notIPv6 notConfig notSecurity notAddr notConfigRequest
      notVersion

/-- The record of a handled message and the time of the last successful
communication. -/
def Ledger.complete (ledger : Ledger) (now : Int) (u8Message : UInt8)
    (u32Length : UInt32) (eStatus : ModuleStatus) : Ledger :=
  (ledger.record now (.handled u8Message u32Length eStatus)).update
    fun daemon => { daemon with sLastSuccessfulComms := now }

def eJennicModuleProcessMessage (host : Host) (env : Env)
    (u8Message : UInt8) (u32Length : UInt32)
    (pu8Data : TracedMemory UInt8) (world : World) : Outcome :=
  let handled :=
    handleMessage host env u8Message u32Length pu8Data world
  let world :=
    { handled.world with
      toLedger := handled.world.toLedger.complete env.now u8Message
        u32Length handled.eStatus }
  if handled.eStatus = .ok then
    let turn := eJennicModuleStateMachine host env false world
    ⟨turn.1, handled.pu8Data, turn.2⟩
  else
    { handled with world := world }

/-! ## Effects on the ledger -/

/-- A message whose handler does not touch the ledger. -/
def detached (u8Message : UInt8) : Prop :=
  u8Message ≠ SLMsgType.version.code ∧
    u8Message ≠ SLMsgType.config.code ∧
    u8Message ≠ SLMsgType.security.code ∧
    u8Message ≠ SLMsgType.addr.code ∧
    u8Message ≠ SLMsgType.configRequest.code

instance (u8Message : UInt8) : Decidable (detached u8Message) :=
  inferInstanceAs (Decidable (_ ∧ _))

def carriesVersion (u8Message : UInt8) (u32Length : UInt32) : Prop :=
  u8Message = SLMsgType.version.code ∨
    (u8Message = SLMsgType.config.code ∧ u32Length = 3)

instance (u8Message : UInt8) (u32Length : UInt32) :
    Decidable (carriesVersion u8Message u32Length) :=
  inferInstanceAs (Decidable (_ ∨ _))

/-- The message is accepted as a configuration. -/
def acceptedConfig (daemon : Daemon) (u8Message : UInt8)
    (u32Length : UInt32) : Prop :=
  u8Message = SLMsgType.config.code ∧ u32Length ≠ 3 ∧
    daemon.atLeast 1 1 0 = true

instance (daemon : Daemon) (u8Message : UInt8) (u32Length : UInt32) :
    Decidable (acceptedConfig daemon u8Message u32Length) :=
  inferInstanceAs (Decidable (_ ∧ _))

/-- What the handler of a message in `cells` does to the ledger. -/
inductive Handling (host : Host) (now : Int) (u8Message : UInt8)
    (u32Length : UInt32) (cells : Nat → UInt8) :
    ModuleStatus → Ledger → Ledger → Prop where
  | detached {ledger : Ledger} {eStatus : ModuleStatus}
      (isDetached : detached u8Message) :
      Handling host now u8Message u32Length cells eStatus ledger ledger
  | version {ledger : Ledger}
      (reported : carriesVersion u8Message u32Length) :
      Handling host now u8Message u32Length cells .ok ledger
        (ledger.update
          (Daemon.reportVersion (cells 0) (cells 1) (cells 2)))
  | config {ledger : Ledger}
      (accepted : acceptedConfig ledger.daemon u8Message u32Length) :
      Handling host now u8Message u32Length cells .ok ledger
        (ledger.update
          (Daemon.receiveConfig host.endian
            (ModuleConfigV10.ofCells host.endian cells)))
  | configIgnored {ledger : Ledger}
      (isConfig : u8Message = SLMsgType.config.code)
      (notShort : u32Length ≠ 3)
      (unsupported : ledger.daemon.atLeast 1 1 0 = false) :
      Handling host now u8Message u32Length cells .ok ledger ledger
  | security {ledger : Ledger}
      (isSecurity : u8Message = SLMsgType.security.code)
      (supported : ledger.daemon.atLeast 1 1 0 = true) :
      Handling host now u8Message u32Length cells .ok ledger
        (ledger.update
          (Daemon.receiveSecurity (In6Addr.ofCells cells 0)))
  | securityIgnored {ledger : Ledger}
      (isSecurity : u8Message = SLMsgType.security.code)
      (unsupported : ledger.daemon.atLeast 1 1 0 = false) :
      Handling host now u8Message u32Length cells .ok ledger ledger
  | configRequest {ledger : Ledger}
      (isConfigRequest : u8Message = SLMsgType.configRequest.code) :
      Handling host now u8Message u32Length cells .ok ledger
        (ledger.assign now .configureNetwork)
  | addressStored {ledger : Ledger}
      (isAddr : u8Message = SLMsgType.addr.code) :
      Handling host now u8Message u32Length cells .ok ledger
        (ledger.update Daemon.learnAddress)
  | addressNotStored {ledger : Ledger}
      (isAddr : u8Message = SLMsgType.addr.code) :
      Handling host now u8Message u32Length cells .error ledger ledger

/-! ### Inversion for the messages that change the settings or the version -/

theorem handling_version {host : Host} {now : Int} {u8Message : UInt8}
    {u32Length : UInt32} {cells : Nat → UInt8} {eStatus : ModuleStatus}
    {before after : Ledger}
    (handling : Handling host now u8Message u32Length cells eStatus
      before after)
    (reported : carriesVersion u8Message u32Length) :
    after =
      before.update
        (Daemon.reportVersion (cells 0) (cells 1) (cells 2)) := by
  cases handling with
  | version =>
      rfl
  | detached isDetached =>
      rcases reported with isVersion | short
      · exact absurd isVersion isDetached.1
      · exact absurd short.1 isDetached.2.1
  | config accepted =>
      rcases reported with isVersion | short
      · exact absurd (isVersion.symm.trans accepted.1) (by decide)
      · exact absurd short.2 accepted.2.1
  | configIgnored isConfig notShort =>
      rcases reported with isVersion | short
      · exact absurd (isVersion.symm.trans isConfig) (by decide)
      · exact absurd short.2 notShort
  | security isOther | securityIgnored isOther | configRequest isOther
  | addressStored isOther | addressNotStored isOther =>
      rcases reported with isVersion | short
      · exact absurd (isVersion.symm.trans isOther) (by decide)
      · exact absurd (short.1.symm.trans isOther) (by decide)

theorem handling_config {host : Host} {now : Int} {u8Message : UInt8}
    {u32Length : UInt32} {cells : Nat → UInt8} {eStatus : ModuleStatus}
    {before after : Ledger}
    (handling : Handling host now u8Message u32Length cells eStatus
      before after)
    (accepted : acceptedConfig before.daemon u8Message u32Length) :
    after =
      before.update
        (Daemon.receiveConfig host.endian
          (ModuleConfigV10.ofCells host.endian cells)) := by
  obtain ⟨isConfig, notVersion, supported⟩ := accepted
  cases handling with
  | config =>
      rfl
  | detached isDetached =>
      exact absurd isConfig isDetached.2.1
  | version reported =>
      rcases reported with isVersion | short
      · exact absurd (isConfig.symm.trans isVersion) (by decide)
      · exact absurd short.2 notVersion
  | configIgnored _ _ unsupported =>
      simp [supported] at unsupported
  | security isSecurity | securityIgnored isSecurity =>
      exact absurd (isConfig.symm.trans isSecurity) (by decide)
  | configRequest isConfigRequest =>
      exact absurd (isConfig.symm.trans isConfigRequest) (by decide)
  | addressStored isAddr | addressNotStored isAddr =>
      exact absurd (isConfig.symm.trans isAddr) (by decide)

theorem handling_security {host : Host} {now : Int} {u32Length : UInt32}
    {cells : Nat → UInt8} {eStatus : ModuleStatus} {before after : Ledger}
    (handling : Handling host now SLMsgType.security.code u32Length cells
      eStatus before after)
    (supported : before.daemon.atLeast 1 1 0 = true) :
    after =
      before.update (Daemon.receiveSecurity (In6Addr.ofCells cells 0)) := by
  cases handling with
  | security =>
      rfl
  | detached isDetached =>
      exact absurd rfl isDetached.2.2.1
  | version reported =>
      rcases reported with isVersion | short
      · exact absurd isVersion (by decide)
      · exact absurd short.1 (by decide)
  | config accepted =>
      exact absurd accepted.1 (by decide)
  | configIgnored isConfig =>
      exact absurd isConfig (by decide)
  | securityIgnored _ unsupported =>
      simp [supported] at unsupported
  | configRequest isConfigRequest =>
      exact absurd isConfigRequest (by decide)
  | addressStored isAddr | addressNotStored isAddr =>
      exact absurd isAddr (by decide)

theorem handling_configRequest {host : Host} {now : Int}
    {u32Length : UInt32} {cells : Nat → UInt8} {eStatus : ModuleStatus}
    {before after : Ledger}
    (handling : Handling host now SLMsgType.configRequest.code u32Length
      cells eStatus before after) :
    after = before.assign now .configureNetwork := by
  cases handling with
  | configRequest =>
      rfl
  | detached isDetached =>
      exact absurd rfl isDetached.2.2.2.2
  | version reported =>
      rcases reported with isVersion | short
      · exact absurd isVersion (by decide)
      · exact absurd short.1 (by decide)
  | config accepted =>
      exact absurd accepted.1 (by decide)
  | configIgnored isOther | security isOther | securityIgnored isOther
  | addressStored isOther | addressNotStored isOther =>
      exact absurd isOther (by decide)

section Effects

variable (host : Host) (env : Env) (u8Message : UInt8) (u32Length : UInt32)
variable (pu8Data : TracedMemory UInt8) (world : World)

@[simp]
theorem eTunDeviceWritePacket_toLedger :
    (eTunDeviceWritePacket env u32Length pu8Data world).2.world.toLedger =
      world.toLedger := rfl

@[simp]
theorem processMessageIPv6_toLedger :
    (eJennicModuleProcessMessageIPv6 env u32Length pu8Data
      world).world.toLedger = world.toLedger := by
  unfold eJennicModuleProcessMessageIPv6
  dsimp only
  split <;> simp

@[simp]
theorem processMessageVersion_toLedger :
    (eJennicModuleProcessMessageVersion pu8Data world).world.toLedger =
      world.toLedger.update
        (Daemon.reportVersion (pu8Data.cells 0) (pu8Data.cells 1)
          (pu8Data.cells 2)) := rfl

@[simp]
theorem processMessageVersion_eStatus :
    (eJennicModuleProcessMessageVersion pu8Data world).eStatus = .ok :=
  rfl

@[simp]
theorem logReceivedConfig_toLedger :
    (logReceivedConfig world).toLedger = world.toLedger := by
  simp [logReceivedConfig]

@[simp]
theorem notifyConfigChanged_toLedger (iConfigChanged : Bool) :
    (notifyConfigChanged env iConfigChanged world).toLedger =
      world.toLedger := by
  unfold notifyConfigChanged
  split
  · dsimp only
    split <;> rfl
  · rfl

@[simp]
theorem registerService_toLedger (buffer : String) :
    (registerService host buffer world).toLedger = world.toLedger := by
  unfold registerService
  split <;> rfl

@[simp]
theorem writeAddressFile_toLedger (buffer : String) :
    (writeAddressFile host env buffer world).2.toLedger =
      world.toLedger := by
  unfold writeAddressFile
  cases env.openFile with
  | error text =>
      rfl
  | ok _ =>
      cases env.writeAddress with
      | error text =>
          rfl
      | ok accepted =>
          cases env.writeNewline with
          | error text =>
              rfl
          | ok accepted =>
              rfl

@[simp]
theorem processMessageLog_toLedger :
    (eJennicModuleProcessMessageLog u32Length pu8Data
      world).world.toLedger = world.toLedger := rfl

theorem processMessageConfig_handling
    (isConfig : u8Message = SLMsgType.config.code) :
    Handling host env.now u8Message u32Length pu8Data.cells
      (eJennicModuleProcessMessageConfig host env u32Length pu8Data
        world).eStatus
      world.toLedger
      (eJennicModuleProcessMessageConfig host env u32Length pu8Data
        world).world.toLedger := by
  unfold eJennicModuleProcessMessageConfig
  by_cases short : u32Length = 3
  · simpa [short] using
      Handling.version (Or.inr ⟨isConfig, short⟩)
  · by_cases supported : world.daemon.atLeast 1 1 0 = true
    · simpa [short, supported] using
        Handling.config ⟨isConfig, short, supported⟩
    · simpa [short, supported] using
        Handling.configIgnored isConfig short (by simpa using supported)

theorem processMessageSecurity_handling
    (isSecurity : u8Message = SLMsgType.security.code) :
    Handling host env.now u8Message u32Length pu8Data.cells
      (eJennicModuleProcessMessageSecurity host pu8Data world).eStatus
      world.toLedger
      (eJennicModuleProcessMessageSecurity host pu8Data
        world).world.toLedger := by
  unfold eJennicModuleProcessMessageSecurity
  by_cases supported : world.daemon.atLeast 1 1 0 = true
  · simpa [supported] using Handling.security isSecurity supported
  · simpa [supported] using
      Handling.securityIgnored isSecurity (by simpa using supported)

theorem processMessageIPv6Address_handling
    (isAddr : u8Message = SLMsgType.addr.code) :
    Handling host env.now u8Message u32Length pu8Data.cells
      (eJennicModuleProcessMessageIPv6Address host env pu8Data
        world).eStatus
      world.toLedger
      (eJennicModuleProcessMessageIPv6Address host env pu8Data
        world).world.toLedger := by
  unfold eJennicModuleProcessMessageIPv6Address
  dsimp only
  split
  · simpa using Handling.addressStored isAddr
  · simpa using Handling.addressNotStored isAddr

theorem ping_received_toLedger :
    (eJennicModulePing env true world).2.toLedger = world.toLedger := by
  unfold eJennicModulePing
  split <;> simp

/-- The dispatcher does to the ledger what `Handling` lists. -/
theorem handleMessage_handling :
    Handling host env.now u8Message u32Length pu8Data.cells
      (handleMessage host env u8Message u32Length pu8Data world).eStatus
      world.toLedger
      (handleMessage host env u8Message u32Length pu8Data
        world).world.toLedger := by
  apply handleMessage_cases (motive := fun handler =>
    Handling host env.now u8Message u32Length pu8Data.cells
      (handler pu8Data world).eStatus world.toLedger
      (handler pu8Data world).world.toLedger)
  case ipv6 =>
    intro isIPv6
    rw [processMessageIPv6_toLedger]
    exact .detached (by subst isIPv6; decide)
  case config =>
    exact
      processMessageConfig_handling host env u8Message u32Length pu8Data
        world
  case security =>
    exact
      processMessageSecurity_handling host env u8Message u32Length
        pu8Data world
  case addr =>
    exact
      processMessageIPv6Address_handling host env u8Message u32Length
        pu8Data world
  case configRequest =>
    exact fun isConfigRequest => .configRequest isConfigRequest
  case log =>
    exact fun isLog => .detached (by subst isLog; decide)
  case version =>
    exact fun isVersion => .version (Or.inl isVersion)
  case ping =>
    intro isPing
    dsimp only
    rw [ping_received_toLedger]
    exact .detached (by subst isPing; decide)
  case unknown =>
    intro _ notConfig notSecurity notAddr notRequest notVersion
    exact
      .detached ⟨notVersion, notConfig, notSecurity, notAddr, notRequest⟩

/-- A processed message is handled and completed; after a success the state
machine makes a turn. -/
theorem processMessage_turn :
    ∃ eStatus handled,
      Handling host env.now u8Message u32Length pu8Data.cells eStatus
        world.toLedger handled ∧
      (eStatus ≠ .ok ∧
          (eJennicModuleProcessMessage host env u8Message u32Length
            pu8Data world).world.toLedger =
            handled.complete env.now u8Message u32Length eStatus ∨
        eStatus = .ok ∧
          Turn env.now false
            ((handled.complete env.now u8Message u32Length .ok).record
              env.now (.called false))
            (eJennicModuleProcessMessage host env u8Message u32Length
              pu8Data world).world.toLedger) := by
  refine ⟨_, _, handleMessage_handling host env u8Message u32Length
    pu8Data world, ?_⟩
  unfold eJennicModuleProcessMessage
  generalize handleMessage host env u8Message u32Length pu8Data world =
    handled
  by_cases accepted : handled.eStatus = .ok
  · right
    refine ⟨accepted, ?_⟩
    simpa [accepted] using
      stateMachine_turn host env false
        { handled.world with
          toLedger := handled.world.toLedger.complete env.now u8Message
            u32Length .ok }
  · left
    exact ⟨accepted, by simp [accepted]⟩

theorem processMessage_cases :
    ∃ eStatus handled,
      Handling host env.now u8Message u32Length pu8Data.cells eStatus
        world.toLedger handled ∧
      (eStatus ≠ .ok ∧
          (eJennicModuleProcessMessage host env u8Message u32Length
            pu8Data world).world.toLedger =
            handled.complete env.now u8Message u32Length eStatus ∨
        eStatus = .ok ∧
          Transitions env.now false
            ((handled.complete env.now u8Message u32Length .ok).record
              env.now (.called false))
            (eJennicModuleProcessMessage host env u8Message u32Length
              pu8Data world).world.toLedger) := by
  obtain ⟨eStatus, handled, handling, rejected | accepted⟩ :=
    processMessage_turn host env u8Message u32Length pu8Data world
  · exact ⟨eStatus, handled, handling, Or.inl rejected⟩
  · exact
      ⟨eStatus, handled, handling,
        Or.inr ⟨accepted.1, accepted.2.transitions⟩⟩

end Effects

end SixLoWPANd.JennicModule
