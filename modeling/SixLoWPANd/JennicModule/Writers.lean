import SixLoWPANd.JennicModule.Daemon

/-!
# Messages to the module

One definition for each function that sends something to the module.  Beside
each stands its effect on the ledger, which is what the state machine is
analysed with; the log lines only go to the log.
-/

namespace SixLoWPANd.JennicModule

open SixLoWPANd.Foundation

/-! ## Numbers in log lines -/

/-- `%x`. -/
def formatHex (number : Nat) : String :=
  String.ofList (Nat.toDigits 16 number)

/-- `%0<width>x`. -/
def formatPaddedHex (width number : Nat) : String :=
  let digits := Nat.toDigits 16 number
  String.ofList (List.replicate (width - digits.length) '0' ++ digits)

def formatVersion (major minor revision : Nat) : String :=
  toString major ++ "." ++ toString minor ++ "." ++ toString revision

/-! ## Configuration -/

/-- The log lines in front of a CONFIG frame. -/
def logConfig (host : Host) (sConfig : ModuleConfigV10) (world : World) :
    World :=
  ((((((world.daemonLog logInfo "Writing configuration to Module").daemonLog
    logInfo ("Config 15.4 Region    : " ++
      toString sConfig.u8Region.toNat)).daemonLog
    logInfo ("Config 15.4 Channel   : " ++
      toString sConfig.u8Channel.toNat)).daemonLog
    logInfo ("Config 15.4 PAN ID    : 0x" ++
      formatHex (ntohs host.endian sConfig.u16PanID).toNat)).daemonLog
    logInfo ("Config JenNet ID      : 0x" ++
      formatHex (ntohl host.endian sConfig.u32NetworkID).toNat)).daemonLog
    logInfo ("Config 6LoWPAN Prefix : 0x" ++
      formatPaddedHex 8
        (ntohl host.endian sConfig.u64NetworkPrefixMSB).toNat ++
      formatPaddedHex 8
        (ntohl host.endian sConfig.u64NetworkPrefixLSB).toNat)).debugLog
    "Writing Module: Network Config"

def eJennicModuleWriteConfig (host : Host) (env : Env) (world : World) :
    ModuleStatus × World :=
  let daemon := world.daemon
  if !daemon.sFlags.uVersionKnown ||
      daemon.u32JennicDeviceVersion ≤ jennicVersion 1 0 255 then
    let sConfig : ModuleConfigV10 := .fill host.endian daemon.toSettings
    (.ok,
      (logConfig host sConfig world).writeMessage env .config
        (sConfig.toBytes host.endian))
  else if daemon.sFlags.uVersionKnown && daemon.atLeast 1 1 0 then
    let sConfig : ModuleConfigV11 := .fill host.endian daemon.toSettings
    (.ok,
      (logConfig host sConfig world).writeMessage env .config
        (sConfig.toBytes host.endian))
  else
    (.error,
      world.daemonLog logErr
        ("Cannot configure border router node version V" ++
          formatVersion
            ((daemon.u32JennicDeviceVersion >>> 16) &&& 0x0F).toNat
            ((daemon.u32JennicDeviceVersion >>> 8) &&& 0x0F).toNat
            ((daemon.u32JennicDeviceVersion >>> 0) &&& 0x0F).toNat))

theorem logConfig_toLedger
    (host : Host) (sConfig : ModuleConfigV10) (world : World) :
    (logConfig host sConfig world).toLedger = world.toLedger := by
  simp [logConfig]

/-- The two version tests leave no version out. -/
theorem atLeast_of_not_le (daemon : Daemon)
    (later :
      ¬ daemon.u32JennicDeviceVersion ≤ jennicVersion 1 0 255) :
    daemon.atLeast 1 1 0 = true := by
  have threshold : jennicVersion 1 0 255 = 0x100FF := by decide
  have next : jennicVersion 1 1 0 = 0x10100 := by decide
  rw [threshold, UInt32.le_iff_toNat_le] at later
  rw [Daemon.atLeast, next, decide_eq_true_eq, UInt32.le_iff_toNat_le]
  simp only [UInt32.reduceToNat] at later ⊢
  omega

/-- Whatever the version, one CONFIG frame is written and the error branch is
not taken. -/
theorem eJennicModuleWriteConfig_spec
    (host : Host) (env : Env) (world : World) :
    (eJennicModuleWriteConfig host env world).1 = .ok ∧
      (eJennicModuleWriteConfig host env world).2.toLedger =
        world.toLedger.record env.now
          (.wrote .config world.daemon.networkEncoding) := by
  unfold eJennicModuleWriteConfig
  by_cases old : (!world.daemon.sFlags.uVersionKnown ||
      world.daemon.u32JennicDeviceVersion ≤ jennicVersion 1 0 255) = true
  · simp [old, logConfig_toLedger, ModuleConfigV10.toBytes_fill]
  · have known : world.daemon.sFlags.uVersionKnown = true := by
      simp only [Bool.or_eq_true, not_or] at old
      simpa using old.1
    have later : ¬ world.daemon.u32JennicDeviceVersion ≤
        jennicVersion 1 0 255 := by
      simp only [Bool.or_eq_true, not_or, decide_eq_true_eq] at old
      exact old.2
    simp [known, later, atLeast_of_not_le _ later, logConfig_toLedger,
      ModuleConfigV10.toBytes_fill]

def eJennicModuleWriteSecurityConfig
    (host : Host) (env : Env) (world : World) : ModuleStatus × World :=
  let sSecurityConfig :=
    SecurityConfig.fill host.endian world.daemon.toSettings
  let world :=
    (world.daemonLog logInfo "Enabling network security:").daemonLog
      logInfo ("Network Key           : " ++
        host.inetNtop sSecurityConfig.sKey)
  let scheme := ntohl host.endian sSecurityConfig.eAuthScheme
  let world :=
    if scheme = authSchemeNone then
      world.daemonLog logInfo "Authorisation Scheme  : None"
    else if scheme = authSchemeRadiusPAP then
      world.daemonLog logInfo
        ("Authorisation Scheme  : RADIUS server at " ++
          host.inetNtop sSecurityConfig.uAuthSchemeData ++ " using PAP")
    else
      world
  let world := world.debugLog "Writing Module: Security Config"
  (.ok,
    world.writeMessage env .security
      (sSecurityConfig.toBytes host.endian))

@[simp]
theorem eJennicModuleWriteSecurityConfig_toLedger
    (host : Host) (env : Env) (world : World) :
    (eJennicModuleWriteSecurityConfig host env world).2.toLedger =
      world.toLedger.record env.now
        (.wrote .security world.daemon.securityEncoding) := by
  unfold eJennicModuleWriteSecurityConfig
  simp only [World.writeMessage_toLedger, World.debugLog_toLedger,
    SecurityConfig.toBytes_fill]
  split
  · rfl
  · split <;> rfl

/-! ## Messages without a payload -/

def eJennicModuleReset (env : Env) (world : World) :
    ModuleStatus × World :=
  (.ok,
    (world.debugLog "Writing Module: Reset").writeMessage env .reset [])

def JennicModuleGetIPv6Address (env : Env) (world : World) :
    ModuleStatus × World :=
  let world := world.debugLog "Writing Module: Get Address"
  (.ok,
    (world.update Daemon.forgetAddress).writeMessage env .addr [])

def eJennicModuleWriteVersionRequest (env : Env) (world : World) :
    ModuleStatus × World :=
  (.ok,
    (world.debugLog "Writing Module: Get Version").writeMessage env
      .versionRequest [])

def eJennicModuleWriteConfigRequest (env : Env) (world : World) :
    ModuleStatus × World :=
  (.ok,
    (world.debugLog "Writing Module: Get Config").writeMessage env
      .configRequest [])

@[simp]
theorem eJennicModuleReset_toLedger (env : Env) (world : World) :
    (eJennicModuleReset env world).2.toLedger =
      world.toLedger.record env.now (.wrote .reset []) := by
  simp [eJennicModuleReset]

@[simp]
theorem JennicModuleGetIPv6Address_toLedger (env : Env) (world : World) :
    (JennicModuleGetIPv6Address env world).2.toLedger =
      (world.toLedger.update Daemon.forgetAddress).record env.now
        (.wrote .addr []) := by
  simp [JennicModuleGetIPv6Address]

@[simp]
theorem eJennicModuleWriteVersionRequest_toLedger
    (env : Env) (world : World) :
    (eJennicModuleWriteVersionRequest env world).2.toLedger =
      world.toLedger.record env.now (.wrote .versionRequest []) := by
  simp [eJennicModuleWriteVersionRequest]

@[simp]
theorem eJennicModuleWriteConfigRequest_toLedger
    (env : Env) (world : World) :
    (eJennicModuleWriteConfigRequest env world).2.toLedger =
      world.toLedger.record env.now (.wrote .configRequest []) := by
  simp [eJennicModuleWriteConfigRequest]

/-- A packet from the TUN device; `u16Length` of the frame takes the low 16
bits of `u32Length`. -/
def eJennicModuleWriteIPv6 (env : Env) (u32Length : UInt32)
    (pu8Data : List UInt8) (world : World) : ModuleStatus × World :=
  (.ok,
    world.writeMessage env .ipv6
      (pu8Data.take u32Length.toUInt16.toNat))

@[simp]
theorem eJennicModuleWriteIPv6_toLedger
    (env : Env) (u32Length : UInt32) (pu8Data : List UInt8)
    (world : World) :
    (eJennicModuleWriteIPv6 env u32Length pu8Data world).2.toLedger =
      world.toLedger.record env.now
        (.wrote .ipv6 (pu8Data.take u32Length.toUInt16.toNat)) := rfl

/-! ## Start of the module -/

def eJennicModuleWriteActivityLED (env : Env) (world : World) :
    ModuleStatus × World :=
  if world.daemon.eActivityLED ≠ activityLEDNone then
    let u8ActivityLED := world.daemon.eActivityLED.toUInt8
    (.ok,
      (world.debugLog
        ("Writing Module: Activity LED: " ++
          toString u8ActivityLED.toNat)).writeMessage env .activityLED
        [u8ActivityLED])
  else
    (.ok, world)

def eJennicModuleWriteProfile (env : Env) (world : World) :
    ModuleStatus × World :=
  if world.daemon.atLeast 1 1 0 then
    (.ok,
      (world.debugLog
        ("Writing Module: Set JenNet Profile (" ++
          toString world.daemon.u8JenNetProfile.toNat ++
          ")")).writeMessage env .profile [world.daemon.u8JenNetProfile])
  else
    (.ok, world)

def eJennicModuleWriteFrontEndConfig (env : Env) (world : World) :
    ModuleStatus × World :=
  if world.daemon.atLeast 1 4 0 then
    let world :=
      (world.debugLog
        ("Writing Module: Set Frontend (" ++
          toString world.daemon.eRadioFrontEnd.code.toNat ++
          ")")).writeMessage env .setRadioFrontend
        [world.daemon.eRadioFrontEnd.code]
    if world.daemon.iAntennaDiversity ≠ 0 then
      (.ok,
        (world.debugLog
          "Writing Module: Enabling Antenna Diversity").writeMessage env
          .enableDiversity [])
    else
      (.ok, world)
  else
    (.ok, world)

def eJennicModuleRun (env : Env) (world : World) : ModuleStatus × World :=
  match world.daemon.eModuleMode with
  | .coordinator =>
      (.ok,
        (world.debugLog "Writing Module: Run Coordinator").writeMessage env
          .runCoordinator [])
  | .router =>
      (.ok,
        (world.debugLog "Writing Module: Run Router").writeMessage env
          .runRouter [])
  | .commissioning =>
      (.ok,
        (world.debugLog "Writing Module: Run Commisioning").writeMessage
          env .runCommissioning [])
  | .unknown value =>
      (.ok,
        world.daemonLog logErr
          ("Unknown module mode: " ++ toString value))

/-! ## Effects on the ledger that depend on the settings -/

namespace Ledger

/-- The frame with which a module is started in the mode, if there is one. -/
def runModule (ledger : Ledger) (now : Int) : Ledger :=
  match ledger.daemon.eModuleMode with
  | .coordinator => ledger.record now (.wrote .runCoordinator [])
  | .router => ledger.record now (.wrote .runRouter [])
  | .commissioning => ledger.record now (.wrote .runCommissioning [])
  | .unknown _ => ledger

@[simp]
theorem runModule_daemon (ledger : Ledger) (now : Int) :
    (ledger.runModule now).daemon = ledger.daemon := by
  unfold runModule
  split <;> rfl

/-- At most one frame is written, one of the three RUN frames. -/
theorem runModule_cases (ledger : Ledger) (now : Int) :
    ledger.runModule now = ledger ∨
      ∃ u8Type,
        (∀ time daemon,
          Entry.wroteRun ⟨.wrote u8Type [], time, daemon⟩ = true) ∧
        ledger.runModule now = ledger.record now (.wrote u8Type []) := by
  unfold runModule
  cases ledger.daemon.eModuleMode with
  | coordinator =>
      exact Or.inr ⟨.runCoordinator, fun _ _ => rfl, rfl⟩
  | router =>
      exact Or.inr ⟨.runRouter, fun _ _ => rfl, rfl⟩
  | commissioning =>
      exact Or.inr ⟨.runCommissioning, fun _ _ => rfl, rfl⟩
  | unknown value =>
      exact Or.inl rfl

end Ledger

@[simp]
theorem eJennicModuleRun_toLedger (env : Env) (world : World) :
    (eJennicModuleRun env world).2.toLedger =
      world.toLedger.runModule env.now := by
  unfold eJennicModuleRun Ledger.runModule
  split <;> simp

end SixLoWPANd.JennicModule
