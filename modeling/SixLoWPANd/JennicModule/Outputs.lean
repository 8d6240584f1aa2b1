import SixLoWPANd.JennicModule.Handlers

/-!
# Outputs of the state machine

`OnlyLogs` compares two worlds: nothing but the ledger and the log differs, and
the log has only grown.  Each case of the state machine relates the worlds
before and behind it in this way, so packets, files, registrations and threads
are outputs of the message handlers alone.
-/

namespace SixLoWPANd.JennicModule

open SixLoWPANd.Foundation

namespace World

/-- The world `after` differs from `before` in the ledger and in newer log
lines only. -/
structure OnlyLogs (before after : World) : Prop where
  syslog : before.syslog <:+ after.syslog
  tun : after.tun = before.tun
  addressFile : after.addressFile = before.addressFile
  registrations : after.registrations = before.registrations
  threads : after.threads = before.threads

namespace OnlyLogs

theorem refl (world : World) : OnlyLogs world world :=
  ⟨List.suffix_refl _, rfl, rfl, rfl, rfl⟩

theorem trans {first second third : World}
    (earlier : OnlyLogs first second) (later : OnlyLogs second third) :
    OnlyLogs first third where
  syslog := earlier.syslog.trans later.syslog
  tun := later.tun.trans earlier.tun
  addressFile := later.addressFile.trans earlier.addressFile
  registrations := later.registrations.trans earlier.registrations
  threads := later.threads.trans earlier.threads

/-- Nothing is logged when only the ledger changes. -/
theorem ofLedger (world : World) (ledger : Ledger) :
    OnlyLogs world { world with toLedger := ledger } :=
  ⟨List.suffix_refl _, rfl, rfl, rfl, rfl⟩

theorem daemonLog (world : World) (priority : Nat) (text : String) :
    OnlyLogs world (world.daemonLog priority text) :=
  ⟨List.suffix_cons _ _, rfl, rfl, rfl, rfl⟩

theorem debugLog (world : World) (text : String) :
    OnlyLogs world (world.debugLog text) := by
  unfold World.debugLog
  split
  · exact daemonLog world _ _
  · exact refl world

theorem debugLogIf (world : World) (condition : Bool) (text : String) :
    OnlyLogs world (world.debugLogIf condition text) := by
  cases condition with
  | true =>
      exact debugLog world text
  | false =>
      exact refl world

variable {start world : World}

theorem thenDaemonLog (logs : OnlyLogs start world) (priority : Nat)
    (text : String) : OnlyLogs start (world.daemonLog priority text) :=
  logs.trans (daemonLog world priority text)

theorem thenDebugLog (logs : OnlyLogs start world) (text : String) :
    OnlyLogs start (world.debugLog text) :=
  logs.trans (debugLog world text)

theorem thenWrite (logs : OnlyLogs start world) (env : Env)
    (u8Type : SLMsgType) (payload : List UInt8) :
    OnlyLogs start (world.writeMessage env u8Type payload) :=
  logs.trans (ofLedger world _)

theorem thenUpdate (logs : OnlyLogs start world)
    (change : Daemon → Daemon) : OnlyLogs start (world.update change) :=
  logs.trans (ofLedger world _)

theorem thenAssign (logs : OnlyLogs start world) (env : Env)
    (eModuleState : ModuleState) :
    OnlyLogs start (world.assign env eModuleState) :=
  logs.trans (ofLedger world _)

end OnlyLogs

end World

section Outputs

open World

variable (host : Host) (env : Env) (bTimeout : Bool) (world : World)

theorem logConfig_onlyLogs (sConfig : ModuleConfigV10) :
    OnlyLogs world (logConfig host sConfig world) :=
  ((((((OnlyLogs.daemonLog world _ _).thenDaemonLog _ _).thenDaemonLog _
    _).thenDaemonLog _ _).thenDaemonLog _ _).thenDaemonLog _
      _).thenDebugLog _

theorem writeConfig_onlyLogs :
    OnlyLogs world (eJennicModuleWriteConfig host env world).2 := by
  unfold eJennicModuleWriteConfig
  dsimp only
  split
  · exact (logConfig_onlyLogs host world _).thenWrite env _ _
  · split
    · exact (logConfig_onlyLogs host world _).thenWrite env _ _
    · exact .daemonLog world _ _

theorem writeSecurityConfig_onlyLogs :
    OnlyLogs world
      (eJennicModuleWriteSecurityConfig host env world).2 := by
  unfold eJennicModuleWriteSecurityConfig
  dsimp only
  have key := (OnlyLogs.daemonLog world logInfo
    "Enabling network security:").thenDaemonLog logInfo
      ("Network Key           : " ++ host.inetNtop
        (SecurityConfig.fill host.endian world.daemon.toSettings).sKey)
  split
  · exact ((key.thenDaemonLog _ _).thenDebugLog _).thenWrite env _ _
  · split
    · exact ((key.thenDaemonLog _ _).thenDebugLog _).thenWrite env _ _
    · exact (key.thenDebugLog _).thenWrite env _ _

theorem caseActivityLED_onlyLogs :
    OnlyLogs world (caseActivityLED env world) := by
  unfold caseActivityLED eJennicModuleWriteActivityLED
  dsimp only
  split
  · split
    · exact ((OnlyLogs.debugLog world _).thenWrite env _ _).thenAssign env _
    · exact (OnlyLogs.refl world).thenAssign env _
  · exact (OnlyLogs.refl world).thenAssign env _

theorem caseDetermineAddress_onlyLogs :
    OnlyLogs world (caseDetermineAddress env bTimeout world) := by
  unfold caseDetermineAddress JennicModuleGetIPv6Address
    eJennicModuleReset
  dsimp only
  split
  · split
    · have counted := (OnlyLogs.debugLogIf world
        (world.daemon.u32Retries ≠ 0)
        "Timeout waiting for address").thenUpdate
          (Daemon.setRetries
            ((world.debugLogIf (world.daemon.u32Retries ≠ 0)
              "Timeout waiting for address").daemon.u32Retries + 1))
      split
      · exact
          (((counted.thenDebugLog _).thenDebugLog _).thenUpdate
            _).thenWrite env _ _
      · exact
          (((counted.thenDaemonLog _ _).thenAssign env _).thenDebugLog
            _).thenWrite env _ _
    · exact .refl world
  · exact
      (((OnlyLogs.refl world).thenUpdate _).thenAssign env _).trans
        (caseActivityLED_onlyLogs env _)

theorem caseDetermineConfiguration_onlyLogs :
    OnlyLogs world (caseDetermineConfiguration env bTimeout world) := by
  unfold caseDetermineConfiguration eJennicModuleWriteConfigRequest
  dsimp only
  split
  · exact
      ((OnlyLogs.debugLog world _).thenDebugLog _).thenWrite env _ _
  · exact
      (((OnlyLogs.refl world).thenAssign env _).thenUpdate _).trans
        (caseDetermineAddress_onlyLogs env bTimeout _)

theorem caseConfigureFrontEnd_onlyLogs :
    OnlyLogs world (caseConfigureFrontEnd env world) := by
  unfold caseConfigureFrontEnd eJennicModuleWriteFrontEndConfig
  dsimp only
  split
  · have written := (OnlyLogs.debugLog world
      ("Writing Module: Set Frontend (" ++
        toString world.daemon.eRadioFrontEnd.code.toNat ++
        ")")).thenWrite env .setRadioFrontend
          [world.daemon.eRadioFrontEnd.code]
    split
    · exact
        ((written.thenDebugLog _).thenWrite env _ _).thenAssign env _
    · exact written.thenAssign env _
  · exact (OnlyLogs.refl world).thenAssign env _

theorem run_onlyLogs : OnlyLogs world (eJennicModuleRun env world).2 := by
  unfold eJennicModuleRun
  split
  · exact (OnlyLogs.debugLog world _).thenWrite env _ _
  · exact (OnlyLogs.debugLog world _).thenWrite env _ _
  · exact (OnlyLogs.debugLog world _).thenWrite env _ _
  · exact .daemonLog world _ _

theorem caseStartModule_onlyLogs :
    OnlyLogs world (caseStartModule env world) := by
  have started := run_onlyLogs env world
  unfold caseStartModule
  dsimp only
  split
  · exact started.thenAssign env _
  · split
    · exact started.thenAssign env _
    · exact (started.thenUpdate _).thenAssign env _

theorem caseConfigureProfile_onlyLogs :
    OnlyLogs world (caseConfigureProfile env world) := by
  unfold caseConfigureProfile eJennicModuleWriteProfile
  split
  · exact ((OnlyLogs.debugLog world _).thenWrite env _ _).thenAssign env _
  · exact (OnlyLogs.refl world).thenAssign env _

theorem caseConfigureSecurity_onlyLogs :
    OnlyLogs world (caseConfigureSecurity host env world) := by
  unfold caseConfigureSecurity
  dsimp only
  have written := writeSecurityConfig_onlyLogs host env world
  split
  · split
    · exact written.thenAssign env _
    · exact written.thenAssign env _
  · split
    · exact (OnlyLogs.refl world).thenAssign env _
    · exact (OnlyLogs.refl world).thenAssign env _

theorem caseConfigureNetwork_onlyLogs :
    OnlyLogs world (caseConfigureNetwork host env world) :=
  (writeConfig_onlyLogs host env world).thenAssign env _

theorem caseDetermineVersion_onlyLogs :
    OnlyLogs world (caseDetermineVersion host env world) := by
  unfold caseDetermineVersion eJennicModuleWriteVersionRequest
  dsimp only
  split
  · have counted := (OnlyLogs.debugLogIf world
      (world.daemon.u32Retries ≠ 0)
      "Timeout waiting for version").thenUpdate
        (Daemon.setRetries
          ((world.debugLogIf (world.daemon.u32Retries ≠ 0)
            "Timeout waiting for version").daemon.u32Retries + 1))
    split
    · exact ((counted.thenDebugLog _).thenDebugLog _).thenWrite env _ _
    · exact (counted.thenUpdate _).thenAssign env _
  · exact
      (((OnlyLogs.refl world).thenUpdate _).thenAssign env _).trans
        (caseConfigureNetwork_onlyLogs host env _)

theorem ping_onlyLogs (pu8Data : Bool) :
    OnlyLogs world (eJennicModulePing env pu8Data world).2 := by
  unfold eJennicModulePing
  split
  · split
    · exact .debugLog world _
    · split
      · exact
          ((OnlyLogs.debugLog world _).thenWrite env _ _).thenUpdate _
      · exact .refl world
  · exact .refl world

theorem checkComms_onlyLogs :
    OnlyLogs world (checkComms env world).2 := by
  unfold checkComms
  split
  · dsimp only
    split
    · exact .daemonLog world _ _
    · exact .refl world
  · exact .refl world

/-- Besides serial frames, a call of the state machine leaves log lines
only. -/
theorem stateMachine_onlyLogs :
    OnlyLogs world
      (eJennicModuleStateMachine host env bTimeout world).2 := by
  have called : OnlyLogs world (world.record env (.called bTimeout)) :=
    .ofLedger world _
  refine called.trans ?_
  unfold eJennicModuleStateMachine
  dsimp only
  generalize world.record env (.called bTimeout) = current
  cases current.daemon.eModuleState with
  | idle =>
      exact checkComms_onlyLogs env current
  | determineVersion =>
      exact
        (caseDetermineVersion_onlyLogs host env current).trans
          (checkComms_onlyLogs env _)
  | configureNetwork =>
      exact
        (caseConfigureNetwork_onlyLogs host env current).trans
          (checkComms_onlyLogs env _)
  | configureSecurity =>
      exact
        (caseConfigureSecurity_onlyLogs host env current).trans
          (checkComms_onlyLogs env _)
  | configureProfile =>
      exact
        (caseConfigureProfile_onlyLogs env current).trans
          (checkComms_onlyLogs env _)
  | startModule =>
      exact
        (caseStartModule_onlyLogs env current).trans
          (checkComms_onlyLogs env _)
  | configureFrontend =>
      exact
        (caseConfigureFrontEnd_onlyLogs env current).trans
          (checkComms_onlyLogs env _)
  | determineConfiguration =>
      exact
        (caseDetermineConfiguration_onlyLogs env bTimeout current).trans
          (checkComms_onlyLogs env _)
  | determineAddress =>
      exact
        (caseDetermineAddress_onlyLogs env bTimeout current).trans
          (checkComms_onlyLogs env _)
  | activityLED =>
      exact
        (caseActivityLED_onlyLogs env current).trans
          (checkComms_onlyLogs env _)
  | running =>
      have pinged := ping_onlyLogs env current false
      dsimp only
      split
      · exact pinged
      · exact pinged.trans (checkComms_onlyLogs env _)

/-- Behind the handler, a processed message leaves log lines only. -/
theorem processMessage_onlyLogs (u8Message : UInt8) (u32Length : UInt32)
    (pu8Data : TracedMemory UInt8) :
    OnlyLogs
      (handleMessage host env u8Message u32Length pu8Data world).world
      (eJennicModuleProcessMessage host env u8Message u32Length pu8Data
        world).world := by
  unfold eJennicModuleProcessMessage
  dsimp only
  split
  · exact
      (OnlyLogs.ofLedger _ _).trans
        (stateMachine_onlyLogs host env false _)
  · exact .ofLedger _ _

end Outputs

end SixLoWPANd.JennicModule
