import SixLoWPANd.JennicModule.Outputs
import SixLoWPANd.JennicModule.Remembering

/-!
# The remembered network configuration

A CONFIG message that is accepted as a configuration becomes the configuration
of all CONFIG frames up to the next one, byte for byte.  Writer and handler
agree because both keep multi-byte members in network order; the writer covers
every version, and the change test compares exactly what is encoded.
-/

namespace SixLoWPANd.JennicModule

open SixLoWPANd.Foundation

def notAcceptedConfig (u8Message : UInt8) (u32Length : UInt32)
    (daemon : Daemon) : Prop :=
  ¬ acceptedConfig daemon u8Message u32Length

instance (u8Message : UInt8) (u32Length : UInt32) (daemon : Daemon) :
    Decidable (notAcceptedConfig u8Message u32Length daemon) :=
  inferInstanceAs (Decidable (¬ (_ ∧ _ ∧ _)))

/-- Only an accepted configuration changes what CONFIG frames carry. -/
theorem networkMemory_kept (host : Host) :
    networkMemory.KeptUnder host notAcceptedConfig := by
  intro now u8Message u32Length cells eStatus before after handling met
  cases handling with
  | config accepted =>
      exact absurd accepted met
  | _ =>
      rfl

/-- Region and channel fit their bytes in every state. -/
theorem runFrom_fitsBytes (host : Host) (env : Env) (settings : Settings)
    (checked : settings.rangeChecked) (calls : List ApiCall) :
    (runFrom host env settings calls).daemon.fitsBytes := by
  apply
    @runFrom_invariant host fun ledger =>
      ledger.daemon.toSettings.fitsBytes
  · intro now before after action fits
    cases action with
    | handled handling =>
        cases handling with
        | config =>
            exact fitsBytes_receiveNetwork _ _ _
        | _ =>
            exact fits
    | called | forwarded =>
        exact fits
    | transition transition =>
        rw [transition_toSettings transition]
        exact fits
  · exact checked.fitsBytes

/-- Every execution of `E_STATE_CONFIGURE_NETWORK` succeeds and writes one
CONFIG frame, with the encoding held, whatever the version. -/
theorem caseConfigureNetwork_writes (host : Host) (env : Env)
    (world : World) :
    (eJennicModuleWriteConfig host env world).1 = .ok ∧
      (caseConfigureNetwork host env world).history =
        ⟨.assigned .configureSecurity, env.now, world.daemon⟩ ::
          ⟨.wrote .config world.daemon.networkEncoding, env.now,
            world.daemon⟩ :: world.history := by
  obtain ⟨status, ledger⟩ := eJennicModuleWriteConfig_spec host env world
  refine ⟨status, ?_⟩
  unfold caseConfigureNetwork
  rw [World.assign_toLedger, ledger]
  rfl

theorem notifyConfigChanged_threads (env : Env) (iConfigChanged : Bool)
    (world : World) :
    (notifyConfigChanged env iConfigChanged world).threads =
      if world.daemon.vprConfigChanged = true ∧ iConfigChanged = true then
        env.pthreadCreate :: world.threads
      else
        world.threads := by
  unfold notifyConfigChanged
  by_cases notified :
      (world.daemon.vprConfigChanged && iConfigChanged) = true
  · have both :
        world.daemon.vprConfigChanged = true ∧ iConfigChanged = true := by
      simpa using notified
    rw [if_pos notified, if_pos both]
    dsimp only
    split <;> rfl
  · have notBoth :
        ¬ (world.daemon.vprConfigChanged = true ∧
          iConfigChanged = true) := by
      simpa using notified
    rw [if_neg notified, if_neg notBoth]

/-- The notification thread is started exactly for a change. -/
theorem step_config_threads (host : Host) (env : Env) (world : World)
    (fits : world.daemon.fitsBytes)
    (supported : world.daemon.atLeast 1 1 0 = true)
    (pu8Data : Nat → UInt8) :
    (step host world
        ⟨env, .message SLMsgType.config.code 16 pu8Data⟩).threads =
      if world.daemon.vprConfigChanged = true ∧
          payloadOf pu8Data 16 ≠ world.daemon.networkEncoding then
        env.pthreadCreate :: world.threads
      else
        world.threads := by
  let psConfig := ModuleConfigV10.ofCells host.endian pu8Data
  let received :=
    logReceivedConfig
      (world.update (Daemon.receiveConfig host.endian psConfig))
  have handled :
      (handleMessage host env SLMsgType.config.code 16
        (TracedMemory.untouched pu8Data) world).world =
        notifyConfigChanged env
          (world.daemon.toSettings.configChanged host.endian psConfig)
          received := by
    simp [handleMessage, eJennicModuleProcessMessageConfig, SLMsgType.code,
      supported, received, psConfig]
  have outputs :=
    (processMessage_onlyLogs host env world SLMsgType.config.code 16
      (TracedMemory.untouched pu8Data)).threads
  rw [handled, notifyConfigChanged_threads] at outputs
  simp only [configChanged_iff fits, psConfig] at outputs
  exact outputs

/-- The reported network configuration is remembered exactly.  Until a
configuration is accepted, CONFIG frames carry the start-up configuration;
after a CONFIG message of 16 bytes they carry its payload until the next one
that is accepted, and the notification was started exactly if the payload was
a change; and every execution of `E_STATE_CONFIGURE_NETWORK` writes one CONFIG
frame. -/
theorem network_remembered
    (host : Host) (env : Env) (settings : Settings)
    (checked : settings.rangeChecked) (earlier : List ApiCall) :
    let before := runFrom host env settings earlier
    (EveryStep (step host) (meets notAcceptedConfig)
        (started host env settings) earlier →
      Remembers networkMemory settings.networkEncoding []
        before.toLedger) ∧
    (∀ messageEnv pu8Data later,
      before.daemon.atLeast 1 1 0 = true →
      let after := step host before
        ⟨messageEnv, .message SLMsgType.config.code 16 pu8Data⟩
      (EveryStep (step host) (meets notAcceptedConfig) after later →
        Remembers networkMemory (payloadOf pu8Data 16) before.history
          (run (step host) after later).toLedger) ∧
      after.threads =
        if before.daemon.vprConfigChanged = true ∧
            payloadOf pu8Data 16 ≠ before.daemon.networkEncoding then
          messageEnv.pthreadCreate :: before.threads
        else
          before.threads) ∧
    (∀ caseEnv world,
      (eJennicModuleWriteConfig host caseEnv world).1 = .ok ∧
        (caseConfigureNetwork host caseEnv world).history =
          ⟨.assigned .configureSecurity, caseEnv.now, world.daemon⟩ ::
            ⟨.wrote .config world.daemon.networkEncoding, caseEnv.now,
              world.daemon⟩ :: world.history) := by
  refine ⟨?_, ?_, caseConfigureNetwork_writes host⟩
  · intro met
    apply runFrom_invariant_of_meets _ env settings earlier _ met
    · exact fun _ _ _ action =>
        action_remembers (networkMemory_kept host) action
    · exact ⟨rfl, [_], rfl, by simp⟩
  · intro messageEnv pu8Data later supported
    constructor
    · intro met
      apply run_remembers (networkMemory_kept host) _ met
      apply message_remembers
      intro eStatus handled handling
      rw [handling_config handling ⟨rfl, by decide, supported⟩]
      exact networkEncoding_receiveNetwork _ host.endian pu8Data
    · exact
        step_config_threads host messageEnv _
          (runFrom_fitsBytes host env settings checked earlier) supported
          pu8Data

/-- A configuration that differs from the one without options. -/
def reportedConfig : List UInt8 :=
  [1, 15, 0x12, 0x34, 0, 0, 0, 7, 0xfd, 0, 0, 0, 0, 0, 0, 1]

/-- A module of version 1.1.0 reports a configuration and asks for it: the
CONFIG frame carries it, and the notification was started. -/
theorem network_remembered_reported :
    let settings := { Settings.default with vprConfigChanged := true }
    let before :=
      runFrom sampleHost (granting 0) settings
        [messageAt 1 .version [1, 1, 0]]
    let after :=
      step sampleHost before (messageAt 2 .config reportedConfig)
    let final :=
      run (step sampleHost) after [messageAt 3 .configRequest []]
    Remembers networkMemory reportedConfig before.history
        final.toLedger ∧
      (∃ entry ∈ final.history,
        entry.event = .wrote .config reportedConfig) ∧
      after.threads = [0] := by
  intro settings before after final
  have remembered :=
    (network_remembered sampleHost (granting 0) settings (by decide)
      [messageAt 1 .version [1, 1, 0]]).2.1 (granting 2)
      (fun index => reportedConfig.getD index 0)
      [messageAt 3 .configRequest []] (by decide +kernel)
  refine ⟨remembered.1 (by decide +kernel), by decide +kernel, ?_⟩
  exact remembered.2.trans (by decide +kernel)

end SixLoWPANd.JennicModule
