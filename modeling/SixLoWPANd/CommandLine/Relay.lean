import SixLoWPANd.CommandLine.Notification
import SixLoWPANd.JennicModule.RememberedNetwork
import SixLoWPANd.JennicModule.RememberedSecurity

/-!
# A configuration that is passed on

A daemon notifies a program of the configuration that its module reports.  If
the program starts a second daemon with the options it is given, the module of
the second one gets the same network and the same key, byte for byte.  The
region and the authorisation are not among the options.
-/

namespace SixLoWPANd.CommandLine

open SixLoWPANd.Foundation
open SixLoWPANd.JennicModule

/-- A CONFIG message with a whole configuration. -/
def reportCall (env : Env) (configuration : Nat → UInt8) : ApiCall where
  env := env
  input := .message SLMsgType.config.code 16 configuration

/-- The variables of the program as the callback finds them.  It is a thread of
its own, taken to read them just behind the report. -/
def Options.during (options : Options) (settings : Settings) : Options :=
  { options with toSettings := settings }

/-- As long as no message changes what is encoded, every frame of the type
carries what the settings encode at the start. -/
theorem startUp_remembered {host : Host} {memory : Memory}
    {guard : UInt8 → UInt32 → Daemon → Prop}
    (kept : memory.KeptUnder host guard) {env : Env} {settings : Settings}
    {calls : List ApiCall}
    (met : EveryStep (step host) (meets guard) (started host env settings)
      calls) :
    Carries memory.u8Type (memory.encoding settings)
      (runFrom host env settings calls).history := by
  have remembers :
      Remembers memory (memory.encoding settings) []
        (runFrom host env settings calls).toLedger := by
    apply runFrom_invariant_of_meets _ env settings calls _ met
    · exact fun _ _ _ action => action_remembers kept action
    · exact ⟨rfl, [_], rfl, by simp⟩
  obtain ⟨newer, history, carries⟩ := remembers.written
  rw [history, List.append_nil]
  exact carries

/-- The settings behind a report. -/
theorem reportCall_toSettings (host : Host) (world : World) (env : Env)
    (configuration : Nat → UInt8)
    (supported : world.daemon.atLeast 1 1 0 = true) :
    (step host world
        (reportCall env configuration)).daemon.toSettings =
      world.daemon.toSettings.receiveNetwork host.endian
        (ModuleConfigV10.ofCells host.endian configuration) := by
  apply message_toSettings
  intro eStatus handled handling
  rw [handling_config handling ⟨rfl, by decide, supported⟩]
  rfl

/-- Everything in the payload but the region is among the options. -/
theorem networkEncoding_configured (options : Options)
    (settings : Settings) :
    (options.configured settings).networkEncoding =
      options.eRegion.toUInt8 :: settings.networkEncoding.tail := by
  unfold Options.configured
  dsimp only
  split
  · rfl
  · rfl

/-- The key is among the options if the network is secure, and no
authorisation is. -/
theorem security_configured (settings : Settings) :
    ((Options.startUp.configured settings).iSecureNetwork ≠ 0 ↔
        settings.iSecureNetwork ≠ 0) ∧
      (settings.iSecureNetwork ≠ 0 →
        (Options.startUp.configured settings).securityEncoding =
          settings.sSecurityKey.bytes ++ List.replicate 20 0) := by
  have unauthorised :
      Settings.default.authorisationEncoding = List.replicate 20 0 := by
    decide
  unfold Options.configured
  by_cases secure : settings.iSecureNetwork ≠ 0
  · simp only [if_pos secure]
    refine ⟨iff_of_true (by simp) secure, fun _ => ?_⟩
    rw [← unauthorised]
    rfl
  · simp only [if_neg secure]
    have open_ : ¬ Options.startUp.iSecureNetwork ≠ 0 := by decide
    exact
      ⟨iff_of_false open_ secure, fun always => absurd always secure⟩

/-- What a second daemon, started from the notification of a first one, writes
to its module. -/
structure PassesOn (configuration : List UInt8) (first second : Settings) :
    Prop where
  network : ∀ (host : Host) (env : Env) (calls : List ApiCall),
    EveryStep (step host) (meets notAcceptedConfig)
        (started host env second) calls →
      Carries .config (0 :: configuration.tail)
        (runFrom host env second calls).history
  secure : second.iSecureNetwork ≠ 0 ↔ first.iSecureNetwork ≠ 0
  key : first.iSecureNetwork ≠ 0 →
    ∀ (host : Host) (env : Env) (calls : List ApiCall),
      EveryStep (step host) (meets notSecurity) (started host env second)
          calls →
        Carries .security (first.sSecurityKey.bytes ++ List.replicate 20 0)
          (runFrom host env second calls).history

/-- A daemon whose module has reported a configuration passes it on: the
notification is a command line that is accepted, and whatever run follows from
it, as long as the second module reports nothing else, its CONFIG frames carry
the reported bytes behind the default region and its SECURITY frames the key of
the first daemon with no authorisation. -/
theorem configuration_passed_on {library : Library}
    {inetNtop : In6Addr → String} (text : AddressText library inetNtop)
    (system : String → Int) (host : Host) (world : World) (env : Env)
    (configuration : Nat → UInt8)
    (supported : world.daemon.atLeast 1 1 0 = true)
    (checked : channelCheck (configuration 1).toUInt32 = true)
    {options : Options} {pcConfigProgram : String}
    (installed : options.pcConfigProgram = some pcConfigProgram)
    (unbroken : ' ' ∉ pcConfigProgram.toList)
    (fits :
      (configCommand inetNtop pcConfigProgram
        (step host world
          (reportCall env configuration)).daemon.toSettings).utf8ByteSize <
        1024) :
    ∃ notification arguments second,
      configChangedCallback inetNtop system
          (options.during
            (step host world
              (reportCall env configuration)).daemon.toSettings) =
          some notification ∧
        commandArguments notification.command = some arguments ∧
        processOptions library arguments .startUp = .ok second ∧
        PassesOn (payloadOf configuration 16)
          (step host world
            (reportCall env configuration)).daemon.toSettings
          second.toSettings := by
  have received :=
    reportCall_toSettings host world env configuration supported
  have encoded :
      (step host world
          (reportCall env
            configuration)).daemon.toSettings.networkEncoding =
        payloadOf configuration 16 := by
    rw [received]
    exact networkEncoding_receiveNetwork _ host.endian configuration
  have channel :
      channelCheck
          (step host world
            (reportCall env configuration)).daemon.toSettings.eChannel =
        true := by
    rw [received]
    exact checked
  generalize
    (step host world (reportCall env configuration)).daemon.toSettings =
      first at fits encoded channel ⊢
  obtain ⟨notification, notified, command⟩ :=
    configChangedCallback_fits system
      (show (options.during first).pcConfigProgram =
        some pcConfigProgram from installed) fits
  obtain ⟨secure, key⟩ := security_configured first
  refine
    ⟨notification, _, Options.startUp.configured first, notified, ?_,
      processOptions_notified text channel .startUp, ?_, secure, ?_⟩
  · rw [command]
    exact commandArguments_configCommand text unbroken channel
  · intro host env calls met
    rw [show 0 :: (payloadOf configuration 16).tail =
        (Options.startUp.configured first).networkEncoding by
      rw [networkEncoding_configured, encoded]
      rfl]
    exact startUp_remembered (networkMemory_kept host) met
  · intro secured host env calls met
    rw [← key secured]
    exact startUp_remembered (securityMemory_kept host) met

/-- A module of version 1.1.0 whose configuration is passed on. -/
theorem configuration_passed_on_reported :
    ∃ notification arguments second,
      configChangedCallback shortText (fun _ => 0)
          (notifyingOptions.during
            (step sampleHost
              (runFrom sampleHost (granting 0) Settings.default
                [messageAt 1 .version [1, 1, 0]])
              (messageAt 2 .config reportedConfig)).daemon.toSettings) =
          some notification ∧
        commandArguments notification.command = some arguments ∧
        processOptions groupLibrary arguments .startUp = .ok second ∧
        PassesOn reportedConfig
          (step sampleHost
            (runFrom sampleHost (granting 0) Settings.default
              [messageAt 1 .version [1, 1, 0]])
            (messageAt 2 .config reportedConfig)).daemon.toSettings
          second.toSettings :=
  configuration_passed_on addressText_shortText (fun _ => 0) sampleHost
    (runFrom sampleHost (granting 0) Settings.default
      [messageAt 1 .version [1, 1, 0]])
    (granting 2) (fun index => reportedConfig.getD index 0)
    (by decide +kernel) (by decide)
    (show notifyingOptions.pcConfigProgram =
      some "/etc/6LoWPANd.notify" from rfl)
    (by decide) (by decide +kernel)

end SixLoWPANd.CommandLine
