import Mathlib.Logic.Relation
import SixLoWPANd.JennicModule.Writers

/-!
# The state machine

`eJennicModuleStateMachine` follows the source case by case; a case that falls
through ends in a call of the next one.  `Transition` lists what a single case
does to the ledger and `Turn` what a call does: it waits, or it makes
transitions until a case does not fall through.  Most invariants only need that
a call makes nothing but transitions.
-/

namespace SixLoWPANd.JennicModule

open SixLoWPANd.Foundation

def moduleTimeout : Int := 60

def pingInterval : Int := 10

def maxVersionRetries : UInt32 := 3

def maxAddressRetries : UInt32 := 6

/-- `pu8Data` says whether the pointer to a message is not `NULL`. -/
def eJennicModulePing (env : Env) (pu8Data : Bool) (world : World) :
    ModuleStatus × World :=
  if world.daemon.sFlags.uSupportsPing then
    if pu8Data then
      (.ok, world.debugLog "Pong")
    else if env.now - world.daemon.sLastPing > pingInterval then
      (.ok,
        ((world.debugLog "Ping").writeMessage env .ping []).update
          fun daemon => { daemon with sLastPing := env.now })
    else
      (.ok, world)
  else
    (.ok, world)

/-! ## The cases of the `switch`, last one first -/

def caseActivityLED (env : Env) (world : World) : World :=
  let world :=
    if world.daemon.atLeast 1 3 0 then
      (eJennicModuleWriteActivityLED env world).2
    else
      world
  world.assign env .running

def caseDetermineAddress (env : Env) (bTimeout : Bool) (world : World) :
    World :=
  if !world.daemon.sFlags.uAddressKnown then
    if bTimeout then
      let world :=
        world.debugLogIf (world.daemon.u32Retries ≠ 0)
          "Timeout waiting for address"
      let u32Retries := world.daemon.u32Retries + 1
      let world := world.update (Daemon.setRetries u32Retries)
      if u32Retries < maxAddressRetries then
        (JennicModuleGetIPv6Address env
          (world.debugLog "Requesting module address")).2
      else
        (eJennicModuleReset env
          ((world.daemonLog logErr
            "Cannot determine module address").assign env
              .determineVersion)).2
    else
      world
  else
    caseActivityLED env
      ((world.update (Daemon.setRetries 0)).assign env .activityLED)

def caseDetermineConfiguration
    (env : Env) (bTimeout : Bool) (world : World) : World :=
  if !world.daemon.sFlags.uConfigKnown then
    (eJennicModuleWriteConfigRequest env
      (world.debugLog "Requesting configuration")).2
  else
    caseDetermineAddress env bTimeout
      ((world.assign env .determineAddress).update Daemon.forgetAddress)

def caseConfigureFrontEnd (env : Env) (world : World) : World :=
  (eJennicModuleWriteFrontEndConfig env world).2.assign env
    .determineConfiguration

def caseStartModule (env : Env) (world : World) : World :=
  let world := (eJennicModuleRun env world).2
  if world.daemon.atLeast 1 4 0 then
    world.assign env .configureFrontend
  else if world.daemon.atLeast 1 1 0 then
    world.assign env .determineConfiguration
  else
    (world.update Daemon.forgetAddress).assign env .determineAddress

def caseConfigureProfile (env : Env) (world : World) : World :=
  (eJennicModuleWriteProfile env world).2.assign env .startModule

def caseConfigureSecurity (host : Host) (env : Env) (world : World) :
    World :=
  let world :=
    if world.daemon.iSecureNetwork ≠ 0 then
      (eJennicModuleWriteSecurityConfig host env world).2
    else
      world
  if world.daemon.atLeast 1 1 0 then
    world.assign env .configureProfile
  else
    world.assign env .startModule

def caseConfigureNetwork (host : Host) (env : Env) (world : World) :
    World :=
  (eJennicModuleWriteConfig host env world).2.assign env .configureSecurity

def caseDetermineVersion (host : Host) (env : Env) (world : World) :
    World :=
  if !world.daemon.sFlags.uVersionKnown then
    let world :=
      world.debugLogIf (world.daemon.u32Retries ≠ 0)
        "Timeout waiting for version"
    let u32Retries := world.daemon.u32Retries + 1
    let world := world.update (Daemon.setRetries u32Retries)
    if u32Retries < maxVersionRetries then
      (eJennicModuleWriteVersionRequest env
        (world.debugLog "Requesting version")).2
    else
      (world.update (Daemon.setRetries 0)).assign env .configureNetwork
  else
    caseConfigureNetwork host env
      ((world.update (Daemon.setRetries 0)).assign env .configureNetwork)

/-! ## The function -/

/-- The communication test behind the `switch`. -/
def checkComms (env : Env) (world : World) : ModuleStatus × World :=
  if world.daemon.sFlags.uVersionKnown &&
      world.daemon.sFlags.uSupportsPing then
    let silence := env.now - world.daemon.sLastSuccessfulComms
    if silence > moduleTimeout then
      (.commsFailed,
        world.daemonLog logErr
          ("Node not responding (last comms " ++ toString silence ++
            " seconds ago)"))
    else
      (.ok, world)
  else
    (.ok, world)

def eJennicModuleStateMachine
    (host : Host) (env : Env) (bTimeout : Bool) (world : World) :
    ModuleStatus × World :=
  let world := world.record env (.called bTimeout)
  match world.daemon.eModuleState with
  | .determineVersion =>
      checkComms env (caseDetermineVersion host env world)
  | .configureNetwork =>
      checkComms env (caseConfigureNetwork host env world)
  | .configureSecurity =>
      checkComms env (caseConfigureSecurity host env world)
  | .configureProfile => checkComms env (caseConfigureProfile env world)
  | .startModule => checkComms env (caseStartModule env world)
  | .configureFrontend => checkComms env (caseConfigureFrontEnd env world)
  | .determineConfiguration =>
      checkComms env (caseDetermineConfiguration env bTimeout world)
  | .determineAddress =>
      checkComms env (caseDetermineAddress env bTimeout world)
  | .activityLED => checkComms env (caseActivityLED env world)
  | .running =>
      let ping := eJennicModulePing env false world
      if ping.1 ≠ .ok then
        (.error, ping.2)
      else
        checkComms env ping.2
  | .idle => checkComms env world

def eJennicModuleStart (host : Host) (env : Env) (world : World) :
    ModuleStatus × World :=
  let world := world.debugLog "Starting module"
  let world := world.assign env .determineVersion
  let world := world.update fun daemon => { daemon with sFlags := .zero }
  eJennicModuleStateMachine host env false world

@[simp]
theorem checkComms_toLedger (env : Env) (world : World) :
    (checkComms env world).2.toLedger = world.toLedger := by
  unfold checkComms
  split
  · dsimp only
    split <;> rfl
  · rfl

/-! ## Transitions of the ledger -/

/-- What one case of the state machine does to the ledger in a call at `now`
with the flag `bTimeout`.  Falling through is a further transition. -/
inductive Transition (now : Int) (bTimeout : Bool) :
    Ledger → Ledger → Prop where
  | requestVersion {ledger : Ledger}
      (inState : ledger.daemon.eModuleState = .determineVersion)
      (unknown : ledger.daemon.sFlags.uVersionKnown = false)
      (remaining : ledger.daemon.u32Retries + 1 < maxVersionRetries) :
      Transition now bTimeout ledger
        ((ledger.update
          (Daemon.setRetries (ledger.daemon.u32Retries + 1))).record now
            (.wrote .versionRequest []))
  | presumeVersion {ledger : Ledger}
      (inState : ledger.daemon.eModuleState = .determineVersion)
      (unknown : ledger.daemon.sFlags.uVersionKnown = false)
      (exhausted :
        ¬ ledger.daemon.u32Retries + 1 < maxVersionRetries) :
      Transition now bTimeout ledger
        ((ledger.update (Daemon.setRetries 0)).assign now
          .configureNetwork)
  | versionKnown {ledger : Ledger}
      (inState : ledger.daemon.eModuleState = .determineVersion)
      (known : ledger.daemon.sFlags.uVersionKnown = true) :
      Transition now bTimeout ledger
        ((ledger.update (Daemon.setRetries 0)).assign now
          .configureNetwork)
  | configureNetwork {ledger : Ledger}
      (inState : ledger.daemon.eModuleState = .configureNetwork) :
      Transition now bTimeout ledger
        ((ledger.record now
          (.wrote .config ledger.daemon.networkEncoding)).assign now
            .configureSecurity)
  | configureSecurity {ledger : Ledger} {next : ModuleState}
      (inState : ledger.daemon.eModuleState = .configureSecurity)
      (secure : ledger.daemon.iSecureNetwork ≠ 0)
      (chosen : next =
        if ledger.daemon.atLeast 1 1 0 then .configureProfile
        else .startModule) :
      Transition now bTimeout ledger
        ((ledger.record now
          (.wrote .security ledger.daemon.securityEncoding)).assign now
            next)
  | skipSecurity {ledger : Ledger} {next : ModuleState}
      (inState : ledger.daemon.eModuleState = .configureSecurity)
      (open_ : ledger.daemon.iSecureNetwork = 0)
      (chosen : next =
        if ledger.daemon.atLeast 1 1 0 then .configureProfile
        else .startModule) :
      Transition now bTimeout ledger (ledger.assign now next)
  | configureProfile {ledger : Ledger}
      (inState : ledger.daemon.eModuleState = .configureProfile)
      (supported : ledger.daemon.atLeast 1 1 0 = true) :
      Transition now bTimeout ledger
        ((ledger.record now
          (.wrote .profile [ledger.daemon.u8JenNetProfile])).assign now
            .startModule)
  | skipProfile {ledger : Ledger}
      (inState : ledger.daemon.eModuleState = .configureProfile)
      (unsupported : ledger.daemon.atLeast 1 1 0 = false) :
      Transition now bTimeout ledger (ledger.assign now .startModule)
  | startModule {ledger : Ledger} {next : ModuleState}
      (inState : ledger.daemon.eModuleState = .startModule)
      (chosen : next = if ledger.daemon.atLeast 1 4 0 then
        .configureFrontend else .determineConfiguration)
      (supported : ledger.daemon.atLeast 1 4 0 = true ∨
        ledger.daemon.atLeast 1 1 0 = true) :
      Transition now bTimeout ledger
        ((ledger.runModule now).assign now next)
  | startOldModule {ledger : Ledger}
      (inState : ledger.daemon.eModuleState = .startModule)
      (noFrontEnd : ledger.daemon.atLeast 1 4 0 = false)
      (unsupported : ledger.daemon.atLeast 1 1 0 = false) :
      Transition now bTimeout ledger
        (((ledger.runModule now).update Daemon.forgetAddress).assign now
          .determineAddress)
  | configureFrontEnd {ledger : Ledger}
      (inState : ledger.daemon.eModuleState = .configureFrontend)
      (supported : ledger.daemon.atLeast 1 4 0 = true)
      (single : ledger.daemon.iAntennaDiversity = 0) :
      Transition now bTimeout ledger
        ((ledger.record now
          (.wrote .setRadioFrontend
            [ledger.daemon.eRadioFrontEnd.code])).assign now
              .determineConfiguration)
  | configureFrontEndDiversity {ledger : Ledger}
      (inState : ledger.daemon.eModuleState = .configureFrontend)
      (supported : ledger.daemon.atLeast 1 4 0 = true)
      (diverse : ledger.daemon.iAntennaDiversity ≠ 0) :
      Transition now bTimeout ledger
        (((ledger.record now
          (.wrote .setRadioFrontend
            [ledger.daemon.eRadioFrontEnd.code])).record now
              (.wrote .enableDiversity [])).assign now
                .determineConfiguration)
  | skipFrontEnd {ledger : Ledger}
      (inState : ledger.daemon.eModuleState = .configureFrontend)
      (unsupported : ledger.daemon.atLeast 1 4 0 = false) :
      Transition now bTimeout ledger
        (ledger.assign now .determineConfiguration)
  | requestConfiguration {ledger : Ledger}
      (inState : ledger.daemon.eModuleState = .determineConfiguration)
      (unknown : ledger.daemon.sFlags.uConfigKnown = false) :
      Transition now bTimeout ledger
        (ledger.record now (.wrote .configRequest []))
  | configurationKnown {ledger : Ledger}
      (inState : ledger.daemon.eModuleState = .determineConfiguration)
      (known : ledger.daemon.sFlags.uConfigKnown = true) :
      Transition now bTimeout ledger
        ((ledger.assign now .determineAddress).update
          Daemon.forgetAddress)
  | requestAddress {ledger : Ledger}
      (inState : ledger.daemon.eModuleState = .determineAddress)
      (unknown : ledger.daemon.sFlags.uAddressKnown = false)
      (timeout : bTimeout = true)
      (remaining : ledger.daemon.u32Retries + 1 < maxAddressRetries) :
      Transition now bTimeout ledger
        (((ledger.update
          (Daemon.setRetries (ledger.daemon.u32Retries + 1))).update
            Daemon.forgetAddress).record now (.wrote .addr []))
  | resetModule {ledger : Ledger}
      (inState : ledger.daemon.eModuleState = .determineAddress)
      (unknown : ledger.daemon.sFlags.uAddressKnown = false)
      (timeout : bTimeout = true)
      (exhausted :
        ¬ ledger.daemon.u32Retries + 1 < maxAddressRetries) :
      Transition now bTimeout ledger
        (((ledger.update
          (Daemon.setRetries (ledger.daemon.u32Retries + 1))).assign now
            .determineVersion).record now (.wrote .reset []))
  | addressKnown {ledger : Ledger}
      (inState : ledger.daemon.eModuleState = .determineAddress)
      (known : ledger.daemon.sFlags.uAddressKnown = true) :
      Transition now bTimeout ledger
        ((ledger.update (Daemon.setRetries 0)).assign now .activityLED)
  | activityLED {ledger : Ledger}
      (inState : ledger.daemon.eModuleState = .activityLED)
      (supported : ledger.daemon.atLeast 1 3 0 = true)
      (configured : ledger.daemon.eActivityLED ≠ activityLEDNone) :
      Transition now bTimeout ledger
        ((ledger.record now
          (.wrote .activityLED
            [ledger.daemon.eActivityLED.toUInt8])).assign now .running)
  | skipActivityLED {ledger : Ledger}
      (inState : ledger.daemon.eModuleState = .activityLED)
      (without : ¬ (ledger.daemon.atLeast 1 3 0 = true ∧
        ledger.daemon.eActivityLED ≠ activityLEDNone)) :
      Transition now bTimeout ledger (ledger.assign now .running)
  | ping {ledger : Ledger}
      (inState : ledger.daemon.eModuleState = .running)
      (supported : ledger.daemon.sFlags.uSupportsPing = true)
      (due : now - ledger.daemon.sLastPing > pingInterval) :
      Transition now bTimeout ledger
        ((ledger.record now (.wrote .ping [])).update
          fun daemon => { daemon with sLastPing := now })

/-- A sequence of transitions in one call. -/
abbrev Transitions (now : Int) (bTimeout : Bool) :
    Ledger → Ledger → Prop :=
  Relation.ReflTransGen (Transition now bTimeout)

/-- What holds before a sequence of transitions and is preserved by each of
them holds behind it. -/
theorem transitions_invariant
    {now : Int} {bTimeout : Bool} {invariant : Ledger → Prop}
    (preserved : ∀ before after, Transition now bTimeout before after →
      invariant before → invariant after)
    {first last : Ledger} (transitions : Transitions now bTimeout first last)
    (initial : invariant first) : invariant last := by
  induction transitions with
  | refl =>
      exact initial
  | tail _ transition inductionHypothesis =>
      exact preserved _ _ transition inductionHypothesis

/-- The cases that fall through to the next one. -/
def fallsThrough (daemon : Daemon) : Bool :=
  match daemon.eModuleState with
  | .determineVersion => daemon.sFlags.uVersionKnown
  | .determineConfiguration => daemon.sFlags.uConfigKnown
  | .determineAddress => daemon.sFlags.uAddressKnown
  | _ => false

/-- The cases that do nothing. -/
def waits (now : Int) (bTimeout : Bool) (daemon : Daemon) : Bool :=
  match daemon.eModuleState with
  | .idle => true
  | .determineAddress => !daemon.sFlags.uAddressKnown && !bTimeout
  | .running =>
      !(daemon.sFlags.uSupportsPing &&
        decide (now - daemon.sLastPing > pingInterval))
  | _ => false

/-- What a call of the state machine does to the ledger. -/
inductive Turn (now : Int) (bTimeout : Bool) : Ledger → Ledger → Prop where
  | wait {ledger : Ledger}
      (waiting : waits now bTimeout ledger.daemon = true) :
      Turn now bTimeout ledger ledger
  | last {before after : Ledger}
      (ends : fallsThrough before.daemon = false)
      (transition : Transition now bTimeout before after) :
      Turn now bTimeout before after
  | fall {before middle after : Ledger}
      (falls : fallsThrough before.daemon = true)
      (transition : Transition now bTimeout before middle)
      (rest : Turn now bTimeout middle after) :
      Turn now bTimeout before after

/-- Where a case that falls through leads to. -/
theorem state_of_fall {now : Int} {bTimeout : Bool}
    {before after : Ledger}
    (falls : fallsThrough before.daemon = true)
    (transition : Transition now bTimeout before after) :
    after.daemon.eModuleState = .configureNetwork ∨
      after.daemon.eModuleState = .determineAddress ∨
      after.daemon.eModuleState = .activityLED := by
  cases transition with
  | presumeVersion | versionKnown =>
      exact Or.inl rfl
  | configurationKnown =>
      exact Or.inr (Or.inl rfl)
  | addressKnown =>
      exact Or.inr (Or.inr rfl)
  | requestVersion inState unknown | requestConfiguration inState unknown
  | requestAddress inState unknown | resetModule inState unknown =>
      simp [fallsThrough, inState, unknown] at falls
  | _ inState =>
      simp [fallsThrough, inState] at falls

theorem Turn.transitions {now : Int} {bTimeout : Bool}
    {before after : Ledger} (turn : Turn now bTimeout before after) :
    Transitions now bTimeout before after := by
  induction turn with
  | wait =>
      exact .refl
  | last _ transition =>
      exact .single transition
  | fall _ transition _ inductionHypothesis =>
      exact .head transition inductionHypothesis

section Cases

variable (host : Host) (env : Env) (bTimeout : Bool) (world : World)

theorem eJennicModulePing_turn
    (inState : world.daemon.eModuleState = .running) :
    Turn env.now bTimeout world.toLedger
      (eJennicModulePing env false world).2.toLedger := by
  have ends : fallsThrough world.daemon = false := by
    simp [fallsThrough, inState]
  unfold eJennicModulePing
  by_cases supported : world.daemon.sFlags.uSupportsPing = true
  · by_cases due : env.now - world.daemon.sLastPing > pingInterval
    · simpa [supported, due] using
        Turn.last ends (Transition.ping inState supported due)
    · have waiting : waits env.now bTimeout world.daemon = true := by
        simp [waits, inState, due]
      simpa [supported, due] using Turn.wait waiting
  · have waiting : waits env.now bTimeout world.daemon = true := by
      simp [waits, inState, supported]
    simpa [supported] using Turn.wait waiting

theorem caseActivityLED_transition
    (inState : world.daemon.eModuleState = .activityLED) :
    Transition env.now bTimeout world.toLedger
      (caseActivityLED env world).toLedger := by
  unfold caseActivityLED eJennicModuleWriteActivityLED
  by_cases supported : world.daemon.atLeast 1 3 0 = true
  · by_cases configured : world.daemon.eActivityLED = activityLEDNone
    · simpa [supported, configured] using
        Transition.skipActivityLED inState
          (fun both => both.2 configured)
    · simpa [supported, configured] using
        Transition.activityLED inState supported configured
  · simpa [supported] using
      Transition.skipActivityLED inState
        (fun both => supported both.1)

theorem caseDetermineAddress_turn
    (inState : world.daemon.eModuleState = .determineAddress) :
    Turn env.now bTimeout world.toLedger
      (caseDetermineAddress env bTimeout world).toLedger := by
  by_cases known : world.daemon.sFlags.uAddressKnown = true
  · have falls : fallsThrough world.daemon = true := by
      simp [fallsThrough, inState, known]
    have second :=
      caseActivityLED_transition env bTimeout
        ((world.update (Daemon.setRetries 0)).assign env .activityLED) rfl
    simpa [caseDetermineAddress, known] using
      Turn.fall falls (Transition.addressKnown inState known)
        (Turn.last rfl second)
  · have unknown : world.daemon.sFlags.uAddressKnown = false := by
      simpa using known
    have ends : fallsThrough world.daemon = false := by
      simp [fallsThrough, inState, unknown]
    by_cases timeout : bTimeout = true
    · by_cases remaining :
          world.daemon.u32Retries + 1 < maxAddressRetries
      · simpa [caseDetermineAddress, unknown, timeout, remaining] using
          Turn.last ends
            (Transition.requestAddress inState unknown rfl remaining)
      · simpa [caseDetermineAddress, unknown, timeout, remaining] using
          Turn.last ends
            (Transition.resetModule inState unknown rfl remaining)
    · have waiting : waits env.now bTimeout world.daemon = true := by
        simp [waits, inState, unknown, timeout]
      simpa [caseDetermineAddress, unknown, timeout] using
        Turn.wait waiting

theorem caseDetermineConfiguration_turn
    (inState : world.daemon.eModuleState = .determineConfiguration) :
    Turn env.now bTimeout world.toLedger
      (caseDetermineConfiguration env bTimeout world).toLedger := by
  by_cases known : world.daemon.sFlags.uConfigKnown = true
  · have falls : fallsThrough world.daemon = true := by
      simp [fallsThrough, inState, known]
    have rest :=
      caseDetermineAddress_turn env bTimeout
        ((world.assign env .determineAddress).update
          Daemon.forgetAddress) rfl
    simpa [caseDetermineConfiguration, known] using
      Turn.fall falls (Transition.configurationKnown inState known) rest
  · have unknown : world.daemon.sFlags.uConfigKnown = false := by
      simpa using known
    have ends : fallsThrough world.daemon = false := by
      simp [fallsThrough, inState, unknown]
    simpa [caseDetermineConfiguration, unknown] using
      Turn.last ends (Transition.requestConfiguration inState unknown)

theorem caseConfigureFrontEnd_transition
    (inState : world.daemon.eModuleState = .configureFrontend) :
    Transition env.now bTimeout world.toLedger
      (caseConfigureFrontEnd env world).toLedger := by
  unfold caseConfigureFrontEnd eJennicModuleWriteFrontEndConfig
  by_cases supported : world.daemon.atLeast 1 4 0 = true
  · by_cases single : world.daemon.iAntennaDiversity = 0
    · simpa [supported, single] using
        Transition.configureFrontEnd inState supported single
    · simpa [supported, single] using
        Transition.configureFrontEndDiversity inState supported single
  · have unsupported : world.daemon.atLeast 1 4 0 = false := by
      simpa using supported
    simpa [unsupported] using
      Transition.skipFrontEnd inState unsupported

theorem caseStartModule_transition
    (inState : world.daemon.eModuleState = .startModule) :
    Transition env.now bTimeout world.toLedger
      (caseStartModule env world).toLedger := by
  unfold caseStartModule
  by_cases frontEnd : world.daemon.atLeast 1 4 0 = true
  · simpa [frontEnd] using
      Transition.startModule inState rfl (Or.inl frontEnd)
  · by_cases supported : world.daemon.atLeast 1 1 0 = true
    · simpa [frontEnd, supported] using
        Transition.startModule inState rfl (Or.inr supported)
    · simpa [frontEnd, supported] using
        Transition.startOldModule inState (by simpa using frontEnd)
          (by simpa using supported)

theorem caseConfigureProfile_transition
    (inState : world.daemon.eModuleState = .configureProfile) :
    Transition env.now bTimeout world.toLedger
      (caseConfigureProfile env world).toLedger := by
  unfold caseConfigureProfile eJennicModuleWriteProfile
  by_cases supported : world.daemon.atLeast 1 1 0 = true
  · simpa [supported] using
      Transition.configureProfile inState supported
  · simpa [supported] using
      Transition.skipProfile inState (by simpa using supported)

theorem caseConfigureSecurity_transition
    (inState : world.daemon.eModuleState = .configureSecurity) :
    Transition env.now bTimeout world.toLedger
      (caseConfigureSecurity host env world).toLedger := by
  unfold caseConfigureSecurity
  by_cases secure : world.daemon.iSecureNetwork = 0
  · by_cases supported : world.daemon.atLeast 1 1 0 = true
    · simpa [secure, supported] using
        Transition.skipSecurity inState secure rfl
    · simpa [secure, supported] using
        Transition.skipSecurity inState secure rfl
  · by_cases supported : world.daemon.atLeast 1 1 0 = true
    · simpa [secure, supported] using
        Transition.configureSecurity inState secure rfl
    · simpa [secure, supported] using
        Transition.configureSecurity inState secure rfl

theorem caseConfigureNetwork_transition
    (inState : world.daemon.eModuleState = .configureNetwork) :
    Transition env.now bTimeout world.toLedger
      (caseConfigureNetwork host env world).toLedger := by
  unfold caseConfigureNetwork
  rw [World.assign_toLedger, (eJennicModuleWriteConfig_spec _ _ _).2]
  exact Transition.configureNetwork inState

theorem caseDetermineVersion_turn
    (inState : world.daemon.eModuleState = .determineVersion) :
    Turn env.now bTimeout world.toLedger
      (caseDetermineVersion host env world).toLedger := by
  by_cases known : world.daemon.sFlags.uVersionKnown = true
  · have falls : fallsThrough world.daemon = true := by
      simp [fallsThrough, inState, known]
    have second :=
      caseConfigureNetwork_transition host env bTimeout
        ((world.update (Daemon.setRetries 0)).assign env
          .configureNetwork) rfl
    simpa [caseDetermineVersion, known] using
      Turn.fall falls (Transition.versionKnown inState known)
        (Turn.last rfl second)
  · have unknown : world.daemon.sFlags.uVersionKnown = false := by
      simpa using known
    have ends : fallsThrough world.daemon = false := by
      simp [fallsThrough, inState, unknown]
    by_cases remaining : world.daemon.u32Retries + 1 < maxVersionRetries
    · simpa [caseDetermineVersion, unknown, remaining] using
        Turn.last ends
          (Transition.requestVersion inState unknown remaining)
    · simpa [caseDetermineVersion, unknown, remaining] using
        Turn.last ends
          (Transition.presumeVersion inState unknown remaining)

/-- A call of the state machine records itself and makes a turn. -/
theorem stateMachine_turn :
    Turn env.now bTimeout
      (world.toLedger.record env.now (.called bTimeout))
      (eJennicModuleStateMachine host env bTimeout world).2.toLedger := by
  have called :
      (world.record env (.called bTimeout)).toLedger =
        world.toLedger.record env.now (.called bTimeout) := rfl
  rw [← called]
  generalize recorded : world.record env (.called bTimeout) = current
  unfold eJennicModuleStateMachine
  rw [recorded]
  -- the cases that never fall through
  have single {after : World}
      (ends : fallsThrough current.daemon = false)
      (transition : Transition env.now bTimeout current.toLedger
        after.toLedger) :
      Turn env.now bTimeout current.toLedger
        (checkComms env after).2.toLedger := by
    rw [checkComms_toLedger]
    exact .last ends transition
  cases inState : current.daemon.eModuleState with
  | idle =>
      have waiting : waits env.now bTimeout current.daemon = true := by
        simp [waits, inState]
      simpa [inState] using Turn.wait waiting
  | determineVersion =>
      simpa [inState] using
        caseDetermineVersion_turn host env bTimeout current inState
  | configureNetwork =>
      simpa [inState] using
        single (by simp [fallsThrough, inState])
          (caseConfigureNetwork_transition host env bTimeout current
            inState)
  | configureSecurity =>
      simpa [inState] using
        single (by simp [fallsThrough, inState])
          (caseConfigureSecurity_transition host env bTimeout current
            inState)
  | configureProfile =>
      simpa [inState] using
        single (by simp [fallsThrough, inState])
          (caseConfigureProfile_transition env bTimeout current inState)
  | startModule =>
      simpa [inState] using
        single (by simp [fallsThrough, inState])
          (caseStartModule_transition env bTimeout current inState)
  | configureFrontend =>
      simpa [inState] using
        single (by simp [fallsThrough, inState])
          (caseConfigureFrontEnd_transition env bTimeout current inState)
  | determineConfiguration =>
      simpa [inState] using
        caseDetermineConfiguration_turn env bTimeout current inState
  | determineAddress =>
      simpa [inState] using
        caseDetermineAddress_turn env bTimeout current inState
  | activityLED =>
      simpa [inState] using
        single (by simp [fallsThrough, inState])
          (caseActivityLED_transition env bTimeout current inState)
  | running =>
      have pinged := eJennicModulePing_turn env bTimeout current inState
      by_cases answered : (eJennicModulePing env false current).1 = .ok
      · simpa [inState, answered] using pinged
      · simpa [inState, answered] using pinged

theorem stateMachine_transitions :
    Transitions env.now bTimeout
      (world.toLedger.record env.now (.called bTimeout))
      (eJennicModuleStateMachine host env bTimeout world).2.toLedger :=
  (stateMachine_turn host env bTimeout world).transitions

end Cases

end SixLoWPANd.JennicModule
