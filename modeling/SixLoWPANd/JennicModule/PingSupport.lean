import SixLoWPANd.JennicModule.Communication
import SixLoWPANd.JennicModule.Remembering
import SixLoWPANd.JennicModule.SupportedMessages

/-!
# The flag for ping support

A version report sets `sFlags.uSupportsPing` if the version supports PING
frames, and leaves it alone if not.  The flag follows the version held as long
as no report of an older version comes when the flag is set, and from such a
report on it does not.
-/

namespace SixLoWPANd.JennicModule

open SixLoWPANd.Foundation

/-- The variables that a version report sets. -/
def versionPart (daemon : Daemon) : UInt32 × Bool × Bool :=
  (daemon.u32JennicDeviceVersion, daemon.sFlags.uVersionKnown,
    daemon.sFlags.uSupportsPing)

/-- The communication test can fail. -/
def timeoutArmed (daemon : Daemon) : Prop :=
  ∃ now, silent daemon now = true

/-- Ping support is noted exactly for a known version from 1.1.0 on, and the
communication test is armed for such versions only. -/
structure PingFollowsVersion (daemon : Daemon) : Prop where
  supports : daemon.sFlags.uSupportsPing = true ↔
    daemon.sFlags.uVersionKnown = true ∧ daemon.atLeast 1 1 0 = true
  armed : timeoutArmed daemon → daemon.atLeast 1 1 0 = true

/-- A report of a version without PING frames does not meet the flag set. -/
def reportKeepsPing (world : World) (call : ApiCall) : Prop :=
  ∀ report ∈ reportOf call,
    jennicVersion 1 1 0 ≤ report.version ∨
      world.daemon.sFlags.uSupportsPing = false

instance (world : World) (call : ApiCall) :
    Decidable (reportKeepsPing world call) :=
  inferInstanceAs (Decidable (∀ report ∈ reportOf call, _ ∨ _))

/-- The variables after a report, if there is one. -/
def Daemon.hear (report : Option Report) (daemon : Daemon) : Daemon :=
  match report with
  | some report =>
      daemon.reportVersion report.major report.minor report.revision
  | none => daemon

/-! ## One call -/

theorem transition_versionPart {now : Int} {bTimeout : Bool}
    {before after : Ledger}
    (transition : Transition now bTimeout before after) :
    versionPart after.daemon = versionPart before.daemon := by
  rw [versionPart, transition_version transition,
    transition_versionKnown transition,
    transition_supportsPing transition, versionPart]

theorem turn_versionPart {now : Int} {bTimeout : Bool}
    {before after : Ledger} (turn : Turn now bTimeout before after) :
    versionPart after.daemon = versionPart before.daemon :=
  transitions_invariant
    (fun _ _ transition held =>
      (transition_versionPart transition).trans held)
    turn.transitions rfl

theorem handling_versionPart {host : Host} {call : ApiCall}
    {u8Message : UInt8} {u32Length : UInt32} {pu8Data : Nat → UInt8}
    {eStatus : ModuleStatus} {before handled : Ledger}
    (isMessage : call.input = .message u8Message u32Length pu8Data)
    (handling : Handling host call.env.now u8Message u32Length pu8Data
      eStatus before handled) :
    versionPart handled.daemon =
      versionPart (before.daemon.hear (reportOf call)) := by
  by_cases carries : carriesVersion u8Message u32Length
  · rw [handling_version handling carries]
    simp [reportOf, isMessage, carries, Daemon.hear]
  · have silent : reportOf call = none := by
      simp [reportOf, isMessage, carries]
    rw [silent]
    cases handling with
    | version reported =>
        exact absurd reported carries
    | _ =>
        rfl

/-- Only a report changes the version variables. -/
theorem effect_versionPart {host : Host} {call : ApiCall}
    {before after : Ledger} (effect : Effect host call before after) :
    versionPart after.daemon =
      versionPart (before.daemon.hear (reportOf call)) := by
  cases effect with
  | rejected isMessage handling =>
      have heard := handling_versionPart isMessage handling
      exact heard
  | processed isMessage handling turn =>
      have heard := handling_versionPart isMessage handling
      rw [turn_versionPart turn]
      exact heard
  | ticked isTimeout turn =>
      rw [turn_versionPart turn]
      simp [reportOf, isTimeout, Daemon.hear]
  | forwarded isPacket | unread isPacket =>
      simp [reportOf, isPacket, Daemon.hear]

/-! ## Exactly when the flag goes on to follow the version -/

/-- The communication test is not armed without ping support. -/
theorem pingFollowsVersion_iff (daemon : Daemon) :
    PingFollowsVersion daemon ↔
      (daemon.sFlags.uSupportsPing = true ↔
        daemon.sFlags.uVersionKnown = true ∧
          daemon.atLeast 1 1 0 = true) := by
  constructor
  · exact PingFollowsVersion.supports
  · intro supports
    refine ⟨supports, ?_⟩
    rintro ⟨now, isSilent⟩
    simp only [silent, Bool.and_eq_true] at isSilent
    exact (supports.mp isSilent.1.2).2

theorem pingFollowsVersion_congr {first second : Daemon}
    (same : versionPart first = versionPart second) :
    PingFollowsVersion first ↔ PingFollowsVersion second := by
  simp only [versionPart, Prod.mk.injEq] at same
  obtain ⟨version, known, supportsPing⟩ := same
  simp only [pingFollowsVersion_iff, Daemon.atLeast, version, known,
    supportsPing]

theorem pingFollowsVersion_report_iff (daemon : Daemon) (report : Report) :
    PingFollowsVersion (daemon.hear (some report)) ↔
      jennicVersion 1 1 0 ≤ report.version ∨
        daemon.sFlags.uSupportsPing = false := by
  have version :
      (daemon.hear (some report)).atLeast 1 1 0 =
        decide (jennicVersion 1 1 0 ≤ report.version) := rfl
  have supportsPing :
      (daemon.hear (some report)).sFlags.uSupportsPing =
        if jennicVersion 1 1 0 ≤ report.version then true
        else daemon.sFlags.uSupportsPing := rfl
  have known :
      (daemon.hear (some report)).sFlags.uVersionKnown = true := rfl
  rw [pingFollowsVersion_iff, version, supportsPing, known]
  by_cases supported : jennicVersion 1 1 0 ≤ report.version
  · simp [supported]
  · simp [supported]

/-- A call keeps the flag and the version together exactly if it keeps the
flag for good. -/
theorem pingFollowsVersion_step_iff (host : Host) (world : World)
    (call : ApiCall) (follows : PingFollowsVersion world.daemon) :
    PingFollowsVersion (step host world call).daemon ↔
      reportKeepsPing world call := by
  rw [pingFollowsVersion_congr
    (effect_versionPart (step_effect host world call))]
  cases heard : reportOf call with
  | none =>
      simp [reportKeepsPing, heard, Daemon.hear, follows]
  | some report =>
      simp [reportKeepsPing, heard, pingFollowsVersion_report_iff]

theorem pingFollowsVersion_started (host : Host) (env : Env)
    (settings : Settings) :
    PingFollowsVersion (started host env settings).daemon := by
  rw [pingFollowsVersion_congr
    (turn_versionPart (started_turn host env settings)),
    pingFollowsVersion_iff]
  simp [startLedger, Daemon.boot, Flags.zero]

/-- In every run, the flag follows the version in every state reached if and
only if no report of a version without PING frames meets the flag set. -/
theorem ping_follows_version_iff
    (host : Host) (env : Env) (settings : Settings)
    (calls : List ApiCall) :
    (∀ earlier, earlier <+: calls →
        PingFollowsVersion (runFrom host env settings earlier).daemon) ↔
      EveryStep (step host) reportKeepsPing (started host env settings)
        calls :=
  @run_invariant_iff World ApiCall (step host)
    (fun world => PingFollowsVersion world.daemon) reportKeepsPing
    (pingFollowsVersion_step_iff host) _
    (pingFollowsVersion_started host env settings) calls

/-- A module that reports version 1.1.0 and then, after it has been exchanged,
version 1.0.0. -/
theorem ping_support_outlived :
    ¬ ∀ host env settings calls,
      PingFollowsVersion (runFrom host env settings calls).daemon := by
  intro always
  have follows :=
    always sampleHost (granting 0) Settings.default
      [messageAt 1 .version [1, 1, 0], messageAt 2 .version [1, 0, 0]]
  have supports := (pingFollowsVersion_iff _).mp follows
  revert supports
  decide +kernel

end SixLoWPANd.JennicModule
