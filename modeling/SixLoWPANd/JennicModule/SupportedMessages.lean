import Mathlib.Data.List.Chain
import Mathlib.Data.Prod.Lex
import SixLoWPANd.JennicModule.ReadBack

/-!
# Messages that the firmware supports

The daemon packs a reported version into one word and compares words.  Of
packed reports the words are ordered as the reports are, lexicographically.
Some frames are behind a test of the version, the others behind a state or a
flag that is reached with a sufficient version only; as long as the reported
versions never decrease, each frame is supported by the version reported last.
-/

namespace SixLoWPANd.JennicModule

open SixLoWPANd.Foundation

/-- A reported version. -/
structure Report where
  major : UInt8
  minor : UInt8
  revision : UInt8
  deriving DecidableEq

namespace Report

def version (report : Report) : UInt32 :=
  jennicVersion report.major.toUInt32 report.minor.toUInt32
    report.revision.toUInt32

/-- The report in the lexicographic order. -/
def order (report : Report) : Nat ×ₗ Nat ×ₗ Nat :=
  toLex
    (report.major.toNat, toLex (report.minor.toNat, report.revision.toNat))

theorem version_toNat (report : Report) :
    report.version.toNat =
      2 ^ 8 * (2 ^ 8 * report.major.toNat + report.minor.toNat) +
        report.revision.toNat := by
  have majorBound := report.major.toNat_lt
  have minorBound := report.minor.toNat_lt
  have revisionBound := report.revision.toNat_lt
  have high : report.major.toNat <<< 16 % 2 ^ 32 =
      2 ^ 16 * report.major.toNat := by
    rw [Nat.shiftLeft_eq]
    omega
  have middle : report.minor.toNat <<< 8 % 2 ^ 32 =
      2 ^ 8 * report.minor.toNat := by
    rw [Nat.shiftLeft_eq]
    omega
  have low : report.revision.toNat <<< 0 % 2 ^ 32 =
      report.revision.toNat := by
    rw [Nat.shiftLeft_eq]
    omega
  have belowHigh : 2 ^ 8 * report.minor.toNat < 2 ^ 16 := by omega
  have grouped :
      2 ^ 16 * report.major.toNat + 2 ^ 8 * report.minor.toNat =
        2 ^ 8 * (2 ^ 8 * report.major.toNat + report.minor.toNat) := by
    omega
  simp only [version, jennicVersion, UInt32.toNat_or,
    UInt32.toNat_shiftLeft, UInt8.toNat_toUInt32, UInt32.reduceToNat,
    Nat.reduceMod, high, middle, low]
  rw [← Nat.two_pow_add_eq_or_of_lt belowHigh, grouped,
    ← Nat.two_pow_add_eq_or_of_lt revisionBound]

/-- Packed versions are compared as the reports are. -/
theorem version_le_iff (first second : Report) :
    first.version ≤ second.version ↔ first.order ≤ second.order := by
  have firstMinor := first.minor.toNat_lt
  have firstRevision := first.revision.toNat_lt
  have secondMinor := second.minor.toNat_lt
  have secondRevision := second.revision.toNat_lt
  rw [UInt32.le_iff_toNat_le]
  simp only [version_toNat, order, Prod.Lex.toLex_le_toLex]
  omega

end Report

/-! ## Reports of a run -/

/-- The version that a call reports. -/
def reportOf (call : ApiCall) : Option Report :=
  match call.input with
  | .message u8Message u32Length pu8Data =>
      if carriesVersion u8Message u32Length then
        some ⟨pu8Data 0, pu8Data 1, pu8Data 2⟩
      else
        none
  | _ => none

def reports (calls : List ApiCall) : List Report :=
  calls.filterMap reportOf

def lastReport (calls : List ApiCall) : Option Report :=
  (reports calls).getLast?

/-- No report is below the one before it. -/
def reportsNondecreasing (calls : List ApiCall) : Prop :=
  (reports calls).IsChain fun earlier later => earlier.order ≤ later.order

instance (calls : List ApiCall) : Decidable (reportsNondecreasing calls) :=
  inferInstanceAs (Decidable (List.IsChain _ _))

/-- A version has been reported that is at least the given one. -/
def reported (report : Option Report) (required : Report) : Prop :=
  match report with
  | none => False
  | some report => required.order ≤ report.order

/-- A module with the last report supports frames of the type. -/
def supportedBy (report : Option Report) (u8Type : SLMsgType) : Prop :=
  match u8Type with
  | .versionRequest | .config | .security | .runCoordinator | .runRouter
  | .runCommissioning | .addr | .reset | .ipv6 => True
  | .profile | .configRequest | .ping => reported report ⟨1, 1, 0⟩
  | .activityLED => reported report ⟨1, 3, 0⟩
  | .setRadioFrontend | .enableDiversity => reported report ⟨1, 4, 0⟩
  | .version | .ipv4 | .log => False

/-- All frames among the entries are supported. -/
def framesSupported (report : Option Report) (entries : List Entry) :
    Prop :=
  ∀ entry ∈ entries, ∀ u8Type, entry.wrote u8Type = true →
    supportedBy report u8Type

theorem framesSupported_cons (report : Option Report) (entry : Entry)
    (entries : List Entry) :
    framesSupported report (entry :: entries) ↔
      (∀ u8Type, entry.wrote u8Type = true →
          supportedBy report u8Type) ∧
        framesSupported report entries := by
  simp [framesSupported]

theorem reports_append (earlier : List ApiCall) (call : ApiCall) :
    reports (earlier ++ [call]) =
      reports earlier ++ (reportOf call).toList := by
  unfold reports
  rw [List.filterMap_append]
  cases isReport : reportOf call with
  | none =>
      simp [isReport]
  | some report =>
      simp [isReport]

theorem lastReport_append (earlier : List ApiCall) (call : ApiCall) :
    lastReport (earlier ++ [call]) =
      (reportOf call).or (lastReport earlier) := by
  rw [lastReport, reports_append, List.getLast?_append]
  cases reportOf call with
  | none =>
      rfl
  | some report =>
      rfl

theorem reportsNondecreasing_append (earlier : List ApiCall)
    (call : ApiCall) :
    reportsNondecreasing (earlier ++ [call]) ↔
      reportsNondecreasing earlier ∧
        ∀ before ∈ lastReport earlier, ∀ report ∈ reportOf call,
          before.order ≤ report.order := by
  rw [reportsNondecreasing, reports_append, List.isChain_append]
  cases reportOf call with
  | none =>
      simp [reportsNondecreasing]
  | some report =>
      simp [reportsNondecreasing, lastReport]

/-! ## The invariant -/

/-- The version variable for the last report. -/
def versionOf (report : Option Report) : UInt32 :=
  match report with
  | none => 0
  | some report => report.version

/-- What the variables say about the last report. -/
structure SupportInvariant (report : Option Report) (daemon : Daemon) :
    Prop where
  held : daemon.u32JennicDeviceVersion = versionOf report
  pings : daemon.sFlags.uSupportsPing = true →
    daemon.atLeast 1 1 0 = true
  reading : readsBack daemon.eModuleState → daemon.atLeast 1 1 0 = true

/-- The test of the version finds out whether enough has been reported. -/
theorem reported_of_atLeast {report : Option Report} {daemon : Daemon}
    (held : daemon.u32JennicDeviceVersion = versionOf report)
    {required : Report} (positive : 0 < required.version)
    (supported : required.version ≤ daemon.u32JennicDeviceVersion) :
    reported report required := by
  rw [held] at supported
  cases report with
  | none =>
      exact absurd positive (UInt32.not_lt.mpr supported)
  | some report =>
      exact (Report.version_le_iff required report).mp supported

namespace SupportInvariant

variable {report : Option Report} {daemon : Daemon}

theorem reported (invariant : SupportInvariant report daemon)
    (major minor revision : UInt8)
    (positive : 0 < (⟨major, minor, revision⟩ : Report).version)
    (supported : daemon.atLeast major.toUInt32 minor.toUInt32
      revision.toUInt32 = true) :
    JennicModule.reported report ⟨major, minor, revision⟩ :=
  reported_of_atLeast invariant.held positive (of_decide_eq_true supported)

/-- Only the version, the flag and the state matter. -/
theorem congr {first second : Daemon}
    (invariant : SupportInvariant report first)
    (sameVersion :
      second.u32JennicDeviceVersion = first.u32JennicDeviceVersion)
    (samePing : second.sFlags.uSupportsPing = first.sFlags.uSupportsPing)
    (reading : readsBack second.eModuleState →
      first.atLeast 1 1 0 = true) :
    SupportInvariant report second := by
  have sameAnswer : second.atLeast 1 1 0 = first.atLeast 1 1 0 := by
    rw [Daemon.atLeast, Daemon.atLeast, sameVersion]
  constructor
  · rw [sameVersion]
    exact invariant.held
  · rw [samePing, sameAnswer]
    exact invariant.pings
  · rw [sameAnswer]
    exact reading

end SupportInvariant

/-- The invariant of a call: the variables fit the last report, and the frames
written since `base` are supported. -/
structure Supporting (report : Option Report) (base : List Entry)
    (ledger : Ledger) : Prop where
  fits : SupportInvariant report ledger.daemon
  frames : ∃ newer, ledger.history = newer ++ base ∧
    framesSupported report newer

namespace Supporting

variable {report : Option Report} {base : List Entry} {ledger : Ledger}

theorem record (supporting : Supporting report base ledger) (now : Int)
    (event : Event)
    (supported : ∀ u8Type,
      Entry.wrote u8Type ⟨event, now, ledger.daemon⟩ = true →
        supportedBy report u8Type) :
    Supporting report base (ledger.record now event) where
  fits := supporting.fits
  frames := by
    obtain ⟨newer, history, frames⟩ := supporting.frames
    refine ⟨_ :: newer, congrArg _ history, ?_⟩
    exact (framesSupported_cons _ _ _).mpr ⟨supported, frames⟩

theorem write (supporting : Supporting report base ledger) (now : Int)
    (u8Type : SLMsgType) (payload : List UInt8)
    (supported : supportedBy report u8Type) :
    Supporting report base (ledger.record now (.wrote u8Type payload)) := by
  apply supporting.record
  intro written isWritten
  have same : u8Type = written := of_decide_eq_true isWritten
  rw [← same]
  exact supported

theorem update (supporting : Supporting report base ledger)
    (change : Daemon → Daemon)
    (sameVersion :
      (change ledger.daemon).u32JennicDeviceVersion =
        ledger.daemon.u32JennicDeviceVersion)
    (samePing :
      (change ledger.daemon).sFlags.uSupportsPing =
        ledger.daemon.sFlags.uSupportsPing)
    (sameState :
      (change ledger.daemon).eModuleState = ledger.daemon.eModuleState) :
    Supporting report base (ledger.update change) where
  fits := by
    apply supporting.fits.congr sameVersion samePing
    rw [sameState]
    exact supporting.fits.reading
  frames := supporting.frames

theorem assign (supporting : Supporting report base ledger) (now : Int)
    (next : ModuleState)
    (reading : readsBack next → ledger.daemon.atLeast 1 1 0 = true) :
    Supporting report base (ledger.assign now next) where
  fits := supporting.fits.congr rfl rfl reading
  frames := (supporting.record now (.assigned next) (fun _ => nofun)).frames

theorem assignOther (supporting : Supporting report base ledger)
    (now : Int) (next : ModuleState) (other : ¬ readsBack next) :
    Supporting report base (ledger.assign now next) :=
  supporting.assign now next fun reading => absurd reading other

theorem runModule (supporting : Supporting report base ledger)
    (now : Int) : Supporting report base (ledger.runModule now) := by
  obtain same | ⟨u8Type, isRun, run⟩ := ledger.runModule_cases now
  · rw [same]
    exact supporting
  · have supported : supportedBy report u8Type := by
      have chosen := isRun now ledger.daemon
      cases u8Type <;>
        simp_all [Entry.wroteRun, Entry.wrote, supportedBy]
    rw [run]
    exact supporting.write now u8Type [] supported

theorem transition {after : Ledger} {now : Int} {bTimeout : Bool}
    (supporting : Supporting report base ledger)
    (transition : Transition now bTimeout ledger after) :
    Supporting report base after := by
  have fits := supporting.fits
  have atLeast_of_frontEnd : ledger.daemon.atLeast 1 4 0 = true →
      ledger.daemon.atLeast 1 1 0 = true := by
    intro supported
    have reached :
        jennicVersion 1 4 0 ≤ ledger.daemon.u32JennicDeviceVersion :=
      of_decide_eq_true supported
    exact decide_eq_true (UInt32.le_trans (by decide) reached)
  cases transition with
  | requestVersion =>
      exact
        (supporting.update _ rfl rfl rfl).write now .versionRequest _
          trivial
  | presumeVersion | versionKnown | addressKnown =>
      exact
        (supporting.update _ rfl rfl rfl).assignOther now _
          (by simp [readsBack])
  | configureNetwork =>
      exact
        (supporting.write now .config _ trivial).assignOther now _
          (by simp [readsBack])
  | configureSecurity _ _ chosen =>
      subst chosen
      apply (supporting.write now .security _ trivial).assignOther
      split <;> simp [readsBack]
  | skipSecurity _ _ chosen =>
      subst chosen
      apply supporting.assignOther
      split <;> simp [readsBack]
  | configureProfile _ supported =>
      have reached := fits.reported 1 1 0 (by decide) supported
      exact
        (supporting.write now .profile _ reached).assignOther now _
          (by simp [readsBack])
  | skipProfile | skipActivityLED =>
      exact supporting.assignOther now _ (by simp [readsBack])
  | startModule _ _ supported =>
      apply (supporting.runModule now).assign
      intro _
      rw [Ledger.runModule_daemon]
      exact supported.elim atLeast_of_frontEnd id
  | startOldModule =>
      refine ((supporting.runModule now).update _ ?_ ?_ ?_).assignOther
        now _ (by simp [readsBack])
      · rfl
      · rfl
      · rfl
  | configureFrontEnd _ supported =>
      have reached := fits.reported 1 4 0 (by decide) supported
      apply (supporting.write now .setRadioFrontend _ reached).assign
      exact fun _ => atLeast_of_frontEnd supported
  | configureFrontEndDiversity _ supported =>
      have reached := fits.reported 1 4 0 (by decide) supported
      apply ((supporting.write now .setRadioFrontend _ reached).write now
        .enableDiversity _ reached).assign
      exact fun _ => atLeast_of_frontEnd supported
  | skipFrontEnd inState =>
      apply supporting.assign
      exact fun _ => fits.reading (Or.inl inState)
  | requestConfiguration inState =>
      have supported := fits.reading (Or.inr inState)
      have reached := fits.reported 1 1 0 (by decide) supported
      exact supporting.write now .configRequest _ reached
  | configurationKnown =>
      have located :=
        supporting.assignOther now .determineAddress (by simp [readsBack])
      exact located.update _ rfl rfl rfl
  | requestAddress =>
      have forgotten :=
        (supporting.update
          (Daemon.setRetries (ledger.daemon.u32Retries + 1)) rfl rfl
          rfl).update Daemon.forgetAddress rfl rfl rfl
      exact forgotten.write now .addr _ trivial
  | resetModule =>
      have back :=
        (supporting.update
          (Daemon.setRetries (ledger.daemon.u32Retries + 1)) rfl rfl
          rfl).assignOther now .determineVersion (by simp [readsBack])
      exact back.write now .reset _ trivial
  | activityLED _ supported =>
      have reached := fits.reported 1 3 0 (by decide) supported
      exact
        (supporting.write now .activityLED _ reached).assignOther now _
          (by simp [readsBack])
  | ping _ pings =>
      have supported := fits.pings pings
      have reached := fits.reported 1 1 0 (by decide) supported
      exact (supporting.write now .ping _ reached).update _ rfl rfl rfl

theorem turn {after : Ledger} {now : Int} {bTimeout : Bool}
    (supporting : Supporting report base ledger)
    (turn : Turn now bTimeout ledger after) :
    Supporting report base after :=
  turn_preserves
    (fun transition supporting => Supporting.transition supporting
      transition)
    turn supporting

theorem called (supporting : Supporting report base ledger) (now : Int)
    (bTimeout : Bool) :
    Supporting report base (ledger.record now (.called bTimeout)) :=
  supporting.record now _ (fun _ => nofun)

theorem complete (supporting : Supporting report base ledger) (now : Int)
    (u8Message : UInt8) (u32Length : UInt32) (eStatus : ModuleStatus) :
    Supporting report base
      (ledger.complete now u8Message u32Length eStatus) :=
  (supporting.record now (.handled u8Message u32Length eStatus)
    (fun _ => nofun)).update _ rfl rfl rfl

/-- Nothing has been written since the beginning of a call. -/
theorem begin (fits : SupportInvariant report ledger.daemon) :
    Supporting report ledger.history ledger where
  fits := fits
  frames := ⟨[], rfl, fun _ member => absurd member List.not_mem_nil⟩

end Supporting

/-- A report that is not below the last one keeps what was supported. -/
theorem SupportInvariant.report {before : Option Report} {daemon : Daemon}
    (invariant : SupportInvariant before daemon) (report : Report)
    (nondecreasing : ∀ earlier ∈ before, earlier.order ≤ report.order) :
    SupportInvariant (some report)
      (daemon.reportVersion report.major report.minor report.revision) := by
  have grows : daemon.u32JennicDeviceVersion ≤ report.version := by
    rw [invariant.held]
    cases before with
    | none =>
        exact UInt32.zero_le
    | some earlier =>
        exact
          (Report.version_le_iff earlier report).mpr
            (nondecreasing earlier rfl)
  have kept : daemon.atLeast 1 1 0 = true →
      (daemon.reportVersion report.major report.minor
        report.revision).atLeast 1 1 0 = true := by
    intro supported
    exact
      decide_eq_true (UInt32.le_trans (of_decide_eq_true supported) grows)
  constructor
  · rfl
  · intro pings
    by_cases supported : jennicVersion 1 1 0 ≤ report.version
    · exact decide_eq_true supported
    · have lower : ¬ jennicVersion 1 1 0 ≤
          jennicVersion report.major.toUInt32 report.minor.toUInt32
            report.revision.toUInt32 := supported
      apply kept
      apply invariant.pings
      simpa [Daemon.reportVersion, lower] using pings
  · exact fun reading => kept (invariant.reading reading)

theorem handling_supporting {host : Host} {call : ApiCall}
    {u8Message : UInt8} {u32Length : UInt32} {pu8Data : Nat → UInt8}
    {eStatus : ModuleStatus} {before after : Ledger}
    {report : Option Report}
    (isMessage : call.input = .message u8Message u32Length pu8Data)
    (handling : Handling host call.env.now u8Message u32Length pu8Data
      eStatus before after)
    (fits : SupportInvariant report before.daemon)
    (nondecreasing : ∀ earlier ∈ report, ∀ later ∈ reportOf call,
      earlier.order ≤ later.order) :
    Supporting ((reportOf call).or report) before.history after := by
  by_cases carried : carriesVersion u8Message u32Length
  · have isReport : reportOf call =
        some ⟨pu8Data 0, pu8Data 1, pu8Data 2⟩ := by
      simp [reportOf, isMessage, carried]
    rw [handling_version handling carried]
    rw [isReport] at nondecreasing ⊢
    exact
      ⟨fits.report _ fun earlier member =>
          nondecreasing earlier member _ rfl,
        [], rfl, fun _ member => absurd member List.not_mem_nil⟩
  · have isNone : reportOf call = none := by
      simp [reportOf, isMessage, carried]
    have supporting := Supporting.begin fits
    rw [isNone]
    cases handling with
    | version reported =>
        exact absurd reported carried
    | detached | configIgnored | securityIgnored | addressNotStored =>
        exact supporting
    | config | security | addressStored =>
        exact supporting.update _ rfl rfl rfl
    | configRequest =>
        exact supporting.assignOther _ _ (by simp [readsBack])

/-- Every call writes supported frames only. -/
theorem effect_supporting {host : Host} {call : ApiCall}
    {before after : Ledger} {report : Option Report}
    (effect : Effect host call before after)
    (fits : SupportInvariant report before.daemon)
    (nondecreasing : ∀ earlier ∈ report, ∀ later ∈ reportOf call,
      earlier.order ≤ later.order) :
    Supporting ((reportOf call).or report) before.history after := by
  cases effect with
  | rejected isMessage handling =>
      exact
        (handling_supporting isMessage handling fits
          nondecreasing).complete _ _ _ _
  | processed isMessage handling turn =>
      exact
        (((handling_supporting isMessage handling fits
          nondecreasing).complete _ _ _ _).called _ _).turn turn
  | ticked isTimeout turn =>
      have isNone : reportOf call = none := by
        simp [reportOf, isTimeout]
      rw [isNone]
      exact ((Supporting.begin fits).called _ _).turn turn
  | forwarded isPacket =>
      have isNone : reportOf call = none := by
        simp [reportOf, isPacket]
      rw [isNone]
      exact (Supporting.begin fits).write _ .ipv6 _ trivial
  | unread isPacket =>
      have isNone : reportOf call = none := by
        simp [reportOf, isPacket]
      rw [isNone]
      exact .begin fits

/-- At the start nothing has been reported. -/
theorem started_supporting (host : Host) (env : Env)
    (settings : Settings) :
    Supporting none [] (started host env settings).toLedger := by
  have initial : Supporting none [] (startLedger env settings) := by
    constructor
    · constructor
      · rfl
      · exact fun supported => absurd supported Bool.false_ne_true
      · simp [readsBack, startLedger]
    · refine ⟨_, (List.append_nil _).symm, ?_⟩
      exact
        (framesSupported_cons _ _ _).mpr
          ⟨fun _ written => absurd written Bool.false_ne_true,
            fun _ member => absurd member List.not_mem_nil⟩
  exact (initial.called _ _).turn (started_turn host env settings)

theorem runFrom_append (host : Host) (env : Env) (settings : Settings)
    (earlier : List ApiCall) (call : ApiCall) :
    runFrom host env settings (earlier ++ [call]) =
      step host (runFrom host env settings earlier) call :=
  run_append _ _ _ _

theorem runFrom_support (host : Host) (env : Env) (settings : Settings)
    (calls : List ApiCall) (nondecreasing : reportsNondecreasing calls) :
    SupportInvariant (lastReport calls)
      (runFrom host env settings calls).daemon := by
  induction calls using List.reverseRecOn with
  | nil =>
      exact (started_supporting host env settings).fits
  | append_singleton earlier call inductionHypothesis =>
      obtain ⟨before, last⟩ :=
        (reportsNondecreasing_append earlier call).mp nondecreasing
      rw [lastReport_append, runFrom_append]
      exact
        (effect_supporting (step_effect host _ call)
          (inductionHypothesis before) last).fits

/-- In every run whose reports never decrease, the module supports each frame
by the version it has reported last when the frame is written. -/
theorem frames_supported
    (host : Host) (env : Env) (settings : Settings) :
    framesSupported none (started host env settings).history ∧
      ∀ (earlier : List ApiCall) (call : ApiCall),
        reportsNondecreasing (earlier ++ [call]) →
        ∃ newer,
          (runFrom host env settings (earlier ++ [call])).history =
              newer ++ (runFrom host env settings earlier).history ∧
            framesSupported (lastReport (earlier ++ [call])) newer := by
  constructor
  · obtain ⟨newer, history, frames⟩ :=
      (started_supporting host env settings).frames
    rw [history, List.append_nil]
    exact frames
  · intro earlier call nondecreasing
    obtain ⟨before, last⟩ :=
      (reportsNondecreasing_append earlier call).mp nondecreasing
    rw [lastReport_append, runFrom_append]
    exact
      (effect_supporting (step_effect host _ call)
        (runFrom_support host env settings earlier before) last).frames

/-- A module that reports version 1.0.0 and, before the network is started,
version 1.1.0: the call behind writes a PROFILE frame. -/
def updatedRun : List ApiCall :=
  [messageAt 1 .version [1, 0, 0], messageAt 2 .config [1, 1, 0]]

theorem frames_supported_updated :
    let before :=
      runFrom sampleHost (granting 0) Settings.default updatedRun
    let after :=
      runFrom sampleHost (granting 0) Settings.default
        (updatedRun ++ [tickAt 3])
    (∃ entry ∈ after.history, entry.wrote .profile = true) ∧
      ∃ newer, after.history = newer ++ before.history ∧
        framesSupported (lastReport (updatedRun ++ [tickAt 3])) newer :=
  ⟨by decide +kernel,
    (frames_supported sampleHost (granting 0) Settings.default).2
      updatedRun (tickAt 3) (by decide +kernel)⟩

end SixLoWPANd.JennicModule
