import SixLoWPANd.JennicModule.Outputs
import SixLoWPANd.MainLoop.Automaton

/-!
# The published address

The address that the module reports is stored in a file and registered with the
service announcer.  Both are done by one handler alone, so they follow the
reports of a run, whatever else happens in it: the file is closed behind every
call and holds what the last report has written.  As long as the file takes
everything, a running module is a module whose address is published.
-/

namespace SixLoWPANd.MainLoop

open SixLoWPANd.Foundation
open SixLoWPANd.JennicModule

/-! ## The address file -/

/-- What the address file holds, and whether the program has it open. -/
structure AddressFile where
  content : List Char
  isOpen : Bool
  deriving DecidableEq

/-- An operation on the file.  There is none on a descriptor that the program
does not have, and it does not open the file again before it closes it. -/
def AddressFile.perform (file : AddressFile) :
    FileOperation → Option AddressFile
  | .opened _ => if file.isOpen then none else some ⟨[], true⟩
  | .wrote text accepted =>
      if file.isOpen then
        some ⟨file.content ++ text.toList.take accepted, true⟩
      else
        none
  | .closed => if file.isOpen then some ⟨file.content, false⟩ else none

/-- The file behind the operations, newest first. -/
def fileBehind : List FileOperation → Option AddressFile
  | [] => some ⟨[], false⟩
  | operation :: past =>
      (fileBehind past).bind fun file => file.perform operation

/-! ## Reports -/

/-- The address that a call reports. -/
def reportedAddress (call : ApiCall) : Option In6Addr :=
  match call.input with
  | .message u8Message _ pu8Data =>
      if u8Message = SLMsgType.addr.code then some (.ofCells pu8Data 0)
      else none
  | _ => none

/-- What is in the file when its text has been stored, as far as it has. -/
def storedText (env : Env) (text : String) (before : List Char) :
    List Char :=
  match env.openFile, env.writeAddress, env.writeNewline with
  | .error _, _, _ => before
  | .ok _, .error _, _ => []
  | .ok _, .ok accepted, .error _ => text.toList.take accepted
  | .ok _, .ok accepted, .ok newline =>
      text.toList.take accepted ++ ['\n'].take newline

/-- The content of the file behind a report, if there is one. -/
def storedReport (host : Host) (env : Env) (report : Option In6Addr)
    (before : List Char) : List Char :=
  match report with
  | some address => storedText env (host.inetNtop address) before
  | none => before

/-- The registration of an address. -/
def registrationOf (host : Host) (address : In6Addr) : Registration where
  name := "JIP Border Router"
  hostname := "BR_" ++ host.cpTunDevice
  address := host.inetNtop address

/-- The registrations that a report leads to. -/
def registrationsOf (host : Host) (report : Option In6Addr) :
    List Registration :=
  if host.useZeroconf then
    (report.map (registrationOf host)).toList
  else
    []

/-- Between the two worlds lies a report, or none. -/
structure Publishes (host : Host) (env : Env) (report : Option In6Addr)
    (before after : World) : Prop where
  file : ∀ {content : List Char},
    fileBehind before.addressFile = some ⟨content, false⟩ →
      fileBehind after.addressFile =
        some ⟨storedReport host env report content, false⟩
  registrations :
    after.registrations =
      registrationsOf host report ++ before.registrations

namespace Publishes

variable {host : Host} {env : Env} {report : Option In6Addr}
variable {first second third : World}

theorem same (file : second.addressFile = first.addressFile)
    (registrations : second.registrations = first.registrations) :
    Publishes host env none first second := by
  constructor
  · intro content before
    rw [file]
    exact before
  · rw [registrations]
    unfold registrationsOf
    split <;> rfl

theorem quietly (published : Publishes host env report first second)
    (quiet : World.OnlyLogs second third) :
    Publishes host env report first third := by
  constructor
  · intro content before
    rw [quiet.addressFile]
    exact published.file before
  · rw [quiet.registrations]
    exact published.registrations

end Publishes

section Handlers

variable (host : Host) (env : Env) (u32Length : UInt32)
variable (pu8Data : TracedMemory UInt8) (world : World)

theorem writeAddressFile_file (buffer : String) {content : List Char}
    (before : fileBehind world.addressFile = some ⟨content, false⟩) :
    fileBehind (writeAddressFile host env buffer world).2.addressFile =
      some ⟨storedText env buffer content, false⟩ := by
  have newline : "\n".toList = ['\n'] := rfl
  unfold writeAddressFile storedText
  cases env.openFile with
  | error text =>
      exact before
  | ok opened =>
      cases env.writeAddress with
      | error text =>
          simp [World.daemonLog, fileBehind, before, AddressFile.perform]
      | ok accepted =>
          cases env.writeNewline with
          | error text =>
              simp [World.daemonLog, fileBehind, before,
                AddressFile.perform]
          | ok more =>
              simp [fileBehind, before, AddressFile.perform, newline]

theorem writeAddressFile_registrations (buffer : String) :
    (writeAddressFile host env buffer world).2.registrations =
      world.registrations := by
  unfold writeAddressFile
  cases env.openFile with
  | error text =>
      rfl
  | ok opened =>
      cases env.writeAddress with
      | error text =>
          rfl
      | ok accepted =>
          cases env.writeNewline with
          | error text =>
              rfl
          | ok more =>
              rfl

/-- The report is registered first, whatever becomes of the file. -/
theorem processMessageIPv6Address_publishes :
    Publishes host env (some (.ofCells pu8Data.cells 0)) world
      (eJennicModuleProcessMessageIPv6Address host env pu8Data
        world).world := by
  have stored (buffer : String) (named :
      host.inetNtop (.ofCells pu8Data.cells 0) = buffer) :
      Publishes host env (some (.ofCells pu8Data.cells 0)) world
        (writeAddressFile host env buffer
          (registerService host buffer
            (world.daemonLog logInfo
              ("Module address: " ++ buffer)))).2 := by
    subst named
    constructor
    · intro content before
      apply writeAddressFile_file
      unfold registerService
      split
      · exact before
      · exact before
    · rw [writeAddressFile_registrations]
      unfold registerService registrationsOf
      split
      · rfl
      · rfl
  have result :=
    stored (host.inetNtop (In6Addr.load pu8Data 0).1) (by simp)
  unfold eJennicModuleProcessMessageIPv6Address
  dsimp only
  split
  · exact ⟨result.file, result.registrations⟩
  · exact result

theorem processMessageConfig_publishes :
    Publishes host env none world
      (eJennicModuleProcessMessageConfig host env u32Length pu8Data
        world).world := by
  unfold eJennicModuleProcessMessageConfig
  split
  · exact .same rfl rfl
  · split
    · dsimp only
      unfold notifyConfigChanged
      split
      · dsimp only
        split
        · exact .same rfl rfl
        · exact .same rfl rfl
      · exact .same rfl rfl
    · exact .same rfl rfl

theorem processMessageIPv6_publishes :
    Publishes host env none world
      (eJennicModuleProcessMessageIPv6 env u32Length pu8Data
        world).world := by
  unfold eJennicModuleProcessMessageIPv6
  dsimp only
  split
  · exact .same rfl rfl
  · exact .same rfl rfl

theorem processMessageSecurity_publishes :
    Publishes host env none world
      (eJennicModuleProcessMessageSecurity host pu8Data world).world := by
  unfold eJennicModuleProcessMessageSecurity
  split
  · exact .same rfl rfl
  · exact .same rfl rfl

/-- A message publishes the address that it reports. -/
theorem handleMessage_publishes (u8Message : UInt8) :
    Publishes host env
      (if u8Message = SLMsgType.addr.code then
        some (.ofCells pu8Data.cells 0)
      else
        none)
      world
      (handleMessage host env u8Message u32Length pu8Data world).world := by
  apply handleMessage_cases (motive := fun handler =>
    Publishes host env
      (if u8Message = SLMsgType.addr.code then
        some (.ofCells pu8Data.cells 0)
      else
        none)
      world (handler pu8Data world).world)
  case addr =>
    rintro rfl
    exact processMessageIPv6Address_publishes host env pu8Data world
  case ipv6 =>
    rintro rfl
    exact processMessageIPv6_publishes host env u32Length pu8Data world
  case config =>
    rintro rfl
    exact processMessageConfig_publishes host env u32Length pu8Data world
  case security =>
    rintro rfl
    exact processMessageSecurity_publishes host env pu8Data world
  case configRequest | log | version =>
    rintro rfl
    exact .same rfl rfl
  case ping =>
    rintro rfl
    have quiet := ping_onlyLogs env world true
    exact .same quiet.addressFile quiet.registrations
  case unknown =>
    intro _ _ _ notAddr _ _
    rw [if_neg notAddr]
    exact .same rfl rfl

/-- A call publishes the address that it reports, and nothing else. -/
theorem step_publishes (call : ApiCall) :
    Publishes host call.env (reportedAddress call) world
      (step host world call) := by
  obtain ⟨env, input⟩ := call
  cases input with
  | message u8Message u32Length pu8Data =>
      have handled :=
        handleMessage_publishes host env u32Length
          (TracedMemory.untouched pu8Data) world u8Message
      exact
        handled.quietly
          (processMessage_onlyLogs host env world u8Message u32Length
            (TracedMemory.untouched pu8Data))
  | timeout =>
      have quiet := stateMachine_onlyLogs host env true world
      exact .same quiet.addressFile quiet.registrations
  | tunPacket read =>
      unfold step eTunDeviceReadPacket
      dsimp only
      split
      · exact .same rfl rfl
      · exact .same rfl rfl

end Handlers

/-! ## Runs -/

/-- The content of the file behind the calls. -/
def contentBehind (host : Host) (before : List Char) :
    List ApiCall → List Char
  | [] => before
  | call :: rest =>
      contentBehind host
        (storedReport host call.env (reportedAddress call) before) rest

theorem run_publishes (host : Host) {world : World} {content : List Char}
    (before : fileBehind world.addressFile = some ⟨content, false⟩)
    (calls : List ApiCall) :
    fileBehind (run (step host) world calls).addressFile =
        some ⟨contentBehind host content calls, false⟩ ∧
      (run (step host) world calls).registrations =
        (calls.filterMap reportedAddress).reverse.flatMap
            (fun address => registrationsOf host (some address)) ++
          world.registrations := by
  induction calls generalizing world content with
  | nil =>
      exact ⟨before, rfl⟩
  | cons call rest inductionHypothesis =>
      have published := step_publishes host world call
      obtain ⟨file, registrations⟩ :=
        inductionHypothesis (published.file before)
      refine ⟨file, ?_⟩
      rw [run_cons, registrations, published.registrations]
      cases report : reportedAddress call with
      | none =>
          have nothing : registrationsOf host none = [] := by
            unfold registrationsOf
            split <;> rfl
          rw [List.filterMap_cons_none report, nothing]
          rfl
      | some address =>
          rw [List.filterMap_cons_some report, List.reverse_cons,
            List.flatMap_append, List.append_assoc]
          simp

/-- The world with which a run begins has published nothing. -/
theorem started_unpublished (host : Host) (env : Env)
    (settings : Settings) :
    fileBehind (started host env settings).addressFile =
        some ⟨[], false⟩ ∧
      (started host env settings).registrations = [] := by
  have quiet :=
    stateMachine_onlyLogs host env false
      (((World.boot settings |>.debugLog "Starting module").assign env
        .determineVersion).update fun daemon =>
          { daemon with sFlags := .zero })
  have boot :=
    World.OnlyLogs.debugLog (World.boot settings) "Starting module"
  have noFile : (started host env settings).addressFile = [] :=
    quiet.addressFile.trans boot.addressFile
  rw [noFile]
  exact ⟨rfl, quiet.registrations.trans boot.registrations⟩

/-- Whatever happens in a run, behind every call the address file is closed and
holds what the reports have written, and every report has been registered, in
order and nothing else. -/
theorem reports_published (host : Host) (env : Env) (settings : Settings)
    (calls : List ApiCall) :
    fileBehind (runFrom host env settings calls).addressFile =
        some ⟨contentBehind host [] calls, false⟩ ∧
      (runFrom host env settings calls).registrations =
        (calls.filterMap reportedAddress).reverse.flatMap fun address =>
          registrationsOf host (some address) := by
  obtain ⟨noFile, noRegistration⟩ := started_unpublished host env settings
  have published := run_publishes host noFile calls
  rw [noRegistration, List.append_nil] at published
  exact published

/-! ## Running modules -/

/-- The address of the module has been looked up. -/
def located (daemon : Daemon) : Prop :=
  daemon.eModuleState = .running ∨ daemon.eModuleState = .activityLED ∨
    daemon.sFlags.uAddressKnown = true

/-- The state machine does not find an address by itself. -/
theorem located_turnMove {now : Int} {bTimeout : Bool} {daemon : Daemon}
    (behind : located (turnMove now bTimeout daemon).daemon) :
    located daemon := by
  by_contra lost
  simp only [located, not_or, Bool.not_eq_true] at lost
  obtain ⟨notRunning, notLED, unknown⟩ := lost
  revert behind
  unfold turnMove
  cases state : daemon.eModuleState with
  | running => exact absurd state notRunning
  | activityLED => exact absurd state notLED
  | idle => simp [located, state, unknown]
  | determineVersion =>
      unfold versionMove networkMove
      split_ifs <;> simp [located, enter, state, unknown, Daemon.setRetries]
  | configureNetwork | configureProfile | configureFrontend =>
      simp [located, networkMove, profileMove, frontEndMove, enter, unknown]
  | configureSecurity =>
      unfold securityMove
      split_ifs <;> simp [located, enter, unknown]
  | startModule =>
      unfold startMove
      split_ifs <;> simp [located, enter, unknown, Daemon.forgetAddress]
  | determineConfiguration =>
      unfold configurationMove addressMove
      split_ifs <;>
        simp_all [located, enter, Daemon.forgetAddress, Daemon.setRetries]
  | determineAddress =>
      unfold addressMove
      split_ifs <;>
        simp_all [located, enter, Daemon.forgetAddress, Daemon.setRetries]

theorem located_handledMove {host : Host} {env : Env} {u8Message : UInt8}
    {u32Length : UInt32} {cells : Nat → UInt8} {daemon : Daemon}
    (behind :
      located
        (handledMove host env u8Message u32Length cells daemon).2) :
    located daemon ∨ u8Message = SLMsgType.addr.code := by
  by_cases isAddr : u8Message = SLMsgType.addr.code
  · exact Or.inr isAddr
  · left
    revert behind
    unfold handledMove
    rw [if_neg isAddr]
    split_ifs <;> intro behind <;> first
      | exact behind
      | (rcases behind with other | other | known
         · cases other
         · cases other
         · exact Or.inr (Or.inr known))

/-- An address is found with a report only. -/
theorem located_nextDaemon {host : Host} {daemon : Daemon} {call : ApiCall}
    (behind : located (nextDaemon host daemon call)) :
    located daemon ∨ ∃ address, reportedAddress call = some address := by
  obtain ⟨env, input⟩ := call
  cases input with
  | message u8Message u32Length pu8Data =>
      have spoken :
          located
            (handledMove host env u8Message u32Length pu8Data daemon).2 := by
        unfold nextDaemon callMove messageMove at behind
        dsimp only at behind
        split at behind
        · have turned := located_turnMove behind
          exact turned
        · exact behind
      rcases located_handledMove spoken with before | isAddr
      · exact Or.inl before
      · exact Or.inr ⟨_, if_pos isAddr⟩
  | timeout =>
      exact Or.inl (located_turnMove behind)
  | tunPacket read =>
      exact Or.inl behind

theorem located_run {host : Host} {daemon : Daemon} {calls : List ApiCall}
    (behind : located (run (nextDaemon host) daemon calls)) :
    located daemon ∨ calls.filterMap reportedAddress ≠ [] := by
  induction calls generalizing daemon with
  | nil =>
      exact Or.inl behind
  | cons call rest inductionHypothesis =>
      rcases inductionHypothesis behind with found | later
      · rcases located_nextDaemon found with before | ⟨address, report⟩
        · exact Or.inl before
        · right
          rw [List.filterMap_cons_some report]
          exact List.cons_ne_nil _ _
      · right
        cases report : reportedAddress call with
        | none =>
            rw [List.filterMap_cons_none report]
            exact later
        | some address =>
            rw [List.filterMap_cons_some report]
            exact List.cons_ne_nil _ _

/-- The file takes the whole text of every report. -/
def takesReports (host : Host) (calls : List ApiCall) : Prop :=
  ∀ call ∈ calls, ∀ address, reportedAddress call = some address →
    call.env.openFile.isOk = true ∧
      (∃ accepted, call.env.writeAddress = .ok accepted ∧
        (host.inetNtop address).toList.length ≤ accepted) ∧
      ∃ newline, call.env.writeNewline = .ok newline ∧ 1 ≤ newline

/-- The line in the file of a published address. -/
def addressLine (host : Host) (address : In6Addr) : List Char :=
  (host.inetNtop address).toList ++ ['\n']

theorem storedText_of_takes {env : Env} {text : String} {before : List Char}
    {accepted newline : Nat} (opens : env.openFile.isOk = true)
    (takes : env.writeAddress = .ok accepted)
    (whole : text.toList.length ≤ accepted)
    (ends : env.writeNewline = .ok newline) (one : 1 ≤ newline) :
    storedText env text before = text.toList ++ ['\n'] := by
  unfold storedText
  cases opened : env.openFile with
  | error _ =>
      rw [opened] at opens
      cases opens
  | ok _ =>
      rw [takes, ends]
      dsimp only
      rw [List.take_of_length_le whole, List.take_of_length_le one]

/-- If the file takes everything, it holds the last report. -/
theorem contentBehind_of_takes {host : Host} {calls : List ApiCall}
    (takes : takesReports host calls) (before : List Char) :
    contentBehind host before calls =
      ((calls.filterMap reportedAddress).getLast?.map
        (addressLine host)).getD before := by
  induction calls generalizing before with
  | nil =>
      rfl
  | cons call rest inductionHypothesis =>
      have later : takesReports host rest := fun other member =>
        takes other (List.mem_cons_of_mem _ member)
      rw [contentBehind, inductionHypothesis later]
      cases report : reportedAddress call with
      | none =>
          rw [List.filterMap_cons_none report]
          rfl
      | some address =>
          obtain ⟨opens, ⟨accepted, takesText, whole⟩, newline, ends, one⟩ :=
            takes call List.mem_cons_self address report
          have stored :
              storedReport host call.env (some address) before =
                addressLine host address :=
            storedText_of_takes opens takesText whole ends one
          rw [List.filterMap_cons_some report, stored, List.getLast?_cons]
          cases (rest.filterMap reportedAddress).getLast? with
          | none => rfl
          | some last => rfl

section RunningModules

variable (host : Host) (env : Env) (settings : Settings)
variable {calls : List ApiCall}

/-- A running module has reported an address. -/
theorem running_reported
    (inRunning :
      (runFrom host env settings calls).daemon.eModuleState = .running) :
    ∃ earlier address,
      calls.filterMap reportedAddress = earlier ++ [address] := by
  have start : ¬ located (started host env settings).daemon := by
    rw [(started_makes host env settings).1]
    simp [located, Daemon.boot, Flags.zero]
  have found :
      located (run (nextDaemon host) (started host env settings).daemon
        calls) := by
    rw [← (run_moves host (started host env settings) calls).1]
    exact Or.inl inRunning
  have reports := (located_run found).resolve_left start
  have split := (List.eq_nil_or_concat _).resolve_left reports
  simpa only [List.concat_eq_append] using split

/-- The last report is the last one registered. -/
theorem last_registered {earlier : List In6Addr} {address : In6Addr}
    (split : calls.filterMap reportedAddress = earlier ++ [address])
    (announced : host.useZeroconf = true) :
    (runFrom host env settings calls).registrations.head? =
      some (registrationOf host address) := by
  obtain ⟨noFile, noRegistration⟩ := started_unpublished host env settings
  have published := (run_publishes host noFile calls).2
  rw [noRegistration, split] at published
  rw [runFrom, published]
  simp [registrationsOf, announced]

end RunningModules

/-- As long as the file takes everything, a running module has reported an
address, and the last one that it has reported is in the file and, if there is
an announcer, the last one registered with it. -/
theorem running_module_published (host : Host) (env : Env)
    (settings : Settings) (calls : List ApiCall)
    (takes : takesReports host calls)
    (inRunning :
      (runFrom host env settings calls).daemon.eModuleState = .running) :
    ∃ address,
      (calls.filterMap reportedAddress).getLast? = some address ∧
        fileBehind (runFrom host env settings calls).addressFile =
          some ⟨addressLine host address, false⟩ ∧
        (host.useZeroconf = true →
          (runFrom host env settings calls).registrations.head? =
            some (registrationOf host address)) := by
  obtain ⟨earlier, address, split⟩ :=
    running_reported host env settings inRunning
  have noFile := (started_unpublished host env settings).1
  have file := (run_publishes host noFile calls).1
  rw [contentBehind_of_takes takes, split] at file
  refine
    ⟨address, by simp [split], ?_,
      last_registered host env settings split⟩
  rw [runFrom, file]
  simp

theorem running_module_published_old :
    ∃ address,
      (oldModuleRun.filterMap reportedAddress).getLast? = some address ∧
        fileBehind
            (runFrom sampleHost (granting 0) Settings.default
              oldModuleRun).addressFile =
          some ⟨addressLine sampleHost address, false⟩ ∧
        (sampleHost.useZeroconf = true →
          (runFrom sampleHost (granting 0) Settings.default
            oldModuleRun).registrations.head? =
            some (registrationOf sampleHost address)) :=
  running_module_published sampleHost (granting 0) Settings.default
    oldModuleRun
    (by
      intro call member address report
      simp only [oldModuleRun, List.mem_cons, List.not_mem_nil,
        or_false] at member
      rcases member with rfl | rfl | rfl | rfl | rfl
      · cases report
      · cases report
      · cases report
      · cases report
      · cases report
        exact ⟨rfl, ⟨39, rfl, by decide⟩, 1, rfl, Nat.le_refl 1⟩)
    (by decide)

end SixLoWPANd.MainLoop
