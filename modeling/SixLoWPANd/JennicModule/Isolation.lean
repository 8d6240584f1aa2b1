import SixLoWPANd.JennicModule.Outputs
import SixLoWPANd.JennicModule.Remembering

/-!
# Isolation of messages

All messages are received into one buffer, so behind a short message lie bytes
of earlier ones.  A message is isolated if these bytes have no influence.  The
handlers do not look at `u32Length` before they read their structure;
`readsOwnBytes` is the exact condition under which what they read is the
message itself.
-/

namespace SixLoWPANd.JennicModule

open SixLoWPANd.Foundation

/-- Two contents of memory that agree in the message and outside of the buffer
of 2048 bytes. -/
def sameMessage (u32Length : UInt32) (first second : Nat → UInt8) : Prop :=
  ∀ index, index < u32Length.toNat ∨ 2048 ≤ index →
    first index = second index

/-- What is visible of the processing of a message: the status, the variables
and every output. -/
def visible (host : Host) (env : Env) (world : World) (u8Message : UInt8)
    (u32Length : UInt32) (pu8Data : Nat → UInt8) : ModuleStatus × World :=
  let outcome :=
    eJennicModuleProcessMessage host env u8Message u32Length
      (TracedMemory.untouched pu8Data) world
  (outcome.eStatus, outcome.world)

/-- The bytes behind the message have no influence. -/
def Isolated (host : Host) (env : Env) (world : World) (u8Message : UInt8)
    (u32Length : UInt32) : Prop :=
  ∀ first second, sameMessage u32Length first second →
    visible host env world u8Message u32Length first =
      visible host env world u8Message u32Length second

/-- The message is as long as what its handler reads. -/
structure readsOwnBytes (daemon : Daemon) (u8Message : UInt8)
    (u32Length : UInt32) : Prop where
  version : u8Message = SLMsgType.version.code → 3 ≤ u32Length.toNat
  config : u8Message = SLMsgType.config.code →
    daemon.atLeast 1 1 0 = true →
    u32Length = 3 ∨ 16 ≤ u32Length.toNat
  security : u8Message = SLMsgType.security.code →
    daemon.atLeast 1 1 0 = true → 16 ≤ u32Length.toNat
  addr : u8Message = SLMsgType.addr.code → 16 ≤ u32Length.toNat
  log : u8Message = SLMsgType.log.code → 1 ≤ u32Length.toNat

/-! ## Long enough messages are isolated -/

section Congruence

variable (host : Host) (env : Env) (world : World) (u32Length : UInt32)
variable {first second : Nat → UInt8}

/-- The status and the world that a handler leaves. -/
def Outcome.result (outcome : Outcome) : ModuleStatus × World :=
  (outcome.eStatus, outcome.world)

/-- What is visible depends on the memory only through the result of the
handler. -/
theorem visible_congr {u8Message : UInt8}
    (same :
      (handleMessage host env u8Message u32Length
        (TracedMemory.untouched first) world).result =
        (handleMessage host env u8Message u32Length
          (TracedMemory.untouched second) world).result) :
    visible host env world u8Message u32Length first =
      visible host env world u8Message u32Length second := by
  simp only [Outcome.result, Prod.mk.injEq] at same
  unfold visible eJennicModuleProcessMessage
  dsimp only
  rw [same.1, same.2]
  split
  · rfl
  · rfl

theorem processMessageVersion_congr
    (agree : ∀ index < 3, first index = second index) :
    (eJennicModuleProcessMessageVersion (TracedMemory.untouched first)
        world).result =
      (eJennicModuleProcessMessageVersion (TracedMemory.untouched second)
        world).result := by
  simp [eJennicModuleProcessMessageVersion, Outcome.result,
    agree 0 (by decide), agree 1 (by decide), agree 2 (by decide)]

theorem ofCells_config_congr (endian : Endian)
    (agree : ∀ index < 16, first index = second index) :
    ModuleConfigV10.ofCells endian first =
      ModuleConfigV10.ofCells endian second := by
  simp [ModuleConfigV10.ofCells, agree 0, agree 1, agree 2, agree 3,
    agree 4, agree 5, agree 6, agree 7, agree 8, agree 9, agree 10,
    agree 11, agree 12, agree 13, agree 14, agree 15]

theorem processMessageIPv6_congr
    (agree : ∀ index < u32Length.toNat, first index = second index) :
    (eJennicModuleProcessMessageIPv6 env u32Length
        (TracedMemory.untouched first) world).result =
      (eJennicModuleProcessMessageIPv6 env u32Length
        (TracedMemory.untouched second) world).result := by
  have packet :
      (List.range u32Length.toNat).map first =
        (List.range u32Length.toNat).map second := by
    apply List.map_congr_left
    intro index member
    exact agree index (List.mem_range.mp member)
  unfold eJennicModuleProcessMessageIPv6 eTunDeviceWritePacket
  simp only [Outcome.result, TracedMemory.loadRange_fst,
    TracedMemory.untouched_cells, Nat.zero_add, packet]
  split
  · rfl
  · rfl

theorem processMessageLog_congr
    (nonempty : 1 ≤ u32Length.toNat)
    (agree : ∀ index < u32Length.toNat, first index = second index) :
    (eJennicModuleProcessMessageLog u32Length
        (TracedMemory.untouched first) world).result =
      (eJennicModuleProcessMessageLog u32Length
        (TracedMemory.untouched second) world).result := by
  let terminated (cells : Nat → UInt8) : TracedMemory UInt8 :=
    ((TracedMemory.untouched cells).load 0).2.store u32Length.toNat 0
  -- the scan ends at the terminator, before any stale byte
  have text :
      (TracedMemory.loadUntil (· == 0) (u32Length.toNat + scanLimit) 1
        (terminated first)).1 =
        (TracedMemory.loadUntil (· == 0) (u32Length.toNat + scanLimit) 1
          (terminated second)).1 := by
    apply TracedMemory.loadUntil_fst_congr _ _ _ _ nonempty
    · intro index bound
      by_cases last : index = u32Length.toNat
      · simp [terminated, last]
      · simp [terminated, last, agree index (by omega)]
    · simp [terminated]
  have priority : first 0 = second 0 := agree 0 (by omega)
  simp only [terminated] at text
  simp only [eJennicModuleProcessMessageLog, Outcome.result,
    TracedMemory.load_fst, TracedMemory.untouched_cells, priority, text]

/-- A handler that reads its own message only leaves the same result. -/
theorem handleMessage_congr {u8Message : UInt8}
    (own : readsOwnBytes world.daemon u8Message u32Length)
    (agree : ∀ index < u32Length.toNat, first index = second index) :
    (handleMessage host env u8Message u32Length
        (TracedMemory.untouched first) world).result =
      (handleMessage host env u8Message u32Length
        (TracedMemory.untouched second) world).result := by
  have upTo : ∀ {count}, count ≤ u32Length.toNat →
      ∀ index < count, first index = second index :=
    fun fits index bound => agree index (by omega)
  apply handleMessage_cases (motive := fun handler =>
    (handler (TracedMemory.untouched first) world).result =
      (handler (TracedMemory.untouched second) world).result)
  case ipv6 =>
    exact fun _ => processMessageIPv6_congr env world u32Length agree
  case config =>
    intro isConfig
    unfold eJennicModuleProcessMessageConfig
    by_cases short : u32Length = 3
    · simp only [short, if_true]
      exact
        processMessageVersion_congr world
          (upTo (by rw [short]; decide))
    · by_cases supported : world.daemon.atLeast 1 1 0 = true
      · have long : 16 ≤ u32Length.toNat :=
          (own.config isConfig supported).resolve_left short
        simp only [short, supported, if_true, if_false,
          TracedMemory.untouched_cells, Outcome.result,
          ofCells_config_congr host.endian (upTo long)]
      · simp [short, supported, Outcome.result]
  case security =>
    intro isSecurity
    unfold eJennicModuleProcessMessageSecurity
    by_cases supported : world.daemon.atLeast 1 1 0 = true
    · have key :
          In6Addr.ofCells first 0 = In6Addr.ofCells second 0 :=
        In6Addr.ofCells_congr (upTo (own.security isSecurity supported))
      simp [supported, Outcome.result, key]
    · simp [supported, Outcome.result]
  case addr =>
    intro isAddr
    have address : In6Addr.ofCells first 0 = In6Addr.ofCells second 0 :=
      In6Addr.ofCells_congr (upTo (own.addr isAddr))
    unfold eJennicModuleProcessMessageIPv6Address
    simp only [In6Addr.load_fst, TracedMemory.untouched_cells, address]
    split
    · rfl
    · rfl
  case configRequest =>
    exact fun _ => rfl
  case log =>
    intro isLog
    exact processMessageLog_congr world u32Length (own.log isLog) agree
  case version =>
    intro isVersion
    exact processMessageVersion_congr world (upTo (own.version isVersion))
  case ping =>
    exact fun _ => rfl
  case unknown =>
    intros
    rfl

end Congruence

/-! ## Shorter messages are not -/

def cleared : Nat → UInt8 := fun _ => 0

/-- A buffer that is cleared but for one byte. -/
def marked (position : Nat) : Nat → UInt8 :=
  fun index => if index = position then 1 else 0

theorem sameMessage_marked {u32Length : UInt32} {position : Nat}
    (behind : u32Length.toNat ≤ position) (inBuffer : position < 2048) :
    sameMessage u32Length cleared (marked position) := by
  intro index agrees
  have other : index ≠ position := by omega
  simp [cleared, marked, other]

/-- Lines logged on top of the same log are equal if the final logs are. -/
theorem logged_line_eq {α : Type} {first second : α} {older final : List α}
    (firstLogged : first :: older <:+ final)
    (secondLogged : second :: older <:+ final) : first = second := by
  obtain ⟨newer, firstFinal⟩ := firstLogged
  obtain ⟨newest, secondFinal⟩ := secondLogged
  have same : newer ++ first :: older = newest ++ second :: older :=
    firstFinal.trans secondFinal.symm
  have lines := (List.append_inj' same (by simp)).2
  simpa using lines

theorem writeAddressFile_syslog (host : Host) (env : Env)
    (buffer : String) (world : World) :
    world.syslog <:+ (writeAddressFile host env buffer world).2.syslog := by
  unfold writeAddressFile
  dsimp only
  split
  · exact List.suffix_cons _ _
  · split
    · exact List.suffix_cons _ _
    · split
      · exact List.suffix_cons _ _
      · exact List.suffix_refl _

theorem registerService_syslog (host : Host) (buffer : String)
    (world : World) :
    (registerService host buffer world).syslog = world.syslog := by
  unfold registerService
  split <;> rfl

theorem processMessageIPv6Address_syslog (host : Host) (env : Env)
    (world : World) (pu8Data : TracedMemory UInt8) :
    (logInfo, "Module address: " ++
        host.inetNtop (In6Addr.ofCells pu8Data.cells 0)) ::
      world.syslog <:+
        (eJennicModuleProcessMessageIPv6Address host env pu8Data
          world).world.syslog := by
  let buffer := host.inetNtop (In6Addr.ofCells pu8Data.cells 0)
  have stored :=
    writeAddressFile_syslog host env buffer
      (registerService host buffer
        (world.daemonLog logInfo ("Module address: " ++ buffer)))
  rw [registerService_syslog] at stored
  unfold eJennicModuleProcessMessageIPv6Address
  simp only [In6Addr.load_fst]
  split
  · exact stored
  · exact stored

theorem processMessageLog_syslog (u32Length : UInt32)
    (pu8Data : TracedMemory UInt8) (world : World) :
    ∃ text,
      (eJennicModuleProcessMessageLog u32Length pu8Data
        world).world.syslog =
        (logPriority (pu8Data.cells 0), text) :: world.syslog :=
  ⟨_, rfl⟩

section Leaks

variable {host : Host} {env : Env} {world : World} {u8Message : UInt8}
variable {u32Length : UInt32}

/-- Isolation as an equation between the worlds after two messages. -/
theorem Isolated.step_eq
    (isolated : Isolated host env world u8Message u32Length)
    (position : Nat) (behind : u32Length.toNat ≤ position)
    (inBuffer : position < 2048) :
    step host world ⟨env, .message u8Message u32Length cleared⟩ =
      step host world
        ⟨env, .message u8Message u32Length (marked position)⟩ :=
  congrArg Prod.snd
    (isolated cleared (marked position)
      (sameMessage_marked behind inBuffer))

theorem Isolated.version
    (isolated : Isolated host env world u8Message u32Length)
    (isVersion : u8Message = SLMsgType.version.code) :
    3 ≤ u32Length.toNat := by
  by_contra short
  have same := isolated.step_eq 2 (by omega) (by decide)
  have reported : ∀ pu8Data,
      (step host world
        ⟨env, .message u8Message u32Length
          pu8Data⟩).daemon.u32JennicDeviceVersion =
        jennicVersion (pu8Data 0).toUInt32 (pu8Data 1).toUInt32
          (pu8Data 2).toUInt32 := by
    intro pu8Data
    apply @message_part host _ fun daemon => daemon.u32JennicDeviceVersion
    · exact transition_version
    · exact fun _ _ => rfl
    · intro eStatus handled handling
      rw [handling_version handling (Or.inl isVersion)]
      rfl
  have versions := reported cleared
  rw [same, reported (marked 2)] at versions
  revert versions
  decide

theorem Isolated.config
    (isolated : Isolated host env world u8Message u32Length)
    (isConfig : u8Message = SLMsgType.config.code)
    (supported : world.daemon.atLeast 1 1 0 = true) :
    u32Length = 3 ∨ 16 ≤ u32Length.toNat := by
  by_contra short
  obtain ⟨notVersion, short⟩ := not_or.mp short
  have same := isolated.step_eq 15 (by omega) (by decide)
  have received : ∀ pu8Data,
      (step host world
        ⟨env, .message u8Message u32Length
          pu8Data⟩).daemon.networkEncoding = payloadOf pu8Data 16 := by
    intro pu8Data
    have remembers :
        Remembers networkMemory (payloadOf pu8Data 16) world.history
          (step host world
            ⟨env, .message u8Message u32Length pu8Data⟩).toLedger := by
      apply message_remembers
      intro eStatus handled handling
      rw [handling_config handling ⟨isConfig, notVersion, supported⟩]
      exact networkEncoding_receiveNetwork _ host.endian pu8Data
    exact remembers.held
  have payloads := received cleared
  rw [same, received (marked 15)] at payloads
  revert payloads
  decide

theorem Isolated.security
    (isolated : Isolated host env world u8Message u32Length)
    (isSecurity : u8Message = SLMsgType.security.code)
    (supported : world.daemon.atLeast 1 1 0 = true) :
    16 ≤ u32Length.toNat := by
  by_contra short
  have same := isolated.step_eq 15 (by omega) (by decide)
  have received : ∀ pu8Data,
      (step host world
        ⟨env, .message u8Message u32Length
          pu8Data⟩).daemon.toSettings =
        { world.daemon.toSettings with
          iSecureNetwork := 1
          sSecurityKey := In6Addr.ofCells pu8Data 0 } := by
    intro pu8Data
    apply message_toSettings
    intro eStatus handled handling
    subst isSecurity
    rw [handling_security handling supported]
    rfl
  have settings := received cleared
  rw [same, received (marked 15)] at settings
  have keys :
      In6Addr.ofCells (marked 15) 0 = In6Addr.ofCells cleared 0 :=
    congrArg Settings.sSecurityKey settings
  revert keys
  decide

theorem handled_syslog (pu8Data : Nat → UInt8) :
    (handleMessage host env u8Message u32Length
        (TracedMemory.untouched pu8Data) world).world.syslog <:+
      (step host world
        ⟨env, .message u8Message u32Length pu8Data⟩).syslog :=
  (processMessage_onlyLogs host env world u8Message u32Length
    (TracedMemory.untouched pu8Data)).syslog

theorem Isolated.addr
    (isolated : Isolated host env world u8Message u32Length)
    (injective : Function.Injective host.inetNtop)
    (isAddr : u8Message = SLMsgType.addr.code) :
    16 ≤ u32Length.toNat := by
  by_contra short
  have same := isolated.step_eq 15 (by omega) (by decide)
  have logged : ∀ pu8Data,
      (logInfo, "Module address: " ++
        host.inetNtop (In6Addr.ofCells pu8Data 0)) :: world.syslog <:+
        (step host world
          ⟨env, .message u8Message u32Length pu8Data⟩).syslog := by
    intro pu8Data
    refine List.IsSuffix.trans ?_ (handled_syslog pu8Data)
    subst isAddr
    have handled :
        handleMessage host env SLMsgType.addr.code u32Length
            (TracedMemory.untouched pu8Data) world =
          eJennicModuleProcessMessageIPv6Address host env
            (TracedMemory.untouched pu8Data) world := by
      simp [handleMessage, SLMsgType.code]
    rw [handled]
    exact
      processMessageIPv6Address_syslog host env world
        (TracedMemory.untouched pu8Data)
  have firstLogged := logged cleared
  rw [same] at firstLogged
  have lines := logged_line_eq firstLogged (logged (marked 15))
  have texts := (String.append_right_inj _).mp (congrArg Prod.snd lines)
  have addresses := injective texts
  revert addresses
  decide

theorem Isolated.log
    (isolated : Isolated host env world u8Message u32Length)
    (isLog : u8Message = SLMsgType.log.code) : 1 ≤ u32Length.toNat := by
  by_contra short
  have same := isolated.step_eq 0 (by omega) (by decide)
  have logged : ∀ pu8Data, ∃ text,
      (logPriority (pu8Data 0), text) :: world.syslog <:+
        (step host world
          ⟨env, .message u8Message u32Length pu8Data⟩).syslog := by
    intro pu8Data
    have extended :=
      @handled_syslog host env world u8Message u32Length pu8Data
    subst isLog
    have handled :
        handleMessage host env SLMsgType.log.code u32Length
            (TracedMemory.untouched pu8Data) world =
          eJennicModuleProcessMessageLog u32Length
            (TracedMemory.untouched pu8Data) world := by
      simp [handleMessage, SLMsgType.code]
    obtain ⟨text, line⟩ :=
      processMessageLog_syslog u32Length
        (TracedMemory.untouched pu8Data) world
    rw [handled, line] at extended
    exact ⟨text, extended⟩
  obtain ⟨firstText, firstLogged⟩ := logged cleared
  obtain ⟨secondText, secondLogged⟩ := logged (marked 0)
  rw [same] at firstLogged
  have lines := logged_line_eq firstLogged secondLogged
  have priorities :
      logPriority (cleared 0) = logPriority (marked 0 0) :=
    congrArg Prod.fst lines
  revert priorities
  decide

end Leaks

/-! ## The condition -/

private theorem hexDigits_injective : Function.Injective hexDigits := by
  have digits : ∀ first < 16, ∀ second < 16,
      Nat.digitChar first = Nat.digitChar second → first = second := by
    decide
  intro first second same
  have firstBound := first.toNat_lt
  have secondBound := second.toNat_lt
  simp only [hexDigits, List.cons.injEq, and_true] at same
  have upper := digits _ (by omega) _ (by omega) same.1
  have lower := digits _ (by omega) _ (by omega) same.2
  rw [← UInt8.toNat_inj]
  omega

private theorem hexGroups_injective :
    ∀ {count : Nat} {first second : List UInt8},
      first.length = 2 * count → second.length = 2 * count →
      hexGroups first = hexGroups second → first = second
  | 0, first, second, firstLength, secondLength, _ => by
      rw [List.length_eq_zero_iff.mp firstLength,
        List.length_eq_zero_iff.mp secondLength]
  | count + 1, first, second, firstLength, secondLength, same => by
      match first, second with
      | high :: low :: rest, high' :: low' :: rest' =>
          simp only [hexGroups, List.cons.injEq, true_and] at same
          obtain ⟨highs, same⟩ := List.append_inj same rfl
          obtain ⟨lows, rests⟩ := List.append_inj same rfl
          simp only [List.length_cons] at firstLength secondLength
          have later : rest = rest' :=
            @hexGroups_injective count rest rest' (by omega) (by omega)
              rests
          rw [hexDigits_injective highs, hexDigits_injective lows, later]

/-- Different addresses have different texts. -/
theorem fullText_injective : Function.Injective fullText := by
  have headed : ∀ address : In6Addr,
      hexGroups address.bytes =
        ':' :: (hexGroups address.bytes).tail := by
    rintro ⟨bytes, size⟩
    match bytes, size with
    | high :: low :: rest, _ =>
        rfl
  intro first second same
  have tails := String.ofList_injective same
  have groups :
      hexGroups first.bytes = hexGroups second.bytes := by
    rw [headed first, headed second, tails]
  have bytes : first.bytes = second.bytes :=
    @hexGroups_injective 8 _ _ first.size second.size groups
  cases first
  cases second
  simpa using bytes

/-- A message is isolated if and only if it is as long as what its handler
reads. -/
theorem isolated_iff_readsOwnBytes
    (host : Host) (injective : Function.Injective host.inetNtop)
    (env : Env) (world : World) (u8Message : UInt8) (u32Length : UInt32) :
    Isolated host env world u8Message u32Length ↔
      readsOwnBytes world.daemon u8Message u32Length := by
  constructor
  · intro isolated
    exact
      ⟨isolated.version, isolated.config, isolated.security,
        isolated.addr injective, isolated.log⟩
  · intro own first second same
    apply visible_congr
    apply handleMessage_congr host env world u32Length own
    exact fun index bound => same index (Or.inl bound)

/-- A complete address report is isolated from the byte behind it. -/
theorem isolated_iff_readsOwnBytes_addr :
    let world := World.boot Settings.default
    visible sampleHost (granting 1) world SLMsgType.addr.code 16
        (fun _ => 0x20) =
      visible sampleHost (granting 1) world SLMsgType.addr.code 16
        (fun index => if index = 16 then 0x21 else 0x20) := by
  intro world
  have isolated :=
    (isolated_iff_readsOwnBytes sampleHost fullText_injective (granting 1)
      world SLMsgType.addr.code 16).mpr
        ⟨by decide, by decide, by decide, by decide, by decide⟩
  apply isolated
  intro index agrees
  have other : index ≠ 16 := by
    rintro rfl
    exact absurd agrees (by decide)
  simp [other]

/-- A version report of one byte takes its other numbers from the buffer. -/
theorem short_message_leaks :
    ¬ ∀ host env world u8Message (u32Length : UInt32),
      u32Length.toNat < 2048 →
      Isolated host env world u8Message u32Length := by
  intro always
  have isolated :=
    always sampleHost (granting 1) (World.boot Settings.default)
      SLMsgType.version.code 1 (by decide)
  exact absurd (isolated.version rfl) (by decide)

end SixLoWPANd.JennicModule
