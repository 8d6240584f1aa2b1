import Mathlib.Data.List.Chain
import SixLoWPANd.JennicModule.Probes

/-!
# A module that answers

A segment of a run begins with the message that leads to `E_STATE_RUNNING` and
stays there.  Between two calls of the state machine pass at most `g` seconds
and every PING frame is answered within `d` seconds.  A PING frame is written
at most `PING_INTERVAL + g` seconds after the last message, so as long as
`PING_INTERVAL + g + d` does not exceed `MODULE_TIMEOUT` no call fails.
-/

namespace SixLoWPANd.JennicModule

open SixLoWPANd.Foundation

/-- The call processes a message and leads to `E_STATE_RUNNING`. -/
def entersRunning (host : Host) (world : World) (call : ApiCall) : Prop :=
  (match call.input with
    | .message .. => True
    | _ => False) ∧
    world.daemon.eModuleState ≠ .running ∧
    (step host world call).daemon.eModuleState = .running

/-- Behind the call the state is `E_STATE_RUNNING` and PING frames are
supported. -/
def staysRunning (host : Host) (world : World) (call : ApiCall) : Prop :=
  (step host world call).daemon.eModuleState = .running ∧
    (step host world call).daemon.sFlags.uSupportsPing = true

/-- The times of the calls of the state machine, latest first. -/
def machineTimes (entries : List Entry) : List Int :=
  (entries.filter Entry.isCall).map Entry.time

/-- Between consecutive calls of the state machine pass at most `g` seconds. -/
def calledWithin (g : Nat) (entries : List Entry) : Prop :=
  (machineTimes entries).IsChain fun (later earlier : Int) =>
    later ≤ earlier + g

/-- After each PING frame a message is processed within `d` seconds, if the
segment goes on for longer than that. -/
def answeredWithin (d : Nat) (endTime : Int) (entries : List Entry) :
    Prop :=
  ∀ (later : List Entry) (ping : Entry) (earlier : List Entry),
    entries = later ++ ping :: earlier →
    ping.wrote .ping = true → ping.time + d < endTime →
      ∃ message ∈ later, message.processed = true ∧
        message.time ≤ ping.time + d

instance (host : Host) (world : World) :
    ∀ call, Decidable (entersRunning host world call)
  | ⟨_, .message ..⟩ => inferInstanceAs (Decidable (True ∧ _ ≠ _ ∧ _ = _))
  | ⟨_, .timeout⟩ => inferInstanceAs (Decidable (False ∧ _))
  | ⟨_, .tunPacket _⟩ => inferInstanceAs (Decidable (False ∧ _))

instance (host : Host) (world : World) (call : ApiCall) :
    Decidable (staysRunning host world call) :=
  inferInstanceAs (Decidable (_ ∧ _))

instance (g : Nat) (entries : List Entry) :
    Decidable (calledWithin g entries) :=
  inferInstanceAs (Decidable (List.IsChain _ _))

/-- The entries behind a PING frame by their position. -/
theorem answeredWithin_iff {d : Nat} {endTime : Int}
    {entries : List Entry} :
    answeredWithin d endTime entries ↔
      ∀ position : Fin entries.length,
        entries[position].wrote .ping = true →
          entries[position].time + d < endTime →
            ∃ message ∈ entries.take position, message.processed = true ∧
              message.time ≤ entries[position].time + d := by
  constructor
  · intro answered position written expired
    apply answered _ _ (entries.drop (position + 1)) _ written expired
    exact (List.take_append_drop position entries).symm.trans
      (congrArg _ (List.drop_eq_getElem_cons position.isLt))
  · rintro answered later ping earlier rfl written expired
    have found := answered ⟨later.length, by simp⟩
    simp only [Fin.getElem_fin, List.getElem_append_right,
      Nat.le_refl, Nat.sub_self, List.getElem_cons_zero,
      List.take_left'] at found
    exact found written expired

instance (d : Nat) (endTime : Int) (entries : List Entry) :
    Decidable (answeredWithin d endTime entries) :=
  decidable_of_iff' _ answeredWithin_iff

/-- The PING frames are more than `PING_INTERVAL` seconds apart. -/
def pingsApart (entries : List Entry) : Prop :=
  (entries.filter (Entry.wrote .ping)).Pairwise fun later earlier =>
    pingInterval < later.time - earlier.time

/-! ## Unanswered PING frames -/

/-- No event comes more than `d` seconds after a PING frame that is still
unanswered. -/
def unansweredWithin (d : Nat) (entries : List Entry) : Prop :=
  Historically
    (fun entry past => ∀ ping ∈ since Entry.processed past,
      ping.wrote .ping = true → entry.time ≤ ping.time + d)
    entries

/-- In the order of time an answer in time is an answer before any later
event. -/
theorem unansweredWithin_of_answeredWithin {d : Nat} {endTime : Int}
    {entries : List Entry}
    (ordered : entries.Pairwise fun later earlier =>
      earlier.time ≤ later.time)
    (bounded : ∀ entry ∈ entries, entry.time ≤ endTime)
    (answered : answeredWithin d endTime entries) :
    unansweredWithin d entries := by
  -- the events of the segment one by one, `latest` those behind
  suffices general : ∀ latest rest, entries = latest ++ rest →
      unansweredWithin d rest from general [] entries rfl
  intro latest rest split
  induction rest generalizing latest with
  | nil =>
      trivial
  | cons entry past inductionHypothesis =>
      constructor
      · intro ping member written
        by_contra expired
        obtain ⟨newer, earlier, rfl, unprocessed⟩ := mem_since_split member
        have inEntries : entry ∈ entries := by simp [split]
        have beyond := bounded entry inEntries
        obtain ⟨message, inLater, isProcessed, inTime⟩ :=
          answered (latest ++ entry :: newer) ping earlier
            (by simp [split]) written (by omega)
        rcases List.mem_append.mp inLater with inLatest | inNewer
        · rw [split] at ordered
          have order :=
            (List.pairwise_append.mp ordered).2.2 message inLatest entry
              List.mem_cons_self
          omega
        · rcases List.mem_cons.mp inNewer with rfl | inNewer
          · omega
          · rw [unprocessed message inNewer] at isProcessed
            contradiction
      · exact inductionHypothesis (latest ++ [entry]) (by simp [split])

/-! ## The times of a segment -/

/-- The last call of the state machine against the last message: either no
PING frame has been due since the message, or one has been written early
enough. -/
def probing (g d : Nat) (lastComms lastPing lastCall : Int)
    (entries : List Entry) : Prop :=
  lastPing ≤ lastComms ∧ lastCall ≤ lastComms + pingInterval ∨
    ∃ ping ∈ since Entry.processed entries, ping.wrote .ping = true ∧
      ping.time ≤ lastComms + pingInterval + g ∧ lastCall ≤ ping.time + d

/-- What is known about the entries of a segment when the clock shows
`now`. -/
structure LiveFacts (g d : Nat) (now : Int) (daemon : Daemon)
    (entries : List Entry) : Prop where
  pinged : daemon.sLastPing ≤ now
  pings : ∀ entry ∈ entries, entry.wrote .ping = true →
    entry.time ≤ daemon.sLastPing
  apart : pingsApart entries
  probed : ∃ lastCall ∈ (machineTimes entries).head?, lastCall ≤ now ∧
    probing g d daemon.sLastSuccessfulComms daemon.sLastPing lastCall
      entries

/-- A call is made in time after the message that the module has sent last. -/
theorem inTime_of_probing {g d : Nat} {lastComms lastPing lastCall : Int}
    {entries : List Entry}
    (budget : pingInterval + g + d ≤ moduleTimeout)
    (probed : probing g d lastComms lastPing lastCall entries) :
    lastCall - lastComms ≤ moduleTimeout := by
  rcases probed with ⟨_, recent⟩ | ⟨ping, _, _, early, recent⟩
  · omega
  · omega

/-! ### Quiet entries -/

section Quiet

variable {newer entries : List Entry}
variable (quiet : ∀ entry ∈ newer, entry.quiet = true)

include quiet

theorem machineTimes_append_quiet :
    machineTimes (newer ++ entries) = machineTimes entries := by
  have none : newer.filter Entry.isCall = [] := by
    rw [List.filter_eq_nil_iff]
    intro entry member
    simp [isCall_of_quiet (quiet entry member)]
  rw [machineTimes, List.filter_append, none, List.nil_append]
  rfl

theorem pings_append_quiet :
    (newer ++ entries).filter (Entry.wrote .ping) =
      entries.filter (Entry.wrote .ping) := by
  have none : newer.filter (Entry.wrote .ping) = [] := by
    rw [List.filter_eq_nil_iff]
    intro entry member
    simp [notPing_of_quiet (quiet entry member)]
  rw [List.filter_append, none, List.nil_append]

theorem ping_mem_of_append_quiet {entry : Entry}
    (member : entry ∈ newer ++ entries)
    (written : entry.wrote .ping = true) : entry ∈ entries := by
  rcases List.mem_append.mp member with inNewer | inEntries
  · rw [notPing_of_quiet (quiet entry inNewer)] at written
    contradiction
  · exact inEntries

end Quiet

namespace LiveFacts

variable {g d : Nat} {now later : Int} {daemon after : Daemon}
variable {entries : List Entry}

theorem wait (facts : LiveFacts g d now daemon entries)
    (ahead : now ≤ later) : LiveFacts g d later daemon entries := by
  obtain ⟨lastCall, isLast, past, probed⟩ := facts.probed
  exact
    ⟨Int.le_trans facts.pinged ahead, facts.pings, facts.apart,
      lastCall, isLast, Int.le_trans past ahead, probed⟩

/-- What is forwarded changes nothing. -/
theorem quietly (facts : LiveFacts g d now daemon entries)
    {newer : List Entry} (quiet : ∀ entry ∈ newer, entry.quiet = true) :
    LiveFacts g d now daemon (newer ++ entries) := by
  have unprocessed : ∀ entry ∈ newer, entry.processed = false :=
    fun entry member => processed_of_quiet (quiet entry member)
  obtain ⟨lastCall, isLast, past, probed⟩ := facts.probed
  refine ⟨facts.pinged, ?_, ?_, lastCall, ?_, past, ?_⟩
  · intro entry member written
    exact
      facts.pings entry (ping_mem_of_append_quiet quiet member written)
        written
  · rw [pingsApart, pings_append_quiet quiet]
    exact facts.apart
  · rw [machineTimes_append_quiet quiet]
    exact isLast
  · refine probed.imp id ?_
    rintro ⟨ping, member, written, early, recent⟩
    refine ⟨ping, ?_, written, early, recent⟩
    rw [since_append_of_unmarked unprocessed]
    exact List.mem_append_right _ member

/-- After a message no PING frame is due at once. -/
theorem heard (facts : LiveFacts g d now daemon entries)
    {newer : List Entry} (quiet : ∀ entry ∈ newer, entry.quiet = true)
    {u8Message : UInt8} {u32Length : UInt32} {eStatus : ModuleStatus}
    {snapshot : Daemon} (samePing : after.sLastPing = daemon.sLastPing)
    (spoken : after.sLastSuccessfulComms = now) :
    LiveFacts g d now after
      (⟨.handled u8Message u32Length eStatus, now, snapshot⟩ ::
        (newer ++ entries)) := by
  have behind := facts.quietly quiet
  obtain ⟨lastCall, isLast, past, -⟩ := behind.probed
  refine ⟨?_, ?_, ?_, lastCall, ?_, past, Or.inl ⟨?_, ?_⟩⟩
  · rw [samePing]
    exact facts.pinged
  · intro entry member written
    rw [samePing]
    rcases List.mem_cons.mp member with rfl | inPast
    · contradiction
    · exact behind.pings entry inPast written
  · simpa [pingsApart, Entry.wrote] using behind.apart
  · simpa [machineTimes, Entry.isCall] using isLast
  · rw [samePing, spoken]
    exact facts.pinged
  · rw [spoken]
    have positive : 0 ≤ pingInterval := by decide
    omega

/-- A call with which no PING frame is due. -/
theorem called (facts : LiveFacts g d now daemon entries)
    (bTimeout : Bool) (snapshot : Daemon)
    (answered : ∀ ping ∈ since Entry.processed entries,
      ping.wrote .ping = true → now ≤ ping.time + d)
    (recent : now - daemon.sLastPing ≤ pingInterval) :
    LiveFacts g d now daemon
      (⟨.called bTimeout, now, snapshot⟩ :: entries) := by
  obtain ⟨lastCall, isLast, past, probed⟩ := facts.probed
  refine ⟨facts.pinged, ?_, ?_, now, rfl, Int.le_refl now, ?_⟩
  · intro entry member written
    rcases List.mem_cons.mp member with rfl | inPast
    · contradiction
    · exact facts.pings entry inPast written
  · simpa [pingsApart, Entry.wrote] using facts.apart
  · rw [probing, since_cons_of_unmarked rfl]
    rcases probed with ⟨older, _⟩ | ⟨ping, member, written, early, _⟩
    · exact Or.inl ⟨older, by omega⟩
    · exact
        Or.inr
          ⟨ping, List.mem_cons_of_mem _ member, written, early,
            answered ping member written⟩

/-- A call with which a PING frame is written. -/
theorem pinging (facts : LiveFacts g d now daemon entries)
    (bTimeout : Bool) (snapshot : Daemon)
    (gap : ∀ lastCall ∈ (machineTimes entries).head?,
      now ≤ lastCall + g)
    (answered : ∀ ping ∈ since Entry.processed entries,
      ping.wrote .ping = true → now ≤ ping.time + d)
    (due : now - daemon.sLastPing > pingInterval)
    (samePing : after.sLastPing = now)
    (sameComms : after.sLastSuccessfulComms =
      daemon.sLastSuccessfulComms) :
    LiveFacts g d now after
      (⟨.wrote .ping [], now, snapshot⟩ ::
        ⟨.called bTimeout, now, snapshot⟩ :: entries) := by
  obtain ⟨lastCall, isLast, past, probed⟩ := facts.probed
  refine ⟨?_, ?_, ?_, now, rfl, Int.le_refl now, Or.inr ?_⟩
  · exact Int.le_of_eq samePing
  · intro entry member written
    rw [samePing]
    rcases List.mem_cons.mp member with rfl | inPast
    · exact Int.le_refl now
    · rcases List.mem_cons.mp inPast with rfl | inPast
      · contradiction
      · exact
          Int.le_trans (facts.pings entry inPast written) facts.pinged
  · have apart : ∀ ping ∈ entries.filter (Entry.wrote .ping),
        pingInterval < now - ping.time := by
      intro ping member
      obtain ⟨inPast, written⟩ := List.mem_filter.mp member
      have older := facts.pings ping inPast written
      omega
    rw [pingsApart, List.filter_cons_of_pos rfl,
      List.filter_cons_of_neg (by simp [Entry.wrote])]
    exact List.pairwise_cons.mpr ⟨apart, facts.apart⟩
  · rw [since_cons_of_unmarked rfl, since_cons_of_unmarked rfl, sameComms]
    rcases probed with ⟨_, recent⟩ | ⟨ping, member, written, early, _⟩
    · have waited := gap lastCall isLast
      exact
        ⟨_, List.mem_cons_self, rfl, by dsimp only; omega,
          by dsimp only; omega⟩
    · exact
        ⟨ping, List.mem_cons_of_mem _ (List.mem_cons_of_mem _ member),
          written, early, answered ping member written⟩

end LiveFacts

/-! ## Segments -/

theorem calledWithin_of_suffix {g : Nat} {earlier entries : List Entry}
    (suffix : earlier <:+ entries) (within : calledWithin g entries) :
    calledWithin g earlier := by
  apply within.suffix
  exact (suffix.filter Entry.isCall).map Entry.time

/-- The invariant of a segment that has begun behind `base`: if its entries
meet the two conditions, the facts about them hold. -/
def LiveInvariant (g d : Nat) (base : List Entry) (now : Int)
    (ledger : Ledger) : Prop :=
  ∃ entries, ledger.history = entries ++ base ∧
    (calledWithin g entries → unansweredWithin d entries →
      LiveFacts g d now ledger.daemon entries)

/-- A handler leaves the state or goes back to the configuration. -/
theorem handling_state {host : Host} {now : Int} {u8Message : UInt8}
    {u32Length : UInt32} {cells : Nat → UInt8} {eStatus : ModuleStatus}
    {before after : Ledger}
    (handling : Handling host now u8Message u32Length cells eStatus
      before after) :
    after.daemon.eModuleState = before.daemon.eModuleState ∨
      after.daemon.eModuleState = .configureNetwork := by
  cases handling with
  | configRequest =>
      exact Or.inr rfl
  | _ =>
      exact Or.inl rfl

theorem handling_supportsPing {host : Host} {now : Int}
    {u8Message : UInt8} {u32Length : UInt32} {cells : Nat → UInt8}
    {eStatus : ModuleStatus} {before after : Ledger}
    (handling : Handling host now u8Message u32Length cells eStatus
      before after)
    (supported : before.daemon.sFlags.uSupportsPing = true) :
    after.daemon.sFlags.uSupportsPing = true := by
  cases handling with
  | version =>
      simp [Daemon.reportVersion, supported]
  | _ =>
      exact supported

/-- Behind a configuration request the state is not `E_STATE_RUNNING`. -/
theorem notRunning_of_restart {now : Int} {bTimeout : Bool}
    {before after : Ledger} (turn : Turn now bTimeout before after)
    (restarted : before.daemon.eModuleState = .configureNetwork) :
    after.daemon.eModuleState ≠ .running := by
  cases turn with
  | wait waiting =>
      simp [restarted]
  | last _ transition =>
      cases transition with
      | configureNetwork =>
          simp
      | _ inState =>
          simp [restarted] at inState
  | fall falls =>
      simp [fallsThrough, restarted] at falls

section Segment

variable {g d : Nat} {base : List Entry} {now : Int}
variable {before after : Ledger}

/-- A call of the state machine in `E_STATE_RUNNING`; it is the last one
behind it. -/
theorem live_turn {bTimeout : Bool}
    (invariant : LiveInvariant g d base now before)
    (inRunning : before.daemon.eModuleState = .running)
    (supported : before.daemon.sFlags.uSupportsPing = true)
    (turn : Turn now bTimeout (before.record now (.called bTimeout))
      after) :
    ∃ entries, after.history = entries ++ base ∧
      (machineTimes entries).head? = some now ∧
      (calledWithin g entries → unansweredWithin d entries →
        LiveFacts g d now after.daemon entries) := by
  obtain ⟨entries, history, facts⟩ := invariant
  rcases turn_running turn inRunning with ⟨due, rfl⟩ | ⟨notDue, rfl⟩
  · refine ⟨⟨.wrote .ping [], now, before.daemon⟩ ::
      ⟨.called bTimeout, now, before.daemon⟩ :: entries, ?_, rfl, ?_⟩
    · rw [List.cons_append, List.cons_append, ← history]
      rfl
    · intro within unanswered
      have gap := (List.isChain_cons.mp within).1
      have known :=
        facts
          (calledWithin_of_suffix ⟨[_, _], rfl⟩ within)
          unanswered.2.2
      exact
        known.pinging bTimeout before.daemon gap unanswered.2.1 due.2 rfl
          rfl
  · refine ⟨⟨.called bTimeout, now, before.daemon⟩ :: entries, ?_, rfl, ?_⟩
    · rw [List.cons_append, ← history]
      rfl
    · intro within unanswered
      have recent : now - before.daemon.sLastPing ≤ pingInterval := by
        by_contra late
        exact notDue ⟨supported, by dsimp only [Ledger.record]; omega⟩
      have known :=
        facts (calledWithin_of_suffix ⟨[_], rfl⟩ within) unanswered.2
      exact
        known.called bTimeout before.daemon unanswered.1 recent

/-- A message that is handled in a segment. -/
theorem live_handling {host : Host} {u8Message : UInt8}
    {u32Length : UInt32} {cells : Nat → UInt8} {eStatus : ModuleStatus}
    (invariant : LiveInvariant g d base now before)
    (handling : Handling host now u8Message u32Length cells eStatus
      before after) :
    LiveInvariant g d base now
      (after.complete now u8Message u32Length eStatus) := by
  obtain ⟨entries, history, facts⟩ := invariant
  have kept := handling_quietly handling
  obtain ⟨newer, handledHistory, quiet⟩ := kept.entries
  have quietOnly : ∀ entry ∈ newer, entry.quiet = true :=
    fun entry member => (quiet entry member).1
  refine ⟨⟨.handled u8Message u32Length eStatus, now, after.daemon⟩ ::
    (newer ++ entries), ?_, ?_⟩
  · rw [List.cons_append, List.append_assoc, ← history, ← handledHistory]
    rfl
  · intro within unanswered
    have suffix : entries <:+
        ⟨.handled u8Message u32Length eStatus, now, after.daemon⟩ ::
          (newer ++ entries) :=
      (List.suffix_append newer entries).trans (List.suffix_cons _ _)
    have known :=
      facts (calledWithin_of_suffix suffix within)
        (historically_of_suffix suffix unanswered)
    exact known.heard quietOnly kept.lastPing rfl

theorem LiveInvariant.wait {later : Int}
    (invariant : LiveInvariant g d base now before) (ahead : now ≤ later) :
    LiveInvariant g d base later before := by
  obtain ⟨entries, history, facts⟩ := invariant
  exact
    ⟨entries, history, fun within unanswered =>
      (facts within unanswered).wait ahead⟩

/-- Each call of a segment behind the first one. -/
theorem live_effect {host : Host} {call : ApiCall}
    (invariant : LiveInvariant g d base now before)
    (ahead : now ≤ call.time)
    (inRunning : before.daemon.eModuleState = .running)
    (supported : before.daemon.sFlags.uSupportsPing = true)
    (stays : after.daemon.eModuleState = .running)
    (effect : Effect host call before after) :
    LiveInvariant g d base call.time after := by
  have waited := invariant.wait ahead
  cases effect with
  | rejected _ handling =>
      exact live_handling waited handling
  | processed _ handling turn =>
      have completed := live_handling waited handling
      rcases handling_state handling with same | restarted
      · have stillSupported := handling_supportsPing handling supported
        obtain ⟨entries, history, -, facts⟩ :=
          live_turn completed (same.trans inRunning) stillSupported turn
        exact ⟨entries, history, facts⟩
      · exact absurd stays (notRunning_of_restart turn restarted)
  | ticked _ turn =>
      obtain ⟨entries, history, -, facts⟩ :=
        live_turn waited inRunning supported turn
      exact ⟨entries, history, facts⟩
  | forwarded =>
      obtain ⟨entries, history, facts⟩ := waited
      refine ⟨_ :: entries, congrArg _ history, ?_⟩
      intro within unanswered
      have known :=
        facts (calledWithin_of_suffix ⟨[_], rfl⟩ within) unanswered.2
      exact @LiveFacts.quietly g d call.time before.daemon entries known
        [_] (by simp [Entry.quiet, Entry.processed, Entry.isCall,
          Entry.wrote])
  | unread =>
      exact waited

/-- The first call of a segment. -/
theorem live_begin {host : Host} {call : ApiCall}
    (isMessage : match call.input with
      | .message .. => True
      | _ => False)
    (outside : before.daemon.eModuleState ≠ .running)
    (entered : after.daemon.eModuleState = .running)
    (ahead : before.daemon.sLastPing ≤ call.time)
    (effect : Effect host call before after) :
    LiveInvariant g d before.history call.time after := by
  cases effect with
  | ticked isOther | forwarded isOther | unread isOther =>
      simp [isOther] at isMessage
  | rejected _ handling =>
      rcases handling_state handling with same | restarted
      · exact absurd (same.symm.trans entered) outside
      · exact absurd (restarted.symm.trans entered) nofun
  | @processed u8Message u32Length _ _ handled _ _ handling turn =>
      have stillOutside : handled.daemon.eModuleState ≠ .running := by
        rcases handling_state handling with same | restarted
        · rw [same]
          exact outside
        · simp [restarted]
      have handledQuietly := handling_quietly handling
      obtain ⟨older, handledHistory, olderQuiet⟩ := handledQuietly.entries
      have turned := turn_quietly turn stillOutside
      obtain ⟨newer, turnHistory, newerQuiet⟩ := turned.entries
      have spoken : after.daemon.sLastSuccessfulComms = call.time :=
        turn_kept Daemon.sLastSuccessfulComms transition_lastComms turn
      have pinged : after.daemon.sLastPing = before.daemon.sLastPing :=
        turned.lastPing.trans handledQuietly.lastPing
      let recorded : List Entry :=
        [⟨.called false, call.time,
          (handled.complete call.env.now u8Message u32Length .ok).daemon⟩,
          ⟨.handled u8Message u32Length .ok, call.time, handled.daemon⟩]
      have noPing : ∀ entry ∈ newer ++ (recorded ++ older),
          entry.wrote .ping = false := by
        intro entry member
        rcases List.mem_append.mp member with inNewer | member
        · exact notPing_of_quiet (newerQuiet entry inNewer).1
        · rcases List.mem_append.mp member with inRecorded | inOlder
          · simp only [recorded, List.mem_cons, List.not_mem_nil,
              or_false] at inRecorded
            rcases inRecorded with rfl | rfl
            · rfl
            · rfl
          · exact notPing_of_quiet (olderQuiet entry inOlder).1
      refine ⟨newer ++ (recorded ++ older), ?_, fun _ _ => ?_⟩
      · rw [turnHistory, List.append_assoc, List.append_assoc,
          ← handledHistory]
        rfl
      · refine ⟨?_, ?_, ?_, call.time, ?_, Int.le_refl _,
          Or.inl ⟨?_, ?_⟩⟩
        · rw [pinged]
          exact ahead
        · intro entry member written
          rw [noPing entry member] at written
          contradiction
        · rw [pingsApart, List.filter_eq_nil_iff.mpr]
          · exact List.Pairwise.nil
          · intro entry member
            simp [noPing entry member]
        · rw [machineTimes_append_quiet fun entry member =>
            (newerQuiet entry member).1]
          rfl
        · rw [pinged, spoken]
          exact ahead
        · rw [spoken]
          have positive : 0 ≤ pingInterval := by decide
          omega

end Segment

/-- The invariant of a segment with the state in which it is used. -/
def liveIn (g d : Nat) (base : List Entry) (now : Int) (world : World) :
    Prop :=
  LiveInvariant g d base now world.toLedger ∧
    world.daemon.eModuleState = .running ∧
    world.daemon.sFlags.uSupportsPing = true

theorem live_run {g d : Nat} {base : List Entry} {now : Int} {host : Host}
    {world : World} {calls : List ApiCall}
    (live : liveIn g d base now world)
    (clock : NonDecreasing ApiCall.time now calls)
    (stays : EveryStep (step host) (staysRunning host) world calls) :
    liveIn g d base (latestTime ApiCall.time now calls)
      (run (step host) world calls) := by
  apply run_invariant_timed _ live clock stays
  intro now world call live ahead stays
  obtain ⟨invariant, inRunning, supported⟩ := live
  have kept :=
    live_effect invariant ahead inRunning supported stays.1
      (step_effect host world call)
  exact ⟨kept, stays.1, stays.2⟩

/-- A tick of a segment does not fail. -/
theorem live_tick {g d : Nat} {base entries : List Entry} {now : Int}
    {host : Host} {world : World} {call : ApiCall}
    (budget : pingInterval + g + d ≤ moduleTimeout)
    (live : liveIn g d base now world) (ahead : now ≤ call.time)
    (history : (step host world call).history = entries ++ base)
    (within : calledWithin g entries)
    (unanswered : unansweredWithin d entries) :
    status host world call ≠ .commsFailed := by
  intro failed
  obtain ⟨isTimeout, isSilent⟩ :=
    (status_commsFailed_iff host world call).mp failed
  obtain ⟨invariant, inRunning, supported⟩ := live
  have turn :=
    turn_of_timeout isTimeout (step_effect host world call)
  obtain ⟨recorded, recordedHistory, isLast, facts⟩ :=
    live_turn (invariant.wait ahead) inRunning supported turn
  have same : recorded = entries :=
    List.append_cancel_right (recordedHistory.symm.trans history)
  subst same
  obtain ⟨lastCall, isLastCall, -, probed⟩ :=
    (facts within unanswered).probed
  have isNow : call.time = lastCall :=
    Option.some_injective _ (isLast.symm.trans isLastCall)
  have inTime := inTime_of_probing budget probed
  simp only [silent, Bool.and_eq_true, decide_eq_true_eq] at isSilent
  rw [← isNow] at inTime
  unfold ApiCall.time at inTime
  omega

/-- In a segment that begins with the message that leads to
`E_STATE_RUNNING` and stays there, no call fails as long as the module answers
in time, and the PING frames are more than `PING_INTERVAL` seconds apart. -/
theorem live_module_never_failed
    (host : Host) (world : World) (first : ApiCall) (rest : List ApiCall)
    (g d : Nat) (budget : pingInterval + g + d ≤ moduleTimeout)
    (enters : entersRunning host world first)
    (stays : EveryStep (step host) (staysRunning host) world
      (first :: rest))
    (clock : NonDecreasing ApiCall.time world.daemon.sLastPing
      (first :: rest))
    (entries : List Entry)
    (history : (run (step host) world (first :: rest)).history =
      entries ++ world.history)
    (within : calledWithin g entries)
    (answered : answeredWithin d
      (latestTime ApiCall.time world.daemon.sLastPing (first :: rest))
      entries) :
    EveryStep (step host)
        (fun world call => status host world call ≠ .commsFailed) world
        (first :: rest) ∧
      pingsApart entries := by
  obtain ⟨isMessage, outside, entered⟩ := enters
  obtain ⟨firstStays, restStays⟩ := stays
  obtain ⟨ordered, recordedHistory, order, bounds⟩ :=
    run_ordered host world _ _ clock
  have same : ordered = entries :=
    List.append_cancel_right (recordedHistory.symm.trans history)
  subst same
  have unanswered : unansweredWithin d ordered :=
    unansweredWithin_of_answeredWithin order
      (fun entry member => (bounds entry member).2) answered
  have begun : liveIn g d world.history first.time
      (step host world first) :=
    ⟨live_begin isMessage outside entered clock.1
      (step_effect host world first), firstStays⟩
  constructor
  · constructor
    · intro failed
      have isTimeout :=
        ((status_commsFailed_iff host world first).mp failed).1
      simp [isTimeout] at isMessage
    · apply everyStep_of_splits
      intro earlier call later split
      rw [split] at restStays history
      have restClock := clock.2
      rw [split] at restClock
      obtain ⟨earlierClock, ahead, laterClock⟩ :=
        (nonDecreasing_append _ _ _).mp restClock
      obtain ⟨earlierStays, -, -⟩ :=
        (everyStep_append _ _ _).mp restStays
      have live := live_run begun earlierClock earlierStays
      have recordedSoFar := live.1
      obtain ⟨past, pastHistory, -⟩ := recordedSoFar
      obtain ⟨newer, stepHistory, -⟩ :=
        effect_recordedAt
          (step_effect host
            (run (step host) (step host world first) earlier) call)
      rw [pastHistory, ← List.append_assoc] at stepHistory
      obtain ⟨newest, laterHistory, -, -⟩ :=
        run_ordered host _ call.time later laterClock
      -- the entries behind the call are the oldest ones of the segment
      have whole : newest ++ (newer ++ past) = ordered := by
        rw [run_cons, run_append, run_cons, laterHistory, stepHistory,
          ← List.append_assoc] at history
        exact List.append_cancel_right history
      exact
        live_tick budget live ahead stepHistory
          (calledWithin_of_suffix ⟨newest, whole⟩ within)
          (historically_of_suffix ⟨newest, whole⟩ unanswered)
  · obtain ⟨⟨recorded, segmentHistory, facts⟩, -⟩ :=
      live_run begun clock.2 restStays
    have sameEntries : recorded = ordered :=
      List.append_cancel_right (segmentHistory.symm.trans history)
    subst sameEntries
    exact (facts within unanswered).apart

/-- The module of `pingingRun` before its last message. -/
def configuredModule : World :=
  runFrom sampleHost (granting 0) Settings.default (pingingRun.take 6)

/-- It runs from second 7 on and answers the PING frame of second 18 at
second 20. -/
def answeringRun : List ApiCall :=
  [tickAt 18, messageAt 20 .addr (List.replicate 16 0x20), tickAt 30]

/-- The entries of the run behind `configuredModule`, latest first. -/
def answeringEntries : List Entry :=
  let world :=
    run (step sampleHost) configuredModule
      (messageAt 7 .addr (List.replicate 16 0x20) :: answeringRun)
  world.history.take 10

theorem live_module_never_failed_answering :
    EveryStep (step sampleHost)
      (fun world call => status sampleHost world call ≠ .commsFailed)
      configuredModule
      (messageAt 7 .addr (List.replicate 16 0x20) :: answeringRun) :=
  (live_module_never_failed sampleHost configuredModule
    (messageAt 7 .addr (List.replicate 16 0x20)) answeringRun 12 2
    (by decide) (by decide +kernel) (by decide +kernel)
    (by decide +kernel) answeringEntries (by decide +kernel)
    (by decide +kernel) (by decide +kernel)).1

end SixLoWPANd.JennicModule
