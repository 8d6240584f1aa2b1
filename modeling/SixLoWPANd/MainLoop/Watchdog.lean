import SixLoWPANd.JennicModule.Communication
import SixLoWPANd.MainLoop.Loop

/-!
# Whether a silent module is noticed

The communication test stands in the state machine, which the loop reaches
with a timeout of `select` and with a complete message only.  As long as the
TUN device always has a packet, or the serial device bytes that complete no
message, `select` does not time out and nobody looks at the clock.
`silence_noticed_iff` says that nothing else keeps a silent module from being
noticed.
-/

namespace SixLoWPANd.MainLoop

open SixLoWPANd.Foundation
open SixLoWPANd.SerialLink
open SixLoWPANd.JennicModule

/-- The module has a known version and answers PING frames. -/
def watched (daemon : Daemon) : Prop :=
  daemon.sFlags.uVersionKnown = true ∧ daemon.sFlags.uSupportsPing = true

instance (daemon : Daemon) : Decidable (watched daemon) :=
  inferInstanceAs (Decidable (_ ∧ _))

/-- A silence of more than `MODULE_TIMEOUT + 2` seconds has ended the loop. -/
def silenceNoticed (now : Int) (main : MainState) : Prop :=
  watched main.world.daemon →
    now - main.world.daemon.sLastSuccessfulComms > moduleTimeout + 2 →
      main.bRunning = false

instance (now : Int) (main : MainState) :
    Decidable (silenceNoticed now main) :=
  inferInstanceAs (Decidable (_ → _ → _))

/-- The turn hands a timeout or a complete message to the module
interface. -/
def reachesModule (main : MainState) (wakeUp : WakeUp) : Bool :=
  match wakeUp.selected with
  | .error _ => false
  | .ready serial tun =>
      if serial then (serialRead main).1.result else !tun

/-- The state machine has been called in the last `seconds`. -/
def calledLately (seconds now : Int) (history : List Entry) : Prop :=
  ∃ entry ∈ history, entry.isCall = true ∧ now ≤ entry.time + seconds

instance (seconds now : Int) (history : List Entry) :
    Decidable (calledLately seconds now history) :=
  inferInstanceAs (Decidable (∃ entry ∈ history, _ ∧ _))

/-- The turn reaches the module interface, or the state machine has been
called in the last two seconds, or the last message is no older than
`MODULE_TIMEOUT + 2` seconds.  In a run the second of these implies the
third. -/
def attended (main : MainState) (wakeUp : WakeUp) : Prop :=
  main.bRunning = true → wakeUp.quit = false →
    watched main.world.daemon →
      reachesModule main wakeUp = true ∨
        calledLately 2 wakeUp.time main.world.history ∨
        wakeUp.time - main.world.daemon.sLastSuccessfulComms ≤
          moduleTimeout + 2

instance (main : MainState) (wakeUp : WakeUp) :
    Decidable (attended main wakeUp) :=
  inferInstanceAs (Decidable (_ → _ → _ → _ ∨ _ ∨ _))

/-- `select` waits for at most one second. -/
def waitsOneSecond (now : Int) (wakeUps : List WakeUp) : Prop :=
  (now :: wakeUps.map WakeUp.time).IsChain fun earlier later =>
    later ≤ earlier + 1

instance (now : Int) (wakeUps : List WakeUp) :
    Decidable (waitsOneSecond now wakeUps) :=
  inferInstanceAs (Decidable (List.IsChain _ _))

/-! ## The time of the calls -/

/-- While the loop runs, no call of the state machine has come more than
`MODULE_TIMEOUT` seconds after the last message. -/
structure WatchInvariant (now : Int) (main : MainState) : Prop where
  recorded : ∀ entry ∈ main.world.history, entry.time ≤ now
  inTime : main.bRunning = true → watched main.world.daemon →
    ∀ entry ∈ main.world.history, entry.isCall = true →
      entry.time ≤ main.world.daemon.sLastSuccessfulComms + moduleTimeout

namespace WatchInvariant

variable {now later : Int} {main after : MainState}

theorem wait (invariant : WatchInvariant now main) (ahead : now ≤ later) :
    WatchInvariant later main where
  recorded entry member :=
    Int.le_trans (invariant.recorded entry member) ahead
  inTime := invariant.inTime

theorem congr (invariant : WatchInvariant now main)
    (sameLedger : after.world.toLedger = main.world.toLedger)
    (running : after.bRunning = true → main.bRunning = true) :
    WatchInvariant now after where
  recorded := by
    rw [sameLedger]
    exact invariant.recorded
  inTime := by
    intro isRunning
    rw [sameLedger]
    exact invariant.inTime (running isRunning)

/-- A call in the last two seconds has found the last message recent. -/
theorem recent_of_calledLately (invariant : WatchInvariant now main)
    (running : main.bRunning = true) (isWatched : watched main.world.daemon)
    (lately : calledLately 2 later main.world.history) :
    later - main.world.daemon.sLastSuccessfulComms ≤ moduleTimeout + 2 := by
  obtain ⟨entry, member, isCall, recent⟩ := lately
  have inTime := invariant.inTime running isWatched entry member isCall
  omega

end WatchInvariant

/-- A message that is processed is the last communication. -/
theorem spoken_of_effect {host : Host} {call : ApiCall}
    {before after : Ledger} {u8Message : UInt8} {u32Length : UInt32}
    {pu8Data : Nat → UInt8}
    (isMessage : call.input = .message u8Message u32Length pu8Data)
    (effect : Effect host call before after) :
    after.daemon.sLastSuccessfulComms = call.time := by
  cases effect with
  | rejected =>
      rfl
  | processed _ _ turn =>
      exact
        turn_kept Daemon.sLastSuccessfulComms transition_lastComms turn
  | ticked isOther | forwarded isOther | unread isOther =>
      rw [isMessage] at isOther
      contradiction

theorem recorded_of_effect {host : Host} {call : ApiCall}
    {before after : Ledger} (effect : Effect host call before after)
    (recorded : ∀ entry ∈ before.history, entry.time ≤ call.time) :
    ∀ entry ∈ after.history, entry.time ≤ call.time := by
  have grown := effect_recordedAt effect
  exact (grown.mono fun _ same => Int.le_of_eq same).forall_mem recorded

section Parts

variable {host : Host} {env : Env} {main : MainState}

/-- A complete message is heard at once. -/
theorem watch_complete (invariant : WatchInvariant env.now main)
    (complete : (serialRead main).1.result = true) :
    WatchInvariant env.now (onSerial host env main) ∧
      (onSerial host env main).world.daemon.sLastSuccessfulComms =
        env.now := by
  obtain ⟨sameLedger, -, -, -⟩ := onSerial_of_complete host env main complete
  have effect := received_effect host env main
  have spoken := spoken_of_effect rfl effect
  have recorded := recorded_of_effect effect invariant.recorded
  rw [← sameLedger] at spoken recorded
  have positive : 0 ≤ moduleTimeout := by decide
  refine ⟨⟨recorded, fun _ _ entry member _ => ?_⟩, spoken⟩
  have past : entry.time ≤ env.now := recorded entry member
  rw [spoken]
  change entry.time ≤ env.now + moduleTimeout
  omega

theorem watch_serialPart (serial : Bool)
    (invariant : WatchInvariant env.now main) :
    WatchInvariant env.now (serialPart host env serial main) := by
  cases serial with
  | false =>
      exact invariant
  | true =>
      by_cases complete : (serialRead main).1.result = true
      · exact (watch_complete invariant complete).1
      · have incomplete : (serialRead main).1.result = false := by
          simpa using complete
        apply invariant.congr
        · rw [serialPart_ready, onSerial_of_incomplete _ _ _ incomplete]
        · rw [serialPart_ready, onSerial_of_incomplete _ _ _ incomplete]
          exact id

/-- A packet for the module keeps the variables and calls no state
machine. -/
theorem tunPacket_daemon (read : TunRead) (world : World) :
    (eTunDeviceReadPacket env read world).daemon = world.daemon := by
  rw [eTunDeviceReadPacket_toLedger]
  split <;> rfl

theorem tunPacket_calls (read : TunRead) (world : World) :
    GrownBy (fun entry => entry.isCall = false ∧ entry.time = env.now)
      world.history (eTunDeviceReadPacket env read world).history := by
  rw [eTunDeviceReadPacket_toLedger]
  split
  · exact .refl world.history
  · exact (GrownBy.refl world.history).cons ⟨rfl, rfl⟩

theorem watch_tunPart (read : TunRead) (tun : Bool)
    (invariant : WatchInvariant env.now main) :
    WatchInvariant env.now (tunPart env read tun main) := by
  cases tun with
  | false =>
      exact invariant
  | true =>
      rw [tunPart_ready]
      have grown := @tunPacket_calls env read main.world
      constructor
      · exact
          (grown.mono fun _ new => Int.le_of_eq new.2).forall_mem
            invariant.recorded
      · intro running isWatched
        dsimp only at running isWatched ⊢
        rw [tunPacket_daemon] at isWatched ⊢
        have noCall : ∀ entry : Entry,
            entry.isCall = false ∧ entry.time = env.now →
              entry.isCall = true →
                entry.time ≤ main.world.daemon.sLastSuccessfulComms +
                  moduleTimeout := by
          intro entry new isCall
          rw [new.1] at isCall
          contradiction
        exact
          (grown.mono noCall).forall_mem
            (invariant.inTime running isWatched)

/-- A timeout that does not end the loop finds the last message recent. -/
theorem watch_timeout (invariant : WatchInvariant env.now main) :
    WatchInvariant env.now (onTimeout host env main) ∧
      ((onTimeout host env main).bRunning = true →
        watched (onTimeout host env main).world.daemon →
          env.now -
              (onTimeout host env main).world.daemon.sLastSuccessfulComms ≤
            moduleTimeout) := by
  obtain ⟨sameLedger, -, -, -, running⟩ := onTimeout_spec host env main
  have effect := stateMachine_effect host env main.world
  have recorded := recorded_of_effect effect invariant.recorded
  have status := stateMachine_eStatus host env main.world true
  rw [← sameLedger] at recorded status
  have recent : (onTimeout host env main).bRunning = true →
      watched (onTimeout host env main).world.daemon →
        env.now -
            (onTimeout host env main).world.daemon.sLastSuccessfulComms ≤
          moduleTimeout := by
    intro isRunning isWatched
    rw [running, Bool.and_eq_true, decide_eq_true_eq, status] at isRunning
    by_contra late
    have isSilent :
        silent (onTimeout host env main).world.daemon env.now = true := by
      simp only [silent, isWatched.1, isWatched.2, Bool.and_self,
        Bool.true_and, decide_eq_true_eq]
      omega
    rw [if_pos isSilent] at isRunning
    exact absurd isRunning.2 (by decide)
  refine ⟨⟨recorded, ?_⟩, recent⟩
  intro isRunning isWatched entry member _
  have past : entry.time ≤ env.now := recorded entry member
  have inTime := recent isRunning isWatched
  omega

theorem tunPart_daemon (read : TunRead) (tun : Bool) :
    (tunPart env read tun main).world.daemon = main.world.daemon := by
  cases tun with
  | false =>
      rfl
  | true =>
      rw [tunPart_ready]
      exact tunPacket_daemon read main.world

theorem tunPart_bRunning (read : TunRead) (tun : Bool) :
    (tunPart env read tun main).bRunning = main.bRunning := by
  cases tun with
  | false =>
      rfl
  | true =>
      rw [tunPart_ready]

theorem serialRead_tunPart (read : TunRead) (tun : Bool) :
    serialRead (tunPart env read tun main) = serialRead main := by
  cases tun with
  | false =>
      rfl
  | true =>
      rw [tunPart_ready]
      rfl

/-- A serial device without a complete message changes nothing that the
watchdog looks at. -/
theorem serialPart_incomplete {serial : Bool}
    (incomplete : serial = true → (serialRead main).1.result = false) :
    (serialPart host env serial main).world = main.world ∧
      (serialPart host env serial main).bRunning = main.bRunning := by
  cases serial with
  | false =>
      exact ⟨rfl, rfl⟩
  | true =>
      rw [serialPart_ready, onSerial_of_incomplete _ _ _ (incomplete rfl)]
      exact ⟨rfl, rfl⟩

end Parts

/-! ## Turns of the loop -/

section Turns

variable {host : Host} {fds : Descriptors} {main : MainState}
variable {wakeUp : WakeUp}

theorem watch_iterate (invariant : WatchInvariant wakeUp.env.now main) :
    WatchInvariant wakeUp.env.now (iterate host fds main wakeUp) := by
  rcases iterate_cases host fds main wakeUp with
    ⟨text, -, turn⟩ | ⟨-, turn⟩ |
      ⟨serial, tun, -, -, turn | turn⟩
  · rw [turn]
    exact invariant.congr rfl id
  · rw [turn]
    exact (watch_timeout invariant).1
  · rw [turn]
    exact watch_tunPart _ _ (watch_serialPart _ invariant)
  · rw [turn]
    exact watch_serialPart _ (watch_tunPart _ _ invariant)

/-- A turn that does not reach the module interface keeps the variables and
goes on. -/
theorem unreached_turn (unreached : reachesModule main wakeUp = false) :
    (iterate host fds main wakeUp).world.daemon = main.world.daemon ∧
      (iterate host fds main wakeUp).bRunning = main.bRunning := by
  unfold reachesModule at unreached
  rcases iterate_cases host fds main wakeUp with
    ⟨text, -, turn⟩ | ⟨selected, -⟩ | ⟨serial, tun, selected, -, order⟩
  · rw [turn]
    exact ⟨rfl, rfl⟩
  · simp [selected] at unreached
  · have incomplete :
        serial = true → (serialRead main).1.result = false := by
      intro isReady
      simpa [selected, isReady] using unreached
    rcases order with turn | turn
    · obtain ⟨sameWorld, sameRunning⟩ :=
        @serialPart_incomplete host wakeUp.env main serial incomplete
      rw [turn, tunPart_daemon, tunPart_bRunning, sameWorld, sameRunning]
      exact ⟨rfl, rfl⟩
    · rw [← serialRead_tunPart wakeUp.read tun] at incomplete
      obtain ⟨sameWorld, sameRunning⟩ :=
        @serialPart_incomplete host wakeUp.env _ serial incomplete
      rw [turn, sameWorld, sameRunning, tunPart_daemon, tunPart_bRunning]
      exact ⟨rfl, rfl⟩

/-- A turn that reaches the module interface and goes on finds the last
message recent. -/
theorem reached_turn (invariant : WatchInvariant wakeUp.env.now main)
    (reached : reachesModule main wakeUp = true)
    (running : (iterate host fds main wakeUp).bRunning = true)
    (isWatched : watched (iterate host fds main wakeUp).world.daemon) :
    wakeUp.env.now -
        (iterate host fds main
          wakeUp).world.daemon.sLastSuccessfulComms ≤
      moduleTimeout := by
  have positive : 0 ≤ moduleTimeout := by decide
  unfold reachesModule at reached
  rcases iterate_cases host fds main wakeUp with
    ⟨text, selected, -⟩ | ⟨-, turn⟩ | ⟨serial, tun, selected, data, order⟩
  · simp [selected] at reached
  · rw [turn] at running isWatched ⊢
    exact (watch_timeout invariant).2 running isWatched
  · have isSerial : serial = true := by
      by_contra notSerial
      have isTun := data.resolve_left notSerial
      simp [selected, notSerial, isTun] at reached
    have complete : (serialRead main).1.result = true := by
      simpa [selected, isSerial] using reached
    subst isSerial
    rcases order with turn | turn
    · have spoken := (@watch_complete host _ _ invariant complete).2
      rw [turn, tunPart_daemon, serialPart_ready, spoken]
      omega
    · have behind := watch_tunPart wakeUp.read tun invariant
      rw [← serialRead_tunPart wakeUp.read tun] at complete
      have spoken := (@watch_complete host _ _ behind complete).2
      rw [turn, serialPart_ready, spoken]
      omega

theorem mainStep_running (running : main.bRunning = true) :
    (mainStep host fds main wakeUp).world =
        (iterate host fds main wakeUp).world ∧
      (mainStep host fds main wakeUp).bRunning =
        ((iterate host fds main wakeUp).bRunning && !wakeUp.quit) := by
  unfold mainStep
  rw [if_pos running]
  exact ⟨rfl, rfl⟩

theorem mainStep_stopped (stopped : main.bRunning = false) :
    mainStep host fds main wakeUp = main := by
  unfold mainStep
  rw [if_neg (by simp [stopped])]

theorem watch_step {now : Int} (invariant : WatchInvariant now main)
    (ahead : now ≤ wakeUp.time) :
    WatchInvariant wakeUp.time (mainStep host fds main wakeUp) := by
  have waited := invariant.wait ahead
  cases isRunning : main.bRunning with
  | false =>
      rw [mainStep_stopped isRunning]
      exact waited
  | true =>
      obtain ⟨sameWorld, goesOn⟩ :=
        @mainStep_running host fds main wakeUp isRunning
      apply (@watch_iterate host fds main wakeUp waited).congr
      · rw [sameWorld]
      · intro running
        rw [goesOn, Bool.and_eq_true] at running
        exact running.1

/-- In each turn the silence is noticed exactly if the turn is attended. -/
theorem silenceNoticed_step_iff {now : Int}
    (invariant : WatchInvariant now main) (ahead : now ≤ wakeUp.time) :
    silenceNoticed wakeUp.time (mainStep host fds main wakeUp) ↔
      attended main wakeUp := by
  cases isRunning : main.bRunning with
  | false =>
      rw [mainStep_stopped isRunning]
      simp [silenceNoticed, attended, isRunning]
  | true =>
      obtain ⟨sameWorld, goesOn⟩ :=
        @mainStep_running host fds main wakeUp isRunning
      unfold silenceNoticed
      rw [sameWorld, goesOn]
      by_cases reached : reachesModule main wakeUp = true
      · have recent :=
          @reached_turn host fds main wakeUp (invariant.wait ahead) reached
        refine ⟨fun _ _ _ _ => Or.inl reached, ?_⟩
        intro _ isWatched late
        rw [Bool.and_eq_false_iff]
        left
        by_contra running
        have inTime := recent (by simpa using running) isWatched
        change wakeUp.env.now - _ > _ at late
        omega
      · have unreached : reachesModule main wakeUp = false := by
          simpa using reached
        obtain ⟨sameDaemon, sameRunning⟩ :=
          @unreached_turn host fds main wakeUp unreached
        rw [sameDaemon, sameRunning, isRunning, Bool.true_and]
        constructor
        · intro noticed _ notQuit isWatched
          by_contra neglected
          simp only [not_or, Int.not_le] at neglected
          have ended := noticed isWatched neglected.2.2
          simp [notQuit] at ended
        · intro isAttended isWatched late
          cases isQuit : wakeUp.quit with
          | true =>
              rfl
          | false =>
              rcases isAttended isRunning isQuit isWatched with
                isReached | lately | recent
              · exact absurd isReached reached
              · have recent :=
                  invariant.recent_of_calledLately isRunning isWatched lately
                omega
              · omega

end Turns

/-! ## Runs of the loop -/

theorem watch_start (host : Host) (env : Env) (settings : Settings)
    (serialInput : List (Option UInt8)) :
    WatchInvariant env.now
      (mainStart host env settings serialInput) := by
  have turn := started_turn host env settings
  have unknown :
      (started host env settings).daemon.sFlags.uVersionKnown = false :=
    turn_kept (fun daemon => daemon.sFlags.uVersionKnown)
      transition_versionKnown turn
  constructor
  · have grown := turn_recordedAt turn
    apply (grown.mono fun _ same => Int.le_of_eq same).forall_mem
    intro entry member
    have atStart : entry.time = env.now := by
      rw [List.mem_singleton.mp member]
    exact Int.le_of_eq atStart
  · intro _ isWatched
    have isKnown :
        (started host env settings).daemon.sFlags.uVersionKnown = true :=
      isWatched.1
    rw [unknown] at isKnown
    exact absurd isKnown Bool.false_ne_true

theorem silenceNoticed_run_iff {host : Host} {fds : Descriptors}
    {now : Int} {main : MainState} {wakeUps : List WakeUp}
    (invariant : WatchInvariant now main)
    (clock : NonDecreasing WakeUp.time now wakeUps) :
    EveryStep (mainStep host fds)
        (fun main wakeUp =>
          silenceNoticed wakeUp.time (mainStep host fds main wakeUp))
        main wakeUps ↔
      EveryStep (mainStep host fds) attended main wakeUps := by
  induction wakeUps generalizing now main with
  | nil =>
      exact Iff.rfl
  | cons wakeUp rest inductionHypothesis =>
      obtain ⟨ahead, laterClock⟩ := clock
      have first :=
        @silenceNoticed_step_iff host fds main wakeUp now invariant ahead
      have later :=
        inductionHypothesis
          (@watch_step host fds main wakeUp now invariant ahead) laterClock
      exact and_congr first later

/-- In every run of the main loop whose clock does not go back, a silence of
more than `MODULE_TIMEOUT + 2` seconds has ended the loop behind every turn
exactly if every turn is attended. -/
theorem silence_noticed_iff
    (host : Host) (fds : Descriptors) (env : Env) (settings : Settings)
    (serialInput : List (Option UInt8)) (wakeUps : List WakeUp)
    (clock : NonDecreasing WakeUp.time env.now wakeUps) :
    EveryStep (mainStep host fds)
        (fun main wakeUp =>
          silenceNoticed wakeUp.time (mainStep host fds main wakeUp))
        (mainStart host env settings serialInput) wakeUps ↔
      EveryStep (mainStep host fds) attended
        (mainStart host env settings serialInput) wakeUps :=
  silenceNoticed_run_iff (watch_start host env settings serialInput) clock

def versionReport : List (Option UInt8) :=
  (encode versionMessage).map some

/-- The module is silent from second 2 on, and so is the TUN device. -/
def silentRun : List WakeUp :=
  wakeUpAt 1 true false ::
    (List.range 63).map fun second =>
      wakeUpAt (second + 2) false false

theorem silence_noticed_iff_silent :
    EveryStep (mainStep sampleHost sampleDescriptors)
      (fun main wakeUp =>
        silenceNoticed wakeUp.time
          (mainStep sampleHost sampleDescriptors main wakeUp))
      (mainStart sampleHost (granting 0) Settings.default versionReport)
      silentRun :=
  (silence_noticed_iff sampleHost sampleDescriptors (granting 0)
    Settings.default versionReport silentRun (by decide +kernel)).mpr
      (by decide +kernel)

/-- The module is silent from second 2 on, and the TUN device has a packet
every second. -/
def busyRun : List WakeUp :=
  wakeUpAt 1 true false ::
    (List.range 63).map fun second =>
      wakeUpAt (second + 2) false true

theorem silence_unnoticed :
    ¬ ∀ host fds env settings serialInput wakeUps,
      NonDecreasing WakeUp.time env.now wakeUps →
      waitsOneSecond env.now wakeUps →
      EveryStep (mainStep host fds)
        (fun main wakeUp =>
          silenceNoticed wakeUp.time (mainStep host fds main wakeUp))
        (mainStart host env settings serialInput) wakeUps := by
  intro always
  have noticed :=
    always sampleHost sampleDescriptors (granting 0) Settings.default
      versionReport busyRun (by decide +kernel) (by decide +kernel)
  revert noticed
  decide +kernel

end SixLoWPANd.MainLoop
