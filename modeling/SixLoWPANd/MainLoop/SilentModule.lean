import SixLoWPANd.MainLoop.Automaton
import SixLoWPANd.MainLoop.Watchdog

/-!
# A module that never answers

Without an answer the daemon cannot do anything but repeat itself: it asks for
the version twice, presumes an old module, configures and starts it, asks for
its address five times, resets it and presumes an old module again at once.
From then on everything recurs with a period of ten seconds, and the loop never
ends by itself as long as the serial device accepts every byte.
-/

namespace SixLoWPANd.MainLoop

open SixLoWPANd.Foundation
open SixLoWPANd.JennicModule

/-- Where an attempt to start the module stands and how often something has
been tried, in the order of the timeouts. -/
def attemptState : Nat → ModuleState × UInt32
  | 0 => (.configureNetwork, 0)
  | 1 => (.configureSecurity, 0)
  | 2 => (.startModule, 0)
  | 3 => (.determineAddress, 0)
  | 4 => (.determineAddress, 1)
  | 5 => (.determineAddress, 2)
  | 6 => (.determineAddress, 3)
  | 7 => (.determineAddress, 4)
  | 8 => (.determineAddress, 5)
  | _ => (.determineVersion, 6)

/-- The frames of an attempt, timeout by timeout. -/
def attemptFrames (settings : Settings) : Nat → List Frame
  | 0 => [(.config, settings.networkEncoding)]
  | 1 =>
      if settings.iSecureNetwork ≠ 0 then
        [(.security, settings.securityEncoding)]
      else
        []
  | 2 => runFrames (.boot settings)
  | 3 | 4 | 5 | 6 | 7 => [(.addr, [])]
  | 8 => [(.reset, [])]
  | _ => []

/-- Where the daemon stands behind a number of timeouts. -/
def silentState : Nat → ModuleState × UInt32
  | 0 => (.determineVersion, 1)
  | 1 => (.determineVersion, 2)
  | count + 2 => attemptState (count % 10)

/-- The frames of the timeout behind a number of timeouts. -/
def silentFrames (settings : Settings) : Nat → List Frame
  | 0 => [(.versionRequest, [])]
  | 1 => []
  | count + 2 => attemptFrames settings (count % 10)

def silentDaemon (settings : Settings) (count : Nat) : Daemon :=
  { Daemon.boot settings with
    eModuleState := (silentState count).1
    u32Retries := (silentState count).2 }

/-! ## One timeout -/

theorem attempt_cases {property : Nat → Nat → Prop}
    (zero : property 0 1) (one : property 1 2) (two : property 2 3)
    (three : property 3 4) (four : property 4 5) (five : property 5 6)
    (six : property 6 7) (seven : property 7 8) (eight : property 8 9)
    (nine : property 9 0) (count : Nat) :
    property (count % 10) ((count + 1) % 10) := by
  have bound : count % 10 < 10 := Nat.mod_lt _ (by decide)
  have next : (count + 1) % 10 = (count % 10 + 1) % 10 := by omega
  rw [next]
  generalize count % 10 = place at bound
  match place, bound with
  | 0, _ => exact zero
  | 1, _ => exact one
  | 2, _ => exact two
  | 3, _ => exact three
  | 4, _ => exact four
  | 5, _ => exact five
  | 6, _ => exact six
  | 7, _ => exact seven
  | 8, _ => exact eight
  | 9, _ => exact nine

theorem silent_move (now : Int) (settings : Settings) (count : Nat) :
    turnMove now true (silentDaemon settings count) =
      ⟨silentDaemon settings (count + 1), silentFrames settings count⟩ := by
  match count with
  | 0 => rfl
  | 1 => rfl
  | count + 2 =>
      let standing (place : Nat) : Daemon :=
        { Daemon.boot settings with
          eModuleState := (attemptState place).1
          u32Retries := (attemptState place).2 }
      have moves :=
        @attempt_cases (fun place next =>
          turnMove now true (standing place) =
            ⟨standing next, attemptFrames settings place⟩)
          rfl rfl rfl rfl rfl rfl rfl rfl rfl rfl count
      exact moves

/-! ## Any number of timeouts -/

/-- `select` has timed out, and nobody has asked to quit. -/
def timedOut (wakeUp : WakeUp) : Prop :=
  wakeUp.selected = .ready false false ∧ wakeUp.quit = false

instance (wakeUp : WakeUp) : Decidable (timedOut wakeUp) :=
  inferInstanceAs (Decidable (_ ∧ _))

/-- All that has been written behind a number of timeouts. -/
def silentOutput (settings : Settings) (count : Nat) : List Frame :=
  (.versionRequest, []) :: (List.range count).flatMap (silentFrames settings)

/-- The loop has seen nothing but a number of timeouts. -/
structure Silence (settings : Settings) (count : Nat) (main : MainState) :
    Prop where
  daemon : main.world.daemon = silentDaemon settings count
  frames : emitted main.world.history = silentOutput settings count
  running : main.bRunning = true

theorem silence_start (host : Host) (env : Env) (settings : Settings)
    (serialInput : List (Option UInt8)) :
    Silence settings 0 (mainStart host env settings serialInput) := by
  obtain ⟨daemon, frames⟩ := started_makes host env settings
  exact ⟨daemon, frames, rfl⟩

/-- Nobody looks at the clock before the version is known. -/
theorem silent_silentDaemon (now : Int) (settings : Settings)
    (count : Nat) : silent (silentDaemon settings count) now = false := rfl

theorem silence_step {settings : Settings} {host : Host}
    {fds : Descriptors} (count : Nat) (main : MainState) (wakeUp : WakeUp)
    (timeout : timedOut wakeUp) (silence : Silence settings count main) :
    Silence settings (count + 1) (mainStep host fds main wakeUp) := by
  obtain ⟨selected, notQuit⟩ := timeout
  have turn :
      iterate host fds main wakeUp = onTimeout host wakeUp.env main := by
    simp [iterate, selected]
  have moved := stateMachine_makes host wakeUp.env main.world true
  rw [silence.daemon, silent_move] at moved
  have succeeded :
      (eJennicModuleStateMachine host wakeUp.env true main.world).1 =
        .ok := by
    rw [stateMachine_eStatus, moved.daemon, silent_silentDaemon]
    rfl
  obtain ⟨sameLedger, -, -, -, goesOn⟩ :=
    onTimeout_spec host wakeUp.env main
  obtain ⟨sameWorld, running⟩ :=
    @mainStep_running host fds main wakeUp silence.running
  rw [turn] at sameWorld running
  refine ⟨?_, ?_, ?_⟩
  · rw [sameWorld, sameLedger]
    exact moved.daemon
  · rw [sameWorld, sameLedger, moved.frames, silence.frames, silentOutput,
      silentOutput, List.range_succ, List.flatMap_append]
    simp
  · rw [running, goesOn, silence.running, succeeded, notQuit]
    rfl

/-! ## Resets -/

theorem count_reset_attempt (settings : Settings) (place : Nat) :
    (attemptFrames settings place).count (.reset, []) =
      if place = 8 then 1 else 0 := by
  match place with
  | 0 | 3 | 4 | 5 | 6 | 7 | 8 | 9 =>
      rfl
  | 1 =>
      by_cases secure : settings.iSecureNetwork = 0
      · simp [attemptFrames, secure]
      · simp [attemptFrames, secure]
  | 2 =>
      cases mode : settings.eModuleMode <;>
        simp [attemptFrames, runFrames, Daemon.boot, mode]
  | place + 10 =>
      rfl

theorem count_reset_silentFrames (settings : Settings) (count : Nat) :
    (silentFrames settings count).count (.reset, []) =
      if count % 10 = 0 ∧ 0 < count then 1 else 0 := by
  match count with
  | 0 => rfl
  | 1 => rfl
  | count + 2 =>
      rw [silentFrames, count_reset_attempt]
      congr 1
      simp only [eq_iff_iff]
      omega

/-- The first reset comes with the eleventh timeout, the others at intervals
of ten. -/
theorem count_reset_silentOutput (settings : Settings) (count : Nat) :
    (silentOutput settings count).count (.reset, []) = (count - 1) / 10 := by
  induction count with
  | zero =>
      rfl
  | succ count inductionHypothesis =>
      have split :
          silentOutput settings (count + 1) =
            silentOutput settings count ++ silentFrames settings count := by
        simp [silentOutput, List.range_succ]
      rw [split, List.count_append, inductionHypothesis,
        count_reset_silentFrames]
      split
      · omega
      · omega

/-- With a module that never answers, the frames of any number of timeouts are
known in advance, whatever the times: the module is reset with the eleventh
timeout and with every tenth one after it, and the loop never ends.  The serial
device accepts every byte; `serial_write` ends the process otherwise. -/
theorem silent_module_recurs (host : Host) (fds : Descriptors) (env : Env)
    (settings : Settings) (serialInput : List (Option UInt8))
    (wakeUps : List WakeUp)
    (silent : ∀ wakeUp ∈ wakeUps, timedOut wakeUp) :
    emitted
          (mainFrom host fds env settings serialInput
            wakeUps).world.history =
        silentOutput settings wakeUps.length ∧
      (emitted
          (mainFrom host fds env settings serialInput
            wakeUps).world.history).count (.reset, []) =
        (wakeUps.length - 1) / 10 ∧
      (mainFrom host fds env settings serialInput wakeUps).bRunning =
        true := by
  have silence :
      Silence settings (0 + wakeUps.length)
        (mainFrom host fds env settings serialInput wakeUps) :=
    run_counted silence_step
      (silence_start host env settings serialInput) silent
  rw [Nat.zero_add] at silence
  exact
    ⟨silence.frames,
      by rw [silence.frames, count_reset_silentOutput], silence.running⟩

/-- Eleven timeouts, one each second. -/
theorem silent_module_recurs_eleven :
    (emitted
        (mainFrom sampleHost sampleDescriptors (granting 0)
          Settings.default []
          ((List.range 11).map fun second =>
            wakeUpAt (second + 1) false false)).world.history).count
      (.reset, []) = 1 :=
  (silent_module_recurs sampleHost sampleDescriptors (granting 0)
    Settings.default []
    ((List.range 11).map fun second => wakeUpAt (second + 1) false false)
    (by
      intro wakeUp member
      obtain ⟨second, -, rfl⟩ := List.mem_map.mp member
      exact ⟨rfl, rfl⟩)).2.1

end SixLoWPANd.MainLoop
