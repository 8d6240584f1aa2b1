import SixLoWPANd.JennicModule.Runs

/-!
# The budget of the address discovery

The version phase and the address phase share one static counter.  It is zero
whenever `eJennicModuleStateMachine` leaves one of the two phases by itself,
but a CONFIG_REQUEST message leaves it as it is.  `addressBudget` is what must
have happened before the module is reset; it is guaranteed in every run whose
CONFIG_REQUEST messages find the counter at zero, and `leftoverRun` shows what
happens to the next address discovery otherwise.
-/

namespace SixLoWPANd.JennicModule

open SixLoWPANd.Foundation

/-- How many ADDR requests have been written since the state last became
`E_STATE_DETERMINE_ADDRESS`. -/
def requestsSinceEntry (history : List Entry) : Nat :=
  countSince (Entry.entered .determineAddress) (Entry.wrote .addr) history

/-- An ADDR message has been handled successfully since then. -/
def addressSinceEntry (history : List Entry) : Prop :=
  HappenedSince (Entry.entered .determineAddress) (Entry.handledOk .addr)
    history

/-- The full number of attempts has been made since the state last became
`E_STATE_DETERMINE_ADDRESS`, without success. -/
def addressBudget (history : List Entry) : Prop :=
  (∃ entry ∈ history, entry.entered .determineAddress = true) ∧
    maxAddressRetries.toNat - 1 ≤ requestsSinceEntry history ∧
    ¬ addressSinceEntry history

instance (history : List Entry) : Decidable (addressBudget history) :=
  inferInstanceAs
    (Decidable
      ((∃ entry ∈ history, _) ∧ _ ∧ ¬ HappenedSince _ _ history))

/-- A CONFIG_REQUEST message finds the counter at zero. -/
def findsCounterCleared (u8Message : UInt8) (_ : UInt32)
    (daemon : Daemon) : Prop :=
  u8Message = SLMsgType.configRequest.code → daemon.u32Retries = 0

instance (u8Message : UInt8) (u32Length : UInt32) (daemon : Daemon) :
    Decidable (findsCounterCleared u8Message u32Length daemon) :=
  inferInstanceAs (Decidable (_ → _))

/-- What the counter says in each state. -/
def budgetPhase (daemon : Daemon) (history : List Entry) : Prop :=
  match daemon.eModuleState with
  | .determineVersion => True
  | .determineAddress =>
      (∃ entry ∈ history, entry.entered .determineAddress = true) ∧
        requestsSinceEntry history = daemon.u32Retries.toNat ∧
        daemon.u32Retries.toNat ≤ 5 ∧
        (daemon.sFlags.uAddressKnown = false →
          ¬ addressSinceEntry history)
  | _ => daemon.u32Retries = 0

theorem requestsSinceEntry_cons (entry : Entry) (past : List Entry) :
    requestsSinceEntry (entry :: past) =
      if entry.entered .determineAddress then 0
      else requestsSinceEntry past +
        if entry.wrote .addr then 1 else 0 :=
  countSince_cons _ _ _ _

theorem addressSinceEntry_cons (entry : Entry) (past : List Entry) :
    addressSinceEntry (entry :: past) ↔
      entry.entered .determineAddress = false ∧
        (entry.handledOk .addr = true ∨ addressSinceEntry past) :=
  happenedSince_cons _ _ _ _

/-- An event that is no entry into the address discovery, no ADDR request and
no handled ADDR message. -/
def idleEntry (entry : Entry) : Prop :=
  entry.entered .determineAddress = false ∧ entry.wrote .addr = false ∧
    entry.handledOk .addr = false

theorem budgetPhase_cons {daemon : Daemon} {entry : Entry}
    {past : List Entry} (phase : budgetPhase daemon past)
    (idle : idleEntry entry) : budgetPhase daemon (entry :: past) := by
  obtain ⟨notEntered, notRequested, notHandled⟩ := idle
  unfold budgetPhase at phase ⊢
  simp only [requestsSinceEntry_cons, addressSinceEntry_cons,
    List.exists_mem_cons_iff, notEntered, notRequested, notHandled]
  cases state : daemon.eModuleState <;> simp_all

theorem budgetPhase_congr {first second : Daemon} {history : List Entry}
    (sameState : second.eModuleState = first.eModuleState)
    (sameCount : second.u32Retries = first.u32Retries)
    (sameFlag :
      second.sFlags.uAddressKnown = first.sFlags.uAddressKnown)
    (phase : budgetPhase first history) : budgetPhase second history := by
  unfold budgetPhase at phase ⊢
  rw [sameState, sameCount, sameFlag]
  exact phase

/-- The invariant of the address discovery: the counter fits the history, and
every reset was written with the budget used up. -/
structure BudgetInvariant (ledger : Ledger) : Prop where
  phase : budgetPhase ledger.daemon ledger.history
  past : Historically
    (fun entry past => entry.wrote .reset = true → addressBudget past)
    ledger.history

namespace BudgetInvariant

variable {ledger : Ledger}

theorem recordIn (invariant : BudgetInvariant ledger) (now : Int)
    (event : Event)
    (notReset :
      Entry.wrote .reset ⟨event, now, ledger.daemon⟩ = false)
    (phase :
      budgetPhase ledger.daemon
        (⟨event, now, ledger.daemon⟩ :: ledger.history)) :
    BudgetInvariant (ledger.record now event) where
  phase := phase
  past := by
    refine ⟨fun reset => ?_, invariant.past⟩
    simp [notReset] at reset

theorem record (invariant : BudgetInvariant ledger) (now : Int)
    (event : Event)
    (notReset :
      Entry.wrote .reset ⟨event, now, ledger.daemon⟩ = false)
    (idle : idleEntry ⟨event, now, ledger.daemon⟩) :
    BudgetInvariant (ledger.record now event) :=
  invariant.recordIn now event notReset
    (budgetPhase_cons invariant.phase idle)

theorem update (invariant : BudgetInvariant ledger)
    (change : Daemon → Daemon)
    (phase : budgetPhase (change ledger.daemon) ledger.history) :
    BudgetInvariant (ledger.update change) where
  phase := phase
  past := invariant.past

/-- A change of neither the state nor the counter nor the address flag. -/
theorem updateOther (invariant : BudgetInvariant ledger)
    (change : Daemon → Daemon)
    (sameState :
      (change ledger.daemon).eModuleState = ledger.daemon.eModuleState)
    (sameCount :
      (change ledger.daemon).u32Retries = ledger.daemon.u32Retries)
    (sameFlag :
      (change ledger.daemon).sFlags.uAddressKnown =
        ledger.daemon.sFlags.uAddressKnown) :
    BudgetInvariant (ledger.update change) :=
  invariant.update change
    (budgetPhase_congr sameState sameCount sameFlag invariant.phase)

theorem assign (invariant : BudgetInvariant ledger) (now : Int)
    (next : ModuleState) (other : next ≠ .determineAddress)
    (phase :
      budgetPhase { ledger.daemon with eModuleState := next }
        ledger.history) :
    BudgetInvariant (ledger.assign now next) where
  phase := by
    apply budgetPhase_cons phase
    simp [idleEntry, Entry.entered, Entry.wrote, Entry.handledOk, other]
  past := ⟨fun reset => absurd reset (by simp [Entry.wrote]),
    invariant.past⟩

/-- Entry into the address discovery with the counter at zero, and a change of
the address flag after it. -/
theorem enter (invariant : BudgetInvariant ledger) (now : Int)
    (elsewhere : ledger.daemon.eModuleState ≠ .determineAddress)
    (cleared : ledger.daemon.u32Retries = 0)
    (change : Daemon → Daemon)
    (sameState : ∀ daemon,
      (change daemon).eModuleState = daemon.eModuleState)
    (sameCount : ∀ daemon,
      (change daemon).u32Retries = daemon.u32Retries) :
    BudgetInvariant
      ((ledger.assign now .determineAddress).update change) where
  phase := by
    have entered :
        Entry.entered .determineAddress
          ⟨.assigned .determineAddress, now, ledger.daemon⟩ = true := by
      simp [Entry.entered, elsewhere]
    simp [budgetPhase, requestsSinceEntry_cons, addressSinceEntry_cons,
      entered, cleared, sameState, sameCount]
  past := ⟨fun reset => absurd reset (by simp [Entry.wrote]),
    invariant.past⟩

theorem request (invariant : BudgetInvariant ledger) (now : Int)
    (inState : ledger.daemon.eModuleState = .determineAddress)
    (unknown : ledger.daemon.sFlags.uAddressKnown = false)
    (remaining : ledger.daemon.u32Retries + 1 < maxAddressRetries) :
    BudgetInvariant
      (((ledger.update
        (Daemon.setRetries (ledger.daemon.u32Retries + 1))).update
          Daemon.forgetAddress).record now (.wrote .addr [])) where
  phase := by
    have phase := invariant.phase
    simp only [budgetPhase, inState] at phase
    obtain ⟨⟨entry, member, entered⟩, requests, bound, notHandled⟩ := phase
    have next :
        (ledger.daemon.u32Retries + 1).toNat =
          ledger.daemon.u32Retries.toNat + 1 := by
      simp only [UInt32.toNat_add, UInt32.reduceToNat]
      omega
    have small : (ledger.daemon.u32Retries + 1).toNat < 6 :=
      UInt32.lt_iff_toNat_lt.mp remaining
    simp only [budgetPhase, Ledger.record_daemon, Ledger.update_daemon,
      Ledger.record_history, Ledger.update_history,
      Daemon.forgetAddress, Daemon.setRetries, inState]
    refine ⟨⟨entry, List.mem_cons_of_mem _ member, entered⟩, ?_, ?_, ?_⟩
    · rw [requestsSinceEntry_cons, requests, next]
      rfl
    · omega
    · intro _
      rw [addressSinceEntry_cons]
      rintro ⟨_, handled | handled⟩
      · simp [Entry.handledOk] at handled
      · exact notHandled unknown handled
  past := ⟨fun reset => absurd reset (by simp [Entry.wrote]),
    invariant.past⟩

/-- A reset comes after the last attempt. -/
theorem reset (invariant : BudgetInvariant ledger) (now : Int)
    (inState : ledger.daemon.eModuleState = .determineAddress)
    (unknown : ledger.daemon.sFlags.uAddressKnown = false)
    (exhausted : ¬ ledger.daemon.u32Retries + 1 < maxAddressRetries) :
    BudgetInvariant
      (((ledger.update
        (Daemon.setRetries (ledger.daemon.u32Retries + 1))).assign now
          .determineVersion).record now (.wrote .reset [])) where
  phase := trivial
  past := by
    have phase := invariant.phase
    simp only [budgetPhase, inState] at phase
    obtain ⟨⟨entry, member, entered⟩, requests, bound, notHandled⟩ := phase
    have large : ¬ (ledger.daemon.u32Retries + 1).toNat < 6 :=
      fun small => exhausted (UInt32.lt_iff_toNat_lt.mpr small)
    simp only [UInt32.toNat_add, UInt32.reduceToNat] at large
    refine ⟨fun _ => ⟨?_, ?_, ?_⟩,
      fun reset => absurd reset (by simp [Entry.wrote]), invariant.past⟩
    · exact ⟨entry, List.mem_cons_of_mem _ member, entered⟩
    · rw [Ledger.assign_history, requestsSinceEntry_cons,
        Ledger.update_history, requests]
      simp only [Entry.entered, Entry.wrote, maxAddressRetries,
        UInt32.reduceToNat]
      simp
      omega
    · rw [Ledger.assign_history, addressSinceEntry_cons]
      rintro ⟨_, handled | handled⟩
      · simp [Entry.handledOk] at handled
      · exact notHandled unknown handled

/-- The start of the module leaves counter and phase alone. -/
theorem runModule (invariant : BudgetInvariant ledger) (now : Int) :
    BudgetInvariant (ledger.runModule now) := by
  unfold Ledger.runModule
  split
  · exact invariant.record now _ rfl ⟨rfl, rfl, rfl⟩
  · exact invariant.record now _ rfl ⟨rfl, rfl, rfl⟩
  · exact invariant.record now _ rfl ⟨rfl, rfl, rfl⟩
  · exact invariant

theorem transition {after : Ledger} {now : Int} {bTimeout : Bool}
    (invariant : BudgetInvariant ledger)
    (transition : Transition now bTimeout ledger after) :
    BudgetInvariant after := by
  have phase := invariant.phase
  cases transition with
  | requestVersion inState =>
      apply BudgetInvariant.record _ now _ rfl ⟨rfl, rfl, rfl⟩
      exact
        invariant.update _
          (by simp [budgetPhase, Daemon.setRetries, inState])
  | presumeVersion inState | versionKnown inState =>
      have cleared :
          BudgetInvariant (ledger.update (Daemon.setRetries 0)) :=
        invariant.update _
          (by simp [budgetPhase, Daemon.setRetries, inState])
      exact cleared.assign now _ (by decide) rfl
  | configureNetwork inState | configureProfile inState
  | configureFrontEnd inState | activityLED inState =>
      simp only [budgetPhase, inState] at phase
      exact
        (invariant.record now _ rfl ⟨rfl, rfl, rfl⟩).assign now _
          (by decide) phase
  | configureSecurity inState _ chosen =>
      simp only [budgetPhase, inState] at phase
      have recorded := invariant.record now
        (.wrote .security ledger.daemon.securityEncoding) rfl
        ⟨rfl, rfl, rfl⟩
      subst chosen
      split
      · exact recorded.assign now _ (by decide) phase
      · exact recorded.assign now _ (by decide) phase
  | skipSecurity inState _ chosen =>
      simp only [budgetPhase, inState] at phase
      subst chosen
      split
      · exact invariant.assign now _ (by decide) phase
      · exact invariant.assign now _ (by decide) phase
  | skipProfile inState | skipFrontEnd inState
  | skipActivityLED inState =>
      simp only [budgetPhase, inState] at phase
      exact invariant.assign now _ (by decide) phase
  | startModule inState chosen =>
      simp only [budgetPhase, inState] at phase
      have started := invariant.runModule now
      subst chosen
      split
      · exact
          started.assign now _ (by decide)
            (by simpa [budgetPhase] using phase)
      · exact
          started.assign now _ (by decide)
            (by simpa [budgetPhase] using phase)
  | startOldModule inState =>
      simp only [budgetPhase, inState] at phase
      have forgotten :
          BudgetInvariant
            ((ledger.runModule now).update Daemon.forgetAddress) :=
        (invariant.runModule now).update _
          (by
            simpa [budgetPhase, Daemon.forgetAddress, inState] using
              phase)
      apply forgotten.enter now _ _ id (fun _ => rfl) (fun _ => rfl)
      · simp [Daemon.forgetAddress, inState]
      · simpa [Daemon.forgetAddress] using phase
  | configureFrontEndDiversity inState =>
      simp only [budgetPhase, inState] at phase
      exact
        ((invariant.record now _ rfl ⟨rfl, rfl, rfl⟩).record now _ rfl
          ⟨rfl, rfl, rfl⟩).assign now _ (by decide) phase
  | requestConfiguration inState =>
      exact invariant.record now _ rfl ⟨rfl, rfl, rfl⟩
  | configurationKnown inState =>
      simp only [budgetPhase, inState] at phase
      exact
        invariant.enter now (by simp [inState]) phase
          Daemon.forgetAddress (fun _ => rfl) (fun _ => rfl)
  | requestAddress inState unknown _ remaining =>
      exact invariant.request now inState unknown remaining
  | resetModule inState unknown _ exhausted =>
      exact invariant.reset now inState unknown exhausted
  | addressKnown inState known =>
      exact
        ⟨rfl, fun reset => absurd reset (by simp [Entry.wrote]),
          invariant.past⟩
  | ping inState =>
      exact
        (invariant.record now _ rfl ⟨rfl, rfl, rfl⟩).updateOther _ rfl
          rfl rfl

/-- The handling of a message preserves the invariant, if a CONFIG_REQUEST
message finds the counter at zero. -/
theorem handling {host : Host} {after : Ledger} {now : Int}
    {u8Message : UInt8} {u32Length : UInt32} {cells : Nat → UInt8}
    {eStatus : ModuleStatus}
    (invariant : BudgetInvariant ledger)
    (handling : Handling host now u8Message u32Length cells eStatus
      ledger after)
    (met : findsCounterCleared u8Message u32Length ledger.daemon) :
    BudgetInvariant (after.complete now u8Message u32Length eStatus) := by
  have complete : ∀ {handled : Ledger}, BudgetInvariant handled →
      u8Message ≠ SLMsgType.addr.code ∨ eStatus ≠ .ok →
      BudgetInvariant
        (handled.complete now u8Message u32Length eStatus) := by
    intro handled invariant notAddress
    have notHandled :
        Entry.handledOk .addr
          ⟨.handled u8Message u32Length eStatus, now, handled.daemon⟩ =
            false := by
      cases eStatus <;> simp_all [Entry.handledOk]
    exact
      (invariant.record now _ rfl ⟨rfl, rfl, notHandled⟩).updateOther _
        rfl rfl rfl
  cases handling with
  | detached isDetached =>
      exact complete invariant (Or.inl isDetached.2.2.2.1)
  | version reported =>
      apply complete (invariant.updateOther _ rfl rfl rfl)
      rcases reported with isVersion | isConfig
      · exact Or.inl (by rw [isVersion]; decide)
      · exact Or.inl (by rw [isConfig.1]; decide)
  | config accepted =>
      apply complete (invariant.updateOther _ rfl rfl rfl)
      exact Or.inl (by rw [accepted.1]; decide)
  | configIgnored isConfig =>
      exact complete invariant (Or.inl (by rw [isConfig]; decide))
  | security isSecurity =>
      apply complete (invariant.updateOther _ rfl rfl rfl)
      exact Or.inl (by rw [isSecurity]; decide)
  | securityIgnored isSecurity =>
      exact complete invariant (Or.inl (by rw [isSecurity]; decide))
  | configRequest isConfigRequest =>
      apply
        complete
          (invariant.assign now .configureNetwork (by decide)
            (met isConfigRequest))
      exact Or.inl (by rw [isConfigRequest]; decide)
  | addressStored isAddr =>
      refine ⟨?_, fun reset => absurd reset (by simp [Entry.wrote]),
        invariant.past⟩
      have phase := invariant.phase
      unfold budgetPhase at phase ⊢
      cases state : ledger.daemon.eModuleState <;>
        simp_all [Ledger.complete, Daemon.learnAddress,
          requestsSinceEntry_cons, Entry.entered, Entry.wrote]
  | addressNotStored isAddr =>
      exact complete invariant (Or.inr (by decide))

theorem action {host : Host} {after : Ledger} {now : Int}
    (invariant : BudgetInvariant ledger)
    (action : Action host findsCounterCleared now ledger after) :
    BudgetInvariant after := by
  cases action with
  | handled handling met =>
      exact invariant.handling handling met
  | called bTimeout =>
      exact invariant.record now _ rfl ⟨rfl, rfl, rfl⟩
  | transition transition =>
      exact invariant.transition transition
  | forwarded payload =>
      exact invariant.record now _ rfl ⟨rfl, rfl, rfl⟩

end BudgetInvariant

/-- In every run whose CONFIG_REQUEST messages find the counter at zero, every
reset comes after the full number of attempts of its address discovery. -/
theorem reset_after_budget
    (host : Host) (env : Env) (settings : Settings)
    (calls : List ApiCall)
    (cleared : EveryStep (step host) (meets findsCounterCleared)
      (started host env settings) calls) :
    Historically
      (fun entry past => entry.wrote .reset = true → addressBudget past)
      (runFrom host env settings calls).history := by
  have invariant :
      BudgetInvariant (runFrom host env settings calls).toLedger := by
    apply
      runFrom_invariant_of_meets _ env settings calls _ cleared
    · intro now before after action invariant
      exact invariant.action action
    · refine ⟨trivial, ?_, trivial⟩
      intro reset
      simp [Entry.wrote] at reset
  exact invariant.past

/-- An old module that is asked for its address until it is reset. -/
def silentModuleRun : List ApiCall :=
  [messageAt 1 .version [1, 0, 0], tickAt 2, tickAt 3, tickAt 4, tickAt 5,
    tickAt 6, tickAt 7, tickAt 8, tickAt 9]

/-- The module is reset, and the budget was used up. -/
theorem reset_after_budget_silent :
    let history :=
      (runFrom sampleHost (granting 0) Settings.default
        silentModuleRun).history
    (∃ entry ∈ history, entry.wrote .reset = true) ∧
      Historically
        (fun entry past => entry.wrote .reset = true → addressBudget past)
        history :=
  ⟨by decide +kernel,
    reset_after_budget sampleHost (granting 0) Settings.default
      silentModuleRun (by decide +kernel)⟩

/-- A configuration request while the version is still being asked for. -/
def leftoverRun : List ApiCall :=
  [messageAt 1 .configRequest [], tickAt 2, tickAt 3, tickAt 4, tickAt 5,
    tickAt 6, tickAt 7, tickAt 8]

/-- The count left over from the version phase costs the address discovery one
attempt: the module is reset after four ADDR requests. -/
theorem reset_before_budget :
    ¬ ∀ host env settings calls,
      Historically
        (fun entry past => entry.wrote .reset = true → addressBudget past)
        (runFrom host env settings calls).history := by
  intro always
  have failing :
      ¬ Historically
        (fun entry past => entry.wrote .reset = true → addressBudget past)
        (runFrom sampleHost (granting 0) Settings.default
          leftoverRun).history := by
    decide +kernel
  exact failing (always _ _ _ _)

end SixLoWPANd.JennicModule
