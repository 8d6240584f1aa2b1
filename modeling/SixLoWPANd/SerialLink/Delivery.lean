import SixLoWPANd.SerialLink.Reception

/-!
# How often a frame is delivered

The receive loop tests the checksum at every end character, also when no frame
has been started since the last delivery.  The message variables are then those
of the last message, and the test succeeds once more: `idle_redelivers` counts
these repetitions.  A stream that never offers an end character to such a
waiting receiver delivers every frame at most once.
-/

namespace SixLoWPANd.SerialLink

open SixLoWPANd.Foundation

variable (u16MaxLength : UInt16)

/-! ## A receiver that waits for a start character -/

/-- Without a start character a waiting receiver keeps its state and its
message variables. -/
theorem nextReceiver_waitStart
    {receiver : Receiver} (waiting : receiver.eRxState = .waitStart)
    {u8Data : UInt8} (notStart : u8Data ≠ slStartChar) :
    let next := nextReceiver u16MaxLength receiver u8Data
    next.eRxState = .waitStart ∧ next.u8CRC = receiver.u8CRC ∧
      next.message = receiver.message := by
  by_cases isEsc : u8Data = slEscChar
  · subst isEsc
    exact ⟨waiting, rfl, rfl⟩
  · by_cases isEnd : u8Data = slEndChar
    · subst isEnd
      by_cases matching : receiver.checksumMatches
      · rw [nextReceiver, receiveByte_end_of_matches _ matching]
        exact
          ⟨rfl, rfl, message_congr rfl rfl (afterChecksum_cells receiver)⟩
      · rw [nextReceiver, receiveByte_end_of_mismatch _ matching]
        exact
          ⟨waiting, rfl,
            message_congr rfl rfl (afterChecksum_cells receiver)⟩
    · rw [nextReceiver, receiveByte_content _ notStart isEsc isEnd]
      simp [contentByte, waiting, Receiver.message, Receiver.payload]

/-- The checksum test is a property of the checksum held and the message. -/
theorem checksumMatches_congr
    {first second : Receiver} (crc : first.u8CRC = second.u8CRC)
    (same : first.message = second.message) :
    first.checksumMatches ↔ second.checksumMatches := by
  have type : first.pu8Type = second.pu8Type := congrArg Message.u8Type same
  have payload : first.payload = second.payload :=
    congrArg Message.payload same
  have length : first.pu16Length = second.pu16Length := by
    apply UInt16.toNat_inj.mp
    simpa [Receiver.payload] using congrArg List.length payload
  simp [Receiver.checksumMatches, crc, type, length, payload]

/-- A receiver whose message variables pass the test while it waits for a
start character delivers its message once for every end character. -/
theorem idle_redelivers
    {bytes : List UInt8} (noStart : slStartChar ∉ bytes)
    {receiver : Receiver} (waiting : receiver.eRxState = .waitStart)
    (matching : receiver.checksumMatches) :
    byteDeliveries u16MaxLength receiver bytes =
      List.replicate (bytes.count slEndChar) receiver.message := by
  induction bytes generalizing receiver with
  | nil =>
      rfl
  | cons u8Data rest inductionHypothesis =>
      simp only [List.mem_cons, not_or] at noStart
      obtain ⟨stillWaiting, crc, same⟩ :=
        nextReceiver_waitStart u16MaxLength waiting (Ne.symm noStart.1)
      have later :=
        inductionHypothesis noStart.2 stillWaiting
          ((checksumMatches_congr crc same).mpr matching)
      simp only [nextReceiver] at later same
      by_cases isEnd : u8Data = slEndChar
      · have returns :
            (receiveByte u16MaxLength receiver u8Data).1 = true :=
          (receiveByte_fst_iff _ _ _).mpr ⟨isEnd, matching⟩
        have counted :
            (u8Data :: rest).count slEndChar =
              rest.count slEndChar + 1 := by
          rw [isEnd, List.count_cons_self]
        simp [byteDeliveries, returns, later, same, counted,
          List.replicate_succ]
      · have continues :
            (receiveByte u16MaxLength receiver u8Data).1 = false := by
          rw [← Bool.not_eq_true, receiveByte_fst_iff]
          exact fun both => isEnd both.1
        simp [byteDeliveries, continues, later, same, isEnd]

/-- Both the program's start and a return of `TRUE` leave such a receiver. -/
theorem initial_idle :
    Receiver.initial.eRxState = .waitStart ∧
      Receiver.initial.checksumMatches := by decide

/-! ## Frames are delivered at most once -/

/-- An end character does not meet a waiting receiver whose left-over message
variables pass the checksum test. -/
def noStaleEnd (receiver : Receiver) (u8Data : UInt8) : Prop :=
  u8Data = slEndChar → receiver.eRxState = .waitStart →
    ¬ receiver.checksumMatches

instance (receiver : Receiver) (u8Data : UInt8) :
    Decidable (noStaleEnd receiver u8Data) :=
  inferInstanceAs (Decidable (_ → _ → ¬ _))

private theorem run_waitStart
    {bytes : List UInt8} (noStart : slStartChar ∉ bytes)
    {receiver : Receiver} (waiting : receiver.eRxState = .waitStart) :
    (run (nextReceiver u16MaxLength) receiver bytes).eRxState =
      .waitStart := by
  induction bytes generalizing receiver with
  | nil =>
      exact waiting
  | cons u8Data rest inductionHypothesis =>
      simp only [List.mem_cons, not_or] at noStart
      exact
        inductionHypothesis noStart.2
          (nextReceiver_waitStart u16MaxLength waiting
            (Ne.symm noStart.1)).1

private theorem byteDeliveries_waitStart
    {bytes : List UInt8} (noStart : slStartChar ∉ bytes)
    {receiver : Receiver} (waiting : receiver.eRxState = .waitStart)
    (admitted :
      EveryStep (nextReceiver u16MaxLength) noStaleEnd receiver bytes) :
    byteDeliveries u16MaxLength receiver bytes = [] := by
  induction bytes generalizing receiver with
  | nil =>
      rfl
  | cons u8Data rest inductionHypothesis =>
      simp only [List.mem_cons, not_or] at noStart
      obtain ⟨first, later⟩ := admitted
      have continues :
          (receiveByte u16MaxLength receiver u8Data).1 = false := by
        rw [← Bool.not_eq_true, receiveByte_fst_iff]
        rintro ⟨isEnd, matching⟩
        exact first isEnd waiting matching
      have stillWaiting :=
        (nextReceiver_waitStart u16MaxLength waiting
          (Ne.symm noStart.1)).1
      have none := inductionHypothesis noStart.2 stillWaiting later
      simp only [nextReceiver] at none
      simp [byteDeliveries, continues, none]

/-- A return of `TRUE` leaves the receiver waiting for a start character. -/
theorem waitStart_of_result
    {receiver : Receiver} {reads : List (Option UInt8)}
    (returned : (bSLReadMessage u16MaxLength receiver reads).1.result = true) :
    (bSLReadMessage u16MaxLength receiver reads).1.after.eRxState =
      .waitStart := by
  induction reads generalizing receiver with
  | nil =>
      simp [bSLReadMessage] at returned
  | cons outcome reads inductionHypothesis =>
      cases outcome with
      | none =>
          simp [bSLReadMessage] at returned
      | some u8Data =>
          by_cases returns :
              (receiveByte u16MaxLength receiver u8Data).1 = true
          · obtain ⟨isEnd, matching⟩ :=
              (receiveByte_fst_iff _ _ _).mp returns
            subst isEnd
            simp [bSLReadMessage,
              receiveByte_end_of_matches u16MaxLength matching]
          · simp only [bSLReadMessage, returns, Bool.false_eq_true,
              ↓reduceIte] at returned ⊢
            exact inductionHypothesis returned

/-- A call that returns `TRUE` has a start character among the bytes consumed
since the last such call. -/
def StartedSince (call : Call) (past : List Call) : Prop :=
  call.result = true →
    ∃ other ∈ call :: since Call.result past, slStartChar ∈ other.bytes

instance (call : Call) (past : List Call) :
    Decidable (StartedSince call past) :=
  inferInstanceAs (Decidable (_ → ∃ other ∈ _, _))

private theorem startedSince_readCalls
    {count : Nat} {receiver : Receiver} {reads : List (Option UInt8)}
    {past : List Call}
    (started : receiver.eRxState ≠ .waitStart →
      ∃ other ∈ since Call.result past, slStartChar ∈ other.bytes)
    (admitted :
      EveryStep (nextReceiver u16MaxLength) noStaleEnd receiver
        (consumed (readCalls u16MaxLength count receiver reads)))
    (earlier : Historically StartedSince past) :
    Historically StartedSince
      ((readCalls u16MaxLength count receiver reads).reverse ++ past) := by
  induction count generalizing receiver reads past with
  | zero =>
      exact earlier
  | succ count inductionHypothesis =>
      obtain ⟨-, after, delivered⟩ :=
        bSLReadMessage_spec u16MaxLength receiver reads
      have returned := @waitStart_of_result u16MaxLength receiver reads
      simp only [readCalls, consumed, List.flatMap_cons,
        everyStep_append] at admitted
      simp only [readCalls, List.reverse_cons, List.append_assoc,
        List.singleton_append]
      generalize
        bSLReadMessage u16MaxLength receiver reads = outcome at *
      obtain ⟨first, later⟩ := admitted
      rw [← after] at later
      refine inductionHypothesis ?_ later ⟨?_, earlier⟩
      · -- the receiver has left the waiting state since the last delivery
        intro left
        have notReturned : outcome.1.result = false := by
          rw [← Bool.not_eq_true]
          exact fun result => left (returned result)
        rw [since_cons_of_unmarked notReturned]
        by_cases inCall : slStartChar ∈ outcome.1.bytes
        · exact ⟨outcome.1, by simp, inCall⟩
        · have before : receiver.eRxState ≠ .waitStart := by
            intro waiting
            rw [after] at left
            exact left (run_waitStart u16MaxLength inCall waiting)
          obtain ⟨other, member, start⟩ := started before
          exact ⟨other, by simp [member], start⟩
      · intro result
        by_cases inCall : slStartChar ∈ outcome.1.bytes
        · exact ⟨outcome.1, by simp, inCall⟩
        · have before : receiver.eRxState ≠ .waitStart := by
            intro waiting
            have none :=
              byteDeliveries_waitStart u16MaxLength inCall waiting first
            rw [delivered, result] at none
            cases none
          obtain ⟨other, member, start⟩ := started before
          exact ⟨other, by simp [member], start⟩

/-- In every run from the initial state in which no end character meets a
waiting receiver with matching left-overs, every return of `TRUE` is preceded
by a start character consumed since the previous one. -/
theorem delivered_at_most_once
    (count : Nat) (reads : List (Option UInt8))
    (admitted :
      EveryStep (nextReceiver u16MaxLength) noStaleEnd Receiver.initial
        (consumed
          (readCalls u16MaxLength count Receiver.initial reads))) :
    Historically StartedSince
      (readCalls u16MaxLength count Receiver.initial reads).reverse := by
  have whole :=
    @startedSince_readCalls u16MaxLength count Receiver.initial reads []
      (fun left => absurd rfl left) admitted trivial
  simpa using whole

/-- Two frames in a row. -/
theorem delivered_at_most_once_two :
    Historically StartedSince
      (readCalls 2048 3 Receiver.initial
        ((encode ⟨0x6d, [], by decide⟩ ++
          encode ⟨0x65, [0x60], by decide⟩).map some)).reverse :=
  delivered_at_most_once 2048 3 _ (by decide)

/-- A second end character behind a frame delivers the frame again. -/
theorem delivered_twice :
    ¬ Historically StartedSince
      (readCalls 2048 2 Receiver.initial
        ((encode ⟨0x65, [0x60], by decide⟩ ++
          [slEndChar]).map some)).reverse := by
  decide

end SixLoWPANd.SerialLink
