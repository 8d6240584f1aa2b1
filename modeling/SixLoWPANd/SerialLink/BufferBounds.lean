import SixLoWPANd.SerialLink.Reception

/-!
# Which cells of the message buffer are accessed

Data bytes are stored below the announced length, and a length is announced
only after it has been compared with the size of the buffer.  The checksum at
an end character has no such guard: it runs over whatever length the message
variables hold, also one whose header has just been rejected or has arrived
only in part.  `bounded_iff` says that this is the only way out of the buffer.
-/

namespace SixLoWPANd.SerialLink

open SixLoWPANd.Foundation

variable (u16MaxLength : UInt16)

/-- All accesses made so far lie inside the buffer. -/
def AccessesWithin (memory : TracedMemory UInt8) : Prop :=
  (∀ index ∈ memory.reads, index < u16MaxLength.toNat) ∧
    ∀ index ∈ memory.writes, index < u16MaxLength.toNat

instance (memory : TracedMemory UInt8) :
    Decidable (AccessesWithin u16MaxLength memory) :=
  inferInstanceAs (Decidable ((∀ _ ∈ _, _) ∧ ∀ _ ∈ _, _))

/-- The receiver has stayed inside the buffer and, once it collects data,
holds a length that fits the buffer. -/
structure Bounded (receiver : Receiver) : Prop where
  accesses : AccessesWithin u16MaxLength receiver.pu8Message
  announced :
    receiver.eRxState = .waitCRC ∨ receiver.eRxState = .waitData →
      receiver.pu16Length ≤ u16MaxLength

/-- An end character meets a length that fits the buffer. -/
def endWithin (receiver : Receiver) (u8Data : UInt8) : Prop :=
  u8Data = slEndChar → receiver.pu16Length ≤ u16MaxLength

instance (receiver : Receiver) (u8Data : UInt8) :
    Decidable (endWithin u16MaxLength receiver u8Data) :=
  inferInstanceAs (Decidable (_ → _))

theorem bounded_initial : Bounded u16MaxLength Receiver.initial where
  accesses := by
    constructor <;> intro index member <;> cases member
  announced := by
    rintro (state | state) <;> cases state

/-- Content bytes access the buffer only below the announced length. -/
theorem Bounded.contentByte
    {receiver : Receiver} (bounded : Bounded u16MaxLength receiver)
    (u8Data : UInt8) :
    Bounded u16MaxLength (contentByte u16MaxLength receiver u8Data) := by
  obtain ⟨accesses, announced⟩ := bounded
  cases state : receiver.eRxState with
  | waitStart =>
      have same :
          SerialLink.contentByte u16MaxLength receiver u8Data =
            receiver := by
        simp [SerialLink.contentByte, state]
      rw [same]
      exact ⟨accesses, announced⟩
  | waitType =>
      exact
        ⟨by simpa [SerialLink.contentByte, state] using accesses,
          by simp [SerialLink.contentByte, state]⟩
  | waitLenMSB =>
      exact
        ⟨by simpa [SerialLink.contentByte, state] using accesses,
          by simp [SerialLink.contentByte, state]⟩
  | waitLenLSB =>
      refine
        ⟨by simpa [SerialLink.contentByte, state] using accesses, ?_⟩
      -- the comparison with the buffer size decides the next state
      by_cases oversized :
          receiver.pu16Length + u8Data.toUInt16 > u16MaxLength
      · simp [SerialLink.contentByte, state, oversized]
      · intro _
        simpa [SerialLink.contentByte, state] using
          UInt16.not_lt.mp oversized
  | waitCRC =>
      exact
        ⟨by simpa [SerialLink.contentByte, state] using accesses,
          by
            intro _
            simpa [SerialLink.contentByte, state] using
              announced (Or.inl state)⟩
  | waitData =>
      have fits := announced (Or.inr state)
      by_cases space : receiver.u16Bytes < receiver.pu16Length
      · refine ⟨⟨?_, ?_⟩, ?_⟩
        · simpa [SerialLink.contentByte, state, space] using accesses.1
        · have below :
              receiver.u16Bytes.toNat < u16MaxLength.toNat :=
            Nat.lt_of_lt_of_le (UInt16.lt_iff_toNat_lt.mp space)
              (UInt16.le_iff_toNat_le.mp fits)
          simpa [SerialLink.contentByte, state, space, below] using
            accesses.2
        · intro _
          simpa [SerialLink.contentByte, state, space] using fits
      · have same :
            SerialLink.contentByte u16MaxLength receiver u8Data =
              receiver := by
          simp [SerialLink.contentByte, state, space]
        rw [same]
        exact ⟨accesses, announced⟩

/-- The checksum stays inside the buffer exactly when the length does. -/
theorem afterChecksum_within
    {receiver : Receiver}
    (accesses : AccessesWithin u16MaxLength receiver.pu8Message) :
    AccessesWithin u16MaxLength (afterChecksum receiver) ↔
      receiver.pu16Length ≤ u16MaxLength := by
  rw [UInt16.le_iff_toNat_le]
  constructor
  · rintro ⟨reads, -⟩
    by_contra oversized
    have outside :
        u16MaxLength.toNat ∈ (afterChecksum receiver).reads :=
      (mem_u8SLCalculateCRC_reads _ _ _ _).mpr (Or.inl (by omega))
    exact Nat.lt_irrefl _ (reads _ outside)
  · intro fits
    constructor
    · intro index member
      rcases (mem_u8SLCalculateCRC_reads _ _ _ _).mp member with
        below | earlier
      · omega
      · exact accesses.1 index earlier
    · simpa [afterChecksum] using accesses.2

/-- One byte keeps the receiver inside the buffer unless it is an end
character that meets an oversized length. -/
theorem Bounded.next
    {receiver : Receiver} (bounded : Bounded u16MaxLength receiver)
    {u8Data : UInt8} (within : endWithin u16MaxLength receiver u8Data) :
    Bounded u16MaxLength (nextReceiver u16MaxLength receiver u8Data) := by
  by_cases isStart : u8Data = slStartChar
  · subst isStart
    exact ⟨bounded.accesses, by rintro (state | state) <;> cases state⟩
  · by_cases isEsc : u8Data = slEscChar
    · subst isEsc
      exact ⟨bounded.accesses, bounded.announced⟩
    · by_cases isEnd : u8Data = slEndChar
      · have accesses :=
          (afterChecksum_within u16MaxLength bounded.accesses).mpr
            (within isEnd)
        subst isEnd
        by_cases matching : receiver.checksumMatches
        · rw [nextReceiver, receiveByte_end_of_matches _ matching]
          exact ⟨accesses, by rintro (state | state) <;> cases state⟩
        · rw [nextReceiver, receiveByte_end_of_mismatch _ matching]
          exact ⟨accesses, bounded.announced⟩
      · rw [nextReceiver, receiveByte_content _ isStart isEsc isEnd]
        have released :
            Bounded u16MaxLength { receiver with bInEsc := false } :=
          ⟨bounded.accesses, bounded.announced⟩
        exact released.contentByte u16MaxLength _

/-- After an end character the buffer is the one the checksum ran over. -/
theorem nextReceiver_end_memory (receiver : Receiver) :
    (nextReceiver u16MaxLength receiver slEndChar).pu8Message =
      afterChecksum receiver := by
  by_cases matching : receiver.checksumMatches
  · rw [nextReceiver, receiveByte_end_of_matches _ matching]
  · rw [nextReceiver, receiveByte_end_of_mismatch _ matching]

private theorem contentByte_log
    (receiver : Receiver) (u8Data : UInt8) :
    (contentByte u16MaxLength receiver u8Data).pu8Message =
        receiver.pu8Message ∨
      (contentByte u16MaxLength receiver u8Data).pu8Message =
        receiver.pu8Message.store receiver.u16Bytes.toNat u8Data := by
  unfold contentByte
  split
  case h_6 =>
    split
    · exact Or.inr rfl
    · exact Or.inl rfl
  all_goals exact Or.inl rfl

theorem accessesWithin_of_next
    {receiver : Receiver} {u8Data : UInt8}
    (within :
      AccessesWithin u16MaxLength
        (nextReceiver u16MaxLength receiver u8Data).pu8Message) :
    AccessesWithin u16MaxLength receiver.pu8Message := by
  by_cases isStart : u8Data = slStartChar
  · subst isStart
    exact within
  · by_cases isEsc : u8Data = slEscChar
    · subst isEsc
      exact within
    · by_cases isEnd : u8Data = slEndChar
      · subst isEnd
        rw [nextReceiver_end_memory] at within
        refine ⟨fun index member => within.1 index ?_, ?_⟩
        · exact
            (mem_u8SLCalculateCRC_reads _ _ _ _).mpr (Or.inr member)
        · simpa [afterChecksum] using within.2
      · rw [nextReceiver, receiveByte_content _ isStart isEsc isEnd]
          at within
        rcases contentByte_log u16MaxLength
            { receiver with bInEsc := false }
            (if receiver.bInEsc then u8Data ^^^ 0x10 else u8Data) with
          same | stored
        · rw [same] at within
          exact within
        · rw [stored] at within
          refine ⟨within.1, fun index member => within.2 index ?_⟩
          exact List.mem_cons_of_mem _ member

theorem accessesWithin_of_run
    {receiver : Receiver} {bytes : List UInt8}
    (within :
      AccessesWithin u16MaxLength
        (run (nextReceiver u16MaxLength) receiver bytes).pu8Message) :
    AccessesWithin u16MaxLength receiver.pu8Message := by
  induction bytes generalizing receiver with
  | nil =>
      exact within
  | cons u8Data rest inductionHypothesis =>
      exact accessesWithin_of_next _ (inductionHypothesis within)

/-- A run stays inside the buffer exactly when each of its end characters
meets a length that fits. -/
theorem accessesWithin_run_iff
    {receiver : Receiver} (bounded : Bounded u16MaxLength receiver)
    (bytes : List UInt8) :
    AccessesWithin u16MaxLength
        (run (nextReceiver u16MaxLength) receiver bytes).pu8Message ↔
      EveryStep (nextReceiver u16MaxLength) (endWithin u16MaxLength)
        receiver bytes := by
  induction bytes generalizing receiver with
  | nil =>
      exact iff_of_true bounded.accesses trivial
  | cons u8Data rest inductionHypothesis =>
      rw [run_cons, everyStep_cons]
      constructor
      · intro within
        have first : endWithin u16MaxLength receiver u8Data := by
          intro isEnd
          subst isEnd
          have next := accessesWithin_of_run _ within
          rw [nextReceiver_end_memory] at next
          exact
            (afterChecksum_within u16MaxLength bounded.accesses).mp next
        exact
          ⟨first,
            (inductionHypothesis (bounded.next _ first)).mp within⟩
      · rintro ⟨first, later⟩
        exact (inductionHypothesis (bounded.next _ first)).mpr later

/-- The invariant at the end of a run whose end characters all meet a length
that fits. -/
theorem Bounded.run
    {receiver : Receiver} (bounded : Bounded u16MaxLength receiver)
    {bytes : List UInt8}
    (admitted :
      EveryStep (nextReceiver u16MaxLength) (endWithin u16MaxLength)
        receiver bytes) :
    Bounded u16MaxLength
      (Foundation.run (nextReceiver u16MaxLength) receiver bytes) := by
  have preserved :
      ∀ state u8Data, Bounded u16MaxLength state →
        endWithin u16MaxLength state u8Data →
        Bounded u16MaxLength (nextReceiver u16MaxLength state u8Data) :=
    fun _ _ holds within => holds.next _ within
  exact run_invariant preserved bounded admitted

private theorem length_of_result
    {receiver : Receiver} {reads : List (Option UInt8)}
    (admitted :
      EveryStep (nextReceiver u16MaxLength) (endWithin u16MaxLength)
        receiver (bSLReadMessage u16MaxLength receiver reads).1.bytes)
    (returned :
      (bSLReadMessage u16MaxLength receiver reads).1.result = true) :
    (bSLReadMessage u16MaxLength receiver reads).1.after.pu16Length ≤
      u16MaxLength := by
  induction reads generalizing receiver with
  | nil =>
      simp [bSLReadMessage] at returned
  | cons outcome reads inductionHypothesis =>
      cases outcome with
      | none =>
          simp [bSLReadMessage] at returned
      | some u8Data =>
          by_cases returns :
              (receiveByte u16MaxLength receiver u8Data).1 = true
          · obtain ⟨isEnd, matching⟩ :=
              (receiveByte_fst_iff _ _ _).mp returns
            simp only [bSLReadMessage, returns, ↓reduceIte,
              everyStep_cons] at admitted
            have fits := admitted.1 isEnd
            subst isEnd
            simpa [bSLReadMessage,
              receiveByte_end_of_matches u16MaxLength matching] using fits
          · simp only [bSLReadMessage, returns, Bool.false_eq_true,
              ↓reduceIte, everyStep_cons] at admitted returned ⊢
            exact inductionHypothesis admitted.2 returned

/-- Everything a call has accessed lies inside the buffer, and so does the
message it returns. -/
def CallWithin (call : Call) : Prop :=
  AccessesWithin u16MaxLength call.after.pu8Message ∧
    (call.result = true → call.after.pu16Length ≤ u16MaxLength)

instance (call : Call) : Decidable (CallWithin u16MaxLength call) :=
  inferInstanceAs (Decidable (_ ∧ (_ → _)))

private theorem callsWithin_iff
    {count : Nat} {receiver : Receiver} {reads : List (Option UInt8)}
    (bounded : Bounded u16MaxLength receiver) :
    (∀ call ∈ readCalls u16MaxLength count receiver reads,
        CallWithin u16MaxLength call) ↔
      EveryStep (nextReceiver u16MaxLength) (endWithin u16MaxLength)
        receiver
        (consumed (readCalls u16MaxLength count receiver reads)) := by
  induction count generalizing receiver reads with
  | zero =>
      simp [readCalls, consumed]
  | succ count inductionHypothesis =>
      obtain ⟨-, after, -⟩ :=
        bSLReadMessage_spec u16MaxLength receiver reads
      have returned := @length_of_result u16MaxLength receiver reads
      have inside :=
        accessesWithin_run_iff u16MaxLength bounded
          (bSLReadMessage u16MaxLength receiver reads).1.bytes
      simp only [readCalls, consumed, List.flatMap_cons,
        everyStep_append, List.forall_mem_cons]
      generalize
        bSLReadMessage u16MaxLength receiver reads = outcome at *
      rw [← after] at inside ⊢
      constructor
      · rintro ⟨first, later⟩
        have steps := inside.mp first.1
        have next := bounded.run _ steps
        rw [← after] at next
        exact ⟨steps, (inductionHypothesis next).mp later⟩
      · rintro ⟨steps, later⟩
        have next := bounded.run _ steps
        rw [← after] at next
        exact
          ⟨⟨inside.mpr steps, returned steps⟩,
            (inductionHypothesis next).mpr later⟩

/-- From the initial state, over any calls, all accesses and all returned
lengths lie within the buffer if and only if every end character consumed
meets a length that fits the buffer. -/
theorem bounded_iff (count : Nat) (reads : List (Option UInt8)) :
    (∀ call ∈ readCalls u16MaxLength count Receiver.initial reads,
        CallWithin u16MaxLength call) ↔
      EveryStep (nextReceiver u16MaxLength) (endWithin u16MaxLength)
        Receiver.initial
        (consumed
          (readCalls u16MaxLength count Receiver.initial reads)) :=
  callsWithin_iff u16MaxLength (bounded_initial u16MaxLength)

/-- A header that announces 8224 bytes is rejected, and the end character
behind it makes the checksum read all of them. -/
theorem rejected_header_overread :
    ¬ ∀ call ∈
        readCalls 2048 1 Receiver.initial
          (([slStartChar, 0x65, 0x20, 0x20] ++ [slEndChar]).map some),
      CallWithin 2048 call := by
  -- whether the checksum matches or not, the call consumes all five bytes
  have whole :
      consumed
          (readCalls 2048 1 Receiver.initial
            (([slStartChar, 0x65, 0x20, 0x20] ++
              [slEndChar]).map some)) =
        [slStartChar, 0x65, 0x20, 0x20] ++ [slEndChar] := by
    rw [readCalls, readCalls, consumed, List.flatMap_singleton]
    exact bSLReadMessage_through_end 2048 (by decide) Receiver.initial
  rw [callsWithin_iff 2048 (bounded_initial 2048), whole]
  decide

end SixLoWPANd.SerialLink
