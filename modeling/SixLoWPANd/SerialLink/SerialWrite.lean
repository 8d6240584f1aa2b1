import SixLoWPANd.SerialLink.Transmitter

/-!
# Writing to a device that may refuse bytes

`serialWrite` writes one byte with up to six retries.  It ends the process
after some errors and reports success after everything else, so a byte that a
write call does not take, or that the last retry loses to an error other than
`EAGAIN`, is missing from the frame without a report.  `everyByteAccepted` says
of the outcomes of the write calls that this does not happen.
-/

namespace SixLoWPANd.SerialLink

open SixLoWPANd.Foundation

/-- The values of `errno` that are told apart. -/
inductive Errno where
  | eagain
  | other (errno : Nat)
  deriving DecidableEq

/-- What `write(serial_fd, &data, 1)` returns: 1, 0, or -1 with `errno`. -/
inductive WriteOutcome where
  | accepted
  | nothing
  | failed (errno : Errno)
  deriving DecidableEq

/-- The outcomes of all write calls, how many have been made, and the bytes
that have been accepted. -/
structure SerialDevice where
  outcomes : Nat → WriteOutcome
  used : Nat
  accepted : List UInt8

/-- Programs on the device; an exit carries the line it logs. -/
abbrev DeviceM := StateT SerialDevice (Except String)

/-- The device after one more write call. -/
def SerialDevice.called (device : SerialDevice) (data : UInt8) :
    SerialDevice :=
  { device with
    used := device.used + 1
    accepted :=
      if device.outcomes device.used = .accepted then
        device.accepted ++ [data]
      else
        device.accepted }

def write (data : UInt8) : DeviceM WriteOutcome := fun device =>
  .ok (device.outcomes device.used, device.called data)

section Writing

variable (strerror : Errno → String)

/-- The retry loop of `serial_write` over the values of `attempts` to come. -/
def retryWrite (data : UInt8) : List Nat → DeviceM Unit
  | [] => return ()
  | attempts :: later => do
      match ← write data with
      | .failed errno =>
          if errno = .eagain ∧ attempts = 5 then
            throw ("Error writing to module after " ++ toString attempts ++
              " attempts(" ++ strerror errno ++ ")")
          else
            retryWrite data later
      | _ => return ()

/-- `serial_write` up to its return. -/
def attemptWrite (data : UInt8) : DeviceM Unit := do
  match ← write data with
  | .failed .eagain => retryWrite strerror data [0, 1, 2, 3, 4, 5]
  | .failed errno =>
      throw ("Error writing to module(" ++ strerror errno ++ ")")
  | _ => return ()

def serialWrite (data : UInt8) : DeviceM Int := do
  attemptWrite strerror data
  return 0

end Writing

/-! ## The condition on the outcomes -/

/-- From `first` on, `failures` calls fail and the next one accepts. -/
def acceptedAfter (outcomes : Nat → WriteOutcome)
    (first failures : Nat) : Prop :=
  (∀ index < failures, ∃ errno,
    outcomes (first + index) = .failed errno) ∧
    outcomes (first + failures) = .accepted

/-- The write calls for one byte are those from `first` up to `next`, and the
last one accepts it: the first call, or one of six retries with nothing but
errors before it. -/
def byteAccepted (outcomes : Nat → WriteOutcome) (first next : Nat) :
    Prop :=
  (outcomes first = .accepted ∧ next = first + 1) ∨
    (outcomes first = .failed .eagain ∧
      ∃ failures < 6, acceptedAfter outcomes (first + 1) failures ∧
        next = first + 1 + failures + 1)

/-- The write calls from `first` on accept `count` bytes one after another. -/
def everyByteAccepted (outcomes : Nat → WriteOutcome) :
    Nat → Nat → Prop
  | 0, _ => True
  | count + 1, first =>
      ∃ next, byteAccepted outcomes first next ∧
        everyByteAccepted outcomes count next

theorem acceptedAfter_zero (outcomes : Nat → WriteOutcome) (first : Nat) :
    acceptedAfter outcomes first 0 ↔ outcomes first = .accepted := by
  simp [acceptedAfter]

theorem acceptedAfter_succ
    (outcomes : Nat → WriteOutcome) (first failures : Nat) :
    acceptedAfter outcomes first (failures + 1) ↔
      (∃ errno, outcomes first = .failed errno) ∧
        acceptedAfter outcomes (first + 1) failures := by
  have shifted : ∀ index, first + 1 + index = first + (index + 1) := by
    intro index
    omega
  unfold acceptedAfter
  simp only [shifted]
  constructor
  · rintro ⟨failed, accepted⟩
    exact
      ⟨failed 0 (by omega),
        fun index below => failed (index + 1) (by omega), accepted⟩
  · rintro ⟨failedFirst, failed, accepted⟩
    refine ⟨fun index below => ?_, accepted⟩
    cases index with
    | zero =>
        exact failedFirst
    | succ index =>
        exact failed index (by omega)

/-- The first accepting call is unique. -/
theorem acceptedAfter_unique
    {outcomes : Nat → WriteOutcome} {first earlier later : Nat}
    (one : acceptedAfter outcomes first earlier)
    (other : acceptedAfter outcomes first later) : earlier = later := by
  induction earlier generalizing first later with
  | zero =>
      cases later with
      | zero =>
          rfl
      | succ later =>
          rw [acceptedAfter_zero] at one
          obtain ⟨⟨errno, failed⟩, -⟩ :=
            (acceptedAfter_succ _ _ _).mp other
          rw [one] at failed
          cases failed
  | succ earlier inductionHypothesis =>
      obtain ⟨⟨errno, failed⟩, rest⟩ := (acceptedAfter_succ _ _ _).mp one
      cases later with
      | zero =>
          rw [acceptedAfter_zero, failed] at other
          cases other
      | succ later =>
          have restOther := ((acceptedAfter_succ _ _ _).mp other).2
          rw [inductionHypothesis rest restOther]

theorem byteAccepted_unique
    {outcomes : Nat → WriteOutcome} {first next other : Nat}
    (one : byteAccepted outcomes first next)
    (another : byteAccepted outcomes first other) : next = other := by
  rcases one with ⟨accepted, rfl⟩ | ⟨again, failures, -, retried, rfl⟩
  · rcases another with ⟨-, rfl⟩ | ⟨again, -⟩
    · rfl
    · rw [accepted] at again
      cases again
  · rcases another with ⟨accepted, -⟩ | ⟨-, others, -, retriedToo, rfl⟩
    · rw [again] at accepted
      cases accepted
    · rw [acceptedAfter_unique retried retriedToo]

/-- The calls for a byte that is accepted do not return 0. -/
theorem byteAccepted_not_nothing {outcomes : Nat → WriteOutcome}
    {first next index : Nat} (accepted : byteAccepted outcomes first next)
    (above : first ≤ index) (below : index < next) :
    outcomes index ≠ .nothing := by
  intro nothing
  rcases accepted with
    ⟨atOnce, rfl⟩ | ⟨again, failures, -, ⟨failed, last⟩, rfl⟩
  · rw [show index = first by omega, atOnce] at nothing
    cases nothing
  · by_cases isFirst : index = first
    · rw [isFirst, again] at nothing
      cases nothing
    · obtain ⟨tried, isIndex⟩ : ∃ tried, index = first + 1 + tried :=
        ⟨index - (first + 1), by omega⟩
      rw [isIndex] at nothing
      by_cases isLast : tried = failures
      · rw [isLast, last] at nothing
        cases nothing
      · obtain ⟨errno, refused⟩ := failed tried (by omega)
        rw [refused] at nothing
        cases nothing

/-! ## What a byte and a frame leave on the device -/

section Results

variable {strerror : Errno → String} {data : UInt8}

/-- A finished program for one byte left the outcomes as they were, and the
byte was accepted or lost. -/
structure Finished (device after : SerialDevice) (data : UInt8)
    (takes : Nat → Prop) : Prop where
  outcomes : after.outcomes = device.outcomes
  taken : (takes after.used ∧ after.accepted = device.accepted ++ [data]) ∨
    ((∀ next, ¬ takes next) ∧ after.accepted = device.accepted)

theorem retryWrite_cons
    (attempts : Nat) (later : List Nat) (device : SerialDevice) :
    retryWrite strerror data (attempts :: later) device =
      match device.outcomes device.used with
      | .failed errno =>
          if errno = .eagain ∧ attempts = 5 then
            .error ("Error writing to module after " ++
              toString attempts ++ " attempts(" ++ strerror errno ++ ")")
          else
            retryWrite strerror data later (device.called data)
      | _ => .ok ((), device.called data) := by
  change (match device.outcomes device.used with
    | .failed errno =>
        if errno = .eagain ∧ attempts = 5 then
          throw ("Error writing to module after " ++
            toString attempts ++ " attempts(" ++ strerror errno ++ ")")
        else
          retryWrite strerror data later
    | _ => return () : DeviceM Unit) (device.called data) = _
  cases device.outcomes device.used with
  | failed errno =>
      dsimp only
      split
      · rfl
      · rfl
  | accepted =>
      rfl
  | nothing =>
      rfl

theorem attemptWrite_eq (device : SerialDevice) :
    attemptWrite strerror data device =
      match device.outcomes device.used with
      | .failed .eagain =>
          retryWrite strerror data [0, 1, 2, 3, 4, 5] (device.called data)
      | .failed errno =>
          .error ("Error writing to module(" ++ strerror errno ++ ")")
      | _ => .ok ((), device.called data) := by
  change (match device.outcomes device.used with
    | .failed .eagain => retryWrite strerror data [0, 1, 2, 3, 4, 5]
    | .failed errno =>
        throw ("Error writing to module(" ++ strerror errno ++ ")")
    | _ => return () : DeviceM Unit) (device.called data) = _
  cases device.outcomes device.used with
  | failed errno =>
      cases errno with
      | eagain =>
          rfl
      | other errno =>
          rfl
  | accepted =>
      rfl
  | nothing =>
      rfl

theorem called_used (device : SerialDevice) :
    (device.called data).used = device.used + 1 := rfl

theorem called_of_accepted {device : SerialDevice}
    (outcome : device.outcomes device.used = .accepted) :
    (device.called data).accepted = device.accepted ++ [data] := by
  simp [SerialDevice.called, outcome]

theorem called_of_refused {device : SerialDevice}
    (outcome : device.outcomes device.used ≠ .accepted) :
    (device.called data).accepted = device.accepted := by
  simp [SerialDevice.called, outcome]

theorem retryWrite_finished
    {remaining : List Nat} {device after : SerialDevice}
    (finished :
      retryWrite strerror data remaining device = .ok ((), after)) :
    Finished device after data fun next =>
      ∃ failures < remaining.length,
        acceptedAfter device.outcomes device.used failures ∧
          next = device.used + failures + 1 := by
  induction remaining generalizing device with
  | nil =>
      cases finished
      exact ⟨rfl, Or.inr ⟨by simp, rfl⟩⟩
  | cons attempts later inductionHypothesis =>
      rw [retryWrite_cons] at finished
      cases outcome : device.outcomes device.used with
      | accepted =>
          rw [outcome] at finished
          cases finished
          refine ⟨rfl, Or.inl ⟨⟨0, by simp, ?_, rfl⟩,
            called_of_accepted outcome⟩⟩
          exact (acceptedAfter_zero _ _).mpr outcome
      | nothing =>
          rw [outcome] at finished
          cases finished
          refine ⟨rfl, Or.inr ⟨?_, called_of_refused (by simp [outcome])⟩⟩
          rintro next ⟨failures, -, accepted, -⟩
          cases failures with
          | zero =>
              simp [acceptedAfter_zero, outcome] at accepted
          | succ failures =>
              simp [acceptedAfter_succ, outcome] at accepted
      | failed errno =>
          simp only [outcome] at finished
          split at finished
          · cases finished
          · obtain ⟨same, taken⟩ := inductionHypothesis finished
            have refused :
                (device.called data).accepted = device.accepted :=
              called_of_refused (by simp [outcome])
            refine ⟨same, ?_⟩
            rcases taken with ⟨⟨failures, below, accepted, used⟩, stored⟩ |
              ⟨lost, stored⟩
            · left
              refine ⟨⟨failures + 1, by simpa using below, ?_, ?_⟩, ?_⟩
              · exact (acceptedAfter_succ _ _ _).mpr
                  ⟨⟨errno, outcome⟩, accepted⟩
              · rw [used, called_used]
                omega
              · rw [stored, refused]
            · right
              refine ⟨?_, stored.trans refused⟩
              rintro next ⟨failures, below, accepted, used⟩
              cases failures with
              | zero =>
                  simp [acceptedAfter_zero, outcome] at accepted
              | succ failures =>
                  apply lost next
                  refine ⟨failures, by simpa using below,
                    ((acceptedAfter_succ _ _ _).mp accepted).2, ?_⟩
                  rw [used, called_used]
                  omega

/-- A byte whose writing has finished was accepted by a call that
`byteAccepted` allows, or by none. -/
theorem attemptWrite_finished
    {device after : SerialDevice}
    (finished : attemptWrite strerror data device = .ok ((), after)) :
    Finished device after data
      (byteAccepted device.outcomes device.used) := by
  rw [attemptWrite_eq] at finished
  cases outcome : device.outcomes device.used with
  | accepted =>
      rw [outcome] at finished
      cases finished
      exact
        ⟨rfl, Or.inl ⟨Or.inl ⟨outcome, rfl⟩, called_of_accepted outcome⟩⟩
  | nothing =>
      rw [outcome] at finished
      cases finished
      refine ⟨rfl, Or.inr ⟨?_, called_of_refused (by simp [outcome])⟩⟩
      simp [byteAccepted, outcome]
  | failed errno =>
      cases errno with
      | other errno =>
          rw [outcome] at finished
          cases finished
      | eagain =>
          rw [outcome] at finished
          obtain ⟨same, taken⟩ := retryWrite_finished finished
          have refused :
              (device.called data).accepted = device.accepted :=
            called_of_refused (by simp [outcome])
          refine ⟨same, ?_⟩
          rw [refused] at taken
          simpa [byteAccepted, outcome, SerialDevice.called] using taken

/-- A string is written byte by byte. -/
theorem forM_attemptWrite_cons
    {u8Data : UInt8} {rest : List UInt8} {device after : SerialDevice}
    (finished :
      forM (u8Data :: rest) (attemptWrite strerror) device =
        .ok ((), after)) :
    ∃ middle,
      Finished device middle u8Data
          (byteAccepted device.outcomes device.used) ∧
        forM rest (attemptWrite strerror) middle = .ok ((), after) := by
  rw [List.forM_cons] at finished
  change Except.bind (attemptWrite strerror u8Data device)
    (fun result => forM rest (attemptWrite strerror) result.2) =
      _ at finished
  cases first : attemptWrite strerror u8Data device with
  | error text =>
      rw [first] at finished
      cases finished
  | ok result =>
      obtain ⟨⟨⟩, middle⟩ := result
      rw [first] at finished
      exact ⟨middle, attemptWrite_finished first, finished⟩

/-- What has been accepted of a string whose writing has finished is all of it
exactly if every byte was accepted. -/
theorem forM_attemptWrite_finished
    {bytes : List UInt8} {device after : SerialDevice}
    (finished :
      forM bytes (attemptWrite strerror) device = .ok ((), after)) :
    ∃ kept, after.accepted = device.accepted ++ kept ∧
      kept.length ≤ bytes.length ∧
      (kept = bytes ↔
        everyByteAccepted device.outcomes bytes.length device.used) := by
  induction bytes generalizing device with
  | nil =>
      cases finished
      exact ⟨[], by simp, by simp, by simp [everyByteAccepted]⟩
  | cons u8Data rest inductionHypothesis =>
      obtain ⟨middle, ⟨same, taken⟩, later⟩ :=
        forM_attemptWrite_cons finished
      obtain ⟨kept, stored, short, whole⟩ := inductionHypothesis later
      rw [same] at whole
      rcases taken with ⟨takes, accepted⟩ | ⟨lost, accepted⟩
      · refine ⟨u8Data :: kept, by simp [stored, accepted],
          by simpa using short, ?_⟩
        rw [List.cons.injEq, whole]
        constructor
        · rintro ⟨-, later⟩
          exact ⟨middle.used, takes, later⟩
        · rintro ⟨next, takesToo, later⟩
          rw [byteAccepted_unique takesToo takes] at later
          exact ⟨rfl, later⟩
      · refine ⟨kept, by rw [stored, accepted],
          Nat.le_succ_of_le short, ?_⟩
        constructor
        · rintro rfl
          rw [List.length_cons] at short
          omega
        · rintro ⟨next, takes, -⟩
          exact absurd takes (lost next)

/-- A string of which no byte was lost has met no 0. -/
theorem forM_attemptWrite_not_nothing
    {bytes : List UInt8} {device after : SerialDevice}
    (finished :
      forM bytes (attemptWrite strerror) device = .ok ((), after))
    (whole : after.accepted = device.accepted ++ bytes)
    {index : Nat} (above : device.used ≤ index) (below : index < after.used) :
    device.outcomes index ≠ .nothing := by
  induction bytes generalizing device with
  | nil =>
      cases finished
      omega
  | cons u8Data rest inductionHypothesis =>
      obtain ⟨middle, ⟨same, taken⟩, later⟩ :=
        forM_attemptWrite_cons finished
      rcases taken with ⟨takes, accepted⟩ | ⟨-, accepted⟩
      · by_cases early : index < middle.used
        · exact byteAccepted_not_nothing takes above early
        · rw [← same]
          apply inductionHypothesis later
          · rw [whole, accepted, List.append_assoc]
            rfl
          · exact Nat.le_of_not_lt early
      · -- the rest alone cannot make up for a byte that is lost
        obtain ⟨kept, stored, short, -⟩ := forM_attemptWrite_finished later
        rw [accepted, whole] at stored
        have isKept := List.append_cancel_left stored
        rw [← isKept, List.length_cons] at short
        omega

end Results

/-- When `vSLWriteMessage` has run to its end, the device has accepted exactly
the encoded frame if and only if the write calls accept every byte. -/
theorem no_byte_lost_iff
    (strerror : Errno → String) (message : Message)
    {device after : SerialDevice}
    (finished :
      vSLWriteMessage (serialWrite strerror) message.u8Type
          message.u16Length (fun n => message.payload.getD n 0) device =
        .ok ((), after)) :
    after.accepted = device.accepted ++ encode message ↔
      everyByteAccepted device.outcomes (encode message).length
        device.used := by
  have reliable : ∀ u8Data, serialWrite strerror u8Data = do
      attemptWrite strerror u8Data
      return 0 := fun _ => rfl
  rw [vSLWriteMessage_eq_forM reliable, ← encode_eq_frame] at finished
  obtain ⟨kept, stored, -, whole⟩ := forM_attemptWrite_finished finished
  rw [stored, List.append_cancel_left_eq]
  exact whole

/-- A device whose first write call has the given outcome, and which accepts
everything after it. -/
def deviceWith (first : WriteOutcome) : SerialDevice where
  outcomes := fun index => if index = 0 then first else .accepted
  used := 0
  accepted := []

/-- A PING message. -/
def emptyMessage : Message := ⟨0x6d, [], by decide⟩

/-- The first byte is refused once. -/
theorem no_byte_lost_iff_refused :
    encode emptyMessage = [] ++ encode emptyMessage ↔
      everyByteAccepted (deviceWith (.failed .eagain)).outcomes
        (encode emptyMessage).length 0 :=
  @no_byte_lost_iff (fun _ => "") emptyMessage
    (deviceWith (.failed .eagain))
    { deviceWith (.failed .eagain) with
      used := 9
      accepted := encode emptyMessage } rfl

/-- A write call that returns 0 loses the start character, and the frame is
sent on without it. -/
theorem refused_byte_lost :
    ¬ ∀ (strerror : Errno → String) (message : Message)
        (device after : SerialDevice),
      vSLWriteMessage (serialWrite strerror) message.u8Type
          message.u16Length (fun n => message.payload.getD n 0) device =
        .ok ((), after) →
      after.accepted = device.accepted ++ encode message := by
  intro complete
  have wrong :=
    complete (fun _ => "") emptyMessage (deviceWith .nothing)
      { deviceWith .nothing with
        used := 8
        accepted := (encode emptyMessage).tail } rfl
  exact absurd wrong (by decide)

end SixLoWPANd.SerialLink
