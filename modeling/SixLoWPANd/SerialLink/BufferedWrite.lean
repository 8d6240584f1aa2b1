import SixLoWPANd.Foundation.Loops
import SixLoWPANd.SerialLink.SerialWrite

/-!
# Writing a buffer

`serial_write_buffer` offers the device everything that it has not taken yet,
over and over, and gives up at the fifth refusal in a row or at an error other
than `EAGAIN`.  Unlike `serial_write` it reports every byte that it has not
delivered.
-/

namespace SixLoWPANd.SerialLink

open SixLoWPANd.Foundation

/-- A buffer whose bytes an `int` can count. -/
structure Buffer where
  bytes : List UInt8
  fits : bytes.length < 2147483648

/-- What a `write` that takes nothing returns: 0 or -1. -/
inductive Refusal where
  | nothing
  | failed
  deriving DecidableEq

/-- What `write` does with the rest of a buffer: it takes one byte and up to
`more` others, or refuses, and `errno` is looked at either way. -/
inductive BlockOutcome where
  | took (more : Nat)
  | refused (refusal : Refusal) (errno : Errno)
  deriving DecidableEq

/-- The outcomes of all write calls, how many have been made, the bytes that
have been taken, and the lines that have been logged. -/
structure BlockDevice where
  outcomes : Nat → BlockOutcome
  used : Nat
  accepted : List UInt8
  logged : List String

/-- The device after one more write call that has taken the given bytes. -/
def BlockDevice.took (device : BlockDevice) (data : List UInt8) :
    BlockDevice :=
  { device with
    used := device.used + 1
    accepted := device.accepted ++ data }

def BlockDevice.daemonLog (device : BlockDevice) (text : String) :
    BlockDevice :=
  { device with logged := device.logged ++ [text] }

/-- The variables of `serial_write_buffer`. -/
structure BufferWrite where
  totalSentBytes : Nat
  attempts : Nat
  device : BlockDevice

section Writing

variable (strerror : Errno → String)

def errorWriting (errno : Errno) : String :=
  "Error writing to module(" ++ strerror errno ++ ")"

/-- A turn of the loop of `serial_write_buffer`, left with its return value. -/
def writeTurn (data : Buffer) (write : BufferWrite) :
    (Int × BlockDevice) ⊕ BufferWrite :=
  if write.totalSentBytes < data.bytes.length then
    match write.device.outcomes write.device.used with
    | .refused _ errno =>
        if errno = .eagain then
          if write.attempts + 1 ≥ 5 then
            .inl
              (-1, (write.device.took []).daemonLog
                (errorWriting strerror errno))
          else
            .inr
              { write with
                attempts := write.attempts + 1
                device := write.device.took [] }
        else
          .inl
            (-1, (write.device.took []).daemonLog
              (errorWriting strerror errno))
    | .took more =>
        let sent := (data.bytes.drop write.totalSentBytes).take (more + 1)
        .inr
          { totalSentBytes := write.totalSentBytes + sent.length
            attempts := 0
            device := write.device.took sent }
  else
    .inl (write.totalSentBytes, write.device)

/-- `serial_write_buffer`, with as many turns as it takes. -/
def serialWriteBuffer (data : Buffer) (device : BlockDevice) :
    Option (Int × BlockDevice) :=
  loop (writeTurn strerror data) (5 * data.bytes.length + 1) ⟨0, 0, device⟩

end Writing

/-! ## One turn -/

section Turns

variable {strerror : Errno → String} {data : Buffer} {write : BufferWrite}

/-- The loop goes on after a refusal that may be the last but one, or with
fewer bytes left. -/
theorem writeTurn_goesOn {next : BufferWrite}
    (turn : writeTurn strerror data write = .inr next) :
    write.totalSentBytes < data.bytes.length ∧
      ((∃ refusal,
          write.device.outcomes write.device.used =
            .refused refusal .eagain ∧
          write.attempts + 1 < 5 ∧
          next = ⟨write.totalSentBytes, write.attempts + 1,
            write.device.took []⟩) ∨
        ∃ more sent, 0 < sent.length ∧
          write.device.outcomes write.device.used = .took more ∧
          sent = (data.bytes.drop write.totalSentBytes).take (more + 1) ∧
          next = ⟨write.totalSentBytes + sent.length, 0,
            write.device.took sent⟩) := by
  unfold writeTurn at turn
  by_cases left : write.totalSentBytes < data.bytes.length
  · refine ⟨left, ?_⟩
    rw [if_pos left] at turn
    cases outcome : write.device.outcomes write.device.used with
    | refused refusal errno =>
        simp only [outcome] at turn
        split_ifs at turn with again last
        cases turn
        exact Or.inl ⟨refusal, by rw [again], by omega, rfl⟩
    | took more =>
        simp only [outcome] at turn
        cases turn
        refine Or.inr ⟨more, _, ?_, rfl, rfl, rfl⟩
        rw [List.length_take, List.length_drop]
        omega
  · rw [if_neg left] at turn
    cases turn

/-- The loop is left with everything sent, or given up. -/
theorem writeTurn_leaves {result : Int × BlockDevice}
    (turn : writeTurn strerror data write = .inl result) :
    (data.bytes.length ≤ write.totalSentBytes ∧
        result = ((write.totalSentBytes : Int), write.device)) ∨
      ∃ refusal errno, write.totalSentBytes < data.bytes.length ∧
        write.device.outcomes write.device.used = .refused refusal errno ∧
        (errno = .eagain → 5 ≤ write.attempts + 1) ∧
        result =
          (-1, (write.device.took []).daemonLog
            (errorWriting strerror errno)) := by
  unfold writeTurn at turn
  by_cases left : write.totalSentBytes < data.bytes.length
  · rw [if_pos left] at turn
    right
    cases outcome : write.device.outcomes write.device.used with
    | refused refusal errno =>
        simp only [outcome] at turn
        split_ifs at turn with again last
        · cases turn
          exact ⟨refusal, errno, left, rfl, fun _ => last, rfl⟩
        · cases turn
          exact
            ⟨refusal, errno, left, rfl, fun eagain => absurd eagain again,
              rfl⟩
    | took more =>
        simp only [outcome] at turn
        cases turn
  · rw [if_neg left] at turn
    cases turn
    exact Or.inl ⟨Nat.le_of_not_lt left, rfl⟩

end Turns

/-! ## The whole loop -/

/-- Among the calls from `first` up to `last` there is one with an error other
than `EAGAIN`, or there are five refusals in a row. -/
def hopeless (outcomes : Nat → BlockOutcome) (first last : Nat) : Prop :=
  (∃ index refusal errno, first ≤ index ∧ index < last ∧
    outcomes index = .refused refusal (.other errno)) ∨
    ∃ before, first ≤ before ∧ before + 5 ≤ last ∧
      ∀ index < 5, ∃ refusal,
        outcomes (before + index) = .refused refusal .eagain

/-- The last calls, as many as there are attempts, were refused, and the call
before them was not. -/
def streak (outcomes : Nat → BlockOutcome) (first last attempts : Nat) :
    Prop :=
  ∃ before, first ≤ before ∧ last = before + attempts ∧
    (∀ index < attempts, ∃ refusal,
      outcomes (before + index) = .refused refusal .eagain) ∧
    (first < before → ∃ more, outcomes (before - 1) = .took more)

theorem streak_refused {outcomes : Nat → BlockOutcome}
    {first last attempts : Nat} (before : streak outcomes first last attempts)
    {refusal : Refusal} (again : outcomes last = .refused refusal .eagain) :
    streak outcomes first (last + 1) (attempts + 1) := by
  obtain ⟨start, above, used, refused, limit⟩ := before
  refine ⟨start, above, by omega, fun index below => ?_, limit⟩
  rcases Nat.lt_succ_iff_lt_or_eq.mp below with earlier | rfl
  · exact refused index earlier
  · rw [← used]
    exact ⟨refusal, again⟩

theorem streak_took {outcomes : Nat → BlockOutcome}
    {first last more : Nat} (above : first ≤ last)
    (outcome : outcomes last = .took more) :
    streak outcomes first (last + 1) 0 :=
  ⟨last + 1, by omega, rfl, fun _ below => absurd below (Nat.not_lt_zero _),
    fun _ => ⟨more, outcome⟩⟩

theorem not_hopeless_self (outcomes : Nat → BlockOutcome) (first : Nat) :
    ¬ hopeless outcomes first first := by
  rintro (⟨index, -, -, above, before, -⟩ | ⟨before, above, room, -⟩)
  · omega
  · omega

/-- One more call leaves hope unless it is the fifth refusal or an error. -/
theorem not_hopeless_succ {outcomes : Nat → BlockOutcome}
    {first last attempts : Nat} (hope : ¬ hopeless outcomes first last)
    (noError : ∀ refusal errno,
      outcomes last ≠ .refused refusal (.other errno))
    (few : streak outcomes first (last + 1) attempts) (below : attempts < 5) :
    ¬ hopeless outcomes first (last + 1) := by
  rintro (⟨index, refusal, errno, above, before, outcome⟩ |
    ⟨before, above, room, refused⟩)
  · rcases Nat.lt_succ_iff_lt_or_eq.mp before with earlier | rfl
    · exact hope (Or.inl ⟨index, refusal, errno, above, earlier, outcome⟩)
    · exact noError refusal errno outcome
  · by_cases earlier : before + 5 ≤ last
    · exact hope (Or.inr ⟨before, above, earlier, refused⟩)
    · -- the five calls end with the last one, so one of them was not refused
      obtain ⟨start, from_first, used, -, limit⟩ := few
      obtain ⟨more, outcome⟩ := limit (by omega)
      obtain ⟨refusal, among⟩ := refused (start - 1 - before) (by omega)
      rw [show before + (start - 1 - before) = start - 1 by omega,
        outcome] at among
      cases among

/-- What every turn keeps: a beginning of the buffer has been sent, nothing has
been logged, and there is no reason to give up yet. -/
structure Sending (data : Buffer) (start : BlockDevice)
    (write : BufferWrite) : Prop where
  within : write.totalSentBytes ≤ data.bytes.length
  outcomes : write.device.outcomes = start.outcomes
  accepted : write.device.accepted =
    start.accepted ++ data.bytes.take write.totalSentBytes
  logged : write.device.logged = start.logged
  few : write.attempts < 5
  waiting : 0 < write.attempts → write.totalSentBytes < data.bytes.length
  latest : streak start.outcomes start.used write.device.used write.attempts
  calls : write.device.used ≤
    start.used + 5 * write.totalSentBytes + write.attempts
  hope : ¬ hopeless start.outcomes start.used write.device.used

theorem sending_start (data : Buffer) (start : BlockDevice) :
    Sending data start ⟨0, 0, start⟩ where
  within := Nat.zero_le _
  outcomes := rfl
  accepted := by simp
  logged := rfl
  few := Nat.succ_pos 4
  waiting := fun tried => absurd tried (Nat.lt_irrefl _)
  latest :=
    ⟨start.used, Nat.le_refl _, rfl,
      fun _ below => absurd below (Nat.not_lt_zero _),
      fun above => absurd above (Nat.lt_irrefl _)⟩
  calls := by simp
  hope := not_hopeless_self start.outcomes start.used

/-- The rank of the loop: five calls for every byte that is left. -/
def BufferWrite.callsLeft (data : Buffer) (write : BufferWrite) : Nat :=
  5 * (data.bytes.length - write.totalSentBytes) - write.attempts

theorem Sending.goesOn {strerror : Errno → String} {data : Buffer}
    {start : BlockDevice} {write next : BufferWrite}
    (sending : Sending data start write)
    (turn : writeTurn strerror data write = .inr next) :
    Sending data start next ∧ next.callsLeft data < write.callsLeft data := by
  obtain ⟨before, above, used, -, -⟩ := sending.latest
  have few := sending.few
  have calls := sending.calls
  obtain ⟨left, ⟨refusal, again, last, rfl⟩ |
    ⟨more, sent, some, took, isSent, rfl⟩⟩ := writeTurn_goesOn turn
  · rw [sending.outcomes] at again
    have refusedToo := streak_refused sending.latest again
    refine
      ⟨{ within := sending.within
         outcomes := sending.outcomes
         accepted := by simpa [BlockDevice.took] using sending.accepted
         logged := sending.logged
         few := last
         waiting := fun _ => left
         latest := refusedToo
         calls := by simp only [BlockDevice.took]; omega
         hope :=
          not_hopeless_succ sending.hope (by simp [again]) refusedToo last },
        ?_⟩
    simp only [BufferWrite.callsLeft]
    omega
  · rw [sending.outcomes] at took
    have atMost : sent.length ≤ data.bytes.length - write.totalSentBytes := by
      rw [isSent, List.length_take, List.length_drop]
      omega
    have takenToo : streak start.outcomes start.used
        (write.device.used + 1) 0 := streak_took (by omega) took
    refine
      ⟨{ within := by simp only; omega
         outcomes := sending.outcomes
         accepted := ?_
         logged := sending.logged
         few := Nat.succ_pos 4
         waiting := fun tried => absurd tried (Nat.lt_irrefl _)
         latest := takenToo
         calls := by simp only [BlockDevice.took]; omega
         hope :=
          not_hopeless_succ sending.hope (by simp [took]) takenToo
            (Nat.succ_pos 4) },
        ?_⟩
    · have joined :
          data.bytes.take (write.totalSentBytes + sent.length) =
            data.bytes.take write.totalSentBytes ++ sent := by
        rw [List.take_add, isSent, List.length_take,
          ← List.take_eq_take_min]
      simp only [BlockDevice.took]
      rw [joined, sending.accepted, List.append_assoc]
    · simp only [BufferWrite.callsLeft]
      omega

/-- What `serial_write_buffer` leaves behind: either there was a reason to give
up, and it has returned -1 and logged the error after a beginning of the
buffer, or there was none and the device has taken the whole buffer. -/
structure BufferWritten (strerror : Errno → String) (data : Buffer)
    (start : BlockDevice) (result : Int × BlockDevice) : Prop where
  outcomes : result.2.outcomes = start.outcomes
  calls : result.2.used ≤ start.used + 5 * data.bytes.length
  givenUp : hopeless start.outcomes start.used result.2.used →
    result.1 = -1 ∧ ∃ refusal errno sent, sent < data.bytes.length ∧
      result.2.accepted = start.accepted ++ data.bytes.take sent ∧
      result.2.logged = start.logged ++ [errorWriting strerror errno] ∧
      start.outcomes (result.2.used - 1) = .refused refusal errno
  delivered : ¬ hopeless start.outcomes start.used result.2.used →
    result.1 = data.bytes.length ∧
      result.2.accepted = start.accepted ++ data.bytes ∧
      result.2.logged = start.logged

theorem Sending.leaves {strerror : Errno → String} {data : Buffer}
    {start : BlockDevice} {write : BufferWrite}
    {result : Int × BlockDevice} (sending : Sending data start write)
    (turn : writeTurn strerror data write = .inl result) :
    BufferWritten strerror data start result := by
  have within := sending.within
  have few := sending.few
  have calls := sending.calls
  obtain ⟨before, above, used, refused, -⟩ := sending.latest
  rcases writeTurn_leaves turn with
    ⟨all, rfl⟩ | ⟨refusal, errno, left, outcome, last, rfl⟩
  · have whole : write.totalSentBytes = data.bytes.length := by omega
    have waiting := sending.waiting
    refine ⟨sending.outcomes, by simp only; omega,
      fun gone => absurd gone sending.hope, fun _ => ⟨?_, ?_, sending.logged⟩⟩
    · simp only [whole]
    · rw [sending.accepted, whole, List.take_length]
  · rw [sending.outcomes] at outcome
    have gone : hopeless start.outcomes start.used
        (write.device.used + 1) := by
      cases errno with
      | other errno =>
          exact
            Or.inl
              ⟨write.device.used, refusal, errno, by omega, by omega,
                outcome⟩
      | eagain =>
          have four : write.attempts = 4 := by
            have := last rfl
            omega
          refine Or.inr ⟨before, above, by omega, fun index below => ?_⟩
          by_cases earlier : index < write.attempts
          · exact refused index earlier
          · rw [show before + index = write.device.used by omega]
            exact ⟨refusal, outcome⟩
    refine ⟨sending.outcomes, ?_, fun _ => ⟨rfl, refusal, errno,
      write.totalSentBytes, left, ?_, ?_, outcome⟩, fun hope => absurd gone hope⟩
    · simp only [BlockDevice.daemonLog, BlockDevice.took]
      omega
    · simp [BlockDevice.daemonLog, BlockDevice.took, sending.accepted]
    · simp [BlockDevice.daemonLog, BlockDevice.took, sending.logged]

/-- `serial_write_buffer` returns, whatever the device answers, after at most
five calls for every byte.  It gives up exactly if it meets an error or five
refusals in a row, and then says so; otherwise the device has taken every byte
of the buffer, once and in order. -/
theorem buffer_written (strerror : Errno → String) (data : Buffer)
    (device : BlockDevice) :
    ∃ result, serialWriteBuffer strerror data device = some result ∧
      BufferWritten strerror data device result := by
  have initial := sending_start data device
  obtain ⟨result, left⟩ :=
    loop_leaves (BufferWrite.callsLeft data)
      (@Sending.goesOn strerror data device) initial
      (Nat.lt_succ_self (5 * data.bytes.length))
  have kept {write next : BufferWrite}
      (sending : Sending data device write)
      (turn : writeTurn strerror data write = .inr next) :
      Sending data device next :=
    (sending.goesOn turn).1
  exact ⟨result, left, loop_invariant kept Sending.leaves initial left⟩

/-! ## Compared with single bytes -/

/-- What a call with a single byte gives on the same device; `serial_write`
does not look at `errno` behind a 0. -/
def BlockOutcome.single : BlockOutcome → WriteOutcome
  | .took _ => .accepted
  | .refused .nothing _ => .nothing
  | .refused .failed errno => .failed errno

/-- The device as `serial_write` sees it. -/
def BlockDevice.bytewise (device : BlockDevice) : SerialDevice where
  outcomes := fun index => (device.outcomes index).single
  used := device.used
  accepted := device.accepted

/-- None of the calls from `first` up to `last` returns 0. -/
def neverNothing (outcomes : Nat → BlockOutcome) (first last : Nat) : Prop :=
  ∀ index, first ≤ index → index < last →
    ∀ errno, outcomes index ≠ .refused .nothing errno

theorem bytewise_refused {device : BlockDevice} {refusal : Refusal}
    {errno : Errno}
    (outcome : device.outcomes device.used = .refused refusal errno)
    (u8Data : UInt8) :
    device.bytewise.called u8Data = (device.took []).bytewise := by
  cases refusal <;>
    simp [BlockDevice.bytewise, SerialDevice.called, BlockDevice.took,
      BlockOutcome.single, outcome]

theorem bytewise_took {device : BlockDevice} {more : Nat}
    (outcome : device.outcomes device.used = .took more) (u8Data : UInt8) :
    device.bytewise.called u8Data = (device.took [u8Data]).bytewise := by
  simp [BlockDevice.bytewise, SerialDevice.called, BlockDevice.took,
    BlockOutcome.single, outcome]

section Bytes

variable (strerror : Errno → String)

/-- What `serial_write` has left to do with the rest of a buffer after it has
called for the first byte so many times. -/
def pending : Nat → List UInt8 → DeviceM Unit
  | tried + 1, u8Data :: rest => do
      retryWrite strerror u8Data ([0, 1, 2, 3, 4, 5].drop tried)
      forM rest (attemptWrite strerror)
  | _, rest => forM rest (attemptWrite strerror)

theorem retries_drop : ∀ tried < 6, [0, 1, 2, 3, 4, 5].drop tried =
    tried :: [0, 1, 2, 3, 4, 5].drop (tried + 1) := by
  decide

variable {strerror} {u8Data : UInt8} {rest : List UInt8}
variable {tried : Nat} {device : SerialDevice}

theorem pending_refused (few : tried < 5)
    (outcome : device.outcomes device.used = .failed .eagain) :
    pending strerror tried (u8Data :: rest) device =
      pending strerror (tried + 1) (u8Data :: rest)
        (device.called u8Data) := by
  cases tried with
  | zero =>
      change Except.bind (attemptWrite strerror u8Data device) _ = _
      rw [attemptWrite_eq, outcome]
      rfl
  | succ tried =>
      change Except.bind (retryWrite strerror u8Data _ device) _ = _
      rw [retries_drop tried (by omega), retryWrite_cons, outcome]
      dsimp only
      rw [if_neg (by omega)]
      rfl

theorem pending_accepted (few : tried < 6)
    (outcome : device.outcomes device.used = .accepted) :
    pending strerror tried (u8Data :: rest) device =
      pending strerror 0 rest (device.called u8Data) := by
  cases tried with
  | zero =>
      change Except.bind (attemptWrite strerror u8Data device) _ = _
      rw [attemptWrite_eq, outcome]
      rfl
  | succ tried =>
      change Except.bind (retryWrite strerror u8Data _ device) _ = _
      rw [retries_drop tried (by omega), retryWrite_cons, outcome]
      rfl

end Bytes

/-- Where a device takes one byte a call, sending a buffer is what writing its
bytes one by one has left to do, after every turn, as long as no call has
returned 0. -/
def Bytewise (strerror : Errno → String) (data : Buffer)
    (start : BlockDevice) (write : BufferWrite) : Prop :=
  neverNothing start.outcomes start.used write.device.used →
    forM data.bytes (attemptWrite strerror) start.bytewise =
      pending strerror write.attempts
        (data.bytes.drop write.totalSentBytes) write.device.bytewise

theorem Bytewise.goesOn {strerror : Errno → String} {data : Buffer}
    {start : BlockDevice} {write next : BufferWrite}
    (single : ∀ index more, start.outcomes index = .took more → more = 0)
    (sending : Sending data start write)
    (bytewise : Bytewise strerror data start write)
    (turn : writeTurn strerror data write = .inr next) :
    Bytewise strerror data start next := by
  obtain ⟨left, cases⟩ := writeTurn_goesOn turn
  have few := sending.few
  obtain ⟨before, above, used, -, -⟩ := sending.latest
  have split := List.drop_eq_getElem_cons left
  have seen : ∀ outcome,
      write.device.outcomes write.device.used = outcome →
      write.device.bytewise.outcomes write.device.bytewise.used =
        outcome.single := by
    rintro - rfl
    rfl
  intro never
  have oneMore : next.device.used = write.device.used + 1 := by
    rcases cases with ⟨-, -, -, rfl⟩ | ⟨-, -, -, -, -, rfl⟩
    · rfl
    · rfl
  rw [oneMore] at never
  have earlier : neverNothing start.outcomes start.used write.device.used :=
    fun index above below => never index above (Nat.lt_succ_of_lt below)
  have leftToDo := bytewise earlier
  rw [split] at leftToDo
  rcases cases with
    ⟨refusal, again, last, rfl⟩ | ⟨more, sent, -, took, isSent, rfl⟩
  · cases refusal with
    | nothing =>
        rw [sending.outcomes] at again
        exact
          absurd again
            (never write.device.used (by omega) (Nat.lt_succ_self _) _)
    | failed =>
        rw [leftToDo, pending_refused few (seen _ again),
          bytewise_refused again, split]
  · have one : more = 0 :=
      single write.device.used more (by rw [← sending.outcomes, took])
    have isByte : sent = [data.bytes[write.totalSentBytes]] := by
      rw [isSent, one, split]
      rfl
    rw [leftToDo, pending_accepted (Nat.lt_succ_of_lt few) (seen _ took),
      bytewise_took took, isByte]
    rfl

/-- Over a device that takes one byte a call, when `serial_write_buffer`
delivers a buffer: `serial_write` for one byte after another makes the same
calls and leaves the same behind exactly if none of the calls returns 0, which
`serial_write` takes for a byte written. -/
theorem buffer_bytes_agree {strerror : Errno → String} {data : Buffer}
    {device after : BlockDevice}
    (single : ∀ index more, device.outcomes index = .took more → more = 0)
    (delivered : serialWriteBuffer strerror data device =
      some ((data.bytes.length : Int), after)) :
    forM data.bytes (attemptWrite strerror) device.bytewise =
        .ok ((), after.bytewise) ↔
      neverNothing device.outcomes device.used after.used := by
  have kept {write next : BufferWrite}
      (both : Sending data device write ∧
        Bytewise strerror data device write)
      (turn : writeTurn strerror data write = .inr next) :
      Sending data device next ∧ Bytewise strerror data device next :=
    ⟨(both.1.goesOn turn).1, both.2.goesOn single both.1 turn⟩
  have leaves {write : BufferWrite} {result : Int × BlockDevice}
      (both : Sending data device write ∧
        Bytewise strerror data device write)
      (turn : writeTurn strerror data write = .inl result) :
      result.1 = data.bytes.length →
        result.2.accepted = device.accepted ++ data.bytes ∧
          (neverNothing device.outcomes device.used result.2.used →
            forM data.bytes (attemptWrite strerror) device.bytewise =
              .ok ((), result.2.bytewise)) := by
    obtain ⟨sending, bytewise⟩ := both
    rcases writeTurn_leaves turn with ⟨all, rfl⟩ | ⟨-, -, -, -, -, rfl⟩
    · intro _
      constructor
      · rw [sending.accepted, List.take_of_length_le all]
      · intro never
        rw [bytewise never, List.drop_eq_nil_of_le all]
        cases write.attempts with
        | zero =>
            rfl
        | succ tried =>
            rfl
    · intro complete
      simp only at complete
      omega
  have initial : Bytewise strerror data device ⟨0, 0, device⟩ := fun _ => rfl
  obtain ⟨whole, agree⟩ :=
    loop_invariant kept leaves ⟨sending_start data device, initial⟩
      delivered rfl
  refine ⟨?_, agree⟩
  intro finished index above below errno nothing
  apply forM_attemptWrite_not_nothing finished whole above below
  change (device.outcomes index).single = .nothing
  rw [nothing]
  rfl

/-- A device that fails with the first four calls and takes one byte with each
of the others. -/
def busyDevice : BlockDevice where
  outcomes := fun index =>
    if index < 4 then .refused .failed .eagain else .took 0
  used := 0
  accepted := []
  logged := []

/-- A buffer of two bytes. -/
def twoBytes : Buffer := ⟨[0x01, 0x02], by decide⟩

theorem busyDevice_single (index more : Nat)
    (took : busyDevice.outcomes index = .took more) : more = 0 := by
  by_cases early : index < 4
  · simp [busyDevice, early] at took
  · simpa [busyDevice, early] using took.symm

theorem busyDevice_neverNothing (first last : Nat) :
    neverNothing busyDevice.outcomes first last := by
  intro index _ _ errno
  by_cases early : index < 4
  · simp [busyDevice, early]
  · simp [busyDevice, early]

/-- The fifth call is the first that takes a byte. -/
theorem buffer_bytes_agree_busy :
    forM [0x01, 0x02] (attemptWrite fun _ => "") busyDevice.bytewise =
      .ok ((),
        { busyDevice with used := 6, accepted := [0x01, 0x02] }.bytewise) :=
  (@buffer_bytes_agree (fun _ => "") twoBytes busyDevice
    { busyDevice with used := 6, accepted := [0x01, 0x02] }
    busyDevice_single rfl).mpr (busyDevice_neverNothing 0 6)

end SixLoWPANd.SerialLink
