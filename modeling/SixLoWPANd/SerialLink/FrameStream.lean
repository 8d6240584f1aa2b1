import SixLoWPANd.SerialLink.RoundTrip

/-!
# Calls on a stream of frames

The receiver is called on a stream of whole frames that is cut at arbitrary
points.  Between two calls it stands inside the frame that comes next, and what
it holds is what the part read so far makes of any earlier state.  A call
either stays inside the frame or reads it to its end, delivers it and reads
nothing behind it, and how far it gets does not depend on the earlier state.
-/

namespace SixLoWPANd.SerialLink

open SixLoWPANd.Foundation

variable (u16MaxLength : UInt16)

/-- The bytes are the beginning of the first frame, short of its end. -/
def partOf (later : List Message) (bytes : List UInt8) : Prop :=
  bytes = [] ∨ ∃ next rest missing, later = next :: rest ∧
    missing ≠ [] ∧ encode next = bytes ++ missing

/-- The frames that lie completely in the bytes read so far. -/
def completedBy (sent : List Message) (bytes : List UInt8)
    (completed : List Message) : Prop :=
  ∃ later part, sent = completed ++ later ∧ partOf later part ∧
    bytes = completed.flatMap encode ++ part

theorem completedBy_flatMap (sent : List Message) :
    completedBy sent (sent.flatMap encode) sent :=
  ⟨[], [], (List.append_nil sent).symm, Or.inl rfl,
    (List.append_nil (sent.flatMap encode)).symm⟩

/-- The end character of a frame is its last byte. -/
theorem slEndChar_notMem_of_part {message : Message}
    {bytes missing : List UInt8} (more : missing ≠ [])
    (split : encode message = bytes ++ missing) : slEndChar ∉ bytes := by
  rw [encode_eq_frame, frame, ← List.cons_append] at split
  have front : slEndChar ∉
      slStartChar :: slStuffing.stuff message.content := by
    intro member
    rcases List.mem_cons.mp member with isStart | inContent
    · exact absurd isStart (by decide)
    · exact slEndChar_notMem_stuff message.content inContent
  have within :
      bytes <+: slStartChar :: slStuffing.stuff message.content := by
    have whole := congrArg List.dropLast split
    rw [List.dropLast_concat, List.dropLast_append_of_ne_nil more] at whole
    exact ⟨_, whole.symm⟩
  exact fun member => front (within.subset member)

theorem slEndChar_notMem_of_partOf {later : List Message}
    {bytes : List UInt8} (isPart : partOf later bytes) :
    slEndChar ∉ bytes := by
  rcases isPart with rfl | ⟨next, rest, missing, -, more, split⟩
  · exact List.not_mem_nil
  · exact slEndChar_notMem_of_part more split

/-- Every beginning of a stream of frames completes some of them. -/
theorem exists_completedBy {sent : List Message} {bytes : List UInt8}
    (beginning : bytes <+: sent.flatMap encode) :
    ∃ completed, completedBy sent bytes completed := by
  induction sent generalizing bytes with
  | nil =>
      have empty : bytes = [] := List.prefix_nil.mp beginning
      exact ⟨[], [], [], rfl, Or.inl rfl, empty⟩
  | cons next rest inductionHypothesis =>
      obtain ⟨behind, stream⟩ := beginning
      rw [List.flatMap_cons] at stream
      rcases List.append_eq_append_iff.mp stream with
        ⟨missing, split, -⟩ | ⟨surplus, split, remaining⟩
      · by_cases whole : missing = []
        · refine ⟨[next], rest, [], rfl, Or.inl rfl, ?_⟩
          rw [whole, List.append_nil] at split
          simp [split]
        · have isPart : partOf (next :: rest) bytes :=
            Or.inr ⟨next, rest, missing, rfl, whole, split⟩
          exact ⟨[], next :: rest, bytes, rfl, isPart, rfl⟩
      · obtain ⟨completed, later, part, isRest, isPart, isSurplus⟩ :=
          inductionHypothesis ⟨behind, remaining.symm⟩
        refine ⟨next :: completed, later, part, ?_, isPart, ?_⟩
        · rw [isRest, List.cons_append]
        · rw [split, isSurplus, List.flatMap_cons, List.append_assoc]

/-- What a stream of frames delivers up to any of its bytes are the frames
that are complete. -/
theorem byteDeliveries_completedBy {sent completed : List Message}
    (fits : ∀ message ∈ sent, message.u16Length ≤ u16MaxLength)
    {bytes : List UInt8} (completes : completedBy sent bytes completed)
    (receiver : Receiver) :
    byteDeliveries u16MaxLength receiver bytes = completed := by
  obtain ⟨later, part, split, isPart, rfl⟩ := completes
  have nothing :=
    byteDeliveries_eq_nil u16MaxLength (slEndChar_notMem_of_partOf isPart)
  rw [byteDeliveries_append, nothing, List.append_nil]
  subst split
  induction completed generalizing receiver with
  | nil =>
      rfl
  | cons next rest inductionHypothesis =>
      have fitsNext := fits next List.mem_cons_self
      have fitsRest : ∀ message ∈ rest ++ later,
          message.u16Length ≤ u16MaxLength :=
        fun message member => fits message (List.mem_cons_of_mem next member)
      rw [List.flatMap_cons, byteDeliveries_append,
        byteDeliveries_encode u16MaxLength fitsNext,
        inductionHypothesis _ fitsRest]
      rfl

/-- Receivers that deliver the same from every beginning of what comes read
equally far. -/
theorem bSLReadMessage_alike {left right : Receiver}
    {reads : List (Option UInt8)}
    (alike : ∀ bytes, bytes <+: reads.reduceOption →
      byteDeliveries u16MaxLength left bytes =
        byteDeliveries u16MaxLength right bytes) :
    (bSLReadMessage u16MaxLength left reads).1.bytes =
        (bSLReadMessage u16MaxLength right reads).1.bytes ∧
      (bSLReadMessage u16MaxLength left reads).2 =
        (bSLReadMessage u16MaxLength right reads).2 := by
  induction reads generalizing left right with
  | nil =>
      exact ⟨rfl, rfl⟩
  | cons outcome reads inductionHypothesis =>
      cases outcome with
      | none =>
          exact ⟨rfl, rfl⟩
      | some u8Data =>
          rw [List.reduceOption_cons_of_some] at alike
          have first := alike [u8Data] ⟨reads.reduceOption, rfl⟩
          by_cases returns :
              (receiveByte u16MaxLength left u8Data).1 = true
          · have returnsToo :
                (receiveByte u16MaxLength right u8Data).1 = true := by
              by_contra continues
              simp [byteDeliveries, returns, continues] at first
            simp [bSLReadMessage, returns, returnsToo]
          · have continuesToo :
                ¬ (receiveByte u16MaxLength right u8Data).1 = true := by
              intro returnsToo
              simp [byteDeliveries, returns, returnsToo] at first
            have alikeLater : ∀ bytes, bytes <+: reads.reduceOption →
                byteDeliveries u16MaxLength
                    (receiveByte u16MaxLength left u8Data).2 bytes =
                  byteDeliveries u16MaxLength
                    (receiveByte u16MaxLength right u8Data).2 bytes := by
              intro bytes beginning
              have longer :=
                alike (u8Data :: bytes)
                  ((List.prefix_cons_inj u8Data).mpr beginning)
              simpa [byteDeliveries, returns, continuesToo] using longer
            have later := inductionHypothesis alikeLater
            simpa [bSLReadMessage, returns, continuesToo] using later

/-- A call that returns `TRUE` has delivered nothing before its last byte. -/
theorem bSLReadMessage_last
    {receiver : Receiver} {reads : List (Option UInt8)}
    (returned :
      (bSLReadMessage u16MaxLength receiver reads).1.result = true) :
    ∃ earlier,
      (bSLReadMessage u16MaxLength receiver reads).1.bytes =
          earlier ++ [slEndChar] ∧
        byteDeliveries u16MaxLength receiver earlier = [] := by
  induction reads generalizing receiver with
  | nil =>
      simp [bSLReadMessage] at returned
  | cons outcome reads inductionHypothesis =>
      cases outcome with
      | none =>
          simp [bSLReadMessage] at returned
      | some u8Data =>
          by_cases returns :
              (receiveByte u16MaxLength receiver u8Data).1 = true
          · have isEnd : u8Data = slEndChar :=
              ((receiveByte_fst_iff _ _ _).mp returns).1
            refine ⟨[], ?_, rfl⟩
            simp only [bSLReadMessage, returns, if_true]
            rw [isEnd, List.nil_append]
          · simp only [bSLReadMessage, returns, Bool.false_eq_true,
              ↓reduceIte] at returned ⊢
            obtain ⟨earlier, bytes, nothing⟩ :=
              inductionHypothesis returned
            refine ⟨u8Data :: earlier, ?_, ?_⟩
            · rw [bytes, List.cons_append]
            · simp [byteDeliveries, returns, nothing]

section Calls

variable {origin : Receiver} {part : List UInt8}
variable {reads : List (Option UInt8)}

/-- The call of a receiver that has read `part` before. -/
def callBehind (origin : Receiver) (part : List UInt8)
    (reads : List (Option UInt8)) : Call × List (Option UInt8) :=
  bSLReadMessage u16MaxLength
    (run (nextReceiver u16MaxLength) origin part) reads

theorem callBehind_after :
    (callBehind u16MaxLength origin part reads).1.after =
      run (nextReceiver u16MaxLength) origin
        (part ++ (callBehind u16MaxLength origin part reads).1.bytes) := by
  rw [run_append]
  exact (bSLReadMessage_spec u16MaxLength _ reads).2.1

/-- Nothing is delivered inside the part, so the call delivers what the bytes
since the beginning of the frame deliver. -/
theorem byteDeliveries_behind (noEnd : slEndChar ∉ part)
    (bytes : List UInt8) :
    byteDeliveries u16MaxLength
        (run (nextReceiver u16MaxLength) origin part) bytes =
      byteDeliveries u16MaxLength origin (part ++ bytes) := by
  rw [byteDeliveries_append, byteDeliveries_eq_nil u16MaxLength noEnd,
    List.nil_append]

theorem callBehind_delivers (noEnd : slEndChar ∉ part) :
    byteDeliveries u16MaxLength origin
        (part ++ (callBehind u16MaxLength origin part reads).1.bytes) =
      if (callBehind u16MaxLength origin part reads).1.result then
        [(callBehind u16MaxLength origin part reads).1.after.message]
      else
        [] := by
  rw [← byteDeliveries_behind u16MaxLength noEnd]
  exact (bSLReadMessage_spec u16MaxLength _ reads).2.2

/-- A call that does not get to the end of the frame returns `FALSE`. -/
theorem callBehind_inside (noEnd : slEndChar ∉ part)
    (stillNoEnd : slEndChar ∉
      part ++ (callBehind u16MaxLength origin part reads).1.bytes) :
    (callBehind u16MaxLength origin part reads).1.result = false := by
  have delivered :=
    @callBehind_delivers u16MaxLength origin part reads noEnd
  rw [byteDeliveries_eq_nil u16MaxLength stillNoEnd] at delivered
  by_contra returned
  simp [returned] at delivered

/-- A call that gets to the end of the frame delivers it and stops there. -/
theorem callBehind_through (noEnd : slEndChar ∉ part) {next : Message}
    (fits : next.u16Length ≤ u16MaxLength) {surplus : List UInt8}
    (bytes :
      part ++ (callBehind u16MaxLength origin part reads).1.bytes =
        encode next ++ surplus) :
    (callBehind u16MaxLength origin part reads).1.result = true ∧
      (callBehind u16MaxLength origin part reads).1.after.message =
        next ∧
      surplus = [] := by
  have delivered :=
    @callBehind_delivers u16MaxLength origin part reads noEnd
  rw [bytes, byteDeliveries_append,
    byteDeliveries_encode u16MaxLength fits] at delivered
  have returned :
      (callBehind u16MaxLength origin part reads).1.result = true := by
    by_contra incomplete
    simp [incomplete] at delivered
  rw [if_pos returned] at delivered
  have isNext :
      next = (callBehind u16MaxLength origin part reads).1.after.message :=
    (List.cons.inj delivered).1
  refine ⟨returned, isNext.symm, ?_⟩
  -- a byte behind the frame would be the last one, behind a delivery
  obtain ⟨earlier, ends, nothing⟩ :=
    bSLReadMessage_last u16MaxLength returned
  rcases List.eq_nil_or_concat surplus with none | ⟨front, u8Data, more⟩
  · exact none
  · rw [byteDeliveries_behind u16MaxLength noEnd] at nothing
    change (callBehind u16MaxLength origin part reads).1.bytes = _ at ends
    rw [ends, more, List.concat_eq_append, ← List.append_assoc,
      ← List.append_assoc] at bytes
    have earlierBytes : part ++ earlier = encode next ++ front :=
      (List.append_inj' bytes rfl).1
    rw [earlierBytes, byteDeliveries_append,
      byteDeliveries_encode u16MaxLength fits] at nothing
    simp at nothing

/-- What a call makes of a stream of frames, `part` of the first of which has
been read before. -/
theorem callBehind_frames {later : List Message}
    (fits : ∀ message ∈ later, message.u16Length ≤ u16MaxLength)
    (isPart : partOf later part)
    (stream : part ++ reads.reduceOption = later.flatMap encode) :
    let call := callBehind u16MaxLength origin part reads
    (call.1.result = false ∧ partOf later (part ++ call.1.bytes) ∧
        call.1.after =
          run (nextReceiver u16MaxLength) origin (part ++ call.1.bytes) ∧
        part ++ call.1.bytes ++ call.2.reduceOption =
          later.flatMap encode) ∨
      ∃ next rest, later = next :: rest ∧ call.1.result = true ∧
        call.1.after.message = next ∧
        call.2.reduceOption = rest.flatMap encode := by
  intro call
  have noEnd := slEndChar_notMem_of_partOf isPart
  have after := @callBehind_after u16MaxLength origin part reads
  have consumed : reads.reduceOption =
      call.1.bytes ++ call.2.reduceOption :=
    (bSLReadMessage_spec u16MaxLength
      (run (nextReceiver u16MaxLength) origin part) reads).1
  rw [consumed, ← List.append_assoc] at stream
  have inside : partOf later (part ++ call.1.bytes) →
      call.1.result = false := fun stillPart =>
    callBehind_inside u16MaxLength noEnd
      (slEndChar_notMem_of_partOf stillPart)
  cases later with
  | nil =>
      left
      have empty : part ++ call.1.bytes = [] :=
        (List.append_eq_nil_iff.mp stream).1
      have stillPart : partOf [] (part ++ call.1.bytes) := Or.inl empty
      exact ⟨inside stillPart, stillPart, after, stream⟩
  | cons next rest =>
      have fitsNext := fits next List.mem_cons_self
      have whole := stream
      rw [List.flatMap_cons] at whole
      rcases List.append_eq_append_iff.mp whole with
        ⟨missing, split, remaining⟩ | ⟨surplus, bytes, remaining⟩
      · by_cases complete : missing = []
        · right
          subst complete
          have bytes : part ++ call.1.bytes = encode next ++ [] := by
            rw [split, List.append_nil, List.append_nil]
          obtain ⟨returned, isNext, -⟩ :=
            callBehind_through u16MaxLength noEnd fitsNext bytes
          exact ⟨next, rest, rfl, returned, isNext, remaining⟩
        · left
          have stillPart : partOf (next :: rest) (part ++ call.1.bytes) :=
            Or.inr ⟨next, rest, missing, rfl, complete, split⟩
          exact ⟨inside stillPart, stillPart, after, stream⟩
      · right
        obtain ⟨returned, isNext, none⟩ :=
          callBehind_through u16MaxLength noEnd fitsNext bytes
        subst none
        exact ⟨next, rest, rfl, returned, isNext, remaining.symm⟩

/-- How far a call gets does not depend on what the receiver was before the
frame that it stands in. -/
theorem callBehind_alike {later : List Message}
    (fits : ∀ message ∈ later, message.u16Length ≤ u16MaxLength)
    (isPart : partOf later part)
    (stream : part ++ reads.reduceOption = later.flatMap encode)
    (other : Receiver) :
    (callBehind u16MaxLength other part reads).1.bytes =
        (callBehind u16MaxLength origin part reads).1.bytes ∧
      (callBehind u16MaxLength other part reads).2 =
        (callBehind u16MaxLength origin part reads).2 := by
  have noEnd := slEndChar_notMem_of_partOf isPart
  apply bSLReadMessage_alike
  rintro bytes ⟨behind, isReads⟩
  have beginning : part ++ bytes <+: later.flatMap encode :=
    ⟨behind, by rw [← stream, ← isReads, List.append_assoc]⟩
  obtain ⟨completed, completes⟩ := exists_completedBy beginning
  have delivered :=
    byteDeliveries_completedBy u16MaxLength fits completes
  rw [byteDeliveries_behind u16MaxLength noEnd,
    byteDeliveries_behind u16MaxLength noEnd, delivered, delivered]

end Calls

end SixLoWPANd.SerialLink
