import SixLoWPANd.SerialLink.RoundTrip
import SixLoWPANd.SerialLink.SerialWrite

/-!
# Frames over a device that loses bytes

A device that refuses bytes leaves frames with holes behind, and the program
does not notice.  The receiver at the other end starts anew with every start
character, so the damage does not spread: a message all of whose bytes are
accepted arrives, and there are no more messages than have been sent.
-/

namespace SixLoWPANd.SerialLink

open SixLoWPANd.Foundation

section Devices

variable (strerror : Errno → String)

/-- `vSL_WriteMessage` on the serial device. -/
def sendMessage (message : Message) : DeviceM Unit :=
  vSLWriteMessage (serialWrite strerror) message.u8Type message.u16Length
    fun n => message.payload.getD n 0

/-- Those of the messages sent one after another that the device accepts as a
whole. -/
def wholeMessages : List Message → SerialDevice → List Message
  | [], _ => []
  | message :: rest, device =>
      match sendMessage strerror message device with
      | .error _ => []
      | .ok (_, next) =>
          if next.accepted = device.accepted ++ encode message then
            message :: wholeMessages rest next
          else
            wholeMessages rest next

variable {strerror}

/-- A string whose writing has finished has lost some of its bytes, and that
is all. -/
theorem forM_attemptWrite_sublist {bytes : List UInt8}
    {device after : SerialDevice}
    (finished :
      forM bytes (attemptWrite strerror) device = .ok ((), after)) :
    ∃ kept, after.accepted = device.accepted ++ kept ∧
      kept.Sublist bytes := by
  induction bytes generalizing device with
  | nil =>
      cases finished
      exact ⟨[], by simp, List.Sublist.refl _⟩
  | cons u8Data rest inductionHypothesis =>
      obtain ⟨middle, ⟨-, taken⟩, later⟩ := forM_attemptWrite_cons finished
      obtain ⟨kept, stored, sublist⟩ := inductionHypothesis later
      rcases taken with ⟨-, accepted⟩ | ⟨-, accepted⟩
      · exact
          ⟨u8Data :: kept, by simp [stored, accepted],
            sublist.cons_cons u8Data⟩
      · exact ⟨kept, by rw [stored, accepted], sublist.cons u8Data⟩

theorem sendMessage_sublist {message : Message}
    {device after : SerialDevice}
    (finished : sendMessage strerror message device = .ok ((), after)) :
    ∃ kept, after.accepted = device.accepted ++ kept ∧
      kept.Sublist (encode message) := by
  have reliable : ∀ u8Data, serialWrite strerror u8Data = do
      attemptWrite strerror u8Data
      return 0 := fun _ => rfl
  rw [sendMessage, vSLWriteMessage_eq_forM reliable,
    ← encode_eq_frame] at finished
  exact forM_attemptWrite_sublist finished

end Devices

/-- A frame has one end character. -/
theorem count_slEndChar_encode (message : Message) :
    (encode message).count slEndChar = 1 := by
  have noEnd :
      (slStuffing.stuff message.content).count slEndChar = 0 :=
    List.count_eq_zero.mpr (slEndChar_notMem_stuff _)
  have start : (slStartChar == slEndChar) = false := by decide
  simp [encode_eq_frame, frame, List.count_cons, noEnd, start]

/-- Every delivery takes an end character. -/
theorem byteDeliveries_length (u16MaxLength : UInt16)
    (receiver : Receiver) (bytes : List UInt8) :
    (byteDeliveries u16MaxLength receiver bytes).length ≤
      bytes.count slEndChar := by
  induction bytes generalizing receiver with
  | nil =>
      exact Nat.le_refl 0
  | cons u8Data rest inductionHypothesis =>
      have later :=
        inductionHypothesis (receiveByte u16MaxLength receiver u8Data).2
      rw [byteDeliveries, List.length_append]
      by_cases delivers :
          (receiveByte u16MaxLength receiver u8Data).1 = true
      · obtain ⟨isEnd, -⟩ :=
          (receiveByte_fst_iff u16MaxLength receiver u8Data).mp delivers
        rw [if_pos delivers, isEnd, List.count_cons_self,
          List.length_singleton, Nat.add_comm]
        rw [isEnd] at later
        exact Nat.succ_le_succ later
      · rw [if_neg delivers, List.length_nil, Nat.zero_add]
        exact
          later.trans (List.Sublist.count_le _ (List.sublist_cons_self _ _))

/-- The messages that a device which may lose bytes accepts as a whole arrive
at the other end, in order, whatever has been lost of the others and whatever
the receiver has seen before, and no more messages arrive than are sent. -/
theorem whole_messages_arrive {strerror : Errno → String}
    {messages : List Message} {device after : SerialDevice}
    (finished :
      forM messages (sendMessage strerror) device = .ok ((), after)) :
    ∃ stream, after.accepted = device.accepted ++ stream ∧
      ∀ u16MaxLength receiver,
        (byteDeliveries u16MaxLength receiver stream).length ≤
            messages.length ∧
          ((∀ message ∈ messages, message.u16Length ≤ u16MaxLength) →
            (wholeMessages strerror messages device).Sublist
              (byteDeliveries u16MaxLength receiver stream)) := by
  induction messages generalizing device with
  | nil =>
      cases finished
      exact ⟨[], by simp, fun _ _ => ⟨Nat.le_refl 0, fun _ => .slnil⟩⟩
  | cons message rest inductionHypothesis =>
      rw [List.forM_cons] at finished
      change Except.bind (sendMessage strerror message device)
        (fun result => forM rest (sendMessage strerror) result.2) =
          _ at finished
      cases first : sendMessage strerror message device with
      | error text =>
          rw [first] at finished
          cases finished
      | ok result =>
          obtain ⟨⟨⟩, next⟩ := result
          rw [first] at finished
          obtain ⟨kept, stored, sublist⟩ := sendMessage_sublist first
          obtain ⟨stream, storedLater, arrives⟩ :=
            inductionHypothesis finished
          refine
            ⟨kept ++ stream, by rw [storedLater, stored, List.append_assoc],
              fun u16MaxLength receiver => ?_⟩
          obtain ⟨fewLater, laterArrive⟩ :=
            arrives u16MaxLength
              (run (nextReceiver u16MaxLength) receiver kept)
          rw [byteDeliveries_append]
          refine ⟨?_, fun fits => ?_⟩
          · have one :=
              (byteDeliveries_length u16MaxLength receiver kept).trans
                (sublist.count_le slEndChar)
            rw [count_slEndChar_encode] at one
            rw [List.length_append, List.length_cons]
            omega
          · have later :=
              laterArrive fun other member =>
                fits other (List.mem_cons_of_mem _ member)
            simp only [wholeMessages, first]
            split
            · rename_i whole
              have all : kept = encode message := by
                rw [stored, List.append_cancel_left_eq] at whole
                exact whole
              rw [all,
                byteDeliveries_encode u16MaxLength
                  (fits message List.mem_cons_self)]
              rw [all] at later
              exact later.cons_cons message
            · exact later.trans (List.sublist_append_right _ _)

/-- A VERSION message. -/
def reportMessage : Message := ⟨0x01, [1, 0, 0], by decide⟩

example :
    wholeMessages (fun _ => "") [emptyMessage, reportMessage]
      (deviceWith .nothing) = [reportMessage] := by
  decide

/-- The start character of the first message is lost. -/
theorem whole_messages_arrive_damaged :
    ∃ stream,
      (encode emptyMessage).tail ++ encode reportMessage = [] ++ stream ∧
        ∀ u16MaxLength receiver,
          (byteDeliveries u16MaxLength receiver stream).length ≤ 2 ∧
            ((∀ message ∈ [emptyMessage, reportMessage],
                message.u16Length ≤ u16MaxLength) →
              (wholeMessages (fun _ => "") [emptyMessage, reportMessage]
                (deviceWith .nothing)).Sublist
                  (byteDeliveries u16MaxLength receiver stream)) :=
  @whole_messages_arrive (fun _ => "") [emptyMessage, reportMessage]
    (deviceWith .nothing)
    { deviceWith .nothing with
      used := 8 + (encode reportMessage).length
      accepted := (encode emptyMessage).tail ++ encode reportMessage }
    rfl

end SixLoWPANd.SerialLink
