import Mathlib.Data.List.Basic

/-!
# Byte stuffing

A stuffing code never sends a `special` item plainly: it sends the escape item
followed by a masked copy.  The receiver drops escape items and unmasks the
item that follows them.  The receiver is defined on every input, so that it can
also be run on strings that no sender produces.
-/

namespace SixLoWPANd.Foundation

universe u

/-- A stuffing code over the alphabet `α`. -/
structure Stuffing (α : Type u) where
  escape : α
  mask : α → α
  special : α → Bool
  mask_mask : ∀ item, mask (mask item) = item
  special_escape : special escape = true
  mask_plain : ∀ item, special item = true → special (mask item) = false

namespace Stuffing

variable {α : Type u} (code : Stuffing α)

/-- What the sender emits for one item. -/
def stuffItem (item : α) : List α :=
  if code.special item then [code.escape, code.mask item] else [item]

/-- What the sender emits for a list of items. -/
def stuff (items : List α) : List α :=
  items.flatMap code.stuffItem

private theorem ne_escape_of_plain
    {item : α} (plain : code.special item = false) :
    item ≠ code.escape := by
  intro equal
  rw [equal, code.special_escape] at plain
  cases plain

/-- The only special item a sender emits is the escape item. -/
theorem eq_escape_of_mem_stuff
    {item : α} {items : List α}
    (member : item ∈ code.stuff items)
    (special : code.special item = true) :
    item = code.escape := by
  obtain ⟨source, _, emitted⟩ := List.mem_flatMap.mp member
  unfold stuffItem at emitted
  split at emitted
  · rename_i sourceSpecial
    simp only [List.mem_cons, List.not_mem_nil, or_false] at emitted
    rcases emitted with equal | equal
    · exact equal
    · have plain := code.mask_plain source sourceSpecial
      rw [equal, plain] at special
      cases special
  · rename_i sourcePlain
    rw [List.mem_singleton] at emitted
    rw [emitted] at special
    exact absurd special sourcePlain

variable [DecidableEq α]

/-- What the receiver decodes; the flag says that an escape item is pending. -/
def unstuff : Bool → List α → List α
  | _, [] => []
  | inEsc, item :: rest =>
      if item = code.escape then
        unstuff true rest
      else
        (if inEsc then code.mask item else item) :: unstuff false rest

/-- Whether an escape item is still pending after the given string. -/
def pending : Bool → List α → Bool
  | inEsc, [] => inEsc
  | _, item :: rest => pending (decide (item = code.escape)) rest

@[simp]
theorem unstuff_nil (inEsc : Bool) : code.unstuff inEsc [] = [] := rfl

@[simp]
theorem unstuff_escape (inEsc : Bool) (rest : List α) :
    code.unstuff inEsc (code.escape :: rest) = code.unstuff true rest := by
  simp [unstuff]

theorem unstuff_cons_of_ne
    {item : α} (plain : item ≠ code.escape)
    (inEsc : Bool) (rest : List α) :
    code.unstuff inEsc (item :: rest) =
      (if inEsc then code.mask item else item) ::
        code.unstuff false rest := by
  simp [unstuff, plain]

/-- The receiver decodes a string piece by piece; what it keeps in between is
whether an escape item is pending. -/
theorem unstuff_append (inEsc : Bool) (earlier later : List α) :
    code.unstuff inEsc (earlier ++ later) =
      code.unstuff inEsc earlier ++
        code.unstuff (code.pending inEsc earlier) later := by
  induction earlier generalizing inEsc with
  | nil =>
      rfl
  | cons item rest inductionHypothesis =>
      by_cases isEscape : item = code.escape
      · subst isEscape
        simp [pending, inductionHypothesis]
      · simp [pending, isEscape, unstuff_cons_of_ne, inductionHypothesis]

theorem pending_append (inEsc : Bool) (earlier later : List α) :
    code.pending inEsc (earlier ++ later) =
      code.pending (code.pending inEsc earlier) later := by
  induction earlier generalizing inEsc with
  | nil =>
      rfl
  | cons item rest inductionHypothesis =>
      simp [pending, inductionHypothesis]

/-- The receiver recovers one stuffed item and is left without a pending
escape. -/
theorem unstuff_stuffItem (item : α) (rest : List α) :
    code.unstuff false (code.stuffItem item ++ rest) =
      item :: code.unstuff false rest := by
  by_cases special : code.special item = true
  · have maskedPlain : code.mask item ≠ code.escape :=
      code.ne_escape_of_plain (code.mask_plain item special)
    simp [stuffItem, special, code.unstuff_cons_of_ne maskedPlain,
      code.mask_mask]
  · have plain : item ≠ code.escape :=
      code.ne_escape_of_plain (by simpa using special)
    simp [stuffItem, special, code.unstuff_cons_of_ne plain]

theorem unstuff_stuff (items : List α) :
    code.unstuff false (code.stuff items) = items := by
  induction items with
  | nil =>
      rfl
  | cons item rest inductionHypothesis =>
      have step := code.unstuff_stuffItem item (code.stuff rest)
      rw [inductionHypothesis] at step
      simpa [stuff] using step

end Stuffing

end SixLoWPANd.Foundation
