import Mathlib.Data.List.Basic

/-!
# Keyed writes

Writes are given as a list of keys and values, in the order in which they are
made.  Under each key the last value stays, whatever is written under the other
keys, so lists that agree key by key are as good as each other.  Keys may be
grouped into kinds.
-/

namespace SixLoWPANd.Foundation

universe u v w x

variable {Key : Type u} {Value : Type v} {Result : Type w}
variable {Kind : Type x} [DecidableEq Kind]

/-- The writes of a kind. -/
def writesOf (kind : Key → Kind) (selected : Kind)
    (writes : List (Key × Value)) : List (Key × Value) :=
  writes.filter fun write => decide (kind write.1 = selected)

/-- The writes of each kind are the same, in the same order. -/
def AgreeByKind (kind : Key → Kind) (writes others : List (Key × Value)) :
    Prop :=
  ∀ selected, writesOf kind selected writes = writesOf kind selected others

variable {kind : Key → Kind}

theorem writesOf_cons_of_eq {key : Key} {selected : Kind}
    (same : kind key = selected) (value : Value)
    (rest : List (Key × Value)) :
    writesOf kind selected ((key, value) :: rest) =
      (key, value) :: writesOf kind selected rest := by
  simp [writesOf, same]

theorem writesOf_cons_of_ne {key : Key} {selected : Kind}
    (other : kind key ≠ selected) (value : Value)
    (rest : List (Key × Value)) :
    writesOf kind selected ((key, value) :: rest) =
      writesOf kind selected rest := by
  simp [writesOf, other]

/-- The same writes occur in both. -/
theorem AgreeByKind.mem_iff {writes others : List (Key × Value)}
    (agree : AgreeByKind kind writes others) (write : Key × Value) :
    write ∈ writes ↔ write ∈ others := by
  have mem (writes : List (Key × Value)) :
      write ∈ writesOf kind (kind write.1) writes ↔ write ∈ writes := by
    simp [writesOf]
  rw [← mem writes, agree (kind write.1), mem others]

/-- Neighbouring writes of different kinds may be exchanged. -/
theorem agreeByKind_swap {write other : Key × Value}
    (different : kind write.1 ≠ kind other.1)
    (earlier later : List (Key × Value)) :
    AgreeByKind kind (earlier ++ write :: other :: later)
      (earlier ++ other :: write :: later) := by
  intro selected
  unfold writesOf
  rw [List.filter_append, List.filter_append]
  congr 1
  by_cases isWrite : kind write.1 = selected
  · have notOther : kind other.1 ≠ selected :=
      fun isOther => different (isWrite.trans isOther.symm)
    simp [isWrite, notOther]
  · simp [List.filter_cons, isWrite]

section LastWritten

variable [DecidableEq Key]

/-- What the last value under the key is read as, or else what was there. -/
def lastWritten (key : Key) (read : Value → Result) (before : Result) :
    List (Key × Value) → Result
  | [] => before
  | (written, value) :: rest =>
      lastWritten key read (if written = key then read value else before)
        rest

variable (key : Key) (read : Value → Result) (before : Result)

@[simp]
theorem lastWritten_nil : lastWritten key read before [] = before := rfl

@[simp]
theorem lastWritten_cons (written : Key) (value : Value)
    (rest : List (Key × Value)) :
    lastWritten key read before ((written, value) :: rest) =
      lastWritten key read
        (if written = key then read value else before) rest := rfl

theorem lastWritten_append (earlier later : List (Key × Value)) :
    lastWritten key read before (earlier ++ later) =
      lastWritten key read (lastWritten key read before earlier)
        later := by
  induction earlier generalizing before with
  | nil =>
      rfl
  | cons write rest inductionHypothesis =>
      exact inductionHypothesis _

/-- Only the writes of the kind of the key matter. -/
theorem lastWritten_writesOf (writes : List (Key × Value)) :
    lastWritten key read before (writesOf kind (kind key) writes) =
      lastWritten key read before writes := by
  induction writes generalizing before with
  | nil =>
      rfl
  | cons write rest inductionHypothesis =>
      obtain ⟨written, value⟩ := write
      by_cases sameKind : kind written = kind key
      · rw [writesOf_cons_of_eq sameKind, lastWritten_cons,
          lastWritten_cons, inductionHypothesis]
      · have other : written ≠ key :=
          fun same => sameKind (congrArg kind same)
        rw [writesOf_cons_of_ne sameKind, lastWritten_cons,
          if_neg other, inductionHypothesis]

theorem AgreeByKind.lastWritten_eq {writes others : List (Key × Value)}
    (agree : AgreeByKind kind writes others) :
    lastWritten key read before writes =
      lastWritten key read before others := by
  rw [← @lastWritten_writesOf _ _ _ _ _ kind _ key read before writes,
    agree (kind key), lastWritten_writesOf]

end LastWritten

end SixLoWPANd.Foundation
