import Mathlib.Data.List.Basic
import Mathlib.Data.List.Range
import Mathlib.Logic.Function.Basic

/-!
# Traced memory

A memory maps every cell index to a value and remembers which cells have been
read and which have been written.  Reading and writing are total: what a
program does to the cells it may touch and which cells it does touch are two
separate questions, and both are answered by the same execution.

The logs are ordered newest first.
-/

namespace SixLoWPANd.Foundation

universe u

/-- Cells of type `α` together with the log of the accesses made so far. -/
structure TracedMemory (α : Type u) where
  cells : Nat → α
  reads : List Nat
  writes : List Nat

namespace TracedMemory

variable {α : Type u}

/-- Memory with the displayed cells and no access made yet. -/
def untouched (cells : Nat → α) : TracedMemory α :=
  { cells := cells, reads := [], writes := [] }

/-- Memory that starts with `items` and holds `filler` everywhere else. -/
def ofList (items : List α) (filler : α) : TracedMemory α :=
  untouched fun index => items.getD index filler

def load (memory : TracedMemory α) (index : Nat) : α × TracedMemory α :=
  (memory.cells index, { memory with reads := index :: memory.reads })

def store (memory : TracedMemory α) (index : Nat) (item : α) :
    TracedMemory α :=
  { memory with
    cells := Function.update memory.cells index item
    writes := index :: memory.writes }

/-- Read `count` consecutive cells in ascending order. -/
def loadRange (memory : TracedMemory α) (start : Nat) :
    Nat → List α × TracedMemory α
  | 0 => ([], memory)
  | count + 1 =>
      let earlier := memory.loadRange start count
      let last := earlier.2.load (start + count)
      (earlier.1 ++ [last.1], last.2)

/-- Read cells in ascending order up to the first one at which `stop` holds,
which is read but not returned.  At most `fuel` cells are read. -/
def loadUntil (stop : α → Bool) :
    Nat → Nat → TracedMemory α → List α × TracedMemory α
  | 0, _, memory => ([], memory)
  | fuel + 1, index, memory =>
      let current := memory.load index
      if stop current.1 then
        ([], current.2)
      else
        let later := loadUntil stop fuel (index + 1) current.2
        (current.1 :: later.1, later.2)

def contents (memory : TracedMemory α) (count : Nat) : List α :=
  (List.range count).map memory.cells

@[simp]
theorem load_fst (memory : TracedMemory α) (index : Nat) :
    (memory.load index).1 = memory.cells index := rfl

@[simp]
theorem load_cells (memory : TracedMemory α) (index : Nat) :
    (memory.load index).2.cells = memory.cells := rfl

@[simp]
theorem load_reads (memory : TracedMemory α) (index : Nat) :
    (memory.load index).2.reads = index :: memory.reads := rfl

@[simp]
theorem load_writes (memory : TracedMemory α) (index : Nat) :
    (memory.load index).2.writes = memory.writes := rfl

@[simp]
theorem store_cells
    (memory : TracedMemory α) (index : Nat) (item : α) :
    (memory.store index item).cells =
      Function.update memory.cells index item := rfl

@[simp]
theorem store_reads
    (memory : TracedMemory α) (index : Nat) (item : α) :
    (memory.store index item).reads = memory.reads := rfl

@[simp]
theorem store_writes
    (memory : TracedMemory α) (index : Nat) (item : α) :
    (memory.store index item).writes = index :: memory.writes := rfl

@[simp]
theorem untouched_cells (cells : Nat → α) :
    (untouched cells).cells = cells := rfl

@[simp]
theorem contents_length (memory : TracedMemory α) (count : Nat) :
    (memory.contents count).length = count := by
  simp [contents]

theorem contents_succ (memory : TracedMemory α) (count : Nat) :
    memory.contents (count + 1) =
      memory.contents count ++ [memory.cells count] := by
  simp [contents, List.range_succ]

/-- An item stored behind the contents extends them. -/
theorem contents_store
    (memory : TracedMemory α) (count : Nat) (item : α) :
    (memory.store count item).contents (count + 1) =
      memory.contents count ++ [item] := by
  have others : (memory.store count item).contents count =
      memory.contents count := by
    apply List.map_congr_left
    intro index member
    have below : index ≠ count := by
      have bound := List.mem_range.mp member
      omega
    simp [below]
  rw [contents_succ, others]
  simp

/-- Memory whose first cells are the members of `items` holds exactly
`items` there. -/
theorem contents_eq
    {memory : TracedMemory α} {items : List α}
    (agree : ∀ index (bound : index < items.length),
      memory.cells index = items[index]) :
    memory.contents items.length = items := by
  apply List.ext_getElem
  · simp
  · intro index _ bound
    simpa [contents] using agree index bound

@[simp]
theorem loadRange_cells
    (memory : TracedMemory α) (start count : Nat) :
    (memory.loadRange start count).2.cells = memory.cells := by
  induction count with
  | zero =>
      rfl
  | succ count inductionHypothesis =>
      simpa [loadRange] using inductionHypothesis

@[simp]
theorem loadRange_fst
    (memory : TracedMemory α) (start count : Nat) :
    (memory.loadRange start count).1 =
      (List.range count).map fun offset =>
        memory.cells (start + offset) := by
  induction count with
  | zero =>
      rfl
  | succ count inductionHypothesis =>
      simp [loadRange, inductionHypothesis, List.range_succ]

@[simp]
theorem loadRange_writes
    (memory : TracedMemory α) (start count : Nat) :
    (memory.loadRange start count).2.writes = memory.writes := by
  induction count with
  | zero =>
      rfl
  | succ count inductionHypothesis =>
      simpa [loadRange] using inductionHypothesis

/-- Reading a range reads its cells and no others. -/
theorem mem_loadRange_reads
    (memory : TracedMemory α) (start count index : Nat) :
    index ∈ (memory.loadRange start count).2.reads ↔
      (start ≤ index ∧ index < start + count) ∨ index ∈ memory.reads := by
  induction count with
  | zero =>
      simp only [loadRange, Nat.add_zero]
      constructor
      · exact Or.inr
      · rintro (⟨above, below⟩ | earlier)
        · omega
        · exact earlier
  | succ count inductionHypothesis =>
      simp only [loadRange, load_reads, List.mem_cons,
        inductionHypothesis]
      constructor
      · rintro (rfl | within | earlier)
        · exact Or.inl ⟨by omega, by omega⟩
        · exact Or.inl ⟨within.1, by omega⟩
        · exact Or.inr earlier
      · rintro (within | earlier)
        · by_cases last : index = start + count
          · exact Or.inl last
          · exact Or.inr (Or.inl ⟨within.1, by omega⟩)
        · exact Or.inr (Or.inr earlier)

@[simp]
theorem loadUntil_cells
    (stop : α → Bool) (fuel index : Nat) (memory : TracedMemory α) :
    (loadUntil stop fuel index memory).2.cells = memory.cells := by
  induction fuel generalizing index memory with
  | zero =>
      rfl
  | succ fuel inductionHypothesis =>
      simp only [loadUntil]
      split
      · rfl
      · simp [inductionHypothesis]

@[simp]
theorem loadUntil_writes
    (stop : α → Bool) (fuel index : Nat) (memory : TracedMemory α) :
    (loadUntil stop fuel index memory).2.writes = memory.writes := by
  induction fuel generalizing index memory with
  | zero =>
      rfl
  | succ fuel inductionHypothesis =>
      simp only [loadUntil]
      split
      · rfl
      · simp [inductionHypothesis]

/-- A scan reads the cells before which it has not stopped. -/
theorem mem_loadUntil_reads
    {stop : α → Bool} {fuel start : Nat} (memory : TracedMemory α)
    (index : Nat) :
    index ∈ (loadUntil stop fuel start memory).2.reads ↔
      (start ≤ index ∧ index < start + fuel ∧
          ∀ earlier, start ≤ earlier → earlier < index →
            stop (memory.cells earlier) = false) ∨
        index ∈ memory.reads := by
  induction fuel generalizing start memory with
  | zero =>
      constructor
      · exact Or.inr
      · rintro (⟨above, below, -⟩ | earlier)
        · omega
        · exact earlier
  | succ fuel inductionHypothesis =>
      by_cases halted : stop (memory.cells start) = true
      · simp only [loadUntil, load_fst, halted, if_true, load_reads,
          List.mem_cons]
        constructor
        · rintro (rfl | earlier)
          · exact Or.inl ⟨Nat.le_refl _, by omega, by omega⟩
          · exact Or.inr earlier
        · rintro (⟨above, below, running⟩ | earlier)
          · left
            by_contra beyond
            have went := running start (Nat.le_refl _) (by omega)
            simp [halted] at went
          · exact Or.inr earlier
      · have goesOn : stop (memory.cells start) = false := by
          simpa using halted
        simp only [loadUntil, load_fst, goesOn, Bool.false_eq_true,
          if_false, inductionHypothesis, load_cells, load_reads,
          List.mem_cons]
        constructor
        · rintro (⟨above, below, running⟩ | rfl | earlier)
          · refine Or.inl ⟨by omega, by omega, ?_⟩
            intro other from_start before
            by_cases first : other = start
            · rw [first]
              exact goesOn
            · exact running other (by omega) before
          · exact Or.inl ⟨Nat.le_refl _, by omega, by omega⟩
          · exact Or.inr earlier
        · rintro (⟨above, below, running⟩ | earlier)
          · by_cases first : index = start
            · exact Or.inr (Or.inl first)
            · refine Or.inl ⟨by omega, by omega, ?_⟩
              intro other behind before
              exact running other (by omega) before
          · exact Or.inr (Or.inr earlier)

/-- A scan depends on the cells only, not on earlier accesses. -/
theorem loadUntil_fst_of_cells
    {stop : α → Bool} {first second : TracedMemory α}
    (same : first.cells = second.cells) (fuel start : Nat) :
    (loadUntil stop fuel start first).1 =
      (loadUntil stop fuel start second).1 := by
  induction fuel generalizing start first second with
  | zero =>
      rfl
  | succ fuel inductionHypothesis =>
      have later :
          (loadUntil stop fuel (start + 1) (first.load start).2).1 =
            (loadUntil stop fuel (start + 1) (second.load start).2).1 := by
        apply inductionHypothesis
        exact same
      by_cases halted : stop (second.cells start) = true
      · simp [loadUntil, same, halted]
      · simp [loadUntil, same, halted, later]

/-- Two memories that agree up to a cell at which the scan stops give the same
scan. -/
theorem loadUntil_fst_congr
    {stop : α → Bool} (first second : TracedMemory α)
    {fuel start last : Nat}
    (agree : ∀ index ≤ last, first.cells index = second.cells index)
    (stops : stop (first.cells last) = true)
    (reached : start ≤ last) :
    (loadUntil stop fuel start first).1 =
      (loadUntil stop fuel start second).1 := by
  induction fuel generalizing start first second with
  | zero =>
      rfl
  | succ fuel inductionHypothesis =>
      have same : first.cells start = second.cells start :=
        agree start reached
      by_cases halted : stop (second.cells start) = true
      · simp [loadUntil, same, halted]
      · have notLast : start ≠ last := by
          intro equal
          rw [← equal, same] at stops
          exact halted stops
        have later :
            (loadUntil stop fuel (start + 1) (first.load start).2).1 =
              (loadUntil stop fuel (start + 1) (second.load start).2).1 :=
          inductionHypothesis
            (first.load start).2 (second.load start).2
            (by simpa using agree) (by simpa using stops) (by omega)
        simp [loadUntil, same, halted, later]

end TracedMemory

end SixLoWPANd.Foundation
