import SixLoWPANd.Foundation.Numerals

/-!
# Conversion of strings to numbers

`strtoul` with base zero and a 64-bit `unsigned long`, and `atoi`, as the C
standard describes them.  A string is given by the characters in front of its
terminator, so `*pcEnd` is the terminator exactly if nothing is left of it.

`SignedLiteral` is what `strtoul` reads: white space, an optional sign and an
unsigned literal.  A string is used up exactly if it has this form or is empty.
-/

namespace SixLoWPANd.CommandLine

open SixLoWPANd.Foundation

/-! ## The functions -/

/-- Space, or one of the control characters from tabulator to carriage
return. -/
def isspace (c : Char) : Bool :=
  c.toNat = 32 ∨ (9 ≤ c.toNat ∧ c.toNat ≤ 13)

/-- Whether a minus sign is in front, and what is behind the sign. -/
def scanSign : List Char → Bool × List Char
  | '-' :: rest => (true, rest)
  | '+' :: rest => (false, rest)
  | chars => (false, chars)

def ulongMax : UInt64 := 0xFFFFFFFFFFFFFFFF

/-- The result of a conversion: its value, the rest of the string, and whether
`errno` is set to `ERANGE`. -/
structure Conversion where
  value : UInt64
  pcEnd : List Char
  erange : Bool
  deriving DecidableEq

/-- The value of a literal of the magnitude behind the sign. -/
def signedValue (negative : Bool) (magnitude : Nat) : UInt64 :=
  if negative then 0 - UInt64.ofNat magnitude else UInt64.ofNat magnitude

def strtoul (nptr : List Char) : Conversion :=
  let sign := scanSign (nptr.dropWhile isspace)
  match scanLiteral sign.2 with
  | none => ⟨0, nptr, false⟩
  | some (magnitude, pcEnd) =>
      if magnitude < 18446744073709551616 then
        ⟨signedValue sign.1 magnitude, pcEnd, false⟩
      else
        ⟨ulongMax, pcEnd, true⟩

/-- The value of `strtol` with base ten, which is a `long`, converted to
`int`. -/
def atoi (nptr : List Char) : Int :=
  let sign := scanSign (nptr.dropWhile isspace)
  match scanNumeral 10 sign.2 with
  | none => 0
  | some (magnitude, _) =>
      let value : Int := if sign.1 then -magnitude else magnitude
      let saturated :=
        max (-9223372036854775808) (min 9223372036854775807 value)
      (saturated + 2147483648) % 4294967296 - 2147483648

/-! ## What is read -/

/-- The string is white space, an optional sign and a literal of the
magnitude. -/
structure SignedLiteral (nptr blanks sign : List Char) (magnitude : Nat) :
    Prop where
  blank : ∀ c ∈ blanks, isspace c = true
  signed : sign = [] ∨ sign = ['+'] ∨ sign = ['-']
  literal : ∃ digits, nptr = blanks ++ (sign ++ digits) ∧
    Literal digits magnitude

/-- A decimal digit is neither white space nor a sign. -/
theorem digit_plain {digit : Char} (isDigit : isDigitOf 10 digit = true) :
    isspace digit = false ∧ digit ≠ '+' ∧ digit ≠ '-' := by
  have small : digitValue digit < 10 := by
    simpa [isDigitOf] using isDigit
  have range : '0' ≤ digit ∧ digit ≤ '9' := by
    unfold digitValue at small
    split at small
    · assumption
    · split at small
      · omega
      · split at small <;> omega
  obtain ⟨lower, upper⟩ := range
  have lower : 48 ≤ digit.toNat := UInt32.le_iff_toNat_le.mp lower
  have upper : digit.toNat ≤ 57 := UInt32.le_iff_toNat_le.mp upper
  refine ⟨?_, ?_, ?_⟩
  · simp only [isspace, decide_eq_false_iff_not]
    omega
  · rintro rfl
    exact absurd lower (by decide)
  · rintro rfl
    exact absurd lower (by decide)

/-- In front of a digit white space ends and no sign is taken. -/
theorem scanSign_digit {digit : Char} (isDigit : isDigitOf 10 digit = true)
    (rest : List Char) :
    scanSign (digit :: rest) = (false, digit :: rest) := by
  obtain ⟨-, notPlus, notMinus⟩ := digit_plain isDigit
  unfold scanSign
  split
  · rename_i equal
    simp only [List.cons.injEq] at equal
    exact absurd equal.1 notMinus
  · rename_i equal
    simp only [List.cons.injEq] at equal
    exact absurd equal.1 notPlus
  · rfl

theorem dropWhile_blanks {blanks : List Char}
    (blank : ∀ c ∈ blanks, isspace c = true) {first : Char}
    (plain : isspace first = false) (rest : List Char) :
    (blanks ++ first :: rest).dropWhile isspace = first :: rest := by
  rw [List.dropWhile_append, List.dropWhile_eq_nil_iff.mpr blank]
  simp [plain]

theorem strtoul_signedLiteral {nptr blanks sign : List Char}
    {magnitude : Nat}
    (signedLiteral : SignedLiteral nptr blanks sign magnitude) :
    strtoul nptr =
      if magnitude < 18446744073709551616 then
        ⟨signedValue (sign = ['-']) magnitude, [], false⟩
      else
        ⟨ulongMax, [], true⟩ := by
  obtain ⟨blank, signed, digits, rfl, literal⟩ := signedLiteral
  have scanned := scanLiteral_literal literal
  obtain ⟨digit, rest, rfl, isDigit⟩ := literal.head_digit
  have read :
      scanSign ((blanks ++ (sign ++ digit :: rest)).dropWhile isspace) =
        (decide (sign = ['-']), digit :: rest) := by
    rcases signed with rfl | rfl | rfl
    · rw [List.nil_append,
        dropWhile_blanks blank (digit_plain isDigit).1,
        scanSign_digit isDigit]
      rfl
    · rw [List.singleton_append, dropWhile_blanks blank (by decide)]
      rfl
    · rw [List.singleton_append, dropWhile_blanks blank (by decide)]
      rfl
  simp only [strtoul, read, scanned]

/-- A string that is used up is empty or a signed literal. -/
theorem signedLiteral_of_strtoul {nptr : List Char}
    (usedUp : (strtoul nptr).pcEnd = []) :
    nptr = [] ∨ ∃ blanks sign magnitude,
      SignedLiteral nptr blanks sign magnitude := by
  unfold strtoul at usedUp
  dsimp only at usedUp
  split at usedUp
  · exact Or.inl usedUp
  · rename_i magnitude pcEnd scanned
    have nothing : pcEnd = [] := by
      split at usedUp
      · exact usedUp
      · exact usedUp
    subst nothing
    have literal := literal_of_scan scanned
    have blank : ∀ c ∈ nptr.takeWhile isspace, isspace c = true :=
      fun c member => List.mem_takeWhile_imp member
    have split : nptr =
        nptr.takeWhile isspace ++ nptr.dropWhile isspace :=
      List.takeWhile_append_dropWhile.symm
    right
    unfold scanSign at literal
    split at literal
    · rename_i rest start
      rw [start] at split
      exact
        ⟨_, ['-'], magnitude, blank, Or.inr (Or.inr rfl), rest, split,
          literal⟩
    · rename_i rest start
      rw [start] at split
      exact
        ⟨_, ['+'], magnitude, blank, Or.inr (Or.inl rfl), rest, split,
          literal⟩
    · exact ⟨_, [], magnitude, blank, Or.inl rfl, _, split, literal⟩

end SixLoWPANd.CommandLine
