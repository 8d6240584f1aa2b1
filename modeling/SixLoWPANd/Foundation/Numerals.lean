import Mathlib.Data.List.TakeWhile
import Mathlib.Tactic.IntervalCases

/-!
# Numerals and integer literals

A numeral of a base is a non-empty string of its digits.  An unsigned integer
literal chooses its base by its beginning: `0x` or `0X` in front of a
hexadecimal digit, a leading zero for an octal numeral, any other digit for a
decimal one.  `scanLiteral` reads the longest literal at the beginning of a
string, and it reads the whole string exactly if the string is a literal.

Printed numbers are literals: `Nat.toDigits` prints a numeral of its base, and
leading zeros do not change its value.
-/

namespace SixLoWPANd.Foundation

/-! ## Numerals -/

/-- The value of a digit; letters of either case follow the decimal digits, and
other characters are not digits of any base up to 36. -/
def digitValue (digit : Char) : Nat :=
  if '0' ≤ digit ∧ digit ≤ '9' then
    digit.toNat - '0'.toNat
  else if 'a' ≤ digit ∧ digit ≤ 'z' then
    digit.toNat - 'a'.toNat + 10
  else if 'A' ≤ digit ∧ digit ≤ 'Z' then
    digit.toNat - 'A'.toNat + 10
  else
    36

def isDigitOf (base : Nat) (digit : Char) : Bool :=
  digitValue digit < base

def numeralValue (base : Nat) (digits : List Char) : Nat :=
  digits.foldl (fun value digit => base * value + digitValue digit) 0

/-- A non-empty string of digits. -/
def IsNumeral (base : Nat) (digits : List Char) : Prop :=
  digits ≠ [] ∧ ∀ digit ∈ digits, isDigitOf base digit = true

/-- The longest numeral at the beginning of a string, by its value and what is
behind it. -/
def scanNumeral (base : Nat) (chars : List Char) :
    Option (Nat × List Char) :=
  if chars.takeWhile (isDigitOf base) = [] then
    none
  else
    some
      (numeralValue base (chars.takeWhile (isDigitOf base)),
        chars.dropWhile (isDigitOf base))

theorem scanNumeral_numeral {base : Nat} {digits : List Char}
    (isNumeral : IsNumeral base digits) :
    scanNumeral base digits = some (numeralValue base digits, []) := by
  have whole : digits.takeWhile (isDigitOf base) = digits :=
    List.takeWhile_eq_self_iff.mpr isNumeral.2
  have nothing : digits.dropWhile (isDigitOf base) = [] :=
    List.dropWhile_eq_nil_iff.mpr isNumeral.2
  rw [scanNumeral, whole, nothing, if_neg isNumeral.1]

/-- A scan to the end has read a numeral. -/
theorem isNumeral_of_scan {base value : Nat} {chars : List Char}
    (scanned : scanNumeral base chars = some (value, [])) :
    IsNumeral base chars ∧ numeralValue base chars = value := by
  unfold scanNumeral at scanned
  split at scanned
  · cases scanned
  · rename_i nonempty
    simp only [Option.some.injEq, Prod.mk.injEq] at scanned
    have digits := List.dropWhile_eq_nil_iff.mp scanned.2
    have whole : chars.takeWhile (isDigitOf base) = chars :=
      List.takeWhile_eq_self_iff.mpr digits
    rw [whole] at nonempty scanned
    exact ⟨⟨nonempty, digits⟩, scanned.1⟩

/-! ## Printed numbers -/

theorem digitValue_digitChar {digit : Nat} (below : digit < 16) :
    digitValue digit.digitChar = digit := by
  interval_cases digit <;> decide

theorem isDigitOf_digitChar {base digit : Nat} (small : base ≤ 16)
    (below : digit < base) : isDigitOf base digit.digitChar = true := by
  rw [isDigitOf, digitValue_digitChar (by omega), decide_eq_true_eq]
  exact below

/-- A number is printed as a numeral with its value. -/
theorem toDigits_numeral {base : Nat} (proper : 1 < base)
    (small : base ≤ 16) (number : Nat) :
    (∀ digit ∈ Nat.toDigits base number, isDigitOf base digit = true) ∧
      numeralValue base (Nat.toDigits base number) = number := by
  induction number using Nat.strongRecOn with
  | ind number inductionHypothesis =>
      by_cases single : number < base
      · rw [Nat.toDigits_of_lt_base single]
        have value := digitValue_digitChar (Nat.lt_of_lt_of_le single small)
        constructor
        · intro digit member
          rw [List.mem_singleton.mp member]
          exact isDigitOf_digitChar small single
        · simp [numeralValue, value]
      · have smaller : number / base < number :=
          Nat.div_lt_self (by omega) proper
        have last : number % base < base := Nat.mod_lt _ (by omega)
        obtain ⟨digits, value⟩ := inductionHypothesis _ smaller
        rw [Nat.toDigits_of_base_le proper (by omega)]
        constructor
        · intro digit member
          rcases List.mem_append.mp member with front | back
          · exact digits digit front
          · rw [List.mem_singleton.mp back]
            exact isDigitOf_digitChar small last
        · unfold numeralValue at value ⊢
          rw [List.foldl_append, value]
          simp only [List.foldl_cons, List.foldl_nil]
          rw [digitValue_digitChar (by omega)]
          exact Nat.div_add_mod number base

/-- Leading zeros do not change the value. -/
theorem numeralValue_zeros (base count : Nat) (digits : List Char) :
    numeralValue base (List.replicate count '0' ++ digits) =
      numeralValue base digits := by
  have zero : digitValue '0' = 0 := by decide
  induction count with
  | zero =>
      rfl
  | succ count inductionHypothesis =>
      unfold numeralValue at inductionHypothesis ⊢
      simpa [List.replicate_succ, zero] using inductionHypothesis

/-- A number printed with leading zeros is a numeral with its value. -/
theorem paddedDigits_numeral {base : Nat} (proper : 1 < base)
    (small : base ≤ 16) (count number : Nat) :
    IsNumeral base
        (List.replicate count '0' ++ Nat.toDigits base number) ∧
      numeralValue base
          (List.replicate count '0' ++ Nat.toDigits base number) =
        number := by
  obtain ⟨digits, value⟩ := toDigits_numeral proper small number
  refine ⟨⟨by simp, ?_⟩, by rw [numeralValue_zeros, value]⟩
  intro digit member
  rcases List.mem_append.mp member with padding | printed
  · have zero : digitValue '0' = 0 := by decide
    rw [(List.mem_replicate.mp padding).2, isDigitOf, zero,
      decide_eq_true_eq]
    omega
  · exact digits digit printed

/-! ## Literals -/

/-- The characters are an unsigned integer literal of the value. -/
inductive Literal : List Char → Nat → Prop where
  | decimal {digits : List Char} (isNumeral : IsNumeral 10 digits)
      (leading : digits.head? ≠ some '0') :
      Literal digits (numeralValue 10 digits)
  | octal {digits : List Char} (isNumeral : IsNumeral 8 ('0' :: digits)) :
      Literal ('0' :: digits) (numeralValue 8 ('0' :: digits))
  | hexadecimal {x : Char} {digits : List Char}
      (isNumeral : IsNumeral 16 digits) (isPrefix : x = 'x' ∨ x = 'X') :
      Literal ('0' :: x :: digits) (numeralValue 16 digits)

/-- What is behind a hexadecimal prefix, if a digit is. -/
def behindHexPrefix : List Char → Option (List Char)
  | zero :: x :: digit :: rest =>
      if zero = '0' ∧ (x = 'x' ∨ x = 'X') ∧ isDigitOf 16 digit = true then
        some (digit :: rest)
      else
        none
  | _ => none

/-- The longest literal at the beginning of a string, by its value and what is
behind it. -/
def scanLiteral (chars : List Char) : Option (Nat × List Char) :=
  match behindHexPrefix chars with
  | some digits => scanNumeral 16 digits
  | none =>
      if chars.head? = some '0' then
        scanNumeral 8 chars
      else
        scanNumeral 10 chars

/-- No numeral of a base up to ten has a hexadecimal prefix. -/
theorem behindHexPrefix_numeral {base : Nat} (small : base ≤ 10)
    {digits : List Char} (isNumeral : IsNumeral base digits) :
    behindHexPrefix digits = none := by
  match digits, isNumeral with
  | [], _ => rfl
  | [_], _ => rfl
  | [_, _], _ => rfl
  | zero :: x :: digit :: rest, isNumeral =>
      have second : isDigitOf base x = true := isNumeral.2 x (by simp)
      have noPrefix : ¬ (x = 'x' ∨ x = 'X') := by
        have below : digitValue x < base := by
          simpa [isDigitOf] using second
        rintro (rfl | rfl)
        · have value : digitValue 'x' = 33 := by decide
          omega
        · have value : digitValue 'X' = 33 := by decide
          omega
      simp [behindHexPrefix, noPrefix]

/-- A literal is scanned to its end. -/
theorem scanLiteral_literal {chars : List Char} {value : Nat}
    (literal : Literal chars value) :
    scanLiteral chars = some (value, []) := by
  cases literal with
  | decimal isNumeral leading =>
      rw [scanLiteral, behindHexPrefix_numeral (by omega) isNumeral]
      simp only [leading, if_false]
      exact scanNumeral_numeral isNumeral
  | octal isNumeral =>
      rw [scanLiteral, behindHexPrefix_numeral (by omega) isNumeral]
      simp only [List.head?_cons, if_true]
      exact scanNumeral_numeral isNumeral
  | @hexadecimal x digits isNumeral isPrefix =>
      have behind :
          behindHexPrefix ('0' :: x :: digits) = some digits := by
        match digits, isNumeral with
        | digit :: rest, isNumeral =>
            have first : isDigitOf 16 digit = true :=
              isNumeral.2 digit (by simp)
            simp [behindHexPrefix, isPrefix, first]
        | [], isNumeral =>
            exact absurd rfl isNumeral.1
      simp only [scanLiteral, behind]
      exact scanNumeral_numeral isNumeral

/-- A string that is scanned to its end is a literal. -/
theorem literal_of_scan {chars : List Char} {value : Nat}
    (scanned : scanLiteral chars = some (value, [])) :
    Literal chars value := by
  unfold scanLiteral at scanned
  split at scanned
  · rename_i digits behind
    obtain ⟨isNumeral, rfl⟩ := isNumeral_of_scan scanned
    unfold behindHexPrefix at behind
    split at behind
    · rename_i zero x digit rest
      split at behind
      · rename_i isPrefix
        obtain ⟨rfl, isX, -⟩ := isPrefix
        cases behind
        exact .hexadecimal isNumeral isX
      · cases behind
    · cases behind
  · split at scanned
    · rename_i leading
      obtain ⟨isNumeral, rfl⟩ := isNumeral_of_scan scanned
      match chars, leading with
      | zero :: digits, leading =>
          have isZero : zero = '0' := by simpa using leading
          subst isZero
          exact .octal isNumeral
    · rename_i leading
      obtain ⟨isNumeral, rfl⟩ := isNumeral_of_scan scanned
      exact .decimal isNumeral leading

/-- The literal at the beginning of a string is the whole string exactly if the
string is a literal. -/
theorem scanLiteral_whole_iff (chars : List Char) (value : Nat) :
    scanLiteral chars = some (value, []) ↔ Literal chars value :=
  ⟨literal_of_scan, scanLiteral_literal⟩

theorem Literal.value_unique {chars : List Char} {first second : Nat}
    (firstLiteral : Literal chars first)
    (secondLiteral : Literal chars second) : first = second := by
  have same := scanLiteral_literal firstLiteral
  rw [scanLiteral_literal secondLiteral] at same
  cases same
  rfl

/-- A literal begins with a decimal digit. -/
theorem Literal.head_digit {chars : List Char} {value : Nat}
    (literal : Literal chars value) :
    ∃ digit rest, chars = digit :: rest ∧ isDigitOf 10 digit = true := by
  cases literal with
  | decimal isNumeral leading =>
      match chars, isNumeral with
      | digit :: rest, isNumeral =>
          exact ⟨digit, rest, rfl, isNumeral.2 digit (by simp)⟩
      | [], isNumeral =>
          exact absurd rfl isNumeral.1
  | octal isNumeral =>
      exact ⟨'0', _, rfl, by decide⟩
  | hexadecimal isNumeral isPrefix =>
      exact ⟨'0', _, rfl, by decide⟩

/-- A printed number has no leading zero. -/
theorem toDigits_leading {number : Nat} (positive : 0 < number) :
    (Nat.toDigits 10 number).head? ≠ some '0' := by
  induction number using Nat.strongRecOn with
  | ind number inductionHypothesis =>
      by_cases single : number < 10
      · rw [Nat.toDigits_of_lt_base single]
        interval_cases number <;> decide
      · have front := inductionHypothesis (number / 10) (by omega) (by omega)
        rw [Nat.toDigits_of_base_le (by omega) (by omega)]
        cases digits : Nat.toDigits 10 (number / 10) with
        | nil =>
            exact absurd digits Nat.toDigits_ne_nil
        | cons first rest =>
            simpa [digits] using front

/-- A number printed in decimal is a literal; zero is an octal one. -/
theorem literal_toDigits (number : Nat) :
    Literal (Nat.toDigits 10 number) number := by
  by_cases positive : 0 < number
  · obtain ⟨digits, value⟩ :=
      toDigits_numeral (show 1 < 10 by omega) (by omega) number
    have literal :=
      Literal.decimal ⟨Nat.toDigits_ne_nil, digits⟩
        (toDigits_leading positive)
    rwa [value] at literal
  · have isZero : number = 0 := by omega
    subst isZero
    have single : ∀ digit ∈ ['0'], isDigitOf 8 digit = true := by
      intro digit member
      rw [List.mem_singleton.mp member]
      decide
    exact .octal ⟨by simp, single⟩

/-- A number printed in hexadecimal, with any leading zeros, behind the prefix
is a literal. -/
theorem literal_hexadecimal (count number : Nat) :
    Literal
      ('0' :: 'x' ::
        (List.replicate count '0' ++ Nat.toDigits 16 number))
      number := by
  obtain ⟨isNumeral, value⟩ :=
    paddedDigits_numeral (show 1 < 16 by omega) (Nat.le_refl 16) count
      number
  have literal := Literal.hexadecimal isNumeral (Or.inl rfl)
  rwa [value] at literal

end SixLoWPANd.Foundation
