import SixLoWPANd.CommandLine.Options

/-!
# Numeric options

Region, channel, PAN ID, network and profile are read in the same way:
`strtoul` converts the argument, the assignment to a variable of 32 bits narrows
the result, and what is left has to pass the check of the option.

An option validates an argument if it accepts exactly the unsigned literals of
a value in its range and stores that value.  `Misread` lists the arguments for
which it does not: the narrowing hides the upper half of the result, `strtoul`
takes a sign, and nothing at all passes as zero.
-/

namespace SixLoWPANd.CommandLine

open SixLoWPANd.Foundation
open SixLoWPANd.JennicModule

/-! ## What a numeric argument is read as -/

/-- The number that a literal denotes behind its sign. -/
def signedNumber (sign : List Char) (magnitude : Nat) : Int :=
  if sign = ['-'] then -magnitude else magnitude

/-- The value of 32 bits that a numeric option reads from an argument. -/
inductive ReadsAs : List Char → UInt32 → Prop where
  | empty : ReadsAs [] 0
  | literal {optarg blanks sign : List Char} {magnitude : Nat}
      (signedLiteral : SignedLiteral optarg blanks sign magnitude)
      (fits : magnitude < 18446744073709551616) :
      ReadsAs optarg (UInt32.ofInt (signedNumber sign magnitude))

theorem ofInt_natCast (number : Nat) :
    UInt32.ofInt (number : Int) = UInt32.ofNat number := by
  apply UInt32.toNat_inj.mp
  have lower : ((number : Int) % 4294967296).toNat =
      number % 4294967296 := by
    omega
  simp [UInt32.ofInt, lower]

/-- Narrowing the result of `strtoul` reduces the signed number. -/
theorem toUInt32_signedValue (sign : List Char) (magnitude : Nat) :
    (signedValue (sign = ['-']) magnitude).toUInt32 =
      UInt32.ofInt (signedNumber sign magnitude) := by
  by_cases negative : sign = ['-']
  · simp [signedValue, signedNumber, negative, ofInt_natCast]
  · simp [signedValue, signedNumber, negative, ofInt_natCast]

theorem numericArgument_ok_iff {library : Library} {optarg name : String}
    {options : Options} {value : UInt32} :
    numericArgument library optarg options name = .ok value ↔
      ReadsAs optarg.toList value := by
  constructor
  · intro converted
    unfold numericArgument at converted
    dsimp only at converted
    split at converted
    · cases converted
    · rename_i inRange
      split at converted
      · cases converted
      · rename_i usedUp
        simp only [not_not] at usedUp
        cases converted
        rcases signedLiteral_of_strtoul usedUp with
          empty | ⟨blanks, sign, magnitude, signedLiteral⟩
        · rw [empty]
          exact .empty
        · rw [strtoul_signedLiteral signedLiteral] at inRange ⊢
          split at inRange
          · rename_i fits
            rw [if_pos fits, toUInt32_signedValue]
            exact .literal signedLiteral fits
          · simp at inRange
  · intro reads
    generalize string : optarg.toList = chars at reads
    cases reads with
    | empty =>
        simp [numericArgument, string, strtoul, scanSign, scanLiteral,
          behindHexPrefix, scanNumeral]
    | literal signedLiteral fits =>
        simp only [numericArgument, string,
          strtoul_signedLiteral signedLiteral, if_pos fits,
          toUInt32_signedValue]
        simp

theorem checkedOption_ok_iff {library : Library} {optarg : String}
    {options after : Options} {name invalid : String}
    {check : UInt32 → Bool} {assign : UInt32 → Options → Options} :
    checkedOption library optarg options name check invalid assign =
        .ok after ↔
      ∃ value, ReadsAs optarg.toList value ∧ check value = true ∧
        after = assign value options := by
  constructor
  · intro accepted
    obtain ⟨value, converted, rest⟩ := checkedOption_ok accepted
    exact ⟨value, numericArgument_ok_iff.mp converted, rest⟩
  · rintro ⟨value, reads, passed, rfl⟩
    simp [checkedOption, numericArgument_ok_iff.mpr reads, passed]

theorem uncheckedOption_ok_iff {library : Library} {optarg : String}
    {options after : Options} {name : String}
    {assign : UInt32 → Options → Options} :
    uncheckedOption library optarg options name assign = .ok after ↔
      ∃ value, ReadsAs optarg.toList value ∧
        after = assign value options := by
  constructor
  · intro accepted
    obtain ⟨value, converted, assigned⟩ := uncheckedOption_ok accepted
    exact ⟨value, numericArgument_ok_iff.mp converted, assigned⟩
  · rintro ⟨value, reads, rfl⟩
    simp [uncheckedOption, numericArgument_ok_iff.mpr reads]

/-! ## The five options -/

inductive NumericOption where
  | region
  | channel
  | pan
  | network
  | profile
  deriving DecidableEq

namespace NumericOption

def character : NumericOption → Char
  | region => 'r'
  | channel => 'c'
  | pan => 'p'
  | network => 'j'
  | profile => 'P'

/-- The case of the option. -/
def process (option : NumericOption) (library : Library) (optarg : String)
    (options : Options) : Except Exit Options :=
  processOption library option.character optarg options

/-- The range check of the case; the network has none. -/
def check : NumericOption → UInt32 → Bool
  | region => regionCheck
  | channel => channelCheck
  | pan => panIDCheck
  | network => fun _ => true
  | profile => profileCheck

/-- The assignment of the case. -/
def assign : NumericOption → UInt32 → Options → Options
  | region, value, options =>
      { options with eRegion := value.toUInt8.toUInt32 }
  | channel, value, options =>
      { options with eChannel := value.toUInt8.toUInt32 }
  | pan, value, options => { options with u16PanID := value.toUInt16 }
  | network, value, options => { options with u32UserData := value }
  | profile, value, options =>
      { options with u8JenNetProfile := value.toUInt8 }

/-- The variable of the option. -/
def stored : NumericOption → Options → Nat
  | region, options => options.eRegion.toNat
  | channel, options => options.eChannel.toNat
  | pan, options => options.u16PanID.toNat
  | network, options => options.u32UserData.toNat
  | profile, options => options.u8JenNetProfile.toNat

/-- The values that the option is meant for. -/
def inRange : NumericOption → Nat → Prop
  | region, value => value ≤ 2
  | channel, value => value = 0 ∨ (11 ≤ value ∧ value ≤ 26)
  | pan, value => value ≤ 0xFFFF
  | network, value => value ≤ 0xFFFFFFFF
  | profile, value => value ≤ 0xFF

/-- The check admits the range, and `E_REGION_MAX` as a fourth region. -/
theorem check_iff (option : NumericOption) (value : UInt32) :
    option.check value = true ↔
      option.inRange value.toNat ∨
        (option = region ∧ value.toNat = 3) := by
  have size := value.toNat_lt
  cases option with
  | region =>
      simp only [check, regionCheck_iff, inRange, true_and]
      omega
  | channel =>
      simp [check, channelCheck_iff, inRange]
  | pan =>
      simp [check, panIDCheck_iff, inRange]
  | network =>
      simp only [check, inRange, true_iff]
      omega
  | profile =>
      simp [check, profileCheck_iff, inRange]

/-- The casts keep a value that passes the check. -/
theorem stored_assign {option : NumericOption} {value : UInt32}
    (passed : option.check value = true) (options : Options) :
    option.stored (option.assign value options) = value.toNat := by
  cases option with
  | region =>
      have bound := (regionCheck_iff value).mp passed
      simp only [stored, assign]
      rw [toUInt8_toUInt32_of_small (by omega)]
  | channel =>
      have bound := (channelCheck_iff value).mp passed
      simp only [stored, assign]
      rw [toUInt8_toUInt32_of_small (by omega)]
  | pan =>
      have bound := (panIDCheck_iff value).mp passed
      simp only [stored, assign, UInt32.toNat_toUInt16]
      omega
  | network =>
      rfl
  | profile =>
      have bound := (profileCheck_iff value).mp passed
      simp only [stored, assign, UInt32.toNat_toUInt8]
      omega

/-- An option is accepted if what is read passes its check, and assigns it. -/
theorem process_ok_iff {option : NumericOption} {library : Library}
    {optarg : String} {options after : Options} :
    option.process library optarg options = .ok after ↔
      ∃ value, ReadsAs optarg.toList value ∧ option.check value = true ∧
        after = option.assign value options := by
  cases option with
  | region =>
      show optionRegion library optarg options = .ok after ↔ _
      exact checkedOption_ok_iff
  | channel =>
      show optionChannel library optarg options = .ok after ↔ _
      exact checkedOption_ok_iff
  | pan =>
      show optionPanID library optarg options = .ok after ↔ _
      exact checkedOption_ok_iff
  | network =>
      show optionJenNetID library optarg options = .ok after ↔ _
      simp only [check, true_and]
      exact uncheckedOption_ok_iff
  | profile =>
      show optionProfile library optarg options = .ok after ↔ _
      exact checkedOption_ok_iff

/-- A library for which every file exists and no address does. -/
def bareLibrary : Library where
  erangeText := "Numerical result out of range"
  stat _ := .ok ()
  inetPton _ := .invalid

/-- On the argument the option does what it is meant for, whatever the
options were and whatever the library says. -/
structure Validates (option : NumericOption) (optarg : String) : Prop where
  accepted_iff : ∀ library options,
    (∃ after, option.process library optarg options = .ok after) ↔
      ∃ value, Literal optarg.toList value ∧ option.inRange value
  stores : ∀ library options after,
    option.process library optarg options = .ok after →
      ∃ value, Literal optarg.toList value ∧
        option.stored after = value ∧
        after = option.assign (UInt32.ofNat value) options

/-- The arguments on which an option goes wrong. -/
inductive Misread (option : NumericOption) : List Char → Prop where
  /-- Nothing at all passes as zero. -/
  | empty : Misread option []
  /-- White space or a sign in front of a literal; the number passes the check
  after its reduction to 32 bits. -/
  | decorated {optarg blanks sign : List Char} {magnitude : Nat}
      (signedLiteral : SignedLiteral optarg blanks sign magnitude)
      (front : blanks ++ sign ≠ [])
      (fits : magnitude < 18446744073709551616)
      (passed :
        option.check (UInt32.ofInt (signedNumber sign magnitude)) = true) :
      Misread option optarg
  /-- More than 32 bits; the lower ones pass the check. -/
  | wide {optarg : List Char} {value : Nat}
      (literal : Literal optarg value) (large : 4294967296 ≤ value)
      (fits : value < 18446744073709551616)
      (passed : option.check (UInt32.ofNat value) = true) :
      Misread option optarg
  /-- The number of regions is not a region. -/
  | sentinel {optarg : List Char} (isRegion : option = region)
      (literal : Literal optarg 3) : Misread option optarg

end NumericOption

/-! ## Where the options go wrong -/

theorem not_literal_nil {value : Nat} : ¬ Literal [] value := by
  intro literal
  obtain ⟨digit, rest, empty, -⟩ := literal.head_digit
  cases empty

/-- White space or a sign in front is not part of an unsigned literal. -/
theorem front_nil_of_literal {optarg blanks sign : List Char}
    {magnitude value : Nat}
    (signedLiteral : SignedLiteral optarg blanks sign magnitude)
    (literal : Literal optarg value) : blanks ++ sign = [] := by
  obtain ⟨blank, signed, digits, rfl, -⟩ := signedLiteral
  obtain ⟨digit, rest, start, isDigit⟩ := literal.head_digit
  obtain ⟨notBlank, notPlus, notMinus⟩ := digit_plain isDigit
  cases blanks with
  | cons first others =>
      simp only [List.cons_append, List.cons.injEq] at start
      have isBlank := blank first (by simp)
      rw [start.1, notBlank] at isBlank
      cases isBlank
  | nil =>
      rcases signed with rfl | rfl | rfl
      · rfl
      · simp only [List.nil_append, List.cons_append,
          List.cons.injEq] at start
        exact absurd start.1.symm notPlus
      · simp only [List.nil_append, List.cons_append,
          List.cons.injEq] at start
        exact absurd start.1.symm notMinus

/-- A literal without anything in front is read as its lower 32 bits. -/
theorem readsAs_literal {optarg : List Char} {value : Nat}
    (literal : Literal optarg value)
    (fits : value < 18446744073709551616) :
    ReadsAs optarg (UInt32.ofNat value) := by
  have signedLiteral : SignedLiteral optarg [] [] value :=
    ⟨by simp, Or.inl rfl, optarg, rfl, literal⟩
  have reads := ReadsAs.literal signedLiteral fits
  simpa [signedNumber, ofInt_natCast] using reads

namespace NumericOption

theorem inRange_lt {option : NumericOption} {value : Nat}
    (inRange : option.inRange value) : value < 4294967296 := by
  cases option with
  | channel =>
      rcases inRange with zero | ⟨-, upper⟩ <;> omega
  | _ =>
      simp only [NumericOption.inRange] at inRange
      omega

/-- A misread argument is accepted. -/
theorem Misread.accepted {option : NumericOption} {optarg : List Char}
    (misread : option.Misread optarg) :
    ∃ value, ReadsAs optarg value ∧ option.check value = true := by
  cases misread with
  | empty =>
      exact ⟨0, .empty, by cases option <;> decide⟩
  | decorated signedLiteral front fits passed =>
      exact ⟨_, .literal signedLiteral fits, passed⟩
  | wide literal large fits passed =>
      exact ⟨_, readsAs_literal literal fits, passed⟩
  | sentinel isRegion literal =>
      subst isRegion
      exact ⟨_, readsAs_literal literal (by omega), by decide⟩

/-- A misread argument is no literal of a value in range. -/
theorem Misread.meaningless {option : NumericOption}
    {optarg : List Char} (misread : option.Misread optarg) {value : Nat}
    (literal : Literal optarg value) : ¬ option.inRange value := by
  intro inRange
  cases misread with
  | empty =>
      exact not_literal_nil literal
  | decorated signedLiteral front fits passed =>
      exact front (front_nil_of_literal signedLiteral literal)
  | wide wideLiteral large fits passed =>
      have below := inRange_lt inRange
      rw [literal.value_unique wideLiteral] at below
      omega
  | sentinel isRegion three =>
      subst isRegion
      rw [literal.value_unique three] at inRange
      exact absurd (show 3 ≤ 2 from inRange) (by omega)

/-- Every other argument that is accepted is a literal of a value in range. -/
theorem literal_of_accepted {option : NumericOption}
    {optarg : List Char} {value : UInt32}
    (understood : ¬ option.Misread optarg) (reads : ReadsAs optarg value)
    (passed : option.check value = true) :
    Literal optarg value.toNat ∧ option.inRange value.toNat := by
  cases reads with
  | empty =>
      exact absurd Misread.empty understood
  | @literal _ blanks sign magnitude signedLiteral fits =>
      by_cases front : blanks ++ sign = []
      · obtain ⟨rfl, rfl⟩ := List.append_eq_nil_iff.mp front
        obtain ⟨-, -, digits, rfl, literal⟩ := signedLiteral
        have narrowed :
            UInt32.ofInt (signedNumber [] magnitude) =
              UInt32.ofNat magnitude := by
          simp [signedNumber, ofInt_natCast]
        rw [narrowed] at passed ⊢
        by_cases large : 4294967296 ≤ magnitude
        · exact absurd (.wide literal large fits passed) understood
        · have same : (UInt32.ofNat magnitude).toNat = magnitude :=
            UInt32.toNat_ofNat_of_lt' (Nat.lt_of_not_le large)
          rw [same]
          refine ⟨literal, ?_⟩
          rcases (check_iff option _).mp passed with
            inRange | ⟨isRegion, three⟩
          · rwa [same] at inRange
          · rw [same] at three
            subst three
            exact absurd (.sentinel isRegion literal) understood
      · exact absurd (.decorated signedLiteral front fits passed) understood

theorem Misread.not_validates {option : NumericOption} {optarg : String}
    (misread : option.Misread optarg.toList) :
    ¬ option.Validates optarg := by
  intro validates
  obtain ⟨read, reads, passed⟩ := misread.accepted
  have accepted : ∃ after,
      option.process bareLibrary optarg .startUp = .ok after :=
    ⟨_, process_ok_iff.mpr ⟨read, reads, passed, rfl⟩⟩
  obtain ⟨value, literal, inRange⟩ :=
    (validates.accepted_iff bareLibrary .startUp).mp accepted
  exact misread.meaningless literal inRange

/-- An option validates exactly the arguments that it does not misread. -/
theorem validates_iff (option : NumericOption) (optarg : String) :
    option.Validates optarg ↔ ¬ option.Misread optarg.toList := by
  constructor
  · intro validates misread
    exact misread.not_validates validates
  · intro understood
    constructor
    · intro library options
      constructor
      · rintro ⟨after, accepted⟩
        obtain ⟨read, reads, passed, -⟩ := process_ok_iff.mp accepted
        exact ⟨_, literal_of_accepted understood reads passed⟩
      · rintro ⟨value, literal, inRange⟩
        have small := inRange_lt inRange
        have reads := readsAs_literal literal (by omega)
        have passed : option.check (UInt32.ofNat value) = true := by
          rw [check_iff, UInt32.toNat_ofNat_of_lt' small]
          exact Or.inl inRange
        exact ⟨_, process_ok_iff.mpr ⟨_, reads, passed, rfl⟩⟩
    · intro library options after accepted
      obtain ⟨read, reads, passed, rfl⟩ := process_ok_iff.mp accepted
      obtain ⟨literal, -⟩ := literal_of_accepted understood reads passed
      refine ⟨read.toNat, literal, stored_assign passed options, ?_⟩
      rw [UInt32.ofNat_toNat]

/-- The channel 2³² + 11 is taken for channel 11. -/
theorem wide_channel_accepted :
    channel.process bareLibrary "4294967307" .startUp =
        .ok { Options.startUp with eChannel := 11 } ∧
      ¬ channel.Validates "4294967307" := by
  have literal : Literal "4294967307".toList 4294967307 :=
    (scanLiteral_whole_iff _ _).mp (by decide)
  have passed : channel.check (UInt32.ofNat 4294967307) = true := by
    decide
  constructor
  · have reads := readsAs_literal literal (by omega)
    exact process_ok_iff.mpr ⟨_, reads, passed, rfl⟩
  · exact
      (Misread.wide literal (by omega) (by omega) passed).not_validates

end NumericOption

end SixLoWPANd.CommandLine
