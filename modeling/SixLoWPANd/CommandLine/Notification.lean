import SixLoWPANd.CommandLine.NumericOptions
import SixLoWPANd.JennicModule.Runs

/-!
# The configuration notification

`ConfigChangedCallback` prints the configuration as options of the command that
it runs.  They are the options of the daemon itself: the words of the command
behind the program, processed by `main` from its start-up state, give the
configuration that was printed.
-/

namespace SixLoWPANd.CommandLine

open SixLoWPANd.Foundation
open SixLoWPANd.JennicModule

/-! ## The callback -/

/-- The address that has the prefix in front of eight zeros. -/
def prefixAddress (u64NetworkPrefix : UInt64) : In6Addr where
  bytes :=
    [((u64NetworkPrefix >>> 56) &&& 0xFF).toUInt8,
      ((u64NetworkPrefix >>> 48) &&& 0xFF).toUInt8,
      ((u64NetworkPrefix >>> 40) &&& 0xFF).toUInt8,
      ((u64NetworkPrefix >>> 32) &&& 0xFF).toUInt8,
      ((u64NetworkPrefix >>> 24) &&& 0xFF).toUInt8,
      ((u64NetworkPrefix >>> 16) &&& 0xFF).toUInt8,
      ((u64NetworkPrefix >>> 8) &&& 0xFF).toUInt8,
      ((u64NetworkPrefix >>> 0) &&& 0xFF).toUInt8] ++
      List.replicate 8 0
  size := rfl

/-- What is printed into `acCommand`. -/
def configCommand (inetNtop : In6Addr → String) (pcConfigProgram : String)
    (settings : Settings) : String :=
  let acAddress := inetNtop (prefixAddress settings.u64NetworkPrefix)
  let acCommand :=
    pcConfigProgram ++ " --channel=" ++ formatSigned settings.eChannel ++
      " --pan=0x" ++ formatPaddedHex 4 settings.u16PanID.toNat ++
      " --network=0x" ++ formatPaddedHex 8 settings.u32UserData.toNat ++
      " --prefix=" ++ acAddress
  if settings.iSecureNetwork ≠ 0 then
    acCommand ++ " --key=" ++ inetNtop settings.sSecurityKey
  else
    acCommand

/-- The command that is run, and the log lines of the callback. -/
structure Notification where
  command : String
  syslog : List (Nat × String)

/-- `system` answers for the command.  There is no result without a program and
where the command with its terminator overflows `acCommand`. -/
def configChangedCallback (inetNtop : In6Addr → String)
    (system : String → Int) (options : Options) : Option Notification :=
  match options.pcConfigProgram with
  | none => none
  | some pcConfigProgram =>
      let acCommand :=
        configCommand inetNtop pcConfigProgram options.toSettings
      if acCommand.utf8ByteSize < 1024 then
        let result := system acCommand
        let running :=
          (logDebug,
            "Running configuration notification:\n" ++ acCommand)
        let report :=
          if result = 0 then
            (logInfo,
              "Configuration notification program run successfully")
          else
            (logErr,
              "Configuration notification program result: " ++
                toString result ++ "\n")
        some ⟨acCommand, [report, running]⟩
      else
        none

/-- A command that fits its buffer is run. -/
theorem configChangedCallback_fits {inetNtop : In6Addr → String}
    (system : String → Int) {options : Options}
    {pcConfigProgram : String}
    (installed : options.pcConfigProgram = some pcConfigProgram)
    (fits :
      (configCommand inetNtop pcConfigProgram
        options.toSettings).utf8ByteSize < 1024) :
    ∃ notification,
      configChangedCallback inetNtop system options =
          some notification ∧
        notification.command =
          configCommand inetNtop pcConfigProgram options.toSettings := by
  simp only [configChangedCallback, installed, if_pos fits,
    Option.some.injEq, exists_eq_left']

/-! ## The words of the command -/

/-- The words of a command that stand for options, as options. -/
def commandArguments (command : String) :
    Option (List (Char × String)) :=
  (command.toList.splitOn ' ').tail.mapM longOption

/-- A word `--name=value`. -/
def optionWord (name : String) (value : List Char) : List Char :=
  '-' :: '-' :: (name.toList ++ '=' :: value)

/-- The digits of a number of the given width in hexadecimal. -/
def paddedDigits (width number : Nat) : List Char :=
  '0' :: 'x' :: (formatPaddedHex width number).toList

/-- The options in the command and their values. -/
def notifiedOptions (inetNtop : In6Addr → String) (settings : Settings) :
    List (LongOption × List Char) :=
  [(⟨"channel", true, 'c'⟩, (formatSigned settings.eChannel).toList),
    (⟨"pan", true, 'p'⟩, paddedDigits 4 settings.u16PanID.toNat),
    (⟨"network", true, 'j'⟩, paddedDigits 8 settings.u32UserData.toNat),
    (⟨"prefix", true, '6'⟩,
      (inetNtop (prefixAddress settings.u64NetworkPrefix)).toList)] ++
    if settings.iSecureNetwork ≠ 0 then
      [(⟨"key", true, 'k'⟩, (inetNtop settings.sSecurityKey).toList)]
    else
      []

theorem configCommand_toList (inetNtop : In6Addr → String)
    (pcConfigProgram : String) (settings : Settings) :
    (configCommand inetNtop pcConfigProgram settings).toList =
      [' '].intercalate
        (pcConfigProgram.toList ::
          (notifiedOptions inetNtop settings).map fun option =>
            optionWord option.1.name option.2) := by
  unfold configCommand notifiedOptions
  by_cases secure : settings.iSecureNetwork ≠ 0
  · simp [secure, optionWord, paddedDigits, List.intercalate,
      String.toList_append]
  · simp [secure, optionWord, paddedDigits, List.intercalate,
      String.toList_append]

/-- A map each of whose steps succeeds. -/
theorem mapM_some_of_forall {first : Type} {second : Type}
    {step : first → Option second} {result : first → second}
    {entries : List first}
    (succeeds : ∀ entry ∈ entries, step entry = some (result entry)) :
    entries.mapM step = some (entries.map result) := by
  induction entries with
  | nil =>
      rfl
  | cons entry entries inductionHypothesis =>
      have here := succeeds entry (by simp)
      have there := inductionHypothesis fun other member =>
        succeeds other (List.mem_cons_of_mem _ member)
      rw [List.mapM_cons, here, there]
      rfl

/-- The prefix is read back from the address. -/
theorem networkPrefix_prefixAddress (u64NetworkPrefix : UInt64) :
    networkPrefix (prefixAddress u64NetworkPrefix) =
      u64NetworkPrefix := by
  have first : u64NetworkPrefix.toNat / 2 ^ 56 % 256 =
      u64NetworkPrefix.toNat / 2 ^ 56 := by
    have bound := u64NetworkPrefix.toNat_lt
    omega
  apply UInt64.toNat_inj.mp
  simp only [networkPrefix, prefixAddress, List.cons_append,
    List.getD_cons_zero, List.getD_cons_succ, UInt64.toNat_or]
  simp (disch := decide) only [toUInt64_shiftLeft_toNat,
    shiftRight_byte_toNat, UInt64.reduceToNat]
  -- the bytes are joined from the most significant one on
  rw [first, upperBytes_or_byte _ 48, upperBytes_or_byte _ 40,
    upperBytes_or_byte _ 32, upperBytes_or_byte _ 24,
    upperBytes_or_byte _ 16, upperBytes_or_byte _ 8,
    upperBytes_or_byte _ 0, Nat.shiftLeft_zero, Nat.pow_zero, Nat.div_one]

/-- A word with the name of an option is read as that option. -/
theorem longOption_optionWord {option : LongOption}
    (declared : option ∈ longOptions)
    (argument : option.required_argument = true) (value : List Char) :
    longOption (optionWord option.name value) =
      some (option.val, String.ofList value) := by
  have absent : ∀ entry ∈ longOptions, '=' ∉ entry.name.toList := by
    decide
  have plain : ∀ c ∈ option.name.toList, decide (c ≠ '=') = true := by
    rintro c member
    apply decide_eq_true
    rintro rfl
    exact absent option declared member
  have unique : ∀ entry ∈ longOptions,
      longOptions.find? (fun other =>
        other.name.toList = entry.name.toList) = some entry := by
    decide
  have front :
      (option.name.toList ++ '=' :: value).takeWhile
          (fun c => decide (c ≠ '=')) =
        option.name.toList := by
    rw [List.takeWhile_append_of_pos plain]
    simp
  have back :
      (option.name.toList ++ '=' :: value).dropWhile
          (fun c => decide (c ≠ '=')) =
        '=' :: value := by
    rw [List.dropWhile_append_of_pos plain]
    simp
  simp only [longOption, optionWord, front, back, unique option declared,
    argument, if_true]

/-- What the documentation of the C library says of the text of an address. -/
structure AddressText (library : Library) (inetNtop : In6Addr → String) :
    Prop where
  inverse : ∀ address, library.inetPton (inetNtop address) = .address address
  characters : ∀ address, ∀ c ∈ (inetNtop address).toList,
    isDigitOf 16 c = true ∨ c = ':' ∨ c = '.'

/-- No digit is a space. -/
theorem space_not_digit {base : Nat} (small : base ≤ 16) :
    isDigitOf base ' ' = false := by
  have value : digitValue ' ' = 36 := by decide
  rw [isDigitOf, value, decide_eq_false_iff_not]
  omega

theorem space_notMem_address {library : Library}
    {inetNtop : In6Addr → String} (text : AddressText library inetNtop)
    (address : In6Addr) : ' ' ∉ (inetNtop address).toList := by
  intro member
  rcases text.characters address ' ' member with digit | colon | dot
  · rw [space_not_digit (Nat.le_refl 16)] at digit
    cases digit
  · cases colon
  · cases dot

theorem literal_paddedDigits (width number : Nat) :
    Literal (paddedDigits width number) number := by
  simp only [paddedDigits, formatPaddedHex, String.toList_ofList]
  exact literal_hexadecimal _ number

theorem space_notMem_paddedDigits (width number : Nat) :
    ' ' ∉ paddedDigits width number := by
  intro member
  have digits :=
    (paddedDigits_numeral (show 1 < 16 by omega) (Nat.le_refl 16)
      (width - (Nat.toDigits 16 number).length) number).1.2
  simp only [paddedDigits, formatPaddedHex, String.toList_ofList,
    List.mem_cons] at member
  rcases member with zero | x | member
  · cases zero
  · cases x
  · have digit := digits ' ' member
    rw [space_not_digit (Nat.le_refl 16)] at digit
    cases digit

/-! ## The command read by `main` -/

theorem formatSigned_channel {eChannel : UInt32}
    (checked : channelCheck eChannel = true) :
    (formatSigned eChannel).toList = Nat.toDigits 10 eChannel.toNat := by
  have bound := (channelCheck_iff eChannel).mp checked
  rw [formatSigned, if_pos (by omega)]
  simp

theorem space_notMem_number (number : Nat) :
    ' ' ∉ Nat.toDigits 10 number := by
  intro member
  obtain ⟨digits, -⟩ :=
    toDigits_numeral (show 1 < 10 by omega) (by omega) number
  have digit := digits ' ' member
  rw [space_not_digit (by omega)] at digit
  cases digit

theorem declared_of_notified {inetNtop : In6Addr → String}
    {settings : Settings} {option : LongOption × List Char}
    (notified : option ∈ notifiedOptions inetNtop settings) :
    option.1 ∈ longOptions ∧ option.1.required_argument = true := by
  unfold notifiedOptions at notified
  rcases List.mem_append.mp notified with always | key
  · simp only [List.mem_cons, List.not_mem_nil, or_false] at always
    rcases always with rfl | rfl | rfl | rfl
    all_goals
      dsimp only
      decide
  · split at key
    · rw [List.mem_singleton.mp key]
      dsimp only
      decide
    · cases key

/-- No value in the command has a space. -/
theorem space_notMem_notified {library : Library}
    {inetNtop : In6Addr → String} (text : AddressText library inetNtop)
    {settings : Settings} (checked : channelCheck settings.eChannel = true)
    {option : LongOption × List Char}
    (notified : option ∈ notifiedOptions inetNtop settings) :
    ' ' ∉ option.2 := by
  unfold notifiedOptions at notified
  rcases List.mem_append.mp notified with always | key
  · simp only [List.mem_cons, List.not_mem_nil, or_false] at always
    rcases always with rfl | rfl | rfl | rfl
    · rw [formatSigned_channel checked]
      exact space_notMem_number _
    · exact space_notMem_paddedDigits 4 _
    · exact space_notMem_paddedDigits 8 _
    · exact space_notMem_address text _
  · split at key
    · rw [List.mem_singleton.mp key]
      exact space_notMem_address text _
    · cases key

/-- The words of the command are the program and the options. -/
theorem splitOn_configCommand {library : Library}
    {inetNtop : In6Addr → String} (text : AddressText library inetNtop)
    {pcConfigProgram : String} (unbroken : ' ' ∉ pcConfigProgram.toList)
    {settings : Settings} (checked : channelCheck settings.eChannel = true) :
    (configCommand inetNtop pcConfigProgram settings).toList.splitOn ' ' =
      pcConfigProgram.toList ::
        (notifiedOptions inetNtop settings).map fun option =>
          optionWord option.1.name option.2 := by
  have names : ∀ entry ∈ longOptions, ' ' ∉ entry.name.toList := by
    decide
  rw [configCommand_toList]
  apply List.splitOn_intercalate
  · intro word member
    rcases List.mem_cons.mp member with rfl | member
    · exact unbroken
    · obtain ⟨option, notified, rfl⟩ := List.mem_map.mp member
      have name := names _ (declared_of_notified notified).1
      have value := space_notMem_notified text checked notified
      simp [optionWord, name, value]
  · simp

/-- The words behind the program are read as the options they print. -/
theorem commandArguments_configCommand {library : Library}
    {inetNtop : In6Addr → String} (text : AddressText library inetNtop)
    {pcConfigProgram : String} (unbroken : ' ' ∉ pcConfigProgram.toList)
    {settings : Settings} (checked : channelCheck settings.eChannel = true) :
    commandArguments (configCommand inetNtop pcConfigProgram settings) =
      some ((notifiedOptions inetNtop settings).map fun option =>
        (option.1.val, String.ofList option.2)) := by
  have read : ∀ option ∈ notifiedOptions inetNtop settings,
      longOption (optionWord option.1.name option.2) =
        some (option.1.val, String.ofList option.2) := by
    intro option notified
    obtain ⟨declared, argument⟩ := declared_of_notified notified
    exact longOption_optionWord declared argument option.2
  rw [commandArguments, splitOn_configCommand text unbroken checked,
    List.tail_cons, List.mapM_map]
  exact mapM_some_of_forall read

/-! ## The command processed by `main` -/

/-- An option that is accepted leaves the rest to be processed. -/
theorem processOptions_cons {library : Library} {opt : Char}
    {optarg : String} {rest : List (Char × String)}
    {options after : Options}
    (accepted : processOption library opt optarg options = .ok after) :
    processOptions library ((opt, optarg) :: rest) options =
      processOptions library rest after := by
  simp only [processOptions, accepted]

/-- A literal that a numeric option admits. -/
theorem process_literal (option : NumericOption) {library : Library}
    {optarg : List Char} {value : UInt32}
    (literal : Literal optarg value.toNat)
    (passed : option.check value = true) (options : Options) :
    option.process library (String.ofList optarg) options =
      .ok (option.assign value options) := by
  have bound := value.toNat_lt
  have reads := readsAs_literal literal (by omega)
  rw [UInt32.ofNat_toNat] at reads
  apply NumericOption.process_ok_iff.mpr
  exact ⟨value, by rwa [String.toList_ofList], passed, rfl⟩

theorem process_channel {library : Library} {eChannel : UInt32}
    (checked : channelCheck eChannel = true) (options : Options) :
    processOption library 'c'
        (String.ofList (formatSigned eChannel).toList) options =
      .ok { options with eChannel := eChannel } := by
  have bound := (channelCheck_iff eChannel).mp checked
  have literal := literal_toDigits eChannel.toNat
  rw [← formatSigned_channel checked] at literal
  have processed :=
    @process_literal .channel library _ _ literal checked options
  rw [NumericOption.assign,
    toUInt8_toUInt32_of_small (by omega)] at processed
  exact processed

theorem process_pan {library : Library} (u16PanID : UInt16)
    (options : Options) :
    processOption library 'p'
        (String.ofList (paddedDigits 4 u16PanID.toNat)) options =
      .ok { options with u16PanID := u16PanID } := by
  have bound := u16PanID.toNat_lt
  have wide : u16PanID.toUInt32.toNat = u16PanID.toNat :=
    UInt16.toNat_toUInt32 u16PanID
  have literal := literal_paddedDigits 4 u16PanID.toUInt32.toNat
  have passed : panIDCheck u16PanID.toUInt32 = true :=
    (panIDCheck_iff _).mpr (by omega)
  have processed :=
    @process_literal .pan library _ _ literal passed options
  rw [NumericOption.assign, UInt16.toUInt16_toUInt32, wide] at processed
  exact processed

theorem process_network {library : Library} (u32UserData : UInt32)
    (options : Options) :
    processOption library 'j'
        (String.ofList (paddedDigits 8 u32UserData.toNat)) options =
      .ok { options with u32UserData := u32UserData } :=
  process_literal .network (literal_paddedDigits 8 u32UserData.toNat) rfl
    options

theorem process_prefixText {library : Library} {inetNtop : In6Addr → String}
    (text : AddressText library inetNtop) (u64NetworkPrefix : UInt64)
    (options : Options) :
    processOption library '6'
        (String.ofList
          (inetNtop (prefixAddress u64NetworkPrefix)).toList) options =
      .ok { options with u64NetworkPrefix := u64NetworkPrefix } := by
  show optionPrefix library _ options = _
  simp only [optionPrefix, addressArgument, String.ofList_toList,
    text.inverse, networkPrefix_prefixAddress]

theorem process_keyText {library : Library} {inetNtop : In6Addr → String}
    (text : AddressText library inetNtop) (sSecurityKey : In6Addr)
    (options : Options) :
    processOption library 'k'
        (String.ofList (inetNtop sSecurityKey).toList) options =
      .ok
        { options with
          sSecurityKey := sSecurityKey
          iSecureNetwork := 1 } := by
  show optionKey library _ options = _
  simp only [optionKey, addressArgument, String.ofList_toList,
    text.inverse]

/-- The options after the printed configuration has been processed. -/
def Options.configured (options : Options) (settings : Settings) : Options :=
  let network : Options :=
    { options with
      eChannel := settings.eChannel
      u16PanID := settings.u16PanID
      u32UserData := settings.u32UserData
      u64NetworkPrefix := settings.u64NetworkPrefix }
  if settings.iSecureNetwork ≠ 0 then
    { network with
      sSecurityKey := settings.sSecurityKey
      iSecureNetwork := 1 }
  else
    network

/-- The printed options are accepted in their order. -/
theorem processOptions_notified {library : Library}
    {inetNtop : In6Addr → String} (text : AddressText library inetNtop)
    {settings : Settings} (checked : channelCheck settings.eChannel = true)
    (options : Options) :
    processOptions library
        ((notifiedOptions inetNtop settings).map fun option =>
          (option.1.val, String.ofList option.2)) options =
      .ok (options.configured settings) := by
  unfold notifiedOptions Options.configured
  by_cases secure : settings.iSecureNetwork ≠ 0
  · simp only [if_pos secure, List.cons_append, List.nil_append,
      List.map_cons, List.map_nil]
    rw [processOptions_cons (process_channel checked _),
      processOptions_cons (process_pan _ _),
      processOptions_cons (process_network _ _),
      processOptions_cons (process_prefixText text _ _),
      processOptions_cons (process_keyText text _ _)]
    rfl
  · simp only [if_neg secure, List.append_nil, List.map_cons,
      List.map_nil]
    rw [processOptions_cons (process_channel checked _),
      processOptions_cons (process_pan _ _),
      processOptions_cons (process_network _ _),
      processOptions_cons (process_prefixText text _ _)]
    rfl

/-- The options of a notification are accepted by `main` from its start-up
state and give the configuration that was printed. -/
theorem notification_accepted {library : Library}
    {inetNtop : In6Addr → String} (text : AddressText library inetNtop)
    (system : String → Int) {options : Options}
    {pcConfigProgram : String}
    (installed : options.pcConfigProgram = some pcConfigProgram)
    (unbroken : ' ' ∉ pcConfigProgram.toList)
    (checked : channelCheck options.eChannel = true)
    (fits :
      (configCommand inetNtop pcConfigProgram
        options.toSettings).utf8ByteSize < 1024) :
    ∃ notification arguments,
      configChangedCallback inetNtop system options =
          some notification ∧
        commandArguments notification.command = some arguments ∧
        processOptions library arguments .startUp =
          .ok (Options.startUp.configured options.toSettings) := by
  obtain ⟨notification, notified, command⟩ :=
    configChangedCallback_fits system installed fits
  refine ⟨notification, _, notified, ?_,
    processOptions_notified text checked .startUp⟩
  rw [command, commandArguments_configCommand text unbroken checked]

/-! ## Concrete addresses -/

/-- The bytes of groups of four digits, each behind a colon; two colons at the
end stand for four groups of zeros. -/
def readGroups : List Char → Option (List UInt8)
  | [] => some []
  | [':', ':'] => some (List.replicate 8 0)
  | ':' :: first :: second :: third :: fourth :: rest =>
      if [first, second, third, fourth].all (isDigitOf 16) then
        (readGroups rest).map fun bytes =>
          UInt8.ofNat (16 * digitValue first + digitValue second) ::
            UInt8.ofNat (16 * digitValue third + digitValue fourth) ::
              bytes
      else
        none
  | _ => none

/-- The text of an address whose groups do not start with the digit zero, the
last four aside, if they are zero. -/
def shortText (address : In6Addr) : String :=
  if address.bytes.drop 8 = List.replicate 8 0 then
    String.ofList (hexGroups (address.bytes.take 8) ++ [':', ':']).tail
  else
    fullText address

def readText (text : String) : Pton :=
  match readGroups (':' :: text.toList) with
  | some bytes =>
      if size : bytes.length = 16 then .address ⟨bytes, size⟩ else .invalid
  | none => .invalid

/-- A library that reads such texts. -/
def groupLibrary : Library where
  erangeText := "Numerical result out of range"
  stat _ := .ok ()
  inetPton := readText

/-- The two digits of a byte are read as the byte. -/
theorem hexDigits_read (byte : UInt8) :
    isDigitOf 16 (Nat.digitChar (byte.toNat / 16)) = true ∧
      isDigitOf 16 (Nat.digitChar (byte.toNat % 16)) = true ∧
      UInt8.ofNat
          (16 * digitValue (Nat.digitChar (byte.toNat / 16)) +
            digitValue (Nat.digitChar (byte.toNat % 16))) =
        byte := by
  have bound := byte.toNat_lt
  refine
    ⟨isDigitOf_digitChar (Nat.le_refl 16) (by omega),
      isDigitOf_digitChar (Nat.le_refl 16) (by omega), ?_⟩
  rw [digitValue_digitChar (by omega), digitValue_digitChar (by omega),
    Nat.div_add_mod, UInt8.ofNat_toNat]

/-- Printed groups are read back. -/
theorem readGroups_hexGroups (rest : List Char) :
    ∀ {count : Nat} {bytes : List UInt8}, bytes.length = 2 * count →
      readGroups (hexGroups bytes ++ rest) =
        (readGroups rest).map fun more => bytes ++ more
  | 0, bytes, size => by
      have empty : bytes = [] := List.length_eq_zero_iff.mp (by omega)
      subst empty
      simp [hexGroups]
  | count + 1, high :: low :: bytes, size => by
      simp only [List.length_cons] at size
      have inductionHypothesis :=
        @readGroups_hexGroups rest count bytes (by omega)
      obtain ⟨highUpper, highLower, highByte⟩ := hexDigits_read high
      obtain ⟨lowUpper, lowLower, lowByte⟩ := hexDigits_read low
      simp only [hexGroups, hexDigits, List.cons_append, List.nil_append,
        readGroups, inductionHypothesis, List.all_cons, List.all_nil,
        highUpper, highLower, lowUpper, lowLower, Bool.and_true, if_true,
        highByte, lowByte, Option.map_map]
      rfl

/-- The first group follows a colon. -/
theorem cons_tail_hexGroups {bytes : List UInt8} (size : 2 ≤ bytes.length)
    (rest : List Char) :
    ':' :: (hexGroups bytes ++ rest).tail = hexGroups bytes ++ rest := by
  match bytes, size with
  | high :: low :: bytes, _ =>
      rfl

theorem readGroups_shortText (address : In6Addr) :
    readGroups (':' :: (shortText address).toList) =
      some address.bytes := by
  have size := address.size
  unfold shortText
  split
  · rename_i zeros
    have front : (address.bytes.take 8).length = 2 * 4 := by
      simp [size]
    have whole :
        address.bytes.take 8 ++ List.replicate 8 0 = address.bytes := by
      rw [← zeros, List.take_append_drop]
    rw [String.toList_ofList, cons_tail_hexGroups (by omega),
      readGroups_hexGroups _ front]
    simp only [readGroups, Option.map_some, whole]
  · have groups := @readGroups_hexGroups [] 8 address.bytes size
    have headed := @cons_tail_hexGroups address.bytes (by omega) []
    simp only [List.append_nil] at groups headed
    rw [fullText, String.toList_ofList, headed, groups]
    simp [readGroups]

theorem hexGroups_characters (bytes : List UInt8) :
    ∀ c ∈ hexGroups bytes, isDigitOf 16 c = true ∨ c = ':' := by
  fun_induction hexGroups bytes with
  | case1 high low bytes inductionHypothesis =>
      obtain ⟨highUpper, highLower, -⟩ := hexDigits_read high
      obtain ⟨lowUpper, lowLower, -⟩ := hexDigits_read low
      intro c member
      simp only [hexDigits, List.cons_append, List.nil_append,
        List.mem_cons] at member
      rcases member with rfl | rfl | rfl | rfl | rfl | member
      · exact Or.inr rfl
      · exact Or.inl highUpper
      · exact Or.inl highLower
      · exact Or.inl lowUpper
      · exact Or.inl lowLower
      · exact inductionHypothesis c member
  | case2 bytes short =>
      intro c member
      cases member

theorem addressText_shortText : AddressText groupLibrary shortText where
  inverse address := by
    simp only [groupLibrary, readText, readGroups_shortText, address.size,
      dite_true]
  characters address c member := by
    have characters : isDigitOf 16 c = true ∨ c = ':' := by
      unfold shortText at member
      split at member
      · rw [String.toList_ofList] at member
        rcases List.mem_append.mp (List.mem_of_mem_tail member) with
          group | colon
        · exact hexGroups_characters _ c group
        · simp only [List.mem_cons, List.not_mem_nil, or_false,
            or_self] at colon
          exact Or.inr colon
      · rw [fullText, String.toList_ofList] at member
        exact hexGroups_characters _ c (List.mem_of_mem_tail member)
    rcases characters with digit | colon
    · exact Or.inl digit
    · exact Or.inr (Or.inl colon)

/-- A secured network whose changes are notified. -/
def notifyingOptions : Options :=
  { Options.startUp with
    eChannel := 15
    u16PanID := 0x12
    u32UserData := 0xBEEF
    u64NetworkPrefix := 0x20011DB811112222
    iSecureNetwork := 1
    sSecurityKey :=
      ⟨[0x10, 0x11, 0x22, 0x33, 0x44, 0x55, 0x66, 0x77, 0x88, 0x99,
        0xAA, 0xBB, 0xCC, 0xDD, 0xEE, 0xFF], rfl⟩
    pcConfigProgram := some "/etc/6LoWPANd.notify"
    vprConfigChanged := true }

example :
    configCommand shortText "/etc/6LoWPANd.notify"
        notifyingOptions.toSettings =
      "/etc/6LoWPANd.notify --channel=15 --pan=0x0012 " ++
        "--network=0x0000beef --prefix=2001:1db8:1111:2222:: " ++
        "--key=1011:2233:4455:6677:8899:aabb:ccdd:eeff" := by
  decide

theorem notification_accepted_secured :
    ∃ notification arguments,
      configChangedCallback shortText (fun _ => 0) notifyingOptions =
          some notification ∧
        commandArguments notification.command = some arguments ∧
        processOptions groupLibrary arguments .startUp =
          .ok
            (Options.startUp.configured notifyingOptions.toSettings) :=
  notification_accepted addressText_shortText (fun _ => 0)
    (show notifyingOptions.pcConfigProgram =
      some "/etc/6LoWPANd.notify" from rfl)
    (by decide) (by decide)
    (by decide +kernel)

end SixLoWPANd.CommandLine
