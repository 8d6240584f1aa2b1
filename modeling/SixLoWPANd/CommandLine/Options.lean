import SixLoWPANd.CommandLine.Strtoul
import SixLoWPANd.JennicModule.Configuration

/-!
# Options of the command line

`processOption` is the `switch` of `main` over the options, one definition for
each case that does more than an assignment.  A case either goes on with new
variables or ends the program, with what has been printed.  `longOption` is how
`getopt_long` reads a word `--name=value` with the whole name of an option.

Whatever the options, region and channel of a program that goes on are in the
ranges that its checks admit.
-/

namespace SixLoWPANd.CommandLine

open SixLoWPANd.Foundation
open SixLoWPANd.JennicModule

/-- The variables that the options set. -/
structure Options extends Settings where
  daemonize : Bool
  iResetCoordinator : Bool
  u32BaudRate : UInt32
  cpSerialDevice : Option String
  cpTunDevice : String
  pcConfigProgram : Option String
  /-- What has been printed, newest first. -/
  printed : List String
  deriving DecidableEq

/-- The variables when `main` is entered. -/
def Options.startUp : Options where
  toSettings := Settings.default
  daemonize := true
  iResetCoordinator := false
  u32BaudRate := 1000000
  cpSerialDevice := none
  cpTunDevice := "tun0"
  pcConfigProgram := none
  printed := []

/-- The end of the program with `EXIT_FAILURE`, with the usage text or
without. -/
structure Exit where
  printed : List String
  usage : Bool
  deriving DecidableEq

/-- The result of `inet_pton`; a failure has the text of its error. -/
inductive Pton where
  | address (sin6_addr : In6Addr)
  | invalid
  | failed (text : String)
  deriving DecidableEq

/-- The functions of the C library that the options call. -/
structure Library where
  /-- `strerror(ERANGE)`. -/
  erangeText : String
  stat : String → Except String Unit
  inetPton : String → Pton

namespace Options

/-- Print the text and go on. -/
def print (options : Options) (text : String) : Options :=
  { options with printed := text :: options.printed }

/-- Print the text and end the program. -/
def fail (options : Options) (text : String) : Exit :=
  ⟨text :: options.printed, false⟩

/-- Print the text and call `print_usage_exit`. -/
def failWithUsage (options : Options) (text : String) : Exit :=
  ⟨text :: options.printed, true⟩

end Options

/-- `%d` of an unsigned value of 32 bits. -/
def formatSigned (number : UInt32) : String :=
  if number.toNat < 2147483648 then
    toString number.toNat
  else
    "-" ++ toString (4294967296 - number.toNat)

section Cases

variable (library : Library) (optarg : String) (options : Options)

/-! ## Numeric options -/

/-- The conversion that all numeric options begin with.  The result of
`strtoul` is assigned to a variable of 32 bits. -/
def numericArgument (name : String) : Except Exit UInt32 :=
  let result := strtoul optarg.toList
  if result.erange then
    .error
      (options.failWithUsage
        (name ++ " '" ++ optarg ++
          "' cannot be converted to 32 bit integer (" ++
          library.erangeText ++ ")\n"))
  else if result.pcEnd ≠ [] then
    .error
      (options.failWithUsage
        (name ++ " '" ++ optarg ++ "' contains invalid characters\n"))
  else
    .ok result.value.toUInt32

/-- A numeric option whose value is assigned as it is. -/
def uncheckedOption (name : String)
    (assign : UInt32 → Options → Options) : Except Exit Options :=
  match numericArgument library optarg options name with
  | .error exit => .error exit
  | .ok value => .ok (assign value options)

/-- A numeric option whose value has to pass a range check. -/
def checkedOption (name : String) (check : UInt32 → Bool)
    (invalid : String) (assign : UInt32 → Options → Options) :
    Except Exit Options :=
  match numericArgument library optarg options name with
  | .error exit => .error exit
  | .ok value =>
      if !check value then
        .error
          (options.failWithUsage
            (invalid ++ " '" ++ optarg ++ "' specified\n"))
      else
        .ok (assign value options)

def optionBaudRate : Except Exit Options :=
  uncheckedOption library optarg options "Baud rate" fun value options =>
    { options with u32BaudRate := value }

def optionActivityLED : Except Exit Options :=
  uncheckedOption library optarg options "Activity LED"
    fun value options => { options with eActivityLED := value }

def regionCheck (u32Region : UInt32) : Bool :=
  !decide (u32Region > regionMax)

def optionRegion : Except Exit Options :=
  checkedOption library optarg options "Region" regionCheck
    "Invalid region" fun value options =>
      { options with eRegion := value.toUInt8.toUInt32 }

def channelCheck (u32Channel : UInt32) : Bool :=
  u32Channel = channelAutomatic ||
    (u32Channel ≥ channelMinimum && u32Channel ≤ channelMaximum)

def optionChannel : Except Exit Options :=
  checkedOption library optarg options "Channel" channelCheck
    "Invalid Channel" fun value options =>
      { options with eChannel := value.toUInt8.toUInt32 }

def panIDCheck (u32PanID : UInt32) : Bool :=
  !decide (u32PanID > 0xFFFF)

def optionPanID : Except Exit Options :=
  checkedOption library optarg options "PAN ID" panIDCheck
    "Invalid PAN ID" fun value options =>
      { options with u16PanID := value.toUInt16 }

def optionJenNetID : Except Exit Options :=
  uncheckedOption library optarg options "JenNet ID"
    fun value options => { options with u32UserData := value }

def profileCheck (u32JenNetProfile : UInt32) : Bool :=
  !decide (u32JenNetProfile > 0xFF)

def optionProfile : Except Exit Options :=
  checkedOption library optarg options "JenNet Profile" profileCheck
    "Invalid JenNet Profile" fun value options =>
      { options with u8JenNetProfile := value.toUInt8 }

def optionAuthScheme : Except Exit Options :=
  match numericArgument library optarg options "Authorisation scheme" with
  | .error exit => .error exit
  | .ok u32AuthScheme =>
      if u32AuthScheme = 0 then
        .ok
          { options.print
              "Warning - no authorisation scheme selected\n" with
            eAuthScheme := u32AuthScheme }
      else if u32AuthScheme = 1 then
        .ok { options with eAuthScheme := u32AuthScheme }
      else
        .error
          (options.failWithUsage
            ("Unknown authorisation scheme selected (" ++
              formatSigned u32AuthScheme ++ ")\n"))

/-! ## Options with an address -/

/-- The conversion that all options with an address begin with. -/
def addressArgument (unparsed : String) : Except Exit In6Addr :=
  match library.inetPton optarg with
  | .address sin6_addr => .ok sin6_addr
  | .invalid => .error (options.fail (unparsed ++ optarg ++ "\n"))
  | .failed text =>
      .error (options.fail ("inet_pton failed: " ++ text ++ "\n"))

/-- The first eight bytes of an address as a number. -/
def networkPrefix (address : In6Addr) : UInt64 :=
  let s6_addr (index : Nat) : UInt64 :=
    (address.bytes.getD index 0).toUInt64
  (s6_addr 0 <<< 56) ||| (s6_addr 1 <<< 48) ||| (s6_addr 2 <<< 40) |||
    (s6_addr 3 <<< 32) ||| (s6_addr 4 <<< 24) ||| (s6_addr 5 <<< 16) |||
    (s6_addr 6 <<< 8) ||| (s6_addr 7 <<< 0)

def optionPrefix : Except Exit Options :=
  match addressArgument library optarg options "Unknown host: " with
  | .error exit => .error exit
  | .ok address =>
      .ok { options with u64NetworkPrefix := networkPrefix address }

def optionKey : Except Exit Options :=
  match addressArgument library optarg options
      "Could not parse network key: " with
  | .error exit => .error exit
  | .ok address =>
      .ok { options with sSecurityKey := address, iSecureNetwork := 1 }

def optionRadiusIP : Except Exit Options :=
  if options.eAuthScheme = authSchemeRadiusPAP then
    match addressArgument library optarg options "Unknown host: " with
    | .error exit => .error exit
    | .ok address => .ok { options with uAuthSchemeData := address }
  else
    .ok
      (options.print
        ("Option '-i' is not appropriate for authorisation scheme " ++
          formatSigned options.eAuthScheme ++ "\n"))

/-! ## Other options -/

def optionConfigNotify : Except Exit Options :=
  match library.stat optarg with
  | .ok _ =>
      .ok
        { options with
          pcConfigProgram := some optarg
          vprConfigChanged := true }
  | .error text =>
      .error
        (options.failWithUsage
          ("Config stat notification program '" ++ optarg ++ "' (" ++
            text ++ ")\n"))

/-- The message for a front end speaks of modes, too. -/
def unknownMode : Exit :=
  options.failWithUsage
    ("Unknown mode '" ++ optarg ++ "' specified. Supported modes are " ++
      "'coordinator', 'router', 'commissioning'\n")

def optionFrontEnd : Except Exit Options :=
  if optarg = "SP" then
    .ok { options with eRadioFrontEnd := .standardPower }
  else if optarg = "HP" then
    .ok { options with eRadioFrontEnd := .highPower }
  else if optarg = "ETSI" then
    .ok { options with eRadioFrontEnd := .etsi }
  else
    .error (unknownMode optarg options)

def optionMode : Except Exit Options :=
  if optarg = "coordinator" then
    .ok { options with eModuleMode := .coordinator }
  else if optarg = "router" then
    .ok { options with eModuleMode := .router }
  else if optarg = "commissioning" then
    .ok { options with eModuleMode := .commissioning }
  else
    .error (unknownMode optarg options)

end Cases

/-! ## The loop over the options -/

/-- The `switch` over the option character. -/
def processOption (library : Library) (opt : Char) (optarg : String)
    (options : Options) : Except Exit Options :=
  match opt with
  | 'f' => .ok { options with daemonize := false }
  | 'v' => .ok { options with verbosity := atoi optarg.toList }
  | 'B' => optionBaudRate library optarg options
  | 's' => .ok { options with cpSerialDevice := some optarg }
  | 'C' => optionConfigNotify library optarg options
  | 'A' => optionActivityLED library optarg options
  | 'F' => optionFrontEnd optarg options
  | 'D' => .ok { options with iAntennaDiversity := 1 }
  | 'm' => optionMode optarg options
  | 'r' => optionRegion library optarg options
  | 'c' => optionChannel library optarg options
  | 'p' => optionPanID library optarg options
  | 'j' => optionJenNetID library optarg options
  | 'P' => optionProfile library optarg options
  | '6' => optionPrefix library optarg options
  | 'I' => .ok { options with cpTunDevice := optarg }
  | 'R' => .ok { options with iResetCoordinator := true }
  | 'k' => optionKey library optarg options
  | 'a' => optionAuthScheme library optarg options
  | 'i' => optionRadiusIP library optarg options
  -- `h`, and `?` for what `getopt_long` does not accept
  | _ => .error ⟨options.printed, true⟩

/-- The loop over the options that `getopt_long` returns. -/
def processOptions (library : Library) :
    List (Char × String) → Options → Except Exit Options
  | [], options => .ok options
  | (opt, optarg) :: rest, options =>
      match processOption library opt optarg options with
      | .error exit => .error exit
      | .ok options => processOptions library rest options

/-- An entry of `long_options`. -/
structure LongOption where
  name : String
  required_argument : Bool
  val : Char
  deriving DecidableEq

def longOptions : List LongOption :=
  [⟨"serial", true, 's'⟩, ⟨"help", false, 'h'⟩,
    ⟨"foreground", false, 'f'⟩, ⟨"verbosity", true, 'v'⟩,
    ⟨"baud", true, 'B'⟩, ⟨"interface", true, 'I'⟩,
    ⟨"reset", false, 'R'⟩, ⟨"confignotify", true, 'C'⟩,
    ⟨"activityled", true, 'A'⟩, ⟨"frontend", true, 'F'⟩,
    ⟨"diversity", false, 'D'⟩, ⟨"mode", true, 'm'⟩,
    ⟨"region", true, 'r'⟩, ⟨"channel", true, 'c'⟩,
    ⟨"pan", true, 'p'⟩, ⟨"network", true, 'j'⟩,
    ⟨"profile", true, 'P'⟩, ⟨"prefix", true, '6'⟩,
    ⟨"key", true, 'k'⟩, ⟨"authscheme", true, 'a'⟩,
    ⟨"radiusip", true, 'i'⟩]

/-- The option and the argument in a word `--name=value`; other words are not
read here. -/
def longOption : List Char → Option (Char × String)
  | '-' :: '-' :: text =>
      let name := text.takeWhile fun c => c ≠ '='
      match text.dropWhile fun c => c ≠ '=',
          longOptions.find? fun option => option.name.toList = name with
      | _ :: value, some option =>
          if option.required_argument then
            some (option.val, String.ofList value)
          else
            none
      | _, _ => none
  | _ => none

/-! ## The range checks -/

/-- An accepted checked option has assigned a value that passes its check. -/
theorem checkedOption_ok {library : Library} {optarg : String}
    {options after : Options} {name invalid : String}
    {check : UInt32 → Bool} {assign : UInt32 → Options → Options}
    (accepted :
      checkedOption library optarg options name check invalid assign =
        .ok after) :
    ∃ value, numericArgument library optarg options name = .ok value ∧
      check value = true ∧ after = assign value options := by
  unfold checkedOption at accepted
  split at accepted
  · cases accepted
  · rename_i value converted
    split at accepted
    · cases accepted
    · rename_i passed
      cases accepted
      exact ⟨value, converted, by simpa using passed, rfl⟩

theorem uncheckedOption_ok {library : Library} {optarg : String}
    {options after : Options} {name : String}
    {assign : UInt32 → Options → Options}
    (accepted :
      uncheckedOption library optarg options name assign = .ok after) :
    ∃ value, numericArgument library optarg options name = .ok value ∧
      after = assign value options := by
  unfold uncheckedOption at accepted
  split at accepted
  · cases accepted
  · rename_i value converted
    cases accepted
    exact ⟨value, converted, rfl⟩

/-- A byte survives the casts of an assignment. -/
theorem toUInt8_toUInt32_of_small {value : UInt32}
    (small : value.toNat < 256) : value.toUInt8.toUInt32 = value := by
  apply UInt32.toNat_inj.mp
  rw [UInt8.toNat_toUInt32, UInt32.toNat_toUInt8]
  exact Nat.mod_eq_of_lt small

theorem regionCheck_iff (u32Region : UInt32) :
    regionCheck u32Region = true ↔ u32Region.toNat ≤ 3 := by
  simp [regionCheck, regionMax, UInt32.le_iff_toNat_le]

theorem channelCheck_iff (u32Channel : UInt32) :
    channelCheck u32Channel = true ↔
      u32Channel.toNat = 0 ∨
        (11 ≤ u32Channel.toNat ∧ u32Channel.toNat ≤ 26) := by
  simp [channelCheck, channelAutomatic, channelMinimum, channelMaximum,
    UInt32.le_iff_toNat_le, ← UInt32.toNat_inj]

theorem panIDCheck_iff (u32PanID : UInt32) :
    panIDCheck u32PanID = true ↔ u32PanID.toNat ≤ 0xFFFF := by
  simp [panIDCheck, UInt32.le_iff_toNat_le]

theorem profileCheck_iff (u32JenNetProfile : UInt32) :
    profileCheck u32JenNetProfile = true ↔
      u32JenNetProfile.toNat ≤ 0xFF := by
  simp [profileCheck, UInt32.le_iff_toNat_le]

/-- Whether the option, if it is accepted, leaves region and channel. -/
def KeepsRadio (options : Options) (result : Except Exit Options) : Prop :=
  ∀ after, result = .ok after →
    after.eRegion = options.eRegion ∧ after.eChannel = options.eChannel

namespace KeepsRadio

variable (library : Library) (optarg : String) (options : Options)

@[simp]
theorem ok_iff (after : Options) :
    KeepsRadio options (.ok after) ↔
      after.eRegion = options.eRegion ∧
        after.eChannel = options.eChannel := by
  constructor
  · intro keeps
    exact keeps after rfl
  · rintro keeps _ ⟨⟩
    exact keeps

@[simp]
theorem error (exit : Exit) : KeepsRadio options (.error exit) := by
  rintro _ ⟨⟩

theorem unchecked {name : String}
    {assign : UInt32 → Options → Options}
    (keeps : ∀ value, KeepsRadio options (.ok (assign value options))) :
    KeepsRadio options
      (uncheckedOption library optarg options name assign) := by
  intro after accepted
  obtain ⟨value, -, rfl⟩ := uncheckedOption_ok accepted
  exact keeps value _ rfl

theorem checked {name invalid : String} {check : UInt32 → Bool}
    {assign : UInt32 → Options → Options}
    (keeps : ∀ value, KeepsRadio options (.ok (assign value options))) :
    KeepsRadio options
      (checkedOption library optarg options name check invalid
        assign) := by
  intro after accepted
  obtain ⟨value, -, -, rfl⟩ := checkedOption_ok accepted
  exact keeps value _ rfl

@[simp]
theorem radiusIP :
    KeepsRadio options (optionRadiusIP library optarg options) := by
  unfold optionRadiusIP
  split
  · split <;> simp
  · simp [Options.print]

@[simp]
theorem authScheme :
    KeepsRadio options (optionAuthScheme library optarg options) := by
  unfold optionAuthScheme
  split
  · simp
  · split
    · simp [Options.print]
    · split <;> simp

@[simp]
theorem address :
    KeepsRadio options (optionPrefix library optarg options) ∧
      KeepsRadio options (optionKey library optarg options) := by
  unfold optionPrefix optionKey
  constructor
  · split <;> simp
  · split <;> simp

@[simp]
theorem configNotify :
    KeepsRadio options (optionConfigNotify library optarg options) := by
  unfold optionConfigNotify
  split <;> simp

@[simp]
theorem frontEnd :
    KeepsRadio options (optionFrontEnd optarg options) := by
  unfold optionFrontEnd
  repeat' split
  all_goals simp

@[simp]
theorem mode : KeepsRadio options (optionMode optarg options) := by
  unfold optionMode
  repeat' split
  all_goals simp

/-- Only the options `-r` and `-c` change region and channel. -/
theorem processOption {opt : Char} (notRegion : opt ≠ 'r')
    (notChannel : opt ≠ 'c') :
    KeepsRadio options (processOption library opt optarg options) := by
  unfold CommandLine.processOption
  split
  case h_10 | h_11 => contradiction
  case h_3 | h_6 | h_13 =>
    exact unchecked library optarg options fun value => by simp
  case h_12 | h_14 =>
    exact checked library optarg options fun value => by simp
  all_goals simp

end KeepsRadio

/-- An accepted option keeps the ranges of region and channel. -/
theorem rangeChecked_processOption {library : Library} {opt : Char}
    {optarg : String} {options after : Options}
    (inRange : options.rangeChecked)
    (accepted : processOption library opt optarg options = .ok after) :
    after.rangeChecked := by
  by_cases isRegion : opt = 'r'
  · subst isRegion
    have accepted : optionRegion library optarg options = .ok after :=
      accepted
    obtain ⟨value, -, passed, rfl⟩ := checkedOption_ok accepted
    have bound := (regionCheck_iff value).mp passed
    refine ⟨?_, inRange.2⟩
    dsimp only
    rw [toUInt8_toUInt32_of_small (by omega)]
    exact UInt32.le_iff_toNat_le.mpr bound
  · by_cases isChannel : opt = 'c'
    · subst isChannel
      have accepted : optionChannel library optarg options = .ok after :=
        accepted
      obtain ⟨value, -, passed, rfl⟩ := checkedOption_ok accepted
      have bound := (channelCheck_iff value).mp passed
      refine ⟨inRange.1, ?_⟩
      dsimp only
      rw [toUInt8_toUInt32_of_small (by omega)]
      simpa [channelCheck] using passed
    · obtain ⟨region, channel⟩ :=
        KeepsRadio.processOption library optarg options isRegion isChannel
          after accepted
      rw [Settings.rangeChecked, region, channel]
      exact inRange

/-- A program that goes on after its options has region and channel in
range. -/
theorem rangeChecked_processOptions {library : Library}
    {arguments : List (Char × String)} {options after : Options}
    (inRange : options.rangeChecked)
    (accepted : processOptions library arguments options = .ok after) :
    after.rangeChecked := by
  induction arguments generalizing options with
  | nil =>
      cases accepted
      exact inRange
  | cons argument rest inductionHypothesis =>
      obtain ⟨opt, optarg⟩ := argument
      unfold processOptions at accepted
      split at accepted
      · cases accepted
      · rename_i next processed
        exact inductionHypothesis
          (rangeChecked_processOption inRange processed) accepted

theorem rangeChecked_startUp {library : Library}
    {arguments : List (Char × String)} {after : Options}
    (accepted :
      processOptions library arguments .startUp = .ok after) :
    after.rangeChecked :=
  rangeChecked_processOptions Settings.default_rangeChecked accepted

end SixLoWPANd.CommandLine
