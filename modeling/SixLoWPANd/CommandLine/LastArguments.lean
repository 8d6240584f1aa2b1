import SixLoWPANd.CommandLine.NumericOptions
import SixLoWPANd.Foundation.KeyedWrites

/-!
# The last argument counts

`settled` says what the options mean without going through them one by one:
each variable has the value of the last argument of its option.  Only `-i`
looks at another option, the scheme that the last `-a` before it has selected;
without the scheme that wants a server it does nothing but print a line.

So options of different kinds may be given in any order, if `-a` and `-i` count
as one kind: the same command lines are accepted, and the variables are the
same.
-/

namespace SixLoWPANd.CommandLine

open SixLoWPANd.Foundation
open SixLoWPANd.JennicModule

/-! ## Arguments by themselves -/

/-- What an accepted numeric argument is converted to. -/
def numericValue (optarg : String) : UInt32 :=
  (strtoul optarg.toList).value.toUInt32

def isNumeric (optarg : String) : Bool :=
  !(strtoul optarg.toList).erange &&
    decide ((strtoul optarg.toList).pcEnd = [])

def namedMode (optarg : String) : Option ModuleMode :=
  if optarg = "coordinator" then some .coordinator
  else if optarg = "router" then some .router
  else if optarg = "commissioning" then some .commissioning
  else none

def namedFrontEnd (optarg : String) : Option RadioFrontEnd :=
  if optarg = "SP" then some .standardPower
  else if optarg = "HP" then some .highPower
  else if optarg = "ETSI" then some .etsi
  else none

/-- The address that `inet_pton` reads. -/
def readAddress (library : Library) (optarg : String) : Option In6Addr :=
  match library.inetPton optarg with
  | .address sin6_addr => some sin6_addr
  | .invalid | .failed _ => none

/-- Whether the option goes on with the argument. -/
def accepts (library : Library) (argument : Char × String) : Bool :=
  match argument.1 with
  | 'f' | 'D' | 'R' | 'v' | 's' | 'I' => true
  | 'B' | 'A' | 'j' => isNumeric argument.2
  | 'r' => isNumeric argument.2 && regionCheck (numericValue argument.2)
  | 'c' => isNumeric argument.2 && channelCheck (numericValue argument.2)
  | 'p' => isNumeric argument.2 && panIDCheck (numericValue argument.2)
  | 'P' => isNumeric argument.2 && profileCheck (numericValue argument.2)
  | 'a' =>
      isNumeric argument.2 &&
        (numericValue argument.2 = 0 || numericValue argument.2 = 1)
  | '6' | 'k' | 'i' => (readAddress library argument.2).isSome
  | 'C' => (library.stat argument.2).isOk
  | 'm' => (namedMode argument.2).isSome
  | 'F' => (namedFrontEnd argument.2).isSome
  | _ => false

/-- The arguments without those of `-i` that meet another scheme than the one
with a server. -/
def effectiveArguments :
    UInt32 → List (Char × String) → List (Char × String)
  | _, [] => []
  | eAuthScheme, (opt, optarg) :: rest =>
      if opt = 'i' ∧ eAuthScheme ≠ authSchemeRadiusPAP then
        effectiveArguments eAuthScheme rest
      else
        (opt, optarg) ::
          effectiveArguments
            (if opt = 'a' then numericValue optarg else eAuthScheme) rest

/-- The variables behind all arguments. -/
def settled (library : Library) (options : Options)
    (arguments : List (Char × String)) : Options where
  eModuleMode :=
    lastWritten 'm' (fun optarg => (namedMode optarg).getD .coordinator)
      options.eModuleMode arguments
  eRegion :=
    lastWritten 'r' (fun optarg => (numericValue optarg).toUInt8.toUInt32)
      options.eRegion arguments
  eChannel :=
    lastWritten 'c' (fun optarg => (numericValue optarg).toUInt8.toUInt32)
      options.eChannel arguments
  u16PanID :=
    lastWritten 'p' (fun optarg => (numericValue optarg).toUInt16)
      options.u16PanID arguments
  u32UserData :=
    lastWritten 'j' numericValue options.u32UserData arguments
  u64NetworkPrefix :=
    lastWritten '6'
      (fun optarg =>
        networkPrefix ((readAddress library optarg).getD .unspecified))
      options.u64NetworkPrefix arguments
  u8JenNetProfile :=
    lastWritten 'P' (fun optarg => (numericValue optarg).toUInt8)
      options.u8JenNetProfile arguments
  iSecureNetwork :=
    lastWritten 'k' (fun _ => 1) options.iSecureNetwork arguments
  sSecurityKey :=
    lastWritten 'k'
      (fun optarg => (readAddress library optarg).getD .unspecified)
      options.sSecurityKey arguments
  eAuthScheme :=
    lastWritten 'a' numericValue options.eAuthScheme arguments
  uAuthSchemeData :=
    lastWritten 'i'
      (fun optarg => (readAddress library optarg).getD .unspecified)
      options.uAuthSchemeData
      (effectiveArguments options.eAuthScheme arguments)
  vprConfigChanged :=
    lastWritten 'C' (fun _ => true) options.vprConfigChanged arguments
  eActivityLED :=
    lastWritten 'A' numericValue options.eActivityLED arguments
  eRadioFrontEnd :=
    lastWritten 'F'
      (fun optarg => (namedFrontEnd optarg).getD .standardPower)
      options.eRadioFrontEnd arguments
  iAntennaDiversity :=
    lastWritten 'D' (fun _ => 1) options.iAntennaDiversity arguments
  verbosity :=
    lastWritten 'v' (fun optarg => atoi optarg.toList) options.verbosity
      arguments
  daemonize :=
    lastWritten 'f' (fun _ => false) options.daemonize arguments
  iResetCoordinator :=
    lastWritten 'R' (fun _ => true) options.iResetCoordinator arguments
  u32BaudRate :=
    lastWritten 'B' numericValue options.u32BaudRate arguments
  cpSerialDevice :=
    lastWritten 's' some options.cpSerialDevice arguments
  cpTunDevice :=
    lastWritten 'I' id options.cpTunDevice arguments
  pcConfigProgram :=
    lastWritten 'C' some options.pcConfigProgram arguments
  printed := options.printed

/-! ## One option -/

/-- The options without what has been printed. -/
def Options.unprinted (options : Options) : Options :=
  { options with printed := [] }

/-- The result of a case, if nobody reads what has been printed. -/
def Gives (result : Except Exit Options) (accepted : Bool)
    (after : Options) : Prop :=
  result.toOption.map Options.unprinted =
    if accepted then some after.unprinted else none

section OneOption

variable (library : Library) (optarg : String) (options : Options)

theorem numericArgument_toOption (name : String) :
    (numericArgument library optarg options name).toOption =
      if isNumeric optarg then some (numericValue optarg) else none := by
  unfold numericArgument isNumeric numericValue
  dsimp only
  by_cases erange : (strtoul optarg.toList).erange = true
  · simp [erange, Except.toOption]
  · by_cases usedUp : (strtoul optarg.toList).pcEnd = []
    · simp [erange, usedUp, Except.toOption]
    · simp [erange, usedUp, Except.toOption]

theorem unchecked_gives (name : String)
    (assign : UInt32 → Options → Options) :
    Gives (uncheckedOption library optarg options name assign)
      (isNumeric optarg) (assign (numericValue optarg) options) := by
  have read := numericArgument_toOption library optarg options name
  unfold Gives uncheckedOption
  cases converted : numericArgument library optarg options name with
  | error exit =>
      rw [converted] at read
      by_cases numeric : isNumeric optarg = true
      · simp [numeric, Except.toOption] at read
      · simp [numeric, Except.toOption]
  | ok value =>
      rw [converted] at read
      by_cases numeric : isNumeric optarg = true
      · simp only [numeric, if_true, Except.toOption,
          Option.some.injEq] at read
        simp [numeric, read, Except.toOption]
      · simp [numeric, Except.toOption] at read

theorem checked_gives (name : String) (check : UInt32 → Bool)
    (invalid : String) (assign : UInt32 → Options → Options) :
    Gives
      (checkedOption library optarg options name check invalid assign)
      (isNumeric optarg && check (numericValue optarg))
      (assign (numericValue optarg) options) := by
  have read := numericArgument_toOption library optarg options name
  unfold Gives checkedOption
  cases converted : numericArgument library optarg options name with
  | error exit =>
      rw [converted] at read
      by_cases numeric : isNumeric optarg = true
      · simp [numeric, Except.toOption] at read
      · simp [numeric, Except.toOption]
  | ok value =>
      rw [converted] at read
      by_cases numeric : isNumeric optarg = true
      · simp only [numeric, if_true, Except.toOption,
          Option.some.injEq] at read
        by_cases passed : check (numericValue optarg) = true
        · simp [numeric, read, passed, Except.toOption]
        · simp [numeric, read, passed, Except.toOption]
      · simp [numeric, Except.toOption] at read

theorem authScheme_gives :
    Gives (optionAuthScheme library optarg options)
      (isNumeric optarg &&
        (numericValue optarg = 0 || numericValue optarg = 1))
      { options with eAuthScheme := numericValue optarg } := by
  have read :=
    numericArgument_toOption library optarg options
      "Authorisation scheme"
  unfold Gives optionAuthScheme
  cases converted :
      numericArgument library optarg options "Authorisation scheme" with
  | error exit =>
      rw [converted] at read
      by_cases numeric : isNumeric optarg = true
      · simp [numeric, Except.toOption] at read
      · simp [numeric, Except.toOption]
  | ok value =>
      rw [converted] at read
      by_cases numeric : isNumeric optarg = true
      · simp only [numeric, if_true, Except.toOption,
          Option.some.injEq] at read
        subst read
        by_cases none : numericValue optarg = 0
        · simp [numeric, none, Except.toOption, Options.unprinted,
            Options.print]
        · by_cases radius : numericValue optarg = 1
          · simp [numeric, radius, Except.toOption]
          · simp [numeric, none, radius, Except.toOption]
      · simp [numeric, Except.toOption] at read

theorem prefix_gives :
    Gives (optionPrefix library optarg options)
      (readAddress library optarg).isSome
      { options with
        u64NetworkPrefix :=
          networkPrefix
            ((readAddress library optarg).getD .unspecified) } := by
  unfold Gives optionPrefix addressArgument readAddress
  cases library.inetPton optarg with
  | address | invalid | failed => rfl

theorem key_gives :
    Gives (optionKey library optarg options)
      (readAddress library optarg).isSome
      { options with
        sSecurityKey :=
          (readAddress library optarg).getD .unspecified
        iSecureNetwork := 1 } := by
  unfold Gives optionKey addressArgument readAddress
  cases library.inetPton optarg with
  | address | invalid | failed => rfl

/-- Nothing but a line is printed if another scheme is selected. -/
theorem radiusIP_gives :
    Gives (optionRadiusIP library optarg options)
      ((effectiveArguments options.eAuthScheme [('i', optarg)]).all
        (accepts library))
      (settled library options [('i', optarg)]) := by
  by_cases radius : options.eAuthScheme = authSchemeRadiusPAP
  · have effective :
        effectiveArguments options.eAuthScheme [('i', optarg)] =
          [('i', optarg)] := by
      simp [effectiveArguments, radius]
    have assigned :
        Gives (optionRadiusIP library optarg options)
          (readAddress library optarg).isSome
          { options with
            uAuthSchemeData :=
              (readAddress library optarg).getD .unspecified } := by
      unfold Gives optionRadiusIP addressArgument readAddress
      rw [if_pos radius]
      cases library.inetPton optarg with
      | address | invalid | failed => rfl
    unfold settled
    rw [effective, List.all_cons, List.all_nil, Bool.and_true]
    exact assigned
  · have effective :
        effectiveArguments options.eAuthScheme [('i', optarg)] = [] := by
      simp [effectiveArguments, radius]
    unfold settled
    rw [effective]
    unfold Gives optionRadiusIP
    rw [if_neg radius]
    rfl

theorem mode_gives :
    Gives (optionMode optarg options) (namedMode optarg).isSome
      { options with
        eModuleMode := (namedMode optarg).getD .coordinator } := by
  unfold Gives optionMode namedMode
  split
  · rfl
  · split
    · rfl
    · split <;> rfl

theorem frontEnd_gives :
    Gives (optionFrontEnd optarg options) (namedFrontEnd optarg).isSome
      { options with
        eRadioFrontEnd :=
          (namedFrontEnd optarg).getD .standardPower } := by
  unfold Gives optionFrontEnd namedFrontEnd
  split
  · rfl
  · split
    · rfl
    · split <;> rfl

theorem configNotify_gives :
    Gives (optionConfigNotify library optarg options)
      (library.stat optarg).isOk
      { options with
        pcConfigProgram := some optarg
        vprConfigChanged := true } := by
  unfold Gives optionConfigNotify
  cases library.stat optarg with
  | ok _ => rfl
  | error text => rfl

/-- An option does what is settled for it alone. -/
theorem processOption_gives (opt : Char) :
    Gives (processOption library opt optarg options)
      ((effectiveArguments options.eAuthScheme [(opt, optarg)]).all
        (accepts library))
      (settled library options [(opt, optarg)]) := by
  by_cases radius : opt = 'i'
  · subst radius
    exact radiusIP_gives library optarg options
  · have effective :
        effectiveArguments options.eAuthScheme [(opt, optarg)] =
          [(opt, optarg)] := by
      simp [effectiveArguments, radius]
    unfold settled
    rw [effective, List.all_cons, List.all_nil, Bool.and_true]
    unfold processOption
    split
    case h_1 | h_2 | h_4 | h_8 | h_16 | h_17 => rfl
    case h_3 =>
      exact unchecked_gives library optarg options "Baud rate" _
    case h_5 => exact configNotify_gives library optarg options
    case h_6 =>
      exact unchecked_gives library optarg options "Activity LED" _
    case h_7 => exact frontEnd_gives optarg options
    case h_9 => exact mode_gives optarg options
    case h_10 =>
      exact checked_gives library optarg options "Region" regionCheck _ _
    case h_11 =>
      exact
        checked_gives library optarg options "Channel" channelCheck _ _
    case h_12 =>
      exact checked_gives library optarg options "PAN ID" panIDCheck _ _
    case h_13 =>
      exact unchecked_gives library optarg options "JenNet ID" _
    case h_14 =>
      exact
        checked_gives library optarg options "JenNet Profile" profileCheck
          _ _
    case h_15 => exact prefix_gives library optarg options
    case h_18 => exact key_gives library optarg options
    case h_19 => exact authScheme_gives library optarg options
    case h_20 => contradiction
    case h_21 =>
      have refused : accepts library (opt, optarg) = false := by
        unfold accepts
        split <;> first | rfl | contradiction
      rw [refused]
      rfl

end OneOption

/-! ## All options -/

section AllOptions

variable (library : Library)

/-- The scheme behind the first argument decides about the others. -/
theorem effectiveArguments_cons (eAuthScheme : UInt32)
    (argument : Char × String) (rest : List (Char × String)) :
    effectiveArguments eAuthScheme (argument :: rest) =
      effectiveArguments eAuthScheme [argument] ++
        effectiveArguments
          (lastWritten 'a' numericValue eAuthScheme [argument]) rest := by
  obtain ⟨opt, optarg⟩ := argument
  by_cases ignored : opt = 'i' ∧ eAuthScheme ≠ authSchemeRadiusPAP
  · obtain ⟨rfl, other⟩ := ignored
    simp [effectiveArguments, other]
  · rw [effectiveArguments, effectiveArguments, if_neg ignored,
      if_neg ignored]
    rfl

theorem settled_cons (options : Options) (argument : Char × String)
    (rest : List (Char × String)) :
    settled library options (argument :: rest) =
      settled library (settled library options [argument]) rest := by
  unfold settled
  rw [effectiveArguments_cons, lastWritten_append]
  rfl

/-- What has been printed settles nothing. -/
theorem settled_unprinted (options : Options)
    (arguments : List (Char × String)) :
    (settled library options arguments).unprinted =
      settled library options.unprinted arguments := rfl

/-- The command line is accepted exactly if all its effective arguments are,
one by one, and behind it every variable is settled. -/
theorem processOptions_settled (options : Options)
    (arguments : List (Char × String)) :
    (processOptions library arguments options).toOption.map
        Options.unprinted =
      if (effectiveArguments options.eAuthScheme arguments).all
          (accepts library) then
        some (settled library options arguments).unprinted
      else
        none := by
  induction arguments generalizing options with
  | nil =>
      rfl
  | cons argument rest inductionHypothesis =>
      obtain ⟨opt, optarg⟩ := argument
      have first := processOption_gives library optarg options opt
      unfold Gives at first
      rw [effectiveArguments_cons, List.all_append, processOptions]
      by_cases accepted :
          (effectiveArguments options.eAuthScheme [(opt, optarg)]).all
            (accepts library) = true
      · rw [if_pos accepted] at first
        cases processed : processOption library opt optarg options with
        | error exit =>
            rw [processed] at first
            cases first
        | ok after =>
            rw [processed] at first
            have same :
                after.unprinted =
                  (settled library options [(opt, optarg)]).unprinted :=
              Option.some.inj first
            have sameScheme :
                after.eAuthScheme =
                  lastWritten 'a' numericValue options.eAuthScheme
                    [(opt, optarg)] :=
              congrArg (fun options => options.eAuthScheme) same
            rw [inductionHypothesis, settled_unprinted, same,
              ← settled_unprinted,
              settled_cons library options (opt, optarg) rest, sameScheme,
              accepted, Bool.true_and]
      · rw [if_neg accepted] at first
        rw [Bool.eq_false_iff.mpr accepted, Bool.false_and]
        cases processed : processOption library opt optarg options with
        | error exit => rfl
        | ok after =>
            rw [processed] at first
            cases first

/-- What the command line means when `main` is entered: if the program goes on,
every effective argument is accepted and every variable has the value of the
last argument of its option; if it ends, an effective argument is to blame. -/
theorem command_line_settled (arguments : List (Char × String)) :
    match processOptions library arguments Options.startUp with
    | .ok after =>
        (∀ argument ∈ effectiveArguments authSchemeNone arguments,
            accepts library argument = true) ∧
          after.unprinted =
            (settled library Options.startUp arguments).unprinted
    | .error _ =>
        ∃ argument ∈ effectiveArguments authSchemeNone arguments,
          accepts library argument = false := by
  have result :=
    processOptions_settled library Options.startUp arguments
  have scheme : Options.startUp.eAuthScheme = authSchemeNone := rfl
  rw [scheme] at result
  cases processed : processOptions library arguments Options.startUp with
  | ok after =>
      rw [processed] at result
      split at result
      · rename_i accepted
        exact ⟨List.all_eq_true.mp accepted, Option.some.inj result⟩
      · cases result
  | error exit =>
      rw [processed] at result
      split at result
      · cases result
      · rename_i refused
        have some_refused :
            ¬ ∀ argument ∈ effectiveArguments authSchemeNone arguments,
              accepts library argument = true :=
          fun all => refused (List.all_eq_true.mpr all)
        simpa using some_refused

/-! ## The order of the options -/

/-- The options in kinds: `-i` looks at `-a`. -/
def optionKind (opt : Char) : Char :=
  if opt = 'i' then 'a' else opt

theorem writesOf_effectiveArguments_other {selected : Char}
    (other : selected ≠ 'a') (eAuthScheme : UInt32)
    (arguments : List (Char × String)) :
    writesOf optionKind selected
        (effectiveArguments eAuthScheme arguments) =
      writesOf optionKind selected arguments := by
  induction arguments generalizing eAuthScheme with
  | nil =>
      rfl
  | cons argument rest inductionHypothesis =>
      obtain ⟨opt, optarg⟩ := argument
      unfold effectiveArguments
      split
      · rename_i ignored
        have notSelected : optionKind opt ≠ selected := by
          rw [ignored.1]
          exact other.symm
        rw [inductionHypothesis, writesOf_cons_of_ne notSelected]
      · by_cases isSelected : optionKind opt = selected
        · rw [writesOf_cons_of_eq isSelected, writesOf_cons_of_eq isSelected,
            inductionHypothesis]
        · rw [writesOf_cons_of_ne isSelected, writesOf_cons_of_ne isSelected,
            inductionHypothesis]

theorem writesOf_effectiveArguments (eAuthScheme : UInt32)
    (arguments : List (Char × String)) :
    writesOf optionKind 'a' (effectiveArguments eAuthScheme arguments) =
      effectiveArguments eAuthScheme
        (writesOf optionKind 'a' arguments) := by
  induction arguments generalizing eAuthScheme with
  | nil =>
      rfl
  | cons argument rest inductionHypothesis =>
      obtain ⟨opt, optarg⟩ := argument
      by_cases isSelected : optionKind opt = 'a'
      · rw [writesOf_cons_of_eq isSelected]
        unfold effectiveArguments
        split
        · exact inductionHypothesis _
        · rw [writesOf_cons_of_eq isSelected, inductionHypothesis]
      · have notServer : opt ≠ 'i' := by
          rintro rfl
          exact isSelected rfl
        have notScheme : opt ≠ 'a' := by
          rintro rfl
          exact isSelected rfl
        rw [writesOf_cons_of_ne isSelected, effectiveArguments,
          if_neg fun ignored => notServer ignored.1, if_neg notScheme,
          writesOf_cons_of_ne isSelected, inductionHypothesis]

variable {arguments others : List (Char × String)}

theorem agree_effectiveArguments
    (agree : AgreeByKind optionKind arguments others)
    (eAuthScheme : UInt32) :
    AgreeByKind optionKind (effectiveArguments eAuthScheme arguments)
      (effectiveArguments eAuthScheme others) := by
  intro selected
  by_cases scheme : selected = 'a'
  · rw [scheme, writesOf_effectiveArguments, writesOf_effectiveArguments,
      agree 'a']
  · rw [writesOf_effectiveArguments_other scheme,
      writesOf_effectiveArguments_other scheme, agree selected]

theorem settled_agree (options : Options)
    (agree : AgreeByKind optionKind arguments others) :
    settled library options arguments =
      settled library options others := by
  have effective := agree_effectiveArguments agree options.eAuthScheme
  simp only [settled, agree.lastWritten_eq, effective.lastWritten_eq]

/-- Command lines with the same arguments for each option, in the same order,
are accepted alike and leave the same variables, however the options are mixed;
`-a` and `-i` count as one option.  Nothing but the printed lines may differ. -/
theorem options_in_any_order (options : Options)
    (agree : AgreeByKind optionKind arguments others) :
    (processOptions library arguments options).toOption.map
        Options.unprinted =
      (processOptions library others options).toOption.map
        Options.unprinted := by
  have effective := agree_effectiveArguments agree options.eAuthScheme
  have accepted :
      (effectiveArguments options.eAuthScheme arguments).all
          (accepts library) =
        (effectiveArguments options.eAuthScheme others).all
          (accepts library) := by
    rw [Bool.eq_iff_iff, List.all_eq_true, List.all_eq_true]
    exact forall_congr' fun argument => by rw [effective.mem_iff]
  rw [processOptions_settled, processOptions_settled, accepted,
    settled_agree library options agree]

end AllOptions

/-- Channel and region may be exchanged. -/
theorem options_in_any_order_exchanged :
    (processOptions NumericOption.bareLibrary
        [('s', "tts"), ('c', "11"), ('r', "1")]
        Options.startUp).toOption.map Options.unprinted =
      (processOptions NumericOption.bareLibrary
        [('s', "tts"), ('r', "1"), ('c', "11")]
        Options.startUp).toOption.map Options.unprinted :=
  options_in_any_order NumericOption.bareLibrary Options.startUp
    (@agreeByKind_swap Char String Char _ optionKind ('c', "11")
      ('r', "1") (by decide) [('s', "tts")] [])

end SixLoWPANd.CommandLine
