import SixLoWPANd.CommandLine.LastArguments
import SixLoWPANd.MainLoop.Ending

/-!
# The whole program

`main` reads the command line, becomes a daemon, opens the serial device and
the TUN device, and enters its loop.  `program_frames` says what the module
hears of all this: nothing unless the loop is entered, and then the frames of a
run of the module interface with the settings of the command line, with a RESET
behind them if the loop has ended and the option for it was given.  The serial
device is one that accepts every byte, since `serial_write` ends the process on
another one.
-/

namespace SixLoWPANd.MainLoop

open SixLoWPANd.CommandLine
open SixLoWPANd.Foundation
open SixLoWPANd.JennicModule
open SixLoWPANd.SerialLink

/-! ## The serial device -/

/-- The members of `struct termios` that are looked at. -/
structure Termios where
  c_iflag : UInt32
  c_oflag : UInt32
  c_cflag : UInt32
  c_lflag : UInt32
  ispeed : UInt32
  ospeed : UInt32
  deriving DecidableEq

/-- The constants of `termios.h`, those that are joined in the source as one. -/
structure TermiosConstants where
  /-- `INPCK | ISTRIP | INLCR | IGNCR | ICRNL | IUCLC | IXON | IXANY | IXOFF`. -/
  inputProcessing : UInt32
  /-- `IGNBRK | IGNPAR`. -/
  inputIgnored : UInt32
  /-- `OPOST | OLCUC | ONLCR | OCRNL | ONOCR | ONLRET`. -/
  outputProcessing : UInt32
  /-- `CSIZE | CSTOPB | PARENB | CRTSCTS`. -/
  controlCleared : UInt32
  /-- `CS8 | CREAD | HUPCL | CLOCAL`. -/
  controlSet : UInt32
  /-- `ISIG | ICANON | ECHO | IEXTEN`. -/
  localProcessing : UInt32
  /-- The constant for a baud rate, if it is defined. -/
  speed : UInt32 → Option UInt32

/-- The cases of the `switch` over the baud rate. -/
def baudRates : List UInt32 :=
  [50, 75, 110, 134, 150, 200, 300, 600, 1200, 1800, 2400, 4800, 9600,
    19200, 38400, 57600, 115200, 230400, 460800, 500000, 576000, 921600,
    1000000, 1152000, 1500000, 2000000, 2500000, 3000000, 3500000,
    4000000]

/-- What the operating system answers while the serial device is opened. -/
structure SerialAnswers where
  opened : Except String Nat
  tcgetattr : Except String Termios
  tcsetattr : Except String Unit

/-- A log, newest first. -/
abbrev Log := List (Nat × String)

def rawTermios (constants : TermiosConstants) (baud : UInt32)
    (options : Termios) : Termios where
  -- `c_iflag` is cleared first and then assigned as a whole
  c_iflag := constants.inputIgnored
  c_oflag := options.c_oflag &&& ~~~constants.outputProcessing
  c_cflag :=
    (options.c_cflag &&& ~~~constants.controlCleared) |||
      constants.controlSet
  c_lflag := options.c_lflag &&& ~~~constants.localProcessing
  ispeed := baud
  ospeed := baud

/-- `serial_open`: the descriptor and the settings of the port, or nothing. -/
def serialOpen (constants : TermiosConstants) (answers : SerialAnswers)
    (name : String) (baud : UInt32) : Option (Nat × Termios) × Log :=
  let opening :=
    (logInfo,
      "Opening serial device '" ++ name ++ "' at baud rate " ++
        toString baud.toNat ++ "bps")
  match if baud ∈ baudRates then constants.speed baud else none with
  | none =>
      (none,
        [(logErr,
            "Unsupported baud rate speccified (" ++ formatSigned baud ++
              ")"),
          opening])
  | some speed =>
      match answers.opened with
      | .error text =>
          (none,
            [(logErr,
                "Couldn't open serial device \"" ++ name ++ "\"(" ++ text ++
                  ")"),
              opening])
      | .ok fd =>
          match answers.tcgetattr with
          | .error text =>
              (none,
                [(logErr, "Error getting port settings (" ++ text ++ ")"),
                  opening])
          | .ok options =>
              match answers.tcsetattr with
              | .error text =>
                  (none,
                    [(logErr,
                        "Error setting port settings (" ++ text ++ ")"),
                      opening])
              | .ok _ =>
                  (some (fd, rawTermios constants speed options), [opening])

/-- A port that is opened has a descriptor. -/
theorem opened_of_serialOpen {constants : TermiosConstants}
    {answers : SerialAnswers} {name : String} {baud : UInt32}
    {port : Nat × Termios}
    (opened : (serialOpen constants answers name baud).1 = some port) :
    answers.opened = .ok port.1 := by
  unfold serialOpen at opened
  dsimp only at opened
  split at opened
  · cases opened
  · split at opened
    · cases opened
    · rename_i fd isOpen
      split at opened
      · cases opened
      · split at opened
        · cases opened
        · cases opened
          exact isOpen

/-! ## The TUN device -/

/-- What the operating system answers while the TUN device is opened; `ioctl`
answers with the name of the device. -/
structure TunAnswers where
  opened : Except String Nat
  ioctl : Except String String

/-- `eTunDeviceOpen`: the descriptor, or nothing.  The name that is asked for
goes into the request. -/
def eTunDeviceOpen (answers : TunAnswers) : Option Nat × Log :=
  match answers.opened with
  | .error text =>
      (none, [(logErr, "Open /dev/net/tun failed (" ++ text ++ ")")])
  | .ok fd =>
      match answers.ioctl with
      | .error text =>
          (none,
            [(logErr,
              "Couldn't set options on tun device (" ++ text ++ ")")])
      | .ok ifr_name =>
          (some fd, [(logDebug, "Opened tun device: " ++ ifr_name)])

theorem opened_of_eTunDeviceOpen {answers : TunAnswers} {tun_fd : Nat}
    (opened : (eTunDeviceOpen answers).1 = some tun_fd) :
    answers.opened = .ok tun_fd := by
  unfold eTunDeviceOpen at opened
  split at opened
  · cases opened
  · rename_i fd isOpen
    split at opened
    · cases opened
    · cases opened
      exact isOpen

/-! ## The daemon -/

/-- What is answered before the loop is entered. -/
structure Launch where
  library : Library
  constants : TermiosConstants
  daemon_retval_init : Int
  /-- The process: negative for an error, zero for the daemon. -/
  daemon_fork : Int
  daemon_retval_wait : Except String Int
  daemon_close_all : Except String Unit
  serial : SerialAnswers
  tun : TunAnswers
  /-- Two open devices have two descriptors. -/
  distinct : ∀ {serial_fd tun_fd}, serial.opened = .ok serial_fd →
    tun.opened = .ok tun_fd → serial_fd ≠ tun_fd

/-- Where a process is behind the fork. -/
inductive Forked where
  | returns (status : Int)
  /-- It goes to the label `finish`. -/
  | finishes
  | goesOn
  deriving DecidableEq

/-- What `main` does to become a daemon. -/
def becomeDaemon (launch : Launch) : Forked × Log :=
  if launch.daemon_retval_init < 0 then
    (.returns 1, [(logErr, "Failed to create pipe.")])
  else if launch.daemon_fork < 0 then
    (.returns 1, [(logErr, "Failed to fork() daemon process.")])
  else if launch.daemon_fork ≠ 0 then
    match launch.daemon_retval_wait with
    | .error text =>
        (.returns 255,
          [(logErr,
            "Could not recieve return value from daemon process: " ++
              text)])
    | .ok ret =>
        if ret = 0 then
          (.returns ret, [(logInfo, "Daemon process started.")])
        else
          (.returns ret,
            [(logErr, "Daemon returned " ++ toString ret ++ ".")])
  else
    match launch.daemon_close_all with
    | .error text =>
        (.finishes,
          [(logErr, "Failed to close all file descriptors: " ++ text)])
    | .ok _ => (.goesOn, [(logInfo, "Daemon started")])

/-! ## The program -/

/-- What has become of the program: its options are not accepted, it has
returned, or it is in its loop.  The log is what `main` logs outside of the
loop. -/
inductive ProgramEnd where
  | exited (exit : Exit)
  | returned (status : Int) (main : Option MainState) (log : Log)
  | looping (main : MainState) (log : Log)

/-- The devices, if both are opened; the TUN device is opened behind the serial
device. -/
def openDevices (launch : Launch) (name : String) (baud : UInt32) :
    Option Descriptors × Log :=
  let serial := serialOpen launch.constants launch.serial name baud
  match opened : serial.1 with
  | none => (none, serial.2)
  | some (serial_fd, _) =>
      match openedTun : (eTunDeviceOpen launch.tun).1 with
      | none => (none, (eTunDeviceOpen launch.tun).2 ++ serial.2)
      | some tun_fd =>
          (some
              ⟨serial_fd, tun_fd,
                launch.distinct (opened_of_serialOpen opened)
                  (opened_of_eTunDeviceOpen openedTun)⟩,
            (eTunDeviceOpen launch.tun).2 ++ serial.2)

section Programs

variable (host : Host) (launch : Launch) (env resetEnv : Env)
variable (serialInput : List (Option UInt8)) (wakeUps : List WakeUp)

/-- The host with the TUN device of the options. -/
def Options.onHost (options : Options) : Host :=
  { host with cpTunDevice := options.cpTunDevice }

/-- The loop with the settings of the options. -/
def mainWith (fds : Descriptors) (options : Options) : MainState :=
  mainFrom (Options.onHost host options) fds env options.toSettings
    serialInput wakeUps

/-- The end of the program behind the loop. -/
def resetAtExit (main : MainState) : MainState :=
  { main with
    world :=
      (eJennicModuleReset resetEnv
        (main.world.daemonLog logInfo
          "Resetting Coordinator Module")).2 }

/-- The line behind the label `finish`. -/
def finishLog (options : Options) : Log :=
  if options.daemonize then [(logInfo, "Daemon process exiting")] else []

/-- `main` from the devices on. -/
def serve (name : String) (options : Options) (log : Log) : ProgramEnd :=
  match openDevices launch name options.u32BaudRate with
  | (none, opening) =>
      .returned 0 none (finishLog options ++ opening ++ log)
  | (some fds, opening) =>
      let main := mainWith host env serialInput wakeUps fds options
      if main.bRunning then
        .looping main (opening ++ log)
      else
        .returned 0
          (some
            (if options.iResetCoordinator then resetAtExit resetEnv main
            else main))
          (finishLog options ++ opening ++ log)

/-- `main` behind the command line. -/
def launchWith (options : Options) : ProgramEnd :=
  match options.cpSerialDevice with
  | none => .exited ⟨options.printed, true⟩
  | some name =>
      if options.daemonize then
        match becomeDaemon launch with
        | (.returns status, log) => .returned status none log
        | (.finishes, log) =>
            .returned 0 none (finishLog options ++ log)
        | (.goesOn, log) =>
            serve host launch env resetEnv serialInput wakeUps name options
              log
      else
        serve host launch env resetEnv serialInput wakeUps name options []

/-- `main`. -/
def program (arguments : List (Char × String)) : ProgramEnd :=
  match processOptions launch.library arguments .startUp with
  | .error exit => .exited exit
  | .ok options =>
      launchWith host launch env resetEnv serialInput wakeUps options

/-! ## What the module hears -/

/-- The frames for the module. -/
def ProgramEnd.frames : ProgramEnd → List (SLMsgType × List UInt8)
  | .exited _ | .returned _ none _ => []
  | .returned _ (some main) _ | .looping main _ =>
      emitted main.world.history

/-- The devices of a program that enters its loop. -/
def entersLoop (options : Options) : Option Descriptors :=
  match options.cpSerialDevice with
  | none => none
  | some name =>
      if options.daemonize = true ∧ (becomeDaemon launch).1 ≠ .goesOn then
        none
      else
        (openDevices launch name options.u32BaudRate).1

/-- The frames of a run of the interface, and of the end of the program. -/
def loopFrames (options : Options) : List (SLMsgType × List UInt8) :=
  match entersLoop launch options with
  | none => []
  | some fds =>
      emitted
          (runFrom (Options.onHost host options) env options.toSettings
            (interfaceCalls (Options.onHost host options) fds env
              options.toSettings serialInput wakeUps)).history ++
        if (mainWith host env serialInput wakeUps fds options).bRunning =
            false ∧
            options.iResetCoordinator = true then
          [(.reset, [])]
        else
          []

theorem mainWith_emitted (fds : Descriptors) (options : Options) :
    emitted
        (mainWith host env serialInput wakeUps fds options).world.history =
      emitted
        (runFrom (Options.onHost host options) env options.toSettings
          (interfaceCalls (Options.onHost host options) fds env
            options.toSettings serialInput wakeUps)).history := by
  rw [mainWith,
    eq_of_alike_full
      (mainFrom_alike_run (Options.onHost host options) fds env
        options.toSettings serialInput wakeUps)]

theorem resetAtExit_emitted (main : MainState) :
    emitted (resetAtExit resetEnv main).world.history =
      emitted main.world.history ++ [(.reset, [])] := by
  simp [resetAtExit, World.daemonLog]

/-- What the module hears from the devices on. -/
theorem serve_frames (name : String) (options : Options) (log : Log) :
    (serve host launch env resetEnv serialInput wakeUps name options
        log).frames =
      match (openDevices launch name options.u32BaudRate).1 with
      | none => []
      | some fds =>
          emitted
              (runFrom (Options.onHost host options) env options.toSettings
                (interfaceCalls (Options.onHost host options) fds env
                  options.toSettings serialInput wakeUps)).history ++
            if (mainWith host env serialInput wakeUps fds
                  options).bRunning = false ∧
                options.iResetCoordinator = true then
              [(.reset, [])]
            else
              [] := by
  unfold serve
  rcases openDevices launch name options.u32BaudRate with
    ⟨none | fds, opening⟩
  · rfl
  · dsimp only
    rw [← mainWith_emitted]
    cases (mainWith host env serialInput wakeUps fds options).bRunning with
    | true => simp [ProgramEnd.frames]
    | false =>
        cases options.iResetCoordinator with
        | true =>
            simp [ProgramEnd.frames, resetAtExit_emitted]
        | false =>
            simp [ProgramEnd.frames]

theorem launchWith_frames (options : Options) :
    (launchWith host launch env resetEnv serialInput wakeUps
        options).frames =
      loopFrames host launch env serialInput wakeUps options := by
  unfold launchWith loopFrames entersLoop
  cases options.cpSerialDevice with
  | none => rfl
  | some name =>
      dsimp only
      by_cases daemonize : options.daemonize = true
      · rw [if_pos daemonize]
        rcases becomeDaemon launch with ⟨status | _ | _, log⟩
        · simp [daemonize, ProgramEnd.frames]
        · simp [daemonize, ProgramEnd.frames]
        · rw [if_neg (by simp)]
          exact serve_frames _ _ _ _ _ _ _ _ _
      · rw [if_neg daemonize, if_neg (fun both => daemonize both.1)]
        exact serve_frames _ _ _ _ _ _ _ _ _

end Programs

end SixLoWPANd.MainLoop
