import Chip8.CommandLine.Arguments
import Chip8.CommandLine.Help
import Chip8.CommandLine.Outcome
import Chip8.CommandLine.Report
import Chip8.Rom.Launch
import Chip8.Run.Script

/-!
# Sessions

What the command does for each command line, from its arguments to its exit code.  Everything
short of a front end is settled at once; otherwise a game is ready to be played on one.
-/

namespace Chip8.CommandLine

structure Game where
  settings : Settings
  machine : Machine
  pace : Pace
  title : String
  log : List LogRecord

/-- What the arguments lead to. -/
inductive Errand where
  | done (outcome : Outcome)
  | play (game : Game)

structure Surroundings where
  home : String
  homeOf : String → Option String := fun _ => none
  files : Files
  random : RandomSource

namespace Surroundings

def inform (surroundings : Surroundings) (path : String) : Outcome :=
  match Rom.inspect surroundings.files path with
  | .error error => failed s!"Error reading ROM: {error.message}"
  | .ok info => { exit := .code 0, output := info.table }

def source? (surroundings : Surroundings) (settings : Settings) : Option RandomSource :=
  match settings.seed with
  | none => some surroundings.random
  | some (.number seed) => some (.ofSeed seed)
  | some .blank => none

/-- Gets a machine ready to be played with.  Only a window needs its scale. -/
def prepare (path : String) (settings : Settings) (machine : Machine) (pace : Pace)
    (log : List LogRecord) : Errand :=
  let records := log ++ [⟨.info, logSource, "Starting emulation ..."⟩]
  if settings.frontend = .window ∧ settings.scale = .blank then
    .done (failed s!"Fatal error: {BlankSetting.scale.message}"
      (shown settings (records ++ [fatalRecord])))
  else
    .play { settings, machine, pace, title := Path.baseName path, log := records }

def employ (path : String) (settings : Settings) (speed : Int) (machine : Machine)
    (log : List LogRecord) : Errand :=
  let notices := shown settings log
  match settings.debug, Pace.ofRates speed Timers.rate with
  | some .blank, _ =>
    .done (broken (.blank .debug) notices (Machine.Diagnosis.head machine.description))
  | some (.number steps), _ =>
    let diagnosis := machine.diagnose steps
    .done { exit := .code diagnosis.exitCode, output := diagnosis.lines, notices }
  | none, .error error => .done (failed s!"Error: {error.message}" notices)
  | none, .ok pace => prepare path settings machine pace log

/-- Makes a machine of a program and puts it to use.  The seed is needed once the program has been
read. -/
def launch (surroundings : Surroundings) (path : String) (settings : Settings) (speed : Int) :
    Errand :=
  let refused (error : RomError) (log : List LogRecord) : Errand :=
    .done (failed s!"Error: {error.message}" (shown settings log))
  match surroundings.source? settings with
  | none =>
    match Rom.fetch surroundings.files path settings.shift with
    | (.error error, log) => refused error log
    | (.ok _, log) => .done (broken (.blank .seed) (shown settings log))
  | some random =>
    let trace := if settings.trace then Trace.console else .silent
    match Rom.launch surroundings.files path (.exactly settings.shift) random trace with
    | (.error error, log) => refused error log
    | (.ok machine, log) => employ path settings speed machine log

def use (surroundings : Surroundings) (path : String) (settings : Settings) : Errand :=
  if !surroundings.files.isFile path then
    .done (failed s!"Error: ROM file not found: {path}")
  else if settings.info then
    .done (surroundings.inform path)
  else
    match settings.speed with
    | .blank => .done (broken (.blank .speed))
    | .number speed =>
      if speed ≤ 0 then
        .done (failed s!"Error: --speed must be positive, got {speed}")
      else
        surroundings.launch path settings speed

def begin (surroundings : Surroundings) (arguments : List String) : Errand :=
  match read arguments with
  | .error error =>
    .done { exit := .code 2, notices := [.message s!"chip8emu: error: {error.message}"] }
  | .ok .help => .done { exit := .code 0, output := helpLines }
  | .ok (.use given settings) =>
    match Path.expandHome surroundings.home surroundings.homeOf given with
    | none => .done (broken .userName)
    | some path => surroundings.use path settings

end Surroundings

namespace Game

def window {σ : Type} (game : Game) : Host (Window σ) :=
  let scale := game.settings.scale.number?.getD Window.defaultScale
  { device := .create scale game.title, log := Array.singleton Window.creationRecord }

/-- How the end of a run is told: the exit code, the last record, and the error if there was one. -/
def farewell : Except HostError Unit → Nat × LogRecord × List String
  | .ok () | .error .interrupted => (0, ⟨.info, logSource, "Exited cleanly"⟩, [])
  | .error (.machine (.fault fault)) =>
    let opcode := Hex.padded 4 fault.opcode
    let address := Hex.padded 3 fault.address
    (1, ⟨.error, logSource, s!"Program fault: {fault.message}"⟩,
      [s!"Fatal error: {fault.message} (opcode {opcode}, pc ${address})"])
  | .error error => (1, fatalRecord, [s!"Fatal error: {error.message}"])

def play {δ : Type} [Frontend δ] (game : Game) (host : Host δ)
    (sleeps : List (Action (Host δ) Unit)) : Outcome × Runner δ :=
  let start : Runner δ := { machine := game.machine, host := host, pace := game.pace }
  let (result, runner) := (Runner.run sleeps).run.run start
  let (exitCode, last, errors) := farewell result
  let records := game.log ++ runner.host.log.toList ++ [last]
  ({ exit := .code exitCode
     output := runner.machine.trace.printed.toList
     notices := shown game.settings records ++ errors.map .message }, runner)

end Game

end Chip8.CommandLine
