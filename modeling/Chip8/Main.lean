import Chip8.CommandLine.Session

/-!
# The command

Runs a session on the real file system and standard streams.  A front end is played from standard
input: each line holds the characters that are typed between two ticks, on the program's own clock
of a millisecond a tick, and at the end of the input the user quits.  The last picture is printed.
-/

namespace Chip8.Command

open CommandLine

def readFile (path : String) : IO (Except FileError (List Byte)) := do
  try
    let bytes ← IO.FS.readBinFile path
    return .ok (bytes.toList.map fun byte => byte.toBitVec)
  catch
    | .inappropriateType .. => return .error .isDirectory
    | _ => return .error .notFound

def filesFor (home : String) (arguments : List String) : IO Files := do
  match CommandLine.read arguments with
  | .ok (.use given _) =>
    let path := (Path.expandHome home (fun _ => none) given).getD given
    let content ← readFile path
    return fun wanted => if wanted = path then content else .error .notFound
  | _ => return fun _ => .error .notFound

partial def readLines (stream : IO.FS.Stream) (before : Array String) : IO (Array String) := do
  let line ← stream.getLine
  if line.isEmpty then
    return before
  else
    readLines stream (before.push (line.dropEndWhile (· = '\n')).toString)

def codes (line : String) : List Int := line.toList.map fun c => (c.toNat : Int)

def typed (line : String) : List (Happening Int) := (codes line).map .input

/-- A line typed in a window: its keys are held until the next line. -/
def held (line : String) : List (Happening Window.Event) :=
  (.focusLost :: (codes line).map .keyDown).map .input

/-- Prints what a session came to; records carry the time since the command was started. -/
def report (startMillis : Nat) (outcome : Outcome) (picture : List (List Char)) : IO Unit := do
  for line in outcome.output do
    IO.println line
  for line in picture do
    IO.println (String.ofList line)
  let seconds := ((← IO.monoMsNow) - startMillis) / 1000
  let part (value : Nat) := String.ofList (Hex.zeroFill 2 (toString (value % 60)).toList)
  let time := s!"{part (seconds / 3600)}:{part (seconds / 60)}:{part seconds}"
  for notice in outcome.notices do
    IO.eprintln (notice.line time)

def play (game : Game) : IO (Outcome × List (List Char)) := do
  let lines ← readLines (← IO.getStdin) ∅
  match game.settings.frontend with
  | .terminal =>
    let screen := Terminal.Screen.blank Terminal.boxHeight (Terminal.boxWidth + 1) fun _ _ => false
    let script : Script Int := lines.toList.map typed
    let (outcome, runner) := game.play { device := { screen } } script.onTerminal
    return (outcome, runner.host.device.screen.lines)
  | .window =>
    let script : Script Window.Event := lines.toList.map held
    let window : Host (Window Raster) := game.window
    let (outcome, runner) := game.play window script.onWindow
    let pixels := (Pixels.unpack runner.machine.display.toBytes).toOption.getD []
    return (outcome, pixels.textLines)

def run (arguments : List String) : IO UInt32 := do
  let startMillis ← IO.monoMsNow
  let home := (← IO.getEnv "HOME").getD "/"
  let files ← filesFor home arguments
  let seed ← IO.rand 0 0xFFFFFFFF
  let surroundings : Surroundings := { home, files, random := .ofSeed seed }
  let (outcome, picture) ← match surroundings.begin arguments with
    | .done outcome => pure (outcome, [])
    | .play game => play game
  report startMillis outcome picture
  match outcome.exit with
  | .code number => return number.toUInt32
  | .broken breakdown =>
    IO.eprintln breakdown.message
    return 1

end Chip8.Command

def main (arguments : List String) : IO UInt32 := Chip8.Command.run arguments
