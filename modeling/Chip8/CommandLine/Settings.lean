import Chip8.CommandLine.Switch
import Chip8.Run.Pace
import Chip8.Text.Integer
import Chip8.Window.Basic

/-!
# Settings

What the switches of a command line say.  A later value of a switch replaces an earlier one.  A
double dash is dropped even where it is a value, and then leaves its setting blank, which matters
only to what needs the setting.
-/

namespace Chip8.CommandLine

/-- What is left of a value where an integer is wanted. -/
inductive Amount where
  | number (value : Int)
  | blank
  deriving DecidableEq, Repr

namespace Amount

def number? : Amount → Option Int
  | number value => some value
  | blank => none

def ofText (switch : Switch) (text : String) : Except UsageError Amount :=
  if text = "--" then
    .ok .blank
  else
    match Text.integer? text with
    | some value => .ok (.number value)
    | none => .error (.notInteger switch text)

end Amount

def FrontendChoice.ofText (text : String) : Except UsageError FrontendChoice :=
  if text = "--" then
    .ok .window
  else
    match FrontendChoice.ofName? text with
    | some choice => .ok choice
    | none => .error (.unknownFrontend text)

/-- What the switches say. -/
structure Settings where
  frontend : FrontendChoice := .window
  scale : Amount := .number Window.defaultScale
  speed : Amount := .number Pace.defaultSpeed
  shift : ShiftDialect := .vx
  seed : Option Amount := none
  info : Bool := false
  debug : Option Amount := none
  trace : Bool := false
  verbosity : Nat := 0
  deriving DecidableEq, Repr

namespace Settings

def flag (settings : Settings) : Switch → Settings
  | .shiftVy => { settings with shift := .vy }
  | .info => { settings with info := true }
  | .trace => { settings with trace := true }
  | .verbose => { settings with verbosity := settings.verbosity + 1 }
  | _ => settings

def assign (settings : Settings) (switch : Switch) (text : String) : Except UsageError Settings :=
  match switch with
  | .frontend => (FrontendChoice.ofText text).map fun frontend => { settings with frontend }
  | .scale => (Amount.ofText switch text).map fun scale => { settings with scale }
  | .speed => (Amount.ofText switch text).map fun speed => { settings with speed }
  | .seed => (Amount.ofText switch text).map fun seed => { settings with seed }
  | .debug => (Amount.ofText switch text).map fun steps => { settings with debug := steps }
  | _ => .ok settings

end Settings

end Chip8.CommandLine
