import Chip8.CommandLine.Settings
import Chip8.LogRecord
import Chip8.Rom.Basic

/-!
# Outcomes

What a session comes to: an exit code, or what made it break off, with the lines that it put out
and what it told the user beside them.
-/

namespace Chip8.CommandLine

inductive Notice where
  | message (text : String)
  | record (record : LogRecord)
  deriving DecidableEq, Repr

def Notice.line (time : String) : Notice → String
  | .message text => text
  | .record entry => s!"{time} [{entry.level.name}] {entry.source}: {entry.message}"

/-- A setting that is needed and was left blank. -/
inductive BlankSetting where
  | scale
  | speed
  | seed
  | debug
  deriving DecidableEq, Repr

def BlankSetting.message : BlankSetting → String
  | scale => "'<' not supported between instances of 'list' and 'int'"
  | speed => "'<=' not supported between instances of 'list' and 'int'"
  | seed => "The only supported seed types are: None,\nint, float, str, bytes, and bytearray."
  | debug => "'list' object cannot be interpreted as an integer"

/-- Why a session broke off without an exit code of its own. -/
inductive Breakdown where
  | blank (setting : BlankSetting)
  | userName
  deriving DecidableEq, Repr

def Breakdown.message : Breakdown → String
  | blank setting => setting.message
  | userName => RomError.embeddedNul.message

inductive Exit where
  | code (number : Nat)
  | broken (breakdown : Breakdown)
  deriving DecidableEq, Repr

structure Outcome where
  exit : Exit
  output : List String := []
  notices : List Notice := []
  deriving DecidableEq, Repr

def threshold : Nat → LogLevel
  | 0 => .warning
  | 1 => .info
  | _ => .debug

def shown (settings : Settings) (records : List LogRecord) : List Notice :=
  (records.filter (·.atLeast (threshold settings.verbosity))).map .record

def logSource : String := "chip8emu.main"

def fatalRecord : LogRecord := ⟨.error, logSource, "Fatal error during emulation"⟩

def failed (text : String) (notices : List Notice := []) : Outcome :=
  { exit := .code 1, notices := notices ++ [.message text] }

def broken (breakdown : Breakdown) (notices : List Notice := []) (output : List String := []) :
    Outcome :=
  { exit := .broken breakdown, output, notices }

end Chip8.CommandLine
