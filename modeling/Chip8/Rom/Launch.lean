import Chip8.LogRecord
import Chip8.Machine.Step
import Chip8.Rom.Basic
import Chip8.Text.Upper

namespace Chip8

def ShiftDialect.ofName? (name : String) : Option ShiftDialect :=
  [vx, vy].find? fun dialect => dialect.name = name

inductive ShiftChoice where
  | unspecified
  | named (name : String)
  | exactly (dialect : ShiftDialect)
  deriving DecidableEq, Repr

def ShiftChoice.dialect : ShiftChoice → Except RomError ShiftDialect
  | unspecified => .ok .vx
  | exactly dialect => .ok dialect
  | named name =>
    let upper := Text.upper name
    match ShiftDialect.ofName? upper with
    | some dialect => .ok dialect
    | none => .error (.unknownShift upper)

namespace Rom

def logSource : String := "chip8emu.shell.services.machine_factory"

def note (message : String) : LogRecord := ⟨.info, logSource, message⟩

/-- The bytes of the program file at a path, read for a machine with a shift dialect, and what was
logged on the way. -/
def fetch (files : Files) (path : String) (dialect : ShiftDialect) :
    Except RomError (List Byte) × List LogRecord :=
  let opened := [note s!"Loading ROM: {path}"]
  match read files path with
  | .error error => (.error error, opened)
  | .ok data =>
    (.ok data, opened ++
      [note s!"ROM size: {data.length} bytes", note s!"Shift operand: {dialect.name}"])

/-- The machine that runs the program file at a path, and what was logged on the way. -/
def launch (files : Files) (path : String) (shift : ShiftChoice) (random : RandomSource)
    (trace : Trace := .silent) : Except RomError Machine × List LogRecord :=
  match shift.dialect with
  | .error error => (.error error, [])
  | .ok dialect =>
    match fetch files path dialect with
    | (.error error, log) => (.error error, log)
    | (.ok data, log) =>
      match Machine.load data dialect random trace with
      | .error refused => (.error (.load (.programTooLarge refused)), log)
      | .ok machine => (.ok machine, log ++ [note s!"Machine created: {machine.description}"])

end Rom

end Chip8
