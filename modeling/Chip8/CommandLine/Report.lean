import Chip8.Machine.Step
import Chip8.Rom.Basic

namespace Chip8

namespace CommandLine

def rule (width : Nat) : String := String.ofList (List.replicate width '=')

def padRight (width : Nat) (text : String) : String :=
  text ++ String.ofList (List.replicate (width - text.length) ' ')

def label (key : String) : String := " ".intercalate ((key.splitOn "_").map String.capitalize)

end CommandLine

open CommandLine

def Rom.Info.table (info : Rom.Info) : List String :=
  let row (entry : String × String) : String := s!"  {padRight 20 (label entry.1)}: {entry.2}"
  ["CHIP8EMU ROM Information", rule 40] ++ info.entries.map row ++ [rule 40]

namespace Machine

def stateLines (machine : Machine) : List String :=
  let address (value : Int) : String := "$" ++ Hex.padded 3 value
  let registers := machine.registers
  let counters := s!"  PC={address registers.pc}  I={address registers.index}  SP={registers.sp}"
  let timers := s!"  DT={machine.timers.delay}  ST={machine.timers.sound}"
  let stack := " ".intercalate (registers.liveStack.map address)
  let opcode := Hex.padded 4 machine.lastOpcode.toNat
  [s!"{counters}{timers}  {machine.runState.name}", s!"  {registers.valuesText}"] ++
    (if registers.liveStack.isEmpty then [] else [s!"  Stack: {stack}"]) ++
    [s!"  Last opcode: {opcode} at {address machine.lastAddress}"]

structure Diagnosis where
  subject : String
  outcome : Except MachineError Burst
  machine : Machine

/-- Runs a machine for some steps; a key wait or an error ends the run early. -/
def diagnose (machine : Machine) (steps : Int) : Diagnosis :=
  let (outcome, after) := machine.run steps.toNat
  { subject := machine.description, outcome, machine := after }

namespace Diagnosis

def head (subject : String) : List String :=
  [rule 60, "CHIP8EMU Debug Diagnostics", rule 60, s!"Machine: {subject}"]

def exitCode (diagnosis : Diagnosis) : Nat := if diagnosis.outcome.isOk then 0 else 1

/-- The diagnosis as it is printed, with the lines that were traced during the run. -/
def lines (diagnosis : Diagnosis) : List String :=
  let machine := diagnosis.machine
  head diagnosis.subject ++
    machine.trace.printed.toList ++
    match diagnosis.outcome with
    | .error error => s!"Fatal: {error.message}" :: machine.stateLines
    | .ok burst =>
      (if burst.last = some .awaitKey then ["Program is waiting for a key; stopping."] else []) ++
        ["", s!"Executed {machine.instructionCount} instructions, {burst.redraws} redraws"] ++
        machine.stateLines ++
        [s!"  Lit pixels: {machine.display.litPixels}", "", rule 60, "Debug complete."]

end Diagnosis

end Machine

end Chip8
