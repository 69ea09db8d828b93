import Chip8.Display
import Chip8.Fault
import Chip8.Instruction
import Chip8.Keypad
import Chip8.Memory
import Chip8.Random.Source
import Chip8.Registers
import Chip8.Timers
import Chip8.Trace

/-!
# The machine

Everything that a running program can see or change, and what the host may ask about it.  The
host steps the machine, ticks its timers, shows it the held keys and answers its key waits.
-/

namespace Chip8

/-- Which register the shift instructions read their operand from. -/
inductive ShiftDialect where
  | vx
  | vy
  deriving DecidableEq, Repr

def ShiftDialect.name : ShiftDialect → String
  | vx => "VX"
  | vy => "VY"

inductive RunState where
  | running
  | awaitingKey (register : Int)
  deriving DecidableEq, Repr

def RunState.name : RunState → String
  | running => "RUNNING"
  | awaitingKey _ => "AWAITING_KEY"

def RunState.register? : RunState → Option Int
  | running => none
  | awaitingKey register => some register

/-- What the host has to do after a step. -/
inductive Effect where
  | none
  | redraw
  | awaitKey
  deriving DecidableEq, Repr

namespace Effect

def name : Effect → String
  | none => "NONE"
  | redraw => "REDRAW"
  | awaitKey => "AWAIT_KEY"

def code : Effect → Nat
  | none => 0
  | redraw => 1
  | awaitKey => 2

def ofName? (text : String) : Option Effect :=
  [none, redraw, awaitKey].find? fun effect => effect.name = text

end Effect

structure StepResult where
  effect : Effect := .none
  display : Option Display := none
  deriving DecidableEq

namespace StepResult

def quiet : StepResult := {}

def awaiting : StepResult := { effect := .awaitKey }

def repaint (display : Display) : StepResult := { effect := .redraw, display := some display }

def redraw (result : StepResult) : Bool := decide (result.effect = .redraw)

def awaitKey (result : StepResult) : Bool := decide (result.effect = .awaitKey)

end StepResult

inductive MachineError where
  | fault (fault : Fault)
  | bounds (error : BoundsError)
  | notAwaitingKey
  | keyRange (value : Int)
  deriving DecidableEq, Repr

def MachineError.message : MachineError → String
  | .fault reason => reason.message
  | .bounds error => error.message
  | .notAwaitingKey => "no wait-for-key instruction is pending"
  | .keyRange value => s!"key value must be 0x0-0xF, got {value}"

structure Machine where
  memory : Memory
  programSize : Nat
  registers : Registers := {}
  display : Display := .blank
  timers : Timers := {}
  keypad : KeySet := 0
  runState : RunState := .running
  instructionCount : Nat := 0
  /-- The word fetched last, and where from. -/
  lastOpcode : Word := 0
  lastAddress : Int := 0
  shift : ShiftDialect := .vx
  random : RandomSource := .zeros
  trace : Trace := .silent

namespace Machine

def load (program : List Byte) (shift : ShiftDialect) (random : RandomSource) (trace : Trace) :
    Except ProgramTooLarge Machine := do
  let memory ← Memory.ofProgram program
  return { memory, programSize := program.length, shift, random, trace }

def awaiting (machine : Machine) : Bool :=
  match machine.runState with
  | .running => false
  | .awaitingKey _ => true

def decrementTimers (machine : Machine) : Machine :=
  { machine with timers := machine.timers.decrement }

def setKeypad (machine : Machine) (keys : KeySet) : Machine := { machine with keypad := keys }

def beginKeyWait (machine : Machine) (register : Int) : Machine :=
  { machine with runState := .awaitingKey register }

/-- Answers a key wait: the key is stored and execution goes on. -/
def deliverKey (machine : Machine) (value : Int) : Except MachineError Unit × Machine :=
  match machine.runState with
  | .running => (.error .notAwaitingKey, machine)
  | .awaitingKey register =>
    if 0 ≤ value ∧ value < 16 then
      match machine.registers.put register value with
      | .ok registers => (.ok (), { machine with registers, runState := .running })
      | .error error => (.error (.bounds error), machine)
    else
      (.error (.keyRange value), machine)

inductive Spot where
  | index
  | pc
  | delay
  | sound
  | cell (address : Int)
  deriving DecidableEq, Repr

/-- Overwrites a place with a value.  Only memory cells cut the value to what they can hold. -/
def poke (machine : Machine) (value : Int) : Spot → Machine
  | .index => { machine with registers := { machine.registers with index := value } }
  | .pc => { machine with registers := { machine.registers with pc := value } }
  | .delay => { machine with timers := { machine.timers with delay := value } }
  | .sound => { machine with timers := { machine.timers with sound := value } }
  | .cell address => { machine with memory := machine.memory.write address value }

def description (machine : Machine) : String :=
  let pc := Hex.padded 3 machine.registers.pc
  s!"Chip8Machine(pc={pc}, program_size={machine.programSize}, state={machine.runState.name}, " ++
    s!"instructions={machine.instructionCount})"

def lastFetchDescription (machine : Machine) : String :=
  let opcode := Hex.padded 4 machine.lastOpcode.toNat
  let address := Hex.padded 3 machine.lastAddress
  s!"Chip8CPU(opcode={opcode}, op_pc={address}, shift_quirk={machine.shift.name})"

end Machine

end Chip8
