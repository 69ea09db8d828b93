import Chip8.Machine.Step

namespace Chip8

/-- How a machine is prepared for a trial. -/
structure Preparation where
  program : List Byte := []
  shift : ShiftDialect := .vx
  random : RandomSource := .zeros
  values : List Byte := []
  index : Int := 0
  pc : Int := 0x200
  stack : List Int := []
  delay : Int := 0
  sound : Int := 0
  keypad : Int := 0
  data : List (Int × List Byte) := []
  sprite : Option (Int × Int × List Byte) := none

inductive Preparation.Error where
  | tooLarge (refused : ProgramTooLarge)
  | bounds (error : BoundsError)
  deriving DecidableEq, Repr

def Preparation.Error.message : Preparation.Error → String
  | tooLarge refused => refused.message
  | bounds error => error.message

/-- The machine with the given word at its program counter. -/
def Machine.plant (machine : Machine) (word : Word) : Machine :=
  let bytes := [word.extractLsb' 8 8, word.extractLsb' 0 8]
  { machine with memory := machine.memory.writeBlock machine.registers.pc bytes }

def Preparation.build (preparation : Preparation) : Except Preparation.Error Machine := do
  let loaded ←
    (Machine.load preparation.program preparation.shift preparation.random .silent).mapError
      Preparation.Error.tooLarge
  let base : Registers :=
    { v := Vector.ofFn fun place => preparation.values.getD place 0
      index := preparation.index
      pc := preparation.pc }
  let registers ←
    (preparation.stack.foldlM Registers.push base).mapError Preparation.Error.bounds
  let memory := preparation.data.foldl
    (fun memory block => memory.writeBlock block.1 block.2) loaded.memory
  let display := match preparation.sprite with
    | none => loaded.display
    | some (x, y, rows) => (loaded.display.drawSprite x y rows).1
  return { loaded with
    registers
    memory
    display
    timers := { delay := preparation.delay, sound := preparation.sound }
    keypad := KeySet.ofInt preparation.keypad }

inductive Machine.Change where
  | pc (value : Int)
  | index (value : Int)
  | sp (value : Int)
  | stack (live : List Int)
  | delay (value : Int)
  | sound (value : Int)
  | runState (state : RunState)
  | keyRegister (register : Option Int)
  | registers (values : List (Nat × Byte))
  | memory (cells : List (Nat × Byte))
  | display (picture : Display)

/-- The entries of `later` that differ from those of `earlier` at the same place. -/
def changedValues (earlier later : List Byte) : List (Nat × Byte) :=
  ((earlier.zip later).zipIdx.filter fun entry => entry.1.1 ≠ entry.1.2).map fun entry =>
    (entry.2, entry.1.2)

def Machine.changes (earlier later : Machine) : List Machine.Change :=
  let changed {α : Type} [DecidableEq α] (part : Machine → α) (change : α → Machine.Change) :=
    if part earlier = part later then [] else [change (part later)]
  let values := changedValues earlier.registers.values later.registers.values
  let cells := earlier.memory.changes later.memory
  changed (·.registers.pc) .pc ++
  changed (·.registers.index) .index ++
  changed (·.registers.sp) .sp ++
  changed (·.registers.liveStack) .stack ++
  changed (·.timers.delay) .delay ++
  changed (·.timers.sound) .sound ++
  changed (·.runState) .runState ++
  changed (·.runState.register?) .keyRegister ++
  (if values = [] then [] else [.registers values]) ++
  (if cells = [] then [] else [.memory cells]) ++
  changed (·.display) .display

end Chip8
