import Chip8.Machine.Basic

namespace Chip8

def Registers.operate (registers : Registers) (shift : ShiftDialect)
    (operation : Instruction.Operation) (x y : Nibble) : Registers :=
  let first := registers.get x
  let second := registers.get y
  let operand : Byte := match shift with
    | .vx => first
    | .vy => second
  match operation with
  | .copy => registers.set x second
  | .or => registers.set x (first ||| second)
  | .and => registers.set x (first &&& second)
  | .xor => registers.set x (first ^^^ second)
  | .add =>
    (registers.set x (first + second)).setFlag (if 255 < first.toNat + second.toNat then 1 else 0)
  | .subtract => (registers.set x (first - second)).setFlag (if second < first then 1 else 0)
  | .shiftRight => (registers.set x (operand >>> 1)).setFlag (operand &&& 1)
  | .subtractFrom => (registers.set x (second - first)).setFlag (if first < second then 1 else 0)
  | .shiftLeft => (registers.set x (operand <<< 1)).setFlag (operand >>> 7)

namespace Machine

def jumpTo (machine : Machine) (address : Address) : Machine :=
  { machine with registers := { machine.registers with pc := address.toNat } }

def skipIf (machine : Machine) (condition : Bool) : Machine :=
  if condition then machine.jumpTo (Address.next machine.registers.pc) else machine

def withRegisters (machine : Machine) (registers : Registers) : Machine :=
  { machine with registers := registers }

def withIndex (machine : Machine) (index : Int) : Machine :=
  { machine with registers := { machine.registers with index := index } }

def keyHeld (machine : Machine) (x : Nibble) : Bool :=
  machine.keypad.getLsbD ((machine.registers.get x).toNat % 16)

def faultOf (machine : Machine) (cause : Fault.Cause) : MachineError :=
  .fault { cause, opcode := machine.lastOpcode.toNat, address := machine.lastAddress }

def perform (machine : Machine) (instruction : Instruction) :
    Except MachineError StepResult × Machine :=
  let registers := machine.registers
  let quiet (after : Machine) : Except MachineError StepResult × Machine := (.ok .quiet, after)
  match instruction with
  | .clearScreen => (.ok (.repaint .blank), { machine with display := .blank })
  | .returnFromCall =>
    if registers.stackEmpty then
      (.error (machine.faultOf .stackUnderflow), machine)
    else
      match registers.pull with
      | (.ok address, shorter) => quiet (machine.withRegisters { shorter with pc := address })
      | (.error error, shorter) => (.error (.bounds error), machine.withRegisters shorter)
  | .jump target => quiet (machine.jumpTo target)
  | .call target =>
    if registers.stackFull then
      (.error (machine.faultOf .stackOverflow), machine)
    else
      match registers.push registers.pc with
      | .ok deeper => quiet ((machine.withRegisters deeper).jumpTo target)
      | .error error => (.error (.bounds error), machine)
  | .skipIfByte x value => quiet (machine.skipIf (registers.get x = value))
  | .skipUnlessByte x value => quiet (machine.skipIf (registers.get x ≠ value))
  | .skipIfEqual x y => quiet (machine.skipIf (registers.get x = registers.get y))
  | .loadByte x value => quiet (machine.withRegisters (registers.set x value))
  | .addByte x value => quiet (machine.withRegisters (registers.set x (registers.get x + value)))
  | .operate operation x y =>
    quiet (machine.withRegisters (registers.operate machine.shift operation x y))
  | .skipUnlessEqual x y => quiet (machine.skipIf (registers.get x ≠ registers.get y))
  | .loadIndex target => quiet (machine.withIndex target.toNat)
  | .jumpOffset target =>
    quiet (machine.jumpTo (Address.ofInt (target.toNat + (registers.get 0).toNat)))
  | .random x mask =>
    let (byte, rest) := machine.random.draw
    quiet { machine with registers := registers.set x (byte &&& mask), random := rest }
  | .draw x y rows =>
    let sprite := machine.memory.readBlock registers.index rows.toNat
    let (drawn, hit) :=
      machine.display.drawSprite (registers.get x).toNat (registers.get y).toNat sprite
    (.ok (.repaint drawn),
      { machine with registers := registers.setFlag (if hit then 1 else 0), display := drawn })
  | .skipIfKey x => quiet (machine.skipIf (machine.keyHeld x))
  | .skipUnlessKey x => quiet (machine.skipIf (!machine.keyHeld x))
  | .readDelay x =>
    match registers.put x.toNat machine.timers.delay with
    | .ok updated => quiet (machine.withRegisters updated)
    | .error error => (.error (.bounds error), machine)
  | .awaitKey x => (.ok .awaiting, machine.beginKeyWait x.toNat)
  | .setDelay x =>
    quiet { machine with timers := { machine.timers with delay := (registers.get x).toNat } }
  | .setSound x =>
    quiet { machine with timers := { machine.timers with sound := (registers.get x).toNat } }
  | .addIndex x => quiet (machine.withIndex ((registers.index + (registers.get x).toNat) % 65536))
  | .loadGlyph x => quiet (machine.withIndex (Font.address (registers.get x).toNat))
  | .storeDecimal x =>
    let value := (registers.get x).toNat
    let places := [value / 100, value / 10 % 10, value % 10].map (BitVec.ofNat 8)
    quiet { machine with memory := machine.memory.writeBlock registers.index places }
  | .saveRegisters x =>
    let block := registers.firstValues x
    quiet { machine with memory := machine.memory.writeBlock registers.index block }
  | .loadRegisters x =>
    let block := machine.memory.readBlock registers.index (x.toNat + 1)
    quiet (machine.withRegisters (registers.replaceFirst x block (Memory.length_readBlock ..)))

/-- The line that a fetch leaves in the trace: where from, which word, and the registers before
the instruction acts. -/
def traceLine (address : Int) (word : Word) (registers : Registers) : String :=
  s!"{Hex.padded 3 address}: {Hex.padded 4 word.toNat}  {registers.description}"

def fetch (machine : Machine) : Machine :=
  let address := machine.registers.pc
  let word := machine.memory.readWord address
  let advanced := machine.jumpTo (Address.next address)
  let fetched := { advanced with lastOpcode := word, lastAddress := address }
  if fetched.trace.enabled Trace.instructionLevel then
    { fetched with
      trace := fetched.trace.log Trace.instructionLevel (traceLine address word fetched.registers) }
  else
    fetched

/-- Executes one instruction, unless a key is awaited.  A fault leaves everything but the program
counter and the record of the fetch as it was, and does not count. -/
def step (machine : Machine) : Except MachineError StepResult × Machine :=
  match machine.runState with
  | .awaitingKey _ => (.ok .awaiting, machine)
  | .running =>
    let fetched := machine.fetch
    match Instruction.decode fetched.lastOpcode with
    | none => (.error (fetched.faultOf .invalidOpcode), fetched)
    | some instruction =>
      match fetched.perform instruction with
      | (.ok result, after) =>
        (.ok result, { after with instructionCount := after.instructionCount + 1 })
      | (.error error, after) => (.error error, after)

structure Burst where
  last : Option Effect := none
  redraws : Nat := 0
  deriving DecidableEq, Repr

def Burst.after (burst : Burst) (result : StepResult) : Burst :=
  { last := some result.effect, redraws := burst.redraws + if result.redraw then 1 else 0 }

/-- Takes up to `count` steps, adding to `burst`; a key wait or an error ends the run. -/
def runFrom (burst : Burst) : Nat → Machine → Except MachineError Burst × Machine
  | 0, machine => (.ok burst, machine)
  | count + 1, machine =>
    match machine.step with
    | (.error error, after) => (.error error, after)
    | (.ok result, after) =>
      if result.awaitKey then
        (.ok (burst.after result), after)
      else
        runFrom (burst.after result) count after

def run (machine : Machine) (count : Nat) : Except MachineError Burst × Machine :=
  machine.runFrom {} count

end Machine

end Chip8
