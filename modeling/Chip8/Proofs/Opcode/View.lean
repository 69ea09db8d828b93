import Chip8.Machine.Basic
import Mathlib.Logic.Function.Basic

/-!
# The machine as the opcode table speaks of it

In a view every store is a function of its places, bytes are numbers and pixels are single truth
values.  A view forgets nothing that a program can see or change: machines with one view have the
same registers, memory, display, timers, keypad, run state, random source and shift dialect.
-/

namespace Chip8

def slotAt (value : Int) : Fin 16 := ⟨(value % 16).toNat, by omega⟩

def cellAt (value : Int) : Fin 4096 := ⟨(value % 4096).toNat, by omega⟩

theorem slotAt_of_lt {number : Nat} {value : Int} (named : value = number)
    (inside : number < 16) : slotAt value = ⟨number, inside⟩ := by
  apply Fin.ext
  simp only [slotAt]
  omega

theorem ofFn_get {α : Type} {count : Nat} (values : Vector α count) :
    List.ofFn values.get = values.toList := by
  apply List.ext_getElem
  · rw [List.length_ofFn, Vector.length_toList]
  · intro place _ _
    rw [List.getElem_ofFn]
    rfl

theorem get_set_eq_update {α : Type} {count : Nat} (values : Vector α count) (place : Fin count)
    (value : α) : (values.set place value).get = Function.update values.get place value := by
  funext other
  by_cases same : other = place
  · subst same
    rw [Function.update_self]
    exact Vector.getElem_set_self other.isLt
  · have apart : place.val ≠ other.val := fun equal => same (Fin.ext equal.symm)
    rw [Function.update_of_ne same]
    exact Vector.getElem_set_ne place.isLt other.isLt apart

theorem Address.toFin_ofInt (value : Int) : (Address.ofInt value).toFin = cellAt value := by
  apply Fin.ext
  have wrapped := Address.toInt_ofInt value
  simp only [cellAt, BitVec.val_toFin]
  omega

theorem Display.eq_of_pixel {first second : Display} (same : first.pixel = second.pixel) :
    first = second := by
  have rows : first.rows = second.rows :=
    Vector.ext fun y inside => BitVec.eq_of_getMsbD_eq fun x within =>
      congrFun (congrFun same ⟨x, within⟩) ⟨y, inside⟩
  cases first
  cases second
  exact congrArg Display.mk rows

/-- What a program can see and change. -/
@[ext]
structure View where
  pc : Int
  index : Int
  v : Fin 16 → Nat
  sp : Int
  stack : Fin 16 → Int
  cell : Fin 4096 → Nat
  pixel : Fin 64 → Fin 32 → Bool
  delay : Int
  sound : Int
  held : Fin 16 → Bool
  runState : RunState
  random : RandomSource
  shift : ShiftDialect

/-- What a machine looks like. -/
def Machine.view (machine : Machine) : View where
  pc := machine.registers.pc
  index := machine.registers.index
  v x := (machine.registers.v.get x).toNat
  sp := machine.registers.sp
  stack slot := machine.registers.stack.get slot
  cell address := (machine.memory.cells.get address).toNat
  pixel := machine.display.pixel
  delay := machine.timers.delay
  sound := machine.timers.sound
  held := machine.keypad.has
  runState := machine.runState
  random := machine.random
  shift := machine.shift

namespace View

def word (view : View) : Nat :=
  256 * view.cell (cellAt view.pc) + view.cell (cellAt (view.pc + 1))

def advance (view : View) : View := { view with pc := (view.pc + 2) % 4096 }

def skipIf (view : View) (condition : Prop) [Decidable condition] : View :=
  if condition then view.advance else view

def put (view : View) (x : Fin 16) (value : Nat) : View :=
  { view with v := Function.update view.v x value }

/-- A result and then a flag; where the result goes to the flag register, the flag stays. -/
def putFlagged (view : View) (x : Fin 16) (value flag : Nat) : View :=
  (view.put x value).put (slotAt 0xF) flag

/-- The byte `offset` cells after the one that the index register addresses. -/
def fetched (view : View) (offset : Int) : Nat := view.cell (cellAt (view.index + offset))

/-- A block laid out from the index register on, around the end of memory: each cell takes the byte
at its distance from the index register, if the block is as long as that. -/
def store (view : View) (block : List Nat) : View :=
  { view with
    cell := fun address =>
      block[((address - view.index) % 4096).toNat]?.getD (view.cell address) }

/-- Whether a sprite of `rows` bytes at the index register covers the pixel (`x`, `y`) with a lit
one when its top left corner stands at (`left`, `top`), around both edges. -/
def struck (view : View) (left top rows : Nat) (x : Fin 64) (y : Fin 32) : Bool :=
  let across := (x - left : Int) % 64
  let down := (y - top : Int) % 32
  decide (across < 8 ∧ down < rows) && (view.fetched down).testBit (7 - across.toNat)

end View

namespace Machine

variable (machine : Machine)

theorem view_v_lt (x : Fin 16) : machine.view.v x < 256 := (machine.registers.v.get x).isLt

theorem view_cellAt (address : Int) :
    machine.view.cell (cellAt address) = (machine.memory.read address).toNat := by
  rw [← Address.toFin_ofInt]
  rfl

theorem word_of_reads {high low : Byte} (first : machine.memory.read machine.registers.pc = high)
    (second : machine.memory.read (machine.registers.pc + 1) = low) :
    machine.view.word = 256 * high.toNat + low.toNat := by
  subst first second
  simp only [View.word, view_cellAt]
  rfl

theorem toNat_readWord :
    (machine.memory.readWord machine.registers.pc).toNat = machine.view.word := by
  rw [machine.word_of_reads rfl rfl, Memory.readWord, Word.toNat_ofBytes]

/-- A view tells machines apart in all that a program can see. -/
theorem eq_of_view {other : Machine} (same : machine.view = other.view) :
    machine.registers = other.registers ∧ machine.memory = other.memory ∧
      machine.display = other.display ∧ machine.timers = other.timers ∧
      machine.keypad = other.keypad ∧ machine.runState = other.runState ∧
      machine.random = other.random ∧ machine.shift = other.shift := by
  simp only [view, View.mk.injEq] at same
  obtain ⟨pc, index, v, sp, stack, cell, pixel, delay, sound, held, runState, random, shift⟩ := same
  have values : machine.registers.v = other.registers.v :=
    Vector.ext fun x inside => BitVec.eq_of_toNat_eq (congrFun v ⟨x, inside⟩)
  have slots : machine.registers.stack = other.registers.stack :=
    Vector.ext fun slot inside => congrFun stack ⟨slot, inside⟩
  have cells : machine.memory.cells = other.memory.cells :=
    Vector.ext fun address inside => BitVec.eq_of_toNat_eq (congrFun cell ⟨address, inside⟩)
  have picture := Display.eq_of_pixel pixel
  have keys : machine.keypad = other.keypad :=
    BitVec.eq_of_getLsbD_eq fun key inside => congrFun held ⟨key, inside⟩
  cases machine with
  | mk memory _ registers display timers =>
      cases other with
      | mk memory' _ registers' display' timers' =>
          cases memory; cases memory'; cases registers; cases registers'
          cases timers; cases timers'
          simp_all

end Machine

end Chip8
