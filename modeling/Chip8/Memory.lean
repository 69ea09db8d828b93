import Chip8.Font

/-!
# Memory

4096 bytes: the digit glyphs at the bottom, a gap, and the program from `0x200` on.  Every integer
addresses a cell, so blocks that run off the end of memory continue at its beginning.
-/

namespace Chip8

structure Memory where
  cells : Vector Byte 4096
  deriving DecidableEq

structure ProgramTooLarge where
  size : Nat
  deriving DecidableEq, Repr

namespace Memory

def size : Nat := 0x1000

def programStart : Nat := 0x200

def capacity : Nat := size - programStart

def get (memory : Memory) (address : Address) : Byte := memory.cells.get address.toFin

def set (memory : Memory) (address : Address) (value : Byte) : Memory :=
  ⟨memory.cells.set address.toNat value address.isLt⟩

def read (memory : Memory) (address : Int) : Byte := memory.get (Address.ofInt address)

def write (memory : Memory) (address value : Int) : Memory :=
  memory.set (Address.ofInt address) (BitVec.ofInt 8 value)

def readWord (memory : Memory) (address : Int) : Word :=
  Word.ofBytes (memory.read address) (memory.read (address + 1))

def readBlock (memory : Memory) (address : Int) (count : Nat) : List Byte :=
  (List.range count).map fun (offset : Nat) => memory.read (address + offset)

theorem length_readBlock (memory : Memory) (address : Int) (count : Nat) :
    (memory.readBlock address count).length = count := by
  simp only [readBlock, List.length_map, List.length_range]

/-- Stores a block byte by byte; of two bytes for one cell the later one stays. -/
def writeBlock (memory : Memory) (address : Int) : List Byte → Memory
  | [] => memory
  | value :: rest => (memory.set (Address.ofInt address) value).writeBlock (address + 1) rest

def writeValues (memory : Memory) (address : Int) : List Int → Memory
  | [] => memory
  | value :: rest => (memory.write address value).writeValues (address + 1) rest

def zero : Memory := ⟨Vector.replicate 4096 0⟩

/-- Only the glyphs are present. -/
def withFont : Memory := zero.writeBlock Font.base Font.glyphs

/-- A fresh memory holding `program`, unless it is too long. -/
def ofProgram (program : List Byte) : Except ProgramTooLarge Memory :=
  if program.length > capacity then
    .error ⟨program.length⟩
  else
    .ok (withFont.writeBlock programStart program)

def toList (memory : Memory) : List Byte := memory.cells.toList

/-- The cells in which `later` differs from `earlier`, with their later bytes, ascending. -/
def changes (earlier later : Memory) : List (Nat × Byte) :=
  (List.range size).filterMap fun (address : Nat) =>
    let value := later.read address
    if earlier.read address = value then none else some (address, value)

def nonzeroFrom (memory : Memory) (start : Int) : List (Nat × Byte) :=
  (zero.changes memory).filter fun cell => start ≤ cell.1

def description (_ : Memory) : String := s!"Memory(size={size})"

theorem get_set (memory : Memory) (address other : Address) (value : Byte) :
    (memory.set address value).get other = if address = other then value else memory.get other := by
  by_cases same : address = other
  · subst same
    rw [if_pos rfl]
    exact Vector.getElem_set_self address.isLt
  · have apart : address.toNat ≠ other.toNat := fun equal => same (BitVec.eq_of_toNat_eq equal)
    rw [if_neg same]
    exact Vector.getElem_set_ne address.isLt other.isLt apart

theorem read_write (memory : Memory) (address value other : Int) :
    (memory.write address value).read other =
      if Address.ofInt address = Address.ofInt other then BitVec.ofInt 8 value
      else memory.read other :=
  Memory.get_set memory (Address.ofInt address) (Address.ofInt other) (BitVec.ofInt 8 value)

end Memory

def ProgramTooLarge.message (refused : ProgramTooLarge) : String :=
  s!"program is {refused.size} bytes; at most {Memory.capacity} bytes fit above 0x200"

end Chip8
