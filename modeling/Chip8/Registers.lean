import Chip8.Bounds
import Chip8.Text.Hex

/-!
# Registers and the call stack

Sixteen byte registers, the index register, the program counter and a stack of sixteen return
addresses with its depth.  The index, counter and depth are plain integers here: the instructions
keep them in range, and a debugger may set them to anything.
-/

namespace Chip8

structure Registers where
  v : Vector Byte 16 := Vector.replicate 16 0
  index : Int := 0
  pc : Int := 0x200
  sp : Int := 0
  stack : Vector Int 16 := Vector.replicate 16 0
  deriving DecidableEq

namespace Registers

def stackDepth : Nat := 16

def flagNumber : Nibble := 0xF

def get (registers : Registers) (x : Nibble) : Byte := registers.v.get x.toFin

def set (registers : Registers) (x : Nibble) (value : Byte) : Registers :=
  { registers with v := registers.v.set x.toNat value x.isLt }

def setFlag (registers : Registers) (value : Byte) : Registers := registers.set flagNumber value

/-- Stores a value in a register slot.  A value that does not fit in a byte is refused even if there
is no such slot. -/
def put (registers : Registers) (number value : Int) : Except BoundsError Registers :=
  if 0 ≤ value ∧ value < 256 then
    match slot 16 number .register with
    | .ok place => .ok { registers with v := registers.v.set place (BitVec.ofInt 8 value) }
    | .error error => .error error
  else if isSlotNumber number then
    .error .byteValue
  else
    .error .slotNumber

def fetch (registers : Registers) (number : Int) : Except BoundsError Byte :=
  (slot 16 number .register).map registers.v.get

def stackFull (registers : Registers) : Bool := decide ((stackDepth : Int) ≤ registers.sp)

def stackEmpty (registers : Registers) : Bool := decide (registers.sp ≤ 0)

def push (registers : Registers) (address : Int) : Except BoundsError Registers :=
  match slot 16 registers.sp .stackWrite with
  | .ok place =>
    .ok { registers with stack := registers.stack.set place address, sp := registers.sp + 1 }
  | .error error => .error error

/-- Discounts a return address and then reads it; the discount stays even if the read fails. -/
def pull (registers : Registers) : Except BoundsError Int × Registers :=
  let shorter := { registers with sp := registers.sp - 1 }
  match slot 16 shorter.sp .stackRead with
  | .ok place => (.ok (shorter.stack.get place), shorter)
  | .error error => (.error error, shorter)

/-- The return addresses that the depth counts, oldest first.  A negative depth leaves that many
slots off the end. -/
def liveStack (registers : Registers) : List Int :=
  if 0 ≤ registers.sp then
    registers.stack.toList.take registers.sp.toNat
  else
    registers.stack.toList.take (stackDepth + registers.sp).toNat

def values (registers : Registers) : List Byte := registers.v.toList

/-- The values of `V0` to `Vx`. -/
def firstValues (registers : Registers) (x : Nibble) : List Byte :=
  registers.values.take (x.toNat + 1)

theorem length_values (registers : Registers) : registers.values.length = 16 :=
  Vector.length_toList

def spliced (registers : Registers) (x : Nibble) (block : List Byte) : List Byte :=
  block ++ registers.values.drop (x.toNat + 1)

/-- There are sixteen registers still, if the block has as many bytes as it replaces. -/
theorem length_spliced (registers : Registers) {x : Nibble} {block : List Byte}
    (whole : block.length = x.toNat + 1) : (registers.spliced x block).length = 16 := by
  have bound := x.isLt
  rw [spliced, List.length_append, List.length_drop, length_values, whole]
  omega

def replaceFirst (registers : Registers) (x : Nibble) (block : List Byte)
    (whole : block.length = x.toNat + 1) : Registers :=
  { registers with v := ⟨(registers.spliced x block).toArray, registers.length_spliced whole⟩ }

def valuesText (registers : Registers) : String :=
  " ".intercalate <| registers.values.zipIdx.map fun (value, number) =>
    s!"V{Hex.plain number}={Hex.padded 2 value.toNat}"

def description (registers : Registers) : String :=
  let pc := Hex.padded 3 registers.pc
  let index := Hex.padded 3 registers.index
  s!"RegisterFile(PC={pc} I={index} SP={registers.sp} {registers.valuesText})"

theorem get_set (registers : Registers) (x y : Nibble) (value : Byte) :
    (registers.set x value).get y = if x = y then value else registers.get y := by
  by_cases same : x = y
  · subst same
    rw [if_pos rfl]
    exact Vector.getElem_set_self x.isLt
  · have apart : x.toNat ≠ y.toNat := fun equal => same (BitVec.eq_of_toNat_eq equal)
    rw [if_neg same]
    exact Vector.getElem_set_ne x.isLt y.isLt apart

end Registers

end Chip8
