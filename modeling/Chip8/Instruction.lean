import Chip8.Word

/-!
# Instructions

An instruction word is read by its nibbles: the first one selects a family, the second and third
usually name registers, and the last, the last two or the last three hold an operand.  A word that
fits no pattern is no instruction.
-/

namespace Chip8

namespace Word

def family (word : Word) : Nibble := word.extractLsb' 12 4

def x (word : Word) : Nibble := word.extractLsb' 8 4

def y (word : Word) : Nibble := word.extractLsb' 4 4

def lowNibble (word : Word) : Nibble := word.extractLsb' 0 4

def lowByte (word : Word) : Byte := word.extractLsb' 0 8

def target (word : Word) : Address := word.extractLsb' 0 12

theorem toNat_family (word : Word) : word.family.toNat = word.toNat / 4096 := by
  have bound := word.isLt
  simp only [family, BitVec.extractLsb'_toNat, Nat.shiftRight_eq_div_pow]
  omega

theorem toNat_x (word : Word) : word.x.toNat = word.toNat / 256 % 16 := by
  simp only [x, BitVec.extractLsb'_toNat, Nat.shiftRight_eq_div_pow]

theorem toNat_y (word : Word) : word.y.toNat = word.toNat / 16 % 16 := by
  simp only [y, BitVec.extractLsb'_toNat, Nat.shiftRight_eq_div_pow]

theorem toNat_lowNibble (word : Word) : word.lowNibble.toNat = word.toNat % 16 := by
  simp only [lowNibble, BitVec.extractLsb'_toNat, Nat.shiftRight_zero]

theorem toNat_lowByte (word : Word) : word.lowByte.toNat = word.toNat % 256 := by
  simp only [lowByte, BitVec.extractLsb'_toNat, Nat.shiftRight_zero]

theorem toNat_target (word : Word) : word.target.toNat = word.toNat % 4096 := by
  simp only [target, BitVec.extractLsb'_toNat, Nat.shiftRight_zero]

end Word

inductive Instruction.Operation where
  | copy
  | or
  | and
  | xor
  | add
  /-- First minus second; the flag is set if the first was greater. -/
  | subtract
  | shiftRight
  /-- Second minus first; the flag is set if the second was greater. -/
  | subtractFrom
  | shiftLeft
  deriving DecidableEq, Repr

inductive Instruction where
  | clearScreen
  | returnFromCall
  | jump (target : Address)
  | call (target : Address)
  | skipIfByte (x : Nibble) (value : Byte)
  | skipUnlessByte (x : Nibble) (value : Byte)
  | skipIfEqual (x y : Nibble)
  | loadByte (x : Nibble) (value : Byte)
  | addByte (x : Nibble) (value : Byte)
  | operate (operation : Instruction.Operation) (x y : Nibble)
  | skipUnlessEqual (x y : Nibble)
  | loadIndex (target : Address)
  | jumpOffset (target : Address)
  | random (x : Nibble) (mask : Byte)
  | draw (x y : Nibble) (rows : Nibble)
  | skipIfKey (x : Nibble)
  | skipUnlessKey (x : Nibble)
  | readDelay (x : Nibble)
  | awaitKey (x : Nibble)
  | setDelay (x : Nibble)
  | setSound (x : Nibble)
  | addIndex (x : Nibble)
  | loadGlyph (x : Nibble)
  | storeDecimal (x : Nibble)
  | saveRegisters (x : Nibble)
  | loadRegisters (x : Nibble)
  deriving DecidableEq, Repr

namespace Instruction

def operation? (selector : Nibble) : Option Operation :=
  match selector with
  | 0x0 => some .copy
  | 0x1 => some .or
  | 0x2 => some .and
  | 0x3 => some .xor
  | 0x4 => some .add
  | 0x5 => some .subtract
  | 0x6 => some .shiftRight
  | 0x7 => some .subtractFrom
  | 0xE => some .shiftLeft
  | _ => none

def keyTest? (selector : Byte) (x : Nibble) : Option Instruction :=
  match selector with
  | 0x9E => some (skipIfKey x)
  | 0xA1 => some (skipUnlessKey x)
  | _ => none

def transfer? (selector : Byte) (x : Nibble) : Option Instruction :=
  match selector with
  | 0x07 => some (readDelay x)
  | 0x0A => some (awaitKey x)
  | 0x15 => some (setDelay x)
  | 0x18 => some (setSound x)
  | 0x1E => some (addIndex x)
  | 0x29 => some (loadGlyph x)
  | 0x33 => some (storeDecimal x)
  | 0x55 => some (saveRegisters x)
  | 0x65 => some (loadRegisters x)
  | _ => none

def decode (word : Word) : Option Instruction :=
  match word.family with
  | 0x0 =>
    if word = 0x00E0 then some clearScreen
    else if word = 0x00EE then some returnFromCall
    else none
  | 0x1 => some (jump word.target)
  | 0x2 => some (call word.target)
  | 0x3 => some (skipIfByte word.x word.lowByte)
  | 0x4 => some (skipUnlessByte word.x word.lowByte)
  | 0x5 => if word.lowNibble = 0 then some (skipIfEqual word.x word.y) else none
  | 0x6 => some (loadByte word.x word.lowByte)
  | 0x7 => some (addByte word.x word.lowByte)
  | 0x8 => (operation? word.lowNibble).map (operate · word.x word.y)
  | 0x9 => if word.lowNibble = 0 then some (skipUnlessEqual word.x word.y) else none
  | 0xA => some (loadIndex word.target)
  | 0xB => some (jumpOffset word.target)
  | 0xC => some (random word.x word.lowByte)
  | 0xD => some (draw word.x word.y word.lowNibble)
  | 0xE => keyTest? word.lowByte word.x
  | _ => transfer? word.lowByte word.x

end Instruction

end Chip8
