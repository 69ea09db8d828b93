import Chip8.Word

/-!
# Hexadecimal text

Two spellings.  Reports write numbers in upper case, padded with zeros to a total width in which
a minus sign counts; a number that needs more digits is not cut.  Byte strings are written in
lower case, two digits a byte, and read back in either case.
-/

namespace Chip8.Hex

def digits (value : Nat) : List Char := Nat.toDigits 16 value

def zeroFill (width : Nat) (text : List Char) : List Char :=
  List.replicate (width - text.length) '0' ++ text

/-- A number in upper case, zero-filled to a total of `width` characters, sign included. -/
def padded (width : Nat) (value : Int) : String :=
  let upper := (digits value.natAbs).map Char.toUpper
  if value < 0 then
    String.ofList ('-' :: zeroFill (width - 1) upper)
  else
    String.ofList (zeroFill width upper)

def plain (value : Int) : String := padded 0 value

def byteDigits (value : Byte) : List Char := zeroFill 2 (digits value.toNat)

def ofBytes (bytes : List Byte) : String := String.ofList (bytes.flatMap byteDigits)

def digitValue? (c : Char) : Option Nat :=
  if '0' ≤ c ∧ c ≤ '9' then some (c.toNat - '0'.toNat)
  else if 'a' ≤ c ∧ c ≤ 'f' then some (c.toNat - 'a'.toNat + 10)
  else if 'A' ≤ c ∧ c ≤ 'F' then some (c.toNat - 'A'.toNat + 10)
  else none

/-- Reads pairs of digits; an odd digit or any other character refuses the whole text. -/
def bytesOfList? : List Char → Option (List Byte)
  | [] => some []
  | high :: low :: rest => do
    let h ← digitValue? high
    let l ← digitValue? low
    let tail ← bytesOfList? rest
    some (BitVec.ofNat 8 (16 * h + l) :: tail)
  | [_] => none

def toBytes? (text : String) : Option (List Byte) := bytesOfList? text.toList

end Chip8.Hex
