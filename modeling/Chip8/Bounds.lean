/-!
# Slot numbers and bounds errors

A slot number is a signed 64-bit integer.  It counts from the front of a sequence when it is not
negative and from the back when it is: `-1` is the last slot.  Anything else is out of bounds.
-/

namespace Chip8

def slot? (count : Nat) (number : Int) : Option (Fin count) :=
  if front : 0 ≤ number ∧ number.toNat < count then
    some ⟨number.toNat, front.2⟩
  else if back : number < 0 ∧ 0 ≤ number + count then
    some ⟨(number + count).toNat, by omega⟩
  else
    none

theorem slot?_natCast {count number : Nat} (inside : number < count) :
    slot? count number = some ⟨number, inside⟩ := by
  simp [slot?, inside]

def isSlotNumber (number : Int) : Bool :=
  decide (-0x8000000000000000 ≤ number ∧ number < 0x8000000000000000)

inductive BoundsError where
  | slotNumber
  | stackRead
  | stackWrite
  | register
  | byteValue
  | displayRow
  | displayColumn
  | pictureRow
  | windowPixel
  deriving DecidableEq, Repr

namespace BoundsError

def message : BoundsError → String
  | slotNumber => "cannot fit 'int' into an index-sized integer"
  | stackRead | displayRow => "list index out of range"
  | stackWrite | pictureRow => "list assignment index out of range"
  | register | displayColumn => "bytearray index out of range"
  | byteValue => "byte must be in range(0, 256)"
  | windowPixel => "pixel index out of range"

end BoundsError

/-- The slot that a number names among `count` of them; `missing` if there is no such slot. -/
def slot (count : Nat) (number : Int) (missing : BoundsError) : Except BoundsError (Fin count) :=
  if isSlotNumber number then
    match slot? count number with
    | some place => .ok place
    | none => .error missing
  else
    .error .slotNumber

theorem slot_of_few {count number : Nat} {missing : BoundsError} (few : count ≤ 64)
    (inside : number < count) : slot count number missing = .ok ⟨number, inside⟩ := by
  have numbered : isSlotNumber number = true := by
    simp only [isSlotNumber, decide_eq_true_eq]
    omega
  rw [slot, if_pos numbered, slot?_natCast inside]

inductive EntryError where
  | outside (number : Int) (count : Nat)
  | unsignedWord
  | tooWide
  deriving DecidableEq, Repr

def entry {α : Type} (values : List α) (number : Int) : Except EntryError α :=
  if isSlotNumber number then
    match slot? values.length number with
    | some place => .ok (values.get place)
    | none => .error (.outside number values.length)
  else if 0 ≤ number ∧ number < 0x10000000000000000 then
    .error .unsignedWord
  else
    .error .tooWide

end Chip8
