import Chip8.Memory

/-!
# Blocks of memory

A block takes the cells from its address on, around the end of memory.  One that is longer than
memory laps it, and a cell keeps the last byte that falls on it.  The offset of a cell is its
distance from the address that an integer names, counted upwards.
-/

namespace Chip8.Memory

variable {memory : Memory} {address : Int} {count : Nat} {block : List Byte}

def offset (address : Int) (place : Address) : Nat := ((place.toNat - address) % 4096).toNat

/-- The cell at a distance from an address, if the distance does not lap memory. -/
theorem offset_ofInt_add {place : Nat} (inside : place < 4096) :
    offset address (Address.ofInt (address + place)) = place := by
  have named := Address.toInt_ofInt (address + place)
  simp only [offset]
  omega

theorem ofInt_add_offset (place : Address) :
    Address.ofInt (address + offset address place) = place := by
  have named := Address.toInt_ofInt (address + offset address place)
  have bound := place.isLt
  apply BitVec.eq_of_toNat_eq
  simp only [offset] at named ⊢
  omega

theorem writeBlock_append (first rest : List Byte) :
    memory.writeBlock address (first ++ rest) =
      (memory.writeBlock address first).writeBlock (address + first.length) rest := by
  induction first generalizing memory address with
  | nil => rw [List.nil_append, List.length_nil, Int.natCast_zero, Int.add_zero, writeBlock]
  | cons value first ih =>
      have next : address + (value :: first).length = address + 1 + first.length := by
        rw [List.length_cons]
        omega
      rw [List.cons_append, writeBlock, ih, next, writeBlock]

theorem get_writeBlock_of_outside {place : Address}
    (outside : ∀ distance < block.length, Address.ofInt (address + distance) ≠ place) :
    (memory.writeBlock address block).get place = memory.get place := by
  induction block generalizing memory address with
  | nil => rfl
  | cons value rest ih =>
      have start : Address.ofInt address ≠ place := by
        have first := outside 0 (Nat.succ_pos rest.length)
        rwa [Int.natCast_zero, Int.add_zero] at first
      have others (distance : Nat) (inside : distance < rest.length) :
          Address.ofInt (address + 1 + distance) ≠ place := by
        have next : address + 1 + distance = address + (distance + 1 : Nat) := by omega
        rw [next]
        exact outside (distance + 1) (Nat.succ_lt_succ inside)
      rw [writeBlock, ih others, get_set, if_neg start]

/-- Of the bytes that fall on one cell the last one stays. -/
theorem get_writeBlock_of_last {place : Address} {index : Nat} (inside : index < block.length)
    (falls : Address.ofInt (address + index) = place)
    (last : ∀ later, index < later → later < block.length →
      Address.ofInt (address + later) ≠ place) :
    (memory.writeBlock address block).get place = block[index] := by
  have cut : block.take index ++ block[index] :: block.drop (index + 1) = block := by
    rw [← List.drop_eq_getElem_cons inside, List.take_append_drop]
  have front : (block.take index).length = index := List.length_take_of_le (Nat.le_of_lt inside)
  -- The bytes behind this one do not reach the cell any more.
  have behind (distance : Nat) (within : distance < (block.drop (index + 1)).length) :
      Address.ofInt (address + index + 1 + distance) ≠ place := by
    have beyond : address + index + 1 + distance = address + (index + 1 + distance : Nat) := by
      omega
    rw [List.length_drop] at within
    rw [beyond]
    exact last (index + 1 + distance) (by omega) (by omega)
  calc (memory.writeBlock address block).get place
      = (memory.writeBlock address
          (block.take index ++ block[index] :: block.drop (index + 1))).get place := by rw [cut]
    _ = (((memory.writeBlock address (block.take index)).set (Address.ofInt (address + index))
          block[index]).writeBlock (address + index + 1) (block.drop (index + 1))).get place := by
        rw [writeBlock_append, front, writeBlock]
    _ = block[index] := by rw [get_writeBlock_of_outside behind, get_set, if_pos falls]

/-- A block that does not lap memory leaves each byte where it was put, and the rest alone. -/
theorem get_writeBlock (short : block.length ≤ 4096) (place : Address) :
    (memory.writeBlock address block).get place =
      block[offset address place]?.getD (memory.get place) := by
  have distinct (distance : Nat) (inside : distance < block.length)
      (falls : Address.ofInt (address + distance) = place) : offset address place = distance := by
    rw [← falls]
    exact offset_ofInt_add (by omega)
  by_cases inside : offset address place < block.length
  · rw [List.getElem?_eq_getElem inside, Option.getD_some]
    refine get_writeBlock_of_last inside (ofInt_add_offset place) ?_
    intro later behind within falls
    have same := distinct later within falls
    omega
  · rw [List.getElem?_eq_none (by omega), Option.getD_none]
    refine get_writeBlock_of_outside ?_
    intro distance within falls
    have same := distinct distance within falls
    omega

theorem getElem?_readBlock (place : Nat) : (memory.readBlock address count)[place]? =
    if place < count then some (memory.read (address + place)) else none := by
  by_cases inside : place < count
  · simp [readBlock, inside]
  · simp [readBlock, inside]

theorem eq_of_get {other : Memory} (same : ∀ place, memory.get place = other.get place) :
    memory = other := by
  have cells : memory.cells = other.cells :=
    Vector.ext fun place inside => same ⟨place, inside⟩
  cases memory
  cases other
  exact congrArg Memory.mk cells

theorem read_writeBlock (short : block.length ≤ 4096) {place : Nat}
    (inside : place < block.length) :
    (memory.writeBlock address block).read (address + place) = block[place] := by
  rw [read, get_writeBlock short, offset_ofInt_add (by omega), List.getElem?_eq_getElem inside,
    Option.getD_some]

theorem readBlock_writeBlock (short : block.length ≤ 4096) :
    (memory.writeBlock address block).readBlock address block.length = block := by
  apply List.ext_getElem?
  intro place
  rw [getElem?_readBlock]
  by_cases inside : place < block.length
  · rw [if_pos inside, read_writeBlock short inside, List.getElem?_eq_getElem inside]
  · rw [if_neg inside, List.getElem?_eq_none (by omega)]

theorem writeBlock_readBlock (short : count ≤ 4096) :
    memory.writeBlock address (memory.readBlock address count) = memory := by
  apply eq_of_get
  intro place
  rw [get_writeBlock (by rw [length_readBlock]; exact short), getElem?_readBlock]
  by_cases inside : offset address place < count
  · rw [if_pos inside, Option.getD_some, read, ofInt_add_offset]
  · rw [if_neg inside, Option.getD_none]

end Chip8.Memory
