import Chip8.Registers

namespace Chip8

theorem isSlotNumber_of_lt {number : Nat} (small : number < 16) : isSlotNumber number = true := by
  simp only [isSlotNumber, decide_eq_true_eq]
  omega

theorem slot_of_lt {number : Nat} {missing : BoundsError} (inside : number < 16) :
    slot 16 number missing = .ok ⟨number, inside⟩ := slot_of_few (by decide) inside

namespace Registers

variable {registers : Registers}

theorem put_of_byte {value : Int} (x : Nibble) (byte : 0 ≤ value ∧ value < 256) :
    registers.put x.toNat value = .ok (registers.set x (BitVec.ofInt 8 value)) := by
  rw [put, if_pos byte, slot_of_lt x.isLt]
  rfl

theorem put_of_not_byte {number value : Int} (word : isSlotNumber number = true)
    (wide : ¬ (0 ≤ value ∧ value < 256)) : registers.put number value = .error .byteValue := by
  rw [put, if_neg wide, if_pos word]

theorem liveStack_eq (started : 0 ≤ registers.sp) :
    registers.liveStack = registers.stack.toList.take registers.sp.toNat := by
  rw [liveStack, if_pos started]

theorem length_liveStack (started : 0 ≤ registers.sp) (depth : registers.sp ≤ 16) :
    (registers.liveStack.length : Int) = registers.sp := by
  rw [liveStack_eq started, List.length_take, Vector.length_toList]
  omega

theorem stackFull_eq (depth : registers.sp ≤ 16) :
    registers.stackFull = decide (registers.sp = 16) := by
  apply decide_eq_decide.mpr
  simp only [stackDepth]
  omega

theorem stackEmpty_eq (started : 0 ≤ registers.sp) :
    registers.stackEmpty = decide (registers.sp = 0) := by
  apply decide_eq_decide.mpr
  omega

theorem push_of_lt {depth : Nat} {address : Int} (counted : registers.sp = depth)
    (room : depth < 16) : registers.push address = .ok { registers with
      stack := registers.stack.set depth address
      sp := registers.sp + 1 } := by
  rw [push, counted, slot_of_lt room]

theorem pull_of_lt {depth : Nat} (counted : registers.sp = depth + 1) (used : depth < 16) :
    registers.pull =
      (.ok (registers.stack.get ⟨depth, used⟩), { registers with sp := depth }) := by
  have shorter : registers.sp - 1 = (depth : Int) := by omega
  simp only [pull, shorter, slot_of_lt used]

theorem length_firstValues (x : Nibble) : (registers.firstValues x).length = x.toNat + 1 := by
  have bound := x.isLt
  simp only [firstValues, values, List.length_take, Vector.length_toList]
  omega

theorem getElem?_values (registers : Registers) (x : Fin 16) :
    registers.values[x.val]? = some (registers.v.get x) := by
  rw [List.getElem?_eq_getElem (by rw [length_values]; exact x.isLt)]
  rfl

variable {x : Nibble} {block : List Byte} {whole : block.length = x.toNat + 1}

theorem values_replaceFirst : (registers.replaceFirst x block whole).values =
    block ++ registers.values.drop (x.toNat + 1) := rfl

theorem get_replaceFirst (place : Fin 16) :
    (registers.replaceFirst x block whole).v.get place =
      block[place.val]?.getD (registers.v.get place) := by
  have replaced := getElem?_values (registers.replaceFirst x block whole) place
  have old := getElem?_values registers place
  rw [values_replaceFirst, ← whole] at replaced
  by_cases taken : place.val < block.length
  · rw [List.getElem?_append_left taken] at replaced
    rw [replaced, Option.getD_some]
  · have behind : block.length + (place.val - block.length) = place := by omega
    rw [List.getElem?_append_right (by omega), List.getElem?_drop, behind, old] at replaced
    rw [List.getElem?_eq_none (by omega), Option.getD_none]
    exact (Option.some.inj replaced).symm

theorem eq_of_values {other : Registers} (values : registers.values = other.values)
    (rest : registers = { other with v := registers.v }) : registers = other := by
  rw [rest, Vector.toList_inj.mp values]

end Registers

end Chip8
