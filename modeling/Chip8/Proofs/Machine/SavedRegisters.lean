import Chip8.Machine.Step
import Chip8.Proofs.Memory.Block
import Chip8.Proofs.Registers.Transfer

namespace Chip8

def Registers.overwrite (registers : Registers) (x : Nibble) (values : Fin 16 → Byte) : Registers :=
  { registers with
    v := Vector.ofFn fun place => if place ≤ x.toFin then values place else registers.v.get place }

namespace Registers

variable {registers : Registers} {x : Nibble} {values : Fin 16 → Byte}

theorem index_overwrite : (registers.overwrite x values).index = registers.index := by
  simp only [overwrite]

theorem drop_overwrite :
    (registers.overwrite x values).values.drop (x.toNat + 1) =
      registers.values.drop (x.toNat + 1) := by
  apply List.ext_getElem?
  intro distance
  rw [List.getElem?_drop, List.getElem?_drop]
  by_cases inside : x.toNat + 1 + distance < 16
  · have written :=
      getElem?_values (registers.overwrite x values) ⟨x.toNat + 1 + distance, inside⟩
    have old := getElem?_values registers ⟨x.toNat + 1 + distance, inside⟩
    have above : ¬ (⟨x.toNat + 1 + distance, inside⟩ : Fin 16) ≤ x.toFin := by
      rw [Fin.le_def, BitVec.val_toFin]
      dsimp only
      omega
    have kept : (registers.overwrite x values).v.get ⟨x.toNat + 1 + distance, inside⟩ =
        registers.v.get ⟨x.toNat + 1 + distance, inside⟩ :=
      (Vector.getElem_ofFn inside).trans (if_neg above)
    rw [written, old, kept]
  · rw [List.getElem?_eq_none (by rw [length_values]; omega),
      List.getElem?_eq_none (by rw [length_values]; omega)]

theorem replaceFirst_overwrite :
    (registers.overwrite x values).replaceFirst x (registers.firstValues x)
      (registers.length_firstValues x) = registers := by
  refine eq_of_values ?_ rfl
  rw [values_replaceFirst, drop_overwrite, firstValues, List.take_append_drop]

theorem firstValues_replaceFirst {block : List Byte} (whole : block.length = x.toNat + 1) :
    (registers.replaceFirst x block whole).firstValues x = block := by
  rw [firstValues, values_replaceFirst, ← whole, List.take_left]

end Registers

namespace Machine

def saved (machine : Machine) (x : Nibble) : Machine := (machine.perform (.saveRegisters x)).2

def loaded (machine : Machine) (x : Nibble) : Machine := (machine.perform (.loadRegisters x)).2

/-- What saving `V0` to `Vx` and loading them do to a machine and to each other. -/
structure SavesAndLoads (machine : Machine) (x : Nibble) : Prop where
  words : Instruction.decode (Word.ofBytes (0xF#4 ++ x) 0x55) = some (.saveRegisters x) ∧
    Instruction.decode (Word.ofBytes (0xF#4 ++ x) 0x65) = some (.loadRegisters x)
  succeed : (machine.perform (.saveRegisters x)).1 = .ok .quiet ∧
    (machine.perform (.loadRegisters x)).1 = .ok .quiet
  /-- Saving changes nothing but memory. -/
  savedRest : machine.saved x = { machine with memory := (machine.saved x).memory }
  savedBlock (place : Fin 16) (inside : place ≤ x.toFin) :
    (machine.saved x).memory.read (machine.registers.index + place) = machine.registers.v.get place
  savedOutside (address : Address)
    (outside : ∀ place : Fin 16, place ≤ x.toFin →
      Address.ofInt (machine.registers.index + place) ≠ address) :
    (machine.saved x).memory.get address = machine.memory.get address
  loadedRest : machine.loaded x =
    { machine with registers := { machine.registers with v := (machine.loaded x).registers.v } }
  /-- The block takes the place of as many values; those of the registers above `Vx` stay. -/
  loadedValues : (machine.loaded x).registers.values =
    machine.memory.readBlock machine.registers.index (x.toNat + 1) ++
      machine.registers.values.drop (x.toNat + 1)
  restores (values : Fin 16 → Byte) :
    ((machine.saved x).withRegisters ((machine.saved x).registers.overwrite x values)).loaded x =
      machine.saved x
  settled : (machine.loaded x).saved x = machine.loaded x

variable {machine : Machine} {x : Nibble}

theorem decode_block : ∀ x : Nibble,
    Instruction.decode (Word.ofBytes (0xF#4 ++ x) 0x55) = some (.saveRegisters x) ∧
      Instruction.decode (Word.ofBytes (0xF#4 ++ x) 0x65) = some (.loadRegisters x) := by
  decide

theorem memory_saved : (machine.saved x).memory =
    machine.memory.writeBlock machine.registers.index (machine.registers.firstValues x) := rfl

theorem loaded_eq : machine.loaded x = machine.withRegisters (machine.registers.replaceFirst x
    (machine.memory.readBlock machine.registers.index (x.toNat + 1))
    (Memory.length_readBlock ..)) := rfl

theorem registers_loaded : (machine.loaded x).registers = machine.registers.replaceFirst x
    (machine.memory.readBlock machine.registers.index (x.toNat + 1))
    (Memory.length_readBlock ..) := rfl

theorem short_firstValues : (machine.registers.firstValues x).length ≤ 4096 := by
  have bound := x.isLt
  rw [Registers.length_firstValues]
  omega

theorem read_saved {place : Fin 16} (inside : place ≤ x.toFin) :
    (machine.saved x).memory.read (machine.registers.index + place) =
      machine.registers.v.get place := by
  have within : place.val < x.toNat + 1 := Nat.lt_succ_of_le inside
  have taken : place.val < (machine.registers.firstValues x).length := by
    rw [Registers.length_firstValues]
    exact within
  have value : (machine.registers.firstValues x)[place.val]? =
      some (machine.registers.v.get place) := by
    rw [Registers.firstValues, List.getElem?_take_of_lt within, Registers.getElem?_values]
  rw [memory_saved, Memory.read_writeBlock short_firstValues taken]
  exact Option.some.inj ((List.getElem?_eq_getElem taken).symm.trans value)

theorem get_saved_of_outside {address : Address}
    (outside : ∀ place : Fin 16, place ≤ x.toFin →
      Address.ofInt (machine.registers.index + place) ≠ address) :
    (machine.saved x).memory.get address = machine.memory.get address := by
  have bound := x.isLt
  rw [memory_saved, Memory.get_writeBlock_of_outside]
  intro distance within
  rw [Registers.length_firstValues] at within
  exact outside ⟨distance, by omega⟩ (Nat.le_of_lt_succ within)

theorem loaded_of_overwritten (values : Fin 16 → Byte) :
    ((machine.saved x).withRegisters ((machine.saved x).registers.overwrite x values)).loaded x =
      machine.saved x := by
  have length := machine.registers.length_firstValues x
  have registers : (machine.saved x).registers = machine.registers := rfl
  have block : (machine.saved x).memory.readBlock machine.registers.index (x.toNat + 1) =
      machine.registers.firstValues x := by
    rw [memory_saved, ← length, Memory.readBlock_writeBlock short_firstValues]
  rw [loaded_eq, registers]
  simp only [withRegisters, Registers.index_overwrite, block, Registers.replaceFirst_overwrite]
  rfl

theorem saved_loaded : (machine.loaded x).saved x = machine.loaded x := by
  have index : (machine.loaded x).registers.index = machine.registers.index := rfl
  have block : (machine.loaded x).registers.firstValues x =
      machine.memory.readBlock machine.registers.index (x.toNat + 1) := by
    rw [registers_loaded, Registers.firstValues_replaceFirst]
  have memory : ((machine.loaded x).saved x).memory = machine.memory := by
    have bound := x.isLt
    rw [memory_saved, index, block]
    exact Memory.writeBlock_readBlock (by omega)
  exact congrArg (fun memory => { machine.loaded x with memory }) memory

/-- Saving registers and loading them undo each other and disturb nothing else, for every machine,
every last register and every place that the index register points to. -/
theorem savesAndLoads (machine : Machine) (x : Nibble) : SavesAndLoads machine x where
  words := decode_block x
  succeed := ⟨rfl, rfl⟩
  savedRest := rfl
  savedBlock _ inside := read_saved inside
  savedOutside _ outside := get_saved_of_outside outside
  loadedRest := rfl
  loadedValues := by rw [registers_loaded, Registers.values_replaceFirst]
  restores := loaded_of_overwritten
  settled := saved_loaded

end Machine

end Chip8
