import Chip8.Proofs.Memory.Block
import Chip8.Proofs.Opcode.View
import Mathlib.Data.Nat.Find

/-!
# Reading and writing at any integer

Every integer names a cell, and integers can be written from any of them on, round memory as often
as there are enough of them.  A cell then holds the low byte of the last integer that falls on it.
-/

namespace Chip8.Memory

variable {memory : Memory} {address : Int} {values : List Int} {place : Fin 4096}

def FallsOn (address : Int) (place : Fin 4096) (distance : Nat) : Prop :=
  cellAt (address + distance) = place

instance : DecidablePred (FallsOn address place) := fun distance =>
  inferInstanceAs (Decidable (cellAt (address + distance) = place))

/-- The byte of a cell after integers were written one after another from an address on. -/
inductive LastWrite (address : Int) (values : List Int) (place : Fin 4096) (old : Byte) :
    Byte → Prop where
  | written {byte : Byte} (index : Nat) (inside : index < values.length)
      (falls : FallsOn address place index)
      (last : ∀ later, index < later → later < values.length → ¬ FallsOn address place later)
      (low : (byte.toNat : Int) = values[index] % 256) : LastWrite address values place old byte
  | missed (outside : ∀ index < values.length, ¬ FallsOn address place index) :
      LastWrite address values place old old

theorem read_eq (number : Int) : memory.read number = memory.cells.get (cellAt number) := by
  rw [read, get, Address.toFin_ofInt]

theorem fallsOn_iff {distance : Nat} : FallsOn address place distance ↔
    Address.ofInt (address + distance) = BitVec.ofFin place := by
  rw [FallsOn, ← Address.toFin_ofInt]
  constructor
  · intro same
    rw [← same]
  · intro same
    rw [same]

/-- If some of the values fall on a cell then one of them is the last that does. -/
theorem exists_last {count index : Nat} (inside : index < count)
    (falls : FallsOn address place index) :
    ∃ last, last < count ∧ FallsOn address place last ∧
      ∀ later, last < later → later < count → ¬ FallsOn address place later := by
  have bound : index ≤ count - 1 := Nat.le_sub_one_of_lt inside
  have below : Nat.findGreatest (FallsOn address place) (count - 1) ≤ count - 1 :=
    Nat.findGreatest_le (count - 1)
  refine ⟨_, by omega, Nat.findGreatest_spec bound falls, ?_⟩
  intro later behind within
  exact Nat.findGreatest_is_greatest behind (Nat.le_sub_one_of_lt within)

theorem writeValues_eq_writeBlock : memory.writeValues address values =
    memory.writeBlock address (values.map (BitVec.ofInt 8)) := by
  induction values generalizing memory address with
  | nil => rfl
  | cons value rest ih => rw [writeValues, ih, List.map_cons, writeBlock, write]

theorem get_writeValues_of_last {index : Nat} (inside : index < values.length)
    (falls : FallsOn address place index)
    (last : ∀ later, index < later → later < values.length → ¬ FallsOn address place later) :
    (memory.writeValues address values).cells.get place = BitVec.ofInt 8 values[index] := by
  have length : (values.map (BitVec.ofInt 8)).length = values.length := List.length_map ..
  have stays : (memory.writeBlock address (values.map (BitVec.ofInt 8))).get
      (BitVec.ofFin place) = (values.map (BitVec.ofInt 8))[index] := by
    refine get_writeBlock_of_last (by omega) (fallsOn_iff.mp falls) ?_
    intro later behind within same
    exact last later behind (by omega) (fallsOn_iff.mpr same)
  rw [writeValues_eq_writeBlock]
  exact stays.trans (List.getElem_map ..)

theorem get_writeValues_of_outside
    (outside : ∀ index < values.length, ¬ FallsOn address place index) :
    (memory.writeValues address values).cells.get place = memory.cells.get place := by
  have length : (values.map (BitVec.ofInt 8)).length = values.length := List.length_map ..
  have stays : (memory.writeBlock address (values.map (BitVec.ofInt 8))).get
      (BitVec.ofFin place) = memory.get (BitVec.ofFin place) := by
    refine get_writeBlock_of_outside ?_
    intro index inside same
    exact outside index (by omega) (fallsOn_iff.mpr same)
  rw [writeValues_eq_writeBlock]
  exact stays

theorem lastWrite_writeValues : LastWrite address values place (memory.cells.get place)
    ((memory.writeValues address values).cells.get place) := by
  by_cases reached : ∃ index < values.length, FallsOn address place index
  · obtain ⟨_, inside, falls⟩ := reached
    obtain ⟨index, inside, falls, last⟩ := exists_last inside falls
    rw [get_writeValues_of_last inside falls last]
    exact .written index inside falls last (Byte.toInt_ofInt _)
  · have outside (index : Nat) (inside : index < values.length) : ¬ FallsOn address place index :=
      fun falls => reached ⟨index, inside, falls⟩
    rw [get_writeValues_of_outside outside]
    exact .missed outside

/-- What memory answers and keeps, whatever integers it is addressed by and given. -/
structure KeepsLastWrites (memory : Memory) : Prop where
  written (address : Int) (values : List Int) (place : Fin 4096) :
    LastWrite address values place (memory.cells.get place)
      ((memory.writeValues address values).cells.get place)
  bytes (address : Int) (block : List Byte) : memory.writeBlock address block =
    memory.writeValues address (block.map fun byte => (byte.toNat : Int))
  block (address : Int) (count : Nat) : memory.readBlock address count =
    List.ofFn fun index : Fin count => memory.cells.get (cellAt (address + index))
  word (address : Int) : (memory.readWord address).toNat =
    256 * (memory.cells.get (cellAt address)).toNat +
      (memory.cells.get (cellAt (address + 1))).toNat
  readBack (address : Int) (values : List Int) (short : values.length ≤ 4096) :
    ((memory.writeValues address values).readBlock address values.length).map
      (fun byte => (byte.toNat : Int)) = values.map (· % 256)

theorem keepsLastWrites (memory : Memory) : memory.KeepsLastWrites where
  written _ _ _ := lastWrite_writeValues
  bytes address block := by
    have same : (block.map fun byte => (byte.toNat : Int)).map (BitVec.ofInt 8) = block := by
      rw [List.map_map]
      refine List.map_id'' ?_ block
      intro byte
      rw [Function.comp_apply, BitVec.ofInt_natCast, BitVec.ofNat_toNat, BitVec.setWidth_eq]
    rw [writeValues_eq_writeBlock, same]
  block address count := by
    apply List.ext_getElem?
    intro index
    rw [getElem?_readBlock, List.getElem?_ofFn, read_eq]
    rfl
  word address := by rw [readWord, Word.toNat_ofBytes, read_eq, read_eq]
  readBack address values short := by
    have length : (values.map (BitVec.ofInt 8)).length = values.length := List.length_map ..
    rw [writeValues_eq_writeBlock, ← length, readBlock_writeBlock (by omega), List.map_map]
    exact List.map_congr_left fun value _ => Byte.toInt_ofInt value

end Chip8.Memory
