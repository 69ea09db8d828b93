import Chip8.Machine.Step
import Chip8.Proofs.Display.Sprite
import Chip8.Proofs.Memory.Block
import Chip8.Proofs.Opcode.View
import Chip8.Proofs.Registers.Transfer

namespace Chip8

theorem Word.toFin_x (word : Word) : word.x.toFin = slotAt (word.toNat / 256 : Nat) := by
  apply Fin.ext
  have digit := word.toNat_x
  simp only [slotAt, BitVec.val_toFin]
  omega

theorem Word.toFin_y (word : Word) : word.y.toFin = slotAt (word.toNat / 16 : Nat) := by
  apply Fin.ext
  have digit := word.toNat_y
  simp only [slotAt, BitVec.val_toFin]
  omega

theorem Font.address_eq (digit : Nat) : Font.address digit = digit % 16 * 5 := by
  simp only [Font.address, Font.base, Font.glyphBytes, BitVec.toNat_ofInt]
  omega

namespace Machine

variable {machine : Machine}

theorem view_jumpTo (address : Address) :
    (machine.jumpTo address).view = { machine.view with pc := address.toNat } := rfl

theorem view_skipIf (condition : Bool) :
    (machine.skipIf condition).view = machine.view.skipIf (condition = true) := by
  cases condition with
  | false => rfl
  | true =>
      have wrapped := Address.toInt_ofInt (machine.registers.pc + 2)
      simp only [skipIf, if_true, view_jumpTo, Address.next, wrapped]
      rfl

theorem view_set (x : Nibble) (value : Byte) :
    (machine.withRegisters (machine.registers.set x value)).view =
      machine.view.put x.toFin value.toNat := by
  have set : (machine.registers.set x value).v.get =
      Function.update machine.registers.v.get x.toFin value :=
    get_set_eq_update machine.registers.v x.toFin value
  have values : (fun place => ((machine.registers.set x value).v.get place).toNat) =
      Function.update machine.view.v x.toFin value.toNat := by
    rw [set]
    exact Function.comp_update BitVec.toNat machine.registers.v.get x.toFin value
  simp only [view, withRegisters, View.put, values]
  rfl

theorem toNat_flag (condition : Prop) [Decidable condition] :
    (if condition then 1 else 0 : Byte).toNat = if condition then 1 else 0 := by
  split <;> rfl

theorem view_setFlag (x : Nibble) (value flag : Byte) :
    (machine.withRegisters ((machine.registers.set x value).setFlag flag)).view =
      machine.view.putFlagged x.toFin value.toNat flag.toNat := by
  rw [View.putFlagged, ← view_set]
  exact @view_set (machine.withRegisters (machine.registers.set x value)) 0xF flag

theorem get_x (word : Word) : (machine.registers.get word.x).toNat =
    machine.view.v (slotAt (word.toNat / 256 : Nat)) := by
  rw [← Word.toFin_x]
  rfl

theorem get_y (word : Word) : (machine.registers.get word.y).toNat =
    machine.view.v (slotAt (word.toNat / 16 : Nat)) := by
  rw [← Word.toFin_y]
  rfl

theorem keyHeld_eq (x : Nibble) : machine.keyHeld x =
    machine.view.held (slotAt (machine.registers.get x).toNat) := by
  have key : (slotAt (machine.registers.get x).toNat).val =
      (machine.registers.get x).toNat % 16 := by
    simp only [slotAt]
    omega
  simp only [keyHeld, view, KeySet.has, key]

theorem view_writeBlock {block : List Byte} (short : block.length ≤ 4096) :
    ({ machine with
      memory := machine.memory.writeBlock machine.registers.index block } : Machine).view =
      machine.view.store (block.map BitVec.toNat) := by
  have cells : (fun address => ((machine.memory.writeBlock machine.registers.index block).cells.get
      address).toNat) = (machine.view.store (block.map BitVec.toNat)).cell := by
    funext address
    simp only [View.store, List.getElem?_map]
    exact (congrArg BitVec.toNat (Memory.get_writeBlock short (BitVec.ofFin address))).trans
      (Option.getD_map ..).symm
  simp only [view, cells]
  rfl

theorem view_loadRegisters (x : Nibble) :
    (machine.withRegisters (machine.registers.replaceFirst x
      (machine.memory.readBlock machine.registers.index (x.toNat + 1))
      (Memory.length_readBlock ..))).view =
      { machine.view with v := fun place =>
          if place ≤ x.toFin then machine.view.fetched place else machine.view.v place } := by
  have values : (fun place => ((machine.registers.replaceFirst x
      (machine.memory.readBlock machine.registers.index (x.toNat + 1))
      (Memory.length_readBlock ..)).v.get place).toNat) = fun place =>
        if place ≤ x.toFin then machine.view.fetched place else machine.view.v place := by
    funext place
    rw [Registers.get_replaceFirst, Memory.getElem?_readBlock]
    by_cases loaded : place ≤ x.toFin
    · have inside : place.val < x.toNat + 1 := Nat.lt_succ_of_le loaded
      rw [if_pos inside, if_pos loaded, View.fetched, view_cellAt]
      rfl
    · have outside : ¬ place.val < x.toNat + 1 :=
        fun inside => loaded (Nat.le_of_lt_succ inside)
      rw [if_neg outside, if_neg loaded]
      rfl
  simp only [view, withRegisters, values]
  rfl

theorem firstValues_toNat (x : Nibble) : (machine.registers.firstValues x).map BitVec.toNat =
    (List.ofFn machine.view.v).take (x.toFin + 1) := by
  have names : machine.view.v = BitVec.toNat ∘ machine.registers.v.get := rfl
  rw [Registers.firstValues, List.map_take, Registers.values, names, ← List.map_ofFn, ofFn_get]
  rfl

/-- A sprite read at the index register flips the pixels that the table says it strikes. -/
theorem flips_eq_struck {rows : Nat} (left top : Nat) (px : Fin 64) (py : Fin 32)
    (short : rows ≤ 32) :
    Display.flips left top px py (machine.memory.readBlock machine.registers.index rows) =
      machine.view.struck left top rows px py := by
  have place : (((py - top : Int) % 32).toNat : Int) = (py - top : Int) % 32 := by omega
  rw [Display.flips_of_short (by rw [Memory.length_readBlock]; exact short),
    Memory.getElem?_readBlock]
  simp only [View.struck, View.fetched, view_cellAt]
  by_cases below : ((py - top : Int) % 32).toNat < rows
  · have within : (py - top : Int) % 32 < rows := by omega
    rw [if_pos below, place, Option.any_some, Display.getMsbD_spriteRow, BitVec.getMsbD]
    by_cases across : (px - left : Int) % 64 < 8
    · have column : ((px - left : Int) % 64).toNat < 8 := by omega
      simp only [across, column, within, and_self, decide_true, Bool.true_and]
      rfl
    · have column : ¬ ((px - left : Int) % 64).toNat < 8 := by omega
      simp only [across, column, false_and, decide_false, Bool.false_and]
  · have outside : ¬ (py - top : Int) % 32 < rows := by omega
    rw [if_neg below]
    simp [outside]

theorem view_drawn (flag : Byte) (drawn : Display) :
    ({ machine with
      registers := machine.registers.setFlag flag
      display := drawn } : Machine).view =
      { machine.view.put (slotAt 0xF) flag.toNat with pixel := drawn.pixel } :=
  congrArg (fun view : View => { view with pixel := drawn.pixel }) (view_set 0xF flag)

theorem pixel_draw {rows : Nat} (left top : Nat) (short : rows ≤ 32) :
    (machine.display.drawSprite left top
      (machine.memory.readBlock machine.registers.index rows)).1.pixel = fun px py =>
      machine.view.pixel px py ^^ machine.view.struck left top rows px py := by
  funext px py
  rw [← flips_eq_struck left top px py short]
  exact Display.pixel_drawSprite

theorem draw_hit_iff {rows : Nat} (left top : Nat) (short : rows ≤ 32) :
    (machine.display.drawSprite left top
      (machine.memory.readBlock machine.registers.index rows)).2 = true ↔
      ∃ px py, machine.view.pixel px py = true ∧
        machine.view.struck left top rows px py = true := by
  have length : (machine.memory.readBlock machine.registers.index rows).length ≤ 32 := by
    rw [Memory.length_readBlock]
    exact short
  simp only [Display.drawSprite_hit_iff_of_short length, flips_eq_struck _ _ _ _ short]
  rfl

end Machine

end Chip8
