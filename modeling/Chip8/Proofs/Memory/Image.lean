import Chip8.Proofs.Memory.Block

namespace Chip8.Memory

variable {program : List Byte}

theorem get_zero (place : Address) : zero.get place = 0 := Vector.getElem_replicate place.isLt

theorem get_withFont (place : Address) :
    withFont.get place = Font.glyphs[place.toNat]?.getD 0 := by
  have bound := place.isLt
  have distance : offset Font.base place = place.toNat := by
    simp only [offset, Font.base]
    omega
  rw [withFont, get_writeBlock (by decide), distance, get_zero]

theorem get_image (short : program.length ≤ 3584) (place : Address) :
    (withFont.writeBlock programStart program).get place =
      if place.toNat < 0x200 then Font.glyphs[place.toNat]?.getD 0
      else program[place.toNat - 0x200]?.getD 0 := by
  have bound := place.isLt
  have length : Font.glyphs.length = 80 := Font.length_glyphs
  have start : (programStart : Int) = 0x200 := rfl
  rw [get_writeBlock (by omega), get_withFont]
  by_cases below : place.toNat < 0x200
  · -- The program would have to go all the way round to reach the cells below its start.
    have distance : offset programStart place = place.toNat + 3584 := by
      simp only [offset]
      omega
    rw [if_pos below, distance, List.getElem?_eq_none (by omega), Option.getD_none]
  · have distance : offset programStart place = place.toNat - 0x200 := by
      simp only [offset]
      omega
    rw [if_neg below, distance, List.getElem?_eq_none (l := Font.glyphs) (by omega),
      Option.getD_none]

/-- From its start on the memory holds the program, and zeros above it. -/
theorem read_image (short : program.length ≤ 3584) {place : Nat} (inside : place < 3584) :
    (withFont.writeBlock programStart program).read (0x200 + place) = program[place]?.getD 0 := by
  have named := Address.toInt_ofInt (0x200 + place)
  have number : (Address.ofInt (0x200 + place)).toNat = 0x200 + place := by omega
  rw [read, get_image short, number, if_neg (by omega), Nat.add_sub_cancel_left]

/-- What each cell of a memory holds that was made for a program. -/
structure IsImage (memory : Memory) (program : List Byte) : Prop where
  glyphs (place : Address) (low : place.toNat < 0x50) :
    Font.glyphs[place.toNat]? = some (memory.get place)
  gap (place : Address) (above : 0x50 ≤ place.toNat) (below : place.toNat < 0x200) :
    memory.get place = 0
  bytes (place : Address) (above : 0x200 ≤ place.toNat)
    (inside : place.toNat < 0x200 + program.length) :
    program[place.toNat - 0x200]? = some (memory.get place)
  rest (place : Address) (beyond : 0x200 + program.length ≤ place.toNat) : memory.get place = 0

theorem isImage_of_short (short : program.length ≤ 3584) :
    (withFont.writeBlock programStart program).IsImage program where
  glyphs place low := by
    have length : Font.glyphs.length = 80 := Font.length_glyphs
    rw [get_image short, if_pos (by omega), List.getElem?_eq_getElem (by omega), Option.getD_some]
  gap place above below := by
    have length : Font.glyphs.length = 80 := Font.length_glyphs
    rw [get_image short, if_pos below, List.getElem?_eq_none (by omega), Option.getD_none]
  bytes place above inside := by
    rw [get_image short, if_neg (by omega), List.getElem?_eq_getElem (by omega), Option.getD_some]
  rest place beyond := by
    rw [get_image short, if_neg (by omega), List.getElem?_eq_none (by omega), Option.getD_none]

end Chip8.Memory
