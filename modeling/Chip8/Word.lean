namespace Chip8

abbrev Byte := BitVec 8

abbrev Word := BitVec 16

abbrev Address := BitVec 12

abbrev Nibble := BitVec 4

/-- The word whose bytes are `high` and `low`, in that order in memory. -/
def Word.ofBytes (high low : Byte) : Word := high ++ low

/-- The cell that an integer addresses: only its low twelve bits matter. -/
def Address.ofInt (value : Int) : Address := BitVec.ofInt 12 value

def Address.next (counter : Int) : Address := Address.ofInt (counter + 2)

theorem Word.toNat_ofBytes (high low : Byte) :
    (Word.ofBytes high low).toNat = 256 * high.toNat + low.toNat := by
  have bound := low.isLt
  simp only [ofBytes, BitVec.toNat_append]
  rw [← Nat.shiftLeft_add_eq_or_of_lt bound, Nat.shiftLeft_eq]
  omega

theorem Byte.toInt_ofInt (value : Int) : ((BitVec.ofInt 8 value).toNat : Int) = value % 256 := by
  simp only [BitVec.toNat_ofInt]
  omega

theorem Byte.toNat_ofInt {value : Int} (byte : 0 ≤ value ∧ value < 256) :
    (BitVec.ofInt 8 value).toNat = value.toNat := by
  have low := Byte.toInt_ofInt value
  omega

theorem Address.toInt_ofInt (value : Int) :
    ((Address.ofInt value).toNat : Int) = value % 4096 := by
  simp only [Address.ofInt, BitVec.toNat_ofInt]
  omega

end Chip8
