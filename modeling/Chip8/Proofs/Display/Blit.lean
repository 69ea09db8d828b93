import Chip8.Proofs.Display.Packing
import Chip8.Proofs.Display.Sprite

/-!
# Sprites on bytes

A row of the display is handed on as eight bytes.  A sprite row that starts part-way into one of
them is split over that byte and the next one, the first byte being next to the last.  Flipping the
bytes by these parts is drawing.
-/

namespace Chip8.Display

variable {display : Display} {x y entry : Int} {sprite : List Int} {row pattern : BitVec 64}

def lowBytes (sprite : List Int) : List Byte := sprite.map (BitVec.ofInt 8)

/-- The part of a sprite row in column `x` that falls into the byte where it starts. -/
def leftPart (x entry : Int) : Byte := BitVec.ofInt 8 ((entry % 256) >>> (x % 8).toNat)

def rightPart (x entry : Int) : Byte := BitVec.ofInt 8 (entry <<< (8 - (x % 8).toNat) % 256)

/-- Flips bits of one byte in a row; `true` if one of them was set. -/
def flipByte (bytes : List Byte) (group : Nat) (bits : Byte) : List Byte × Bool :=
  (bytes.set group (bytes.getD group 0 ^^^ bits), decide (bytes.getD group 0 &&& bits ≠ 0))

def blitRow (bytes : List Byte) (x entry : Int) : List Byte × Bool :=
  let first := (x / 8 % 8).toNat
  let (begun, hit) := flipByte bytes first (leftPart x entry)
  if x % 8 = 0 then
    (begun, hit)
  else
    let (done, hitNext) := flipByte begun ((first + 1) % 8) (rightPart x entry)
    (done, hit || hitNext)

/-- Flips the rows of a sprite in rows of bytes; `true` if one of them meets a set bit. -/
def blit (rows : List (List Byte)) (x y : Int) : List Int → List (List Byte) × Bool
  | [] => (rows, false)
  | entry :: rest =>
    let (flipped, hit) := blitRow (rows.getD (rowAt y) []) x entry
    let (drawn, hits) := blit (rows.set (rowAt y) flipped) x (y + 1) rest
    (drawn, hit || hits)

def part (x entry : Int) (group : Nat) : Byte :=
  if group = (x / 8 % 8).toNat then leftPart x entry
  else if group = ((x / 8 % 8).toNat + 1) % 8 then rightPart x entry
  else 0

theorem exists_lowByte (entry : Int) :
    ∃ low : Nat, entry % 256 = low ∧ BitVec.ofInt 8 entry = BitVec.ofNat 8 low := by
  obtain ⟨low, same⟩ := Int.eq_ofNat_of_zero_le (Int.emod_nonneg entry (by decide : (256 : Int) ≠ 0))
  refine ⟨low, same, BitVec.eq_of_toNat_eq ?_⟩
  rw [BitVec.toNat_ofInt, BitVec.toNat_ofNat]
  omega

theorem leftPart_eq : leftPart x entry = BitVec.ofInt 8 entry >>> (x % 8).toNat := by
  obtain ⟨low, same, byte⟩ := exists_lowByte entry
  have small : low < 256 := by omega
  have fits : low / 2 ^ (x % 8).toNat < 256 := Nat.lt_of_le_of_lt (Nat.div_le_self _ _) small
  apply BitVec.eq_of_toNat_eq
  rw [leftPart, same, byte, Int.shiftRight_eq_div_pow, ← Int.natCast_ediv, BitVec.ofInt_natCast,
    BitVec.toNat_ofNat, BitVec.toNat_ushiftRight, BitVec.toNat_ofNat, Nat.shiftRight_eq_div_pow,
    Nat.mod_eq_of_lt small, Nat.mod_eq_of_lt fits]

theorem rightPart_eq : rightPart x entry = BitVec.ofInt 8 entry <<< (8 - (x % 8).toNat) := by
  obtain ⟨low, same, byte⟩ := exists_lowByte entry
  have cut : entry <<< (8 - (x % 8).toNat) % 256 =
      ((low * 2 ^ (8 - (x % 8).toNat) : Nat) : Int) % 256 := by
    rw [Int.shiftLeft_eq', Int.natCast_mul, ← same, Int.mul_emod (entry % 256), Int.emod_emod,
      ← Int.mul_emod]
  apply BitVec.eq_of_toNat_eq
  rw [rightPart, cut, byte, BitVec.toNat_shiftLeft, BitVec.toNat_ofNat, Nat.shiftLeft_eq,
    Nat.mod_mul_mod, BitVec.toNat_ofInt]
  omega

theorem rightPart_of_aligned (aligned : x % 8 = 0) : rightPart x entry = 0 := by
  simp [rightPart_eq, aligned]

theorem getMsbD_part {group place : Nat} (group_lt : group < 8) (place_lt : place < 8) :
    (part x entry group).getMsbD place =
      (BitVec.ofInt 8 entry).getMsbD (((8 * group + place : Nat) - x : Int) % 64).toNat := by
  simp only [part]
  split
  · rw [leftPart_eq, BitVec.getMsbD_ushiftRight]
    by_cases before : place < (x % 8).toNat
    · rw [BitVec.getMsbD_of_ge _ (((8 * group + place : Nat) - x : Int) % 64).toNat (by omega)]
      simp [before]
    · have same : (((8 * group + place : Nat) - x : Int) % 64).toNat = place - (x % 8).toNat := by
        omega
      rw [same]
      simp [before, place_lt]
  split
  · have same : (((8 * group + place : Nat) - x : Int) % 64).toNat =
        place + (8 - (x % 8).toNat) := by
      omega
    rw [rightPart_eq, BitVec.getMsbD_shiftLeft, same]
  · rw [BitVec.getMsbD_of_ge _ (((8 * group + place : Nat) - x : Int) % 64).toNat (by omega)]
    exact BitVec.getMsbD_zero

theorem bytesOfRow_spriteRow :
    bytesOfRow (spriteRow x (BitVec.ofInt 8 entry)) = (List.range rowBytes).map (part x entry) := by
  refine List.map_congr_left fun group inside => BitVec.eq_of_getMsbD_eq fun place within => ?_
  have group_lt : group < 8 := List.mem_range.mp inside
  rw [getMsbD_group _ group_lt within, getMsbD_part group_lt within]
  exact @getMsbD_spriteRow x ⟨8 * group + place, by omega⟩ (BitVec.ofInt 8 entry)

theorem bytesOfRow_xor :
    bytesOfRow (row ^^^ pattern) = List.zipWith (· ^^^ ·) (bytesOfRow row) (bytesOfRow pattern) := by
  simp [bytesOfRow, List.zipWith_map, BitVec.ushiftRight_xor_distrib]

theorem bytesOfRow_and :
    bytesOfRow (row &&& pattern) = List.zipWith (· &&& ·) (bytesOfRow row) (bytesOfRow pattern) := by
  simp [bytesOfRow, List.zipWith_map, BitVec.ushiftRight_and_distrib]

theorem bytesOfRow_zero_iff : (∀ byte ∈ bytesOfRow row, byte = 0) ↔ row = 0 := by
  constructor
  · intro zeros
    refine BitVec.eq_of_getMsbD_eq fun place inside => ?_
    have group_lt : place / 8 < 8 := by omega
    have bit := getMsbD_group row group_lt (Nat.mod_lt place (by decide))
    rw [Nat.div_add_mod, zeros _ (List.mem_map_of_mem (List.mem_range.mpr group_lt))] at bit
    simpa using bit.symm
  · rintro rfl byte member
    have dark : bytesOfRow 0 = List.replicate 8 0 := by decide
    exact List.eq_of_mem_replicate (dark ▸ member)

theorem any_bytesOfRow : (bytesOfRow row).any (· ≠ 0) = decide (row ≠ 0) := by
  rw [Bool.eq_iff_iff, List.any_eq_true, decide_eq_true_iff, ne_eq, ← bytesOfRow_zero_iff]
  simp

theorem flipByte_eq {bytes : List Byte} {group : Nat} {bits : Byte} (inside : group < bytes.length) :
    flipByte bytes group bits =
      (bytes.set group (bytes[group] ^^^ bits), decide (bytes[group] &&& bits ≠ 0)) := by
  rw [flipByte, List.getD_eq_getElem?_getD, List.getElem?_eq_getElem inside, Option.getD_some]

/-- The byte where a sprite row starts and the next one are two, so each is flipped by its part. -/
theorem blitRow_eq_flips {bytes : List Byte} {first next : Nat} (isFirst : first = (x / 8 % 8).toNat)
    (isNext : next = (first + 1) % 8) (first_lt : first < bytes.length)
    (next_lt : next < bytes.length) :
    blitRow bytes x entry =
      ((bytes.set first (bytes[first] ^^^ leftPart x entry)).set next
          (bytes[next] ^^^ rightPart x entry),
        decide (bytes[first] &&& leftPart x entry ≠ 0 ∨
          bytes[next] &&& rightPart x entry ≠ 0)) := by
  have apart : first ≠ next := by omega
  have second : flipByte (bytes.set first (bytes[first] ^^^ leftPart x entry)) next
      (rightPart x entry) = _ := flipByte_eq (by rwa [List.length_set])
  rw [List.getElem_set_ne apart] at second
  rw [blitRow, ← isFirst, ← isNext, flipByte_eq first_lt]
  by_cases aligned : x % 8 = 0
  · have inside : next < (bytes.set first (bytes[first] ^^^ leftPart x entry)).length := by
      rwa [List.length_set]
    have kept : bytes[next] = (bytes.set first (bytes[first] ^^^ leftPart x entry))[next] :=
      (List.getElem_set_ne apart _).symm
    simp only [if_pos aligned, rightPart_of_aligned aligned, BitVec.ofNat_eq_ofNat,
      BitVec.xor_zero, BitVec.and_zero]
    rw [kept, List.set_getElem_self]
    simp
  · simp only [if_neg aligned, second]
    simp

theorem blitRow_eq {bytes : List Byte} (whole : bytes.length = 8) :
    blitRow bytes x entry =
      (List.zipWith (· ^^^ ·) bytes ((List.range rowBytes).map (part x entry)),
        (List.zipWith (· &&& ·) bytes ((List.range rowBytes).map (part x entry))).any (· ≠ 0)) := by
  obtain ⟨first, isFirst⟩ : ∃ first, first = (x / 8 % 8).toNat := ⟨_, rfl⟩
  obtain ⟨next, isNext⟩ : ∃ next, next = (first + 1) % 8 := ⟨_, rfl⟩
  have apart : first ≠ next := by omega
  have partAt (group : Nat) : part x entry group =
      if group = first then leftPart x entry else if group = next then rightPart x entry else 0 := by
    rw [part, ← isFirst, ← isNext]
  rw [blitRow_eq_flips isFirst isNext (by omega) (by omega)]
  refine Prod.ext (List.ext_getElem (by simp [whole, rowBytes]) fun group inside _ => ?_) ?_
  · simp only [List.getElem_zipWith, List.getElem_map, List.getElem_range, List.getElem_set, partAt,
      eq_comm (b := group)]
    by_cases atFirst : group = first
    · subst atFirst
      simp [apart]
    by_cases atNext : group = next
    · subst atNext
      simp [atFirst]
    simp [atFirst, atNext]
  · have hits (group : Nat) (inside : group < 8) : bytes[group] &&& part x entry group ∈
        List.zipWith (· &&& ·) bytes ((List.range rowBytes).map (part x entry)) :=
      List.mem_iff_getElem.mpr ⟨group, by simp [whole, rowBytes, inside], by simp⟩
    rw [Bool.eq_iff_iff, List.any_eq_true, decide_eq_true_iff]
    constructor
    · rintro (hit | hit)
      · exact ⟨_, hits first (by omega), by simpa [partAt] using hit⟩
      · exact ⟨_, hits next (by omega), by simpa [partAt, apart.symm] using hit⟩
    · rintro ⟨byte, member, hit⟩
      obtain ⟨group, inside, rfl⟩ := List.mem_iff_getElem.mp member
      rw [List.getElem_zipWith, List.getElem_map, List.getElem_range, partAt] at hit
      split at hit
      · subst_vars
        exact Or.inl (by simpa using hit)
      split at hit
      · subst_vars
        exact Or.inr (by simpa using hit)
      · simp at hit

theorem blitRow_bytesOfRow : blitRow (bytesOfRow row) x entry =
    (bytesOfRow (row ^^^ spriteRow x (BitVec.ofInt 8 entry)),
      decide (row &&& spriteRow x (BitVec.ofInt 8 entry) ≠ 0)) := by
  rw [blitRow_eq (length_bytesOfRow row), ← bytesOfRow_spriteRow, ← bytesOfRow_xor,
    ← bytesOfRow_and, any_bytesOfRow]

theorem getD_snapshot (line : Fin 32) :
    display.snapshot.getD line [] = bytesOfRow (display.rows.get line) := by
  simp [snapshot, Vector.get]

theorem snapshot_flipRow (line : Fin 32) : (display.flipRow line pattern).1.snapshot =
    display.snapshot.set line (bytesOfRow (display.rows.get line ^^^ pattern)) := by
  simp [snapshot, flipRow, Vector.toList_set, List.map_set]

theorem blit_snapshot : blit display.snapshot x y sprite =
    ((display.drawSprite x y (lowBytes sprite)).1.snapshot,
      (display.drawSprite x y (lowBytes sprite)).2) := by
  induction sprite generalizing display y with
  | nil => rfl
  | cons entry rest ih =>
      simp only [blit, getD_snapshot, blitRow_bytesOfRow, ← snapshot_flipRow, ih]
      rfl

end Chip8.Display
