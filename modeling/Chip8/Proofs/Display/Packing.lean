import Chip8.Display.Picture

namespace Chip8

/-- In blocks of one size, a place is found by its block and its place in there. -/
theorem getElem?_flatMap_of_blocks {α β : Type} {block : α → List β} {size : Nat} (some : 0 < size)
    (blocks : ∀ a, (block a).length = size) (list : List α) (place : Nat) :
    (list.flatMap block)[place]? =
      list[place / size]?.bind fun a => (block a)[place % size]? := by
  induction list generalizing place with
  | nil => rfl
  | cons first rest ih =>
      rw [List.flatMap_cons, List.getElem?_append, blocks first]
      by_cases here : place < size
      · rw [if_pos here, Nat.div_eq_of_lt here, Nat.mod_eq_of_lt here]
        rfl
      · obtain ⟨later, rfl⟩ : ∃ later, place = later + size := ⟨place - size, by omega⟩
        rw [if_neg here, ih, Nat.add_sub_cancel, Nat.add_div_right later some, Nat.add_mod_right,
          List.getElem?_cons_succ]

theorem getElem?_map_finRange {α : Type} {n : Nat} (entry : Fin n → α) (i : Fin n) :
    ((List.finRange n).map entry)[i.val]? = some (entry i) := by
  simp

theorem eq_map_finRange {α : Type} {n : Nat} {list : List α} {entry : Fin n → α}
    (length : list.length = n) (entries : ∀ i : Fin n, list[i.val]? = some (entry i)) :
    list = (List.finRange n).map entry := by
  refine List.ext_getElem (by simp [length]) fun i inside _ => ?_
  have found := entries ⟨i, length ▸ inside⟩
  rw [List.getElem?_eq_getElem inside] at found
  rw [Option.some.inj found]
  simp

theorem getElem?_filterMap_of_isSome {α β : Type} {look : α → Option β} {list : List α}
    (found : ∀ a ∈ list, (look a).isSome) (place : Nat) :
    (list.filterMap look)[place]? = list[place]?.bind look := by
  induction list generalizing place with
  | nil => rfl
  | cons first rest ih =>
      obtain ⟨value, looked⟩ := Option.isSome_iff_exists.mp (found first List.mem_cons_self)
      rw [List.filterMap_cons_some looked]
      cases place with
      | zero => exact looked.symm
      | succ place => exact ih (fun a member => found a (List.mem_cons_of_mem first member)) place

namespace Pixels

theorem length_unpackBits (bytes : List Byte) : (unpackBits bytes).length = 8 * bytes.length := by
  simp [unpackBits, List.length_flatMap, List.map_const', Nat.mul_comm]

theorem getElem?_unpackBits (bytes : List Byte) (place : Nat) :
    (unpackBits bytes)[place]? = bytes[place / 8]?.map fun byte => byte.getMsbD (place % 8) := by
  have inside : place % 8 < 8 := by omega
  have blocks (byte : Byte) : ((List.range 8).map fun place => byte.getMsbD place).length = 8 := by
    simp
  rw [unpackBits, getElem?_flatMap_of_blocks (by decide) blocks]
  cases bytes[place / 8]? <;> simp [inside]

def packByte (bits : List Bool) : Byte := (BitVec.ofBoolListBE bits).setWidth 8

/-- Eight bits to a byte. -/
def packBits (bits : List Bool) : List Byte :=
  (List.range (bits.length / 8)).map fun group => packByte ((bits.drop (8 * group)).take 8)

theorem getMsbD_packByte {bits : List Bool} {place : Nat} (whole : bits.length = 8) :
    (packByte bits).getMsbD place = bits.getD place false := by
  have same : place + bits.length - 8 = place := by omega
  rw [packByte, BitVec.getMsbD_setWidth, same, BitVec.getMsbD_ofBoolListBE]
  simp [whole]

end Pixels

namespace Display

def pixelRows (display : Display) : Pixels :=
  (List.finRange 32).map fun y => (List.finRange 64).map fun x => display.pixel x y

theorem getElem?_pixelRows (display : Display) (x : Fin 64) (y : Fin 32) :
    (display.pixelRows[y.val]?.bind fun row => row[x.val]?) = some (display.pixel x y) := by
  rw [pixelRows, getElem?_map_finRange]
  exact getElem?_map_finRange _ x

theorem length_of_mem_pixelRows {display : Display} {row : List Bool}
    (member : row ∈ display.pixelRows) : row.length = 64 := by
  obtain ⟨y, _, rfl⟩ := List.mem_map.mp member
  simp

/-- The row that eight bytes make up; missing ones are dark. -/
def rowOfBytes (bytes : List Byte) : BitVec 64 :=
  (List.range rowBytes).foldl
    (fun row group => (row <<< 8) ||| (bytes.getD group 0).setWidth 64) 0

/-- The display that a picture shows; any other number of bytes than 256 is no picture. -/
def ofBytes? (bytes : List Byte) : Option Display :=
  if bytes.length = height * rowBytes then
    some ⟨Vector.ofFn fun y => rowOfBytes (bytes.drop (rowBytes * y.val))⟩
  else
    none

theorem length_bytesOfRow (row : BitVec 64) : (bytesOfRow row).length = 8 := by
  simp [bytesOfRow, rowBytes]

theorem getMsbD_group (row : BitVec 64) {group place : Nat} (group_lt : group < 8)
    (place_lt : place < 8) :
    ((row >>> (56 - 8 * group)).setWidth 8).getMsbD place = row.getMsbD (8 * group + place) := by
  have inside : place + 56 < 64 := by omega
  have late : ¬ place + 56 < 56 - 8 * group := by omega
  have same : place + 56 - (56 - 8 * group) = 8 * group + place := by omega
  simp [BitVec.getMsbD_setWidth, BitVec.getMsbD_ushiftRight, inside, late, same]

theorem getMsbD_foldl_bytes (bytes : List Byte) {count place : Nat} (enough : count ≤ 8)
    (read : 64 - 8 * count ≤ place) (place_lt : place < 64) :
    ((List.range count).foldl (fun (row : BitVec 64) group =>
        (row <<< 8) ||| (bytes.getD group 0).setWidth 64) 0).getMsbD place =
      (bytes.getD ((place - (64 - 8 * count)) / 8) 0).getMsbD (place % 8) := by
  induction count generalizing place with
  | zero => omega
  | succ count ih =>
      rw [List.range_succ, List.foldl_append]
      simp only [List.foldl_cons, List.foldl_nil, BitVec.getMsbD_or, BitVec.getMsbD_shiftLeft,
        BitVec.getMsbD_setWidth]
      by_cases last : 56 ≤ place
      · have group : (place - (64 - 8 * (count + 1))) / 8 = count := by omega
        have bit : place + 8 - 64 = place % 8 := by omega
        simp [last, group, bit]
      · have group : (place + 8 - (64 - 8 * count)) / 8 =
            (place - (64 - 8 * (count + 1))) / 8 := by omega
        have bit : (place + 8) % 8 = place % 8 := by omega
        rw [ih (by omega) (by omega) (by omega), group, bit]
        simp [last]

theorem getMsbD_rowOfBytes (bytes : List Byte) {place : Nat} (place_lt : place < 64) :
    (rowOfBytes bytes).getMsbD place = (bytes.getD (place / 8) 0).getMsbD (place % 8) := by
  rw [rowOfBytes, rowBytes, getMsbD_foldl_bytes bytes (Nat.le_refl 8) (by omega) place_lt]
  rfl

theorem toBytes_eq_flatMap (display : Display) :
    display.toBytes = display.rows.toList.flatMap bytesOfRow := by
  rw [toBytes, snapshot, List.flatMap_def]

theorem length_toBytes (display : Display) : display.toBytes.length = 256 := by
  simp [toBytes_eq_flatMap, List.length_flatMap, length_bytesOfRow, List.map_const']

/-- The byte of a pixel, and its bit in there. -/
theorem exists_byte (display : Display) (x : Fin 64) (y : Fin 32) :
    ∃ byte, display.toBytes[8 * y.val + x.val / 8]? = some byte ∧
      byte.getMsbD (x % 8) = display.pixel x y := by
  have group_lt : x.val / 8 < 8 := by omega
  have row : (8 * y.val + x.val / 8) / 8 = y.val := by omega
  have group : (8 * y.val + x.val / 8) % 8 = x.val / 8 := by omega
  refine ⟨(display.rows.get y >>> (56 - 8 * (x.val / 8))).setWidth 8, ?_, ?_⟩
  · rw [toBytes_eq_flatMap, getElem?_flatMap_of_blocks (by decide) length_bytesOfRow, row, group]
    simp [bytesOfRow, rowBytes, group_lt, Vector.get]
  · rw [getMsbD_group _ group_lt (by omega), Nat.div_add_mod]
    rfl

theorem ofBytes?_toBytes (display : Display) : ofBytes? display.toBytes = some display := by
  have rows : (Vector.ofFn fun y : Fin 32 => rowOfBytes (display.toBytes.drop (rowBytes * y.val))) =
      display.rows := by
    refine Vector.ext fun y inside => BitVec.eq_of_getMsbD_eq fun x within => ?_
    obtain ⟨byte, found, bit⟩ := display.exists_byte ⟨x, within⟩ ⟨y, inside⟩
    rw [Vector.getElem_ofFn, getMsbD_rowOfBytes _ within, List.getD_eq_getElem?_getD,
      List.getElem?_drop, rowBytes, found]
    exact bit
  rw [ofBytes?, if_pos (by rw [length_toBytes]; rfl), rows]

theorem unpackBits_row (display : Display) (y : Fin 32) :
    Pixels.unpackBits ((display.toBytes.drop (8 * y.val)).take 8) =
      (List.finRange 64).map fun x => display.pixel x y := by
  have length : (Pixels.unpackBits ((display.toBytes.drop (8 * y.val)).take 8)).length = 64 := by
    rw [Pixels.length_unpackBits, List.length_take, List.length_drop, length_toBytes]
    omega
  refine eq_map_finRange length fun x => ?_
  obtain ⟨byte, found, bit⟩ := display.exists_byte x y
  rw [Pixels.getElem?_unpackBits, List.getElem?_take_of_lt (by omega), List.getElem?_drop, found,
    Option.map_some, bit]

theorem unpack_toBytes (display : Display) :
    Pixels.unpack display.toBytes = .ok display.pixelRows := by
  rw [Pixels.unpack, if_pos (by rw [length_toBytes]; rfl)]
  refine congrArg Except.ok (eq_map_finRange (by simp [height]) fun y => ?_)
  have inside : y.val < height := y.isLt
  rw [List.getElem?_map, List.getElem?_range inside, Option.map_some]
  exact congrArg some (display.unpackBits_row y)

theorem packBits_row (display : Display) (y : Fin 32) :
    Pixels.packBits ((List.finRange 64).map fun x => display.pixel x y) =
      bytesOfRow (display.rows.get y) := by
  have length : ((List.finRange 64).map fun x => display.pixel x y).length = 64 := by simp
  rw [Pixels.packBits, length]
  refine List.map_congr_left fun group inside => BitVec.eq_of_getMsbD_eq fun place within => ?_
  have group_lt : group < 8 := List.mem_range.mp inside
  have pixel := getElem?_map_finRange (fun x => display.pixel x y) ⟨8 * group + place, by omega⟩
  rw [Pixels.getMsbD_packByte (by simp; omega), getMsbD_group _ group_lt within,
    List.getD_eq_getElem?_getD, List.getElem?_take_of_lt within, List.getElem?_drop, pixel]
  rfl

theorem map_packBits_pixelRows (display : Display) :
    display.pixelRows.map Pixels.packBits = display.snapshot := by
  have rows : display.snapshot =
      (List.finRange 32).map fun y => bytesOfRow (display.rows.get y) :=
    eq_map_finRange (by simp [snapshot]) fun y => by simp [snapshot, Vector.get]
  rw [rows, pixelRows, List.map_map]
  exact List.map_congr_left fun y _ => display.packBits_row y

end Display

end Chip8
