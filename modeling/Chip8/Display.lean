import Chip8.Bounds
import Chip8.Word

/-!
# The display

64 by 32 pixels, each on or off.  A row is a 64-bit pattern whose most significant bit is the
leftmost pixel.  Sprites are combined by exclusive or and wrap around both edges.
-/

namespace Chip8

structure Display where
  rows : Vector (BitVec 64) 32
  deriving DecidableEq

namespace Display

def width : Nat := 64

def height : Nat := 32

def rowBytes : Nat := 8

def blank : Display := ⟨Vector.replicate 32 0⟩

def pixel (display : Display) (x : Fin 64) (y : Fin 32) : Bool :=
  (display.rows.get y).getMsbD x

/-- A sprite row as a pattern whose leftmost pixel stands in column `x`, wrapped around. -/
def spriteRow (x : Int) (bits : Byte) : BitVec 64 :=
  (bits.setWidth 64 <<< 56).rotateRight (x % 64).toNat

def rowAt (y : Int) : Fin 32 := ⟨(y % 32).toNat, by omega⟩

def flipRow (display : Display) (y : Fin 32) (pattern : BitVec 64) : Display × Bool :=
  let row := display.rows.get y
  (⟨display.rows.set y (row ^^^ pattern)⟩, decide (row &&& pattern ≠ 0))

/-- Flips the pixels of a sprite whose top left corner stands at (`x`, `y`), row by row from the
top; `true` if any of them was on when its row was drawn. -/
def drawSprite (display : Display) (x y : Int) : List Byte → Display × Bool
  | [] => (display, false)
  | bits :: rest =>
    let (flipped, hit) := display.flipRow (rowAt y) (spriteRow x bits)
    let (drawn, hits) := flipped.drawSprite x (y + 1) rest
    (drawn, hit || hits)

def bytesOfRow (row : BitVec 64) : List Byte :=
  (List.range rowBytes).map fun group => (row >>> (56 - 8 * group)).setWidth 8

def snapshot (display : Display) : List (List Byte) := display.rows.toList.map bytesOfRow

def toBytes (display : Display) : List Byte := display.snapshot.flatten

/-- Whether the pixel at slots (`x`, `y`) is on; the row is looked up before the column. -/
def pixelAt (display : Display) (x y : Int) : Except BoundsError Bool :=
  match slot height y .displayRow with
  | .error error => .error error
  | .ok row =>
    match slot rowBytes (Int.fdiv x 8) .displayColumn with
    | .error error => .error error
    | .ok column =>
      .ok ((display.rows.get row).getMsbD (8 * column.val + (x % 8).toNat))

def litInRow (row : BitVec 64) : Nat :=
  (List.range width).countP fun x => row.getMsbD x

def litPixels (display : Display) : Nat :=
  (display.rows.toList.map litInRow).foldr (· + ·) 0

def litRows (display : Display) : List (Nat × BitVec 64) :=
  (display.rows.toList.zipIdx.filter fun row => row.1 ≠ 0).map fun row => (row.2, row.1)

def description (display : Display) : String :=
  s!"DisplayBuffer({width}x{height}, lit={display.litPixels})"

theorem pixel_flipRow (display : Display) (y row : Fin 32) (pattern : BitVec 64) (x : Fin 64) :
    (display.flipRow y pattern).1.pixel x row =
      if y = row then display.pixel x row ^^ pattern.getMsbD x else display.pixel x row := by
  by_cases same : y = row
  · subst same
    have changed : (display.rows.set y (display.rows.get y ^^^ pattern)).get y =
        display.rows.get y ^^^ pattern := Vector.getElem_set_self y.isLt
    rw [if_pos rfl]
    simp only [flipRow, pixel, changed, BitVec.getMsbD_xor]
  · have apart : y.val ≠ row.val := fun equal => same (Fin.ext equal)
    rw [if_neg same]
    have kept : (display.rows.set y (display.rows.get y ^^^ pattern)).get row =
        display.rows.get row := Vector.getElem_set_ne y.isLt row.isLt apart
    simp only [flipRow, pixel, kept]

end Display

end Chip8
