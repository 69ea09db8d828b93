import Chip8.Display

/-!
# Pictures of the display

Three ways to show the bytes of a display: rows of pixels, lines of half-block characters that put
two pixel rows into one text line, and colours through a palette of two.
-/

namespace Chip8

structure WrongPictureSize where
  bytes : Nat
  deriving DecidableEq, Repr

def WrongPictureSize.message (wrong : WrongPictureSize) : String :=
  s!"cannot reshape array of size {wrong.bytes} into shape (32,8)"

abbrev Pixels := List (List Bool)

namespace Pixels

def unpackBits (bytes : List Byte) : List Bool :=
  bytes.flatMap fun byte => (List.range 8).map fun place => byte.getMsbD place

def unpack (bytes : List Byte) : Except WrongPictureSize Pixels :=
  if bytes.length = Display.height * Display.rowBytes then
    .ok ((List.range Display.height).map fun y =>
      unpackBits ((bytes.drop (Display.rowBytes * y)).take Display.rowBytes))
  else
    .error ⟨bytes.length⟩

/-- The character whose upper and lower halves show two pixels, one above the other. -/
def halfBlock : Bool → Bool → Char
  | false, false => ' '
  | true, false => '▀'
  | false, true => '▄'
  | true, true => '█'

def textLines : Pixels → List (List Char)
  | [] | [_] => []
  | top :: bottom :: rest => List.zipWith halfBlock top bottom :: textLines rest

end Pixels

structure Colour where
  red : Byte
  green : Byte
  blue : Byte
  deriving DecidableEq, Repr

def Colour.ofInt (value : Int) : Colour :=
  let bits := BitVec.ofInt 24 value
  { red := bits.extractLsb' 16 8, green := bits.extractLsb' 8 8, blue := bits.extractLsb' 0 8 }

def Colour.bytes (colour : Colour) : List Byte := [colour.red, colour.green, colour.blue]

structure Palette where
  foreground : Colour
  background : Colour
  deriving DecidableEq, Repr

namespace Palette

def defaultForeground : Int := 0xFFFFFF

def defaultBackground : Int := 0x000000

def ofInts (foreground background : Int) : Palette :=
  { foreground := Colour.ofInt foreground, background := Colour.ofInt background }

def standard : Palette := ofInts defaultForeground defaultBackground

def colour (palette : Palette) (lit : Bool) : Colour :=
  if lit then palette.foreground else palette.background

def byRows (palette : Palette) (pixels : Pixels) : List (List Colour) :=
  pixels.map fun row => row.map palette.colour

/-- The colours of some pixels, a list for each column of the display. -/
def byColumns (palette : Palette) (pixels : Pixels) : List (List Colour) :=
  (List.range Display.width).map fun x => (palette.byRows pixels).filterMap fun row => row[x]?

end Palette

end Chip8
