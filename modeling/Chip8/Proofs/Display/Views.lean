import Chip8.Proofs.Display.Packing

namespace Chip8

def glyphs : List Char := [' ', '▀', '▄', '█']

def upperLit (glyph : Char) : Bool := glyph = '▀' || glyph = '█'

def lowerLit (glyph : Char) : Bool := glyph = '▄' || glyph = '█'

def halfLit (y : Nat) (glyph : Char) : Bool :=
  if y % 2 = 0 then upperLit glyph else lowerLit glyph

/-- The rows of pixels that lines of characters show, two to a line. -/
def rowsOfText (lines : List (List Char)) : Pixels :=
  lines.flatMap fun line => [line.map upperLit, line.map lowerLit]

namespace Pixels

variable {pixels : Pixels} {width : Nat}

theorem halfBlock_mem (upper lower : Bool) : halfBlock upper lower ∈ glyphs := by
  cases upper <;> cases lower <;> decide

theorem upperLit_halfBlock (upper lower : Bool) : upperLit (halfBlock upper lower) = upper := by
  cases upper <;> cases lower <;> decide

theorem lowerLit_halfBlock (upper lower : Bool) : lowerLit (halfBlock upper lower) = lower := by
  cases upper <;> cases lower <;> decide

theorem map_upperLit {top bottom : List Bool} (same : top.length = bottom.length) :
    (List.zipWith halfBlock top bottom).map upperLit = top :=
  List.ext_getElem (by simp [same]) fun i _ _ => by simp [upperLit_halfBlock]

theorem map_lowerLit {top bottom : List Bool} (same : top.length = bottom.length) :
    (List.zipWith halfBlock top bottom).map lowerLit = bottom :=
  List.ext_getElem (by simp [same]) fun i _ _ => by simp [lowerLit_halfBlock]

theorem length_textLines (pixels : Pixels) : pixels.textLines.length = pixels.length / 2 := by
  fun_induction textLines pixels with
  | case1 => rfl
  | case2 => simp
  | case3 top bottom rest ih =>
      simp only [List.length_cons, ih]
      omega

theorem length_of_mem_textLines (wide : ∀ row ∈ pixels, row.length = width) {line : List Char}
    (member : line ∈ pixels.textLines) : line.length = width := by
  fun_induction textLines pixels with
  | case1 => cases member
  | case2 => cases member
  | case3 top bottom rest ih =>
      obtain ⟨topWide, bottomWide, wide⟩ := by simpa using wide
      obtain rfl | later := List.mem_cons.mp member
      · rw [List.length_zipWith, topWide, bottomWide, Nat.min_self]
      · exact ih wide later

/-- The text of an even number of rows of one length tells every pixel of them. -/
theorem rowsOfText_textLines (even : pixels.length % 2 = 0)
    (wide : ∀ row ∈ pixels, row.length = width) : rowsOfText pixels.textLines = pixels := by
  fun_induction textLines pixels with
  | case1 => rfl
  | case2 => cases even
  | case3 top bottom rest ih =>
      obtain ⟨topWide, bottomWide, wide⟩ := by simpa using wide
      have same : top.length = bottom.length := topWide.trans bottomWide.symm
      have evenRest : rest.length % 2 = 0 := by
        simp only [List.length_cons] at even
        omega
      rw [rowsOfText, List.flatMap_cons, map_upperLit same, map_lowerLit same, ← rowsOfText,
        ih evenRest wide]
      rfl

theorem mem_glyphs {line : List Char} (shown : line ∈ pixels.textLines) {glyph : Char}
    (member : glyph ∈ line) : glyph ∈ glyphs := by
  fun_induction textLines pixels with
  | case1 => cases shown
  | case2 => cases shown
  | case3 top bottom rest ih =>
      obtain rfl | later := List.mem_cons.mp shown
      · obtain ⟨place, found⟩ := List.mem_iff_getElem?.mp member
        obtain ⟨upper, lower, _, _, rfl⟩ := List.getElem?_zipWith_eq_some.mp found
        exact halfBlock_mem upper lower
      · exact ih later

theorem exists_glyph (even : pixels.length % 2 = 0) (wide : ∀ row ∈ pixels, row.length = width)
    {x y : Nat} {lit : Bool} (pixel : (pixels[y]?.bind fun row => row[x]?) = some lit) :
    ∃ glyph ∈ glyphs, (pixels.textLines[y / 2]?.bind fun cells => cells[x]?) = some glyph ∧
      halfLit y glyph = lit := by
  have two (line : List Char) : [line.map upperLit, line.map lowerLit].length = 2 := rfl
  rw [← rowsOfText_textLines even wide, rowsOfText,
    getElem?_flatMap_of_blocks (by decide) two] at pixel
  obtain ⟨row, found, lit⟩ := Option.bind_eq_some_iff.mp pixel
  obtain ⟨line, there, half⟩ := Option.bind_eq_some_iff.mp found
  have row_eq : row = line.map (halfLit y) := by
    by_cases upper : y % 2 = 0
    · have shows : halfLit y = upperLit := funext fun glyph => if_pos upper
      rw [upper] at half
      exact shows ▸ (Option.some.inj half).symm
    · have shows : halfLit y = lowerLit := funext fun glyph => if_neg upper
      have lower : y % 2 = 1 := by omega
      rw [lower] at half
      exact shows ▸ (Option.some.inj half).symm
  rw [row_eq, List.getElem?_map] at lit
  obtain ⟨glyph, shown, lit⟩ := Option.map_eq_some_iff.mp lit
  refine ⟨glyph, mem_glyphs (List.mem_of_getElem? there) (List.mem_of_getElem? shown), ?_, lit⟩
  rw [there]
  exact shown

end Pixels

namespace Palette

variable (palette : Palette) {pixels : Pixels}

theorem getElem?_byRows (x y : Nat) :
    ((palette.byRows pixels)[y]?.bind fun row => row[x]?) =
      (pixels[y]?.bind fun row => row[x]?).map palette.colour := by
  rw [byRows, List.getElem?_map, Option.bind_map, Option.map_bind]
  simp only [Function.comp_def, List.getElem?_map]

theorem isSome_of_mem_byRows (wide : ∀ row ∈ pixels, row.length = 64) {x : Nat} (inside : x < 64) :
    ∀ row ∈ palette.byRows pixels, row[x]?.isSome := by
  intro row member
  obtain ⟨pixelRow, there, rfl⟩ := List.mem_map.mp member
  simp [wide pixelRow there, inside]

/-- Swapping columns and rows leaves each colour in its place. -/
theorem getElem?_byColumns (wide : ∀ row ∈ pixels, row.length = 64) (x : Fin 64) (y : Nat) :
    ((palette.byColumns pixels)[x.val]?.bind fun column => column[y]?) =
      (palette.byRows pixels)[y]?.bind fun row => row[x.val]? := by
  have inside : x.val < Display.width := x.isLt
  rw [byColumns, List.getElem?_map, List.getElem?_range inside, Option.map_some, Option.bind_some,
    getElem?_filterMap_of_isSome (palette.isSome_of_mem_byRows wide x.isLt)]

theorem length_byColumns : (palette.byColumns pixels).length = 64 := by
  simp [byColumns, Display.width]

theorem length_of_mem_byColumns (wide : ∀ row ∈ pixels, row.length = 64) {column : List Colour}
    (member : column ∈ palette.byColumns pixels) : column.length = pixels.length := by
  obtain ⟨x, inside, rfl⟩ := List.mem_map.mp member
  have found := palette.isSome_of_mem_byRows wide (List.mem_range.mp inside)
  rw [List.length_filterMap_eq_countP, List.countP_eq_length.mpr found, byRows, List.length_map]

end Palette

structure Colour.Shows (colour : Colour) (value : Int) : Prop where
  red : (colour.red.toNat : Int) = value / 65536 % 256
  green : (colour.green.toNat : Int) = value / 256 % 256
  blue : (colour.blue.toNat : Int) = value % 256

theorem Colour.shows_ofInt (value : Int) : (ofInt value).Shows value := by
  refine ⟨?_, ?_, ?_⟩ <;>
    simp only [ofInt, BitVec.extractLsb'_toNat, BitVec.toNat_ofInt, Nat.shiftRight_eq_div_pow] <;>
    omega

namespace Display

variable (display : Display) (x : Fin 64) (y : Fin 32)

theorem pixelAt_eq : display.pixelAt x y = .ok (display.pixel x y) := by
  have row : slot height y .displayRow = .ok y := slot_of_few (by decide) y.isLt
  have inside : x.val / 8 < rowBytes := by
    simp only [rowBytes]
    omega
  have column : slot rowBytes (Int.fdiv x 8) .displayColumn = .ok ⟨x.val / 8, inside⟩ := by
    rw [Int.fdiv_eq_ediv_of_nonneg _ (by decide)]
    exact slot_of_few (by decide) inside
  have bit : (8 * (x.val / 8) + ((x.val : Int) % 8).toNat) = x.val := by omega
  rw [pixelAt, row, column]
  simp only [bit]
  rfl

theorem exists_glyph : ∃ glyph ∈ glyphs,
    (display.pixelRows.textLines[y.val / 2]?.bind fun cells => cells[x.val]?) = some glyph ∧
      halfLit y glyph = display.pixel x y :=
  Pixels.exists_glyph (by simp [pixelRows]) (fun _ => length_of_mem_pixelRows)
    (display.getElem?_pixelRows x y)

/-- What the views of a display tell about one of its pixels, if it was handed on as `pixels`. -/
structure Agrees (display : Display) (pixels : Pixels) (x : Fin 64) (y : Fin 32) : Prop where
  read : display.pixelAt x y = .ok (display.pixel x y)
  unpacked : (pixels[y.val]?.bind fun row => row[x.val]?) = some (display.pixel x y)
  text : ∃ glyph ∈ glyphs,
    (pixels.textLines[y.val / 2]?.bind fun cells => cells[x.val]?) = some glyph ∧
      halfLit y glyph = display.pixel x y
  colour (foreground background : Int) :
    let palette := Palette.ofInts foreground background
    ∃ colour,
      ((palette.byColumns pixels)[x.val]?.bind fun column => column[y.val]?) = some colour ∧
      ((palette.byRows pixels)[y.val]?.bind fun row => row[x.val]?) = some colour ∧
      colour.Shows (if display.pixel x y then foreground else background)

theorem getElem?_byRows (palette : Palette) :
    ((palette.byRows display.pixelRows)[y.val]?.bind fun row => row[x.val]?) =
      some (palette.colour (display.pixel x y)) := by
  rw [Palette.getElem?_byRows, getElem?_pixelRows, Option.map_some]

theorem getElem?_byColumns (palette : Palette) :
    ((palette.byColumns display.pixelRows)[x.val]?.bind fun column => column[y.val]?) =
      some (palette.colour (display.pixel x y)) := by
  rw [palette.getElem?_byColumns fun _ => length_of_mem_pixelRows, getElem?_byRows]

theorem agrees : display.Agrees display.pixelRows x y where
  read := display.pixelAt_eq x y
  unpacked := display.getElem?_pixelRows x y
  text := display.exists_glyph x y
  colour := by
    intro foreground background palette
    refine ⟨palette.colour (display.pixel x y), display.getElem?_byColumns x y palette,
      display.getElem?_byRows x y palette, ?_⟩
    cases display.pixel x y with
    | true => exact Colour.shows_ofInt foreground
    | false => exact Colour.shows_ofInt background

end Display

end Chip8
