import Chip8.Display.Picture

namespace Chip8

def Colour.black : Colour := ⟨0, 0, 0⟩

/-- Surfaces of coloured pixels; a size is a width and a height. -/
class Canvas (σ : Type) where
  create : Nat × Nat → σ
  size : σ → Nat × Nat
  colour? : σ → Nat → Nat → Option Colour
  fill : σ → Colour → σ
  /-- Takes over the colours of an array, which come column by column. -/
  takeOver : σ → List (List Colour) → σ
  /-- A surface of some size that shows the same picture. -/
  scale : σ → Nat × Nat → σ
  /-- Copies the second surface to the top left corner of the first one. -/
  paste : σ → σ → σ

structure Raster where
  size : Nat × Nat
  colour : Nat → Nat → Colour

def Raster.colour? (raster : Raster) (x y : Nat) : Option Colour :=
  if x < raster.size.1 ∧ y < raster.size.2 then some (raster.colour x y) else none

instance : Canvas Raster where
  create size := { size, colour := fun _ _ => .black }
  size := Raster.size
  colour? := Raster.colour?
  fill raster colour := { raster with colour := fun _ _ => colour }
  takeOver raster columns :=
    { raster with
      colour := fun x y => (columns[x]?.bind fun column => column[y]?).getD .black }
  scale raster size :=
    { size
      colour := fun x y =>
        raster.colour (x * raster.size.1 / size.1) (y * raster.size.2 / size.2) }
  paste target source :=
    let covered := decide (target.size.1 ≤ source.size.1 ∧ target.size.2 ≤ source.size.2)
    { target with
      colour :=
        if covered then source.colour
        else fun x y => (source.colour? x y).getD (target.colour x y) }

end Chip8
