import Chip8.Window.Canvas

/-!
# Laws of canvases

What can be relied on of the surfaces that a window is drawn on.  How a picture is stretched is left
open, but for this: each place of the stretched picture takes its colour from a place that it
overlaps.
-/

namespace Chip8

namespace Canvas

/-- If one line is cut into `parts` equal parts and also into `spots` equal spots, a part and a spot
overlap. -/
def Overlaps (part parts spot spots : Nat) : Prop :=
  spot * parts < (part + 1) * spots ∧ part * spots < (spot + 1) * parts

def Within (part parts spot spots : Nat) : Prop :=
  part * spots ≤ spot * parts ∧ (spot + 1) * parts ≤ (part + 1) * spots

variable {part other parts spot spots : Nat}

theorem Overlaps.lt (overlaps : Overlaps part parts spot spots) (inside : spot < spots) :
    part < parts := by
  have whole : (spot + 1) * parts ≤ parts * spots := by
    rw [Nat.mul_comm parts]
    exact Nat.mul_le_mul_right parts inside
  exact Nat.lt_of_mul_lt_mul_right (Nat.lt_of_lt_of_le overlaps.2 whole)

theorem Within.lt (within : Within part parts spot spots) (inside : part < parts) :
    spot < spots := by
  have whole : (part + 1) * spots ≤ spots * parts := by
    rw [Nat.mul_comm spots]
    exact Nat.mul_le_mul_right spots inside
  exact Nat.le_of_mul_le_mul_right (Nat.le_trans within.2 whole) (by omega)

/-- A spot in one part overlaps no other one. -/
theorem Within.eq_of_overlaps (within : Within part parts spot spots)
    (overlaps : Overlaps other parts spot spots) : other = part := by
  have first : part < other + 1 :=
    Nat.lt_of_mul_lt_mul_right (Nat.lt_of_le_of_lt within.1 overlaps.1)
  have last : other < part + 1 :=
    Nat.lt_of_mul_lt_mul_right (Nat.lt_of_lt_of_le overlaps.2 within.2)
  omega

theorem within_mul_add {scale offset : Nat} (inside : offset < scale) :
    Within part parts (part * scale + offset) (parts * scale) := by
  have last : part * scale + offset + 1 ≤ (part + 1) * scale := by
    rw [Nat.succ_mul]
    omega
  constructor
  · calc part * (parts * scale) = part * scale * parts := by ac_rfl
      _ ≤ (part * scale + offset) * parts := Nat.mul_le_mul_right parts (Nat.le_add_right _ _)
  · calc (part * scale + offset + 1) * parts ≤ (part + 1) * scale * parts :=
        Nat.mul_le_mul_right parts last
      _ = (part + 1) * (parts * scale) := by ac_rfl

theorem overlaps_div (some : 0 < parts) (inside : spot < spots) :
    Overlaps (spot * parts / spots) parts spot spots := by
  constructor
  · exact Nat.lt_mul_of_div_lt (Nat.lt_succ_self _) (by omega)
  · calc spot * parts / spots * spots ≤ spot * parts := Nat.div_mul_le_self _ _
      _ < (spot + 1) * parts := by
        rw [Nat.succ_mul]
        omega

end Canvas

/-- Surfaces that do what their operations say. -/
class LawfulCanvas (σ : Type) [Canvas σ] : Prop where
  size_create (size : Nat × Nat) : Canvas.size (Canvas.create size : σ) = size
  size_fill (surface : σ) (colour : Colour) :
    Canvas.size (Canvas.fill surface colour) = Canvas.size surface
  size_takeOver (surface : σ) (columns : List (List Colour)) :
    Canvas.size (Canvas.takeOver surface columns) = Canvas.size surface
  /-- An array of the size of the surface is taken over entry by entry. -/
  colour?_takeOver {surface : σ} {columns : List (List Colour)} (x y : Nat) :
    columns.length = (Canvas.size surface).1 →
    (∀ column ∈ columns, column.length = (Canvas.size surface).2) →
    Canvas.colour? (Canvas.takeOver surface columns) x y = columns[x]?.bind fun column => column[y]?
  size_scale (surface : σ) (size : Nat × Nat) : Canvas.size (Canvas.scale surface size) = size
  colour?_scale (surface : σ) {size : Nat × Nat} {x y : Nat} :
    0 < (Canvas.size surface).1 → 0 < (Canvas.size surface).2 → x < size.1 → y < size.2 →
    ∃ x' y', Canvas.Overlaps x' (Canvas.size surface).1 x size.1 ∧
      Canvas.Overlaps y' (Canvas.size surface).2 y size.2 ∧
      Canvas.colour? (Canvas.scale surface size) x y = Canvas.colour? surface x' y'
  size_paste (target source : σ) : Canvas.size (Canvas.paste target source) = Canvas.size target
  colour?_paste {target source : σ} (x y : Nat) :
    Canvas.size source = Canvas.size target →
    Canvas.colour? (Canvas.paste target source) x y = Canvas.colour? source x y

instance : LawfulCanvas Raster where
  size_create _ := rfl
  size_fill _ _ := rfl
  size_takeOver _ _ := rfl
  colour?_takeOver {raster columns} x y wide high := by
    change (if x < raster.size.1 ∧ y < raster.size.2 then
      some ((columns[x]?.bind fun column => column[y]?).getD .black) else none) = _
    cases looked : columns[x]?.bind fun column => column[y]? with
    | some colour =>
        obtain ⟨column, there, shown⟩ := Option.bind_eq_some_iff.mp looked
        have x_lt := wide ▸ (List.getElem?_eq_some_iff.mp there).1
        have y_lt := high column (List.mem_of_getElem? there) ▸
          (List.getElem?_eq_some_iff.mp shown).1
        exact if_pos ⟨x_lt, y_lt⟩
    | none =>
        refine if_neg fun inside => ?_
        have x_lt : x < columns.length := wide ▸ inside.1
        have y_lt : y < columns[x].length := high _ (List.getElem_mem x_lt) ▸ inside.2
        simp [x_lt, y_lt] at looked
  size_scale _ _ := rfl
  colour?_scale raster size x y wide high x_lt y_lt := by
    have acrossLine := Canvas.overlaps_div wide x_lt
    have downLine := Canvas.overlaps_div high y_lt
    refine ⟨_, _, acrossLine, downLine, ?_⟩
    have inside := And.intro (acrossLine.lt x_lt) (downLine.lt y_lt)
    exact (if_pos ⟨x_lt, y_lt⟩).trans (if_pos inside).symm
  size_paste _ _ := rfl
  colour?_paste {target source} x y same := by
    have sizes : target.size = source.size := same.symm
    simp [Canvas.colour?, Canvas.paste, Raster.colour?, sizes]

end Chip8
