import Chip8.Proofs.Display.Dots
import Chip8.Proofs.Opcode.View
import Mathlib.Algebra.BigOperators.Fin
import Mathlib.Data.List.Perm.Basic
import Mathlib.Order.SymmDiff

namespace Chip8.Display

variable {display : Display} {x y : Int} {px : Fin 64} {py : Fin 32} {sprite : List Int}

structure Drawing where
  x : Int
  y : Int
  sprite : List Int

def drawn (display : Display) (drawing : Drawing) : Display :=
  (display.drawSprite drawing.x drawing.y (lowBytes drawing.sprite)).1

def drawAll (display : Display) (drawings : List Drawing) : Display := drawings.foldl drawn display

def Drawing.flips (drawing : Drawing) (px : Fin 64) (py : Fin 32) : Bool :=
  Display.flips drawing.x drawing.y px py (lowBytes drawing.sprite)

variable {drawing first second : Drawing} {drawings order : List Drawing}

theorem pixel_drawn :
    (display.drawn drawing).pixel px py = (display.pixel px py ^^ drawing.flips px py) :=
  pixel_drawSprite

theorem drawn_comm : (display.drawn first).drawn second = (display.drawn second).drawn first := by
  apply eq_of_pixel
  funext px py
  simp only [pixel_drawn]
  exact Bool.xor_right_comm ..

theorem drawn_drawn : (display.drawn drawing).drawn drawing = display := by
  apply eq_of_pixel
  funext px py
  simp only [pixel_drawn]
  rw [Bool.xor_assoc, Bool.xor_self, Bool.xor_false]

theorem drawAll_perm (perm : order.Perm drawings) :
    display.drawAll order = display.drawAll drawings :=
  perm.foldl_eq' (fun _ _ _ _ _ => drawn_comm) display

theorem drawAll_twice : display.drawAll (drawings ++ drawings) = display := by
  induction drawings with
  | nil => rfl
  | cons drawing rest ih =>
      have together : (drawing :: rest ++ drawing :: rest).Perm
          (drawing :: drawing :: (rest ++ rest)) := List.perm_middle.cons drawing
      calc
        display.drawAll (drawing :: rest ++ drawing :: rest) =
            ((display.drawn drawing).drawn drawing).drawAll (rest ++ rest) := drawAll_perm together
        _ = display := by rw [drawn_drawn, ih]

def lit (display : Display) : Finset (Fin 64 × Fin 32) :=
  Finset.univ.filter fun pixel => display.pixel pixel.1 pixel.2

theorem mem_lit {pixel : Fin 64 × Fin 32} :
    pixel ∈ display.lit ↔ display.pixel pixel.1 pixel.2 = true := by
  simp [lit]

theorem litInRow_eq (row : BitVec 64) :
    litInRow row = ∑ x : Fin 64, if row.getMsbD x then 1 else 0 := by
  have filtered : litInRow row = ((Finset.range 64).filter fun x => row.getMsbD x).card := by
    simp only [litInRow, width, Finset.card_def, Finset.filter_val, Finset.range_val,
      ← Multiset.countP_eq_card_filter, ← Multiset.coe_range, Multiset.coe_countP,
      Bool.decide_eq_true]
  rw [filtered, Finset.card_filter, Finset.sum_range]

theorem litPixels_eq_card : display.litPixels = display.lit.card := by
  have total : display.litPixels = (display.rows.toList.map litInRow).sum := rfl
  rw [total, ← ofFn_get, List.map_ofFn, List.sum_ofFn, lit, Finset.card_filter,
    Fintype.sum_prod_type_right]
  exact Finset.sum_congr rfl fun y _ => litInRow_eq (display.rows.get y)

/-- Flipping some members of a set takes those out that were in. -/
theorem card_symmDiff_add {α : Type} [DecidableEq α] (before flipped : Finset α) :
    (symmDiff before flipped).card + 2 * (before ∩ flipped).card = before.card + flipped.card := by
  have apart : Disjoint (before \ flipped) (flipped \ before) := disjoint_sdiff_sdiff
  have both : (symmDiff before flipped).card = (before \ flipped).card + (flipped \ before).card :=
    Finset.card_union_of_disjoint apart
  have kept := Finset.card_sdiff_add_card_inter before flipped
  have added := Finset.card_sdiff_add_card_inter flipped before
  rw [Finset.inter_comm] at added
  omega

/-- The pixels on which the dots of a sprite land. -/
def targets (x y : Int) (sprite : List Int) : Finset (Fin 64 × Fin 32) :=
  (dots sprite).image (target x y)

theorem flips_iff_mem_targets (short : sprite.length ≤ 32) :
    flips x y px py (lowBytes sprite) = true ↔ (px, py) ∈ targets x y sprite := by
  rw [flips_eq_odd, decide_eq_true_iff, targets, Finset.mem_image]
  constructor
  · intro odd
    obtain ⟨dot, landed⟩ := Finset.card_pos.mp odd.pos
    exact ⟨dot, Finset.mem_filter.mp landed⟩
  · rintro ⟨dot, member, lands⟩
    have alone : landings x y (px, py) sprite = {dot} := by
      refine Finset.eq_singleton_iff_unique_mem.mpr
        ⟨Finset.mem_filter.mpr ⟨member, lands⟩, fun other landed => ?_⟩
      obtain ⟨member', lands'⟩ := Finset.mem_filter.mp landed
      exact target_injOn short member' member (lands'.trans lands.symm)
    rw [alone, Finset.card_singleton]
    exact odd_one

theorem lit_drawSprite (short : sprite.length ≤ 32) :
    (display.drawSprite x y (lowBytes sprite)).1.lit =
      symmDiff display.lit (targets x y sprite) := by
  ext ⟨px, py⟩
  rw [Finset.mem_symmDiff, ← flips_iff_mem_targets short, mem_lit, mem_lit, pixel_drawSprite]
  cases display.pixel px py <;> cases flips x y px py (lowBytes sprite) <;> decide

def overlap (display : Display) (x y : Int) (sprite : List Int) : Finset (ℕ × ℕ) :=
  (dots sprite).filter fun dot =>
    display.pixelAt (target x y dot).1.val (target x y dot).2.val = .ok true

theorem mem_overlap {dot : ℕ × ℕ} : dot ∈ display.overlap x y sprite ↔
    dot ∈ dots sprite ∧ display.pixel (target x y dot).1 (target x y dot).2 = true := by
  rw [overlap, Finset.mem_filter, pixelAt_eq, Except.ok.injEq]

theorem card_targets (short : sprite.length ≤ 32) :
    (targets x y sprite).card = (dots sprite).card :=
  Finset.card_image_of_injOn (target_injOn short)

theorem card_inter_targets (short : sprite.length ≤ 32) :
    (display.lit ∩ targets x y sprite).card = (display.overlap x y sprite).card := by
  have image : display.lit ∩ targets x y sprite =
      (display.overlap x y sprite).image (target x y) := by
    ext pixel
    simp only [Finset.mem_inter, targets, Finset.mem_image, mem_overlap, mem_lit]
    constructor
    · rintro ⟨bright, dot, member, rfl⟩
      exact ⟨dot, ⟨member, bright⟩, rfl⟩
    · rintro ⟨dot, ⟨member, bright⟩, rfl⟩
      exact ⟨bright, dot, member, rfl⟩
  have injective : Set.InjOn (target x y) (display.overlap x y sprite : Set (ℕ × ℕ)) :=
    (target_injOn short).mono fun dot member => (mem_overlap.mp member).1
  rw [image, Finset.card_image_of_injOn injective]

theorem litPixels_drawSprite (short : sprite.length ≤ 32) :
    (display.drawSprite x y (lowBytes sprite)).1.litPixels +
        2 * (display.overlap x y sprite).card =
      display.litPixels + (dots sprite).card := by
  rw [litPixels_eq_card, litPixels_eq_card, lit_drawSprite short, ← card_inter_targets short,
    ← card_targets short]
  exact card_symmDiff_add ..

theorem hit_iff_overlap (short : sprite.length ≤ 32) :
    (display.drawSprite x y (lowBytes sprite)).2 = true ↔
      0 < (display.overlap x y sprite).card := by
  rw [hit_iff_litBefore, Finset.card_pos]
  refine exists_congr fun dot => ?_
  rw [mem_overlap]
  exact and_congr_right fun member => litBefore_iff_of_short short member

/-- How the number of lit pixels grows with a drawing that fits on the screen. -/
structure Counts (display : Display) (x y : Int) (sprite : List Int) : Prop where
  lit : ((display.drawSprite x y (lowBytes sprite)).1.litPixels : Int) =
    display.litPixels + (dots sprite).card - 2 * (display.overlap x y sprite).card
  hit : (display.drawSprite x y (lowBytes sprite)).2 = true ↔
    (display.drawSprite x y (lowBytes sprite)).1.litPixels < display.litPixels + (dots sprite).card

/-- How drawings go together on a display. -/
structure Blends (display : Display) : Prop where
  anyOrder (drawings order : List Drawing) :
    order.Perm drawings → display.drawAll order = display.drawAll drawings
  twice (drawings order : List Drawing) :
    order.Perm (drawings ++ drawings) → display.drawAll order = display
  counts (x y : Int) (sprite : List Int) : sprite.length ≤ 32 → display.Counts x y sprite
  census : display.litPixels = (Finset.univ.filter fun pixel : Fin 64 × Fin 32 =>
    display.pixelAt pixel.1.val pixel.2.val = .ok true).card

theorem blends (display : Display) : display.Blends where
  anyOrder drawings order perm := drawAll_perm perm
  twice drawings order perm := (drawAll_perm perm).trans drawAll_twice
  counts x y sprite short := by
    have grown := @litPixels_drawSprite display x y sprite short
    refine ⟨by omega, (hit_iff_overlap short).trans ?_⟩
    constructor
    · intro some
      omega
    · intro less
      omega
  census := by
    rw [litPixels_eq_card, lit]
    simp only [pixelAt_eq, Except.ok.injEq]

end Chip8.Display
