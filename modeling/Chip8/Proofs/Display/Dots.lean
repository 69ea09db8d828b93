import Chip8.Proofs.Display.Blit
import Chip8.Proofs.Display.Views
import Mathlib.Algebra.BigOperators.Group.Finset.Piecewise
import Mathlib.Algebra.BigOperators.Group.Finset.Sigma
import Mathlib.Algebra.Ring.Parity
import Mathlib.Data.Finset.Prod
import Mathlib.Tactic.IntervalCases

/-!
# The dots of a sprite

Each set bit in the low bytes of a sprite is a dot, which lands on one pixel of the display, around
both edges.  Drawing is told dot by dot: a pixel flips if an odd number of dots land on it, and a
dot hits if its pixel is on when its row is drawn.
-/

namespace Chip8.Display

variable {display : Display} {x y : Int} {px : Fin 64} {py : Fin 32} {entry : Int}
  {sprite : List Int}

def columns (entry : Int) : Finset ℕ :=
  (Finset.range 8).filter fun column => entry / 2 ^ (7 - column) % 2 = 1

def dots (sprite : List Int) : Finset (ℕ × ℕ) :=
  (Finset.range sprite.length ×ˢ Finset.range 8).filter fun dot =>
    sprite.getD dot.1 0 / 2 ^ (7 - dot.2) % 2 = 1

def columnAt (x : Int) : Fin 64 := ⟨(x % 64).toNat, by omega⟩

/-- The pixel on which a dot lands when the sprite stands at (`x`, `y`). -/
def target (x y : Int) (dot : ℕ × ℕ) : Fin 64 × Fin 32 :=
  (columnAt (x + dot.2), rowAt (y + dot.1))

def landings (x y : Int) (pixel : Fin 64 × Fin 32) (sprite : List Int) : Finset (ℕ × ℕ) :=
  (dots sprite).filter fun dot => target x y dot = pixel

theorem getMsbD_ofInt (column : ℕ) :
    (BitVec.ofInt 8 entry).getMsbD column = decide (column ∈ columns entry) := by
  by_cases inside : column < 8
  · have bit : (BitVec.ofInt 8 entry).getMsbD column =
        decide ((entry % 256).toNat / 2 ^ (7 - column) % 2 = 1) := by
      simp [BitVec.getMsbD, BitVec.getLsbD, BitVec.toNat_ofInt, inside,
        Nat.testBit_eq_decide_div_mod_eq]
    rw [bit]
    apply decide_eq_decide.mpr
    simp only [columns, Finset.mem_filter, Finset.mem_range, inside, true_and]
    interval_cases column <;> simp <;> omega
  · simp [BitVec.getMsbD, columns, inside]

theorem columnAt_add_eq_iff {column : ℕ} (inside : column < 8) :
    columnAt (x + column) = px ↔ column = ((px - x : Int) % 64).toNat := by
  have bound := px.isLt
  constructor
  · intro same
    subst same
    simp only [columnAt]
    omega
  · intro same
    apply Fin.ext
    simp only [columnAt]
    omega

theorem card_columns_at :
    ((columns entry).filter fun (column : ℕ) => columnAt (x + column) = px).card =
      if (spriteRow x (BitVec.ofInt 8 entry)).getMsbD px then 1 else 0 := by
  have one : ((columns entry).filter fun (column : ℕ) => columnAt (x + column) = px) =
      (columns entry).filter fun column => column = ((px - x : Int) % 64).toNat := by
    refine Finset.filter_congr fun column member => columnAt_add_eq_iff ?_
    exact Finset.mem_range.mp (Finset.mem_filter.mp member).1
  rw [one, Finset.filter_eq', getMsbD_spriteRow, getMsbD_ofInt]
  by_cases lit : ((px - x : Int) % 64).toNat ∈ columns entry
  · simp [lit]
  · simp [lit]

theorem getMsbD_spriteRow_iff : (spriteRow x (BitVec.ofInt 8 entry)).getMsbD px = true ↔
    ∃ column ∈ columns entry, columnAt (x + column) = px := by
  rw [← Finset.filter_nonempty_iff, ← Finset.card_pos, card_columns_at]
  split <;> simp [*]

theorem mem_dots {row column : ℕ} : (row, column) ∈ dots sprite ↔
    ∃ entry, sprite[row]? = some entry ∧ column ∈ columns entry := by
  by_cases inside : row < sprite.length
  · simp [dots, columns, inside]
  · simp [dots, inside]

theorem card_dots_cons (Lands : ℕ × ℕ → Prop) [DecidablePred Lands] :
    ((dots (entry :: sprite)).filter Lands).card =
      ((columns entry).filter fun column => Lands (0, column)).card +
        ((dots sprite).filter fun dot => Lands (dot.1 + 1, dot.2)).card := by
  simp only [dots, columns, Finset.filter_filter, Finset.card_filter, Finset.sum_product,
    List.length_cons, Finset.sum_range_succ', List.getD_cons_succ, List.getD_cons_zero]
  exact Nat.add_comm _ _

theorem dots_take (row : ℕ) :
    dots (sprite.take row) = (dots sprite).filter fun dot => dot.1 < row := by
  ext ⟨place, column⟩
  rw [Finset.mem_filter, mem_dots, mem_dots, List.getElem?_take]
  split <;> simp [*]

theorem target_succ (dot : ℕ × ℕ) : target x y (dot.1 + 1, dot.2) = target x (y + 1) dot := by
  rw [target, target, Nat.cast_add, Int.add_comm (dot.1 : Int), Int.add_assoc]
  rfl

theorem card_landings_cons : (landings x y (px, py) (entry :: sprite)).card =
    (if rowAt y = py ∧ (spriteRow x (BitVec.ofInt 8 entry)).getMsbD px then 1 else 0) +
      (landings x (y + 1) (px, py) sprite).card := by
  have first : ((columns entry).filter fun column => target x y (0, column) = (px, py)).card =
      if rowAt y = py ∧ (spriteRow x (BitVec.ofInt 8 entry)).getMsbD px then 1 else 0 := by
    by_cases here : rowAt y = py
    · simp [target, here, card_columns_at]
    · simp [target, here]
  rw [landings, card_dots_cons, first]
  simp only [target_succ, landings]

theorem flips_eq_odd : flips x y px py (lowBytes sprite) =
    decide (Odd (landings x y (px, py) sprite).card) := by
  induction sprite generalizing y with
  | nil => simp [lowBytes, flips, landings, dots]
  | cons entry rest ih =>
      rw [lowBytes, List.map_cons, flips, ← lowBytes, ih, card_landings_cons]
      by_cases struck : rowAt y = py ∧ (spriteRow x (BitVec.ofInt 8 entry)).getMsbD px = true
      · rw [if_pos struck, Nat.add_comm]
        simp [struck, Nat.odd_add_one, -Nat.not_odd_iff_even]
      · have missed : (decide (rowAt y = py) && (spriteRow x (BitVec.ofInt 8 entry)).getMsbD px) =
            false := by
          simpa using struck
        rw [if_neg struck, Nat.zero_add, missed, Bool.false_xor]

/-- Whether the pixel on which a dot lands is on when the row of the dot is drawn: the dots of the
rows above it have been drawn by then. -/
def LitBefore (display : Display) (x y : Int) (sprite : List Int) (dot : ℕ × ℕ) : Prop :=
  (display.pixel (target x y dot).1 (target x y dot).2 ^^
    decide (Odd ((landings x y (target x y dot) sprite).filter fun other => other.1 < dot.1).card)) =
      true

theorem landings_take {pixel : Fin 64 × Fin 32} (row : ℕ) : landings x y pixel (sprite.take row) =
    (landings x y pixel sprite).filter fun dot => dot.1 < row := by
  rw [landings, landings, dots_take, Finset.filter_comm]

theorem hit_iff_litBefore : (display.drawSprite x y (lowBytes sprite)).2 = true ↔
    ∃ dot ∈ dots sprite, display.LitBefore x y sprite dot := by
  have above (row : ℕ) (px : Fin 64) (py : Fin 32) :
      flips x y px py ((lowBytes sprite).take row) =
        decide (Odd ((landings x y (px, py) sprite).filter fun dot => dot.1 < row).card) := by
    rw [lowBytes, ← List.map_take, ← lowBytes, flips_eq_odd, landings_take]
  rw [drawSprite_hit_iff]
  constructor
  · rintro ⟨row, bits, found, px, lit, struck⟩
    rw [lowBytes, List.getElem?_map] at found
    obtain ⟨entry, present, rfl⟩ := Option.map_eq_some_iff.mp found
    obtain ⟨column, member, rfl⟩ := getMsbD_spriteRow_iff.mp struck
    rw [above] at lit
    exact ⟨(row, column), mem_dots.mpr ⟨entry, present, member⟩, lit⟩
  · rintro ⟨⟨row, column⟩, member, lit⟩
    obtain ⟨entry, found, member⟩ := mem_dots.mp member
    refine ⟨row, BitVec.ofInt 8 entry, ?_, columnAt (x + column), ?_,
      getMsbD_spriteRow_iff.mpr ⟨column, member, rfl⟩⟩
    · rw [lowBytes, List.getElem?_map, found]
      rfl
    · rw [above]
      exact lit

theorem lt_of_mem_dots {dot : ℕ × ℕ} (member : dot ∈ dots sprite) :
    dot.1 < sprite.length ∧ dot.2 < 8 := by
  simpa using (Finset.mem_filter.mp member).1

theorem target_injOn (short : sprite.length ≤ 32) :
    Set.InjOn (target x y) (dots sprite : Set (ℕ × ℕ)) := by
  intro dot member other member' same
  obtain ⟨row_lt, column_lt⟩ := lt_of_mem_dots member
  obtain ⟨row_lt', column_lt'⟩ := lt_of_mem_dots member'
  have column : (x + dot.2) % 64 = (x + other.2) % 64 := by
    have equal := congrArg (fun pixel => pixel.1.val) same
    simp only [target, columnAt] at equal
    omega
  have row : (y + dot.1) % 32 = (y + other.1) % 32 := by
    have equal := congrArg (fun pixel => pixel.2.val) same
    simp only [target, rowAt] at equal
    omega
  exact Prod.ext (by omega) (by omega)

/-- Of a sprite that fits on the screen no dot meets a pixel that the rows above have flipped. -/
theorem litBefore_iff_of_short (short : sprite.length ≤ 32) {dot : ℕ × ℕ}
    (member : dot ∈ dots sprite) : display.LitBefore x y sprite dot ↔
      display.pixel (target x y dot).1 (target x y dot).2 = true := by
  have none : (landings x y (target x y dot) sprite).filter (fun other => other.1 < dot.1) = ∅ := by
    refine Finset.filter_eq_empty_iff.mpr fun other landed above => ?_
    obtain ⟨member', same⟩ := Finset.mem_filter.mp landed
    have equal : other = dot := target_injOn short member' member same
    rw [equal] at above
    exact Nat.lt_irrefl _ above
  rw [LitBefore, none]
  simp

/-- What drawing a sprite does to each pixel, and when it reports a hit. -/
structure DrawsDots (display : Display) (x y : Int) (sprite : List Int) : Prop where
  pixel (px : Fin 64) (py : Fin 32) : ∃ before, display.pixelAt px py = .ok before ∧
    (display.drawSprite x y (lowBytes sprite)).1.pixelAt px py =
      .ok (before ^^ decide (Odd (landings x y (px, py) sprite).card))
  hit : (display.drawSprite x y (lowBytes sprite)).2 = true ↔
    ∃ dot ∈ dots sprite, display.LitBefore x y sprite dot
  /-- The bytes of the rows are flipped, two at most for each row of the sprite. -/
  blitted : blit display.snapshot x y sprite =
    ((display.drawSprite x y (lowBytes sprite)).1.snapshot,
      (display.drawSprite x y (lowBytes sprite)).2)
  hitOfShort : sprite.length ≤ 32 → ((display.drawSprite x y (lowBytes sprite)).2 = true ↔
    ∃ dot ∈ dots sprite, display.pixelAt (target x y dot).1.val (target x y dot).2.val = .ok true)

theorem drawsDots (display : Display) (x y : Int) (sprite : List Int) :
    display.DrawsDots x y sprite where
  pixel px py := by
    refine ⟨display.pixel px py, display.pixelAt_eq px py, ?_⟩
    rw [pixelAt_eq, pixel_drawSprite, flips_eq_odd]
  hit := hit_iff_litBefore
  blitted := blit_snapshot
  hitOfShort short := by
    rw [hit_iff_litBefore]
    refine exists_congr fun dot => and_congr_right fun member => ?_
    rw [litBefore_iff_of_short short member, pixelAt_eq, Except.ok.injEq]

end Chip8.Display
