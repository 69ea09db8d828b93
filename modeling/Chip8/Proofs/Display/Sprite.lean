import Chip8.Display
import Mathlib.Tactic.ByContra

/-!
# Sprites

Drawing flips the pixels that an odd number of sprite pixels land on, and reports a hit if a lit
sprite pixel lands on a pixel that is on when its row is drawn.  A sprite of at most 32 rows never
meets its own rows, so it flips each pixel at most once and its hits are those of the old picture.
-/

namespace Chip8.Display

variable {display : Display} {x y : Int} {px : Fin 64} {py : Fin 32} {sprite : List Byte}

theorem pixel_blank : blank.pixel px py = false := by
  have dark : blank.rows.get py = 0 := Vector.getElem_replicate py.isLt
  rw [pixel, dark]
  exact BitVec.getMsbD_zero

theorem getMsbD_spriteRow (bits : Byte) :
    (spriteRow x bits).getMsbD px = bits.getMsbD ((px - x : Int) % 64).toNat := by
  have bound := px.isLt
  simp only [spriteRow, BitVec.getMsbD_rotateRight, BitVec.getMsbD_shiftLeft,
    BitVec.getMsbD_setWidth, bound, decide_true, Bool.true_and]
  split
  · rename_i before
    have place : (64 + px.val - (x % 64).toNat % 64) % 64 = ((px - x : Int) % 64).toNat := by omega
    simp [place]
  · rename_i behind
    have place : px.val - (x % 64).toNat % 64 = ((px - x : Int) % 64).toNat := by omega
    simp [place]

def flips (x y : Int) (px : Fin 64) (py : Fin 32) : List Byte → Bool
  | [] => false
  | bits :: rest =>
    (decide (rowAt y = py) && (spriteRow x bits).getMsbD px) ^^ flips x (y + 1) px py rest

/-- Drawing the first row and then flipping for the others is flipping for all of them. -/
theorem flips_after_flipRow (bits : Byte) :
    ((display.flipRow (rowAt y) (spriteRow x bits)).1.pixel px py ^^
      flips x (y + 1) px py sprite) =
      (display.pixel px py ^^ flips x y px py (bits :: sprite)) := by
  rw [flips, pixel_flipRow]
  by_cases here : rowAt y = py
  · simp [here]
  · simp [here]

theorem pixel_drawSprite : (display.drawSprite x y sprite).1.pixel px py =
    (display.pixel px py ^^ flips x y px py sprite) := by
  induction sprite generalizing display y with
  | nil => simp [drawSprite, flips]
  | cons bits rest ih => rw [← flips_after_flipRow, ← ih]; rfl

theorem flipRow_hit_iff {row : Fin 32} {pattern : BitVec 64} :
    (display.flipRow row pattern).2 = true ↔
      ∃ px : Fin 64, display.pixel px row = true ∧ pattern.getMsbD px = true := by
  simp only [flipRow, decide_eq_true_eq]
  constructor
  · intro shared
    by_contra none
    apply shared
    apply BitVec.eq_of_getMsbD_eq
    intro place inside
    cases both : (display.rows.get row &&& pattern).getMsbD place with
    | false => exact BitVec.getMsbD_zero.symm
    | true =>
        rw [BitVec.getMsbD_and, Bool.and_eq_true] at both
        exact absurd ⟨⟨place, inside⟩, both⟩ none
  · rintro ⟨px, lit, struck⟩ dark
    have both : (display.rows.get row &&& pattern).getMsbD px = true := by
      rw [BitVec.getMsbD_and, struck, Bool.and_true]
      exact lit
    rw [dark] at both
    exact absurd both (by simp)

/-- A row hits what is on after the rows above it have been drawn. -/
theorem drawSprite_hit_iff : (display.drawSprite x y sprite).2 = true ↔
    ∃ (row : Nat) (bits : Byte), sprite[row]? = some bits ∧ ∃ px : Fin 64,
      (display.pixel px (rowAt (y + row)) ^^
        flips x y px (rowAt (y + row)) (sprite.take row)) = true ∧
      (spriteRow x bits).getMsbD px = true := by
  induction sprite generalizing display y with
  | nil => simp [drawSprite]
  | cons first rest ih =>
      simp only [drawSprite, Bool.or_eq_true, flipRow_hit_iff, ih]
      constructor
      · rintro (⟨px, lit, struck⟩ | ⟨row, bits, found, px, lit, struck⟩)
        · exact ⟨0, first, rfl, px, by simpa [flips] using lit, struck⟩
        · refine ⟨row + 1, bits, found, px, ?_, struck⟩
          rw [flips_after_flipRow] at lit
          simpa only [List.take_succ_cons, Int.natCast_add, Int.natCast_one, Int.add_assoc,
            Int.add_comm (row : Int)] using lit
      · rintro ⟨row, bits, found, px, lit, struck⟩
        cases row with
        | zero =>
            cases found
            exact Or.inl ⟨px, by simpa [flips] using lit, struck⟩
        | succ row =>
            refine Or.inr ⟨row, bits, found, px, ?_, struck⟩
            rw [flips_after_flipRow]
            simpa only [List.take_succ_cons, Int.natCast_add, Int.natCast_one, Int.add_assoc,
              Int.add_comm (row : Int)] using lit

theorem rowAt_eq_iff : rowAt y = py ↔ ((py - y : Int) % 32).toNat = 0 := by
  have bound := py.isLt
  constructor
  · intro same
    subst same
    simp only [rowAt]
    omega
  · intro start
    apply Fin.ext
    simp only [rowAt]
    omega

theorem flips_of_short (short : sprite.length ≤ 32) : flips x y px py sprite =
    (sprite[((py - y : Int) % 32).toNat]?).any fun bits => (spriteRow x bits).getMsbD px := by
  induction sprite generalizing y with
  | nil => rfl
  | cons bits rest ih =>
      have restShort : rest.length < 32 := by
        simp only [List.length_cons] at short
        omega
      rw [flips, ih (by omega)]
      by_cases here : rowAt y = py
      · have start := rowAt_eq_iff.mp here
        have past : ((py - (y + 1) : Int) % 32).toNat = 31 := by omega
        rw [start, past, List.getElem?_eq_none (by omega)]
        simp [here]
      · have apart : ((py - y : Int) % 32).toNat ≠ 0 := fun start => here (rowAt_eq_iff.mpr start)
        have behind : ((py - y : Int) % 32).toNat = ((py - (y + 1) : Int) % 32).toNat + 1 := by
          omega
        rw [behind, List.getElem?_cons_succ]
        simp [here]

theorem offset_rowAt {row : Nat} (inside : row < 32) :
    (((rowAt (y + row)).val - y : Int) % 32).toNat = row := by
  simp only [rowAt]
  omega

/-- A sprite that fits on the screen hits what it flips off. -/
theorem drawSprite_hit_iff_of_short (short : sprite.length ≤ 32) :
    (display.drawSprite x y sprite).2 = true ↔
      ∃ px py, display.pixel px py = true ∧ flips x y px py sprite = true := by
  have before (row : Nat) : (sprite.take row).length ≤ 32 :=
    Nat.le_trans (List.length_take_le' row sprite) short
  have above (row : Nat) : (sprite.take row)[row]? = none :=
    List.getElem?_take_eq_none (Nat.le_refl row)
  rw [drawSprite_hit_iff]
  constructor
  · rintro ⟨row, bits, found, px, lit, struck⟩
    obtain ⟨inside, _⟩ := List.getElem?_eq_some_iff.mp found
    refine ⟨px, rowAt (y + row), ?_, ?_⟩
    · rw [flips_of_short (before row), offset_rowAt (by omega), above row] at lit
      simpa using lit
    · rw [flips_of_short short, offset_rowAt (by omega), found]
      exact struck
  · rintro ⟨px, py, lit, flipped⟩
    rw [flips_of_short short] at flipped
    cases found : sprite[((py - y : Int) % 32).toNat]? with
    | none =>
        rw [found] at flipped
        contradiction
    | some bits =>
        rw [found] at flipped
        have row : rowAt (y + ((py - y : Int) % 32).toNat) = py := by
          apply rowAt_eq_iff.mpr
          omega
        refine ⟨_, bits, found, px, ?_, flipped⟩
        rw [row, flips_of_short (before _), above, lit]
        rfl

end Chip8.Display
