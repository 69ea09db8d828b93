import Chip8.Proofs.Opcode.Table

/-!
# Rows that look away

Few rows look at the index register, at a timer or at the held keys.  Any other row does the same
whatever stands there, and leaves it there.
-/

namespace Chip8

namespace View

/-- A part of a view that few rows look at. -/
inductive Part where
  | index
  | delay
  | sound
  | held
  deriving DecidableEq, Repr

def Part.rows : Part → List Form
  | index => [.loadIndex, .draw, .addIndex, .loadGlyph, .storeDecimal, .saveRegisters,
    .loadRegisters]
  | delay => [.readDelay, .setDelay]
  | sound => [.setSound]
  | held => [.skipIfKey, .skipUnlessKey]

structure Retouch where
  index : Int → Int := id
  delay : Int → Int := id
  sound : Int → Int := id
  held : (Fin 16 → Bool) → Fin 16 → Bool := id

namespace Retouch

def apply (change : Retouch) (view : View) : View :=
  { view with
    index := change.index view.index
    delay := change.delay view.delay
    sound := change.sound view.sound
    held := change.held view.held }

/-- The change keeps what the row looks at. -/
structure Spares (change : Retouch) (form : Form) : Prop where
  index : form ∈ Part.index.rows → change.index = id
  delay : form ∈ Part.delay.rows → change.delay = id
  sound : form ∈ Part.sound.rows → change.sound = id
  held : form ∈ Part.held.rows → change.held = id

theorem skipIf_apply (change : Retouch) (view : View) (condition : Prop) [Decidable condition] :
    (change.apply view).skipIf condition = change.apply (view.skipIf condition) := by
  rw [skipIf, skipIf]
  split <;> rfl

end Retouch

end View

open View (Part Retouch)

/-- A row does not see a change that spares it, and the change is still there afterwards. -/
theorem Form.act_retouch {form : Form} {change : Retouch} (spares : change.Spares form) (word : Nat)
    (address : Int) (view : View) : form.act word address (change.apply view) =
      ((form.act word address view).1, change.apply (form.act word address view).2) := by
  obtain ⟨index, delay, sound, held⟩ := change
  cases form with
  | loadIndex | draw | addIndex | loadGlyph | storeDecimal | saveRegisters | loadRegisters =>
      cases spares.index (by decide)
      rfl
  | setDelay =>
      cases spares.delay (by decide)
      rfl
  | setSound =>
      cases spares.sound (by decide)
      rfl
  | skipIfKey | skipUnlessKey =>
      cases spares.held (by decide)
      exact congrArg (Prod.mk _) (Retouch.skipIf_apply ..)
  | skipIfByte | skipUnlessByte | skipIfEqual | skipUnlessEqual =>
      exact congrArg (Prod.mk _) (Retouch.skipIf_apply ..)
  | readDelay =>
      cases spares.delay (by decide)
      by_cases byte : 0 ≤ view.delay ∧ view.delay < 256
      · simp only [act, byte, and_self, if_true]
        exact if_pos byte
      · simp only [act, byte, if_false]
        exact if_neg byte
  | returnFromCall =>
      by_cases empty : view.sp = 0
      · simp only [act, empty, if_true]
        exact if_pos empty
      · simp only [act, empty, if_false]
        exact if_neg empty
  | call =>
      by_cases full : view.sp = 16
      · simp only [act, full, if_true]
        exact if_pos full
      · simp only [act, full, if_false]
        exact if_neg full
  | _ => rfl

end Chip8
