import Chip8.Proofs.Opcode.Table

namespace Chip8

structure View.InRange (view : View) : Prop where
  pc : 0 ≤ view.pc ∧ view.pc < 4096
  index : 0 ≤ view.index ∧ view.index < 65536
  sp : 0 ≤ view.sp ∧ view.sp ≤ 16
  stack : ∀ slot, 0 ≤ view.stack slot ∧ view.stack slot < 4096
  delay : 0 ≤ view.delay ∧ view.delay < 256
  sound : 0 ≤ view.sound ∧ view.sound < 256

namespace View.InRange

variable {view : View}

theorem advance (inRange : view.InRange) : view.advance.InRange :=
  { inRange with
    pc := by
      simp only [View.advance]
      omega }

theorem skipIf (inRange : view.InRange) (condition : Prop) [Decidable condition] :
    (view.skipIf condition).InRange := by
  rw [View.skipIf]
  split
  · exact inRange.advance
  · exact inRange

theorem put (inRange : view.InRange) (x : Fin 16) (value : Nat) : (view.put x value).InRange :=
  { inRange with }

theorem pushed (inRange : view.InRange) (slot target : Fin 16) :
    0 ≤ Function.update view.stack slot view.pc target ∧
      Function.update view.stack slot view.pc target < 4096 := by
  by_cases same : target = slot
  · subst same
    rw [Function.update_self]
    exact inRange.pc
  · rw [Function.update_of_ne same]
    exact inRange.stack target

end View.InRange

namespace Form

variable {view : View} {word : Nat} {address : Int}

/-- No row takes a view of bytes out of range. -/
theorem act_inRange (form : Form) (inRange : view.InRange) (bytes : ∀ x, view.v x < 256) :
    (form.act word address view).2.InRange := by
  have first := bytes (slotAt (word / 256 : Nat))
  cases form with
  | returnFromCall =>
      simp only [act]
      split
      · exact inRange
      · have depth := inRange.sp
        exact { inRange with
          pc := inRange.stack _
          sp := by dsimp only; omega }
  | call =>
      simp only [act]
      split
      · exact inRange
      · have depth := inRange.sp
        exact { inRange with
          pc := by dsimp only; omega
          sp := by dsimp only; omega
          stack := inRange.pushed _ }
  | jump =>
      exact { inRange with pc := by dsimp only [act]; omega }
  | jumpOffset =>
      exact { inRange with pc := by dsimp only [act]; omega }
  | loadIndex | loadGlyph | addIndex =>
      exact { inRange with index := by dsimp only [act]; omega }
  | setDelay => exact { inRange with delay := by dsimp only [act]; omega }
  | setSound => exact { inRange with sound := by dsimp only [act]; omega }
  | readDelay =>
      simp only [act]
      split
      · exact inRange.put _ _
      · exact inRange
  | skipIfByte | skipUnlessByte | skipIfEqual | skipUnlessEqual | skipIfKey | skipUnlessKey =>
      exact inRange.skipIf _
  | _ => exact { inRange with }

/-- Only the row that awaits a key changes the run state. -/
theorem runState_of_act {form : Form} (other : form ≠ awaitKey) :
    (form.act word address view).2.runState = view.runState := by
  cases form with
  | awaitKey => exact absurd rfl other
  | returnFromCall | call | readDelay =>
      simp only [act]
      split <;> rfl
  | skipIfByte | skipUnlessByte | skipIfEqual | skipUnlessEqual | skipIfKey | skipUnlessKey =>
      simp only [act, View.skipIf]
      split <;> rfl
  | _ => rfl

end Form

end Chip8
