import Chip8.Proofs.Opcode.Form
import Chip8.Proofs.Opcode.View

/-!
# The opcode table

What each row of the table does, in ordinary arithmetic on numbers.  A row takes the view after the
fetch, with the program counter already moved on, and reads all its operands from that view; what
it does not mention stays as it was.  Nothing here refers to the instructions that words decode to.
-/

namespace Chip8

/-- What a row gives back and leaves behind. -/
abbrev Form.Outcome := Except MachineError Effect × View

/-- The right column of the table, for a word that was fetched from an address.

Only two rows can fault.  A delay timer that is no byte cannot be read either, but only a debugger
can set one. -/
def Form.act (form : Form) (word : Nat) (address : Int) (view : View) : Form.Outcome :=
  let x := slotAt (word / 256 : Nat)
  let y := slotAt (word / 16 : Nat)
  let n := word % 16
  let kk := word % 256
  let nnn := word % 4096
  let vx := view.v x
  let vy := view.v y
  let operand := match view.shift with
    | .vx => vx
    | .vy => vy
  let fault (cause : Fault.Cause) : MachineError := .fault { cause, opcode := word, address }
  match form with
  | clearScreen => (.ok .redraw, { view with pixel := fun _ _ => false })
  | returnFromCall =>
    if view.sp = 0 then (.error (fault .stackUnderflow), view)
    else
      (.ok .none, { view with sp := view.sp - 1, pc := view.stack (slotAt (view.sp - 1)) })
  | jump => (.ok .none, { view with pc := nnn })
  | call =>
    if view.sp = 16 then (.error (fault .stackOverflow), view)
    else
      (.ok .none, { view with
        stack := Function.update view.stack (slotAt view.sp) view.pc
        sp := view.sp + 1
        pc := nnn })
  | skipIfByte => (.ok .none, view.skipIf (vx = kk))
  | skipUnlessByte => (.ok .none, view.skipIf (vx ≠ kk))
  | skipIfEqual => (.ok .none, view.skipIf (vx = vy))
  | loadByte => (.ok .none, view.put x kk)
  | addByte => (.ok .none, view.put x ((vx + kk) % 256))
  | copy => (.ok .none, view.put x vy)
  | or => (.ok .none, view.put x (vx ||| vy))
  | and => (.ok .none, view.put x (vx &&& vy))
  | xor => (.ok .none, view.put x (vx ^^^ vy))
  | add => (.ok .none, view.putFlagged x ((vx + vy) % 256) (if 255 < vx + vy then 1 else 0))
  | subtract =>
    (.ok .none, view.putFlagged x ((vx + 256 - vy) % 256) (if vy < vx then 1 else 0))
  | shiftRight => (.ok .none, view.putFlagged x (operand / 2) (operand % 2))
  | subtractFrom =>
    (.ok .none, view.putFlagged x ((vy + 256 - vx) % 256) (if vx < vy then 1 else 0))
  | shiftLeft => (.ok .none, view.putFlagged x (operand * 2 % 256) (operand / 128))
  | skipUnlessEqual => (.ok .none, view.skipIf (vx ≠ vy))
  | loadIndex => (.ok .none, { view with index := nnn })
  | jumpOffset => (.ok .none, { view with pc := (nnn + view.v (slotAt 0) : Int) % 4096 })
  | random =>
    let (byte, rest) := view.random.draw
    (.ok .none, { view.put x (byte.toNat &&& kk) with random := rest })
  | draw =>
    let hit := ∃ px py, view.pixel px py = true ∧ view.struck vx vy n px py = true
    (.ok .redraw, { view.put (slotAt 0xF) (if hit then 1 else 0) with
      pixel := fun px py => view.pixel px py ^^ view.struck vx vy n px py })
  | skipIfKey => (.ok .none, view.skipIf (view.held (slotAt vx) = true))
  | skipUnlessKey => (.ok .none, view.skipIf (view.held (slotAt vx) = false))
  | readDelay =>
    if 0 ≤ view.delay ∧ view.delay < 256 then (.ok .none, view.put x view.delay.toNat)
    else (.error (.bounds .byteValue), view)
  | awaitKey => (.ok .awaitKey, { view with runState := .awaitingKey x.val })
  | setDelay => (.ok .none, { view with delay := vx })
  | setSound => (.ok .none, { view with sound := vx })
  | addIndex => (.ok .none, { view with index := (view.index + vx) % 65536 })
  | loadGlyph => (.ok .none, { view with index := (vx % 16 * 5 : Nat) })
  | storeDecimal => (.ok .none, view.store [vx / 100, vx / 10 % 10, vx % 10])
  | saveRegisters => (.ok .none, view.store ((List.ofFn view.v).take (x + 1)))
  | loadRegisters =>
    (.ok .none, { view with v := fun r => if r ≤ x then view.fetched r else view.v r })

namespace Form

/-- Why a row cannot be carried out. -/
inductive Refusal (word : Nat) (address : Int) (view : View) : Form → MachineError → Prop where
  | overflow (full : view.sp = 16) :
      Refusal word address view call (.fault ⟨.stackOverflow, word, address⟩)
  | underflow (empty : view.sp = 0) :
      Refusal word address view returnFromCall (.fault ⟨.stackUnderflow, word, address⟩)
  | delay (wide : ¬ (0 ≤ view.delay ∧ view.delay < 256)) :
      Refusal word address view readDelay (.bounds .byteValue)

/-- A row that is not carried out has a reason and leaves nothing behind. -/
theorem refusal_of_act {form : Form} {word : Nat} {address : Int} {view after : View}
    {error : MachineError} (refused : form.act word address view = (.error error, after)) :
    Refusal word address view form error ∧ after = view := by
  cases form with
  | call =>
      simp only [act] at refused
      split at refused
      · rename_i full
        cases refused
        exact ⟨.overflow full, rfl⟩
      · cases refused
  | returnFromCall =>
      simp only [act] at refused
      split at refused
      · rename_i empty
        cases refused
        exact ⟨.underflow empty, rfl⟩
      · cases refused
  | readDelay =>
      simp only [act] at refused
      split at refused
      · cases refused
      · rename_i wide
        cases refused
        exact ⟨.delay wide, rfl⟩
  | _ => cases refused

theorem act_of_refusal {form : Form} {word : Nat} {address : Int} {view : View}
    {error : MachineError} (refusal : Refusal word address view form error) :
    form.act word address view = (.error error, view) := by
  cases refusal with
  | overflow full => simp only [act, full, if_true]
  | underflow empty => simp only [act, empty, if_true]
  | delay wide => simp only [act, wide, if_false]

end Form

end Chip8
