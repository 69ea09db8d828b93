import Chip8.Proofs.Opcode.Access
import Chip8.Proofs.Opcode.Table

/-!
# Execution follows the opcode table

Performing the instruction of a form does to the view of a machine what the row of the form says,
and leaves alone what no row speaks of.
-/

namespace Chip8.Machine

variable {machine : Machine} {word : Word}

/-- What the table says of a step: the effect or the error, and the view afterwards. -/
def outcome (step : Except MachineError StepResult × Machine) : Form.Outcome :=
  (step.1.map StepResult.effect, step.2.view)

theorem outcome_ok {result : StepResult} {after : Machine} {view : View}
    (same : after.view = view) : outcome (.ok result, after) = (.ok result.effect, view) := by
  rw [← same]
  rfl

theorem toNat_lowBit (value : Byte) : (value &&& 1).toNat = value.toNat % 2 := by
  rw [BitVec.toNat_and]
  exact Nat.and_one_is_mod _

theorem operate_follows (operation : Instruction.Operation) :
    (machine.withRegisters
      (machine.registers.operate machine.shift operation word.x word.y)).view =
      ((Form.ofOperation operation).act word.toNat machine.lastAddress machine.view).2 := by
  cases operation with
  | copy | or | and | xor =>
      simp only [Registers.operate, view_set, Word.toFin_x, BitVec.toNat_or, BitVec.toNat_and,
        BitVec.toNat_xor, get_x, get_y]
      rfl
  | add =>
      simp only [Registers.operate, view_setFlag, Word.toFin_x, BitVec.toNat_add, toNat_flag, get_x,
        get_y]
      rfl
  | subtract | subtractFrom =>
      have first := machine.view_v_lt (slotAt (word.toNat / 256 : Nat))
      have second := machine.view_v_lt (slotAt (word.toNat / 16 : Nat))
      simp only [Registers.operate, view_setFlag, Word.toFin_x, BitVec.toNat_sub, toNat_flag,
        BitVec.lt_def, get_x, get_y, Form.ofOperation, Form.act]
      congr 1
      omega
  | shiftRight =>
      have dialect : machine.view.shift = machine.shift := rfl
      simp only [Registers.operate, view_setFlag, Word.toFin_x, BitVec.toNat_ushiftRight,
        toNat_lowBit, Form.ofOperation, Form.act, dialect, ← get_x, ← get_y]
      cases machine.shift <;> simp only [Nat.shiftRight_eq_div_pow, Nat.pow_one]
  | shiftLeft =>
      have dialect : machine.view.shift = machine.shift := rfl
      simp only [Registers.operate, view_setFlag, Word.toFin_x, BitVec.toNat_ushiftRight,
        BitVec.toNat_shiftLeft, Form.ofOperation, Form.act, dialect, ← get_x, ← get_y]
      cases machine.shift <;> simp only [Nat.shiftRight_eq_div_pow, Nat.shiftLeft_eq]

theorem draw_follows : outcome (machine.perform (.draw word.x word.y word.lowNibble)) =
    Form.draw.act word.toNat machine.lastAddress machine.view := by
  have short : word.toNat % 16 ≤ 32 := by omega
  have pixels := @pixel_draw machine _ (machine.view.v (slotAt (word.toNat / 256 : Nat)))
    (machine.view.v (slotAt (word.toNat / 16 : Nat))) short
  have hit := @draw_hit_iff machine _ (machine.view.v (slotAt (word.toNat / 256 : Nat)))
    (machine.view.v (slotAt (word.toNat / 16 : Nat))) short
  simp only [perform, get_x, get_y, word.toNat_lowNibble, Form.act, ← pixels, ← hit]
  apply outcome_ok
  rw [← toNat_flag]
  exact view_drawn _ _

theorem readDelay_follows : outcome (machine.perform (.readDelay word.x)) =
    Form.readDelay.act word.toNat machine.lastAddress machine.view := by
  have view : machine.view.delay = machine.timers.delay := rfl
  by_cases byte : 0 ≤ machine.timers.delay ∧ machine.timers.delay < 256
  · have value := Byte.toNat_ofInt byte
    simp only [perform, Registers.put_of_byte word.x byte, Form.act, view, byte, and_self, if_true]
    apply outcome_ok
    rw [view_set, value, word.toFin_x]
  · have refused := @Registers.put_of_not_byte machine.registers _ _
      (isSlotNumber_of_lt word.x.isLt) byte
    simp only [perform, refused, Form.act, view, byte, if_false]
    rfl

theorem decimal_digits (value : Byte) :
    ([value.toNat / 100, value.toNat / 10 % 10, value.toNat % 10].map (BitVec.ofNat 8)).map
      BitVec.toNat = [value.toNat / 100, value.toNat / 10 % 10, value.toNat % 10] := by
  have bound := value.isLt
  simp only [List.map_cons, List.map_nil, BitVec.toNat_ofNat, List.cons.injEq, and_true]
  refine ⟨?_, ?_, ?_⟩ <;> omega

section Fetched

variable (started : 0 ≤ machine.registers.sp) (depth : machine.registers.sp ≤ 16)
  (fetched : machine.lastOpcode = word)

include fetched in
theorem faultOf_eq (cause : Fault.Cause) : machine.faultOf cause =
    .fault { cause, opcode := word.toNat, address := machine.lastAddress } := by
  rw [faultOf, fetched]

include started depth fetched

theorem call_follows : outcome (machine.perform (.call word.target)) =
    Form.call.act word.toNat machine.lastAddress machine.view := by
  have view : machine.view.sp = machine.registers.sp := rfl
  by_cases full : machine.registers.sp = 16
  · simp only [perform, Registers.stackFull_eq depth, Form.act, view, full, decide_true, if_true,
      faultOf_eq fetched]
    rfl
  · obtain ⟨count, counted⟩ := Int.eq_ofNat_of_zero_le started
    have room : count < 16 := by omega
    have place := slotAt_of_lt counted room
    have stack := get_set_eq_update machine.registers.stack ⟨count, room⟩ machine.registers.pc
    simp only [perform, Registers.stackFull_eq depth, Registers.push_of_lt counted room, Form.act,
      view, full, decide_false, Bool.false_eq_true, if_false, place, ← word.toNat_target]
    apply outcome_ok
    simp only [Machine.view, jumpTo, withRegisters]
    rw [← stack]

theorem return_follows : outcome (machine.perform .returnFromCall) =
    Form.returnFromCall.act word.toNat machine.lastAddress machine.view := by
  have view : machine.view.sp = machine.registers.sp := rfl
  by_cases empty : machine.registers.sp = 0
  · simp only [perform, Registers.stackEmpty_eq started, Form.act, view, empty, decide_true,
      if_true, faultOf_eq fetched]
    rfl
  · obtain ⟨count, counted⟩ := Int.eq_succ_of_zero_lt (show 0 < machine.registers.sp by omega)
    have used : count < 16 := by omega
    have shorter : machine.registers.sp - 1 = count := by omega
    have place : slotAt count = ⟨count, used⟩ := slotAt_of_lt rfl used
    simp only [perform, Registers.stackEmpty_eq started, Registers.pull_of_lt counted used,
      Form.act, view, empty, decide_false, Bool.false_eq_true, if_false, shorter, place]
    rfl

/-- The instruction of a form does what the row of the form says. -/
theorem perform_follows (form : Form) : outcome (machine.perform (form.instruction word)) =
    form.act word.toNat machine.lastAddress machine.view := by
  cases form with
  | returnFromCall => exact return_follows started depth fetched
  | call => exact call_follows started depth fetched
  | clearScreen =>
      have dark : Display.blank.pixel = fun _ _ => false := by
        funext px py
        exact Display.pixel_blank
      apply outcome_ok
      simp only [view, dark]
  | jump =>
      apply outcome_ok
      rw [view_jumpTo, word.toNat_target]
  | skipIfByte | skipUnlessByte | skipIfEqual | skipUnlessEqual =>
      apply outcome_ok
      simp only [view_skipIf, decide_eq_true_eq, BitVec.toNat_eq, get_x, get_y,
        word.toNat_lowByte, ne_eq]
  | skipIfKey | skipUnlessKey =>
      apply outcome_ok
      simp only [view_skipIf, keyHeld_eq, get_x, Bool.not_eq_true']
  | loadByte | addByte =>
      apply outcome_ok
      simp only [view_set, BitVec.toNat_add, word.toFin_x, word.toNat_lowByte, get_x]
  | copy => exact outcome_ok (operate_follows .copy)
  | or => exact outcome_ok (operate_follows .or)
  | and => exact outcome_ok (operate_follows .and)
  | xor => exact outcome_ok (operate_follows .xor)
  | add => exact outcome_ok (operate_follows .add)
  | subtract => exact outcome_ok (operate_follows .subtract)
  | shiftRight => exact outcome_ok (operate_follows .shiftRight)
  | subtractFrom => exact outcome_ok (operate_follows .subtractFrom)
  | shiftLeft => exact outcome_ok (operate_follows .shiftLeft)
  | loadIndex =>
      apply outcome_ok
      rw [word.toNat_target]
      rfl
  | jumpOffset =>
      apply outcome_ok
      rw [view_jumpTo, Address.toInt_ofInt, word.toNat_target]
      rfl
  | random =>
      have updated := @view_set machine word.x (machine.random.draw.1 &&& word.lowByte)
      rw [BitVec.toNat_and, word.toNat_lowByte, word.toFin_x] at updated
      exact outcome_ok (congrArg (fun view : View => { view with random := machine.random.draw.2 })
        updated)
  | draw => exact draw_follows
  | readDelay => exact readDelay_follows
  | awaitKey =>
      apply outcome_ok
      have register : (word.x.toNat : Int) = (slotAt (word.toNat / 256 : Nat)).val := by
        rw [← word.toFin_x]
        rfl
      rw [beginKeyWait, register]
      rfl
  | setDelay | setSound =>
      apply outcome_ok
      rw [get_x]
      rfl
  | addIndex =>
      apply outcome_ok
      rw [get_x]
      rfl
  | loadGlyph =>
      apply outcome_ok
      rw [get_x, Font.address_eq]
      rfl
  | storeDecimal =>
      apply outcome_ok
      rw [view_writeBlock (by simp), decimal_digits, get_x]
  | saveRegisters =>
      apply outcome_ok
      have short : (machine.registers.firstValues word.x).length ≤ 4096 := by
        have bound := word.x.isLt
        rw [Registers.length_firstValues]
        omega
      rw [view_writeBlock short, firstValues_toNat, word.toFin_x]
  | loadRegisters =>
      apply outcome_ok
      rw [view_loadRegisters, word.toFin_x]

end Fetched

/-- What only loading, fetching and counting set. -/
structure Undisturbed (before after : Machine) : Prop where
  programSize : after.programSize = before.programSize
  instructionCount : after.instructionCount = before.instructionCount
  lastOpcode : after.lastOpcode = before.lastOpcode
  lastAddress : after.lastAddress = before.lastAddress
  trace : after.trace = before.trace

theorem Undisturbed.refl (machine : Machine) : Undisturbed machine machine :=
  ⟨rfl, rfl, rfl, rfl, rfl⟩

theorem skipIf_undisturbed (condition : Bool) : Undisturbed machine (machine.skipIf condition) := by
  cases condition with
  | false => exact Undisturbed.refl machine
  | true => exact ⟨rfl, rfl, rfl, rfl, rfl⟩

theorem perform_undisturbed (instruction : Instruction) :
    Undisturbed machine (machine.perform instruction).2 := by
  cases instruction with
  | returnFromCall =>
      rw [perform]
      split
      · exact Undisturbed.refl machine
      · split <;> exact ⟨rfl, rfl, rfl, rfl, rfl⟩
  | call target =>
      rw [perform]
      split
      · exact Undisturbed.refl machine
      · split
        · exact ⟨rfl, rfl, rfl, rfl, rfl⟩
        · exact Undisturbed.refl machine
  | readDelay x =>
      rw [perform]
      split
      · exact ⟨rfl, rfl, rfl, rfl, rfl⟩
      · exact Undisturbed.refl machine
  | skipIfByte | skipUnlessByte | skipIfEqual | skipUnlessEqual | skipIfKey | skipUnlessKey =>
      exact skipIf_undisturbed _
  | _ => exact ⟨rfl, rfl, rfl, rfl, rfl⟩

theorem perform_picture {instruction : Instruction} {result : StepResult} {after : Machine}
    (performed : machine.perform instruction = (.ok result, after)) :
    result.display = if result.effect = .redraw then some after.display else none := by
  cases instruction with
  | returnFromCall =>
      rw [perform] at performed
      split at performed
      · cases performed
      · split at performed <;> cases performed
        rfl
  | call target =>
      rw [perform] at performed
      split at performed
      · cases performed
      · split at performed <;> cases performed
        rfl
  | readDelay x =>
      rw [perform] at performed
      split at performed <;> cases performed
      rfl
  | _ =>
      cases performed
      rfl

end Chip8.Machine
