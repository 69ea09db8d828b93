import Chip8.Proofs.Machine.Abstraction

/-!
# What execution does not depend on

The sound timer, the stack slots above the depth, and what a machine keeps for reports alone - the
count of instructions, the last fetch and the trace - never influence what a machine answers.
-/

namespace Chip8

def View.Alike (first second : View) : Prop :=
  ∃ sound stack, second = { first with sound := sound, stack := stack } ∧
    ∀ slot : Fin 16, (slot : Int) < first.sp → stack slot = first.stack slot

namespace Form

variable {form : Form} {word : Nat} {address : Int} {view : View}

theorem act_blind (call : form ≠ call) (back : form ≠ returnFromCall) (buzz : form ≠ setSound)
    (sound : Int) (stack : Fin 16 → Int) :
    form.act word address { view with sound := sound, stack := stack } =
      ((form.act word address view).1,
        { (form.act word address view).2 with sound := sound, stack := stack }) ∧
      (form.act word address view).2.sp = view.sp ∧
      (form.act word address view).2.stack = view.stack := by
  cases form with
  | call => exact absurd rfl call
  | returnFromCall => exact absurd rfl back
  | setSound => exact absurd rfl buzz
  | readDelay =>
      simp only [act]
      split <;> exact ⟨rfl, rfl, rfl⟩
  | skipIfByte | skipUnlessByte | skipIfEqual | skipUnlessEqual | skipIfKey | skipUnlessKey =>
      simp only [act, View.skipIf]
      split <;> exact ⟨rfl, rfl, rfl⟩
  | _ => exact ⟨rfl, rfl, rfl⟩

end Form

namespace View

variable {first second : View}

/-- A slot that becomes live is written first, with the same address on both sides. -/
theorem live_update {slots other : Fin 16 → Int} {depth : Int} (started : 0 ≤ depth)
    (room : depth < 16) (live : ∀ slot : Fin 16, (slot : Int) < depth → other slot = slots slot)
    (value : Int) (slot : Fin 16) (below : (slot : Int) < depth + 1) :
    Function.update other (slotAt depth) value slot =
      Function.update slots (slotAt depth) value slot := by
  by_cases pushed : slot = slotAt depth
  · rw [pushed, Function.update_self, Function.update_self]
  · have apart : slot.val ≠ (slotAt depth).val := fun same => pushed (Fin.ext same)
    simp only [slotAt] at apart
    rw [Function.update_of_ne pushed, Function.update_of_ne pushed]
    exact live slot (by omega)

theorem call_alike (word : Nat) (address : Int) (inRange : first.InRange)
    (alike : first.Alike second) :
    (Form.call.act word address first).1 = (Form.call.act word address second).1 ∧
      (Form.call.act word address first).2.Alike (Form.call.act word address second).2 := by
  obtain ⟨sound, stack, rfl, live⟩ := alike
  have depth := inRange.sp
  simp only [Form.act]
  split
  · exact ⟨rfl, sound, stack, rfl, live⟩
  · exact ⟨rfl, sound, _, rfl, live_update depth.1 (by omega) live first.pc⟩

theorem return_alike (word : Nat) (address : Int) (inRange : first.InRange)
    (alike : first.Alike second) :
    (Form.returnFromCall.act word address first).1 =
        (Form.returnFromCall.act word address second).1 ∧
      (Form.returnFromCall.act word address first).2.Alike
        (Form.returnFromCall.act word address second).2 := by
  obtain ⟨sound, stack, rfl, live⟩ := alike
  have depth := inRange.sp
  simp only [Form.act]
  split
  · exact ⟨rfl, sound, stack, rfl, live⟩
  · have top : stack (slotAt (first.sp - 1)) = first.stack (slotAt (first.sp - 1)) :=
      live _ (by simp only [slotAt]; omega)
    rw [top]
    refine ⟨rfl, sound, stack, rfl, ?_⟩
    intro slot below
    exact live slot (Int.lt_trans below (Int.sub_one_lt_of_le (Int.le_refl first.sp)))

theorem act_alike (form : Form) (word : Nat) (address : Int) (inRange : first.InRange)
    (alike : first.Alike second) :
    (form.act word address first).1 = (form.act word address second).1 ∧
      (form.act word address first).2.Alike (form.act word address second).2 := by
  by_cases call : form = .call
  · subst call
    exact call_alike word address inRange alike
  by_cases back : form = .returnFromCall
  · subst back
    exact return_alike word address inRange alike
  obtain ⟨sound, stack, rfl, live⟩ := alike
  by_cases buzz : form = .setSound
  · subst buzz
    exact ⟨rfl, _, stack, rfl, live⟩
  obtain ⟨same, level, slots⟩ := @Form.act_blind form word address first call back buzz sound stack
  rw [same]
  refine ⟨rfl, sound, stack, rfl, ?_⟩
  rw [level, slots]
  exact live

theorem alike_isCongruence : IsCongruence Alike where
  word := by
    rintro first second ⟨sound, stack, rfl, live⟩
    rfl
  pc := by
    rintro first second ⟨sound, stack, rfl, live⟩
    rfl
  runState := by
    rintro first second ⟨sound, stack, rfl, live⟩
    rfl
  pixel := by
    rintro first second ⟨sound, stack, rfl, live⟩
    rfl
  advance := by
    rintro first second ⟨sound, stack, rfl, live⟩
    exact ⟨sound, stack, rfl, live⟩
  row := fun form word address left _ alike => act_alike form word address left alike
  timers := by
    rintro first second ⟨sound, stack, rfl, live⟩
    exact ⟨_, stack, rfl, live⟩
  keypad := by
    rintro first second mask ⟨sound, stack, rfl, live⟩
    exact ⟨sound, stack, rfl, live⟩
  key := by
    rintro first second x value ⟨sound, stack, rfl, live⟩
    exact ⟨sound, stack, rfl, live⟩

end View

namespace Machine

variable {first second : Machine}

/-- Machines that agree in all that execution may depend on. -/
structure Agree (first second : Machine) : Prop where
  memory : second.memory = first.memory
  programSize : second.programSize = first.programSize
  v : second.registers.v = first.registers.v
  index : second.registers.index = first.registers.index
  pc : second.registers.pc = first.registers.pc
  sp : second.registers.sp = first.registers.sp
  live : ∀ slot : Fin 16, (slot : Int) < first.registers.sp →
    second.registers.stack.get slot = first.registers.stack.get slot
  display : second.display = first.display
  delay : second.timers.delay = first.timers.delay
  keypad : second.keypad = first.keypad
  runState : second.runState = first.runState
  random : second.random = first.random
  shift : second.shift = first.shift

theorem Agree.alike (agree : first.Agree second) : first.view.Alike second.view := by
  refine ⟨second.timers.sound, second.registers.stack.get, ?_, agree.live⟩
  simp only [view, agree.memory, agree.v, agree.index, agree.pc, agree.sp, agree.display,
    agree.delay, agree.keypad, agree.runState, agree.random, agree.shift]

theorem agree_of_alike (programSize : second.programSize = first.programSize)
    (alike : first.view.Alike second.view) : first.Agree second := by
  obtain ⟨sound, stack, same, live⟩ := alike
  have slots : second.registers.stack.get = stack := congrArg View.stack same
  have whole : second.view = ({ first with
      registers := { first.registers with stack := second.registers.stack }
      timers := { first.timers with sound := second.timers.sound } } : Machine).view := by
    rw [same]
    simp only [view, slots]
    have buzz : second.timers.sound = sound := congrArg View.sound same
    rw [buzz]
  obtain ⟨registers, memory, display, timers, keypad, runState, random, shift⟩ := eq_of_view _ whole
  exact
    { memory
      programSize
      v := by rw [registers]
      index := by rw [registers]
      pc := by rw [registers]
      sp := by rw [registers]
      live := by
        rw [slots]
        exact live
      display
      delay := by rw [timers]
      keypad
      runState
      random
      shift }

theorem serve_programSize {machine : Machine} (request : Request) :
    (machine.serve request).2.programSize = machine.programSize := by
  cases request with
  | decrementTimers | setKeypad mask => rfl
  | step =>
      rw [serve]
      cases state : machine.runState with
      | running => exact (step_recorded state).1.programSize
      | awaitingKey register => rw [step_of_awaiting state]
  | deliverKey value => exact (deliverKey_undisturbed value).programSize

theorem serveAll_programSize {machine : Machine} (requests : List Request) :
    (machine.serveAll requests).programSize = machine.programSize :=
  @serveAll_preserves machine (fun after => after.programSize = machine.programSize)
    (fun _ request same => (serve_programSize request).trans same) rfl requests

/-- Machines that agree answer every run of requests alike, and after each request they agree. -/
theorem answers_of_agree (left : first.Reachable) (right : second.Reachable)
    (agree : first.Agree second) (requests : List Request) :
    first.answers requests = second.answers requests ∧
      ∀ part, part <+: requests → (first.serveAll part).Agree (second.serveAll part) := by
  have soundLeft := Sound.reachable left
  have soundRight := Sound.reachable right
  have run := answers_of_congruence View.alike_isCongruence soundLeft soundRight agree.alike
  refine ⟨(run requests).1, ?_⟩
  intro part _
  refine agree_of_alike ?_ (run part).2
  rw [serveAll_programSize, serveAll_programSize]
  exact agree.programSize

theorem answers_of_agree_selfJump :
    let start (trace : Trace) : Machine :=
      { memory := Memory.withFont.writeBlock Memory.programStart [0x12, 0x00], programSize := 2
        trace := trace }
    let jumped := (start (.buffer 2 10)).serveAll [.step]
    (start .silent).Reachable ∧ jumped.Reachable ∧ (start .silent).Agree jumped ∧
      jumped.instructionCount = 1 ∧
      (start .silent).answers [.step, .deliverKey 3] = jumped.answers [.step, .deliverKey 3] := by
  intro start jumped
  have fresh : (start .silent).Reachable :=
    ⟨[0x12, 0x00], .vx, .zeros, .silent, _, [], rfl, rfl⟩
  have again : jumped.Reachable :=
    ⟨[0x12, 0x00], .vx, .zeros, .buffer 2 10, _, [.step], rfl, rfl⟩
  have high : (start (.buffer 2 10)).memory.read 0x200 = 0x12 :=
    @read_program [0x12, 0x00] 0 (by decide) (by decide)
  have low : (start (.buffer 2 10)).memory.read 0x201 = 0x00 :=
    @read_program [0x12, 0x00] 1 (by decide) (by decide)
  have word : (start (.buffer 2 10)).view.word = 0x1200 := word_of_reads _ high low
  have covers : Form.jump.Covers (start (.buffer 2 10)).view.word := by
    rw [word]
    decide
  have target : (start (.buffer 2 10)).nextWord.target.toNat = 0x200 := by
    rw [Word.toNat_target, nextWord, toNat_readWord, word]
  have after : jumped = (start (.buffer 2 10)).step.2 := rfl
  rw [step_of_covers rfl covers, fetch_eq] at after
  have agree : (start .silent).Agree jumped := by
    rw [after]
    exact
      { memory := rfl
        programSize := rfl
        v := rfl
        index := rfl
        pc := congrArg Nat.cast target
        sp := rfl
        live := fun _ _ => rfl
        display := rfl
        delay := rfl
        keypad := rfl
        runState := rfl
        random := rfl
        shift := rfl }
  refine ⟨fresh, again, agree, ?_, (answers_of_agree fresh again agree _).1⟩
  rw [after]
  rfl

end Machine

end Chip8
