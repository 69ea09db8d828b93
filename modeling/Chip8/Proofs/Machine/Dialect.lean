import Chip8.Proofs.Machine.Encounter

namespace Chip8

def Form.shifts : List Form := [.shiftRight, .shiftLeft]

theorem Registers.operate_dialect {registers : Registers} {operation : Instruction.Operation}
    {x y : Nibble} (first second : ShiftDialect)
    (same : Form.ofOperation operation ∈ Form.shifts → registers.get x = registers.get y) :
    registers.operate first operation x y = registers.operate second operation x y := by
  cases operation with
  | shiftRight | shiftLeft =>
      have equal : registers.get x = registers.get y := same (by decide)
      cases first <;> cases second <;> simp only [operate, equal]
  | _ => rfl

namespace Machine

variable {machine start : Machine} {dialect : ShiftDialect} {instruction : Instruction}

def speaking (machine : Machine) (dialect : ShiftDialect) : Machine :=
  { machine with shift := dialect }

/-- The machine is about to shift, and the registers `Vx` and `Vy` hold different values. -/
structure ShiftsApart (machine : Machine) : Prop where
  shifts : ∃ form ∈ Form.shifts, machine.Executes form
  apart : machine.registers.get machine.nextWord.x ≠ machine.registers.get machine.nextWord.y

instance (machine : Machine) : Decidable machine.ShiftsApart :=
  decidable_of_iff ((∃ form ∈ Form.shifts, machine.Executes form) ∧
      machine.registers.get machine.nextWord.x ≠ machine.registers.get machine.nextWord.y)
    ⟨fun both => ⟨both.1, both.2⟩, fun apart => ⟨apart.shifts, apart.apart⟩⟩

def Divides (met : Machine × Request) : Prop := met.2 = .step ∧ met.1.ShiftsApart

instance : DecidablePred Divides := fun _ => inferInstanceAs (Decidable (_ ∧ _))

theorem skipIf_speaking (condition : Bool) :
    (machine.speaking dialect).skipIf condition = (machine.skipIf condition).speaking dialect := by
  cases condition <;> rfl

theorem perform_speaking
    (same : ∀ operation x y, instruction = .operate operation x y →
      Form.ofOperation operation ∈ Form.shifts →
        machine.registers.get x = machine.registers.get y) :
    (machine.speaking dialect).perform instruction =
      ((machine.perform instruction).1, (machine.perform instruction).2.speaking dialect) := by
  cases instruction with
  | operate operation x y =>
      have result := Registers.operate_dialect dialect machine.shift (same operation x y rfl)
      exact congrArg (fun registers => (Except.ok StepResult.quiet,
        (machine.withRegisters registers).speaking dialect)) result
  | skipIfByte | skipUnlessByte | skipIfEqual | skipUnlessEqual | skipIfKey | skipUnlessKey =>
      exact congrArg (Prod.mk _) (skipIf_speaking _)
  | returnFromCall | call target =>
      have registers : (machine.speaking dialect).registers = machine.registers := rfl
      simp only [perform, registers]
      split
      · rfl
      · split <;> rfl
  | readDelay x =>
      have registers : (machine.speaking dialect).registers = machine.registers := rfl
      have timers : (machine.speaking dialect).timers = machine.timers := rfl
      simp only [perform, registers, timers]
      split <;> rfl
  | _ => rfl

theorem fetch_speaking : (machine.speaking dialect).fetch = machine.fetch.speaking dialect := by
  rw [fetch_eq, fetch_eq]
  rfl

theorem counted_speaking (performed : Except MachineError StepResult × Machine) :
    counted (performed.1, performed.2.speaking dialect) =
      ((counted performed).1, (counted performed).2.speaking dialect) := by
  obtain ⟨answer, after⟩ := performed
  cases answer <;> rfl

/-- A step does not depend on the dialect unless it shifts registers with different values. -/
theorem step_speaking (agreed : ¬ machine.ShiftsApart) :
    (machine.speaking dialect).step = (machine.step.1, machine.step.2.speaking dialect) := by
  cases state : machine.runState with
  | awaitingKey register =>
      have also : (machine.speaking dialect).runState = .awaitingKey register := state
      rw [step_of_awaiting state, step_of_awaiting also]
  | running =>
      have also : (machine.speaking dialect).runState = .running := state
      by_cases covered : ∃ form : Form, form.Covers machine.view.word
      · obtain ⟨form, covers⟩ := covered
        have same : ∀ operation x y, form.instruction machine.nextWord = .operate operation x y →
            Form.ofOperation operation ∈ Form.shifts →
              machine.fetch.registers.get x = machine.fetch.registers.get y := by
          intro operation x y found shifts
          have kind : form = Form.ofOperation operation := by
            rw [← Form.ofInstruction_instruction form machine.nextWord, found]
            rfl
          have operands : x = machine.nextWord.x ∧ y = machine.nextWord.y := by
            cases form <;> cases found <;> exact ⟨rfl, rfl⟩
          have equal : machine.registers.get machine.nextWord.x =
              machine.registers.get machine.nextWord.y :=
            not_not.mp fun apart => agreed ⟨⟨form, kind ▸ shifts, state, covers⟩, apart⟩
          rw [fetch_eq, operands.1, operands.2]
          exact equal
        rw [step_of_covers state covers, step_of_covers also covers, fetch_speaking,
          ← counted_speaking]
        exact congrArg counted (perform_speaking same)
      · have uncovered := not_exists.mp covered
        rw [step_of_uncovered state uncovered, step_of_uncovered also uncovered, fetch_speaking]
        rfl

theorem deliverKey_speaking (value : Int) : (machine.speaking dialect).deliverKey value =
    ((machine.deliverKey value).1, (machine.deliverKey value).2.speaking dialect) := by
  have state : (machine.speaking dialect).runState = machine.runState := rfl
  have registers : (machine.speaking dialect).registers = machine.registers := rfl
  simp only [deliverKey, state, registers]
  split
  · rfl
  · split
    · split <;> rfl
    · rfl

theorem serve_speaking {request : Request} (agreed : ¬ Divides (machine, request)) :
    (machine.speaking dialect).serve request =
      ((machine.serve request).1, (machine.serve request).2.speaking dialect) := by
  cases request with
  | decrementTimers | setKeypad mask => rfl
  | step =>
      rw [serve, serve, step_speaking fun apart => agreed ⟨rfl, apart⟩]
  | deliverKey value =>
      rw [serve, serve, deliverKey_speaking]

/-- A run in two dialects: the answers are the same, and after each request the machines differ in
nothing but the dialect. -/
structure RunsAlike (start : Machine) (requests : List Request) : Prop where
  answers : (start.speaking .vy).answers requests = (start.speaking .vx).answers requests
  after : ∀ part, part <+: requests →
    (start.speaking .vy).serveAll part = ((start.speaking .vx).serveAll part).speaking .vy

theorem serveAll_speaking {requests : List Request}
    (agreed : ∀ met ∈ machine.encounters requests, ¬ Divides met) :
    (machine.speaking dialect).answers requests = machine.answers requests ∧
      (machine.speaking dialect).serveAll requests =
        (machine.serveAll requests).speaking dialect := by
  induction requests generalizing machine with
  | nil => exact ⟨rfl, rfl⟩
  | cons request rest ih =>
      have first := @serve_speaking machine dialect request (agreed _ (List.mem_cons_self ..))
      obtain ⟨answers, after⟩ := ih fun met member => agreed met (List.mem_cons_of_mem _ member)
      rw [answers_cons, answers_cons, serveAll_cons, serveAll_cons, first, answers, after]
      exact ⟨rfl, rfl⟩

theorem runsAlike_of_agreed {requests : List Request}
    (agreed : ∀ met ∈ (start.speaking .vx).encounters requests, ¬ Divides met) :
    start.RunsAlike requests := by
  refine ⟨(@serveAll_speaking (start.speaking .vx) .vy requests agreed).1, ?_⟩
  rintro part ⟨rest, rfl⟩
  rw [encounters_append] at agreed
  exact (@serveAll_speaking (start.speaking .vx) .vy part
    fun met member => agreed met (List.mem_append_left _ member)).2

structure SpeaksAlike (start : Machine) (requests : List Request) : Prop where
  agreed : (∀ met ∈ (start.speaking .vx).encounters requests, ¬ Divides met) →
    start.RunsAlike requests
  single : (∀ met ∈ (start.speaking .vx).encounters requests, met.2 = .step →
      ∀ form ∈ Form.shifts, met.1.Executes form → met.1.nextWord.x = met.1.nextWord.y) →
    start.RunsAlike requests
  /-- Where the runs do differ, they went alike up to a shift of different values. -/
  first : ¬ start.RunsAlike requests → ∃ before after, requests = before ++ .step :: after ∧
    start.RunsAlike before ∧ ((start.speaking .vx).serveAll before).ShiftsApart

theorem speaksAlike (start : Machine) (requests : List Request) :
    start.SpeaksAlike requests where
  agreed := runsAlike_of_agreed
  single named := runsAlike_of_agreed <| by
    rintro met member ⟨step, ⟨form, shifts, executes⟩, apart⟩
    exact apart (congrArg met.1.registers.get (named met member step form shifts executes))
  first differ := by
    have divided : ∃ met ∈ (start.speaking .vx).encounters requests, Divides met := by
      by_contra agreed
      exact differ (runsAlike_of_agreed fun met member divides => agreed ⟨met, member, divides⟩)
    obtain ⟨before, request, after, split, ⟨step, apart⟩, earlier⟩ := exists_first _ _ divided
    cases step
    exact ⟨before, after, split, runsAlike_of_agreed earlier, apart⟩

theorem speaksAlike_of_load {program : List Byte} {random : RandomSource} {trace : Trace}
    (loaded : load program .vx random trace = .ok start) (requests : List Request) :
    load program .vy random trace = .ok (start.speaking .vy) ∧ start.speaking .vx = start ∧
      start.SpeaksAlike requests := by
  cases placed : Memory.ofProgram program with
  | error refused =>
      rw [load, placed] at loaded
      cases loaded
  | ok memory =>
      rw [load, placed] at loaded ⊢
      cases loaded
      exact ⟨rfl, rfl, speaksAlike _ requests⟩

/-- A program that shifts twice: first two registers with one value, then they differ. -/
theorem speaksAlike_of_shifting :
    let program : List Byte := [0x61, 0x05, 0x62, 0x05, 0x81, 0x26, 0x81, 0x26]
    let start : Machine :=
      { memory := Memory.withFont.writeBlock Memory.programStart program, programSize := 8 }
    let three : List Request := [.step, .step, .step]
    load program .vx .zeros .silent = .ok start ∧
      load program .vy .zeros .silent = .ok (start.speaking .vy) ∧ start.RunsAlike three ∧
      (start.serveAll three).ShiftsApart ∧ ¬ start.RunsAlike (three ++ [.step]) := by
  intro program start three
  have loaded : load program .vx .zeros .silent = .ok start := rfl
  obtain ⟨other, _, speaks⟩ := speaksAlike_of_load loaded three
  have agreed : ∀ met ∈ (start.speaking .vx).encounters three, ¬ Divides met := by
    decide +kernel
  refine ⟨loaded, other, speaks.agreed agreed, ?_, ?_⟩
  · decide +kernel
  · intro alike
    have same := alike.after _ (List.prefix_refl _)
    have flags := congrArg (fun machine : Machine => machine.registers.get 0xF) same
    revert flags
    decide +kernel

end Machine

end Chip8
