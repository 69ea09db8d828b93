import Chip8.Proofs.Opcode.Execution

/-!
# Steps

A step of a running machine fetches a word and carries out the row of the opcode table that covers
it; where no row does, it faults.  Together with the record of the fetch and the count, the row
fixes the whole machine afterwards, so the table is a complete specification of steps.
-/

namespace Chip8.Machine

variable {machine : Machine} {form : Form}

def nextWord (machine : Machine) : Word := machine.memory.readWord machine.registers.pc

structure Recorded (before after : Machine) : Prop where
  programSize : after.programSize = before.programSize
  lastOpcode : after.lastOpcode = before.nextWord
  lastAddress : after.lastAddress = before.registers.pc
  trace : after.trace = before.trace.log Trace.instructionLevel
    (traceLine before.registers.pc before.nextWord
      { before.registers with pc := (before.registers.pc + 2) % 4096 })

theorem fetch_eq : machine.fetch = { machine with
    registers := { machine.registers with pc := (machine.registers.pc + 2) % 4096 }
    lastOpcode := machine.nextWord
    lastAddress := machine.registers.pc
    trace := machine.trace.log Trace.instructionLevel
      (traceLine machine.registers.pc machine.nextWord
        { machine.registers with pc := (machine.registers.pc + 2) % 4096 }) } := by
  have wrapped := Address.toInt_ofInt (machine.registers.pc + 2)
  by_cases accepted : machine.trace.enabled Trace.instructionLevel = true
  · simp only [fetch, jumpTo, Address.next, wrapped, accepted, if_true]
    rfl
  · simp only [fetch, jumpTo, Address.next, wrapped, accepted, Trace.log]
    rfl

theorem fetch_recorded : Recorded machine machine.fetch := by
  rw [fetch_eq]
  exact ⟨rfl, rfl, rfl, rfl⟩

theorem view_fetch : machine.fetch.view = machine.view.advance := by
  rw [fetch_eq]
  rfl

theorem covers_nextWord : form.Covers machine.nextWord.toNat ↔ form.Covers machine.view.word := by
  rw [← toNat_readWord]
  rfl

/-- A success counts as an executed instruction. -/
def counted : Except MachineError StepResult × Machine → Except MachineError StepResult × Machine
  | (.ok result, after) =>
    (.ok result, { after with instructionCount := after.instructionCount + 1 })
  | (.error error, after) => (.error error, after)

theorem isOk_map {Answer Other : Type} (change : Answer → Other)
    (answer : Except MachineError Answer) : (answer.map change).isOk = answer.isOk := by
  cases answer <;> rfl

theorem outcome_counted (performed : Except MachineError StepResult × Machine) :
    outcome (counted performed) = outcome performed := by
  obtain ⟨result, after⟩ := performed
  cases result with
  | error error => rfl
  | ok result => rfl

theorem step_of_covers (running : machine.runState = .running)
    (covers : form.Covers machine.view.word) :
    machine.step = counted (machine.fetch.perform (form.instruction machine.nextWord)) := by
  have decoded := Form.decode_of_covers (covers_nextWord.mpr covers)
  rw [← fetch_recorded.lastOpcode] at decoded ⊢
  simp only [step, running, decoded]
  obtain ⟨result, after⟩ := machine.fetch.perform (form.instruction machine.fetch.lastOpcode)
  cases result with
  | error error => rfl
  | ok result => rfl

theorem step_of_uncovered (running : machine.runState = .running)
    (uncovered : ∀ form : Form, ¬ form.Covers machine.view.word) :
    machine.step = (.error (.fault ⟨.invalidOpcode, machine.view.word, machine.view.pc⟩),
      machine.fetch) := by
  have undecoded : Instruction.decode machine.nextWord = none :=
    Form.decode_eq_none_iff.mpr fun form covers => uncovered form (covers_nextWord.mp covers)
  have fault : machine.fetch.faultOf .invalidOpcode =
      .fault ⟨.invalidOpcode, machine.view.word, machine.view.pc⟩ := by
    rw [faultOf_eq fetch_recorded.lastOpcode, fetch_recorded.lastAddress, ← toNat_readWord]
    rfl
  rw [← fetch_recorded.lastOpcode] at undecoded
  simp only [step, running, undecoded, fault]

theorem step_follows (running : machine.runState = .running)
    (started : 0 ≤ machine.registers.sp) (depth : machine.registers.sp ≤ 16)
    (covers : form.Covers machine.view.word) :
    outcome machine.step = form.act machine.view.word machine.view.pc machine.view.advance := by
  have same : machine.fetch.registers.sp = machine.registers.sp := by rw [fetch_eq]
  rw [step_of_covers running covers, outcome_counted,
    perform_follows (same ▸ started) (same ▸ depth) fetch_recorded.lastOpcode form,
    view_fetch, fetch_recorded.lastAddress, nextWord, toNat_readWord]
  rfl

theorem ok_of_outcome {step : Except MachineError StepResult × Machine} {effect : Effect}
    {view : View} (same : outcome step = (.ok effect, view)) :
    ∃ result, step.1 = .ok result ∧ step.2.view = view := by
  obtain ⟨answer, after⟩ := step
  cases answer with
  | error error => cases same
  | ok result =>
      cases same
      exact ⟨result, rfl, rfl⟩

theorem error_of_outcome {step : Except MachineError StepResult × Machine} {error : MachineError}
    {view : View} (same : outcome step = (.error error, view)) :
    step.1 = .error error ∧ step.2.view = view := by
  obtain ⟨answer, after⟩ := step
  cases answer with
  | ok result => cases same
  | error other =>
      cases same
      exact ⟨rfl, rfl⟩

theorem Recorded.undisturbed {before middle after : Machine} (recorded : Recorded before middle)
    (undisturbed : Undisturbed middle after) : Recorded before after :=
  ⟨undisturbed.programSize.trans recorded.programSize,
    undisturbed.lastOpcode.trans recorded.lastOpcode,
    undisturbed.lastAddress.trans recorded.lastAddress,
    undisturbed.trace.trans recorded.trace⟩

theorem step_recorded (running : machine.runState = .running) :
    Recorded machine machine.step.2 ∧ machine.step.2.instructionCount =
      machine.instructionCount + if machine.step.1.isOk then 1 else 0 := by
  have uncounted : machine.fetch.instructionCount = machine.instructionCount := by rw [fetch_eq]
  by_cases covered : ∃ form : Form, form.Covers machine.view.word
  · obtain ⟨form, covers⟩ := covered
    have undisturbed := @perform_undisturbed machine.fetch (form.instruction machine.nextWord)
    have recorded := fetch_recorded.undisturbed undisturbed
    have count := undisturbed.instructionCount.trans uncounted
    rw [step_of_covers running covers]
    cases performed : machine.fetch.perform (form.instruction machine.nextWord) with
    | mk result after =>
        rw [performed] at recorded count
        cases result with
        | error error => exact ⟨recorded, count⟩
        | ok result => exact ⟨{ recorded with }, congrArg (· + 1) count⟩
  · rw [step_of_uncovered running (not_exists.mp covered)]
    exact ⟨fetch_recorded, uncounted⟩

/-- A view and a record make up the whole machine. -/
theorem eq_of_undisturbed {before after : Machine} (same : after.view = before.view)
    (undisturbed : Undisturbed before after) : after = before := by
  obtain ⟨registers, memory, display, timers, keypad, runState, random, shift⟩ := eq_of_view _ same
  obtain ⟨programSize, instructionCount, lastOpcode, lastAddress, trace⟩ := undisturbed
  cases before
  cases after
  simp_all

theorem step_picture {result : StepResult} {after : Machine}
    (stepped : machine.step = (.ok result, after)) :
    result.display = if result.effect = .redraw then some after.display else none := by
  cases running : machine.runState with
  | awaitingKey register =>
      rw [step, running] at stepped
      cases stepped
      rfl
  | running =>
      by_cases covered : ∃ form : Form, form.Covers machine.view.word
      · obtain ⟨form, covers⟩ := covered
        rw [step_of_covers running covers] at stepped
        cases performed : machine.fetch.perform (form.instruction machine.nextWord) with
        | mk outcome changed =>
            rw [performed] at stepped
            cases outcome with
            | error error => cases stepped
            | ok _ =>
                cases stepped
                have shown := perform_picture performed
                exact shown
      · rw [step_of_uncovered running (not_exists.mp covered)] at stepped
        cases stepped

/-- A step that does what the opcode table says of the word at the program counter, and nothing
else. -/
structure FollowsTable (before : Machine) (step : Except MachineError StepResult × Machine) :
    Prop where
  dispatch : ∀ form : Form, form.Covers before.view.word ↔
    (Instruction.decode step.2.lastOpcode).map Form.ofInstruction = some form
  single : ∀ form other : Form, form.Covers before.view.word → other.Covers before.view.word →
    form = other
  row : ∀ form : Form, form.Covers before.view.word →
    (step.1.map StepResult.effect, step.2.view) =
      form.act before.view.word before.view.pc before.view.advance
  /-- Without a row there is a fault, and only the program counter has moved. -/
  noRow : (∀ form : Form, ¬ form.Covers before.view.word) →
    step.1 = .error (.fault ⟨.invalidOpcode, before.view.word, before.view.pc⟩) ∧
      step.2.view = before.view.advance
  /-- This fault has no other reason. -/
  invalid : (∃ opcode address, step.1 = .error (.fault ⟨.invalidOpcode, opcode, address⟩)) ↔
    ∀ form : Form, ¬ form.Covers before.view.word
  picture : ∀ result : StepResult, step.1 = .ok result →
    result.display = if result.effect = .redraw then some step.2.display else none
  record : Recorded before step.2
  count : step.2.instructionCount = before.instructionCount + if step.1.isOk then 1 else 0

theorem invalid_iff_uncovered (running : machine.runState = .running)
    (started : 0 ≤ machine.registers.sp) (depth : machine.registers.sp ≤ 16) :
    (∃ opcode address, machine.step.1 = .error (.fault ⟨.invalidOpcode, opcode, address⟩)) ↔
      ∀ form : Form, ¬ form.Covers machine.view.word := by
  constructor
  · rintro ⟨opcode, address, raised⟩ form covers
    have follows := step_follows running started depth covers
    rw [outcome, raised] at follows
    obtain ⟨refusal, _⟩ := Form.refusal_of_act follows.symm
    cases refusal
  · intro uncovered
    rw [step_of_uncovered running uncovered]
    exact ⟨_, _, rfl⟩

theorem step_followsTable (running : machine.runState = .running)
    (started : 0 ≤ machine.registers.sp) (depth : machine.registers.sp ≤ 16) :
    FollowsTable machine machine.step := by
  obtain ⟨record, count⟩ := step_recorded running
  refine
    { dispatch := ?_
      single := ?_
      row := fun form covers => step_follows running started depth covers
      noRow := ?_
      invalid := invalid_iff_uncovered running started depth
      picture := fun result stepped => step_picture (Prod.ext stepped rfl)
      record
      count }
  · intro form
    rw [record.lastOpcode, ← covers_nextWord]
    exact Form.covers_iff
  · intro form other covers also
    exact Form.Covers.unique (covers_nextWord.mpr covers) (covers_nextWord.mpr also)
  · intro uncovered
    rw [step_of_uncovered running uncovered]
    exact ⟨rfl, view_fetch⟩

theorem step_followsTable_carry :
    let machine : Machine :=
      { memory := (Memory.zero.write 0x200 0x8F).write 0x201 0xF4
        programSize := 2
        registers := { v := Vector.replicate 16 0x81 } }
    machine.runState = .running ∧ 0 ≤ machine.registers.sp ∧ machine.registers.sp ≤ 16 ∧
      Form.add.Covers machine.view.word ∧ FollowsTable machine machine.step ∧
      machine.step.2.view.v 0xF = 1 := by
  intro machine
  have high : machine.memory.read 0x200 = 0x8F := by
    rw [Memory.read_write, if_neg (by decide), Memory.read_write, if_pos rfl]
    rfl
  have low : machine.memory.read 0x201 = 0xF4 := by
    rw [Memory.read_write, if_pos rfl]
    rfl
  have word : machine.view.word = 0x8FF4 := machine.word_of_reads high low
  have covers : Form.add.Covers machine.view.word := by
    rw [word]
    decide
  have follows : FollowsTable machine machine.step :=
    step_followsTable rfl (by decide) (by decide)
  refine ⟨rfl, by decide, by decide, covers, follows, ?_⟩
  have after : machine.step.2.view = _ := congrArg Prod.snd (follows.row .add covers)
  rw [after, word]
  rfl

end Chip8.Machine
