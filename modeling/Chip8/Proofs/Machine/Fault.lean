import Chip8.Proofs.Machine.Soundness

namespace Chip8.Machine

variable {machine : Machine}

/-- Why a machine cannot carry out its next instruction. -/
inductive Stuck (machine : Machine) : Fault.Cause → Prop where
  | invalid (uncovered : ∀ form : Form, ¬ form.Covers machine.view.word) :
      Stuck machine .invalidOpcode
  | overflow (covers : Form.call.Covers machine.view.word) (full : machine.registers.sp = 16) :
      Stuck machine .stackOverflow
  | underflow (covers : Form.returnFromCall.Covers machine.view.word)
      (empty : machine.registers.sp = 0) : Stuck machine .stackUnderflow

/-- The error for the word at the program counter. -/
def faultHere (machine : Machine) (cause : Fault.Cause) : MachineError :=
  .fault { cause, opcode := machine.view.word, address := machine.view.pc }

/-- A step that fails does nothing after the fetch. -/
theorem step_of_refusal {form : Form} {error : MachineError} (sound : machine.Sound)
    (running : machine.runState = .running) (covers : form.Covers machine.view.word)
    (refusal : form.Refusal machine.view.word machine.view.pc machine.view.advance error) :
    machine.step = (.error error, machine.fetch) := by
  have follows := sound.step_follows running covers
  obtain ⟨record, count⟩ := step_recorded running
  rw [Form.act_of_refusal refusal] at follows
  obtain ⟨raised, same⟩ := error_of_outcome follows
  have fetched : machine.step.2 = machine.fetch := by
    have first := @fetch_recorded machine
    have uncounted : machine.fetch.instructionCount = machine.instructionCount := by rw [fetch_eq]
    rw [raised] at count
    exact eq_of_undisturbed (same.trans view_fetch.symm)
      { programSize := record.programSize.trans first.programSize.symm
        instructionCount := count.trans uncounted.symm
        lastOpcode := record.lastOpcode.trans first.lastOpcode.symm
        lastAddress := record.lastAddress.trans first.lastAddress.symm
        trace := record.trace.trans first.trace.symm }
  exact Prod.ext raised fetched

theorem step_of_stuck {cause : Fault.Cause} (sound : machine.Sound)
    (running : machine.runState = .running) (stuck : machine.Stuck cause) :
    machine.step = (.error (machine.faultHere cause), machine.fetch) := by
  cases stuck with
  | invalid uncovered => exact step_of_uncovered running uncovered
  | overflow covers full => exact step_of_refusal sound running covers (.overflow full)
  | underflow covers empty => exact step_of_refusal sound running covers (.underflow empty)

theorem stuck_of_step {error : MachineError} (sound : machine.Sound)
    (raised : machine.step.1 = .error error) : machine.runState = .running ∧
      ∃ cause, machine.Stuck cause ∧ error = machine.faultHere cause := by
  cases state : machine.runState with
  | awaitingKey register =>
      rw [step_of_awaiting state] at raised
      cases raised
  | running =>
      refine ⟨rfl, ?_⟩
      by_cases covered : ∃ form : Form, form.Covers machine.view.word
      · obtain ⟨form, covers⟩ := covered
        have follows := sound.step_follows state covers
        rw [outcome, raised] at follows
        cases (Form.refusal_of_act follows.symm).1 with
        | overflow full => exact ⟨_, .overflow covers full, rfl⟩
        | underflow empty => exact ⟨_, .underflow covers empty, rfl⟩
        | delay wide => exact absurd sound.inRange.delay wide
      · rw [step_of_uncovered state (not_exists.mp covered)] at raised
        cases raised
        exact ⟨_, .invalid (not_exists.mp covered), rfl⟩

theorem stuck_iff {cause : Fault.Cause} (sound : machine.Sound)
    (running : machine.runState = .running) :
    machine.step.1 = .error (machine.faultHere cause) ↔ machine.Stuck cause := by
  constructor
  · intro raised
    obtain ⟨_, found, stuck, same⟩ := stuck_of_step sound raised
    cases same
    exact stuck
  · intro stuck
    rw [step_of_stuck sound running stuck]

theorem stuck_overflow_iff (sound : machine.Sound) : machine.Stuck .stackOverflow ↔
    machine.view.word / 4096 = 2 ∧ machine.registers.liveStack.length = 16 := by
  have length := Registers.length_liveStack sound.inRange.sp.1 sound.inRange.sp.2
  constructor
  · rintro (_ | ⟨covers, full⟩)
    exact ⟨Form.covers_call_iff.mp covers, by omega⟩
  · rintro ⟨call, full⟩
    exact .overflow (Form.covers_call_iff.mpr call) (by omega)

theorem stuck_underflow_iff (sound : machine.Sound) : machine.Stuck .stackUnderflow ↔
    machine.view.word = 0x00EE ∧ machine.registers.liveStack = [] := by
  have length := Registers.length_liveStack sound.inRange.sp.1 sound.inRange.sp.2
  constructor
  · rintro (_ | _ | ⟨covers, empty⟩)
    exact ⟨Form.covers_returnFromCall_iff.mp covers, List.eq_nil_of_length_eq_zero (by omega)⟩
  · rintro ⟨back, empty⟩
    rw [empty] at length
    exact .underflow (Form.covers_returnFromCall_iff.mpr back) length.symm

theorem serve_deliverKey (sound : machine.Sound) (value : Int) :
    (machine.runState = .running ∧
      machine.serve (.deliverKey value) = (.error .notAwaitingKey, machine)) ∨
    (machine.runState ≠ .running ∧ ¬ (0 ≤ value ∧ value < 16) ∧
      machine.serve (.deliverKey value) = (.error (.keyRange value), machine)) ∨
    (machine.runState ≠ .running ∧ (0 ≤ value ∧ value < 16) ∧
      (machine.serve (.deliverKey value)).1 = .ok none) := by
  cases state : machine.runState with
  | running =>
      refine Or.inl ⟨rfl, ?_⟩
      rw [serve, deliverKey_of_running state]
      rfl
  | awaitingKey register =>
      have awaits : RunState.awaitingKey register ≠ .running := by simp
      by_cases key : 0 ≤ value ∧ value < 16
      · refine Or.inr (Or.inr ⟨awaits, key, ?_⟩)
        have named := (sound.waiting register state).register
        subst named
        rw [serve, deliverKey_of_key state key]
        rfl
      · refine Or.inr (Or.inl ⟨awaits, key, ?_⟩)
        rw [serve, deliverKey_of_outside state key]
        rfl

/-- When a machine fails a request, with which error, and what is left of it then. -/
structure FailsExactly (machine : Machine) : Prop where
  invalid : machine.runState = .running →
    (machine.step.1 = .error (machine.faultHere .invalidOpcode) ↔
      ∀ form : Form, ¬ form.Covers machine.view.word)
  overflow : machine.runState = .running →
    (machine.step.1 = .error (machine.faultHere .stackOverflow) ↔
      machine.view.word / 4096 = 2 ∧ machine.registers.liveStack.length = 16)
  underflow : machine.runState = .running →
    (machine.step.1 = .error (machine.faultHere .stackUnderflow) ↔
      machine.view.word = 0x00EE ∧ machine.registers.liveStack = [])
  nothingElse : ∀ error, machine.step.1 = .error error →
    ∃ cause ∈ [Fault.Cause.invalidOpcode, .stackOverflow, .stackUnderflow],
      error = machine.faultHere cause
  fetched : ∀ error, machine.step.1 = .error error → machine.step.2 = { machine with
    registers := { machine.registers with pc := (machine.registers.pc + 2) % 4096 }
    lastOpcode := machine.nextWord
    lastAddress := machine.registers.pc
    trace := machine.trace.log Trace.instructionLevel
      (traceLine machine.registers.pc machine.nextWord
        { machine.registers with pc := (machine.registers.pc + 2) % 4096 }) }
  notAwaiting : ∀ value, (machine.serve (.deliverKey value)).1 = .error .notAwaitingKey ↔
    machine.runState = .running
  keyRange : ∀ value, (machine.serve (.deliverKey value)).1 = .error (.keyRange value) ↔
    machine.runState ≠ .running ∧ ¬ (0 ≤ value ∧ value < 16)
  refused : ∀ value error, (machine.serve (.deliverKey value)).1 = .error error →
    (error = .notAwaitingKey ∨ error = .keyRange value) ∧
      (machine.serve (.deliverKey value)).2 = machine

theorem mem_of_stuck {cause : Fault.Cause} (stuck : machine.Stuck cause) :
    cause ∈ [Fault.Cause.invalidOpcode, .stackOverflow, .stackUnderflow] := by
  cases stuck <;> simp

/-- A machine that a host can have fails exactly when it has a reason to, and without a trace. -/
theorem failsExactly_of_reachable (reachable : machine.Reachable) : machine.FailsExactly := by
  have sound := Sound.reachable reachable
  refine
    { invalid := ?_
      overflow := fun running => (stuck_iff sound running).trans (stuck_overflow_iff sound)
      underflow := fun running => (stuck_iff sound running).trans (stuck_underflow_iff sound)
      nothingElse := ?_
      fetched := ?_
      notAwaiting := ?_
      keyRange := ?_
      refused := ?_ }
  · intro running
    rw [stuck_iff sound running]
    constructor
    · rintro ⟨uncovered⟩
      exact uncovered
    · exact .invalid
  · intro error raised
    obtain ⟨_, cause, stuck, same⟩ := stuck_of_step sound raised
    exact ⟨cause, mem_of_stuck stuck, same⟩
  · intro error raised
    obtain ⟨running, cause, stuck, _⟩ := stuck_of_step sound raised
    rw [step_of_stuck sound running stuck]
    exact fetch_eq
  · intro value
    rcases serve_deliverKey sound value with ⟨running, served⟩ | ⟨awaits, outside, served⟩ |
      ⟨awaits, key, served⟩ <;> simp [*]
  · intro value
    rcases serve_deliverKey sound value with ⟨running, served⟩ | ⟨awaits, outside, served⟩ |
      ⟨awaits, key, served⟩ <;> simp [*]
  · intro value error raised
    rcases serve_deliverKey sound value with ⟨running, served⟩ | ⟨awaits, outside, served⟩ |
      ⟨awaits, key, served⟩
    · rw [served] at raised ⊢
      cases raised
      exact ⟨Or.inl rfl, rfl⟩
    · rw [served] at raised ⊢
      cases raised
      exact ⟨Or.inr rfl, rfl⟩
    · rw [served] at raised
      cases raised

theorem failsExactly_of_bareReturn :
    let start : Machine :=
      { memory := Memory.withFont.writeBlock Memory.programStart [0x00, 0xEE], programSize := 2 }
    start.Reachable ∧ start.FailsExactly ∧
      start.step = (.error (start.faultHere .stackUnderflow), start.fetch) := by
  intro start
  have reachable : start.Reachable :=
    ⟨[0x00, 0xEE], .vx, .zeros, .silent, start, [], rfl, rfl⟩
  have high : start.memory.read 0x200 = 0x00 := @read_program [0x00, 0xEE] 0 (by decide) (by decide)
  have low : start.memory.read 0x201 = 0xEE := @read_program [0x00, 0xEE] 1 (by decide) (by decide)
  have word : start.view.word = 0x00EE := start.word_of_reads high low
  have fails : start.FailsExactly := failsExactly_of_reachable reachable
  have raised := (fails.underflow rfl).mpr ⟨word, rfl⟩
  refine ⟨reachable, fails, Prod.ext raised ?_⟩
  rw [fails.fetched _ raised, fetch_eq]

end Chip8.Machine
