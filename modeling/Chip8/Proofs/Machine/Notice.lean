import Chip8.Proofs.Machine.Abstraction
import Chip8.Proofs.Opcode.Frame

namespace Chip8.Machine

open View (Part Retouch)

inductive Notice where
  | tick
  | keys (mask : Int)
  deriving DecidableEq, Repr

namespace Notice

def request : Notice → Request
  | tick => .decrementTimers
  | keys mask => .setKeypad mask

def forms : Notice → List Form
  | tick => [.readDelay, .setDelay, .setSound]
  | keys _ => [.skipIfKey, .skipUnlessKey]

def change : Notice → Retouch
  | tick => { delay := Timers.countDown, sound := Timers.countDown }
  | keys mask => { held := fun _ => (KeySet.ofInt mask).has }

theorem spares {notice : Notice} {form : Form} (other : form ∉ notice.forms) :
    notice.change.Spares form := by
  cases notice with
  | tick =>
      refine ⟨fun _ => rfl, fun looks => absurd ?_ other, fun looks => absurd ?_ other,
        fun _ => rfl⟩
      · exact List.mem_append_left Part.sound.rows looks
      · exact List.mem_append_right Part.delay.rows looks
  | keys mask =>
      exact ⟨fun _ => rfl, fun _ => rfl, fun _ => rfl, fun looks => absurd looks other⟩

end Notice

variable {machine : Machine} {notice : Notice}

def told (machine : Machine) (notice : Notice) : Machine := (machine.serve notice.request).2

/-- The next step executes no instruction that looks at what is told. -/
def Ignores (machine : Machine) (notice : Notice) : Prop :=
  machine.awaiting = true ∨ ∀ form ∈ notice.forms, ¬ form.Covers machine.view.word

theorem view_told : (machine.told notice).view = notice.change.apply machine.view := by
  cases notice <;> rfl

theorem told_undisturbed : Undisturbed machine (machine.told notice) := by
  cases notice <;> exact ⟨rfl, rfl, rfl, rfl, rfl⟩

theorem registers_told : (machine.told notice).registers = machine.registers := by
  cases notice <;> rfl

theorem runState_told : (machine.told notice).runState = machine.runState :=
  congrArg View.runState view_told

theorem word_told : (machine.told notice).view.word = machine.view.word := by
  rw [view_told]
  rfl

theorem nextWord_told : (machine.told notice).nextWord = machine.nextWord := by
  cases notice <;> rfl

theorem ignores_told_iff : (machine.told notice).Ignores notice ↔ machine.Ignores notice := by
  rw [Ignores, Ignores, word_told, awaiting, awaiting, runState_told]

theorem outcome_told (sound : machine.Sound) (running : machine.runState = .running)
    (ignores : ∀ form ∈ notice.forms, ¬ form.Covers machine.view.word) :
    outcome (machine.told notice).step =
      ((outcome machine.step).1, notice.change.apply (outcome machine.step).2) := by
  have told : (machine.told notice).Sound := sound.serve notice.request
  have state : (machine.told notice).runState = .running := runState_told.trans running
  have advanced : (machine.told notice).view.advance = notice.change.apply machine.view.advance := by
    rw [view_told]
    rfl
  have counter : (machine.told notice).view.pc = machine.view.pc := congrArg Registers.pc registers_told
  by_cases covered : ∃ form : Form, form.Covers machine.view.word
  · obtain ⟨form, covers⟩ := covered
    have spares : notice.change.Spares form :=
      Notice.spares fun looks => ignores form looks covers
    rw [told.step_follows state (word_told ▸ covers), sound.step_follows running covers, word_told,
      counter, advanced, Form.act_retouch spares]
  · have uncovered := not_exists.mp covered
    rw [step_of_uncovered running uncovered,
      step_of_uncovered state (by rw [word_told]; exact uncovered), word_told, counter]
    simp only [outcome, view_fetch, advanced]

theorem step_told_undisturbed (running : machine.runState = .running)
    (same : (machine.told notice).step.1.isOk = machine.step.1.isOk) :
    Undisturbed (machine.step.2.told notice) (machine.told notice).step.2 := by
  obtain ⟨record, count⟩ := step_recorded running
  obtain ⟨toldRecord, toldCount⟩ :=
    @step_recorded (machine.told notice) (runState_told.trans running)
  have before := @told_undisturbed machine notice
  have after := @told_undisturbed machine.step.2 notice
  refine ⟨?_, ?_, ?_, ?_, ?_⟩
  · rw [toldRecord.programSize, before.programSize, after.programSize, record.programSize]
  · rw [toldCount, same, before.instructionCount, after.instructionCount, count]
  · rw [toldRecord.lastOpcode, nextWord_told, after.lastOpcode, record.lastOpcode]
  · rw [toldRecord.lastAddress, registers_told, after.lastAddress, record.lastAddress]
  · rw [toldRecord.trace, nextWord_told, registers_told, before.trace, after.trace, record.trace]

theorem serve_told (sound : machine.Sound) (ignores : machine.Ignores notice) :
    (machine.told notice).serve .step =
      ((machine.serve .step).1, (machine.serve .step).2.told notice) := by
  cases state : machine.runState with
  | awaitingKey register =>
      rw [serve, serve, step_of_awaiting state, step_of_awaiting (runState_told.trans state)]
  | running =>
      have awake : machine.awaiting ≠ true := by simp [awaiting, state]
      have outcomes := outcome_told sound state (ignores.resolve_left awake)
      have effects : (machine.told notice).step.1.map StepResult.effect =
          machine.step.1.map StepResult.effect := congrArg Prod.fst outcomes
      have views : (machine.told notice).step.2.view = (machine.step.2.told notice).view :=
        (congrArg Prod.snd outcomes).trans view_told.symm
      have success : (machine.told notice).step.1.isOk = machine.step.1.isOk := by
        rw [← isOk_map StepResult.effect, effects, isOk_map]
      -- The view is not the whole machine: the record beside it has to agree as well.
      have after : (machine.told notice).step.2 = machine.step.2.told notice :=
        eq_of_undisturbed views (step_told_undisturbed state success)
      have picture : (machine.told notice).step.2.display = machine.step.2.display := by
        rw [after]
        cases notice <;> rfl
      refine Prod.ext (answer_eq_of_reply ?_ picture) after
      rw [reply_step, reply_step, effects]

def IgnoresFor (machine : Machine) (notice : Notice) (steps : Nat) : Prop :=
  ∀ earlier < steps, (machine.serveAll (List.replicate earlier .step)).Ignores notice

theorem ignoresFor_succ_iff {steps : Nat} : machine.IgnoresFor notice (steps + 1) ↔
    machine.Ignores notice ∧ (machine.serve .step).2.IgnoresFor notice steps := by
  constructor
  · intro ignores
    refine ⟨ignores 0 (Nat.succ_pos steps), ?_⟩
    intro earlier before
    exact ignores (earlier + 1) (Nat.succ_lt_succ before)
  · rintro ⟨first, rest⟩ earlier before
    cases earlier with
    | zero => exact first
    | succ earlier => exact rest earlier (Nat.lt_of_succ_lt_succ before)

theorem ignoresFor_told_iff {steps : Nat} (sound : machine.Sound) :
    (machine.told notice).IgnoresFor notice steps ↔ machine.IgnoresFor notice steps := by
  induction steps generalizing machine with
  | zero => simp [IgnoresFor]
  | succ steps ih =>
      rw [ignoresFor_succ_iff, ignoresFor_succ_iff, ignores_told_iff]
      refine and_congr_right fun ignores => ?_
      rw [serve_told sound ignores]
      exact ih (sound.serve .step)

theorem steps_told {steps : Nat} (sound : machine.Sound) (ignores : machine.IgnoresFor notice steps) :
    (machine.told notice).answers (List.replicate steps .step) =
        machine.answers (List.replicate steps .step) ∧
      (machine.told notice).serveAll (List.replicate steps .step) =
        (machine.serveAll (List.replicate steps .step)).told notice := by
  induction steps generalizing machine with
  | zero => exact ⟨rfl, rfl⟩
  | succ steps ih =>
      obtain ⟨first, rest⟩ := ignoresFor_succ_iff.mp ignores
      obtain ⟨answers, after⟩ := ih (sound.serve .step) rest
      rw [List.replicate_succ, answers_cons, answers_cons, serveAll_cons, serveAll_cons,
        serve_told sound first, answers, after]
      exact ⟨rfl, rfl⟩

/-- A notice may come before or after steps that ignore it, in any schedule of requests. -/
structure MovesFreely (machine : Machine) (notice : Notice) : Prop where
  step : machine.Ignores notice →
    ((machine.serve .step).2.serve notice.request).2 =
        ((machine.serve notice.request).2.serve .step).2 ∧
      (machine.serve .step).1 = ((machine.serve notice.request).2.serve .step).1
  ignored : ∀ before steps,
    ((machine.serveAll before).serve notice.request).2.IgnoresFor notice steps ↔
      (machine.serveAll before).IgnoresFor notice steps
  /-- The run ends in the same machine, and all other requests get the same answers. -/
  schedule : ∀ before steps after, (machine.serveAll before).IgnoresFor notice steps →
    let early := before ++ notice.request :: (List.replicate steps .step ++ after)
    let late := before ++ (List.replicate steps .step ++ notice.request :: after)
    machine.serveAll early = machine.serveAll late ∧
      ∃ first ran rest, first.length = before.length ∧ ran.length = steps ∧
        machine.answers early = first ++ .ok none :: (ran ++ rest) ∧
        machine.answers late = first ++ (ran ++ .ok none :: rest)

theorem serve_request : machine.serve notice.request = (.ok none, machine.told notice) := by
  cases notice <;> rfl

theorem movesFreely_of_reachable (reachable : machine.Reachable) (notice : Notice) :
    machine.MovesFreely notice := by
  have sound := Sound.reachable reachable
  refine ⟨?_, ?_, ?_⟩
  · intro ignores
    rw [serve_request, serve_request, serve_told sound ignores]
    exact ⟨rfl, rfl⟩
  · intro before steps
    exact ignoresFor_told_iff (sound.serveAll before)
  · intro before steps after ignores early late
    obtain ⟨answers, moved⟩ := steps_told (sound.serveAll before) ignores
    have told : ((machine.serveAll before).serve notice.request).2 =
        (machine.serveAll before).told notice := rfl
    constructor
    · rw [serveAll_append, serveAll_append, serveAll_append, serveAll_cons, serveAll_cons,
        serveAll_append, told, moved]
      rfl
    · refine ⟨machine.answers before, (machine.serveAll before).answers (List.replicate steps .step),
        ((machine.serveAll before).serveAll (List.replicate steps .step)).told notice |>.answers after,
        length_answers before, ?_, ?_, ?_⟩
      · rw [length_answers, List.length_replicate]
      · rw [answers_append, answers_cons, answers_append, told, answers, moved, serve_request]
      · rw [answers_append, answers_append, answers_cons, serve_request]

theorem movesFreely_of_loadByte :
    let start : Machine :=
      { memory := Memory.withFont.writeBlock Memory.programStart [0x61, 0x05], programSize := 2 }
    start.Reachable ∧ start.MovesFreely (.keys (-1)) ∧ start.Ignores (.keys (-1)) ∧
      start.serveAll [.setKeypad (-1), .step] = start.serveAll [.step, .setKeypad (-1)] := by
  intro start
  have reachable : start.Reachable :=
    ⟨[0x61, 0x05], .vx, .zeros, .silent, start, [], rfl, rfl⟩
  have high : start.memory.read 0x200 = 0x61 := @read_program [0x61, 0x05] 0 (by decide) (by decide)
  have low : start.memory.read 0x201 = 0x05 := @read_program [0x61, 0x05] 1 (by decide) (by decide)
  have word : start.view.word = 0x6105 := start.word_of_reads high low
  have ignores : start.Ignores (.keys (-1)) := by
    refine Or.inr ?_
    rw [word]
    decide
  have moves : start.MovesFreely (.keys (-1)) := movesFreely_of_reachable reachable (.keys (-1))
  exact ⟨reachable, moves, ignores, (moves.step ignores).1.symm⟩

end Chip8.Machine
