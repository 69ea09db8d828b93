import Chip8.Proofs.Machine.Request
import Chip8.Proofs.Opcode.Range

namespace Chip8.Machine

variable {machine : Machine}

/-- A wait for a key that goes to `register`: the last fetch found the instruction that began it,
and execution will go on behind that instruction. -/
structure Waiting (machine : Machine) (register : Int) : Prop where
  fetched : Form.awaitKey.Covers machine.lastOpcode.toNat
  register : register = machine.lastOpcode.x.toNat
  resumes : machine.registers.pc = (machine.lastAddress + 2) % 4096

/-- What the requests of a host preserve. -/
structure Sound (machine : Machine) : Prop where
  inRange : machine.view.InRange
  waiting : ∀ register, machine.runState = .awaitingKey register → machine.Waiting register

namespace Sound

theorem of_running (inRange : machine.view.InRange) (running : machine.runState = .running) :
    machine.Sound := by
  refine ⟨inRange, ?_⟩
  intro register awaiting
  rw [running] at awaiting
  cases awaiting

theorem load {program : List Byte} {shift : ShiftDialect} {random : RandomSource} {trace : Trace}
    {start : Machine} (loaded : Machine.load program shift random trace = .ok start) :
    start.Sound := by
  obtain ⟨memory, rfl⟩ := load_eq loaded
  have zero : (0 : Int) ≤ 0 ∧ (0 : Int) < 256 := by decide
  refine of_running ?_ rfl
  refine
    { pc := (by decide : (0 : Int) ≤ 0x200 ∧ (0x200 : Int) < 4096)
      index := (by decide : (0 : Int) ≤ 0 ∧ (0 : Int) < 65536)
      sp := (by decide : (0 : Int) ≤ 0 ∧ (0 : Int) ≤ 16)
      stack := ?_
      delay := zero
      sound := zero }
  intro slot
  have empty : (Vector.replicate 16 (0 : Int)).get slot = 0 := Vector.getElem_replicate slot.isLt
  simp only [view, empty]
  decide

theorem step_follows {form : Form} (sound : machine.Sound) (running : machine.runState = .running)
    (covers : form.Covers machine.view.word) :
    outcome machine.step = form.act machine.view.word machine.view.pc machine.view.advance :=
  Machine.step_follows running sound.inRange.sp.1 sound.inRange.sp.2 covers

theorem step_running (sound : machine.Sound) (running : machine.runState = .running) :
    machine.step.2.Sound := by
  by_cases covered : ∃ form : Form, form.Covers machine.view.word
  · obtain ⟨form, covers⟩ := covered
    have after : machine.step.2.view = _ :=
      congrArg Prod.snd (sound.step_follows running covers)
    have inRange : machine.step.2.view.InRange := by
      rw [after]
      exact Form.act_inRange form sound.inRange.advance machine.view_v_lt
    -- A wait is tied to the fetch of the step that begins it; no other row begins one.
    by_cases awaits : form = .awaitKey
    · subst awaits
      have record := (step_recorded running).1
      refine ⟨inRange, ?_⟩
      intro register awaiting
      have state : machine.step.2.view.runState = .awaitingKey register := awaiting
      have counter : machine.step.2.view.pc = machine.view.advance.pc := by rw [after]; rfl
      rw [after] at state
      cases state
      refine ⟨?_, ?_, ?_⟩
      · rw [record.lastOpcode]
        exact covers_nextWord.mpr covers
      · rw [record.lastOpcode, ← toNat_readWord, ← Word.toFin_x]
        rfl
      · rw [record.lastAddress]
        exact counter
    · refine of_running inRange ?_
      have state : machine.step.2.view.runState = machine.view.advance.runState := by
        rw [after]
        exact Form.runState_of_act awaits
      exact state.trans running
  · rw [step_of_uncovered running (not_exists.mp covered)]
    refine of_running ?_ ?_
    · rw [view_fetch]
      exact sound.inRange.advance
    · rw [fetch_eq]
      exact running

theorem decrementTimers (sound : machine.Sound) : machine.decrementTimers.Sound := by
  have delay := sound.inRange.delay
  have counter := sound.inRange.sound
  refine ⟨{ sound.inRange with delay := ?_, sound := ?_ }, ?_⟩
  · simp only [view, Machine.decrementTimers, Timers.decrement, Timers.countDown] at delay ⊢
    omega
  · simp only [view, Machine.decrementTimers, Timers.decrement, Timers.countDown] at counter ⊢
    omega
  · intro register awaiting
    exact { sound.waiting register awaiting with }

theorem setKeypad (sound : machine.Sound) (keys : KeySet) : (machine.setKeypad keys).Sound :=
  ⟨{ sound.inRange with }, fun register awaiting => { sound.waiting register awaiting with }⟩

theorem deliverKey (sound : machine.Sound) (value : Int) :
    (machine.deliverKey value).2.Sound := by
  cases state : machine.runState with
  | running =>
      rw [deliverKey_of_running state]
      exact sound
  | awaitingKey register =>
      by_cases key : 0 ≤ value ∧ value < 16
      · have named := (sound.waiting register state).register
        subst named
        rw [deliverKey_of_key state key]
        exact of_running { sound.inRange with } rfl
      · rw [deliverKey_of_outside state key]
        exact sound

theorem serve (sound : machine.Sound) (request : Request) : (machine.serve request).2.Sound := by
  cases request with
  | step =>
      cases state : machine.runState with
      | running => exact sound.step_running state
      | awaitingKey register =>
          rw [Machine.serve, step_of_awaiting state]
          exact sound
  | decrementTimers => exact sound.decrementTimers
  | setKeypad mask => exact sound.setKeypad _
  | deliverKey value => exact sound.deliverKey value

theorem serveAll (sound : machine.Sound) (requests : List Request) :
    (machine.serveAll requests).Sound :=
  serveAll_preserves (fun _ request sound => sound.serve request) sound requests

theorem reachable (reachable : machine.Reachable) : machine.Sound := by
  obtain ⟨program, shift, random, trace, start, requests, loaded, rfl⟩ := reachable
  exact (load loaded).serveAll requests

end Sound

end Chip8.Machine
