import Chip8.Proofs.Machine.Abstraction
import Chip8.Proofs.Machine.TraceLine
import Chip8.Proofs.Opcode.Frame

/-!
# The width of the index register

The index register has sixteen bits, but an address has twelve and every access drops the others.
Machines whose index registers name one cell cannot be told apart, except by a trace that writes
the index register out; so twelve bits would do.
-/

namespace Chip8

open View (Part Retouch)

namespace View

variable {first second view : View} {index : Int}

/-- Views that differ at most in the index register, which names the same cell. -/
def SameCell (first second : View) : Prop :=
  ∃ index, second = { first with index } ∧ index % 4096 = first.index % 4096

theorem cellAt_add {base other : Int} (same : base % 4096 = other % 4096) (offset : Int) :
    cellAt (base + offset) = cellAt (other + offset) := by
  apply Fin.ext
  simp only [cellAt]
  omega

theorem fetched_sameCell (same : index % 4096 = view.index % 4096) (offset : Int) :
    ({ view with index } : View).fetched offset = view.fetched offset :=
  congrArg view.cell (cellAt_add same offset)

theorem store_sameCell (same : index % 4096 = view.index % 4096) (block : List Nat) :
    ({ view with index } : View).store block = { view.store block with index } := by
  have distance : ∀ address : Fin 4096,
      (address - index) % 4096 = (address - view.index) % 4096 := by omega
  simp only [store, distance]

theorem struck_sameCell (same : index % 4096 = view.index % 4096) (left top rows : Nat) :
    ({ view with index } : View).struck left top rows = view.struck left top rows := by
  funext x y
  simp only [struck, fetched_sameCell same]

theorem act_sameCell_of_other {form : Form} {word : Nat} {address : Int}
    (other : form ∉ Part.index.rows) (same : index % 4096 = view.index % 4096) :
    (form.act word address view).1 = (form.act word address { view with index }).1 ∧
      (form.act word address view).2.SameCell (form.act word address { view with index }).2 := by
  have rewritten (value : Int) : form.act word address { view with index := value } =
      ((form.act word address view).1, { (form.act word address view).2 with index := value }) :=
    @Form.act_retouch form { index := fun _ => value }
      ⟨fun row => absurd row other, fun _ => rfl, fun _ => rfl, fun _ => rfl⟩ word address view
  have kept : (form.act word address view).2.index = view.index :=
    congrArg (fun outcome => outcome.2.index) (rewritten view.index)
  rw [rewritten index]
  exact ⟨rfl, index, rfl, by rw [kept, same]⟩

theorem act_sameCell (form : Form) (word : Nat) (address : Int) (tied : first.SameCell second) :
    (form.act word address first).1 = (form.act word address second).1 ∧
      (form.act word address first).2.SameCell (form.act word address second).2 := by
  obtain ⟨index, rfl, same⟩ := tied
  cases form with
  | loadIndex | loadGlyph => exact ⟨rfl, _, rfl, rfl⟩
  | addIndex =>
      refine ⟨rfl, _, rfl, ?_⟩
      simp only [Form.act]
      omega
  | draw =>
      refine ⟨rfl, index, ?_, same⟩
      simp only [Form.act, struck_sameCell same]
      rfl
  | storeDecimal | saveRegisters =>
      refine ⟨rfl, index, ?_, same⟩
      simp only [Form.act, store_sameCell same]
  | loadRegisters =>
      refine ⟨rfl, index, ?_, same⟩
      simp only [Form.act, fetched_sameCell same]
  | _ => exact act_sameCell_of_other (by decide) same

theorem sameCell_isCongruence : IsCongruence SameCell where
  word := by
    rintro first second ⟨index, rfl, same⟩
    rfl
  pc := by
    rintro first second ⟨index, rfl, same⟩
    rfl
  runState := by
    rintro first second ⟨index, rfl, same⟩
    rfl
  pixel := by
    rintro first second ⟨index, rfl, same⟩
    rfl
  advance := by
    rintro first second ⟨index, rfl, same⟩
    exact ⟨index, rfl, same⟩
  row := fun form word address _ _ tied => act_sameCell form word address tied
  timers := by
    rintro first second ⟨index, rfl, same⟩
    exact ⟨index, rfl, same⟩
  keypad := by
    rintro first second mask ⟨index, rfl, same⟩
    exact ⟨index, rfl, same⟩
  key := by
    rintro first second x value ⟨index, rfl, same⟩
    exact ⟨index, rfl, same⟩

end View

namespace Machine

variable {machine first second : Machine}

/-- Machines that agree in everything but the index register, which names the same cell, and the
trace. -/
structure SameCell (first second : Machine) : Prop where
  index : second.registers.index % 4096 = first.registers.index % 4096
  rest : second = { first with
    registers := { first.registers with index := second.registers.index }
    trace := second.trace }

namespace SameCell

theorem view (tied : first.SameCell second) : first.view.SameCell second.view :=
  ⟨second.registers.index, congrArg Machine.view tied.rest, tied.index⟩

theorem undisturbed (tied : first.SameCell second) :
    Undisturbed { first with trace := second.trace } second := by
  rw [tied.rest]
  exact ⟨rfl, rfl, rfl, rfl, rfl⟩

theorem of_view (seen : first.view.SameCell second.view)
    (record : Undisturbed { first with trace := second.trace } second) : first.SameCell second := by
  obtain ⟨index, shown, same⟩ := seen
  have named : second.registers.index = index := congrArg View.index shown
  subst named
  exact ⟨same, eq_of_undisturbed shown { record with }⟩

theorem serve_undisturbed (tied : first.SameCell second) (request : Request)
    (same : (first.serve request).1 = (second.serve request).1) :
    Undisturbed { (first.serve request).2 with trace := (second.serve request).2.trace }
      (second.serve request).2 := by
  have before := tied.undisturbed
  cases request with
  | decrementTimers | setKeypad mask => exact { before with }
  | step =>
      have states : second.runState = first.runState := by rw [tied.rest]
      cases state : first.runState with
      | awaitingKey register =>
          rw [serve, serve, step_of_awaiting state, step_of_awaiting (states.trans state)]
          exact before
      | running =>
          obtain ⟨record, count⟩ := step_recorded state
          obtain ⟨record', count'⟩ := step_recorded (states.trans state)
          have word : second.nextWord = first.nextWord := by rw [tied.rest]; rfl
          have counter : second.registers.pc = first.registers.pc := by rw [tied.rest]
          have success : second.step.1.isOk = first.step.1.isOk := by
            rw [← isOk_map some second.step.1, ← isOk_map some first.step.1]
            exact congrArg Except.isOk same.symm
          refine ⟨?_, ?_, ?_, ?_, rfl⟩
          · exact record'.programSize.trans (before.programSize.trans record.programSize.symm)
          · exact count'.trans (by rw [success, before.instructionCount]; exact count.symm)
          · exact record'.lastOpcode.trans (word.trans record.lastOpcode.symm)
          · exact record'.lastAddress.trans (counter.trans record.lastAddress.symm)
  | deliverKey value =>
      have left := @deliverKey_undisturbed first value
      have right := @deliverKey_undisturbed second value
      refine ⟨?_, ?_, ?_, ?_, rfl⟩
      · exact right.programSize.trans (before.programSize.trans left.programSize.symm)
      · exact right.instructionCount.trans
          (before.instructionCount.trans left.instructionCount.symm)
      · exact right.lastOpcode.trans (before.lastOpcode.trans left.lastOpcode.symm)
      · exact right.lastAddress.trans (before.lastAddress.trans left.lastAddress.symm)

theorem serve (left : first.Sound) (right : second.Sound) (tied : first.SameCell second)
    (request : Request) : (first.serve request).1 = (second.serve request).1 ∧
      (first.serve request).2.SameCell (second.serve request).2 := by
  obtain ⟨same, seen⟩ :=
    serve_of_congruence View.sameCell_isCongruence left right tied.view request
  exact ⟨same, of_view seen (tied.serve_undisturbed request same)⟩

theorem serveAll (left : first.Sound) (right : second.Sound) (tied : first.SameCell second)
    (requests : List Request) : first.answers requests = second.answers requests ∧
      (first.serveAll requests).SameCell (second.serveAll requests) := by
  induction requests generalizing first second with
  | nil => exact ⟨rfl, tied⟩
  | cons request rest ih =>
      obtain ⟨same, after⟩ := tied.serve left right request
      obtain ⟨answers, final⟩ := ih (left.serve request) (right.serve request) after
      rw [answers_cons, answers_cons, same, answers]
      exact ⟨rfl, final⟩

end SameCell

theorem serve_trace_of_blind (blind : machine.trace.Blind) (request : Request) :
    (machine.serve request).2.trace = machine.trace := by
  cases request with
  | decrementTimers | setKeypad mask => rfl
  | deliverKey value => exact (deliverKey_undisturbed value).trace
  | step =>
      rw [serve]
      cases state : machine.runState with
      | awaitingKey register => rw [step_of_awaiting state]
      | running => exact (step_recorded state).1.trace.trans (blind _)

theorem serveAll_trace_of_blind (blind : machine.trace.Blind) (requests : List Request) :
    (machine.serveAll requests).trace = machine.trace := by
  induction requests generalizing machine with
  | nil => rfl
  | cons request rest ih =>
      have kept := serve_trace_of_blind blind request
      exact (ih (kept ▸ blind)).trans kept

/-- Equal traces stay equal: they drop their lines, or the machines were equal to begin with. -/
theorem SameCell.serveAll_trace (left : first.Traced) (right : second.Traced)
    (tied : first.SameCell second) (trace : second.trace = first.trace) (requests : List Request) :
    (second.serveAll requests).trace = (first.serveAll requests).trace := by
  have record := tied.undisturbed
  obtain ⟨index, seen, _⟩ := tied.view
  rcases left.index_eq right record.instructionCount record.lastOpcode record.lastAddress
    (by rw [seen]) trace with blind | index
  · rw [serveAll_trace_of_blind blind, serveAll_trace_of_blind (trace ▸ blind), trace]
  · have equal : second = first := by
      have rest := tied.rest
      rw [index, trace] at rest
      exact rest
    rw [equal]

/-- The machine with only twelve bits of its index register. -/
def narrow (machine : Machine) : Machine :=
  { machine with registers := { machine.registers with index := machine.registers.index % 4096 } }

/-- The answers of a machine that drops the other bits after each request, and the machine
afterwards. -/
def runNarrow (machine : Machine) :
    List Request → List (Except MachineError (Option StepResult)) × Machine
  | [] => ([], machine.narrow)
  | request :: rest =>
    let served := machine.narrow.serve request
    let (answers, after) := served.2.runNarrow rest
    (served.1 :: answers, after)

theorem Sound.narrow (sound : machine.Sound) : machine.narrow.Sound := by
  have index : 0 ≤ machine.registers.index % 4096 ∧ machine.registers.index % 4096 < 65536 := by
    omega
  exact ⟨{ sound.inRange with index }, fun register awaiting =>
    { sound.waiting register awaiting with }⟩

theorem SameCell.narrow (tied : first.SameCell second) : first.SameCell second.narrow := by
  refine ⟨?_, ?_⟩
  · exact (Int.emod_emod_of_dvd _ (Int.dvd_refl 4096)).trans tied.index
  · rw [tied.rest]
    rfl

theorem runNarrow_sameCell (left : first.Sound) (right : second.Sound)
    (tied : first.SameCell second) (requests : List Request) :
    (second.runNarrow requests).1 = first.answers requests ∧
      (first.serveAll requests).SameCell (second.runNarrow requests).2 := by
  induction requests generalizing first second with
  | nil => exact ⟨rfl, tied.narrow⟩
  | cons request rest ih =>
      obtain ⟨same, after⟩ := tied.narrow.serve left right.narrow request
      obtain ⟨answers, final⟩ := ih (left.serve request) (right.narrow.serve request) after
      rw [answers_cons, same, ← answers]
      exact ⟨rfl, final⟩

theorem index_runNarrow (requests : List Request) :
    (machine.runNarrow requests).2.registers.index =
      (machine.runNarrow requests).2.registers.index % 4096 := by
  induction requests generalizing machine with
  | nil => exact (Int.emod_emod_of_dvd _ (Int.dvd_refl 4096)).symm
  | cons request rest ih => exact ih

/-- Two machines serve a run of requests in the same way, whatever the upper bits of their index
registers are. -/
structure ServeAlike (first second : Machine) (requests : List Request) : Prop where
  answers : first.answers requests = second.answers requests
  after : ∀ part, part <+: requests → (first.serveAll part).SameCell (second.serveAll part)
  trace : second.trace = first.trace → ∀ part, part <+: requests →
    (second.serveAll part).trace = (first.serveAll part).trace
  /-- With only twelve bits the answers are the same, and so is all that is left but the others. -/
  narrow : (first.runNarrow requests).1 = first.answers requests ∧
    (first.serveAll requests).SameCell (first.runNarrow requests).2 ∧
    0 ≤ (first.runNarrow requests).2.registers.index ∧
    (first.runNarrow requests).2.registers.index < 4096

theorem serveAlike_of_sameCell (left : first.Reachable) (right : second.Reachable)
    (tied : first.SameCell second) (requests : List Request) :
    first.ServeAlike second requests := by
  have soundLeft := Sound.reachable left
  have soundRight := Sound.reachable right
  exact
    { answers := (tied.serveAll soundLeft soundRight requests).1
      after := fun part _ => (tied.serveAll soundLeft soundRight part).2
      trace := fun trace part _ =>
        tied.serveAll_trace (Traced.reachable left) (Traced.reachable right) trace part
      narrow := by
        obtain ⟨answers, after⟩ := runNarrow_sameCell soundLeft soundLeft ⟨rfl, rfl⟩ requests
        have index := @index_runNarrow first requests
        exact ⟨answers, after, by omega, by omega⟩ }

def detour : List Byte :=
  [0xF0, 0x0A, 0xB2, 0x04, 0x12, 0x08, 0xAF, 0xFE, 0xF0, 0x1E, 0x60, 0x00]

def afterDetour (key : Int) : Machine :=
  let start : Machine :=
    { memory := Memory.withFont.writeBlock Memory.programStart detour, programSize := 12 }
  start.serveAll [.step, .deliverKey key, .step, .step, .step, .step]

theorem afterDetour_reachable (key : Int) : (afterDetour key).Reachable :=
  ⟨detour, .vx, .zeros, .silent, _, _, rfl, rfl⟩

set_option maxRecDepth 20000 in
theorem serveAlike_of_sameCell_detour :
    (afterDetour 0).Reachable ∧ (afterDetour 2).Reachable ∧
      (afterDetour 0).SameCell (afterDetour 2) ∧ (afterDetour 0).registers.index = 0 ∧
      (afterDetour 2).registers.index = 0x1000 ∧
      (afterDetour 0).ServeAlike (afterDetour 2) [.step, .step] := by
  have low : (afterDetour 0).registers.index = 0 := by decide +kernel
  have high : (afterDetour 2).registers.index = 0x1000 := by decide +kernel
  have tied : (afterDetour 0).SameCell (afterDetour 2) := by
    refine ⟨by rw [low, high]; rfl, ?_⟩
    rw [high]
    rfl
  exact ⟨afterDetour_reachable 0, afterDetour_reachable 2, tied, low, high,
    serveAlike_of_sameCell (afterDetour_reachable 0) (afterDetour_reachable 2) tied _⟩

end Machine

end Chip8
