import Chip8.Proofs.Machine.Soundness

/-!
# The machine of views

Requests can be answered from the view of a machine alone: the opcode table says what a step does,
and the other requests need no table.  A sound machine answers as its view does, so two machines
whose views are tied together by a relation that requests preserve cannot be told apart.
-/

namespace Chip8

open Machine (Request)

namespace View

def execute (view : View) : Form.Outcome :=
  match Instruction.decode (BitVec.ofNat 16 view.word) with
  | none => (.error (.fault ⟨.invalidOpcode, view.word, view.pc⟩), view.advance)
  | some instruction =>
    (Form.ofInstruction instruction).act view.word view.pc view.advance

def serve (view : View) : Request → Except MachineError (Option Effect) × View
  | .step =>
    match view.runState with
    | .running => (view.execute.1.map some, view.execute.2)
    | .awaitingKey _ => (.ok (some .awaitKey), view)
  | .decrementTimers =>
    (.ok none, { view with
      delay := Timers.countDown view.delay
      sound := Timers.countDown view.sound })
  | .setKeypad mask => (.ok none, { view with held := (KeySet.ofInt mask).has })
  | .deliverKey value =>
    match view.runState with
    | .running => (.error .notAwaitingKey, view)
    | .awaitingKey register =>
      if 0 ≤ value ∧ value < 16 then
        (.ok none, { view.put (slotAt register) value.toNat with runState := .running })
      else
        (.error (.keyRange value), view)

end View

namespace Machine

variable {machine : Machine}

theorem ofNat_word : BitVec.ofNat 16 machine.view.word = machine.nextWord := by
  rw [← toNat_readWord, nextWord, BitVec.ofNat_toNat, BitVec.setWidth_eq]

theorem step_eq_execute (sound : machine.Sound) (running : machine.runState = .running) :
    outcome machine.step = machine.view.execute := by
  rw [View.execute, ofNat_word]
  cases decoded : Instruction.decode machine.nextWord with
  | none =>
      have uncovered : ∀ form : Form, ¬ form.Covers machine.view.word := fun form covers =>
        Form.decode_eq_none_iff.mp decoded form (covers_nextWord.mpr covers)
      rw [step_of_uncovered running uncovered]
      exact congrArg (Prod.mk _) view_fetch
  | some instruction =>
      have covers : (Form.ofInstruction instruction).Covers machine.view.word :=
        covers_nextWord.mp (Form.covers_of_decode decoded)
      exact sound.step_follows running covers

/-- The answer to a request and the view afterwards; of the result of a step only the effect. -/
def reply (machine : Machine) (request : Request) : Except MachineError (Option Effect) × View :=
  ((machine.serve request).1.map (Option.map StepResult.effect), (machine.serve request).2.view)

theorem reply_step :
    (machine.reply .step).1 = (machine.step.1.map StepResult.effect).map some := by
  rw [reply, serve]
  cases machine.step.1 <;> rfl

theorem reply_eq_serve (sound : machine.Sound) (request : Request) :
    machine.reply request = machine.view.serve request := by
  cases request with
  | decrementTimers | setKeypad mask => rfl
  | step =>
      cases state : machine.runState with
      | awaitingKey register =>
          have seen : machine.view.runState = .awaitingKey register := state
          simp only [reply, serve, View.serve, seen]
          rw [step_of_awaiting state]
          rfl
      | running =>
          have seen : machine.view.runState = .running := state
          simp only [reply, serve, View.serve, seen, ← step_eq_execute sound state, outcome]
          cases machine.step.1 <;> rfl
  | deliverKey value =>
      cases state : machine.runState with
      | running =>
          have seen : machine.view.runState = .running := state
          simp only [reply, serve, View.serve, seen, deliverKey_of_running state]
          rfl
      | awaitingKey register =>
          have named := (sound.waiting register state).register
          subst named
          have seen : machine.view.runState = .awaitingKey machine.lastOpcode.x.toNat := state
          by_cases key : 0 ≤ value ∧ value < 16
          · have place : slotAt machine.lastOpcode.x.toNat = machine.lastOpcode.x.toFin :=
              slotAt_of_lt rfl machine.lastOpcode.x.isLt
            have byte : (BitVec.ofInt 8 value).toNat = value.toNat :=
              Byte.toNat_ofInt ⟨key.1, by omega⟩
            have stored := @view_set machine machine.lastOpcode.x (BitVec.ofInt 8 value)
            rw [byte, ← place] at stored
            simp only [reply, serve, View.serve, seen, deliverKey_of_key state key, key, and_self,
              if_true, ← stored]
            rfl
          · simp only [reply, serve, View.serve, seen, deliverKey_of_outside state key, key,
              if_false]
            rfl

end Machine

/-- A relation between views that look alike to a host, and that every row of the opcode table and
every other request preserves.  The rows are asked about views after the fetch. -/
structure View.IsCongruence (Tied : View → View → Prop) : Prop where
  word : ∀ {first second}, Tied first second → first.word = second.word
  pc : ∀ {first second}, Tied first second → first.pc = second.pc
  runState : ∀ {first second}, Tied first second → first.runState = second.runState
  pixel : ∀ {first second}, Tied first second → first.pixel = second.pixel
  advance : ∀ {first second}, Tied first second → Tied first.advance second.advance
  row : ∀ {first second} (form : Form) (word : Nat) (address : Int),
    first.InRange → second.InRange → Tied first second →
    (form.act word address first).1 = (form.act word address second).1 ∧
      Tied (form.act word address first).2 (form.act word address second).2
  timers : ∀ {first second}, Tied first second →
    Tied (first.serve .decrementTimers).2 (second.serve .decrementTimers).2
  keypad : ∀ {first second} (mask : Int), Tied first second →
    Tied (first.serve (.setKeypad mask)).2 (second.serve (.setKeypad mask)).2
  key : ∀ {first second} (x : Fin 16) (value : Nat), Tied first second →
    Tied { first.put x value with runState := .running }
      { second.put x value with runState := .running }

namespace View.IsCongruence

variable {Tied : View → View → Prop} {first second : View}

theorem execute (congruence : IsCongruence Tied) (left : first.InRange) (right : second.InRange)
    (tied : Tied first second) : first.execute.1 = second.execute.1 ∧
      Tied first.execute.2 second.execute.2 := by
  simp only [View.execute, ← congruence.word tied, ← congruence.pc tied]
  split
  · exact ⟨rfl, congruence.advance tied⟩
  · exact congruence.row _ _ _ left.advance right.advance (congruence.advance tied)

theorem serve (congruence : IsCongruence Tied) (left : first.InRange) (right : second.InRange)
    (tied : Tied first second) (request : Request) :
    (first.serve request).1 = (second.serve request).1 ∧
      Tied (first.serve request).2 (second.serve request).2 := by
  have state := congruence.runState tied
  cases request with
  | decrementTimers => exact ⟨rfl, congruence.timers tied⟩
  | setKeypad mask => exact ⟨rfl, congruence.keypad mask tied⟩
  | step =>
      simp only [View.serve, ← state]
      split
      · obtain ⟨same, after⟩ := congruence.execute left right tied
        rw [same]
        exact ⟨rfl, after⟩
      · exact ⟨rfl, tied⟩
  | deliverKey value =>
      simp only [View.serve, ← state]
      split
      · exact ⟨rfl, tied⟩
      · split
        · exact ⟨rfl, congruence.key _ _ tied⟩
        · exact ⟨rfl, tied⟩

end View.IsCongruence

namespace Machine

variable {first second : Machine}

/-- Only steps bring results, and the picture in a result is the one that its effect calls for. -/
theorem picture_of_serve {machine : Machine} {request : Request} {result : StepResult}
    (served : (machine.serve request).1 = .ok (some result)) : result.display =
      if result.effect = .redraw then some (machine.serve request).2.display else none := by
  cases request with
  | decrementTimers | setKeypad mask => cases served
  | deliverKey value =>
      rw [serve] at served
      cases answer : (machine.deliverKey value).1 with
      | error error =>
          rw [answer] at served
          cases served
      | ok _ =>
          rw [answer] at served
          cases served
  | step =>
      rw [serve] at served ⊢
      cases answer : machine.step.1 with
      | error error =>
          rw [answer] at served
          cases served
      | ok other =>
          rw [answer] at served
          cases served
          exact step_picture (Prod.ext answer rfl)

theorem answer_eq_of_reply {request : Request}
    (same : (first.reply request).1 = (second.reply request).1)
    (picture : (first.serve request).2.display = (second.serve request).2.display) :
    (first.serve request).1 = (second.serve request).1 := by
  have left := @picture_of_serve first request
  have right := @picture_of_serve second request
  rw [reply, reply] at same
  generalize (first.serve request).1 = answer at same left ⊢
  generalize (second.serve request).1 = other at same right ⊢
  match answer, other with
  | .error error, .error _ =>
      cases same
      rfl
  | .ok none, .ok none => rfl
  | .ok (some result), .ok (some result') =>
      have effect : result.effect = result'.effect :=
        Option.some.inj (Except.ok.inj same)
      have display : result.display = result'.display := by
        rw [left rfl, right rfl, picture, effect]
      cases result
      cases result'
      simp_all

variable {Tied : View → View → Prop}

theorem serve_of_congruence (congruence : View.IsCongruence Tied) (left : first.Sound)
    (right : second.Sound) (tied : Tied first.view second.view) (request : Request) :
    (first.serve request).1 = (second.serve request).1 ∧
      Tied (first.serve request).2.view (second.serve request).2.view := by
  obtain ⟨same, after⟩ := congruence.serve left.inRange right.inRange tied request
  rw [← reply_eq_serve left, ← reply_eq_serve right] at same after
  exact ⟨answer_eq_of_reply same (Display.eq_of_pixel (congruence.pixel after)), after⟩

/-- Tied machines answer a run of requests alike and are tied afterwards. -/
theorem answers_of_congruence (congruence : View.IsCongruence Tied) (left : first.Sound)
    (right : second.Sound) (tied : Tied first.view second.view) (requests : List Request) :
    first.answers requests = second.answers requests ∧
      Tied (first.serveAll requests).view (second.serveAll requests).view := by
  induction requests generalizing first second with
  | nil => exact ⟨rfl, tied⟩
  | cons request rest ih =>
      obtain ⟨same, after⟩ := serve_of_congruence congruence left right tied request
      obtain ⟨answers, final⟩ := ih (left.serve request) (right.serve request) after
      rw [answers_cons, answers_cons, same, answers]
      exact ⟨rfl, final⟩

end Machine

end Chip8
