import Chip8.Proofs.Machine.Effect
import Chip8.Proofs.Machine.Request
import Mathlib.Data.List.Induction

/-!
# Key waits

While a key is awaited, steps come to nothing, and so does a key that is refused.  A run without
these requests meets the same machines, so it gets the same answers and ends in the same machine.
The key that ends a wait goes to the register that the instruction named, and execution goes on
behind that instruction.
-/

namespace Chip8.Machine

variable {machine start : Machine}

/-- A step while a key is awaited, or a key that is refused. -/
def idle (machine : Machine) : Request → Bool
  | .step => machine.awaiting
  | .deliverKey value => !(machine.serve (.deliverKey value)).1.isOk
  | .decrementTimers | .setKeypad _ => false

def essential (machine : Machine) (requests : List Request) : List Request :=
  ((machine.encounters requests).filter fun met => !met.1.idle met.2).map Prod.snd

theorem awaiting_iff :
    machine.awaiting = true ↔ ∃ register, machine.runState = .awaitingKey register := by
  rw [awaiting]
  cases machine.runState <;> simp

theorem step_of_idle (idle : machine.idle .step = true) :
    machine.serve .step = (.ok (some .awaiting), machine) := by
  obtain ⟨register, awaiting⟩ := awaiting_iff.mp idle
  rw [serve, step_of_awaiting awaiting]
  rfl

theorem error_of_idle {value : Int} (idle : machine.idle (.deliverKey value) = true) :
    ∃ error, machine.serve (.deliverKey value) = (.error error, machine) := by
  rw [Machine.idle, serve] at idle
  rw [serve]
  obtain ⟨error, refused⟩ | ⟨registers, taken⟩ := machine.deliverKey_cases value
  · rw [refused]
    exact ⟨error, rfl⟩
  · rw [taken] at idle
    cases idle

theorem serve_of_idle {request : Request} (idle : machine.idle request = true) :
    (machine.serve request).2 = machine := by
  cases request with
  | decrementTimers | setKeypad mask => cases idle
  | step => rw [step_of_idle idle]
  | deliverKey value =>
      obtain ⟨error, refused⟩ := error_of_idle idle
      rw [refused]

theorem essential_nil : machine.essential [] = [] := rfl

theorem essential_cons (request : Request) (requests : List Request) :
    machine.essential (request :: requests) =
      if machine.idle request then machine.essential requests
      else request :: (machine.serve request).2.essential requests := by
  split
  · rename_i idle
    rw [essential, encounters, serve_of_idle idle, List.filter_cons_of_neg (by simp [idle])]
    rfl
  · rename_i busy
    rw [essential, encounters, List.filter_cons_of_pos (by simp [busy])]
    rfl

/-- What is left of a run meets the same machines. -/
theorem encounters_essential (requests : List Request) :
    machine.encounters (machine.essential requests) =
      (machine.encounters requests).filter fun met => !met.1.idle met.2 := by
  induction requests generalizing machine with
  | nil => rfl
  | cons request rest ih =>
      rw [essential_cons]
      split
      · rename_i idle
        rw [ih, encounters, serve_of_idle idle, List.filter_cons_of_neg (by simp [idle])]
      · rename_i busy
        rw [encounters, ih, encounters, List.filter_cons_of_pos (by simp [busy])]

theorem serveAll_essential (requests : List Request) :
    machine.serveAll (machine.essential requests) = machine.serveAll requests := by
  induction requests generalizing machine with
  | nil => rfl
  | cons request rest ih =>
      rw [essential_cons, serveAll_cons]
      split
      · rename_i idle
        rw [ih, serve_of_idle idle]
      · rw [serveAll_cons, ih]

/-- The step before `between` began a wait, and the wait is still on after `between`. -/
structure WaitsSince (start : Machine) (earlier between : List Request) : Prop where
  running : (start.serveAll earlier).runState = .running
  asks : Form.awaitKey.Covers (start.serveAll earlier).view.word
  pending : ∀ part, part <+: between →
    (start.serveAll (earlier ++ .step :: part)).runState =
      .awaitingKey (start.serveAll earlier).nextWord.x.toNat
  registers : (start.serveAll (earlier ++ .step :: between)).registers =
    { (start.serveAll earlier).registers with
      pc := ((start.serveAll earlier).registers.pc + 2) % 4096 }

theorem step_of_awaitKey (running : machine.runState = .running)
    (asks : Form.awaitKey.Covers machine.view.word) :
    machine.step = (.ok .awaiting, { machine.fetch with
      runState := .awaitingKey machine.nextWord.x.toNat
      instructionCount := machine.fetch.instructionCount + 1 }) := by
  rw [step_of_covers running asks]
  rfl

theorem asks_of_serve {register : Int} {request : Request} (running : machine.runState = .running)
    (awaiting : (machine.serve request).2.runState = .awaitingKey register) :
    request = .step ∧ Form.awaitKey.Covers machine.view.word := by
  cases request with
  | decrementTimers | setKeypad mask =>
      rw [serve] at awaiting
      cases running.symm.trans awaiting
  | deliverKey value =>
      rw [serve, deliverKey_of_running running] at awaiting
      cases running.symm.trans awaiting
  | step =>
      refine ⟨rfl, ?_⟩
      rw [serve] at awaiting
      have stepped := step_stepped running
      generalize machine.step = performed at stepped awaiting
      cases stepped with
      | failed plain display runState => cases runState.symm.trans awaiting
      | @done form result after covers effect picture display runState =>
          by_cases asks : form = .awaitKey
          · subst asks
            exact covers
          · rw [if_neg asks] at runState
            cases runState.symm.trans awaiting

theorem serve_of_awaiting {register : Int} (awaiting : machine.runState = .awaitingKey register)
    (request : Request) : (machine.serve request).2.runState = .running ∨
      (machine.serve request).2.runState = machine.runState ∧
        (machine.serve request).2.registers = machine.registers := by
  cases request with
  | decrementTimers | setKeypad mask => exact Or.inr ⟨rfl, rfl⟩
  | step =>
      rw [serve, step_of_awaiting awaiting]
      exact Or.inr ⟨rfl, rfl⟩
  | deliverKey value =>
      rw [serve]
      obtain ⟨error, refused⟩ | ⟨registers, taken⟩ := machine.deliverKey_cases value
      · rw [refused]
        exact Or.inr ⟨rfl, rfl⟩
      · rw [taken]
        exact Or.inl rfl

theorem exists_waitsSince {register : Int} {requests : List Request}
    (running : start.runState = .running)
    (awaiting : (start.serveAll requests).runState = .awaitingKey register) :
    ∃ earlier between, requests = earlier ++ .step :: between ∧ start.WaitsSince earlier between := by
  induction requests using List.reverseRecOn generalizing register with
  | nil => cases running.symm.trans awaiting
  | append_singleton requests request ih =>
      rw [serveAll_concat] at awaiting
      cases state : (start.serveAll requests).runState with
      | running =>
          obtain ⟨rfl, asks⟩ := asks_of_serve state awaiting
          have after : start.serveAll (requests ++ [.step]) = (start.serveAll requests).step.2 :=
            serveAll_concat requests .step
          rw [step_of_awaitKey state asks] at after
          refine ⟨requests, [], rfl, state, asks, ?_, ?_⟩
          · intro part here
            rw [List.prefix_nil.mp here, after]
          · rw [after, fetch_eq]
      | awaitingKey other =>
          obtain ⟨earlier, between, rfl, wait⟩ := ih state
          rcases serve_of_awaiting state request with ended | ⟨same, registers⟩
          · cases ended.symm.trans awaiting
          · have whole : earlier ++ .step :: between ++ [request] =
                earlier ++ .step :: (between ++ [request]) := by simp
            refine ⟨earlier, between ++ [request], whole, wait.running, wait.asks, ?_, ?_⟩
            · intro part here
              rcases List.prefix_concat_iff.mp here with rfl | inside
              · rw [← whole, serveAll_concat, same]
                exact wait.pending between (List.prefix_refl _)
              · exact wait.pending part inside
            · rw [← whole, serveAll_concat, registers]
              exact wait.registers

/-- A key ends a wait: it goes to the register that the waiting instruction names, and execution
goes on behind that instruction. -/
structure EndsWait (start : Machine) (earlier between : List Request) (value : Int) : Prop where
  wait : start.WaitsSince earlier between
  key : 0 ≤ value ∧ value < 16
  stored : ∃ x : Nibble, x.toNat = (start.serveAll earlier).view.word / 256 % 16 ∧
    ((start.serveAll (earlier ++ .step :: between)).serve (.deliverKey value)).2 =
      { start.serveAll (earlier ++ .step :: between) with
        registers := (start.serveAll (earlier ++ .step :: between)).registers.set x
          (BitVec.ofNat 8 value.toNat)
        runState := .running }
  resumes : ((start.serveAll (earlier ++ .step :: between)).serve (.deliverKey value)).2.registers.pc =
    ((start.serveAll earlier).registers.pc + 2) % 4096

theorem endsWait_of_ok {before : List Request} {value : Int} {answer : Option StepResult}
    (running : start.runState = .running)
    (taken : ((start.serveAll before).serve (.deliverKey value)).1 = .ok answer) :
    ∃ earlier between, before = earlier ++ .step :: between ∧
      start.EndsWait earlier between value := by
  cases state : (start.serveAll before).runState with
  | running =>
      rw [serve, deliverKey_of_running state] at taken
      cases taken
  | awaitingKey register =>
      by_cases key : 0 ≤ value ∧ value < 16
      · obtain ⟨earlier, between, rfl, wait⟩ := exists_waitsSince running state
        have waits := wait.pending between (List.prefix_refl _)
        have byte : BitVec.ofInt 8 value = BitVec.ofNat 8 value.toNat := by
          apply BitVec.eq_of_toNat_eq
          rw [Byte.toNat_ofInt ⟨key.1, by omega⟩, BitVec.toNat_ofNat]
          omega
        refine ⟨earlier, between, rfl, wait, key, ⟨(start.serveAll earlier).nextWord.x, ?_, ?_⟩, ?_⟩
        · rw [Word.toNat_x, nextWord, toNat_readWord]
        · rw [serve, deliverKey_of_key waits key, byte]
        · rw [serve, deliverKey_of_key waits key]
          exact congrArg Registers.pc wait.registers
      · rw [serve, deliverKey_of_outside state key] at taken
        cases taken

/-- A step that finds no wait and does not fail. -/
def executes (met : Machine × Request) : Bool :=
  decide (met.2 = .step) && !met.1.awaiting && met.1.step.1.isOk

theorem instructionCount_serve (request : Request) : (machine.serve request).2.instructionCount =
    machine.instructionCount + if executes (machine, request) then 1 else 0 := by
  cases request with
  | decrementTimers | setKeypad mask => rfl
  | deliverKey value =>
      rw [serve]
      obtain ⟨error, refused⟩ | ⟨registers, taken⟩ := machine.deliverKey_cases value
      · rw [refused]
        rfl
      · rw [taken]
        rfl
  | step =>
      rw [serve]
      cases state : machine.runState with
      | awaitingKey register =>
          rw [step_of_awaiting state]
          simp [executes, awaiting, state]
      | running =>
          rw [(step_recorded state).2]
          simp [executes, awaiting, state]

theorem instructionCount_serveAll (requests : List Request) :
    (machine.serveAll requests).instructionCount =
      machine.instructionCount + (machine.encounters requests).countP executes := by
  induction requests generalizing machine with
  | nil => rfl
  | cons request rest ih =>
      rw [serveAll_cons, ih, instructionCount_serve, encounters, List.countP_cons]
      omega

/-- What a host can rely on about the key waits of a run. -/
structure WaitsQuietly (start : Machine) (requests : List Request) : Prop where
  final : start.serveAll (start.essential requests) = start.serveAll requests
  encounters : start.encounters (start.essential requests) =
    (start.encounters requests).filter fun met => !met.1.idle met.2
  answers : start.answers (start.essential requests) =
    ((start.encounters requests).filter fun met => !met.1.idle met.2).map fun met =>
      (met.1.serve met.2).1
  /-- A step that is left out reported the wait and did nothing else, a fetch included. -/
  waited : ∀ machine, (machine, .step) ∈ start.encounters requests → machine.idle .step = true →
    machine.serve .step = (.ok (some .awaiting), machine)
  refused : ∀ machine value, (machine, .deliverKey value) ∈ start.encounters requests →
    machine.idle (.deliverKey value) = true →
      ∃ error, machine.serve (.deliverKey value) = (.error error, machine)
  delivered : ∀ before value rest answer, requests = before ++ .deliverKey value :: rest →
    ((start.serveAll before).serve (.deliverKey value)).1 = .ok answer →
      ∃ earlier between, before = earlier ++ .step :: between ∧
        start.EndsWait earlier between value
  counted : (start.serveAll requests).instructionCount =
    (start.encounters requests).countP executes

theorem waitsQuietly_of_load {program : List Byte} {shift : ShiftDialect} {random : RandomSource}
    {trace : Trace} {start : Machine} (loaded : load program shift random trace = .ok start)
    (requests : List Request) : start.WaitsQuietly requests := by
  obtain ⟨memory, fresh⟩ := load_eq loaded
  have running : start.runState = .running := by rw [fresh]
  have uncounted : start.instructionCount = 0 := by rw [fresh]
  exact
    { final := serveAll_essential requests
      encounters := encounters_essential requests
      answers := by rw [answers, encounters_essential]
      waited := fun machine _ idle => step_of_idle idle
      refused := fun machine value _ idle => error_of_idle idle
      delivered := fun before value rest answer _ taken => endsWait_of_ok running taken
      counted := by rw [instructionCount_serveAll, uncounted, Nat.zero_add] }

/-- A program that asks for a key: a second step and a key that is none are left out. -/
theorem waitsQuietly_of_question :
    let start : Machine :=
      { memory := Memory.withFont.writeBlock Memory.programStart [0xF3, 0x0A], programSize := 2 }
    let requests : List Request := [.step, .step, .deliverKey 16, .deliverKey 5]
    load [0xF3, 0x0A] .vx .zeros .silent = .ok start ∧ start.WaitsQuietly requests ∧
      start.essential requests = [.step, .deliverKey 5] ∧
      (start.serveAll requests).registers.get 3 = 5 ∧
      (start.serveAll requests).registers.pc = 0x202 := by
  intro start requests
  have loaded : load [0xF3, 0x0A] .vx .zeros .silent = .ok start := rfl
  have high : start.memory.read 0x200 = 0xF3 := @read_program [0xF3, 0x0A] 0 (by decide) (by decide)
  have low : start.memory.read 0x201 = 0x0A := @read_program [0xF3, 0x0A] 1 (by decide) (by decide)
  have word : start.view.word = 0xF30A := start.word_of_reads high low
  have asks : Form.awaitKey.Covers start.view.word := by
    rw [word]
    decide
  have register : start.nextWord.x.toNat = 3 := by
    rw [Word.toNat_x, nextWord, toNat_readWord, word]
  have first := step_of_awaitKey rfl asks
  rw [register] at first
  generalize built : ({ start.fetch with
    runState := .awaitingKey (3 : Nat)
    instructionCount := start.fetch.instructionCount + 1 } : Machine) = waiting at first
  have state : waiting.runState = .awaitingKey (3#4).toNat := by rw [← built]; rfl
  have counter : waiting.registers.pc = 0x202 := by rw [← built, fetch_eq]; rfl
  have taken := @deliverKey_of_key waiting 3 5 state (by decide)
  have refused := @deliverKey_of_outside waiting _ 16 state (by decide)
  have quiet := step_of_awaiting state
  have essential : start.essential requests = [.step, .deliverKey 5] := by
    have running : start.awaiting = false := rfl
    have waits : waiting.awaiting = true := awaiting_iff.mpr ⟨_, state⟩
    simp [requests, essential_cons, essential_nil, idle, serve, first, running, waits, refused,
      taken, Except.map, Except.isOk, Except.toBool]
  have served : start.serveAll requests =
      { waiting with registers := waiting.registers.set 3 5, runState := .running } := by
    simp only [requests, serveAll_cons, serve, first, quiet, refused, taken]
    rfl
  refine ⟨loaded, waitsQuietly_of_load loaded requests, essential, ?_, ?_⟩
  · rw [served]
    exact (Registers.get_set ..).trans (if_pos rfl)
  · rw [served]
    exact counter

end Chip8.Machine
