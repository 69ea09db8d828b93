import Chip8.Proofs.Machine.Step

/-!
# Requests

The host drives a machine by requests, in any order and as many as it likes.  A request that fails
is answered with an error, and the host may go on.
-/

namespace Chip8.Machine

inductive Request where
  | step
  | decrementTimers
  | setKeypad (mask : Int)
  | deliverKey (value : Int)
  deriving DecidableEq, Repr

/-- The answer to a request, and the machine afterwards.  Only steps have a result. -/
def serve (machine : Machine) : Request → Except MachineError (Option StepResult) × Machine
  | .step => (machine.step.1.map some, machine.step.2)
  | .decrementTimers => (.ok none, machine.decrementTimers)
  | .setKeypad mask => (.ok none, machine.setKeypad (KeySet.ofInt mask))
  | .deliverKey value =>
    ((machine.deliverKey value).1.map fun _ => none, (machine.deliverKey value).2)

def serveAll (machine : Machine) (requests : List Request) : Machine :=
  requests.foldl (fun machine request => (machine.serve request).2) machine

def encounters (machine : Machine) : List Request → List (Machine × Request)
  | [] => []
  | request :: rest => (machine, request) :: (machine.serve request).2.encounters rest

def answers (machine : Machine) (requests : List Request) :
    List (Except MachineError (Option StepResult)) :=
  (machine.encounters requests).map fun met => (met.1.serve met.2).1

def answered? (machine : Machine) (value : Int) : Option Machine :=
  match machine.deliverKey value with
  | (.ok (), after) => some after
  | (.error _, _) => none

/-- A machine that a host can have after loading some program. -/
def Reachable (machine : Machine) : Prop :=
  ∃ program shift random trace start requests,
    load program shift random trace = .ok start ∧ start.serveAll requests = machine

variable {machine : Machine}

theorem serveAll_cons (request : Request) (requests : List Request) :
    machine.serveAll (request :: requests) = (machine.serve request).2.serveAll requests := rfl

theorem serveAll_concat (requests : List Request) (request : Request) :
    machine.serveAll (requests ++ [request]) = ((machine.serveAll requests).serve request).2 := by
  rw [serveAll, List.foldl_append]
  rfl

theorem serveAll_append (first second : List Request) :
    machine.serveAll (first ++ second) = (machine.serveAll first).serveAll second :=
  List.foldl_append ..

theorem answers_cons (request : Request) (requests : List Request) :
    machine.answers (request :: requests) =
      (machine.serve request).1 :: (machine.serve request).2.answers requests := rfl

theorem answers_append (first second : List Request) :
    machine.answers (first ++ second) =
      machine.answers first ++ (machine.serveAll first).answers second := by
  induction first generalizing machine with
  | nil => rfl
  | cons request rest ih =>
      rw [List.cons_append, answers_cons, answers_cons, ih]
      rfl

theorem length_answers (requests : List Request) :
    (machine.answers requests).length = requests.length := by
  induction requests generalizing machine with
  | nil => rfl
  | cons request rest ih => exact congrArg (· + 1) ih

theorem serveAll_preserves {Holds : Machine → Prop}
    (preserved : ∀ machine request, Holds machine → Holds (machine.serve request).2)
    (holds : Holds machine) (requests : List Request) : Holds (machine.serveAll requests) := by
  induction requests generalizing machine with
  | nil => exact holds
  | cons request rest ih => exact ih (preserved machine request holds)

theorem deliverKey_of_running (running : machine.runState = .running) (value : Int) :
    machine.deliverKey value = (.error .notAwaitingKey, machine) := by
  rw [deliverKey, running]

theorem deliverKey_of_outside {register value : Int}
    (awaiting : machine.runState = .awaitingKey register) (outside : ¬ (0 ≤ value ∧ value < 16)) :
    machine.deliverKey value = (.error (.keyRange value), machine) := by
  simp only [deliverKey, awaiting, outside, if_false]

theorem deliverKey_of_key {x : Nibble} {value : Int}
    (awaiting : machine.runState = .awaitingKey x.toNat) (key : 0 ≤ value ∧ value < 16) :
    machine.deliverKey value = (.ok (), { machine with
      registers := machine.registers.set x (BitVec.ofInt 8 value)
      runState := .running }) := by
  have byte : 0 ≤ value ∧ value < 256 := ⟨key.1, by omega⟩
  simp only [deliverKey, awaiting, key, and_self, if_true, Registers.put_of_byte x byte]

/-- A key that is refused leaves everything alone; one that is accepted goes to a register, and the
machine runs. -/
theorem deliverKey_cases (machine : Machine) (value : Int) :
    (∃ error, machine.deliverKey value = (.error error, machine)) ∨
      ∃ registers, machine.deliverKey value =
        (.ok (), { machine with registers, runState := .running }) := by
  rw [deliverKey]
  split
  · exact Or.inl ⟨_, rfl⟩
  · split
    · split
      · exact Or.inr ⟨_, rfl⟩
      · exact Or.inl ⟨_, rfl⟩
    · exact Or.inl ⟨_, rfl⟩

theorem deliverKey_undisturbed (value : Int) :
    Undisturbed machine (machine.serve (.deliverKey value)).2 := by
  rw [serve]
  obtain ⟨error, refused⟩ | ⟨registers, taken⟩ := machine.deliverKey_cases value
  · rw [refused]
    exact Undisturbed.refl machine
  · rw [taken]
    exact ⟨rfl, rfl, rfl, rfl, rfl⟩

theorem step_of_awaiting {register : Int} (awaiting : machine.runState = .awaitingKey register) :
    machine.step = (.ok .awaiting, machine) := by
  rw [step, awaiting]

theorem exists_load {program : List Byte} (short : program.length ≤ 3584) (shift : ShiftDialect)
    (random : RandomSource) (trace : Trace) :
    ∃ start, load program shift random trace = .ok start := by
  have fits : ¬ program.length > Memory.capacity := by
    have capacity : Memory.capacity = 3584 := rfl
    omega
  exact ⟨_, by rw [load, Memory.ofProgram, if_neg fits]; rfl⟩

theorem load_eq {program : List Byte} {shift : ShiftDialect} {random : RandomSource} {trace : Trace}
    {start : Machine} (loaded : load program shift random trace = .ok start) :
    ∃ memory, start = { memory, programSize := program.length, shift, random, trace } := by
  cases placed : Memory.ofProgram program with
  | error refused =>
      rw [load, placed] at loaded
      cases loaded
  | ok memory =>
      rw [load, placed] at loaded
      cases loaded
      exact ⟨memory, rfl⟩

theorem read_program {program : List Byte} {place : Nat} (short : program.length ≤ 3584)
    (inside : place < program.length) :
    (Memory.withFont.writeBlock Memory.programStart program).read (0x200 + place) =
      program[place] := by
  have start : (0x200 : Int) = Memory.programStart := rfl
  rw [start, Memory.read_writeBlock (by omega) inside]

end Chip8.Machine
