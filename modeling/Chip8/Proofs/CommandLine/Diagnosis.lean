import Chip8.CommandLine.Report
import Chip8.Proofs.Machine.Encounter
import Chip8.Proofs.Machine.Fault
import Chip8.Proofs.Machine.KeyWait
import Mathlib.Data.ENat.Lattice

namespace Chip8

structure Snapshot where
  values : List Byte
  index : Int
  pc : Int
  sp : Int
  stack : List Int
  delay : Int
  sound : Int
  keypad : Nat
  runState : String
  keyRegister : Option Int
  lastOpcode : Nat
  lastAddress : Int
  instructionCount : Nat
  deriving DecidableEq

namespace Snapshot

/-- A snapshot in three or four lines: the keypad, the register that a key goes to and the count are
not shown, nor is an empty stack. -/
def lines (state : Snapshot) : List String :=
  let place (address : Int) : String := "$" ++ Hex.padded 3 address
  let counters := s!"  PC={place state.pc}  I={place state.index}  SP={state.sp}"
  let timers := s!"  DT={state.delay}  ST={state.sound}"
  let values := " ".intercalate <| state.values.zipIdx.map fun (value, number) =>
    s!"V{Hex.plain number}={Hex.padded 2 value.toNat}"
  let stack := " ".intercalate (state.stack.map place)
  let word := Hex.padded 4 state.lastOpcode
  [s!"{counters}{timers}  {state.runState}", s!"  {values}"] ++
    (if state.stack = [] then [] else [s!"  Stack: {stack}"]) ++
    [s!"  Last opcode: {word} at {place state.lastAddress}"]

end Snapshot

namespace Machine

variable {machine start : Machine}

def snapshot (machine : Machine) : Snapshot where
  values := machine.registers.values
  index := machine.registers.index
  pc := machine.registers.pc
  sp := machine.registers.sp
  stack := machine.registers.liveStack
  delay := machine.timers.delay
  sound := machine.timers.sound
  keypad := machine.keypad.toNat
  runState := machine.runState.name
  keyRegister := machine.runState.register?
  lastOpcode := machine.lastOpcode.toNat
  lastAddress := machine.lastAddress
  instructionCount := machine.instructionCount

theorem stateLines_eq (machine : Machine) : machine.stateLines = machine.snapshot.lines := by
  simp only [stateLines, Snapshot.lines, snapshot, List.isEmpty_iff]
  rfl

def afterSteps (machine : Machine) (count : Nat) : Machine :=
  machine.serveAll (List.replicate count .step)

def FaultsAt (machine : Machine) (place : Nat) : Prop :=
  ∃ error, (machine.afterSteps place).step.1 = .error error

def WaitsAt (machine : Machine) (place : Nat) : Prop :=
  (machine.afterSteps place).Executes .awaitKey

def paintings (machine : Machine) (count : Nat) : Nat :=
  (List.range count).countP fun place => decide (machine.afterSteps place).Repaints

/-- The number of the first step that asks for a key, counted from one; without end if there is
none. -/
noncomputable def firstWait (machine : Machine) : ℕ∞ :=
  sInf ((fun place : Nat => ((place + 1 : Nat) : ℕ∞)) '' {place | machine.WaitsAt place})

def Sails (machine : Machine) (count : Nat) : Prop :=
  ∀ place < count, ¬ machine.FaultsAt place ∧ ¬ machine.WaitsAt place

theorem afterSteps_succ (count : Nat) :
    machine.afterSteps (count + 1) = machine.step.2.afterSteps count := rfl

theorem afterSteps_concat (count : Nat) :
    machine.afterSteps (count + 1) = (machine.afterSteps count).step.2 := by
  rw [afterSteps, List.replicate_succ', serveAll_concat]
  rfl

theorem paintings_succ (count : Nat) : machine.paintings (count + 1) =
    (if machine.Repaints then 1 else 0) + machine.step.2.paintings count := by
  rw [paintings, List.range_succ_eq_map, List.countP_cons, List.countP_map, Nat.add_comm]
  congr 1
  simp only [decide_eq_true_eq]
  rfl

theorem sails_zero : machine.Sails 0 := fun _ early => absurd early (Nat.not_lt_zero _)

theorem sails_succ_iff {count : Nat} : machine.Sails (count + 1) ↔
    (¬ machine.FaultsAt 0 ∧ ¬ machine.WaitsAt 0) ∧ machine.step.2.Sails count := by
  constructor
  · intro sails
    exact ⟨sails 0 (Nat.succ_pos count), fun place early => sails (place + 1) (Nat.succ_lt_succ early)⟩
  · rintro ⟨first, rest⟩ (_ | place) early
    · exact first
    · exact rest place (Nat.lt_of_succ_lt_succ early)

/-- What a step of a running machine that does not fail reports: the only one that asks for a key
asks with it, and the ones that paint ask for a redraw. -/
theorem step_reports {result : StepResult} (running : machine.runState = .running)
    (done : machine.step.1 = .ok result) :
    (result.awaitKey = true ↔ machine.Executes .awaitKey) ∧
      (result.redraw = true ↔ machine.Repaints) ∧
      (¬ machine.Executes .awaitKey → machine.step.2.runState = .running) := by
  have stepped := step_stepped running
  generalize machine.step = performed at stepped done
  cases stepped with
  | failed plain display runState => cases done
  | @done form result' after covers effect picture display runState =>
      cases done
      have waits : machine.Executes .awaitKey ↔ form = .awaitKey := by
        constructor
        · intro executes
          exact form_unique covers executes.covers
        · rintro rfl
          exact ⟨running, covers⟩
      refine ⟨?_, ?_, ?_⟩
      · rw [StepResult.awaitKey, decide_eq_true_iff, effect, Form.effect_eq_awaitKey_iff, waits]
      · rw [StepResult.redraw, decide_eq_true_iff, effect, repaints_iff running covers]
      · intro goesOn
        rw [runState, if_neg (mt waits.mpr goesOn)]

theorem not_faults_of_waits {place : Nat} (waits : machine.WaitsAt place) :
    ¬ machine.FaultsAt place := by
  rintro ⟨error, raised⟩
  rw [step_of_awaitKey waits.running waits.covers] at raised
  cases raised

theorem Sails.steady {count : Nat} (running : start.runState = .running) (sails : start.Sails count) :
    (start.afterSteps count).runState = .running ∧
      (start.afterSteps count).instructionCount = start.instructionCount + count := by
  induction count with
  | zero => exact ⟨running, rfl⟩
  | succ count ih =>
      obtain ⟨runs, counted⟩ := ih fun place early => sails place (Nat.lt_succ_of_lt early)
      obtain ⟨passes, goesOn⟩ := sails count (Nat.lt_succ_self count)
      rw [afterSteps_concat]
      cases done : (start.afterSteps count).step.1 with
      | error error => exact absurd ⟨error, done⟩ passes
      | ok result =>
          refine ⟨(step_reports runs done).2.2 goesOn, ?_⟩
          rw [(step_recorded runs).2, done, counted]
          rfl

/-- How a run of at most `count` steps ends: at a step that fails, at one that asks for a key, or
when the steps are used up.  It adds to what `burst` amounted to. -/
inductive Ran (start : Machine) (count : Nat) (burst : Burst) :
    Except MachineError Burst × Machine → Prop
  | failed {place : Nat} {error : MachineError} (early : place < count) (sails : start.Sails place)
      (raised : (start.afterSteps place).step.1 = .error error) :
      Ran start count burst (.error error, start.afterSteps (place + 1))
  | waited {place : Nat} (early : place < count) (sails : start.Sails place)
      (waits : start.WaitsAt place) :
      Ran start count burst
        (.ok ⟨some .awaitKey, burst.redraws + start.paintings (place + 1)⟩,
          start.afterSteps (place + 1))
  | went {last : Option Effect} (sails : start.Sails count) (quiet : last ≠ some .awaitKey) :
      Ran start count burst
        (.ok ⟨last, burst.redraws + start.paintings count⟩, start.afterSteps count)

variable {count : Nat} {burst : Burst}

theorem Ran.later {middle : Burst} {run : Except MachineError Burst × Machine}
    (first : ¬ machine.FaultsAt 0 ∧ ¬ machine.WaitsAt 0)
    (redraws : middle.redraws = burst.redraws + if machine.Repaints then 1 else 0)
    (rest : machine.step.2.Ran count middle run) : machine.Ran (count + 1) burst run := by
  have total (more : Nat) : middle.redraws + machine.step.2.paintings more =
      burst.redraws + machine.paintings (more + 1) := by
    rw [redraws, paintings_succ, Nat.add_assoc]
  cases rest with
  | failed early sails raised =>
      exact .failed (Nat.succ_lt_succ early) (sails_succ_iff.mpr ⟨first, sails⟩) raised
  | waited early sails waits =>
      rw [total]
      exact .waited (Nat.succ_lt_succ early) (sails_succ_iff.mpr ⟨first, sails⟩) waits
  | went sails quiet =>
      rw [total]
      exact .went (sails_succ_iff.mpr ⟨first, sails⟩) quiet

theorem ran_runFrom (running : machine.runState = .running) (quiet : burst.last ≠ some .awaitKey)
    (count : Nat) : machine.Ran count burst (machine.runFrom burst count) := by
  -- Each step goes before the rest of the run, so the machine and the burst so far vary.
  induction count generalizing machine burst with
  | zero => exact .went sails_zero quiet
  | succ count ih =>
      cases stepped : machine.step with
      | mk answer after =>
          have after_eq : machine.step.2 = after := congrArg Prod.snd stepped
          have answer_eq : machine.step.1 = answer := congrArg Prod.fst stepped
          rw [runFrom, stepped]
          cases answer with
          | error error =>
              have failed : machine.Ran (count + 1) burst (.error error, machine.afterSteps 1) :=
                .failed (Nat.succ_pos count) sails_zero answer_eq
              rw [afterSteps_succ, after_eq] at failed
              exact failed
          | ok result =>
              obtain ⟨asks, paints, runs⟩ := step_reports running answer_eq
              have redraws : (burst.after result).redraws =
                  burst.redraws + if machine.Repaints then 1 else 0 := by
                simp only [Burst.after, paints]
              dsimp only
              split
              · rename_i awaits
                have whole : burst.after result =
                    ⟨some .awaitKey, burst.redraws + machine.paintings (0 + 1)⟩ := by
                  rw [paintings_succ, ← Nat.add_assoc, ← redraws, ← of_decide_eq_true awaits]
                  rfl
                rw [whole, ← after_eq]
                exact .waited (Nat.succ_pos count) sails_zero (asks.mp awaits)
              · rename_i goesOn
                have passes : ¬ machine.FaultsAt 0 := by
                  rintro ⟨error, raised⟩
                  cases answer_eq.symm.trans raised
                have silent : (burst.after result).last ≠ some .awaitKey := by
                  intro last
                  exact goesOn (decide_eq_true (Option.some.inj last))
                have next := ih (runs (mt asks.mpr goesOn)) silent
                rw [← after_eq]
                exact Ran.later ⟨passes, mt asks.mpr goesOn⟩ redraws next

theorem firstWait_of_sails {place : Nat} (sails : start.Sails place) (waits : start.WaitsAt place) :
    start.firstWait = (place + 1 : Nat) := by
  apply le_antisymm
  · exact sInf_le ⟨place, waits, rfl⟩
  · apply le_sInf
    rintro _ ⟨other, also, rfl⟩
    have late : place ≤ other := Nat.le_of_not_lt fun early => (sails other early).2 also
    exact Nat.cast_le.mpr (Nat.succ_le_succ late)

theorem lt_firstWait (sails : start.Sails count) : (count : ℕ∞) < start.firstWait := by
  apply lt_of_lt_of_le (b := ((count + 1 : Nat) : ℕ∞))
  · exact Nat.cast_lt.mpr (Nat.lt_succ_self count)
  · apply le_sInf
    rintro _ ⟨other, waits, rfl⟩
    have late : count ≤ other := Nat.le_of_not_lt fun early => (sails other early).2 waits
    exact Nat.cast_le.mpr (Nat.succ_le_succ late)

/-- A step fails within this many, and no key is asked for before. -/
def FailsWithin (start : Machine) (count : Nat) : Prop :=
  ∃ place < count, start.FaultsAt place ∧ ∀ earlier < place, ¬ start.WaitsAt earlier

/-- What a diagnosis says about a program that was just loaded, in terms of direct steps of its
machine. -/
structure Diagnoses (start : Machine) (steps : Int) (diagnosis : Diagnosis) : Prop where
  fails : diagnosis.exitCode = 1 ↔ start.FailsWithin steps.toNat
  /-- The first fault ends it; it is one of the three that a step can have, and nothing is raised
  besides. -/
  failed : diagnosis.exitCode = 1 → ∃ place < steps.toNat,
    start.Sails place ∧ ∃ cause ∈ [Fault.Cause.invalidOpcode, .stackOverflow, .stackUnderflow],
      (start.afterSteps place).step.1 = .error ((start.afterSteps place).faultHere cause) ∧
      diagnosis.outcome = .error ((start.afterSteps place).faultHere cause) ∧
      diagnosis.machine = start.afterSteps (place + 1) ∧
      diagnosis.lines = Diagnosis.head start.description ++ diagnosis.machine.trace.printed.toList ++
        s!"Fatal: {((start.afterSteps place).faultHere cause).message}" ::
          (start.afterSteps (place + 1)).snapshot.lines
  /-- Otherwise it takes all steps up to the first that asks for a key. -/
  passed : diagnosis.exitCode ≠ 1 → diagnosis.exitCode = 0 ∧ ∃ count : Nat,
    (count : ℕ∞) = min (steps.toNat : ℕ∞) start.firstWait ∧
      diagnosis.machine = start.afterSteps count ∧
      diagnosis.lines = Diagnosis.head start.description ++ diagnosis.machine.trace.printed.toList ++
        (if start.firstWait ≤ (steps.toNat : ℕ∞) then ["Program is waiting for a key; stopping."]
          else []) ++
        ["", s!"Executed {count} instructions, {start.paintings count} redraws"] ++
        (start.afterSteps count).snapshot.lines ++
        [s!"  Lit pixels: {(start.afterSteps count).display.litPixels}", "", CommandLine.rule 60,
          "Debug complete."]

theorem diagnoses_of_ran {steps : Int} {run : Except MachineError Burst × Machine}
    (sound : start.Sound) (running : start.runState = .running) (uncounted : start.instructionCount = 0)
    (ran : start.Ran steps.toNat {} run) :
    start.Diagnoses steps { subject := start.description, outcome := run.1, machine := run.2 } := by
  cases ran with
  | @failed place error early sails raised =>
      obtain ⟨_, cause, stuck, same⟩ :=
        stuck_of_step (sound.serveAll (List.replicate place .step)) raised
      subst same
      refine ⟨iff_of_true rfl ⟨place, early, ⟨_, raised⟩, fun earlier before => (sails earlier before).2⟩,
        fun _ => ⟨place, early, sails, cause, mem_of_stuck stuck, raised, rfl, rfl, ?_⟩,
        fun other => absurd rfl other⟩
      rw [← stateLines_eq]
      rfl
  | @waited place early sails waits =>
      have first := firstWait_of_sails sails waits
      have reached : start.firstWait ≤ (steps.toNat : ℕ∞) := first ▸ Nat.cast_le.mpr early
      obtain ⟨runs, counted⟩ := sails.steady running
      have whole : (start.afterSteps (place + 1)).instructionCount = place + 1 := by
        rw [afterSteps_concat, (step_recorded runs).2, counted, uncounted, Nat.zero_add,
          step_of_awaitKey waits.running waits.covers]
        rfl
      refine ⟨iff_of_false Nat.zero_ne_one ?_, fun failed => absurd failed Nat.zero_ne_one,
        fun _ => ⟨rfl, place + 1, ?_, rfl, ?_⟩⟩
      · rintro ⟨other, _, faults, unasked⟩
        rcases Nat.lt_trichotomy other place with before | same | after
        · exact (sails other before).1 faults
        · exact not_faults_of_waits (same ▸ waits) faults
        · exact unasked place after waits
      · rw [min_eq_right reached, first]
      · rw [if_pos reached, ← stateLines_eq, Diagnosis.lines]
        simp [whole]
  | @went last sails quiet =>
      have beyond : ¬ start.firstWait ≤ (steps.toNat : ℕ∞) := not_le.mpr (lt_firstWait sails)
      have counted := (sails.steady running).2
      rw [uncounted, Nat.zero_add] at counted
      refine ⟨iff_of_false Nat.zero_ne_one ?_, fun failed => absurd failed Nat.zero_ne_one,
        fun _ => ⟨rfl, steps.toNat, ?_, rfl, ?_⟩⟩
      · rintro ⟨place, early, faults, _⟩
        exact (sails place early).1 faults
      · rw [min_eq_left (le_of_not_ge beyond)]
      · rw [if_neg beyond, ← stateLines_eq, Diagnosis.lines]
        simp [counted, quiet]

/-- Every program that fits can be diagnosed, for any number of steps. -/
theorem diagnoses_of_load {program : List Byte} (short : program.length ≤ 3584)
    (shift : ShiftDialect) (random : RandomSource) (trace : Trace) (steps : Int) :
    ∃ start, load program shift random trace = .ok start ∧
      start.Diagnoses steps (start.diagnose steps) := by
  obtain ⟨start, loaded⟩ := exists_load short shift random trace
  obtain ⟨memory, fresh⟩ := load_eq loaded
  have running : start.runState = .running := by rw [fresh]
  have ran : start.Ran steps.toNat {} (start.runFrom {} steps.toNat) :=
    ran_runFrom running (by simp) steps.toNat
  exact ⟨start, loaded, diagnoses_of_ran (Sound.load loaded) running (by rw [fresh]) ran⟩

theorem diagnoses_of_question :
    let program : List Byte := [0x00, 0xE0, 0xF3, 0x0A]
    program.length ≤ 3584 ∧ ∃ start, load program .vx .zeros .silent = .ok start ∧
      start.Diagnoses 5 (start.diagnose 5) ∧ (start.diagnose 5).exitCode = 0 ∧
      (start.diagnose 5).machine.instructionCount = 2 ∧
      (start.diagnose 5).outcome = .ok { last := some .awaitKey, redraws := 1 } := by
  intro program
  have short : program.length ≤ 3584 := by decide
  obtain ⟨start, loaded, diagnoses⟩ := diagnoses_of_load short .vx .zeros .silent 5
  refine ⟨short, start, loaded, diagnoses, ?_⟩
  have placed : load program .vx .zeros .silent =
      .ok { memory := Memory.withFont.writeBlock Memory.programStart program, programSize := 4 } := rfl
  cases placed.symm.trans loaded
  decide +kernel

end Machine
end Chip8
