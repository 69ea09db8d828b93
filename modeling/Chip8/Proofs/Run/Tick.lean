import Chip8.Proofs.Host.Action
import Chip8.Run.Runner

namespace Chip8.Runner

open Chip8.Action (Ends Keeps)

variable {δ α : Type}

theorem run_onHost (action : Action (Host δ) α) (runner : Runner δ) :
    (onHost action).run.run runner =
      ((action.run.run runner.host).1, { runner with host := (action.run.run runner.host).2 }) := rfl

theorem ends_onHost {start goal : Host δ → Prop} {action : Action (Host δ) α}
    (ends : Ends start goal action) (running : Bool) :
    Ends (fun runner => runner.running = running ∧ start runner.host)
      (fun runner => runner.running = running ∧ goal runner.host) (onHost action) :=
  fun runner held => ⟨held.1, ends runner.host held.2⟩

theorem run_dueCycles (elapsed : Float) (runner : Runner δ) :
    let paid := runner.pace.dueInstructions elapsed
    ∃ outcome, outcome.toOption = paid.1.toOption ∧
      (dueCycles elapsed).run.run runner = (outcome, { runner with pace := paid.2 }) := by
  rw [dueCycles, Action.run_get]
  cases runner.pace.dueInstructions elapsed with
  | mk due pace =>
      cases due with
      | error error => cases error <;> exact ⟨_, rfl, rfl⟩
      | ok count => exact ⟨_, rfl, rfl⟩

theorem run_runCycle (others : Interference) (observer : Observer δ) (runner : Runner δ) :
    (runCycle others observer).run.run runner =
      ((Cycle.run runner.console others).outcome.mapError HostError.machine,
        (runner.afterCycle (Cycle.run runner.console others)).observed observer
          (.beat (.cycle (Cycle.run runner.console others).outcome.isOk))) := rfl

theorem catchUp_of_enough (observer : Observer δ) {period budget : Float}
    (enough : period ≤ budget ∧ (budget - period).toBits.toNat < budget.toBits.toNat) :
    catchUp observer period budget =
      tickTimers observer >>= fun _ => catchUp observer period (budget - period) := by
  rw [catchUp, if_pos enough]

theorem catchUp_of_short (observer : Observer δ) {period budget : Float}
    (short : ¬(period ≤ budget ∧ (budget - period).toBits.toNat < budget.toBits.toNat)) :
    catchUp observer period budget = pure budget := by
  rw [catchUp, if_neg short]

theorem runCounted_zero (others : Nat → Interference) (observer : Observer δ) :
    runCounted others 0 observer = pure () := by
  funext runner
  have same : runner.meter.add (runner.machine.instructionCount - runner.machine.instructionCount) =
      runner.meter := by
    rw [Int.sub_self, Meter.add, Int.add_zero]
  have ran : (runCounted others 0 observer).run.run runner = (.ok (), { runner with
      meter := runner.meter.add
        (runner.machine.instructionCount - runner.machine.instructionCount) }) := rfl
  exact ran.trans (by rw [same]; rfl)

theorem run_readPaused [Frontend δ] (observer : Observer δ) (runner : Runner δ) :
    (readPaused observer).run.run runner =
      let paused := Frontend.paused runner.host.device
      (.ok paused, runner.observed observer (.paused paused)) := rfl

variable [Frontend δ] {observer : Observer δ}

def cyclesDue (now : Float) (observer : Observer δ := .blind) : Action (Runner δ) Nat := do
  let elapsed ← passTime now observer
  if ← readPaused observer then
    return 0
  else
    dueCycles elapsed

/-- What a tick does before its cycles.  Unless the user quits, it gives the number of the cycles
and the time. -/
def outset (clock : Action (Host δ) Float) (observer : Observer δ := .blind) :
    Action (Runner δ) (Option (Nat × Float)) := do
  if ← onHost Frontend.poll then
    let now ← readClock clock observer
    return some (← cyclesDue now observer, now)
  else
    return none

def proceed (others : Nat → Interference) (due : Option (Nat × Float))
    (observer : Observer δ := .blind) : Action (Runner δ) Unit :=
  match due with
  | none => modify fun runner => { runner with running := false }
  | some (count, now) => do
    runCounted others count observer
    paint
    measure now

theorem workAt_eq (others : Nat → Interference) (now : Float) :
    workAt others now observer =
      cyclesDue now observer >>= fun count => proceed others (some (count, now)) observer := by
  rw [workAt, cyclesDue, bind_assoc]
  congr 1
  funext elapsed
  rw [bind_assoc]
  congr 1
  funext paused
  cases paused with
  -- A paused tick skips its cycles, and `proceed` runs none of them.
  | true => simp [proceed, runCounted_zero]
  | false => simp [proceed]

theorem tick_eq (others : Nat → Interference) (clock : Action (Host δ) Float) :
    tick others clock observer = outset clock observer >>= (proceed others · observer) := by
  rw [tick, outset, bind_assoc]
  congr 1
  funext goesOn
  cases goesOn with
  | false => rfl
  | true => simp only [if_true, bind_assoc, workAt_eq, pure_bind]

/-- Only a user who quits ends a tick before its cycles. -/
theorem polled_of_outset {clock : Action (Host δ) Float} {runner : Runner δ}
    (ended : ((outset clock observer).run.run runner).1 = .ok none) :
    (Frontend.poll.run.run runner.host).1 = .ok false := by
  obtain ⟨goesOn, polled, ended, _⟩ := Action.ok_of_bind ended
  cases goesOn with
  | false => exact polled
  | true =>
      obtain ⟨now, _, ended, _⟩ := Action.ok_of_bind ended
      obtain ⟨count, _, ended, _⟩ := Action.ok_of_bind ended
      cases ended

def present (clock : Action (Host δ) Float) : Action (Runner δ) Unit := do
  onHost (Frontend.draw (← get).machine.display)
  modify fun runner => { runner with running := true }
  let now ← onHost clock
  modify fun runner =>
    { runner with
      pace := { runner.pace with lastTime := now }
      meter := runner.meter.restart now }
  note .info s!"Entering main loop ({(← get).pace.speed} instructions/s)"

theorem enter_eq (clock : Action (Host δ) Float) :
    enter clock = onHost Frontend.start >>= fun _ => present clock := rfl

/-- However a run leaves, it rests then, and its host is as the front end left it but for a record
in the log. -/
theorem ends_leave {start goal : Host δ → Prop} (stop : Ends start goal Frontend.stop)
    (noted : ∀ record, Ends goal goal (Host.note record)) :
    Ends (fun runner => start runner.host)
      (fun runner => runner.running = false ∧ goal runner.host) leave := by
  intro runner held
  have stopped := ends_onHost stop false
  refine (stopped.bind (fun _ => id) fun _ => ?_) { runner with running := false } ⟨rfl, held⟩
  refine .get fun _ rested => ?_
  rintro reached rfl
  exact ends_onHost (noted _) false reached rested

section

variable {relation : Runner δ → Runner δ → Prop}

omit [Frontend δ] in
theorem keeps_dueCycles (paced : ∀ runner pace, relation runner { runner with pace })
    (elapsed : Float) : Keeps relation (dueCycles elapsed) := by
  intro runner
  obtain ⟨outcome, _, ran⟩ := run_dueCycles elapsed runner
  rw [ran]
  exact paced runner _

variable (relation) (trans : ∀ {first second third}, relation first second → relation second third →
  relation first third) (refl : ∀ runner, relation runner runner)
include trans refl

theorem keeps_paint (draw : ∀ display, Keeps relation (onHost (Frontend.draw display)))
    (shown : ∀ runner, relation runner { runner with pending := none }) :
    Keeps relation paint := by
  refine Keeps.get fun runner => ?_
  cases runner.pending with
  | none => exact refl
  | some display =>
      exact Keeps.bind @trans (draw display) fun _ => shown

theorem keeps_measure (metered : ∀ runner meter, relation runner { runner with meter })
    (report : ∀ rate, Keeps relation (onHost (Frontend.reportSpeed rate))) (now : Float) :
    Keeps relation (measure now) := by
  refine Keeps.get fun runner => ?_
  cases runner.meter.close? now with
  | none => exact refl
  | some meter =>
      exact Keeps.bind @trans (fun runner => metered runner meter) fun _ => report _

omit [Frontend δ] in
theorem keeps_passTime
    (ticked : ∀ runner, relation runner { runner with machine := runner.machine.decrementTimers })
    (paced : ∀ runner pace, relation runner { runner with pace }) (now : Float) :
    Keeps relation (passTime now) := by
  have caughtUp (period budget : Float) : Keeps relation (catchUp .blind period budget) := by
    induction budget using catchUp.induct period with
    | case1 budget rest enough ih =>
        rw [catchUp_of_enough .blind enough]
        exact Keeps.bind @trans ticked fun _ => ih
    | case2 budget rest short =>
        rw [catchUp_of_short .blind short]
        exact refl
  exact Keeps.get fun runner => Keeps.bind @trans (caughtUp _ _) fun _ reached => paced reached _

theorem keeps_outset {clock : Action (Host δ) Float}
    (poll : Keeps relation (onHost Frontend.poll)) (read : Keeps relation (onHost clock))
    (ticked : ∀ runner, relation runner { runner with machine := runner.machine.decrementTimers })
    (paced : ∀ runner pace, relation runner { runner with pace }) :
    Keeps relation (outset clock) := by
  refine Keeps.bind @trans poll fun goesOn => ?_
  cases goesOn with
  | false => exact refl
  | true =>
      refine Keeps.bind @trans (Keeps.bind @trans read fun _ => refl) fun now => ?_
      refine Keeps.bind @trans ?_ fun _ => refl
      refine Keeps.bind @trans (keeps_passTime relation trans refl ticked paced now) fun elapsed => ?_
      refine Keeps.bind @trans refl fun paused => ?_
      cases paused with
      | true => exact refl
      | false => exact keeps_dueCycles paced elapsed

end

end Chip8.Runner
