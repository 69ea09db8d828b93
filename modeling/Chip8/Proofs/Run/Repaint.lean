import Chip8.Proofs.Machine.Effect
import Chip8.Proofs.Machine.Request
import Chip8.Proofs.Run.Watched

namespace Chip8

open Chip8.Action (Keeps run_bind)

namespace Console

def stepped (console : Console) (others : Interference) : Option Machine :=
  let shown := (console.disturb others.beforeCapture).showKeys.disturb others.beforeTake
  match shown.machine.runState with
  | .running => some shown.machine
  | .awaitingKey _ =>
    shown.takePress.1.bind fun key => shown.machine.answered? key.val

/-- The machines that some cycles step, one after the other. -/
def steppedAll (others : Nat → Interference) : Nat → Console → List Machine
  | 0, _ => []
  | count + 1, console =>
    let cycle := Cycle.run console (others count)
    (console.stepped (others count)).toList ++
      match cycle.outcome with
      | .ok _ => steppedAll others count cycle.console
      | .error _ => []

variable {console : Console} {others : Interference} {machine : Machine}

theorem finish_eq (delivered : Option (Fin 16 × Int)) :
    (Cycle.finish console others delivered).outcome = console.machine.step.1 ∧
      (Cycle.finish console others delivered).console.machine = console.machine.step.2 := by
  have same : (console.disturb others.beforeStep).machine = console.machine := rfl
  rw [Cycle.finish, step, same]
  cases console.machine.step with
  | mk outcome after =>
      cases outcome with
      | error error => exact ⟨rfl, rfl⟩
      | ok result =>
          refine ⟨rfl, ?_⟩
          simp only [settle]
          split <;> rfl

/-- A cycle either steps a running machine with the display that it found, or leaves the display
alone and reports no picture. -/
theorem run_cases (console : Console) (others : Interference) :
    (∃ machine, console.stepped others = some machine ∧ machine.runState = .running ∧
      machine.display = console.machine.display ∧
      (Cycle.run console others).outcome = machine.step.1 ∧
      (Cycle.run console others).console.machine = machine.step.2) ∨
    (console.stepped others = none ∧
      (Cycle.run console others).console.machine.display = console.machine.display ∧
      ∀ result, (Cycle.run console others).outcome = .ok result → result.redraw = false) := by
  rw [Console.stepped, Cycle.run]
  have display : ((console.disturb others.beforeCapture).showKeys.disturb
    others.beforeTake).machine.display = console.machine.display := rfl
  generalize (console.disturb others.beforeCapture).showKeys.disturb others.beforeTake = shown at *
  cases state : shown.machine.runState with
  | running =>
      simp only
      obtain ⟨outcome, machine⟩ := @finish_eq shown others none
      exact Or.inl ⟨shown.machine, rfl, state, display, outcome, machine⟩
  | awaitingKey register =>
      simp only [takePress, Keypad.take]
      cases shown.keypad.pressed with
      | none =>
          refine Or.inr ⟨rfl, display, ?_⟩
          rintro result ⟨⟩
          rfl
      | some key =>
          simp only [Option.bind_some, deliver, Machine.answered?]
          obtain ⟨error, refused⟩ | ⟨registers, taken⟩ := shown.machine.deliverKey_cases key.val
          · rw [refused]
            refine Or.inr ⟨rfl, display, ?_⟩
            rintro result ⟨⟩
          · rw [taken]
            exact Or.inl ⟨_, rfl, rfl, display, finish_eq _⟩

end Console

namespace Runner

variable {δ α : Type} {stepped : List Machine} {before after : Runner (Watched δ)}

/-- Nothing was shown.  Where an instruction changed the display the display is pending; otherwise
both the display and what is pending are as they were. -/
structure Repainted (stepped : List Machine) (before after : Runner (Watched δ)) : Prop where
  showing : after.host.device.showing = before.host.device.showing
  fresh : (∃ machine ∈ stepped, machine.Repaints) → after.pending = some after.machine.display
  kept : (∀ machine ∈ stepped, ¬ machine.Repaints) →
    after.pending = before.pending ∧ after.machine.display = before.machine.display

theorem Repainted.rest (showing : after.host.device.showing = before.host.device.showing)
    (pending : after.pending = before.pending)
    (display : after.machine.display = before.machine.display) : Repainted [] before after :=
  ⟨showing, by simp, fun _ => ⟨pending, display⟩⟩

theorem Repainted.refl (runner : Runner (Watched δ)) : Repainted [] runner runner :=
  .rest rfl rfl rfl

theorem Repainted.append {between : Runner (Watched δ)} {later : List Machine}
    (first : Repainted stepped before between) (second : Repainted later between after) :
    Repainted (stepped ++ later) before after where
  showing := second.showing.trans first.showing
  fresh := by
    rintro ⟨machine, here, repaints⟩
    by_cases again : ∃ machine ∈ later, machine.Repaints
    · exact second.fresh again
    · obtain ⟨pending, display⟩ := second.kept (by simpa using again)
      rcases List.mem_append.mp here with early | late
      · rw [pending, display]
        exact first.fresh ⟨machine, early, repaints⟩
      · exact absurd ⟨machine, late, repaints⟩ again
  kept quiet := by
    obtain ⟨pending, display⟩ := first.kept fun machine here =>
      quiet machine (List.mem_append_left later here)
    obtain ⟨pendingLater, displayLater⟩ := second.kept fun machine here =>
      quiet machine (List.mem_append_right stepped here)
    exact ⟨pendingLater.trans pending, displayLater.trans display⟩

theorem Repainted.trans {between : Runner (Watched δ)} (first : Repainted [] before between)
    (second : Repainted [] between after) : Repainted [] before after := first.append second

theorem pending_of_picture {runner : Runner (Watched δ)} {cycle : Cycle} {result : StepResult}
    {display : Display} (outcome : cycle.outcome = .ok result) (redraw : result.effect = .redraw)
    (picture : result.display = some display) : (runner.afterCycle cycle).pending = some display := by
  simp [afterCycle, outcome, StepResult.redraw, redraw, picture]

theorem pending_of_quiet {runner : Runner (Watched δ)} {cycle : Cycle}
    (quiet : ∀ result, cycle.outcome = .ok result → result.redraw = false) :
    (runner.afterCycle cycle).pending = runner.pending := by
  cases outcome : cycle.outcome with
  | error error => simp [afterCycle, outcome]
  | ok result => simp [afterCycle, outcome, quiet result outcome]

/-- A cycle makes the display pending exactly when it changed the display. -/
theorem repainted_afterCycle (runner : Runner (Watched δ)) (others : Interference) :
    Repainted (runner.console.stepped others).toList runner
      (runner.afterCycle (Cycle.run runner.console others)) := by
  rcases runner.console.run_cases others with
    ⟨machine, stepped, running, display, outcome, ended⟩ | ⟨idle, display, quiet⟩
  · rw [stepped]
    generalize Cycle.run runner.console others = cycle at outcome ended
    have came := Machine.step_stepped running
    generalize machine.step = performed at came outcome ended
    cases came with
    | @failed error after plain kept =>
        have idle : ¬ machine.Repaints := by
          rintro ⟨_, clears | draws⟩
          · cases plain _ clears
          · cases plain _ draws
        refine ⟨rfl, by simp [idle], fun _ => ⟨pending_of_quiet ?_, ?_⟩⟩
        · rintro result done
          cases outcome.symm.trans done
        · exact (congrArg Machine.display ended).trans (kept.trans display)
    | @done form result after covers effect picture kept =>
        have exactly := Machine.repaints_iff running covers
        refine ⟨rfl, ?_, ?_⟩
        · simp only [Option.toList_some, List.mem_singleton, exists_eq_left]
          intro repaints
          have redraw : result.effect = .redraw := effect.trans (exactly.mp repaints)
          rw [if_pos redraw] at picture
          rw [pending_of_picture outcome redraw picture]
          exact congrArg (fun machine => some machine.display) ended.symm
        · simp only [Option.toList_some, List.mem_singleton, forall_eq]
          intro plain
          have quiet := mt exactly.mpr plain
          refine ⟨pending_of_quiet ?_, (congrArg Machine.display ended).trans ?_⟩
          · intro other done
            cases outcome.symm.trans done
            exact decide_eq_false (effect ▸ quiet)
          · exact (kept quiet).trans display
  · rw [idle]
    exact .rest rfl (pending_of_quiet quiet) display

theorem repainted_runCycles (others : Nat → Interference) (count : Nat)
    (runner : Runner (Watched δ)) :
    Repainted (runner.console.steppedAll others count) runner
      ((runCycles others count).run.run runner).2 := by
  induction count generalizing runner with
  | zero => exact .refl runner
  | succ count ih =>
      have first := repainted_afterCycle runner (others count)
      have ran : (runCycle (others count)).run.run runner =
        ((Cycle.run runner.console (others count)).outcome.mapError HostError.machine,
          runner.afterCycle (Cycle.run runner.console (others count))) := rfl
      rw [runCycles, run_bind, Console.steppedAll, ran]
      cases outcome : (Cycle.run runner.console (others count)).outcome with
      | error error => exact first.append (.refl _)
      | ok result =>
          exact first.append (ih (runner.afterCycle (Cycle.run runner.console (others count))))

theorem Repainted.bind {β : Type} {action : Action (Runner (Watched δ)) α}
    {next : α → Action (Runner (Watched δ)) β}
    (first : Repainted stepped before (action.run.run before).2)
    (rest : ∀ value, Keeps (Repainted []) (next value)) :
    Repainted stepped before ((action >>= next).run.run before).2 := by
  refine Action.reached_of_bind first fun value => ?_
  have whole := first.append (rest value _)
  rwa [List.append_nil] at whole

theorem repainted_runCounted (others : Nat → Interference) (count : Nat)
    (runner : Runner (Watched δ)) :
    Repainted (runner.console.steppedAll others count) runner
      ((runCounted others count).run.run runner).2 :=
  (repainted_runCycles others count runner).bind fun _ _ => .rest rfl rfl rfl

theorem keeps_watch (action : Action (Host δ) α) :
    Keeps (Repainted []) (onHost (Host.watch action)) := by
  intro runner
  rw [run_onHost]
  exact .rest rfl rfl rfl

theorem keeps_entry (clock : Action (Host δ) Float) : Keeps (Repainted (δ := δ) []) (do
    modify fun runner => { runner with running := true }
    let now ← onHost (Host.watch clock)
    modify fun runner =>
      { runner with
        pace := { runner.pace with lastTime := now }
        meter := runner.meter.restart now }
    note .info s!"Entering main loop ({(← get).pace.speed} instructions/s)") := by
  refine Keeps.bind .trans (fun _ => .rest rfl rfl rfl) fun _ => ?_
  refine Keeps.bind .trans (keeps_watch clock) fun now => ?_
  exact Keeps.bind .trans (fun _ => .rest rfl rfl rfl) fun _ _ => .rest rfl rfl rfl

structure Painted (before after : Runner (Watched δ)) : Prop where
  pending : after.pending = none
  display : after.machine.display = before.machine.display
  showing : after.host.device.showing = { before.host.device.showing with
    pictures := before.host.device.showing.pictures ++ before.pending.toList }

theorem Painted.trans {between : Runner (Watched δ)} (painted : Painted before between)
    (rest : Repainted [] between after) : Painted before after := by
  obtain ⟨pending, display⟩ := rest.kept (by simp)
  exact ⟨pending.trans painted.pending, display.trans painted.display,
    rest.showing.trans painted.showing⟩

/-- Either nothing is pending and the picture shown last is the display, or the display is
pending. -/
def Current (runner : Runner (Watched δ)) : Prop :=
  (runner.pending = none ∧
    runner.host.device.showing.pictures.getLast? = some runner.machine.display) ∨
  runner.pending = some runner.machine.display

theorem Current.repainted (current : before.Current) (repainted : Repainted stepped before after) :
    after.Current := by
  by_cases fresh : ∃ machine ∈ stepped, machine.Repaints
  · exact Or.inr (repainted.fresh fresh)
  · obtain ⟨pending, display⟩ := repainted.kept (by simpa using fresh)
    rw [Current, pending, display, repainted.showing]
    exact current

theorem Current.painted (current : before.Current) (painted : Painted before after) :
    after.Current := by
  refine Or.inl ⟨painted.pending, ?_⟩
  rw [painted.showing, painted.display]
  rcases current with ⟨pending, last⟩ | pending
  · simpa [pending] using last
  · simp [pending]

end Runner

end Chip8
