import Chip8.Proofs.Run.Tick
import Mathlib.Data.List.Forall2

/-!
# Runs side by side

The run loop asks little of its host.  If two front ends do the same to the keypad and answer alike,
then two runs on them, of one machine at one pace, do the same from their beginning to their end.
-/

namespace Chip8

open Chip8.Action (Ends Mirrors Parallel parallel_iff_mirrors)

variable {δ ε : Type} {α : Type}

/-- A relation of hosts that holds on through all that ticks do to them, and that lets them answer
alike. -/
structure Host.Twins (related : Host δ → Host ε → Prop) [Frontend δ] [Frontend ε] : Prop where
  sameKeypad : ∀ {host twin}, related host twin → host.keypad = twin.keypad
  keypad : ∀ {host twin}, related host twin → ∀ keypad,
    related { host with keypad } { twin with keypad }
  note : ∀ record, Parallel related (Host.note record) (Host.note record)
  poll : Parallel related Frontend.poll Frontend.poll
  draw : ∀ display, Parallel related (Frontend.draw display) (Frontend.draw display)
  reportSpeed : ∀ rate, Parallel related (Frontend.reportSpeed rate) (Frontend.reportSpeed rate)
  paused : ∀ {host twin}, related host twin →
    Frontend.paused host.device = Frontend.paused twin.device

def Host.mapDevice (image : δ → ε) (host : Host δ) : Host ε :=
  { host with device := image host.device }

/-- An action on the host of a part of a device. -/
def Host.within (part : ε → δ) (replace : ε → δ → ε) (action : Action (Host δ) α) :
    Action (Host ε) α := fun host =>
  let (outcome, inner) := action.run.run (host.mapDevice part)
  (outcome, inner.mapDevice (replace host.device))

theorem Host.mirrors_within {part : ε → δ} {replace : ε → δ → ε}
    (replaced : ∀ whole inner, part (replace whole inner) = inner) (action : Action (Host δ) α) :
    Mirrors (mapDevice part) (within part replace action) action := by
  intro host
  have same (whole : ε) (inner : Host δ) :
      (inner.mapDevice (replace whole)).mapDevice part = inner := by
    simp only [mapDevice, replaced]
  exact Prod.ext rfl (same host.device _).symm

def Observer.Twins (related : Host δ → Host ε → Prop) (observer : Observer δ)
    (other : Observer ε) : Prop :=
  ∀ seen {host twin}, related host twin →
    related (host.observed observer seen) (twin.observed other seen)

theorem Observer.twins_blind (related : Host δ → Host ε → Prop) : Twins related blind blind :=
  fun _ _ _ alike => alike

theorem Host.twins_mapDevice [Frontend δ] [Frontend ε] {image : δ → ε}
    (poll : Mirrors (mapDevice image) Frontend.poll Frontend.poll)
    (draw : ∀ display, Mirrors (mapDevice image) (Frontend.draw display) (Frontend.draw display))
    (reportSpeed : ∀ rate,
      Mirrors (mapDevice image) (Frontend.reportSpeed rate) (Frontend.reportSpeed rate))
    (paused : ∀ device, Frontend.paused (image device) = Frontend.paused device) :
    Twins fun host twin => host.mapDevice image = twin where
  sameKeypad := by
    rintro host _ rfl
    rfl
  keypad := by
    rintro host _ rfl keypad
    rfl
  note record := parallel_iff_mirrors.mpr fun _ => rfl
  poll := parallel_iff_mirrors.mpr poll
  draw display := parallel_iff_mirrors.mpr (draw display)
  reportSpeed rate := parallel_iff_mirrors.mpr (reportSpeed rate)
  paused := by
    rintro host _ rfl
    exact (paused host.device).symm

namespace Runner

/-- Two runners that differ at most in their hosts. -/
structure Twins (related : Host δ → Host ε → Prop) (runner : Runner δ) (twin : Runner ε) : Prop where
  machine : runner.machine = twin.machine
  pace : runner.pace = twin.pace
  meter : runner.meter = twin.meter
  running : runner.running = twin.running
  pending : runner.pending = twin.pending
  host : related runner.host twin.host

variable {related : Host δ → Host ε → Prop}

theorem Twins.eq {image : Host δ → Host ε} {runner : Runner δ} {twin : Runner ε}
    (alike : Twins (fun host twin => image host = twin) runner twin) :
    { runner with host := image runner.host } = twin := by
  obtain ⟨machine, host, pace, meter, running, pending⟩ := twin
  obtain ⟨rfl, rfl, rfl, rfl, rfl, rfl⟩ := alike
  rfl

theorem mirrors_of_parallel {image : Host δ → Host ε} {action : Action (Runner δ) α}
    {other : Action (Runner ε) α}
    (parallel : Parallel (Twins fun host twin => image host = twin) action other) :
    Mirrors (fun runner => { runner with host := image runner.host }) action other := by
  intro runner
  obtain ⟨outcome, alike⟩ := parallel runner { runner with host := image runner.host }
    ⟨rfl, rfl, rfl, rfl, rfl, rfl⟩
  exact Prod.ext outcome.symm alike.eq.symm

/-- What a run keeps of its host side by side with itself it keeps. -/
theorem ends_of_parallel {holds : Host δ → Prop} {action : Action (Runner δ) α}
    (parallel : Parallel (Twins fun host twin => host = twin ∧ holds host) action action) :
    Ends (fun runner => holds runner.host) (fun runner => holds runner.host) action :=
  fun runner held => (parallel runner runner ⟨rfl, rfl, rfl, rfl, rfl, rfl, held⟩).2.host.2

theorem parallel_onHost {action : Action (Host δ) α} {other : Action (Host ε) α}
    (parallel : Parallel related action other) :
    Parallel (Twins related) (onHost action) (onHost other) := by
  intro runner twin alike
  obtain ⟨outcome, host⟩ := parallel runner.host twin.host alike.host
  exact ⟨outcome, { alike with host }⟩

theorem parallel_modify {change : Runner δ → Runner δ} {otherChange : Runner ε → Runner ε}
    (changes : ∀ {runner twin}, Twins related runner twin →
      Twins related (change runner) (otherChange twin)) :
    Parallel (Twins related) (modify change) (modify otherChange) :=
  fun _ _ alike => ⟨rfl, changes alike⟩

variable {observer : Observer δ} {other : Observer ε}

theorem Twins.observed {runner : Runner δ} {twin : Runner ε} (alike : Twins related runner twin)
    (observers : observer.Twins related other) (seen : Observation) :
    Twins related (runner.observed observer seen) (twin.observed other seen) :=
  { alike with host := observers seen alike.host }

theorem parallel_observe (observers : observer.Twins related other) (seen : Observation) :
    Parallel (Twins related) (observe observer seen) (observe other seen) :=
  parallel_modify fun alike => alike.observed observers seen

theorem parallel_catchUp (observers : observer.Twins related other) (period budget : Float) :
    Parallel (Twins related) (catchUp observer period budget) (catchUp other period budget) := by
  induction budget using catchUp.induct period with
  | case1 budget rest enough ih =>
      rw [catchUp_of_enough observer enough, catchUp_of_enough other enough]
      refine .bind (.bind ?_ fun _ => parallel_observe observers (.beat .timers)) fun _ => ih
      exact parallel_modify fun alike => { alike with machine := by rw [alike.machine] }
  | case2 budget rest short =>
      rw [catchUp_of_short observer short, catchUp_of_short other short]
      exact .pure budget

theorem parallel_passTime (observers : observer.Twins related other) (now : Float) :
    Parallel (Twins related) (passTime now observer) (passTime now other) := by
  refine .get fun runner twin alike => ?_
  rw [alike.pace]
  refine (parallel_catchUp observers _ _).bind fun rest => .bind ?_ fun _ => .pure _
  exact parallel_modify fun later => { later with pace := rfl }

theorem parallel_dueCycles (elapsed : Float) :
    Parallel (Twins related) (dueCycles elapsed) (dueCycles elapsed) := by
  refine .get fun runner twin alike => ?_
  rw [alike.pace]
  obtain ⟨due, pace⟩ := twin.pace.dueInstructions elapsed
  refine .bind (fun _ _ _ => ⟨rfl, { alike with pace := rfl }⟩) fun _ => ?_
  cases due with
  | error error => cases error <;> exact .throw _
  | ok count => exact .pure count

variable [Frontend δ] [Frontend ε] (twins : Host.Twins related)
  (observers : observer.Twins related other)
include twins

theorem Twins.afterCycle {runner : Runner δ} {twin : Runner ε} (alike : Twins related runner twin)
    (cycle : Cycle) : Twins related (runner.afterCycle cycle) (twin.afterCycle cycle) := by
  have played := twins.keypad alike.host cycle.console.keypad
  refine ⟨rfl, alike.pace, alike.meter, alike.running, ?_, ?_⟩
  · simp only [Runner.afterCycle, alike.pending]
  · simp only [Runner.afterCycle]
    cases cycle.delivered with
    | none => exact played
    | some delivered => exact (twins.note _ _ _ played).2

include observers

theorem parallel_runCycle (others : Interference) :
    Parallel (Twins related) (runCycle others observer) (runCycle others other) := by
  intro runner twin alike
  -- A cycle sees nothing of the host but its keypad.
  have console : runner.console = twin.console := by
    rw [Runner.console, Runner.console, alike.machine, twins.sameKeypad alike.host]
  rw [run_runCycle, run_runCycle, console]
  exact ⟨rfl, (alike.afterCycle twins _).observed observers _⟩

theorem parallel_runCycles (others : Nat → Interference) (count : Nat) :
    Parallel (Twins related) (runCycles others count observer) (runCycles others count other) := by
  induction count with
  | zero => exact .pure ()
  | succ count ih => exact (parallel_runCycle twins observers (others count)).bind fun _ => ih

theorem parallel_runCounted (others : Nat → Interference) (count : Nat) :
    Parallel (Twins related) (runCounted others count observer) (runCounted others count other) := by
  refine .get fun runner twin alike => ?_
  rw [alike.machine]
  refine (parallel_runCycles twins observers others count).bind fun _ => parallel_modify fun later => ?_
  exact { later with meter := by rw [later.machine, later.meter] }

omit observers in
theorem parallel_paint : Parallel (Twins related) paint paint := by
  refine .get fun runner twin alike => ?_
  rw [alike.pending]
  cases twin.pending with
  | none => exact .pure ()
  | some display =>
      refine (parallel_onHost (twins.draw display)).bind fun _ => parallel_modify fun later => ?_
      exact { later with pending := rfl }

omit observers in
theorem parallel_measure (now : Float) :
    Parallel (Twins related) (measure now) (measure now) := by
  refine .get fun runner twin alike => ?_
  rw [alike.meter]
  cases twin.meter.close? now with
  | none => exact .pure ()
  | some meter =>
      refine (parallel_modify fun later => ?_).bind fun _ => parallel_onHost (twins.reportSpeed _)
      exact { later with meter := rfl }

theorem parallel_readPaused :
    Parallel (Twins related) (readPaused observer) (readPaused other) := by
  refine .get fun runner twin alike => ?_
  rw [twins.paused alike.host]
  exact (parallel_observe observers _).bind fun _ => .pure _

theorem parallel_cyclesDue (now : Float) :
    Parallel (Twins related) (cyclesDue now observer) (cyclesDue now other) := by
  refine (parallel_passTime observers now).bind fun elapsed => ?_
  refine (parallel_readPaused twins observers).bind fun paused => ?_
  cases paused with
  | true => exact .pure 0
  | false => exact parallel_dueCycles elapsed

variable {clock : Action (Host δ) Float} {otherClock : Action (Host ε) Float}

theorem parallel_outset (clocks : Parallel related clock otherClock) :
    Parallel (Twins related) (outset clock observer) (outset otherClock other) := by
  refine (parallel_onHost twins.poll).bind fun goesOn => ?_
  cases goesOn with
  | false => exact .pure none
  | true =>
      have read : Parallel (Twins related) (readClock clock observer) (readClock otherClock other) :=
        (parallel_onHost clocks).bind fun now =>
          (parallel_observe observers (.time now)).bind fun _ => .pure now
      exact read.bind fun now =>
        (parallel_cyclesDue twins observers now).bind fun _ => .pure _

theorem parallel_proceed (others : Nat → Interference) (due : Option (Nat × Float)) :
    Parallel (Twins related) (proceed others due observer) (proceed others due other) := by
  cases due with
  | none =>
      refine parallel_modify fun later => ?_
      exact { later with running := rfl }
  | some due =>
      exact (parallel_runCounted twins observers others due.1).bind fun _ =>
        (parallel_paint twins).bind fun _ => parallel_measure twins due.2

theorem parallel_tick (others : Nat → Interference) (clocks : Parallel related clock otherClock) :
    Parallel (Twins related) (tick others clock observer) (tick others otherClock other) := by
  rw [tick_eq, tick_eq]
  exact (parallel_outset twins observers clocks).bind fun due =>
    parallel_proceed twins observers others due

omit observers

theorem parallel_present (clocks : Parallel related clock otherClock) :
    Parallel (Twins related) (present clock) (present otherClock) := by
  refine .get fun runner twin alike => ?_
  rw [alike.machine]
  refine (parallel_onHost (twins.draw _)).bind fun _ => ?_
  refine (parallel_modify fun later => ?_).bind fun _ => ?_
  · exact { later with running := rfl }
  refine (parallel_onHost clocks).bind fun now => ?_
  refine (parallel_modify fun later => ?_).bind fun _ => .get fun runner twin alike => ?_
  · exact { later with pace := by rw [later.pace], meter := by rw [later.meter] }
  · rw [alike.pace]
    exact parallel_onHost (twins.note _)

theorem parallel_enter (start : Parallel related Frontend.start Frontend.start)
    (clocks : Parallel related clock otherClock) :
    Parallel (Twins related) (enter clock) (enter otherClock) :=
  (parallel_onHost start).bind fun _ => parallel_present twins clocks

theorem parallel_leave (stop : Parallel related Frontend.stop Frontend.stop) :
    Parallel (Twins related) leave leave := by
  refine (parallel_modify fun later => ?_).bind fun _ => ?_
  · exact { later with running := rfl }
  refine (parallel_onHost stop).bind fun _ => .get fun runner twin alike => ?_
  rw [alike.machine]
  exact parallel_onHost (twins.note _)

theorem parallel_loop (clocks : Parallel related Host.now Host.now)
    {sleeps : List (Action (Host δ) Unit)} {otherSleeps : List (Action (Host ε) Unit)}
    (sleep : List.Forall₂ (Parallel related) sleeps otherSleeps) :
    Parallel (Twins related) (loop sleeps) (loop otherSleeps) := by
  induction sleep with
  | nil => exact .throw .interrupted
  | cons first _ ih =>
      refine (parallel_tick twins (Observer.twins_blind _) _ clocks).bind fun _ => ?_
      refine (parallel_onHost first).bind fun _ => .get fun runner twin alike => ?_
      rw [alike.running]
      cases twin.running with
      | false => exact .pure ()
      | true => exact ih

theorem parallel_run (start : Parallel related Frontend.start Frontend.start)
    (stop : Parallel related Frontend.stop Frontend.stop)
    (clocks : Parallel related Host.now Host.now)
    {sleeps : List (Action (Host δ) Unit)} {otherSleeps : List (Action (Host ε) Unit)}
    (sleep : List.Forall₂ (Parallel related) sleeps otherSleeps) :
    Parallel (Twins related) (run sleeps) (run otherSleeps) :=
  .thenAlways ((parallel_enter twins start clocks).bind fun _ => parallel_loop twins clocks sleep)
    (parallel_leave twins stop)

end Runner

end Chip8
