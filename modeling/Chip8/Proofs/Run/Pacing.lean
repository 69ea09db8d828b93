import Chip8.Proofs.Run.Beats
import Chip8.Proofs.Run.Plan

namespace Chip8

open Chip8.Action (Keeps run_bind)

/-- The beats of a number of cycles, the first error among which ends them. -/
def Beat.AreCycles (due : Nat) (beats : List Beat) : Prop :=
  beats = List.replicate due (.cycle true) ∨
    ∃ ran < due, beats = List.replicate ran (.cycle true) ++ [.cycle false]

theorem Beat.AreCycles.cons {due : Nat} {beats : List Beat} (cycles : AreCycles due beats) :
    AreCycles (due + 1) (.cycle true :: beats) := by
  rcases cycles with rfl | ⟨ran, early, rfl⟩
  · exact .inl rfl
  · exact .inr ⟨ran + 1, by omega, rfl⟩

/-- A tick in the journal of a run. -/
structure Entry where
  before : Pace
  tally : Tally
  after : Pace

namespace Entry

def plan (entry : Entry) : Pace.Plan := entry.before.plan entry.tally.time? entry.tally.paused

/-- The tick went by its plan. -/
structure AsPlanned (entry : Entry) : Prop where
  pace : entry.after = entry.plan.pace
  beats : ∃ cycles, Beat.AreCycles entry.plan.cycles cycles ∧
    entry.tally.beats = List.replicate entry.plan.ticks .timers ++ cycles

end Entry

theorem Pace.spend_of_enough {period budget : Float}
    (enough : period ≤ budget ∧ (budget - period).toBits.toNat < budget.toBits.toNat) :
    spend period budget =
      ((spend period (budget - period)).1 + 1, (spend period (budget - period)).2) := by
  rw [spend, if_pos enough]

namespace Runner

variable {δ α β : Type} {before between after : Runner (Tallied δ)} {beats more : List Beat}
  {count : Nat}

/-- These beats are all that is done by the pace. -/
structure Beaten (beats : List Beat) (before after : Runner (Tallied δ)) : Prop where
  pace : after.pace = before.pace
  tally : after.tally = before.tally.beaten beats

theorem Beaten.append (early : Beaten beats before between) (late : Beaten more between after) :
    Beaten (beats ++ more) before after :=
  ⟨late.pace.trans early.pace, by rw [late.tally, early.tally, Tally.beaten_append]⟩

theorem Beaten.refl (runner : Runner (Tallied δ)) : Beaten [] runner runner :=
  ⟨rfl, (Tally.beaten_nil _).symm⟩

theorem Beaten.trans (early : Beaten [] before between) (late : Beaten [] between after) :
    Beaten [] before after := early.append late

theorem Beaten.rest (pace : after.pace = before.pace) (tally : after.tally = before.tally) :
    Beaten [] before after := ⟨pace, tally.trans (Tally.beaten_nil _).symm⟩

theorem beaten_unnoticed (action : Action (Host δ) α) :
    Keeps (Beaten []) (onHost (Host.unnoticed action)) := fun _ => .rest rfl rfl

theorem run_unnoticed (action : Action (Host δ) α) (runner : Runner δ) :
    (onHost (Host.unnoticed action)).run.run runner.withTally =
      ((action.run.run runner.host).1,
        { runner with host := (action.run.run runner.host).2 }.withTally) := rfl

theorem run_catchUp (period budget : Float) (runner : Runner (Tallied δ)) :
    ∃ after, (catchUp Tallied.note period budget).run.run runner =
        (.ok (Pace.spend period budget).2, after) ∧
      Beaten (List.replicate (Pace.spend period budget).1 .timers) runner after := by
  induction budget using catchUp.induct period generalizing runner with
  | case1 budget rest enough ih =>
      let machine := runner.machine.decrementTimers
      let next := { runner with machine }.observed Tallied.note (.beat .timers)
      have ticked : (tickTimers Tallied.note).run.run runner = (.ok (), next) := rfl
      have first : Beaten [.timers] runner next := ⟨rfl, rfl⟩
      obtain ⟨after, ran, later⟩ := ih next
      rw [catchUp_of_enough Tallied.note enough, run_bind, ticked, Pace.spend_of_enough enough]
      exact ⟨after, ran, first.append later⟩
  | case2 budget rest short =>
      rw [catchUp_of_short Tallied.note short, Pace.spend, if_neg short]
      exact ⟨runner, rfl, .refl runner⟩

theorem run_passTime (now : Float) (runner : Runner (Tallied δ)) :
    let passed := runner.pace.pass now
    let due := passed.2.dueTicks passed.1
    ∃ after, (passTime now Tallied.note).run.run runner = (.ok passed.1, after) ∧
      after.pace = due.2 ∧ after.tally = runner.tally.beaten (List.replicate due.1 .timers) := by
  intro passed due
  obtain ⟨caught, ran, beaten⟩ :=
    run_catchUp passed.2.timerPeriod (passed.2.timerBudget + passed.1) runner
  rw [passTime, Action.run_get, run_bind, ran]
  exact ⟨_, rfl, rfl, beaten.tally⟩

/-- A number of cycles is done, and nothing else by the pace. -/
def Cycled (count : Nat) (before after : Runner (Tallied δ)) : Prop :=
  ∃ beats, Beat.AreCycles count beats ∧ Beaten beats before after

theorem Beaten.cycled (rested : Beaten [] before after) : Cycled 0 before after :=
  ⟨[], .inl rfl, rested⟩

theorem Cycled.bind {action : Action (Runner (Tallied δ)) α}
    {next : α → Action (Runner (Tallied δ)) β}
    (first : Cycled count before (action.run.run before).2)
    (rest : ∀ value, Keeps (Beaten []) (next value)) :
    Cycled count before ((action >>= next).run.run before).2 := by
  refine Action.reached_of_bind first fun value => ?_
  obtain ⟨beats, cycles, beaten⟩ := first
  have whole := beaten.append (rest value _)
  rw [List.append_nil] at whole
  exact ⟨beats, cycles, whole⟩

theorem beaten_runCycle (others : Interference) (runner : Runner (Tallied δ)) :
    Beaten [.cycle (Cycle.run runner.console others).outcome.isOk] runner
      ((runCycle others Tallied.note).run.run runner).2 := ⟨rfl, rfl⟩

theorem cycled_runCycles (others : Nat → Interference) (count : Nat)
    (runner : Runner (Tallied δ)) :
    Cycled count runner ((runCycles others count Tallied.note).run.run runner).2 := by
  induction count generalizing runner with
  | zero => exact (Beaten.refl runner).cycled
  | succ count ih =>
      have first := beaten_runCycle (others count) runner
      rw [runCycles, run_bind]
      rw [run_runCycle] at first ⊢
      cases outcome : (Cycle.run runner.console (others count)).outcome with
      | error error =>
          rw [outcome] at first
          exact ⟨[.cycle false], .inr ⟨0, by omega, rfl⟩, first⟩
      | ok result =>
          rw [outcome] at first
          obtain ⟨beats, cycles, later⟩ := ih _
          exact ⟨.cycle true :: beats, cycles.cons, first.append later⟩

theorem cycled_runCounted (others : Nat → Interference) (count : Nat)
    (runner : Runner (Tallied δ)) :
    Cycled count runner ((runCounted others count Tallied.note).run.run runner).2 :=
  (cycled_runCycles others count runner).bind fun _ _ => .rest rfl rfl

def entry (before : Pace) (runner : Runner (Tallied δ)) : Entry where
  before := before
  tally := runner.tally
  after := runner.pace

/-- The timers are ticked as planned, and the cycles are still to come. -/
structure Begun (pace : Pace) (now : Float) (paused : Bool) (after : Runner (Tallied δ)) : Prop where
  paced : after.pace = (pace.plan (some now) paused).pace
  tally : after.tally =
    { time? := some now, paused
      beats := List.replicate (pace.plan (some now) paused).ticks .timers }

/-- What can come of finding out how many cycles are due. -/
inductive Begins (pace : Pace) (now : Float) : Except HostError Nat × Runner (Tallied δ) → Prop where
  | due (paused : Bool) {after : Runner (Tallied δ)} (begun : Begun pace now paused after) :
      Begins pace now (.ok (pace.plan (some now) paused).cycles, after)
  | refused (paused : Bool) {error : HostError} {after : Runner (Tallied δ)}
      (begun : Begun pace now paused after) (none : (pace.plan (some now) paused).cycles = 0) :
      Begins pace now (.error error, after)

/-- A tick that read the clock went by its plan. -/
def Planned (pace : Pace) (now : Float) (after : Runner (Tallied δ)) : Prop :=
  (after.entry pace).AsPlanned ∧ after.tally.time? = some now

theorem Begun.planned {pace : Pace} {now : Float} {paused : Bool}
    (begun : Begun pace now paused before)
    (cycled : Cycled (pace.plan (some now) paused).cycles before after) :
    Planned pace now after := by
  obtain ⟨beats, cycles, kept, tally⟩ := cycled
  rw [begun.tally] at tally
  simp only [Planned, entry, tally, kept, begun.paced]
  exact ⟨⟨rfl, beats, cycles, rfl⟩, rfl⟩

theorem asPlanned_of_unread {runner : Runner δ} (rested : Beaten [] runner.withTally after) :
    (after.entry runner.pace).AsPlanned := by
  obtain ⟨kept, tally⟩ := rested
  simp only [entry, kept, tally]
  exact ⟨rfl, [], .inl rfl, rfl⟩

variable [Frontend δ]

theorem begins_cyclesDue {pace : Pace} {now : Float} {runner : Runner (Tallied δ)}
    (paced : runner.pace = pace) (read : runner.tally = { time? := some now }) :
    Begins pace now ((cyclesDue now Tallied.note).run.run runner) := by
  subst paced
  obtain ⟨passed, ran, ticked, tally⟩ := run_passTime now runner
  rw [read] at tally
  rw [cyclesDue, run_bind, ran]
  dsimp only
  rw [run_bind, run_readPaused]
  cases Frontend.paused passed.host.device with
  | true => exact .due true ⟨ticked, congrArg (fun tally => { tally with paused := true }) tally⟩
  | false =>
      let read := passed.observed Tallied.note (.paused false)
      obtain ⟨outcome, told, ran⟩ := run_dueCycles (runner.pace.pass now).1 read
      rw [show read.pace = _ from ticked] at told ran
      have cycles : (runner.pace.plan (some now) false).cycles = outcome.toOption.getD 0 :=
        congrArg (fun due => due.getD 0) told.symm
      have begun : Begun runner.pace now false
          { read with pace := (runner.pace.plan (some now) false).pace } :=
        ⟨rfl, congrArg (fun tally => { tally with paused := false }) tally⟩
      change Begins runner.pace now ((dueCycles (runner.pace.pass now).1).run.run read)
      rw [ran]
      cases outcome with
      | error error => exact .refused false begun cycles
      | ok count =>
          have due := Begins.due false begun
          rw [cycles] at due
          exact due

theorem cycled_proceed (others : Nat → Interference) (count : Nat) (now : Float)
    (runner : Runner (Tallied δ)) :
    Cycled count runner ((proceed others (some (count, now)) Tallied.note).run.run runner).2 := by
  refine (cycled_runCounted others count runner).bind fun _ => ?_
  exact Keeps.bind .trans
    (keeps_paint (Beaten []) .trans .refl (fun _ => beaten_unnoticed _) fun _ => .rest rfl rfl)
    fun _ => keeps_measure (Beaten []) .trans .refl (fun _ _ => .rest rfl rfl)
      (fun _ => beaten_unnoticed _) now

theorem planned_workAt {pace : Pace} {now : Float} {runner : Runner (Tallied δ)}
    (paced : runner.pace = pace) (read : runner.tally = { time? := some now })
    (others : Nat → Interference) :
    Planned pace now ((workAt others now Tallied.note).run.run runner).2 := by
  have begins := begins_cyclesDue paced read
  rw [workAt_eq, run_bind]
  generalize (cyclesDue now Tallied.note).run.run runner = ended at begins
  cases begins with
  | due paused begun => exact begun.planned (cycled_proceed others _ now _)
  | refused paused begun none => exact begun.planned (none ▸ (Beaten.refl _).cycled)

theorem run_poll (runner : Runner δ) :
    (onHost Frontend.poll).run.run runner.withTally =
      ((Frontend.poll.run.run runner.host).1,
        { runner with host := (Frontend.poll.run.run runner.host).2 }.withTally) :=
  run_unnoticed Frontend.poll runner

theorem run_tick_of_polled {others : Nat → Interference} {clock : Action (Host δ) Float}
    {runner : Runner δ} {polling : Host δ}
    (polled : Frontend.poll.run.run runner.host = (.ok true, polling)) :
    (tick others (Host.unnoticed clock) Tallied.note).run.run runner.withTally =
      (readClock (Host.unnoticed clock) Tallied.note >>= fun now =>
        workAt others now Tallied.note).run.run { runner with host := polling }.withTally := by
  rw [tick, run_bind, run_poll, polled]
  rfl

theorem planned_tick {others : Nat → Interference} {clock : Action (Host δ) Float} {now : Float}
    {runner : Runner δ} {polling reading : Host δ}
    (polled : Frontend.poll.run.run runner.host = (.ok true, polling))
    (read : clock.run.run polling = (.ok now, reading)) :
    Planned runner.pace now
      ((tick others (Host.unnoticed clock) Tallied.note).run.run runner.withTally).2 := by
  let start := { runner with host := reading }.withTally.observed Tallied.note (.time now)
  have timed : (readClock (Host.unnoticed clock) Tallied.note).run.run
      { runner with host := polling }.withTally = (.ok now, start) := by
    rw [readClock, run_bind, run_unnoticed, read]
    rfl
  have tally : start.tally = { time? := some now } := rfl
  rw [run_tick_of_polled polled, run_bind, timed]
  exact planned_workAt rfl tally others

theorem asPlanned_tick (others : Nat → Interference) (clock : Action (Host δ) Float)
    (runner : Runner δ) :
    (((tick others (Host.unnoticed clock) Tallied.note).run.run runner.withTally).2.entry
      runner.pace).AsPlanned := by
  have unread (reached : Runner δ) (same : reached.pace = runner.pace) :
      (reached.withTally.entry runner.pace).AsPlanned := asPlanned_of_unread (.rest same rfl)
  cases polled : Frontend.poll.run.run runner.host with
  | mk outcome polling =>
      rcases outcome with error | _ | _
      · rw [tick, run_bind, run_poll, polled]
        exact unread { runner with host := polling } rfl
      · rw [tick, run_bind, run_poll, polled]
        exact unread { runner with host := polling, running := false } rfl
      · cases read : clock.run.run polling with
        | mk outcome reading =>
            cases outcome with
            | ok now => exact (planned_tick polled read).1
            | error error =>
                rw [run_tick_of_polled polled, run_bind, readClock, run_bind, run_unnoticed, read]
                exact unread { runner with host := reading } rfl

end Runner

end Chip8
