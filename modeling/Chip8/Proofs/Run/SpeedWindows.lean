import Chip8.Proofs.Machine.KeyWait
import Chip8.Proofs.Run.Picture
import Mathlib.Algebra.GroupWithZero.Nat
import Mathlib.Algebra.Ring.Int.Defs

/-!
# Speed windows

Every instruction that a run of ticks executes is counted in one speed window, in one that was closed
and reported or in the one that is still open.  To tell the reports, the device is one that notes the
rates it is told; without its notes the run is the run on the plain device (`untold_after`).
-/

namespace Chip8

open Chip8.Action (Keeps Mirrors Parallel parallel_iff_mirrors run_bind)

variable {δ α : Type}

structure Told (δ : Type) where
  device : δ
  rates : List Float := []

namespace Host

def untold (host : Host (Told δ)) : Host δ := host.mapDevice Told.device

def told (host : Host δ) (rates : List Float) : Host (Told δ) :=
  host.mapDevice fun device => { device, rates }

/-- An action of the plain host, of which the notes say nothing. -/
def plainly (action : Action (Host δ) α) : Action (Host (Told δ)) α :=
  within Told.device (fun told device => { told with device }) action

def tell [Frontend δ] (rate : Float) : Action (Host (Told δ)) Unit := fun host =>
  let (outcome, plain) := (Frontend.reportSpeed rate).run.run host.untold
  (outcome, plain.told (host.device.rates ++ [rate]))

end Host

instance [Frontend δ] : Frontend (Told δ) where
  start := Host.plainly Frontend.start
  poll := Host.plainly Frontend.poll
  draw display := Host.plainly (Frontend.draw display)
  stop := Host.plainly Frontend.stop
  reportSpeed := Host.tell
  paused told := Frontend.paused told.device

def Round.told (round : Round δ) : Round (Told δ) where
  before host := (round.before host.untold).told host.device.rates
  clock := Host.plainly round.clock
  others := round.others

namespace Runner

def untold (runner : Runner (Told δ)) : Runner δ := { runner with host := runner.host.untold }

def told (runner : Runner δ) : Runner (Told δ) := { runner with host := runner.host.told [] }

theorem mirrors_plainly (action : Action (Host δ) α) :
    Mirrors Host.untold (Host.plainly action) action :=
  Host.mirrors_within (fun _ _ => rfl) action

variable [Frontend δ]

theorem twins_untold :
    Host.Twins fun (host : Host (Told δ)) (plain : Host δ) => host.untold = plain :=
  Host.twins_mapDevice (mirrors_plainly _) (fun _ => mirrors_plainly _) (fun _ _ => rfl)
    fun _ => rfl

theorem mirrors_told (round : Round δ) :
    Mirrors untold (tick round.told.others round.told.clock) (tick round.others round.clock) :=
  mirrors_of_parallel <| parallel_tick twins_untold (Observer.twins_blind _) round.others <|
    parallel_iff_mirrors.mpr (mirrors_plainly round.clock)

theorem ticked_told (runner : Runner (Told δ)) (round : Round δ) :
    runner.untold.ticked round =
      ((runner.ticked round.told).1, (runner.ticked round.told).2.untold) :=
  mirrors_told round (runner.prepare round.told)

theorem untold_after (runner : Runner (Told δ)) (rounds : List (Round δ)) :
    (runner.after (rounds.map Round.told)).untold = runner.untold.after rounds :=
  image_after (fun reached round => (congrArg Prod.snd (ticked_told reached round)).symm)
    runner rounds

end Runner

theorem Cycle.delivered_finish (console : Console) (others : Interference)
    (delivered : Option (Fin 16 × Int)) :
    (Cycle.finish console others delivered).delivered = delivered := by
  rw [Cycle.finish]
  split <;> rfl

theorem Console.counts_finish {console : Console} {others : Interference} {result : StepResult}
    {delivered : Option (Fin 16 × Int)} (running : console.machine.runState = .running)
    (done : (Cycle.finish console others delivered).outcome = .ok result) :
    (Cycle.finish console others delivered).console.machine.instructionCount =
      console.machine.instructionCount + 1 := by
  obtain ⟨outcome, machine⟩ := @finish_eq console others delivered
  rw [machine, (Machine.step_recorded running).2, outcome.symm.trans done]
  rfl

/-- A cycle that goes through executes one instruction, but none if it is left waiting for a key. -/
theorem Console.counts_run {console : Console} {others : Interference} {result : StepResult}
    (done : (Cycle.run console others).outcome = .ok result) :
    (console.stepped others = none ↔
      console.machine.awaiting = true ∧ (Cycle.run console others).delivered = none) ∧
      (Cycle.run console others).console.machine.instructionCount =
        console.machine.instructionCount + (console.stepped others).toList.length := by
  rw [Console.stepped]
  rw [Cycle.run] at done ⊢
  have state : ((console.disturb others.beforeCapture).showKeys.disturb
    others.beforeTake).machine.runState = console.machine.runState := rfl
  have count : ((console.disturb others.beforeCapture).showKeys.disturb
    others.beforeTake).machine.instructionCount = console.machine.instructionCount := rfl
  generalize (console.disturb others.beforeCapture).showKeys.disturb others.beforeTake = shown at *
  rw [Machine.awaiting, ← state, ← count]
  cases running : shown.machine.runState with
  | running =>
      simp only [running] at done ⊢
      exact ⟨by simp, counts_finish running done⟩
  | awaitingKey register =>
      simp only [running] at done ⊢
      simp only [takePress, Keypad.take] at done ⊢
      cases pressed : shown.keypad.pressed with
      | none => exact ⟨by simp [Cycle.leave], rfl⟩
      | some key =>
          simp only [pressed, deliver, Option.bind_some] at done ⊢
          rw [Machine.answered?]
          obtain ⟨error, refused⟩ | ⟨registers, taken⟩ := shown.machine.deliverKey_cases key.val
          · rw [refused] at done
            cases done
          · rw [taken] at done ⊢
            exact ⟨by simp [Cycle.delivered_finish], counts_finish rfl done⟩

namespace Runner

theorem ok_of_mapError {answer : Except MachineError α} {value : α}
    (done : answer.mapError HostError.machine = .ok value) : answer = .ok value := by
  cases answer with
  | error error => cases done
  | ok result =>
      cases done
      rfl

theorem eq_of_close? {meter closed : Meter} {now : Float} (closing : meter.close? now = some closed) :
    closed = { start := now, closed := ⟨meter.count, now - meter.start⟩ :: meter.closed } := by
  simp only [Meter.close?] at closing
  split at closing
  · exact (Option.some.inj closing).symm
  · cases closing

variable {executed metered : Nat} {before between after : Runner (Told δ)}

/-- Some instructions were executed, and the open window counts this many more.  No window was
closed. -/
structure Counted (executed metered : Nat) (before after : Runner (Told δ)) : Prop where
  executed : after.machine.instructionCount = before.machine.instructionCount + executed
  metered : after.meter.count = before.meter.count + metered
  closed : after.meter.closed = before.meter.closed
  rates : after.host.device.rates = before.host.device.rates

theorem Counted.rest (count : after.machine.instructionCount = before.machine.instructionCount)
    (meter : after.meter = before.meter)
    (rates : after.host.device.rates = before.host.device.rates) : Counted 0 0 before after :=
  ⟨count, by rw [meter]; exact (Int.add_zero _).symm, congrArg Meter.closed meter, rates⟩

theorem Counted.refl (runner : Runner (Told δ)) : Counted 0 0 runner runner := .rest rfl rfl rfl

theorem Counted.append {executed' metered' : Nat} (first : Counted executed metered before between)
    (second : Counted executed' metered' between after) :
    Counted (executed + executed') (metered + metered') before after where
  executed := by rw [second.executed, first.executed, Nat.add_assoc]
  metered := by rw [second.metered, first.metered, Int.natCast_add, Int.add_assoc]
  closed := second.closed.trans first.closed
  rates := second.rates.trans first.rates

theorem Counted.trans (first : Counted 0 0 before between) (second : Counted 0 0 between after) :
    Counted 0 0 before after := first.append second

/-- What some instructions did to the windows: they are in the one that is open, or it was closed
with them and reported. -/
inductive Windowed (executed : Nat) (before after : Runner (Told δ)) : Prop
  | opened (counted : Counted executed executed before after)
  | closed (window : SpeedWindow)
      (grown : after.machine.instructionCount = before.machine.instructionCount + executed)
      (numerator : window.instructions = before.meter.count + executed)
      (empty : after.meter.count = 0)
      (closed : after.meter.closed = window :: before.meter.closed)
      (rates : after.host.device.rates = before.host.device.rates ++ [window.rate])

theorem Windowed.grown (windowed : Windowed executed before after) :
    after.machine.instructionCount = before.machine.instructionCount + executed := by
  cases windowed with
  | opened counted => exact counted.executed
  | closed _ grown => exact grown

/-- A window that is closed includes what was counted before. -/
theorem Counted.windowed (counted : Counted executed executed before between)
    (windowed : Windowed 0 between after) : Windowed executed before after := by
  cases windowed with
  | opened later => exact .opened (counted.append later)
  | closed window count numerator empty closed rates =>
      refine .closed window (count.trans counted.executed) ?_ empty ?_ ?_
      · rw [numerator, counted.metered]
        exact Int.add_zero _
      · rw [closed, counted.closed]
      · rw [rates, counted.rates]

theorem counted_plainly (action : Action (Host δ) α) :
    Keeps (Counted 0 0) (onHost (Host.plainly action)) := fun _ => .rest rfl rfl rfl

theorem counted_runCycles {others : Nat → Interference} {count : Nat} {runner : Runner (Told δ)}
    (done : ((runCycles others count).run.run runner).1 = .ok ()) :
    Counted (runner.console.steppedAll others count).length 0 runner
      ((runCycles others count).run.run runner).2 := by
  induction count generalizing runner with
  | zero => exact .refl runner
  | succ count ih =>
      obtain ⟨result, first, rest, ran⟩ := Action.ok_of_bind done
      have one : ((runCycle (others count)).run.run runner).2 =
        runner.afterCycle (Cycle.run runner.console (others count)) := rfl
      have outcome := ok_of_mapError first
      have counted : Counted (runner.console.stepped (others count)).toList.length 0 runner
          (runner.afterCycle (Cycle.run runner.console (others count))) :=
        ⟨(Console.counts_run outcome).2, (Int.add_zero _).symm, rfl, rfl⟩
      rw [one] at rest ran
      rw [runCycles, ran, Console.steppedAll, List.length_append, outcome]
      exact counted.append (ih rest)

theorem counted_runCounted {others : Nat → Interference} {count : Nat} {runner : Runner (Told δ)}
    (done : ((runCounted others count).run.run runner).1 = .ok ()) :
    let executed := (runner.console.steppedAll others count).length
    Counted executed executed runner ((runCounted others count).run.run runner).2 := by
  rw [runCounted, Action.run_get] at done ⊢
  obtain ⟨_, cycled, _, ran⟩ := Action.ok_of_bind done
  have counted := counted_runCycles cycled
  rw [ran]
  refine ⟨counted.executed, ?_, counted.closed, counted.rates⟩
  have grown : (((runCycles others count).run.run runner).2.machine.instructionCount : Int) -
      runner.machine.instructionCount = (runner.console.steppedAll others count).length := by
    rw [counted.executed]
    omega
  rw [← grown, ← (Int.add_zero runner.meter.count)]
  exact congrArg (· + _) counted.metered

variable [Frontend δ]

theorem counted_outset (clock : Action (Host δ) Float) :
    Keeps (Counted 0 0) (outset (Host.plainly clock)) :=
  keeps_outset (Counted 0 0) .trans .refl (counted_plainly _) (counted_plainly clock)
    (fun _ => .rest rfl rfl rfl) fun _ _ => .rest rfl rfl rfl

theorem counted_paint : Keeps (Counted (δ := δ) 0 0) paint :=
  keeps_paint (Counted 0 0) .trans .refl (fun _ => counted_plainly _) fun _ => .rest rfl rfl rfl

theorem windowed_measure (now : Float) (runner : Runner (Told δ)) :
    Windowed 0 runner ((measure now).run.run runner).2 := by
  rw [measure, Action.run_get]
  cases closing : runner.meter.close? now with
  | none => exact .opened (.refl runner)
  | some meter =>
      obtain rfl := eq_of_close? closing
      exact .closed _ rfl (Int.add_zero _).symm rfl rfl rfl

theorem windowed_ticked {runner : Runner (Told δ)} {round : Round δ}
    (done : (runner.ticked round.told).1 = .ok ()) :
    Windowed (runner.steppedIn round.told).length runner (runner.ticked round.told).2 := by
  have prepared : Counted 0 0 runner (runner.prepare round.told) := .rest rfl rfl rfl
  have start : Counted 0 0 runner
      ((outset round.told.clock).run.run (runner.prepare round.told)).2 :=
    prepared.trans (counted_outset round.clock _)
  rw [ticked, tick_eq, run_bind] at done ⊢
  rw [steppedIn]
  cases ran : (outset round.told.clock).run.run (runner.prepare round.told) with
  | mk outcome reached =>
      rw [ran] at start done
      cases outcome with
      | error error => cases done
      | ok due =>
          cases due with
          | none => exact .opened (start.trans (.rest rfl rfl rfl))
          | some due =>
              simp only [proceed] at done ⊢
              obtain ⟨_, cycled, shown, ran⟩ := Action.ok_of_bind done
              obtain ⟨_, _, _, measured⟩ := Action.ok_of_bind shown
              have worked := start.append (counted_runCounted cycled)
              have painted := worked.append (counted_paint _)
              rw [ran, measured]
              simp only [Nat.zero_add, Nat.add_zero] at painted
              exact painted.windowed (windowed_measure due.2 _)

def executions (runner : Runner δ) : List (Round δ) → List Nat
  | [] => []
  | round :: rest => (runner.steppedIn round).length :: (runner.ticked round).2.executions rest

def Completes (runner : Runner δ) : List (Round δ) → Prop
  | [] => True
  | round :: rest => (runner.ticked round).1 = .ok () ∧ (runner.ticked round).2.Completes rest

theorem executions_concat (runner : Runner δ) (rounds : List (Round δ)) (round : Round δ) :
    runner.executions (rounds ++ [round]) =
      runner.executions rounds ++ [((runner.after rounds).steppedIn round).length] := by
  induction rounds generalizing runner with
  | nil => rfl
  | cons first rest ih => exact congrArg (_ :: ·) (ih (runner.ticked first).2)

theorem completes_of_concat {runner : Runner δ} {rounds : List (Round δ)} {round : Round δ}
    (completes : runner.Completes (rounds ++ [round])) :
    runner.Completes rounds ∧ ((runner.after rounds).ticked round).1 = .ok () := by
  induction rounds generalizing runner with
  | nil => exact ⟨trivial, completes.1⟩
  | cons first rest ih =>
      obtain ⟨earlier, last⟩ := ih completes.2
      exact ⟨⟨completes.1, earlier⟩, last⟩

theorem steppedIn_told (runner : Runner (Told δ)) (round : Round δ) :
    runner.steppedIn round.told = runner.untold.steppedIn round := by
  have mirrors : Mirrors untold (outset round.told.clock) (outset round.clock) :=
    mirrors_of_parallel <| parallel_outset twins_untold (Observer.twins_blind _) <|
      parallel_iff_mirrors.mpr (mirrors_plainly round.clock)
  have same : (outset round.clock).run.run (runner.untold.prepare round) = _ :=
    mirrors (runner.prepare round.told)
  rw [steppedIn, steppedIn, same]
  obtain ⟨outcome, reached⟩ := (outset round.told.clock).run.run (runner.prepare round.told)
  rcases outcome with error | _ | ⟨count, now⟩ <;> rfl

/-- The books of a run of ticks: the windows that were closed, the ticks that each of them counts and
those that the open window counts, by what they execute. -/
structure Ledger (start : Runner δ) (rounds : List (Round δ)) (windows : List SpeedWindow)
    (groups : List (List Nat)) (rest : List Nat) : Prop where
  closed : (start.after rounds).meter.closed = windows.reverse ++ start.meter.closed
  /-- Exactly these windows were reported. -/
  reports : (start.told.after (rounds.map Round.told)).host.device.rates =
    windows.map SpeedWindow.rate
  plain : (start.told.after (rounds.map Round.told)).untold = start.after rounds
  /-- Every tick is counted in one window. -/
  executions : start.executions rounds = groups.flatten ++ rest
  numerators : windows.map SpeedWindow.instructions = groups.map fun group => (group.sum : Int)
  opened : (start.after rounds).meter.count = rest.sum
  executed : (start.after rounds).machine.instructionCount =
    start.machine.instructionCount + (start.executions rounds).sum
  grown : ((start.after rounds).machine.instructionCount : Int) - start.machine.instructionCount =
    (windows.map SpeedWindow.instructions).sum + (start.after rounds).meter.count
  /-- A cycle that goes through executes one instruction, but none if it is left waiting for a
  key. -/
  cycles : ∀ (console : Console) (others : Interference) (result : StepResult),
    (Cycle.run console others).outcome = .ok result →
      (console.stepped others = none ↔
        console.machine.awaiting = true ∧ (Cycle.run console others).delivered = none) ∧
      (Cycle.run console others).console.machine.instructionCount =
        console.machine.instructionCount + (console.stepped others).toList.length

variable {start : Runner δ} {rounds : List (Round δ)} {windows : List SpeedWindow}
  {groups : List (List Nat)} {rest : List Nat}

theorem sum_groups (groups : List (List Nat)) :
    (groups.map fun group => (group.sum : Int)).sum = groups.flatten.sum := by
  induction groups with
  | nil => rfl
  | cons group rest ih =>
      rw [List.map_cons, List.sum_cons, ih, List.flatten_cons, List.sum_append, Int.natCast_add]

theorem ledger_of_parts
    (closed : (start.after rounds).meter.closed = windows.reverse ++ start.meter.closed)
    (reports : (start.told.after (rounds.map Round.told)).host.device.rates =
      windows.map SpeedWindow.rate)
    (executions : start.executions rounds = groups.flatten ++ rest)
    (numerators : windows.map SpeedWindow.instructions = groups.map fun group => (group.sum : Int))
    (opened : (start.after rounds).meter.count = rest.sum)
    (executed : (start.after rounds).machine.instructionCount =
      start.machine.instructionCount + (start.executions rounds).sum) :
    start.Ledger rounds windows groups rest := by
  refine ⟨closed, reports, untold_after start.told rounds, executions, numerators, opened, executed,
    ?_, fun _ _ _ => Console.counts_run⟩
  rw [executed, executions, numerators, sum_groups, opened, List.sum_append]
  omega

theorem windowed_concat {round : Round δ} (done : ((start.after rounds).ticked round).1 = .ok ()) :
    Windowed ((start.after rounds).steppedIn round).length
      (start.told.after (rounds.map Round.told))
      (start.told.after ((rounds ++ [round]).map Round.told)) := by
  have plain : (start.told.after (rounds.map Round.told)).untold = start.after rounds :=
    untold_after start.told rounds
  rw [← plain, ticked_told] at done
  rw [← plain, ← steppedIn_told, after_map_concat]
  exact windowed_ticked done

/-- The tick goes into the open window, and then that may be closed. -/
theorem Ledger.concat {round : Round δ} (ledger : start.Ledger rounds windows groups rest)
    (done : ((start.after rounds).ticked round).1 = .ok ()) :
    ∃ windows groups rest, start.Ledger (rounds ++ [round]) windows groups rest := by
  have windowed := windowed_concat done
  have before := ledger.plain
  have counts := executions_concat start rounds round
  have reports := ledger.reports
  obtain ⟨closed, _, _, executions, numerators, opened, executed, _, _⟩ := ledger
  have after : start.after (rounds ++ [round]) = _ := (untold_after start.told (rounds ++ [round])).symm
  generalize ((start.after rounds).steppedIn round).length = count at *
  rw [← before] at closed opened executed
  generalize start.told.after (rounds.map Round.told) = between at *
  generalize told : start.told.after ((rounds ++ [round]).map Round.told) = reached at *
  have more : (start.after (rounds ++ [round])).machine.instructionCount =
      start.machine.instructionCount + (start.executions (rounds ++ [round])).sum := by
    rw [after, counts, List.sum_append, List.sum_singleton, ← Nat.add_assoc, ← executed]
    exact windowed.grown
  have sum : ((rest ++ [count]).sum : Int) = between.meter.count + count := by
    rw [List.sum_append, List.sum_singleton, Int.natCast_add]
    exact congrArg (· + (count : Int)) opened.symm
  cases windowed with
  | opened counted =>
      refine ⟨windows, groups, rest ++ [count], ledger_of_parts ?_ ?_ ?_ numerators ?_ more⟩
      · rw [after]
        exact counted.closed.trans closed
      · rw [told]
        exact counted.rates.trans reports
      · rw [counts, executions, List.append_assoc]
      · rw [after, sum]
        exact counted.metered
  | closed window _ numerator empty closes rates =>
      refine ⟨windows ++ [window], groups ++ [rest ++ [count]], [],
        ledger_of_parts ?_ ?_ ?_ ?_ ?_ more⟩
      · rw [after, List.reverse_append]
        exact closes.trans (congrArg (window :: ·) closed)
      · rw [told, List.map_append, ← reports]
        exact rates
      · rw [counts, executions, List.flatten_append, List.flatten_singleton, List.append_nil,
          List.append_assoc]
      · rw [List.map_append, List.map_append, numerators, List.map_singleton, List.map_singleton, sum,
          numerator]
      · rw [after]
        exact empty

theorem ledger_of_completes {start : Runner δ} {rounds : List (Round δ)}
    (fresh : start.meter.count = 0) (completes : start.Completes rounds) :
    ∃ windows groups rest, start.Ledger rounds windows groups rest := by
  induction rounds using List.reverseRecOn with
  | nil => exact ⟨[], [], [], ledger_of_parts rfl rfl rfl rfl fresh rfl⟩
  | append_singleton rounds round ih =>
      obtain ⟨earlier, done⟩ := completes_of_concat completes
      obtain ⟨windows, groups, rest, ledger⟩ := ih earlier
      exact ledger.concat done

/-- A program that clears the screen and asks for a key, which comes two ticks later.  The window that
the first tick closes counts two instructions, the one that asks included; the tick that waits counts
none, and the one that hands the key over two more. -/
theorem ledger_of_question :
    let _ : Frontend Unit :=
      { start := pure ()
        poll := pure true
        draw := fun _ => pure ()
        stop := pure ()
        reportSpeed := fun _ => pure ()
        paused := fun _ => false }
    let program : List Byte := [0x00, 0xE0, 0xF3, 0x0A, 0x12, 0x04]
    let start : Runner Unit :=
      { machine :=
          { memory := Memory.withFont.writeBlock Memory.programStart program, programSize := 6 }
        host := { device := () }
        pace := { speed := 8, timerPeriod := 1.0 / 60.0 } }
    let round (micros : Int) (keys : Keypad → Keypad) : Round Unit :=
      { before := fun host =>
          { host with clock := host.clock.advance micros, keypad := keys host.keypad } }
    let rounds := [round 1000000 id, round 500000 id, round 250000 fun keypad => keypad.raise 5 true]
    start.meter.count = 0 ∧ start.Completes rounds ∧
      (∃ windows groups rest, start.Ledger rounds windows groups rest) ∧
      start.executions rounds = [2, 0, 2] ∧
      (start.after rounds).meter.closed.map SpeedWindow.instructions = [2] ∧
      (start.after rounds).meter.count = 2 := by
  intro _ program start round rounds
  have completes : start.Completes rounds :=
    ⟨by decide +kernel, by decide +kernel, by decide +kernel, trivial⟩
  refine ⟨rfl, completes, ledger_of_completes rfl completes, ?_⟩
  decide +kernel

end Runner

end Chip8
