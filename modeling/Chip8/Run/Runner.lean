import Chip8.Host.Frontend
import Chip8.Run.Cycle
import Chip8.Run.Meter
import Chip8.Run.Pace

/-!
# The run loop

A runner drives a machine on a host.  Each tick polls the front end, ticks the timers that are due,
runs the cycles that are due, shows the latest picture if there is a new one, and closes the speed
window if it is long enough.  What input sources do to the keypad meanwhile is told cycle by cycle.
An observer can follow what a tick reads and does; a run has none unless it is given one.
-/

namespace Chip8

inductive Beat where
  | timers
  | cycle (succeeded : Bool)
  deriving DecidableEq, Repr

inductive Observation where
  | time (now : Float)
  | paused (paused : Bool)
  | beat (beat : Beat)

/-- Follows the ticks of a run and leaves its notes in the device. -/
abbrev Observer (δ : Type) := Observation → δ → δ

def Observer.blind {δ : Type} : Observer δ := fun _ device => device

def Host.observed {δ : Type} (host : Host δ) (observer : Observer δ) (seen : Observation) : Host δ :=
  { host with device := observer seen host.device }

structure Runner (δ : Type) where
  machine : Machine
  host : Host δ
  pace : Pace
  meter : Meter := {}
  running : Bool := false
  pending : Option Display := none

namespace Runner

variable {δ : Type}

def logSource : String := "chip8emu.shell.runner"

/-- How long the loop sleeps after each tick, in microseconds. -/
def tickSleep : Int := 1000

def onHost {α : Type} (action : Action (Host δ) α) : Action (Runner δ) α := fun runner =>
  let (outcome, host) := action.run.run runner.host
  (outcome, { runner with host := host })

def note (level : LogLevel) (message : String) : Action (Runner δ) Unit :=
  onHost (Host.note ⟨level, logSource, message⟩)

/-- The runner after a cycle: a key that was handed over is logged, and a new picture is pending. -/
def afterCycle (runner : Runner δ) (cycle : Cycle) : Runner δ :=
  let log := match cycle.delivered with
    | none => runner.host.log
    | some (key, register) =>
      let message := s!"Delivering key {Hex.plain key.val} to V{Hex.plain register}"
      runner.host.log.push ⟨.debug, logSource, message⟩
  let picture := match cycle.outcome with
    | .ok result => if result.redraw then result.display else none
    | .error _ => none
  { runner with
    machine := cycle.console.machine
    host := { runner.host with keypad := cycle.console.keypad, log := log }
    pending := picture <|> runner.pending }

def console (runner : Runner δ) : Console :=
  { machine := runner.machine, keypad := runner.host.keypad }

def observed (runner : Runner δ) (observer : Observer δ) (seen : Observation) : Runner δ :=
  { runner with host := runner.host.observed observer seen }

def observe (observer : Observer δ) (seen : Observation) : Action (Runner δ) Unit :=
  modify fun runner => runner.observed observer seen

def runCycle (others : Interference := {}) (observer : Observer δ := .blind) :
    Action (Runner δ) StepResult := fun runner =>
  let cycle := Cycle.run runner.console others
  (cycle.outcome.mapError HostError.machine,
    (runner.afterCycle cycle).observed observer (.beat (.cycle cycle.outcome.isOk)))

/-- A number of cycles, the last of them numbered zero; the first error ends them. -/
def runCycles (others : Nat → Interference) (count : Nat) (observer : Observer δ := .blind) :
    Action (Runner δ) Unit :=
  match count with
  | 0 => return
  | count + 1 => do
    let _ ← runCycle (others count) observer
    runCycles others count observer

def tickTimers (observer : Observer δ) : Action (Runner δ) Unit := do
  modify fun runner => { runner with machine := runner.machine.decrementTimers }
  observe observer (.beat .timers)

/-- Ticks the timers as long as the budget pays for it, and gives the rest of the budget.  A period
too small to make a difference is not paid. -/
def catchUp (observer : Observer δ) (period budget : Float) : Action (Runner δ) Float :=
  let rest := budget - period
  if period ≤ budget ∧ rest.toBits.toNat < budget.toBits.toNat then do
    tickTimers observer
    catchUp observer period rest
  else
    return budget
termination_by budget.toBits.toNat
decreasing_by
  rename_i enough
  exact enough.2

/-- Takes note of a clock reading and ticks the timers that are due; gives the time that passed. -/
def passTime (now : Float) (observer : Observer δ := .blind) : Action (Runner δ) Float := do
  let (elapsed, passed) := (← get).pace.pass now
  let rest ← catchUp observer passed.timerPeriod (passed.timerBudget + elapsed)
  modify fun runner => { runner with pace := { passed with timerBudget := rest } }
  return elapsed

def dueCycles (elapsed : Float) : Action (Runner δ) Nat := do
  let runner ← get
  let (due, pace) := runner.pace.dueInstructions elapsed
  set { runner with pace }
  match due with
  | .error .rateTooLarge => throw .rateTooLarge
  | .error .infinite => throw .budgetInfinite
  | .ok count => return count

def runCounted (others : Nat → Interference) (count : Nat) (observer : Observer δ := .blind) :
    Action (Runner δ) Unit := do
  let before := (← get).machine.instructionCount
  runCycles others count observer
  modify fun runner =>
    let executed : Int := runner.machine.instructionCount - before
    { runner with meter := runner.meter.add executed }

variable [Frontend δ]

def paint : Action (Runner δ) Unit := do
  match (← get).pending with
  | none => return
  | some display =>
    onHost (Frontend.draw display)
    modify fun runner => { runner with pending := none }

def measure (now : Float) : Action (Runner δ) Unit := do
  match (← get).meter.close? now with
  | none => return
  | some meter =>
    modify fun runner => { runner with meter }
    onHost (Frontend.reportSpeed meter.rate)

def readClock (clock : Action (Host δ) Float) (observer : Observer δ) : Action (Runner δ) Float := do
  let now ← onHost clock
  observe observer (.time now)
  return now

def readPaused (observer : Observer δ) : Action (Runner δ) Bool := do
  let paused := Frontend.paused (← get).host.device
  observe observer (.paused paused)
  return paused

/-- The work of one round at a given time: timers, cycles unless the run is paused, picture and
speed. -/
def workAt (others : Nat → Interference) (now : Float) (observer : Observer δ) :
    Action (Runner δ) Unit := do
  let elapsed ← passTime now observer
  unless ← readPaused observer do
    runCounted others (← dueCycles elapsed) observer
  paint
  measure now

def tick (others : Nat → Interference := fun _ => {}) (clock : Action (Host δ) Float := Host.now)
    (observer : Observer δ := .blind) : Action (Runner δ) Unit := do
  if ← onHost Frontend.poll then
    workAt others (← readClock clock observer) observer
  else
    modify fun runner => { runner with running := false }

def enter (clock : Action (Host δ) Float := Host.now) : Action (Runner δ) Unit := do
  onHost Frontend.start
  onHost (Frontend.draw (← get).machine.display)
  modify fun runner => { runner with running := true }
  let now ← onHost clock
  modify fun runner =>
    { runner with
      pace := { runner.pace with lastTime := now }
      meter := runner.meter.restart now }
  note .info s!"Entering main loop ({(← get).pace.speed} instructions/s)"

def leave : Action (Runner δ) Unit := do
  modify fun runner => { runner with running := false }
  onHost Frontend.stop
  note .info s!"Left main loop after {(← get).machine.instructionCount} instructions"

/-- Ticks and sleeps, once for each of the given sleeps, until a tick ends the run.  When there is
no sleep left the run is interrupted. -/
def loop : List (Action (Host δ) Unit) → Action (Runner δ) Unit
  | [] => throw .interrupted
  | sleep :: rest => do
    tick
    onHost sleep
    if (← get).running then
      loop rest

/-- A whole run, with the sleeps between its ticks.  However it ends, the front end is closed. -/
def run (sleeps : List (Action (Host δ) Unit)) : Action (Runner δ) Unit :=
  thenAlways (do enter; loop sleeps) leave

end Runner

end Chip8
