import Chip8.Proofs.Machine.Request
import Chip8.Run.Cycle

/-!
# Cycles in parts

A cycle makes up to three calls to the keypad, and input sources may change the keypad before each
of them.  Here a cycle is cut into the parts between which that can happen; played in a row, with
the changes where they fall, the parts are the cycle (`play_cycle`).
-/

namespace Chip8

/-- How far a cycle has come. -/
inductive Phase where
  | rest
  | shown
  | ready (taken : Option (Fin 16))
  | settling
  deriving DecidableEq, Repr

/-- A console and the part of a cycle that it has reached. -/
structure Loop where
  console : Console
  phase : Phase := .rest

namespace Loop

def step (console : Console) : Loop :=
  match console.step with
  | (.error _, after) => { console := after }
  | (.ok result, after) =>
    { console := after, phase := if result.awaitKey then .settling else .rest }

def advance (loop : Loop) : Loop :=
  match loop.phase with
  | .rest => loop
  | .shown =>
    match loop.console.machine.runState with
    | .running => { loop with phase := .ready none }
    | .awaitingKey _ =>
      match loop.console.takePress with
      | (none, waiting) => { console := waiting }
      | (some key, taken) => { console := taken, phase := .ready (some key) }
  | .ready none => step loop.console
  | .ready (some key) =>
    match loop.console.deliver key with
    | (.error _, refused) => { console := refused }
    | (.ok (), answered) => step answered
  | .settling => { console := loop.console.takePress.2 }

/-- What can happen to a console at one moment. -/
inductive Moment where
  | event (event : Keypad.Event)
  | timers
  /-- A cycle begins, unless one is under way: the held keys are captured and shown. -/
  | call
  | advance
  deriving DecidableEq, Repr

def move (loop : Loop) : Moment → Loop
  | .event event => { loop with console := loop.console.disturb [event] }
  | .timers =>
    { loop with console :=
        { loop.console with machine := loop.console.machine.decrementTimers } }
  | .call =>
    match loop.phase with
    | .rest => { console := loop.console.showKeys, phase := .shown }
    | _ => loop
  | .advance => loop.advance

def play (loop : Loop) (moments : List Moment) : Loop := moments.foldl move loop

def stepped (loop : Loop) : Option Machine :=
  match loop.phase with
  | .ready none => some loop.console.machine
  | .ready (some key) => loop.console.machine.answered? key.val
  | _ => none

theorem play_append (loop : Loop) (first second : List Moment) :
    loop.play (first ++ second) = (loop.play first).play second :=
  List.foldl_append ..

theorem play_cons (loop : Loop) (moment : Moment) (moments : List Moment) :
    loop.play (moment :: moments) = (loop.move moment).play moments := rfl

theorem play_events (loop : Loop) (events : List Keypad.Event) :
    loop.play (events.map .event) = { loop with console := loop.console.disturb events } := by
  induction events generalizing loop with
  | nil => rfl
  | cons event rest ih =>
      rw [List.map_cons, play_cons, ih]
      rfl

end Loop

namespace Interference

/-- The moments of a cycle before it hands over a key, if it does, and steps the machine. -/
def opening (others : Interference) : List Loop.Moment :=
  others.beforeCapture.map .event ++
    .call :: (others.beforeTake.map .event ++ .advance :: others.beforeStep.map .event)

def moments (others : Interference) : List Loop.Moment :=
  others.opening ++ .advance :: (others.beforeSettle.map .event ++ [.advance])

end Interference

namespace Loop

theorem play_step (console : Console) (others : Interference)
    (delivered : Option (Fin 16 × Int)) :
    (step (console.disturb others.beforeStep)).play
        (others.beforeSettle.map .event ++ [.advance]) =
      { console := (Cycle.finish console others delivered).console } := by
  rw [play_append, play_events, step, Cycle.finish]
  cases (console.disturb others.beforeStep).step with
  | mk outcome after =>
      cases outcome with
      | error error => rfl
      | ok result =>
          cases waits : result.awaitKey with
          | false => simp [play, move, advance, Console.settle, waits]
          | true => simp [play, move, advance, Console.settle, waits, Console.disturb]

theorem delivered_finish (console : Console) (others : Interference)
    (delivered : Option (Fin 16 × Int)) :
    (Cycle.finish console others delivered).delivered = delivered := by
  rw [Cycle.finish]
  cases (console.disturb others.beforeStep).step with
  | mk outcome after => cases outcome <;> rfl

theorem deliver_disturb (console : Console) (key : Fin 16) (events : List Keypad.Event) :
    (console.disturb events).deliver key =
      ((console.deliver key).1, (console.deliver key).2.disturb events) := by
  simp only [Console.deliver, Console.disturb]

/-- Before the step a cycle shows the held keys and, for a machine that waits, looks for a press. -/
theorem play_opening (console : Console) (others : Interference) :
    ({ console } : Loop).play others.opening =
      let looked := advance
        { console := (console.disturb others.beforeCapture).showKeys.disturb others.beforeTake
          phase := .shown }
      { looked with console := looked.console.disturb others.beforeStep } := by
  rw [Interference.opening, play_append, play_events, play_cons, play_append, play_events,
    play_cons, play_events]
  rfl

/-- Played from a rest, the parts of a cycle are the cycle, and end in a rest. -/
theorem play_cycle (console : Console) (others : Interference) :
    ({ console } : Loop).play others.moments = { console := (Cycle.run console others).console } := by
  rw [Interference.moments, play_append, play_opening, play_cons]
  simp only [move, Cycle.run]
  generalize (console.disturb others.beforeCapture).showKeys.disturb others.beforeTake = shown
  cases state : shown.machine.runState with
  | running =>
      simp only [advance, state]
      exact play_step shown others none
  | awaitingKey register =>
      simp only [advance, state]
      cases shown.takePress with
      | mk press taken =>
          cases press with
          | none =>
              rw [play_append, play_events]
              rfl
          | some key =>
              simp only [deliver_disturb]
              cases taken.deliver key with
              | mk outcome answered =>
                  cases outcome with
                  | error error =>
                      rw [play_append, play_events]
                      rfl
                  | ok _ => exact play_step answered others (some (key, register))

theorem phase_opening (console : Console) (others : Interference) (key : Fin 16) :
    (({ console } : Loop).play others.opening).phase = .ready (some key) ↔
      ∃ register, (Cycle.run console others).delivered = some (key, register) := by
  rw [play_opening, Cycle.run]
  simp only
  generalize (console.disturb others.beforeCapture).showKeys.disturb others.beforeTake = shown
  cases state : shown.machine.runState with
  | running =>
      simp only [advance, state, delivered_finish]
      simp
  | awaitingKey register =>
      simp only [advance, state]
      cases shown.takePress with
      | mk press taken =>
          cases press with
          | none => simp [Cycle.leave]
          | some held =>
              cases accepted : taken.deliver held with
              | mk outcome answered =>
                  cases outcome with
                  | error error => simp [accepted, Cycle.leave]
                  | ok _ => simp [accepted, delivered_finish]

end Loop

end Chip8
