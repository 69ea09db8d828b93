import Chip8.Machine.Step

/-!
# Cycles

A cycle shows the machine the held keys and executes one step.  A machine that waits for a key
gets the press latched on the keypad, if there is one; presses from before the wait do not count,
so they are dropped when the wait begins.

Input sources may change the keypad at any time, but only between the calls that a cycle makes to
it: each call sees the keypad whole.
-/

namespace Chip8

structure Console where
  machine : Machine
  keypad : Keypad := {}

namespace Console

def showKeys (console : Console) : Console :=
  let keypad := console.keypad.capture
  { machine := console.machine.setKeypad keypad.captured, keypad := keypad }

def takePress (console : Console) : Option (Fin 16) × Console :=
  let (press, keypad) := console.keypad.take
  (press, { console with keypad := keypad })

def deliver (console : Console) (key : Fin 16) : Except MachineError Unit × Console :=
  let (outcome, machine) := console.machine.deliverKey key.val
  (outcome, { console with machine := machine })

def step (console : Console) : Except MachineError StepResult × Console :=
  let (outcome, machine) := console.machine.step
  (outcome, { console with machine := machine })

/-- Drops the latched press if a key wait is on. -/
def settle (console : Console) (result : StepResult) : Console :=
  if result.awaitKey then console.takePress.2 else console

def disturb (console : Console) (events : List Keypad.Event) : Console :=
  { console with keypad := console.keypad.happenAll events }

end Console

/-- What others do to the keypad while a cycle runs, by the part of the cycle that follows. -/
structure Interference where
  beforeCapture : List Keypad.Event := []
  beforeTake : List Keypad.Event := []
  beforeStep : List Keypad.Event := []
  beforeSettle : List Keypad.Event := []

structure Cycle where
  outcome : Except MachineError StepResult
  console : Console
  delivered : Option (Fin 16 × Int) := none

namespace Cycle

/-- The second half of a cycle: a step, after which presses from before a key wait are dropped. -/
def finish (console : Console) (others : Interference) (delivered : Option (Fin 16 × Int)) :
    Cycle :=
  match (console.disturb others.beforeStep).step with
  | (.error error, after) =>
    { outcome := .error error, console := after.disturb others.beforeSettle, delivered }
  | (.ok result, after) =>
    { outcome := .ok result
      console := (after.disturb others.beforeSettle).settle result
      delivered }

def leave (console : Console) (others : Interference) (outcome : Except MachineError StepResult)
    (delivered : Option (Fin 16 × Int)) : Cycle :=
  { outcome
    console := (console.disturb others.beforeStep).disturb others.beforeSettle
    delivered }

def run (console : Console) (others : Interference := {}) : Cycle :=
  let shown := (console.disturb others.beforeCapture).showKeys.disturb others.beforeTake
  match shown.machine.runState with
  | .running => finish shown others none
  | .awaitingKey register =>
    match shown.takePress with
    | (none, waiting) => leave waiting others (.ok .awaiting) none
    | (some key, taken) =>
      match taken.deliver key with
      | (.error error, refused) => leave refused others (.error error) (key, register)
      | (.ok (), answered) => finish answered others (key, register)

end Cycle

end Chip8
