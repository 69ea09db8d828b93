import Chip8.Run.Runner
import Chip8.Terminal.Basic
import Chip8.Window.Basic

namespace Chip8

/-- Something that happens during a sleep; `ι` is what the device takes for input. -/
inductive Happening (ι : Type) where
  | input (event : ι)
  | pass (micros : Int)
  | interrupt
  | failure (text : String)
  deriving DecidableEq, Repr

/-- The happenings of each sleep. -/
abbrev Script (ι : Type) := List (List (Happening ι))

namespace Script

variable {ι δ σ : Type}

def happen (give : ι → Action (Host δ) Unit) : Happening ι → Action (Host δ) Unit
  | .input event => give event
  | .pass micros => Host.sleep micros
  | .interrupt => throw .interrupted
  | .failure text => throw (.other text)

def sleep (give : ι → Action (Host δ) Unit) (after : Action (Host δ) Unit)
    (step : List (Happening ι)) : Action (Host δ) Unit := do
  Host.sleep Runner.tickSleep
  step.forM (happen give)
  after

/-- The script followed by requests to quit, enough of them for one to be heard: each input of the
script can hold up at most one of them. -/
def withQuit (script : Script ι) (quit : ι) : Script ι :=
  script ++ List.replicate (script.flatten.length + 2) [.input quit]

/-- The sleeps of a terminal: the codes are typed, and then the keyboard is polled. -/
def onTerminal (script : Script Int) : List (Action (Host Terminal) Unit) :=
  (script.withQuit Keyboard.escapeCode).map
    (sleep (fun code => Terminal.type [code]) Terminal.pollKeyboard)

def onWindow (script : Script Window.Event) : List (Action (Host (Window σ)) Unit) :=
  (script.withQuit .quit).map (sleep (fun event => Window.post [event]) (return))

end Script

end Chip8
