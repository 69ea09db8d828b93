import Chip8.Keyboard.Layout
import Chip8.Keypad
import Chip8.LogRecord

/-!
# Window events

What the events of a window do: keys of the layout go to the keypad, `p` pauses and resumes, Escape
or closing the window quits, and losing the focus releases all keys, because their releases would
not be seen.
-/

namespace Chip8.Window

inductive Event where
  | keyDown (code : Int)
  | keyUp (code : Int)
  | quit
  | focusLost
  | other
  deriving DecidableEq, Repr

structure Input where
  quit : Bool := false
  paused : Bool := false
  deriving DecidableEq, Repr

namespace Input

def logSource : String := "chip8emu.platform.input_handler"

def pauseCode : Int := 112

def keyOfCode? (code : Int) : Option (Fin 16) :=
  (Keyboard.layout.find? fun entry => (entry.1.toNat : Int) = code).map Prod.snd

/-- What an event leaves behind. -/
structure Response where
  input : Input
  keypad : Keypad
  log : List LogRecord := []

def keyDown (input : Input) (keypad : Keypad) (code : Int) : Response :=
  if code = Keyboard.escapeCode then
    { input := { input with quit := true }, keypad }
  else if code = pauseCode then
    let paused := !input.paused
    let change := if paused then "paused" else "resumed"
    { input := { input with paused }, keypad, log := [⟨.info, logSource, s!"Emulation {change}"⟩] }
  else
    match keyOfCode? code with
    | none => { input, keypad }
    | some key => { input, keypad := keypad.press key }

def handle (input : Input) (keypad : Keypad) : Event → Response
  | .keyDown code => input.keyDown keypad code
  | .keyUp code =>
    match keyOfCode? code with
    | none => { input, keypad }
    | some key => { input, keypad := keypad.release key }
  | .quit => { input := { input with quit := true }, keypad }
  | .focusLost => { input, keypad := keypad.clear }
  | .other => { input, keypad }

end Input

end Chip8.Window
