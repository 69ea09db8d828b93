import Chip8.Host.Basic

/-!
# Front ends

A front end owns the user's side of a run: it shows pictures and turns key events into changes of
the keypad.  The run loop asks nothing else of its device.
-/

namespace Chip8

/-- A device that can serve as front end. -/
class Frontend (δ : Type) where
  start : Action (Host δ) Unit
  /-- Handles waiting events; `false` once the user asked to quit. -/
  poll : Action (Host δ) Bool
  draw : Display → Action (Host δ) Unit
  stop : Action (Host δ) Unit
  reportSpeed : Float → Action (Host δ) Unit
  paused : δ → Bool

end Chip8
