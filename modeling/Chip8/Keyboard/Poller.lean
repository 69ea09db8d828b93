import Chip8.Keyboard.Layout
import Chip8.Keypad

/-!
# The keyboard poller

A terminal tells when keys are pressed but not when they are released.  The poller takes a key for
held until no press of it has been seen for a while.
-/

namespace Chip8.Keyboard

structure Poller where
  lastSeen : List (Fin 16 × Float) := []
  stopped : Bool := false
  quit : Bool := false
  threaded : Bool := false

namespace Poller

/-- How long a key is held after its last press, in seconds. -/
def holdSeconds : Float := 0.15

/-- The time between two polls of the thread, in microseconds. -/
def interval : Int := 5000

/-- How long a stop waits for the thread, in microseconds. -/
def joinTimeout : Int := 1000000

def threadName : String := "chip8-keyboard"

/-- The key that a code stands for: letters count in either case. -/
def keyOfCode? (code : Int) : Option (Fin 16) :=
  if 0 ≤ code ∧ code < 256 then keyOf? (Char.ofNat code.toNat).toLower else none

def see (seen : List (Fin 16 × Float)) (key : Fin 16) (now : Float) : List (Fin 16 × Float) :=
  match seen with
  | [] => [(key, now)]
  | (other, time) :: rest =>
    if other = key then (key, now) :: rest else (other, time) :: see rest key now

def onCode (now : Float) (state : Poller × Keypad) (code : Int) : Poller × Keypad :=
  let (poller, keypad) := state
  if code = escapeCode then
    ({ poller with quit := true }, keypad)
  else
    match keyOfCode? code with
    | none => (poller, keypad)
    | some key => ({ poller with lastSeen := see poller.lastSeen key now }, keypad.press key)

def expired (now seen : Float) : Bool := decide (holdSeconds < now - seen)

def expire (now : Float) (state : Poller × Keypad) : Poller × Keypad :=
  let (poller, keypad) := state
  let (gone, held) := poller.lastSeen.partition fun entry => expired now entry.2
  ({ poller with lastSeen := held },
    gone.foldl (fun keypad entry => keypad.release entry.1) keypad)

/-- The codes that a poll reads from those that are pending: up to the mark `-1`, which says that
there is none. -/
def readable (pending : List Int) : List Int := pending.takeWhile (· ≠ -1)

def unread (pending : List Int) : List Int := (pending.dropWhile (· ≠ -1)).drop 1

/-- One poll: handles the codes that were read and then releases keys. -/
def poll (poller : Poller) (keypad : Keypad) (now : Float) (codes : List Int) : Poller × Keypad :=
  expire now (codes.foldl (onCode now) (poller, keypad))

end Poller

end Chip8.Keyboard
