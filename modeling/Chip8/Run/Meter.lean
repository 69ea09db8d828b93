import Chip8.Binary64

namespace Chip8

structure SpeedWindow where
  instructions : Int
  seconds : Float

def SpeedWindow.rate (window : SpeedWindow) : Float :=
  (Binary64.ofInt? window.instructions).getD 0 / window.seconds

/-- The open window and all closed ones, the latest first. -/
structure Meter where
  start : Float := 0
  count : Int := 0
  closed : List SpeedWindow := []

namespace Meter

def windowLength : Float := 1.0

def rate (meter : Meter) : Float := (meter.closed.head?.map SpeedWindow.rate).getD 0

def restart (meter : Meter) (now : Float) : Meter := { meter with start := now }

def add (meter : Meter) (instructions : Int) : Meter :=
  { meter with count := meter.count + instructions }

/-- Closes the open window if it is long enough. -/
def close? (meter : Meter) (now : Float) : Option Meter :=
  let seconds := now - meter.start
  if windowLength ≤ seconds then
    some { start := now, count := 0, closed := ⟨meter.count, seconds⟩ :: meter.closed }
  else
    none

end Meter

end Chip8
