namespace Chip8

structure Timers where
  delay : Int := 0
  sound : Int := 0
  deriving DecidableEq, Repr

namespace Timers

def rate : Nat := 60

/-- One tick of a counter: down by one, unless it has reached zero. -/
def countDown (counter : Int) : Int := if 0 < counter then counter - 1 else counter

def decrement (timers : Timers) : Timers :=
  { delay := countDown timers.delay, sound := countDown timers.sound }

def description (timers : Timers) : String :=
  s!"Timers(delay={timers.delay}, sound={timers.sound})"

end Timers

end Chip8
