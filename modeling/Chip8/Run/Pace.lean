import Chip8.Binary64

/-!
# Pace

Turns the passage of time into work.  Time that has passed goes into two budgets: one pays for
timer ticks, each of which costs a period, and one for instructions.  What a budget does not spend
it keeps.  More than a quarter of a second is never made up for at once.
-/

namespace Chip8

inductive PaceError where
  | speedNotPositive (speed : Int)
  | timerRateNotPositive (rate : Int)
  | rateTooLarge
  deriving DecidableEq, Repr

def PaceError.message : PaceError → String
  | speedNotPositive speed => s!"speed must be positive, got {speed}"
  | timerRateNotPositive rate => s!"timer_hz must be positive, got {rate}"
  | rateTooLarge => "int too large to convert to float"

/-- The rates of a run and its unspent budgets. -/
structure Pace where
  speed : Int
  timerPeriod : Float
  lastTime : Float := 0
  instructionBudget : Float := 0
  timerBudget : Float := 0

namespace Pace

def defaultSpeed : Int := 700

def longestCatchUp : Float := 0.25

def ofRates (speed timerRate : Int) : Except PaceError Pace :=
  if speed ≤ 0 then .error (.speedNotPositive speed)
  else if timerRate ≤ 0 then .error (.timerRateNotPositive timerRate)
  else
    match Binary64.ofInt? timerRate with
    | none => .error .rateTooLarge
    | some rate => .ok { speed := speed, timerPeriod := 1.0 / rate }

/-- Takes note of a clock reading: the time that passed since the last one, cut to the longest time
that is made up for. -/
def pass (pace : Pace) (now : Float) : Float × Pace :=
  let passed := now - pace.lastTime
  let elapsed := if longestCatchUp < passed then longestCatchUp else passed
  (elapsed, { pace with lastTime := now })

inductive BudgetError where
  | rateTooLarge
  | infinite
  deriving DecidableEq, Repr

/-- The whole instructions that are due; less than none counts as none. -/
def dueInstructions (pace : Pace) (elapsed : Float) : Except BudgetError Nat × Pace :=
  match Binary64.ofInt? pace.speed with
  | none => (.error .rateTooLarge, pace)
  | some speed =>
    let budget := pace.instructionBudget + elapsed * speed
    match Binary64.truncate? budget with
    | none => (.error .infinite, { pace with instructionBudget := budget })
    | some whole =>
      let spent := (Binary64.ofInt? whole).getD 0
      (.ok whole.toNat, { pace with instructionBudget := budget - spent })

end Pace

end Chip8
