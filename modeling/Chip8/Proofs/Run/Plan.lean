import Chip8.Run.Pace
import Mathlib.Tactic.SplitIfs

namespace Chip8

namespace Pace

/-- The periods that a budget pays for, and what is left of it. -/
def spend (period budget : Float) : Nat × Float :=
  let rest := budget - period
  if period ≤ budget ∧ rest.toBits.toNat < budget.toBits.toNat then
    let (ticks, left) := spend period rest
    (ticks + 1, left)
  else
    (0, budget)
termination_by budget.toBits.toNat
decreasing_by
  rename_i enough
  exact enough.2

def dueTicks (pace : Pace) (elapsed : Float) : Nat × Pace :=
  let (ticks, rest) := spend pace.timerPeriod (pace.timerBudget + elapsed)
  (ticks, { pace with timerBudget := rest })

structure Plan where
  ticks : Nat
  cycles : Nat
  pace : Pace

/-- The work of a tick for what it reads of the clock, if it does, and of the pause switch. -/
def plan (pace : Pace) (time? : Option Float) (paused : Bool) : Plan :=
  match time? with
  | none => { ticks := 0, cycles := 0, pace }
  | some now =>
    let (elapsed, passed) := pace.pass now
    let (ticks, ticked) := passed.dueTicks elapsed
    if paused then
      { ticks, cycles := 0, pace := ticked }
    else
      let (due, paid) := ticked.dueInstructions elapsed
      { ticks, cycles := due.toOption.getD 0, pace := paid }

structure SameTimers (first second : Pace) : Prop where
  lastTime : first.lastTime = second.lastTime
  period : first.timerPeriod = second.timerPeriod
  budget : first.timerBudget = second.timerBudget

structure SameSpeed (first second : Pace) : Prop where
  lastTime : first.lastTime = second.lastTime
  speed : first.speed = second.speed
  budget : first.instructionBudget = second.instructionBudget

theorem eq_of_ofRates {speed rate : Int} {pace : Pace} (rates : ofRates speed rate = .ok pace) :
    ∃ number, Binary64.ofInt? rate = some number ∧
      pace = { speed, timerPeriod := 1.0 / number } := by
  unfold ofRates at rates
  split_ifs at rates
  cases number : Binary64.ofInt? rate with
  | none =>
      rw [number] at rates
      cases rates
  | some number' =>
      rw [number] at rates
      cases rates
      exact ⟨number', rfl, rfl⟩

theorem ticks_plan (pace : Pace) (now : Float) (paused : Bool) :
    (pace.plan (some now) paused).ticks = ((pace.pass now).2.dueTicks (pace.pass now).1).1 := by
  cases paused <;> rfl

theorem plan_paused (pace : Pace) (time? : Option Float) :
    (pace.plan time? true).cycles = 0 ∧
      (pace.plan time? true).pace.instructionBudget = pace.instructionBudget := by
  cases time? <;> exact ⟨rfl, rfl⟩

variable {first second : Pace}

namespace SameTimers

theorem pass (same : SameTimers first second) (now : Float) :
    (first.pass now).1 = (second.pass now).1 ∧
      SameTimers (first.pass now).2 (second.pass now).2 := by
  refine ⟨?_, rfl, same.period, same.budget⟩
  simp only [Pace.pass, same.lastTime]

theorem dueTicks (same : SameTimers first second) {elapsed elapsed' : Float}
    (equal : elapsed = elapsed') :
    (first.dueTicks elapsed).1 = (second.dueTicks elapsed').1 ∧
      SameTimers (first.dueTicks elapsed).2 (second.dueTicks elapsed').2 := by
  refine ⟨?_, same.lastTime, same.period, ?_⟩ <;>
    simp only [Pace.dueTicks, same.period, same.budget, equal]

theorem symm (same : SameTimers first second) : SameTimers second first :=
  ⟨same.lastTime.symm, same.period.symm, same.budget.symm⟩

theorem trans {third : Pace} (same : SameTimers first second) (rest : SameTimers second third) :
    SameTimers first third :=
  ⟨same.lastTime.trans rest.lastTime, same.period.trans rest.period,
    same.budget.trans rest.budget⟩

theorem of_dueInstructions (pace : Pace) (elapsed : Float) :
    SameTimers pace (pace.dueInstructions elapsed).2 := by
  fun_cases dueInstructions pace elapsed <;> exact ⟨rfl, rfl, rfl⟩

theorem of_plan (pace : Pace) (now : Float) (paused : Bool) :
    SameTimers ((pace.pass now).2.dueTicks (pace.pass now).1).2
      (pace.plan (some now) paused).pace := by
  cases paused with
  | true => exact ⟨rfl, rfl, rfl⟩
  | false => exact of_dueInstructions _ _

/-- Timers go by the clock alone. -/
theorem plan (same : SameTimers first second) (time? : Option Float) (paused paused' : Bool) :
    (first.plan time? paused).ticks = (second.plan time? paused').ticks ∧
      SameTimers (first.plan time? paused).pace (second.plan time? paused').pace := by
  cases time? with
  | none => exact ⟨rfl, same⟩
  | some now =>
      obtain ⟨elapsed, passed⟩ := same.pass now
      obtain ⟨ticks, ticked⟩ := passed.dueTicks elapsed
      rw [ticks_plan, ticks_plan]
      exact ⟨ticks,
        (of_plan first now paused).symm.trans (ticked.trans (of_plan second now paused'))⟩

end SameTimers

namespace SameSpeed

theorem pass (same : SameSpeed first second) (now : Float) :
    (first.pass now).1 = (second.pass now).1 ∧
      SameSpeed (first.pass now).2 (second.pass now).2 := by
  refine ⟨?_, rfl, same.speed, same.budget⟩
  simp only [Pace.pass, same.lastTime]

theorem dueTicks (same : SameSpeed first second) (elapsed elapsed' : Float) :
    SameSpeed (first.dueTicks elapsed).2 (second.dueTicks elapsed').2 :=
  ⟨same.lastTime, same.speed, same.budget⟩

theorem dueInstructions (same : SameSpeed first second) {elapsed elapsed' : Float}
    (equal : elapsed = elapsed') :
    (first.dueInstructions elapsed).1 = (second.dueInstructions elapsed').1 ∧
      SameSpeed (first.dueInstructions elapsed).2 (second.dueInstructions elapsed').2 := by
  obtain ⟨lastTime, speed, budget⟩ := same
  subst equal
  simp only [Pace.dueInstructions, ← speed, ← budget]
  split
  · exact ⟨rfl, lastTime, speed, budget⟩
  · split <;> exact ⟨rfl, lastTime, rfl, rfl⟩

/-- Cycles go by the clock and the pause switch alone. -/
theorem plan (same : SameSpeed first second) (time? : Option Float) (paused : Bool) :
    (first.plan time? paused).cycles = (second.plan time? paused).cycles ∧
      SameSpeed (first.plan time? paused).pace (second.plan time? paused).pace := by
  cases time? with
  | none => exact ⟨rfl, same⟩
  | some now =>
      obtain ⟨elapsed, passed⟩ := same.pass now
      have ticked := passed.dueTicks (first.pass now).1 (second.pass now).1
      obtain ⟨due, paid⟩ := ticked.dueInstructions elapsed
      cases paused with
      | true =>
          have idle := (first.plan_paused (some now)).1
          exact ⟨idle.trans (second.plan_paused (some now)).1.symm, ticked⟩
      | false => exact ⟨congrArg (fun due => due.toOption.getD 0) due, paid⟩

end SameSpeed

theorem lastTime_plan (pace : Pace) (now : Float) (paused : Bool) :
    (pace.plan (some now) paused).pace.lastTime = now :=
  (SameTimers.of_plan pace now paused).lastTime.symm

end Pace

end Chip8
