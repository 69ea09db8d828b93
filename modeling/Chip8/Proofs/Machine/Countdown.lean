import Chip8.Proofs.Machine.Encounter

namespace Chip8

open Machine (Request)

inductive Timer where
  | delay
  | sound
  deriving DecidableEq, Repr

namespace Timer

def setter : Timer → Form
  | delay => .setDelay
  | sound => .setSound

def get : Timer → View → Int
  | delay, view => view.delay
  | sound, view => view.sound

def value (timer : Timer) (machine : Machine) : Int := timer.get machine.view

end Timer

theorem Form.timer_of_act {timer : Timer} {form : Form} {word : Nat} {address : Int} {view : View}
    (other : form ≠ timer.setter) : timer.get (form.act word address view).2 = timer.get view := by
  cases form with
  | setDelay =>
      cases timer with
      | delay => exact absurd rfl other
      | sound => rfl
  | setSound =>
      cases timer with
      | delay => rfl
      | sound => exact absurd rfl other
  | returnFromCall | call | readDelay =>
      simp only [act]
      split <;> cases timer <;> rfl
  | skipIfByte | skipUnlessByte | skipIfEqual | skipUnlessEqual | skipIfKey | skipUnlessKey =>
      simp only [act, View.skipIf]
      split <;> cases timer <;> rfl
  | _ => cases timer <;> rfl

namespace Machine

variable {machine start : Machine} {timer : Timer}

/-- A request that comes while the machine is about to set the timer does so if it is a step. -/
def Sets (timer : Timer) (met : Machine × Request) : Prop :=
  met.2 = .step ∧ met.1.Executes timer.setter

theorem value_of_sets (sound : machine.Sound) (sets : machine.Executes timer.setter) :
    timer.value machine.step.2 = machine.operand.toNat := by
  have after : machine.step.2.view = _ :=
    congrArg Prod.snd (sound.step_follows sets.running sets.covers)
  rw [Timer.value, after, toNat_operand]
  cases timer <;> rfl

theorem value_of_step (sound : machine.Sound) (other : ¬ machine.Executes timer.setter) :
    timer.value machine.step.2 = timer.value machine := by
  have only : OnlyBy timer.get timer.setter :=
    { advance := fun _ => by cases timer <;> rfl
      act := fun _ plain _ _ _ => Form.timer_of_act plain }
  exact only.step sound other

/-- Between two settings a timer changes by ticks alone. -/
theorem value_of_serve (sound : machine.Sound) (request : Request)
    (other : ¬ Sets timer (machine, request)) : timer.value (machine.serve request).2 =
      if request = .decrementTimers then Timers.countDown (timer.value machine)
      else timer.value machine := by
  cases request with
  | decrementTimers => cases timer <;> rfl
  | setKeypad mask => cases timer <;> rfl
  | step => exact value_of_step sound fun executes => other ⟨rfl, executes⟩
  | deliverKey value =>
      rw [serve]
      obtain ⟨error, refused⟩ | ⟨registers, taken⟩ := machine.deliverKey_cases value
      · rw [refused]
        rfl
      · rw [taken]
        cases timer <;> rfl

theorem value_nonneg (sound : machine.Sound) (timer : Timer) : 0 ≤ timer.value machine := by
  cases timer with
  | delay => exact sound.inRange.delay.1
  | sound => exact sound.inRange.sound.1

theorem value_of_unset (sound : machine.Sound) {requests : List Request}
    (unset : ∀ met ∈ machine.encounters requests, ¬ Sets timer met) :
    timer.value (machine.serveAll requests) =
      max 0 (timer.value machine - requests.count .decrementTimers) := by
  have positive := value_nonneg sound timer
  induction requests generalizing machine with
  | nil =>
      rw [List.count_nil]
      change timer.value machine = _
      omega
  | cons request rest ih =>
      have first := value_of_serve sound request (unset _ (List.mem_cons_self ..))
      have served := sound.serve request
      rw [serveAll_cons, ih served (fun met member => unset met (List.mem_cons_of_mem _ member))
        (value_nonneg served timer), first]
      by_cases tick : request = .decrementTimers
      · rw [if_pos tick, tick, List.count_cons_self, Timers.countDown]
        omega
      · rw [if_neg tick, List.count_cons_of_ne tick]

/-- In a run of requests a timer was last set to this value, or is zero since loading, and has been
told so many ticks since. -/
inductive SetAgo (timer : Timer) (start : Machine) (requests : List Request) : Int → Nat → Prop where
  | never (unset : ∀ met ∈ start.encounters requests, ¬ Sets timer met) :
      SetAgo timer start requests 0 (requests.count .decrementTimers)
  | since {before after : List Request} (split : requests = before ++ .step :: after)
      (sets : (start.serveAll before).Executes timer.setter)
      (unset : ∀ met ∈ ((start.serveAll before).serve .step).2.encounters after, ¬ Sets timer met) :
      SetAgo timer start requests (start.serveAll before).operand.toNat
        (after.count .decrementTimers)

theorem exists_setAgo (timer : Timer) (start : Machine) (requests : List Request) :
    ∃ value ticks, SetAgo timer start requests value ticks := by
  induction requests generalizing start with
  | nil => exact ⟨_, _, .never fun met member => absurd member List.not_mem_nil⟩
  | cons request rest ih =>
      obtain ⟨_, _, ago⟩ := ih (start.serve request).2
      cases ago with
      -- The latest setting of the rest is the latest of all; the first request counts only without.
      | since split sets unset =>
          subst split
          exact ⟨_, _, .since (List.cons_append ..).symm sets unset⟩
      | never unset =>
          by_cases sets : Sets timer (start, request)
          · obtain ⟨step, sets⟩ := sets
            cases step
            exact ⟨_, _, .since (List.nil_append _).symm sets unset⟩
          · refine ⟨_, _, .never ?_⟩
            intro met member
            rcases List.mem_cons.mp member with rfl | later
            · exact sets
            · exact unset met later

theorem value_of_setAgo (sound : start.Sound) (fresh : timer.value start = 0)
    {requests : List Request} {value : Int} {ticks : Nat}
    (ago : SetAgo timer start requests value ticks) :
    timer.value (start.serveAll requests) = max 0 (value - ticks) := by
  cases ago with
  | never unset => rw [value_of_unset sound unset, fresh]
  | @since before after split sets unset =>
      have reached := sound.serveAll before
      have set : timer.value ((start.serveAll before).serve .step).2 = _ :=
        value_of_sets reached sets
      rw [split, serveAll_append, serveAll_cons, value_of_unset (reached.serve .step) unset, set]

theorem step_of_readDelay (sound : machine.Sound) (reads : machine.Executes .readDelay) :
    machine.step.1 = .ok .quiet ∧
      (machine.step.2.registers.get machine.nextWord.x).toNat = machine.timers.delay := by
  have byte : 0 ≤ machine.view.advance.delay ∧ machine.view.advance.delay < 256 :=
    sound.inRange.delay
  have follows := sound.step_follows reads.running reads.covers
  simp only [Form.act, byte, and_self, if_true] at follows
  obtain ⟨result, answered, after⟩ := ok_of_outcome follows
  constructor
  · have effect : result.effect = .none := by
      have same := congrArg Prod.fst follows
      rw [outcome, answered] at same
      exact Except.ok.inj same
    have picture := step_picture (Prod.ext answered rfl)
    rw [effect, if_neg (by decide)] at picture
    cases result
    cases effect
    cases picture
    exact answered
  · have stored : machine.step.2.view.v (slotAt (machine.view.word / 256 : Nat)) =
        machine.view.advance.delay.toNat := by
      rw [after]
      exact Function.update_self ..
    rw [get_x, nextWord, toNat_readWord, stored]
    exact Int.toNat_of_nonneg byte.1

/-- The timers tell when they were set, and reading the delay timer never fails. -/
structure CountsDown (start : Machine) (requests : List Request) : Prop where
  explained : ∀ timer, ∃ value ticks, SetAgo timer start requests value ticks
  timers : ∀ timer value ticks, SetAgo timer start requests value ticks →
    timer.value (start.serveAll requests) = max 0 (value - ticks)
  read : ∀ value ticks, SetAgo .delay start requests value ticks →
    (start.serveAll requests).Executes .readDelay →
      let reader := start.serveAll requests
      reader.step.1 = .ok .quiet ∧
        (reader.step.2.registers.get reader.nextWord.x).toNat = max 0 (value - ticks)

theorem countsDown_of_load {program : List Byte} {shift : ShiftDialect} {random : RandomSource}
    {trace : Trace} {start : Machine} (loaded : load program shift random trace = .ok start)
    (requests : List Request) : start.CountsDown requests := by
  have sound := Sound.load loaded
  have fresh : ∀ timer : Timer, timer.value start = 0 := by
    obtain ⟨memory, rfl⟩ := load_eq loaded
    intro timer
    cases timer <;> rfl
  have counts := fun timer value ticks => @value_of_setAgo start timer sound (fresh timer) requests
    value ticks
  refine
    { explained := fun timer => exists_setAgo timer start requests
      timers := counts
      read := ?_ }
  intro value ticks ago reads reader
  obtain ⟨answer, stored⟩ := step_of_readDelay (sound.serveAll requests) reads
  exact ⟨answer, stored.trans (counts .delay value ticks ago)⟩

theorem countsDown_of_reader :
    let program : List Byte := [0x61, 0x05, 0xF1, 0x15, 0xF2, 0x07]
    let start : Machine :=
      { memory := Memory.withFont.writeBlock Memory.programStart program, programSize := 6 }
    let requests : List Request := [.step, .step, .decrementTimers, .decrementTimers]
    load program .vx .zeros .silent = .ok start ∧ start.CountsDown requests ∧
      SetAgo .delay start requests 5 2 ∧ (start.serveAll requests).Executes .readDelay ∧
      Timer.delay.value (start.serveAll requests) = 3 := by
  intro program start requests
  have loaded : load program .vx .zeros .silent = .ok start := rfl
  have counts : start.CountsDown requests := countsDown_of_load loaded requests
  have sets : (start.serveAll [.step]).Executes Timer.delay.setter :=
    ⟨by decide +kernel, by decide +kernel⟩
  have five : (start.serveAll [.step]).operand.toNat = 5 := by decide +kernel
  have ago : SetAgo .delay start requests 5 2 := by
    have since : SetAgo .delay start requests (start.serveAll [.step]).operand.toNat 2 :=
      @SetAgo.since .delay start requests [.step] [.decrementTimers, .decrementTimers] rfl sets
        (by simp [encounters, Sets])
    rw [five] at since
    exact since
  exact ⟨loaded, counts, ago, ⟨by decide +kernel, by decide +kernel⟩, counts.timers .delay 5 2 ago⟩

end Machine

end Chip8
