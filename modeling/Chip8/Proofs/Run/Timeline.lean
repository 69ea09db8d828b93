import Chip8.Proofs.Machine.KeyWait
import Chip8.Proofs.Run.Interleaving
import Mathlib.Data.Nat.Init

/-!
# Timelines

A console and everything that happens to it, moment by moment: presses, releases and clearings,
timer ticks, and the parts of the cycles.  What is latched at a time is the latest fresh press.
-/

namespace Chip8

open Loop (Moment)

/-- A console at rest and what happens to it, moment by moment. -/
structure Timeline where
  start : Console
  moments : Nat → Moment

namespace Timeline

def loop (timeline : Timeline) : Nat → Loop
  | 0 => { console := timeline.start }
  | time + 1 => (timeline.loop time).move (timeline.moments time)

section Moments

variable (timeline : Timeline) (time : Nat)

def machine : Machine := (timeline.loop time).console.machine

def keypad : Keypad := (timeline.loop time).console.keypad

/-- A key goes down that was up. -/
def Presses (key : Fin 16) : Prop :=
  timeline.moments time = .event (.raise key.val true) ∧ (timeline.keypad time).staged.has key = false

def Clears : Prop := timeline.moments time = .event .clear

/-- A cycle that has shown the machine the held keys goes on. -/
def Proceeds : Prop :=
  timeline.moments time = .advance ∧ (timeline.loop time).phase = .shown

/-- A cycle looks for a press, for the machine waits. -/
def Looks : Prop := timeline.Proceeds time ∧ (timeline.machine time).runState ≠ .running

def Takes (key : Fin 16) : Prop :=
  timeline.Looks time ∧ (timeline.keypad time).pressed = some key

/-- A cycle executes an instruction, after handing over the key that it took, if any. -/
def Executes : Prop :=
  timeline.moments time = .advance ∧ ∃ taken, (timeline.loop time).phase = .ready taken

def Delivers (key : Fin 16) : Prop :=
  timeline.moments time = .advance ∧ (timeline.loop time).phase = .ready (some key)

/-- A cycle executes an instruction that begins a wait for register `x`. -/
def Asks (x : Nibble) : Prop :=
  timeline.moments time = .advance ∧ ∃ machine ∈ (timeline.loop time).stepped,
    machine.runState = .running ∧ Form.awaitKey.Covers machine.view.word ∧ machine.nextWord.x = x

end Moments

def stretch (timeline : Timeline) (time count : Nat) : List Moment :=
  (List.range count).map fun index => timeline.moments (time + index)

theorem length_stretch (timeline : Timeline) (time count : Nat) :
    (timeline.stretch time count).length = count := by
  rw [stretch, List.length_map, List.length_range]

theorem stretch_add (timeline : Timeline) (time first second : Nat) :
    timeline.stretch time (first + second) =
      timeline.stretch time first ++ timeline.stretch (time + first) second := by
  simp only [stretch, List.range_add, List.map_append, List.map_map, Function.comp_def,
    Nat.add_assoc]

theorem loop_add (timeline : Timeline) (time count : Nat) :
    timeline.loop (time + count) = (timeline.loop time).play (timeline.stretch time count) := by
  induction count with
  | zero => rfl
  | succ count ih =>
      rw [stretch, List.range_succ, List.map_append, Loop.play_append, ← stretch, ← ih]
      rfl

theorem forall_between_succ {P : Nat → Prop} {start time : Nat}
    (earlier : ∀ between, start < between → between < time → P between) (last : P time) :
    ∀ between, start < between → between < time + 1 → P between := by
  intro between after upTo
  rcases Nat.lt_succ_iff_lt_or_eq.mp upTo with before | rfl
  · exact earlier between after before
  · exact last

end Timeline

namespace Keypad

variable {keypad : Keypad} {event : Event} {key : Fin 16}

theorem pressed_happen (held : (keypad.happen event).pressed = some key) :
    (event = .raise key.val true ∧ keypad.staged.has key = false) ∨
      (keypad.pressed = some key ∧ event ≠ .clear ∧
        ∀ other : Fin 16, event = .raise other.val true → keypad.staged.has other = true) := by
  cases event with
  | clear => cases held
  | raise number down =>
      rw [happen, raise] at held
      cases named : key? number with
      | none =>
          rw [named] at held
          refine Or.inr ⟨held, by simp, ?_⟩
          rintro other ⟨⟩
          rw [key?_val] at named
          cases named
      | some found =>
          cases eq_of_key? named
          rw [named] at held
          cases down with
          | false => exact Or.inr ⟨held, by simp, by simp⟩
          | true =>
              cases down : keypad.staged.has found with
              | false =>
                  have same : found = key := by simpa [press, down] using held
                  subst same
                  exact Or.inl ⟨rfl, down⟩
              | true =>
                  refine Or.inr ⟨by simpa [press, down] using held, by simp, ?_⟩
                  intro other same
                  have numbers := (Event.raise.inj same).1
                  have number : found = other := Fin.ext (by omega)
                  rw [← number]
                  exact down

theorem pressed_happen_isSome (held : keypad.pressed.isSome) (kept : event ≠ .clear) :
    (keypad.happen event).pressed.isSome := by
  cases event with
  | clear => exact absurd rfl kept
  | raise number down =>
      rw [happen, raise]
      cases key? number with
      | none => exact held
      | some found =>
          cases down with
          | false => exact held
          | true =>
              cases down : keypad.staged.has found <;> simp [press, down, held]

theorem pressed_happen_press (up : keypad.staged.has key = false) :
    (keypad.happen (.raise key.val true)).pressed = some key := by
  simp [happen, raise, key?_val, press, up]

end Keypad

namespace Loop

variable {loop : Loop} {console : Console} {machine : Machine}

theorem step_keypad : (step console).console.keypad = console.keypad := by
  rw [step, Console.step]
  cases console.machine.step with
  | mk outcome after => cases outcome <;> rfl

theorem advance_missed {register : Int} (phase : loop.phase = .shown)
    (awaiting : loop.console.machine.runState = .awaitingKey register)
    (none : loop.console.keypad.pressed = none) :
    loop.advance = { console := loop.console.takePress.2 } := by
  simp only [advance, phase, awaiting, Console.takePress, Keypad.take, none]

theorem advance_found {register : Int} {key : Fin 16} (phase : loop.phase = .shown)
    (awaiting : loop.console.machine.runState = .awaitingKey register)
    (found : loop.console.keypad.pressed = some key) :
    loop.advance = { console := loop.console.takePress.2, phase := .ready (some key) } := by
  simp only [advance, phase, awaiting, Console.takePress, Keypad.take, found]

theorem advance_shown {register : Int} (phase : loop.phase = .shown)
    (awaiting : loop.console.machine.runState = .awaitingKey register) :
    loop.advance.console = loop.console.takePress.2 := by
  cases pressed : loop.console.keypad.pressed with
  | none => rw [advance_missed phase awaiting pressed]
  | some key => rw [advance_found phase awaiting pressed]

theorem advance_of_stepped (stepped : machine ∈ loop.stepped) :
    loop.advance = step { loop.console with machine := machine } := by
  rw [Loop.stepped] at stepped
  split at stepped
  · rename_i phase
    cases stepped
    rw [advance, phase]
  · rename_i key phase
    rw [advance, phase]
    rw [Machine.answered?] at stepped
    obtain ⟨error, refused⟩ | ⟨registers, taken⟩ :=
      loop.console.machine.deliverKey_cases key.val
    · rw [refused] at stepped
      cases stepped
    · rw [taken] at stepped
      cases stepped
      simp only [Console.deliver, taken]
  · cases stepped

theorem pressed_advance : loop.advance.console.keypad.pressed = loop.console.keypad.pressed ∨
    loop.advance.console.keypad.pressed = none := by
  cases phase : loop.phase with
  | rest =>
      rw [advance, phase]
      exact Or.inl rfl
  | settling =>
      rw [advance, phase]
      exact Or.inr rfl
  | shown =>
      cases state : loop.console.machine.runState with
      | running =>
          simp only [advance, phase, state]
          exact Or.inl trivial
      | awaitingKey register =>
          rw [advance_shown phase state]
          exact Or.inr rfl
  | ready taken =>
      cases stepped : loop.stepped with
      | some machine =>
          rw [advance_of_stepped stepped, step_keypad]
          exact Or.inl rfl
      | none =>
          cases taken with
          | none =>
              rw [Loop.stepped, phase] at stepped
              cases stepped
          | some key =>
              simp only [Loop.stepped, phase, Machine.answered?] at stepped
              simp only [advance, phase, Console.deliver]
              obtain ⟨error, refused⟩ | ⟨registers, taken⟩ :=
                loop.console.machine.deliverKey_cases key.val
              · rw [refused]
                exact Or.inl rfl
              · rw [taken] at stepped
                cases stepped

theorem runState_move {moment : Moment}
    (still : ¬ (moment = .advance ∧ ∃ taken, loop.phase = .ready taken)) :
    (loop.move moment).console.machine.runState = loop.console.machine.runState := by
  cases moment with
  | event event | timers => rfl
  | call =>
      rw [move]
      split <;> rfl
  | advance =>
      rw [move]
      cases phase : loop.phase with
      | rest => rw [advance, phase]
      | settling =>
          rw [advance, phase]
          rfl
      | shown =>
          cases state : loop.console.machine.runState with
          | running => simp only [advance, phase, state]
          | awaitingKey register =>
              rw [advance_shown phase state]
              exact state
      | ready taken => exact absurd ⟨rfl, taken, phase⟩ still

/-- After a step that begins a wait the cycle is to settle; after any other it is over. -/
theorem step_asks (running : console.machine.runState = .running)
    (asks : Form.awaitKey.Covers console.machine.view.word) :
    (step console).phase = .settling ∧
      (step console).console.machine.runState = .awaitingKey console.machine.nextWord.x.toNat := by
  rw [step, Console.step, Machine.step_of_awaitKey running asks]
  exact ⟨rfl, rfl⟩

theorem step_other (running : console.machine.runState = .running)
    (other : ¬ Form.awaitKey.Covers console.machine.view.word) :
    (step console).phase = .rest ∧ (step console).console.machine.runState = .running := by
  rw [step, Console.step]
  have stepped := Machine.step_stepped running
  generalize console.machine.step = performed at stepped
  cases stepped with
  | failed plain display runState => exact ⟨rfl, runState⟩
  | @done form result after covers effect picture display runState =>
      have plain : form ≠ .awaitKey := fun same => other (same ▸ covers)
      rw [if_neg plain] at runState
      have quiet : result.awaitKey = false :=
        decide_eq_false (effect ▸ mt Form.effect_eq_awaitKey_iff.mp plain)
      simp only [quiet]
      exact ⟨rfl, runState⟩

end Loop

namespace Timeline

variable {timeline : Timeline} {asked drained time : Nat} {x : Nibble} {key : Fin 16}

/-- The latest fresh press is the one that is latched. -/
theorem exists_latest (empty : (timeline.keypad drained).pressed = none) (later : drained ≤ time)
    (held : (timeline.keypad time).pressed = some key) :
    ∃ pressed, drained ≤ pressed ∧ pressed < time ∧ timeline.Presses pressed key ∧
      ∀ between, pressed < between → between < time →
        (∀ other, ¬ timeline.Presses between other) ∧ ¬ timeline.Clears between := by
  induction time, later using Nat.le_induction generalizing key with
  | base =>
      rw [empty] at held
      cases held
  | succ time later ih =>
      have cases : timeline.Presses time key ∨ (timeline.keypad time).pressed = some key ∧
          (∀ other, ¬ timeline.Presses time other) ∧ ¬ timeline.Clears time := by
        simp only [Presses, Clears]
        rw [keypad, loop] at held
        cases moment : timeline.moments time with
        | event event =>
            rw [moment] at held
            rcases Keypad.pressed_happen held with ⟨rfl, up⟩ | ⟨kept, whole, down⟩
            · exact Or.inl ⟨rfl, up⟩
            · refine Or.inr ⟨kept, ?_, ?_⟩
              · rintro other ⟨same, up⟩
                have held := down other (Moment.event.inj same)
                rw [keypad, held] at up
                cases up
              · intro clears
                exact whole (Moment.event.inj clears)
        | timers =>
            rw [moment] at held
            exact Or.inr ⟨held, by simp, by simp⟩
        | call =>
            rw [moment, Loop.move] at held
            refine Or.inr ⟨?_, by simp, by simp⟩
            split at held <;> exact held
        | advance =>
            rw [moment, Loop.move] at held
            refine Or.inr ⟨?_, by simp, by simp⟩
            rcases @Loop.pressed_advance (timeline.loop time) with kept | dropped
            · exact kept.symm.trans held
            · rw [dropped] at held
              cases held
      rcases cases with pressed | ⟨held, quiet⟩
      · refine ⟨time, later, Nat.lt_succ_self time, pressed, ?_⟩
        intro between after before
        omega
      · obtain ⟨pressed, inside, before, presses, latest⟩ := ih held
        exact ⟨pressed, inside, Nat.lt_succ_of_lt before, presses, forall_between_succ latest quiet⟩

end Timeline

end Chip8
