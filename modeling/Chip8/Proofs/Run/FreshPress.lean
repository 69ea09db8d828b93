import Chip8.Proofs.Run.Waiting

/-!
# Fresh presses

The key that ends a wait was pressed after the wait began: it is the latest fresh press before the
cycle looks for one, and no press ends two waits.  Conversely a fresh press during a wait is not
lost.  Both hold however presses, releases and clearings fall between the parts of the cycles.
-/

namespace Chip8

open Loop (Moment)

namespace Timeline

variable {timeline : Timeline} {asked drained pressed taken time : Nat} {x : Nibble} {key : Fin 16}

theorem phase_of_takes (takes : timeline.Takes taken key) (later : taken < time)
    (still : ∀ between, taken < between → between < time → ¬ timeline.Executes between) :
    (timeline.loop time).phase = .ready (some key) := by
  induction time, later using Nat.le_induction with
  | base =>
      obtain ⟨⟨⟨moment, shown⟩, waiting⟩, found⟩ := takes
      obtain ⟨register, awaiting⟩ : ∃ register,
          (timeline.loop taken).console.machine.runState = .awaitingKey register := by
        cases state : (timeline.loop taken).console.machine.runState with
        | running => exact absurd state waiting
        | awaitingKey register => exact ⟨register, rfl⟩
      rw [loop, moment, Loop.move, Loop.advance_found shown awaiting found]
  | succ time later ih =>
      have held := ih fun between after before => still between after (Nat.lt_succ_of_lt before)
      refine phase_of_ready held fun moment => ?_
      exact still time later (Nat.lt_succ_self time) ⟨moment, some key, held⟩

theorem Asks.executes (asks : timeline.Asks asked x) : timeline.Executes asked := by
  obtain ⟨moment, machine, stepped, _⟩ := asks
  refine ⟨moment, ?_⟩
  rw [Loop.stepped] at stepped
  cases phase : (timeline.loop asked).phase with
  | ready taken => exact ⟨taken, rfl⟩
  | rest | shown | settling =>
      rw [phase] at stepped
      cases stepped

/-- Between two takings an instruction is executed, so the later one ends a later wait. -/
theorem EndsWait.taken_le {asked' taken' : Nat} {x' : Nibble} {key' : Fin 16}
    (first : timeline.EndsWait asked x pressed taken key)
    (second : timeline.EndsWait asked' x' pressed taken' key') : taken' ≤ taken := by
  by_contra later
  have later : taken < taken' := Nat.lt_of_not_le later
  have still : ∀ between, taken < between → between < taken' → ¬ timeline.Executes between := by
    intro between after before
    have asked := second.after
    have taken := first.before
    exact second.pending between (by omega) before
  have held := phase_of_takes first.takes later still
  have shown := second.takes.1.1.2
  cases held.symm.trans shown

theorem EndsWait.asked_le {asked' taken' : Nat} {x' : Nibble} {key' : Fin 16}
    (first : timeline.EndsWait asked x pressed taken key)
    (second : timeline.EndsWait asked' x' pressed taken' key') : asked' ≤ asked := by
  by_contra later
  have inside : asked' < taken := Nat.lt_trans second.after first.before
  exact first.pending asked' (Nat.lt_of_not_le later) inside second.asks.executes

/-- A latched press stays latched, unless another one takes its place, until a cycle looks for it. -/
theorem Waits.latched_succ (waits : timeline.Waits asked drained time x)
    (ahead : ¬ timeline.Proceeds time) (kept : ¬ timeline.Clears time)
    (held : (timeline.keypad time).pressed.isSome) :
    (timeline.keypad (time + 1)).pressed.isSome := by
  rw [keypad, loop]
  cases moment : timeline.moments time with
  | event event =>
      refine Keypad.pressed_happen_isSome held ?_
      rintro rfl
      exact kept moment
  | timers => exact held
  | call =>
      rw [Loop.move]
      split <;> exact held
  | advance =>
      rw [Loop.move]
      rcases waits.phase with rest | shown
      · rw [Loop.advance, rest]
        exact held
      · exact absurd ⟨moment, shown⟩ ahead

theorem Settles.until (settles : timeline.Settles asked (asked + 1) x) (later : asked < time)
    (idle : ∀ between, asked < between → between < time → ∀ key, ¬ timeline.Takes between key) :
    timeline.Settles asked time x ∨ ∃ drained, timeline.Waits asked drained time x := by
  induction time, later using Nat.le_induction with
  | base => exact Or.inl settles
  | succ time later ih =>
      have earlier := ih fun between after before => idle between after (Nat.lt_succ_of_lt before)
      rcases earlier with settles | ⟨drained, waits⟩
      · exact settles.succ.imp_right fun waits => ⟨time + 1, waits⟩
      · exact Or.inr ⟨drained, waits.succ (idle time later (Nat.lt_succ_self time))⟩

theorem Waits.until {settled : Nat} (waits : timeline.Waits asked drained settled x)
    (later : settled ≤ time)
    (idle : ∀ between, settled ≤ between → between < time → ∀ key, ¬ timeline.Takes between key) :
    timeline.Waits asked drained time x := by
  induction time, later using Nat.le_induction with
  | base => exact waits
  | succ time later ih =>
      have earlier := ih fun between after before => idle between after (Nat.lt_succ_of_lt before)
      exact earlier.succ (idle time later (Nat.lt_succ_self time))

/-- A key is pressed in a wait, after the cycle that began the wait has returned and before a press
is taken.  No clearing of the keypad comes between the press and the time `next` at which the next
cycle, or the one under way, goes on after it has shown the held keys. -/
structure PressedInWait (timeline : Timeline) (asked : Nat) (x : Nibble)
    (returned pressed next : Nat) (key : Fin 16) : Prop where
  asks : timeline.Asks asked x
  after : asked < returned
  atRest : (timeline.loop returned).phase = .rest
  order : returned ≤ pressed
  idle : ∀ time, asked < time → time < pressed → ∀ other, ¬ timeline.Takes time other
  presses : timeline.Presses pressed key
  ahead : pressed < next
  proceeds : timeline.Proceeds next
  first : ∀ time, pressed < time → time < next → ¬ timeline.Proceeds time
  kept : ∀ time, pressed < time → time < next → ¬ timeline.Clears time

variable {returned next : Nat}

namespace PressedInWait

theorem waits_pressed (fresh : timeline.PressedInWait asked x returned pressed next key) :
    ∃ drained, timeline.Waits asked drained pressed x := by
  have settles := settles_of_asks fresh.asks
  have upTo : ∀ between, asked < between → between < returned →
      ∀ key, ¬ timeline.Takes between key :=
    fun between after before => fresh.idle between after (Nat.lt_of_lt_of_le before fresh.order)
  obtain ⟨drained, waits⟩ : ∃ drained, timeline.Waits asked drained returned x := by
    rcases settles.until fresh.after upTo with settling | waits
    · cases settling.phase.symm.trans fresh.atRest
    · exact waits
  exact ⟨drained, waits.until fresh.order fun between after before =>
    fresh.idle between (Nat.lt_of_lt_of_le fresh.after after) before⟩

theorem latched (fresh : timeline.PressedInWait asked x returned pressed next key)
    (waits : timeline.Waits asked drained pressed x) (later : pressed < time)
    (upTo : time ≤ next) :
    timeline.Waits asked drained time x ∧ (timeline.keypad time).pressed.isSome := by
  induction time, later using Nat.le_induction with
  | base =>
      obtain ⟨moment, up⟩ := fresh.presses
      constructor
      · refine waits.succ ?_
        rintro other ⟨⟨⟨goes, _⟩, _⟩, _⟩
        cases moment.symm.trans goes
      · rw [keypad, loop, moment]
        exact Option.isSome_of_eq_some (Keypad.pressed_happen_press up)
  | succ time later ih =>
      obtain ⟨waits, held⟩ := ih (Nat.le_of_succ_le upTo)
      have ahead := fresh.first time later upTo
      exact ⟨waits.succ fun other takes => ahead takes.1.1,
        waits.latched_succ ahead (fresh.kept time later upTo) held⟩

theorem holds (fresh : timeline.PressedInWait asked x returned pressed next key) :
    ∃ latest found, pressed ≤ latest ∧
      timeline.Holds asked latest next (next + 1) found x := by
  obtain ⟨drained, waiting⟩ := fresh.waits_pressed
  obtain ⟨waits, held⟩ := fresh.latched waiting fresh.ahead (Nat.le_refl next)
  obtain ⟨found, latched⟩ := Option.isSome_iff_exists.mp held
  have takes : timeline.Takes next found :=
    ⟨⟨fresh.proceeds, by rw [waits.state]; simp⟩, latched⟩
  obtain ⟨latest, _, holds⟩ := waits.holds takes
  refine ⟨latest, found, ?_, holds⟩
  by_contra earlier
  have quiet := holds.ends.latest pressed (Nat.lt_of_not_le earlier) fresh.ahead
  exact quiet.1 key fresh.presses

end PressedInWait

/-- Keys end waits as fresh presses only. -/
structure FreshPresses (timeline : Timeline) : Prop where
  /-- A key that is handed over was pressed in the wait that it ends.  The press was the latest
  fresh one when the cycle took it, and ends no other wait. -/
  delivered : ∀ time key, timeline.Delivers time key → ∃ asked x pressed taken,
    timeline.EndsWait asked x pressed taken key ∧ timeline.Accepts time x key ∧ taken < time ∧
      (∀ between, taken < between → between < time → timeline.moments between ≠ .advance) ∧
      ∀ asked' x' taken' key', timeline.EndsWait asked' x' pressed taken' key' →
        asked' = asked ∧ taken' = taken
  /-- After a fresh press in a wait the next cycle hands over the latest fresh press. -/
  answered : ∀ asked x returned pressed next key,
    timeline.PressedInWait asked x returned pressed next key → ∃ latest found,
      pressed ≤ latest ∧ timeline.EndsWait asked x latest next found ∧
        ∀ time, next < time → timeline.moments time = .advance →
          (∀ between, next < between → between < time → timeline.moments between ≠ .advance) →
          timeline.Delivers time found ∧ timeline.Accepts time x found
  /-- Where the parts of a cycle are played in a row, a cycle is run, and it reports the key that
  is handed over. -/
  cycles : ∀ time (others : Interference), (timeline.loop time).phase = .rest →
    timeline.stretch time others.moments.length = others.moments →
    let cycle := Cycle.run (timeline.loop time).console others
    timeline.loop (time + others.moments.length) = { console := cycle.console } ∧
      ∀ key, timeline.Delivers (time + others.opening.length) key ↔
        ∃ register, cycle.delivered = some (key, register)

theorem cycle_of_stretch (timeline : Timeline) (time : Nat) (others : Interference)
    (rest : (timeline.loop time).phase = .rest)
    (played : timeline.stretch time others.moments.length = others.moments) :
    let cycle := Cycle.run (timeline.loop time).console others
    timeline.loop (time + others.moments.length) = { console := cycle.console } ∧
      ∀ key, timeline.Delivers (time + others.opening.length) key ↔
        ∃ register, cycle.delivered = some (key, register) := by
  have start : timeline.loop time = { console := (timeline.loop time).console } := by
    rw [← rest]
  constructor
  · rw [loop_add, played, ← Loop.play_cycle, ← start]
  · intro key
    have parts := played
    rw [Interference.moments, List.length_append, stretch_add] at parts
    obtain ⟨opening, closing⟩ := List.append_inj parts (length_stretch ..)
    have moment : timeline.moments (time + others.opening.length) = .advance := by
      simpa [stretch, List.range_succ_eq_map] using congrArg List.head? closing
    rw [← Loop.phase_opening, ← start, Delivers, loop_add, opening]
    exact and_iff_right moment

theorem freshPresses_of_running (timeline : Timeline)
    (running : timeline.start.machine.runState = .running) : timeline.FreshPresses where
  delivered time key delivers := by
    cases status running time with
    | runs state phase => simp [delivers.2] at phase
    | settles settles => cases settles.phase.symm.trans delivers.2
    | waits waits =>
        rcases waits.phase with rest | shown
        · cases rest.symm.trans delivers.2
        · cases shown.symm.trans delivers.2
    | @holds asked pressed taken held x holds =>
        cases holds.phase.symm.trans delivers.2
        refine ⟨asked, x, pressed, taken, holds.ends, holds.accepts, holds.since, holds.quiet, ?_⟩
        intro asked' x' taken' key' again
        exact ⟨Nat.le_antisymm (holds.ends.asked_le again) (again.asked_le holds.ends),
          Nat.le_antisymm (holds.ends.taken_le again) (again.taken_le holds.ends)⟩
  answered asked x returned pressed next key fresh := by
    obtain ⟨latest, found, later, holds⟩ := fresh.holds
    refine ⟨latest, found, later, holds.ends, ?_⟩
    intro time after moment quiet
    have holds := holds.until after quiet
    exact ⟨⟨moment, holds.phase⟩, holds.accepts⟩
  cycles := cycle_of_stretch timeline

theorem freshPresses_of_question :
    let machine : Machine :=
      { memory := Memory.withFont.writeBlock Memory.programStart [0xF3, 0x0A], programSize := 2 }
    let parts : List Moment :=
      [.call, .advance, .advance, .advance, .event (.raise 5 true), .call]
    let timeline : Timeline :=
      { start := { machine }, moments := fun time => parts.getD time .advance }
    machine.runState = .running ∧ timeline.PressedInWait 2 3 4 4 6 5 ∧ timeline.Delivers 7 5 ∧
      timeline.FreshPresses := by
  intro machine parts timeline
  have high : machine.memory.read 0x200 = 0xF3 :=
    @Machine.read_program [0xF3, 0x0A] 0 (by decide) (by decide)
  have low : machine.memory.read 0x201 = 0x0A :=
    @Machine.read_program [0xF3, 0x0A] 1 (by decide) (by decide)
  have word : (machine.setKeypad 0).view.word = 0xF30A := Machine.word_of_reads _ high low
  have covers : Form.awaitKey.Covers (machine.setKeypad 0).view.word := by
    rw [word]
    decide
  have register : (machine.setKeypad 0).nextWord.x = 3 := by
    refine BitVec.eq_of_toNat_eq ?_
    rw [Word.toNat_x, Machine.nextWord, Machine.toNat_readWord, word]
    rfl
  have stepped : machine.setKeypad 0 ∈ (timeline.loop 2).stepped := Option.mem_def.mpr rfl
  have asks : timeline.Asks 2 3 := ⟨rfl, machine.setKeypad 0, stepped, rfl, covers, register⟩
  obtain ⟨waiting, state, begun⟩ : ∃ waiting : Machine,
      waiting.runState = .awaitingKey (3#4).toNat ∧
        timeline.loop 3 = { console := { machine := waiting }, phase := .settling } := by
    have settles := settles_of_asks asks
    have keypad : (timeline.loop 3).console.keypad = {} :=
      (congrArg (·.console.keypad) (Loop.advance_of_stepped stepped)).trans Loop.step_keypad
    refine ⟨timeline.machine 3, settles.state, ?_⟩
    calc
      timeline.loop 3 =
          { console :=
              { machine := timeline.machine 3, keypad := (timeline.loop 3).console.keypad }
            phase := (timeline.loop 3).phase } := rfl
      _ = { console := { machine := timeline.machine 3 }, phase := .settling } := by
        rw [keypad, settles.phase]
  have pressed : timeline.loop 5 =
      { console := { machine := waiting, keypad := Keypad.press {} 5 } } := by
    rw [loop, loop, begun]
    rfl
  have shown : timeline.loop 6 =
      { console := Console.showKeys { machine := waiting, keypad := Keypad.press {} 5 }
        phase := .shown } := by
    rw [loop, pressed]
    rfl
  have fresh : timeline.PressedInWait 2 3 4 4 6 5 := by
    have settled : timeline.loop 4 = { console := { machine := waiting } } := by
      rw [loop, begun]
      rfl
    have next : timeline.moments 5 = .call := rfl
    exact
      { asks
        after := by decide
        atRest := by rw [settled]
        order := by decide
        idle := by
          intro time after before other takes
          have three : time = 3 := by omega
          subst three
          have shown := takes.1.1.2
          rw [begun] at shown
          cases shown
        presses := ⟨rfl, by rw [keypad, settled]; simp [KeySet.has]⟩
        ahead := by decide
        proceeds := ⟨rfl, by rw [shown]⟩
        first := by
          intro time after before goes
          have five : time = 5 := by omega
          subst five
          cases next.symm.trans goes.1
        kept := by
          intro time after before clears
          have five : time = 5 := by omega
          subst five
          cases next.symm.trans clears }
  have delivers : timeline.Delivers 7 5 := by
    refine ⟨rfl, ?_⟩
    have found := @Loop.advance_found (timeline.loop 6)
    rw [shown] at found
    rw [loop, shown]
    exact congrArg Loop.phase (found rfl state rfl)
  exact ⟨rfl, fresh, delivers, freshPresses_of_running timeline rfl⟩

end Timeline

end Chip8
