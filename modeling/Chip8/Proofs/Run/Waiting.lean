import Chip8.Proofs.Run.Timeline

namespace Chip8

open Loop (Moment)

namespace Timeline

/-- The press of `key` at the time `pressed` ends the wait for register `x` that began at the time
`asked`: a cycle takes it at the time `taken`. -/
structure EndsWait (timeline : Timeline) (asked : Nat) (x : Nibble) (pressed taken : Nat)
    (key : Fin 16) : Prop where
  asks : timeline.Asks asked x
  presses : timeline.Presses pressed key
  takes : timeline.Takes taken key
  after : asked < pressed
  before : pressed < taken
  /-- It is that wait, for nothing has been executed since. -/
  pending : ∀ time, asked < time → time < taken → ¬ timeline.Executes time
  /-- There is no later press, and the keypad has not been cleared. -/
  latest : ∀ time, pressed < time → time < taken →
    (∀ other, ¬ timeline.Presses time other) ∧ ¬ timeline.Clears time

variable {timeline : Timeline} {asked drained time : Nat} {x : Nibble} {key : Fin 16}

structure Pending (timeline : Timeline) (asked time : Nat) (x : Nibble) : Prop where
  asks : timeline.Asks asked x
  after : asked < time
  still : ∀ between, asked < between → between < time → ¬ timeline.Executes between
  state : (timeline.machine time).runState = .awaitingKey x.toNat

theorem Pending.succ (pending : timeline.Pending asked time x)
    (still : ¬ timeline.Executes time) : timeline.Pending asked (time + 1) x := by
  have state := (Loop.runState_move still).trans pending.state
  exact ⟨pending.asks, Nat.lt_succ_of_lt pending.after, forall_between_succ pending.still still,
    state⟩

/-- A wait whose beginning the cycle has not settled yet. -/
structure Settles (timeline : Timeline) (asked time : Nat) (x : Nibble) : Prop
    extends timeline.Pending asked time x where
  phase : (timeline.loop time).phase = .settling

/-- A wait for which the latched press was dropped, `drained` being the first time after that. -/
structure Waits (timeline : Timeline) (asked drained time : Nat) (x : Nibble) : Prop
    extends timeline.Pending asked time x where
  phase : (timeline.loop time).phase = .rest ∨ (timeline.loop time).phase = .shown
  empty : (timeline.keypad drained).pressed = none
  order : asked < drained ∧ drained ≤ time

theorem settles_of_asks (asks : timeline.Asks asked x) :
    timeline.Settles asked (asked + 1) x := by
  obtain ⟨moment, machine, stepped, running, covers, same⟩ := id asks
  have next : timeline.loop (asked + 1) =
      Loop.step { (timeline.loop asked).console with machine := machine } := by
    rw [loop, moment]
    exact Loop.advance_of_stepped stepped
  obtain ⟨phase, state⟩ :=
    @Loop.step_asks { (timeline.loop asked).console with machine := machine } running covers
  rw [← next] at phase state
  rw [same] at state
  refine ⟨⟨asks, Nat.lt_succ_self asked, ?_, state⟩, phase⟩
  intro between after before
  omega

theorem Settles.succ (settles : timeline.Settles asked time x) :
    timeline.Settles asked (time + 1) x ∨ timeline.Waits asked (time + 1) (time + 1) x := by
  have still : ¬ timeline.Executes time := by
    rintro ⟨_, taken, ready⟩
    cases settles.phase.symm.trans ready
  have pending := settles.toPending.succ still
  have next : timeline.loop (time + 1) = (timeline.loop time).move (timeline.moments time) := rfl
  cases moment : timeline.moments time with
  | event event | timers =>
      rw [moment] at next
      exact Or.inl ⟨pending, by rw [next]; exact settles.phase⟩
  | call =>
      rw [moment, Loop.move, settles.phase] at next
      exact Or.inl ⟨pending, by rw [next]; exact settles.phase⟩
  | advance =>
      rw [moment, Loop.move, Loop.advance, settles.phase] at next
      have order : asked < time + 1 ∧ time + 1 ≤ time + 1 := ⟨pending.after, Nat.le_refl _⟩
      exact Or.inr ⟨pending, Or.inl (by rw [next]), by rw [keypad, next]; rfl, order⟩

theorem Waits.succ (waits : timeline.Waits asked drained time x)
    (idle : ∀ key, ¬ timeline.Takes time key) : timeline.Waits asked drained (time + 1) x := by
  have still : ¬ timeline.Executes time := by
    rintro ⟨_, taken, ready⟩
    rcases waits.phase with rest | shown
    · cases rest.symm.trans ready
    · cases shown.symm.trans ready
  have pending := waits.toPending.succ still
  have order : asked < drained ∧ drained ≤ time + 1 :=
    ⟨waits.order.1, Nat.le_succ_of_le waits.order.2⟩
  have next : timeline.loop (time + 1) = (timeline.loop time).move (timeline.moments time) := rfl
  refine ⟨pending, ?_, waits.empty, order⟩
  rw [next]
  cases moment : timeline.moments time with
  | event event | timers => exact waits.phase
  | call =>
      rw [Loop.move]
      split
      · exact Or.inr rfl
      · exact waits.phase
  | advance =>
      rw [Loop.move]
      rcases waits.phase with rest | shown
      · rw [Loop.advance, rest]
        exact Or.inl rest
      · have looks : timeline.Looks time := ⟨⟨moment, shown⟩, by rw [waits.state]; simp⟩
        have none : (timeline.keypad time).pressed = none :=
          Option.eq_none_iff_forall_ne_some.mpr fun key found => idle key ⟨looks, found⟩
        rw [Loop.advance_missed shown waits.state none]
        exact Or.inl rfl

theorem Waits.endsWait (waits : timeline.Waits asked drained time x)
    (takes : timeline.Takes time key) :
    ∃ pressed, drained ≤ pressed ∧ timeline.EndsWait asked x pressed time key := by
  obtain ⟨pressed, inside, before, presses, latest⟩ :=
    exists_latest waits.empty waits.order.2 takes.2
  refine ⟨pressed, inside, ?_⟩
  exact
    { asks := waits.asks
      presses
      takes
      after := Nat.lt_of_lt_of_le waits.order.1 inside
      before
      pending := waits.still
      latest }

/-- A cycle has taken the press that ends a wait and is about to hand it over. -/
structure Holds (timeline : Timeline) (asked pressed taken time : Nat) (key : Fin 16) (x : Nibble) :
    Prop where
  ends : timeline.EndsWait asked x pressed taken key
  since : taken < time
  quiet : ∀ between, taken < between → between < time → timeline.moments between ≠ .advance
  phase : (timeline.loop time).phase = .ready (some key)
  state : (timeline.machine time).runState = .awaitingKey x.toNat

variable {pressed taken : Nat}

theorem Waits.holds (waits : timeline.Waits asked drained time x)
    (takes : timeline.Takes time key) :
    ∃ pressed, drained ≤ pressed ∧ timeline.Holds asked pressed time (time + 1) key x := by
  obtain ⟨pressed, inside, ends⟩ := waits.endsWait takes
  obtain ⟨⟨⟨moment, shown⟩, _⟩, found⟩ := takes
  have next : timeline.loop (time + 1) =
      { console := (timeline.loop time).console.takePress.2, phase := .ready (some key) } := by
    rw [loop, moment]
    exact Loop.advance_found shown waits.state found
  refine ⟨pressed, inside, ends, Nat.lt_succ_self time, ?_, by rw [next], ?_⟩
  · intro between after before
    omega
  · rw [Timeline.machine, next]
    exact waits.state

theorem phase_of_ready {held : Option (Fin 16)} (ready : (timeline.loop time).phase = .ready held)
    (idle : timeline.moments time ≠ .advance) :
    (timeline.loop (time + 1)).phase = .ready held := by
  rw [loop]
  cases moment : timeline.moments time with
  | event event | timers => exact ready
  | call =>
      rw [Loop.move, ready]
      exact ready
  | advance => exact absurd moment idle

theorem Holds.succ (holds : timeline.Holds asked pressed taken time key x)
    (idle : timeline.moments time ≠ .advance) :
    timeline.Holds asked pressed taken (time + 1) key x := by
  have state := (Loop.runState_move fun executes => idle executes.1).trans holds.state
  exact ⟨holds.ends, Nat.lt_succ_of_lt holds.since, forall_between_succ holds.quiet idle,
    phase_of_ready holds.phase idle, state⟩

def Accepts (timeline : Timeline) (time : Nat) (x : Nibble) (key : Fin 16) : Prop :=
  (timeline.machine time).deliverKey key.val = (.ok (), { timeline.machine time with
    registers := (timeline.machine time).registers.set x (BitVec.ofInt 8 key.val)
    runState := .running })

theorem Holds.accepts (holds : timeline.Holds asked pressed taken time key x) :
    timeline.Accepts time x key :=
  Machine.deliverKey_of_key holds.state (by omega)

theorem Holds.until (holds : timeline.Holds asked pressed taken (taken + 1) key x)
    (later : taken < time)
    (quiet : ∀ between, taken < between → between < time → timeline.moments between ≠ .advance) :
    timeline.Holds asked pressed taken time key x := by
  induction time, later using Nat.le_induction with
  | base => exact holds
  | succ time later ih =>
      have earlier := ih fun between after before => quiet between after (Nat.lt_succ_of_lt before)
      exact earlier.succ (quiet time later (Nat.lt_succ_self time))

/-- What a timeline does at a time, the machine having run at the start. -/
inductive Status (timeline : Timeline) (time : Nat) : Prop where
  | runs (state : (timeline.machine time).runState = .running)
      (phase : (timeline.loop time).phase ∈ [Phase.rest, .shown, .ready none])
  | settles {asked : Nat} {x : Nibble} (settles : timeline.Settles asked time x)
  | waits {asked drained : Nat} {x : Nibble} (waits : timeline.Waits asked drained time x)
  | holds {asked pressed taken : Nat} {key : Fin 16} {x : Nibble}
      (holds : timeline.Holds asked pressed taken time key x)

theorem status_of_stepped {machine : Machine} (moment : timeline.moments time = .advance)
    (stepped : machine ∈ (timeline.loop time).stepped) (running : machine.runState = .running) :
    timeline.Status (time + 1) := by
  by_cases asks : Form.awaitKey.Covers machine.view.word
  · exact .settles (settles_of_asks ⟨moment, machine, stepped, running, asks, rfl⟩)
  · have next : timeline.loop (time + 1) =
        Loop.step { (timeline.loop time).console with machine := machine } := by
      rw [loop, moment]
      exact Loop.advance_of_stepped stepped
    obtain ⟨phase, state⟩ :=
      @Loop.step_other { (timeline.loop time).console with machine := machine } running asks
    rw [← next] at phase state
    exact .runs state (by rw [phase]; simp)

theorem status_succ (status : timeline.Status time) : timeline.Status (time + 1) := by
  have next : timeline.loop (time + 1) = (timeline.loop time).move (timeline.moments time) := rfl
  cases status with
  | settles settles =>
      rcases settles.succ with settles | waits
      · exact .settles settles
      · exact .waits waits
  | @waits asked drained x waits =>
      by_cases idle : ∀ key, ¬ timeline.Takes time key
      · exact .waits (waits.succ idle)
      · obtain ⟨key, takes⟩ := not_forall_not.mp idle
        obtain ⟨pressed, _, holds⟩ := waits.holds takes
        exact .holds holds
  | @holds asked pressed taken key x holds =>
      by_cases moment : timeline.moments time = .advance
      · have stepped : { timeline.machine time with
            registers := (timeline.machine time).registers.set x (BitVec.ofInt 8 key.val)
            runState := .running } ∈ (timeline.loop time).stepped := by
          have accepts : (timeline.loop time).console.machine.deliverKey key.val = _ := holds.accepts
          simp only [Loop.stepped, holds.phase, Machine.answered?, accepts]
          rfl
        exact status_of_stepped moment stepped rfl
      · exact .holds (holds.succ moment)
  | runs state phase =>
      by_cases executes : timeline.Executes time
      · obtain ⟨moment, taken, ready⟩ := executes
        have taken : taken = none := by simpa [ready] using phase
        subst taken
        exact status_of_stepped moment (by rw [Loop.stepped, ready]; rfl) state
      · refine .runs ((Loop.runState_move executes).trans state) ?_
        rw [next]
        cases moment : timeline.moments time with
        | event event | timers => exact phase
        | call =>
            rw [Loop.move]
            split
            · simp
            · exact phase
        | advance =>
            rw [Loop.move, Loop.advance]
            cases reached : (timeline.loop time).phase with
            | rest => exact phase
            | shown =>
                have running : (timeline.loop time).console.machine.runState = .running := state
                simp [running]
            | ready taken => exact absurd ⟨moment, taken, reached⟩ executes
            | settling => simp [reached] at phase

theorem status (running : timeline.start.machine.runState = .running) (time : Nat) :
    timeline.Status time := by
  induction time with
  | zero => exact .runs running (by simp [loop])
  | succ time ih => exact status_succ ih

end Timeline

end Chip8
