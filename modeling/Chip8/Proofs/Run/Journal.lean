import Chip8.Proofs.Run.Pacing

/-!
# Journals

The journal of a run tells tick by tick what was read and done.  Two runs at the same rates that
read the same clock tick their timers and run their cycles alike, whatever their machines, devices
and keys do: all that one tick hands on to the next about its work is the pace.
-/

namespace Chip8

namespace Beat.AreCycles

variable {due : Nat} {beats : List Beat}

theorem timers_notMem (cycles : AreCycles due beats) : .timers ∉ beats := by
  rcases cycles with rfl | ⟨ran, _, rfl⟩
  · simp
  · simp

theorem length_le (cycles : AreCycles due beats) : beats.length ≤ due := by
  rcases cycles with rfl | ⟨ran, early, rfl⟩
  · simp
  · rw [List.length_append, List.length_replicate]
    exact early

theorem length_eq (cycles : AreCycles due beats) (fine : .cycle false ∉ beats) :
    beats.length = due := by
  rcases cycles with rfl | ⟨ran, _, rfl⟩
  · simp
  · simp at fine

end Beat.AreCycles

namespace Entry

def ticks (entry : Entry) : Nat := entry.tally.beats.count .timers

def cycles (entry : Entry) : Nat := entry.tally.beats.countP (· ≠ .timers)

def Faults (entry : Entry) : Prop := .cycle false ∈ entry.tally.beats

/-- Timers come before cycles.  A paused tick runs no cycle and keeps what is there for
instructions, and the time it read of the clock is over for good. -/
structure Orderly (entry : Entry) : Prop where
  order : ∃ cycles, .timers ∉ cycles ∧
    entry.tally.beats = List.replicate entry.ticks .timers ++ cycles
  paused : entry.tally.paused = true →
    entry.cycles = 0 ∧ entry.after.instructionBudget = entry.before.instructionBudget
  time : ∀ now, entry.tally.time? = some now → entry.after.lastTime = now

namespace AsPlanned

variable {entry : Entry}

theorem ticks (planned : entry.AsPlanned) : entry.ticks = entry.plan.ticks := by
  obtain ⟨cycles, are, beats⟩ := planned.beats
  have none := List.count_eq_zero.mpr are.timers_notMem
  rw [Entry.ticks, beats, List.count_append, none, List.count_replicate_self, Nat.add_zero]

theorem exists_cycles (planned : entry.AsPlanned) :
    ∃ cycles, Beat.AreCycles entry.plan.cycles cycles ∧ entry.cycles = cycles.length ∧
      entry.tally.beats = List.replicate entry.ticks .timers ++ cycles := by
  obtain ⟨cycles, are, beats⟩ := planned.beats
  have all : cycles.countP (· ≠ .timers) = cycles.length := by
    rw [List.countP_eq_length]
    intro beat played
    exact decide_eq_true fun same => are.timers_notMem (same ▸ played)
  refine ⟨cycles, are, ?_, planned.ticks ▸ beats⟩
  rw [Entry.cycles, beats, List.countP_append, all]
  simp

theorem orderly (planned : entry.AsPlanned) : entry.Orderly := by
  obtain ⟨cycles, are, length, beats⟩ := planned.exists_cycles
  refine ⟨⟨cycles, are.timers_notMem, beats⟩, ?_, ?_⟩
  · intro paused
    obtain ⟨none, kept⟩ := entry.before.plan_paused entry.tally.time?
    rw [← paused] at none kept
    rw [planned.pace, length]
    exact ⟨Nat.eq_zero_of_le_zero (none ▸ are.length_le), kept⟩
  · intro now read
    rw [planned.pace, plan, read]
    exact entry.before.lastTime_plan now entry.tally.paused

theorem cycles (planned : entry.AsPlanned) (fine : ¬ entry.Faults) :
    entry.cycles = entry.plan.cycles := by
  obtain ⟨cycles, are, length, beats⟩ := planned.exists_cycles
  rw [length]
  refine are.length_eq fun failed => fine ?_
  rw [Faults, beats]
  exact List.mem_append_right _ failed

end AsPlanned

end Entry

namespace Runner

variable {δ ε κ : Type} [Frontend δ] [Frontend ε]

def journal (runner : Runner δ) : List (Round δ) → List Entry
  | [] => []
  | round :: rest =>
    let after := (runner.ticked round).2
    { before := runner.pace, tally := (runner.tallied round).tally, after := after.pace } ::
      after.journal rest

theorem asPlanned_ticked (runner : Runner δ) (round : Round δ) :
    Entry.AsPlanned
      { before := runner.pace
        tally := (runner.tallied round).tally
        after := (runner.ticked round).2.pace } := by
  rw [← untallied_tallied]
  exact asPlanned_tick round.others round.clock (runner.prepare round)

theorem asPlanned_journal (runner : Runner δ) (rounds : List (Round δ)) :
    ∀ entry ∈ runner.journal rounds, entry.AsPlanned := by
  induction rounds generalizing runner with
  | nil => simp [journal]
  | cons round rest ih =>
      rintro entry (_ | ⟨_, later⟩)
      · exact runner.asPlanned_ticked round
      · exact ih _ entry later

/-- Runs whose paces are the same in some way, and stay so as long as what is read is the same,
agree tick by tick. -/
theorem forall₂_journal {same : Pace → Pace → Prop} {agree : Entry → Entry → Prop}
    {reading : Entry → κ}
    (step : ∀ {entry entry' : Entry}, entry.AsPlanned → entry'.AsPlanned →
      reading entry = reading entry' → same entry.before entry'.before →
        agree entry entry' ∧ same entry.after entry'.after)
    {first : Runner δ} {second : Runner ε} (start : same first.pace second.pace)
    {rounds : List (Round δ)} {rounds' : List (Round ε)}
    (read : (first.journal rounds).map reading = (second.journal rounds').map reading) :
    List.Forall₂ agree (first.journal rounds) (second.journal rounds') := by
  induction rounds generalizing first second rounds' with
  | nil =>
      cases rounds' with
      | nil => exact .nil
      | cons round' rest' => cases read
  | cons round rest ih =>
      cases rounds' with
      | nil => cases read
      | cons round' rest' =>
          obtain ⟨now, later⟩ := List.cons.inj read
          obtain ⟨agrees, after⟩ := step (first.asPlanned_ticked round)
            (second.asPlanned_ticked round') now start
          exact .cons agrees (ih after later)

/-- The runner has done nothing yet by its rates, and its clock read `start`. -/
def SetsOut (runner : Runner δ) (speed rate : Int) (start : Float) : Prop :=
  ∃ pace, Pace.ofRates speed rate = .ok pace ∧ runner.pace = { pace with lastTime := start }

/-- Two runs that read the same clock, at rates of their own. -/
structure PacedAlike (speed speed' rate rate' : Int) (first : Runner δ) (second : Runner ε)
    (rounds : List (Round δ)) (rounds' : List (Round ε)) : Prop where
  timers : rate = rate' →
    List.Forall₂ (fun entry entry' => entry.ticks = entry'.ticks)
      (first.journal rounds) (second.journal rounds')
  cycles : speed = speed' →
    (first.journal rounds).map (fun entry => entry.tally.paused) =
      (second.journal rounds').map (fun entry => entry.tally.paused) →
    List.Forall₂ (fun entry entry' =>
      ¬ entry.Faults → ¬ entry'.Faults → entry.cycles = entry'.cycles)
      (first.journal rounds) (second.journal rounds')
  orderly : ∀ entry ∈ first.journal rounds ++ second.journal rounds', entry.Orderly
  /-- Without the tally these are the plain ticks of the first run, -/
  plain : ∀ (runner : Runner δ) (round : Round δ),
    (runner.tallied round).untallied = (runner.ticked round).2
  /-- and those of the second one. -/
  plain' : ∀ (runner : Runner ε) (round : Round ε),
    (runner.tallied round).untallied = (runner.ticked round).2

variable {first : Runner δ} {second : Runner ε} {speed speed' rate rate' : Int} {start : Float}

omit [Frontend δ] [Frontend ε] in
theorem SetsOut.sameTimers (sets : first.SetsOut speed rate start)
    (sets' : second.SetsOut speed' rate start) : first.pace.SameTimers second.pace := by
  obtain ⟨pace, rates, same⟩ := sets
  obtain ⟨pace', rates', same'⟩ := sets'
  obtain ⟨number, period, rfl⟩ := Pace.eq_of_ofRates rates
  obtain ⟨number', period', rfl⟩ := Pace.eq_of_ofRates rates'
  cases period.symm.trans period'
  rw [same, same']
  exact ⟨rfl, rfl, rfl⟩

omit [Frontend δ] [Frontend ε] in
theorem SetsOut.sameSpeed (sets : first.SetsOut speed rate start)
    (sets' : second.SetsOut speed rate' start) : first.pace.SameSpeed second.pace := by
  obtain ⟨pace, rates, same⟩ := sets
  obtain ⟨pace', rates', same'⟩ := sets'
  obtain ⟨number, _, rfl⟩ := Pace.eq_of_ofRates rates
  obtain ⟨number', _, rfl⟩ := Pace.eq_of_ofRates rates'
  rw [same, same']
  exact ⟨rfl, rfl, rfl⟩

theorem pacedAlike_of_setsOut (sets : first.SetsOut speed rate start)
    (sets' : second.SetsOut speed' rate' start)
    (rounds : List (Round δ)) (rounds' : List (Round ε))
    (times : (first.journal rounds).map (fun entry => entry.tally.time?) =
      (second.journal rounds').map (fun entry => entry.tally.time?)) :
    PacedAlike speed speed' rate rate' first second rounds rounds' where
  timers := by
    rintro rfl
    refine forall₂_journal ?_ (sets.sameTimers sets') times
    intro entry entry' planned planned' read same
    rw [planned.ticks, planned'.ticks, planned.pace, planned'.pace, Entry.plan, Entry.plan, ← read]
    exact same.plan entry.tally.time? entry.tally.paused entry'.tally.paused
  cycles := by
    rintro rfl pauses
    have read : (first.journal rounds).map (fun entry => (entry.tally.time?, entry.tally.paused)) =
        (second.journal rounds').map (fun entry => (entry.tally.time?, entry.tally.paused)) := by
      rw [← List.zip_map', ← List.zip_map', times, pauses]
    refine forall₂_journal ?_ (sets.sameSpeed sets') read
    intro entry entry' planned planned' read same
    obtain ⟨time, pause⟩ := Prod.mk.inj read
    have plan := same.plan entry.tally.time? entry.tally.paused
    rw [planned.pace, planned'.pace, Entry.plan, Entry.plan, ← time, ← pause]
    refine ⟨fun fine fine' => ?_, plan.2⟩
    rw [planned.cycles fine, planned'.cycles fine', Entry.plan, Entry.plan, ← time, ← pause]
    exact plan.1
  orderly := by
    intro entry played
    rcases List.mem_append.mp played with played | played
    · exact (first.asPlanned_journal rounds entry played).orderly
    · exact (second.asPlanned_journal rounds' entry played).orderly
  plain := untallied_tallied
  plain' := untallied_tallied

theorem pacedAlike_of_pausing :
    let _ : Frontend Bool :=
      { start := pure ()
        poll := pure true
        draw := fun _ => pure ()
        stop := pure ()
        reportSpeed := fun _ => pure ()
        paused := id }
    let machine (program : List Byte) : Machine :=
      { memory := Memory.withFont.writeBlock Memory.programStart program, programSize := 2 }
    let pace (speed : Int) : Pace :=
      { speed, timerPeriod := 1.0 / (Binary64.ofInt? 60).getD 1.0 }
    let first : Runner Bool :=
      { machine := machine [0x12, 0x00], host := { device := false }, pace := pace 700 }
    let second : Runner Bool :=
      { machine := machine [0x00, 0xE0], host := { device := true }, pace := pace 1400 }
    let rounds : List (Round Bool) := [{ clock := pure 0.1 }, { clock := pure 0.3 }]
    first.SetsOut 700 60 0 ∧ second.SetsOut 1400 60 0 ∧
      (first.journal rounds).map (fun entry => entry.tally.time?) =
        (second.journal rounds).map (fun entry => entry.tally.time?) ∧
      PacedAlike 700 1400 60 60 first second rounds rounds := by
  intro _ machine pace first second rounds
  have sets : first.SetsOut 700 60 0 := ⟨_, rfl, rfl⟩
  have sets' : second.SetsOut 1400 60 0 := ⟨_, rfl, rfl⟩
  have time (runner : Runner Bool) (now : Float) :
      (runner.tallied { clock := pure now }).tally.time? = some now := (planned_tick rfl rfl).2
  have read (runner : Runner Bool) :
      (runner.journal rounds).map (fun entry => entry.tally.time?) = [some 0.1, some 0.3] := by
    simp only [rounds, journal, List.map_cons, List.map_nil, time]
  have times := (read first).trans (read second).symm
  exact ⟨sets, sets', times, pacedAlike_of_setsOut sets sets' rounds rounds times⟩

end Runner

end Chip8
