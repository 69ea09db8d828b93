import Chip8.Host.Recorder
import Chip8.Proofs.Machine.Fault
import Chip8.Proofs.Run.Picture

/-!
# How runs end

Nothing that a cycle does to a machine can fail but the instruction that it executes, whatever input
sources do to the keypad meanwhile.  So the machine ends a run only by a fault of its program.
-/

namespace Chip8

open Chip8.Action (Keeps Outer Safe)

namespace Machine

theorem Sound.accepts {machine : Machine} {register : Int} (sound : machine.Sound)
    (awaits : machine.runState = .awaitingKey register) (key : Fin 16) :
    ∃ after, machine.deliverKey key.val = (.ok (), after) := by
  rw [(sound.waiting register awaits).register] at awaits
  exact ⟨_, deliverKey_of_key awaits (by omega)⟩

theorem Sound.fault_of_step {machine : Machine} {error : MachineError} (sound : machine.Sound)
    (raised : machine.step.1 = .error error) :
    ∃ cause ∈ [Fault.Cause.invalidOpcode, .stackOverflow, .stackUnderflow],
      error = .fault ⟨cause, machine.step.2.lastOpcode.toNat, machine.step.2.lastAddress⟩ := by
  obtain ⟨running, cause, stuck, same⟩ := stuck_of_step sound raised
  have record := (step_recorded running).1
  refine ⟨cause, mem_of_stuck stuck, ?_⟩
  rw [same, record.lastOpcode, record.lastAddress, nextWord, toNat_readWord]
  rfl

end Machine

theorem Console.run_of_sound {console : Console} (sound : console.machine.Sound)
    (others : Interference) :
    let cycle := Cycle.run console others
    (∃ machine, console.stepped others = some machine ∧ machine.Sound ∧
      cycle.outcome = machine.step.1 ∧ cycle.console.machine = machine.step.2) ∨
    (console.stepped others = none ∧ cycle.outcome = .ok .awaiting ∧
      cycle.console.machine.Sound) := by
  intro cycle
  have shownSound : ((console.disturb others.beforeCapture).showKeys.disturb
    others.beforeTake).machine.Sound := sound.setKeypad _
  simp only [cycle, Console.stepped, Cycle.run]
  generalize (console.disturb others.beforeCapture).showKeys.disturb others.beforeTake = shown at *
  cases state : shown.machine.runState with
  | running =>
      obtain ⟨outcome, machine⟩ := @finish_eq shown others none
      exact Or.inl ⟨shown.machine, rfl, shownSound, outcome, machine⟩
  | awaitingKey register =>
      simp only [takePress, Keypad.take]
      cases shown.keypad.pressed with
      | none => exact Or.inr ⟨rfl, rfl, shownSound⟩
      | some key =>
          obtain ⟨after, taken⟩ := shownSound.accepts state key
          have answered := shownSound.deliverKey key.val
          rw [taken] at answered
          simp only [Option.bind_some, deliver, Machine.answered?, taken]
          exact Or.inl ⟨after, rfl, answered, finish_eq _⟩

structure Frontend.IsOuter (δ : Type) [Frontend δ] : Prop where
  start : Outer (Frontend.start : Action (Host δ) Unit)
  poll : Outer (Frontend.poll : Action (Host δ) Bool)
  draw : ∀ display, Outer (Frontend.draw display : Action (Host δ) Unit)
  stop : Outer (Frontend.stop : Action (Host δ) Unit)
  reportSpeed : ∀ rate, Outer (Frontend.reportSpeed rate : Action (Host δ) Unit)

namespace Recorder

theorem outer_failIfTold (part : Part) : Outer (failIfTold part) := by
  refine .get fun host => ?_
  split
  · rintro _ _ reason ⟨⟩
  · exact .pure ()

theorem outer_record (part : Part) (call : Call) : Outer (record part call) :=
  Safe.bind (fun _ _ => trivial) fun _ => outer_failIfTold part

theorem outer_happen (event : Event) : Outer (happen event) := by
  cases event <;> exact fun _ _ => trivial

theorem outer_happenAll (events : List Event) : Outer (events.forM happen) := by
  induction events with
  | nil => exact .pure ()
  | cons event rest ih => exact (outer_happen event).bind fun _ => ih

theorem outer_playNext : Outer playNext := by
  refine .get fun host => ?_
  split
  · exact .pure false
  · exact Safe.bind (fun _ _ => trivial) fun _ => (outer_happenAll _).bind fun _ => .pure true

theorem isOuter : Frontend.IsOuter Recorder where
  start := outer_record _ _
  poll := (outer_failIfTold .poll).bind fun _ => outer_playNext
  draw _ := outer_record _ _
  stop := outer_record _ _
  reportSpeed _ := outer_record _ _

end Recorder

inductive Runner.Turn where
  | cycle (others : Interference)
  | timers
  | event (event : Keypad.Event)

namespace Runner

variable {δ α : Type}

def turn (runner : Runner δ) : Turn → Runner δ
  | .cycle others => ((runCycle others).run.run runner).2
  | .timers => { runner with machine := runner.machine.decrementTimers }
  | .event event =>
    { runner with host := { runner.host with keypad := runner.host.keypad.happen event } }

def playAll (runner : Runner δ) (turns : List Turn) : Runner δ := turns.foldl turn runner

def Has (holds : Machine → Prop) (runner : Runner δ) : Prop := holds runner.machine

/-- The machine is to blame for this error at most by a fault of the word that it fetched last. -/
def Blames (error : HostError) (machine : Machine) : Prop :=
  ∀ reason, error = .machine reason →
    ∃ cause ∈ [Fault.Cause.invalidOpcode, .stackOverflow, .stackUnderflow],
      reason = .fault ⟨cause, machine.lastOpcode.toNat, machine.lastAddress⟩

/-- The action keeps this of the machine, and fails with no error of a machine but a fault. -/
def Sparing (holds : Machine → Prop) (action : Action (Runner δ) α) : Prop :=
  Safe (Has holds) (fun error => Has fun machine => holds machine ∧ Blames error machine) action

theorem Sparing.kept {holds : Machine → Prop} {action : Action (Runner δ) α} {runner : Runner δ}
    (sparing : Sparing holds action) (start : holds runner.machine) :
    holds (action.run.run runner).2.machine := by
  have ended := sparing runner start
  cases ran : action.run.run runner with
  | mk outcome after =>
      rw [ran] at ended
      cases outcome with
      | error error => exact ended.1
      | ok value => exact ended

theorem Sparing.blames {holds : Machine → Prop} {action : Action (Runner δ) α} {runner : Runner δ}
    {error : HostError} (sparing : Sparing holds action) (start : holds runner.machine)
    (raised : (action.run.run runner).1 = .error error) :
    Blames error (action.run.run runner).2.machine := by
  have ended := sparing runner start
  cases ran : action.run.run runner with
  | mk outcome after =>
      rw [ran] at ended raised
      cases raised
      exact ended.2

theorem safe_runCycle (others : Interference) :
    Sparing Machine.Sound (runCycle (δ := δ) others) := by
  intro runner sound
  rw [run_runCycle]
  rcases runner.console.run_of_sound sound others with
    ⟨machine, _, stepped, outcome, ended⟩ | ⟨_, outcome, after⟩
  · cases answer : machine.step.1 with
    | ok result =>
        rw [outcome, answer]
        have kept : machine.step.2.Sound := stepped.serve .step
        rw [← ended] at kept
        exact kept
    | error error =>
        have kept : machine.step.2.Sound := stepped.serve .step
        have fault := stepped.fault_of_step answer
        rw [← ended] at kept fault
        rw [outcome, answer]
        refine ⟨kept, ?_⟩
        rintro reason ⟨⟩
        exact fault
  · rw [outcome]
    exact after

theorem safe_runCycles (others : Nat → Interference) (count : Nat) :
    Sparing Machine.Sound (runCycles (δ := δ) others count) := by
  induction count with
  | zero => exact .pure ()
  | succ count ih => exact (safe_runCycle (others count)).bind fun _ => ih

theorem sound_playAll {runner : Runner δ} (sound : runner.machine.Sound) (turns : List Turn) :
    (runner.playAll turns).machine.Sound := by
  induction turns generalizing runner with
  | nil => exact sound
  | cons turn rest ih =>
      refine ih (?_ : (runner.turn turn).machine.Sound)
      cases turn with
      | cycle others => exact (safe_runCycle others).kept sound
      | timers => exact sound.decrementTimers
      | event event => exact sound

theorem stuck_of_runCycle {runner : Runner δ} {others : Interference} {error : HostError}
    (sound : runner.machine.Sound) (raised : ((runCycle others).run.run runner).1 = .error error) :
    ∃ machine cause, runner.console.stepped others = some machine ∧ machine.Stuck cause ∧
      error = .machine (machine.faultHere cause) := by
  rw [run_runCycle] at raised
  rcases runner.console.run_of_sound sound others with
    ⟨machine, stepped, reached, outcome, _⟩ | ⟨_, outcome, _⟩
  · rw [outcome] at raised
    cases answer : machine.step.1 with
    | ok result =>
        rw [answer] at raised
        cases raised
    | error reason =>
        rw [answer] at raised
        cases raised
        obtain ⟨_, cause, stuck, rfl⟩ := Machine.stuck_of_step reached answer
        exact ⟨machine, cause, stepped, stuck, rfl⟩
  · rw [outcome] at raised
    cases raised

theorem safe_onHost {holds : Machine → Prop} {action : Action (Host δ) α} (outer : Outer action) :
    Sparing holds (onHost action) := by
  intro runner kept
  rw [run_onHost]
  have first := outer runner.host trivial
  cases ran : action.run.run runner.host with
  | mk outcome host =>
      rw [ran] at first
      cases outcome with
      | ok value => exact kept
      | error error => exact ⟨kept, fun reason same => absurd same (first reason)⟩

theorem outer_now : Outer (Host.now (δ := δ)) := by
  refine Safe.bind (fun _ _ => trivial) fun _ => .get fun host => ?_
  cases Clock.seconds? host.clock.micros with
  | none => rintro _ _ reason ⟨⟩
  | some seconds => exact .pure seconds

theorem outer_note (record : LogRecord) : Outer (Host.note (δ := δ) record) := fun _ _ => trivial

theorem safe_passTime (now : Float) : Sparing Machine.Sound (passTime (δ := δ) now) := by
  have caughtUp (period budget : Float) :
      Sparing Machine.Sound (catchUp (δ := δ) .blind period budget) := by
    induction budget using catchUp.induct period with
    | case1 budget rest enough ih =>
        rw [catchUp_of_enough .blind enough]
        exact Safe.bind (fun _ sound => Machine.Sound.decrementTimers sound) fun _ => ih
    | case2 budget rest short =>
        rw [catchUp_of_short .blind short]
        exact .pure budget
  exact .get fun _ => (caughtUp _ _).bind fun _ _ sound => sound

theorem safe_dueCycles (elapsed : Float) : Sparing Machine.Sound (dueCycles (δ := δ) elapsed) := by
  intro runner sound
  rw [dueCycles, Action.run_get]
  cases runner.pace.dueInstructions elapsed with
  | mk due pace =>
      cases due with
      | ok count => exact sound
      | error error => cases error <;> exact ⟨sound, by rintro reason ⟨⟩⟩

theorem safe_runCounted (others : Nat → Interference) (count : Nat) :
    Sparing Machine.Sound (runCounted (δ := δ) others count) :=
  .get fun _ => (safe_runCycles others count).bind fun _ _ sound => sound

def Steady (before after : Runner δ) : Prop := after.running = before.running

theorem Steady.trans {first second third : Runner δ} (early : Steady first second)
    (late : Steady second third) : Steady first third := Eq.trans late early

theorem steady_onHost (action : Action (Host δ) α) : Keeps Steady (onHost action) := by
  intro runner
  rw [run_onHost]
  rfl

theorem steady_runCycles (others : Nat → Interference) (count : Nat) :
    Keeps Steady (runCycles (δ := δ) others count) := by
  induction count with
  | zero => exact fun _ => rfl
  | succ count ih => exact Keeps.bind .trans (fun _ => rfl) fun _ => ih

variable [Frontend δ]

theorem safe_paint (outer : Frontend.IsOuter δ) : Sparing Machine.Sound (paint (δ := δ)) := by
  refine .get fun runner => ?_
  cases runner.pending with
  | none => exact .pure ()
  | some display => exact (safe_onHost (outer.draw display)).bind fun _ _ sound => sound

theorem safe_measure (outer : Frontend.IsOuter δ) (now : Float) :
    Sparing Machine.Sound (measure (δ := δ) now) := by
  refine .get fun runner => ?_
  cases runner.meter.close? now with
  | none => exact .pure ()
  | some meter =>
      exact Safe.bind (fun _ sound => sound) fun _ => safe_onHost (outer.reportSpeed meter.rate)

theorem safe_outset (outer : Frontend.IsOuter δ) {clock : Action (Host δ) Float}
    (outerClock : Outer clock) : Sparing Machine.Sound (outset clock) := by
  refine (safe_onHost outer.poll).bind fun goesOn => ?_
  cases goesOn with
  | false => exact .pure none
  | true =>
      refine Safe.bind ((safe_onHost outerClock).bind fun now => .pure now) fun now => ?_
      refine Safe.bind ?_ fun count => .pure (some (count, now))
      refine (safe_passTime now).bind fun elapsed => ?_
      refine Safe.bind (fun _ sound => sound) fun paused => ?_
      cases paused with
      | true => exact .pure 0
      | false => exact safe_dueCycles elapsed

theorem safe_tick (outer : Frontend.IsOuter δ) (others : Nat → Interference)
    {clock : Action (Host δ) Float} (outerClock : Outer clock) :
    Sparing Machine.Sound (tick others clock) := by
  rw [tick_eq]
  refine (safe_outset outer outerClock).bind fun due => ?_
  cases due with
  | none => exact fun _ sound => sound
  | some due =>
      obtain ⟨count, now⟩ := due
      exact (safe_runCounted others count).bind fun _ =>
        (safe_paint outer).bind fun _ => safe_measure outer now

theorem sound_after (outer : Frontend.IsOuter δ) {runner : Runner δ} (sound : runner.machine.Sound)
    {rounds : List (Round δ)} (outerClocks : ∀ round ∈ rounds, Outer round.clock) :
    (runner.after rounds).machine.Sound := by
  induction rounds generalizing runner with
  | nil => exact sound
  | cons round rest ih =>
      have sparing := safe_tick outer round.others (outerClocks round (List.mem_cons_self ..))
      have first : (runner.ticked round).2.machine.Sound := sparing.kept sound
      exact ih first fun other member => outerClocks other (List.mem_cons_of_mem _ member)

theorem safe_enter (outer : Frontend.IsOuter δ) {clock : Action (Host δ) Float}
    (outerClock : Outer clock) : Sparing Machine.Sound (enter clock) := by
  refine (safe_onHost outer.start).bind fun _ => .get fun runner => ?_
  refine (safe_onHost (outer.draw runner.machine.display)).bind fun _ => ?_
  refine Safe.bind (fun _ sound => sound) fun _ => ?_
  refine (safe_onHost outerClock).bind fun now => ?_
  refine Safe.bind (fun _ sound => sound) fun _ => .get fun runner => ?_
  exact safe_onHost (outer_note _)

theorem safe_leave (outer : Frontend.IsOuter δ) {holds : Machine → Prop} :
    Sparing (δ := δ) holds leave := by
  refine Safe.bind (fun _ kept => kept) fun _ => ?_
  refine (safe_onHost outer.stop).bind fun _ => .get fun runner => ?_
  exact safe_onHost (outer_note _)

theorem safe_loop (outer : Frontend.IsOuter δ) {sleeps : List (Action (Host δ) Unit)}
    (outerSleeps : ∀ sleep ∈ sleeps, Outer sleep) : Sparing Machine.Sound (loop sleeps) := by
  induction sleeps with
  | nil => exact fun _ sound => ⟨sound, by rintro reason ⟨⟩⟩
  | cons sleep rest ih =>
      have later := ih fun sleep member => outerSleeps sleep (List.mem_cons_of_mem _ member)
      refine (safe_tick outer _ outer_now).bind fun _ => ?_
      refine (safe_onHost (outerSleeps sleep (List.mem_cons_self ..))).bind fun _ => ?_
      refine .get fun runner => ?_
      cases runner.running with
      | false => exact .pure ()
      | true => exact later

theorem safe_run (outer : Frontend.IsOuter δ) {sleeps : List (Action (Host δ) Unit)}
    (outerSleeps : ∀ sleep ∈ sleeps, Outer sleep) : Sparing Machine.Sound (run sleeps) := by
  refine .thenAlways ?_ (safe_leave outer) fun error =>
    Safe.imp (safe_leave outer) fun _ _ failed => ⟨failed.1.1, failed.2⟩
  exact (safe_enter outer outer_now).bind fun _ => safe_loop outer outerSleeps

theorem steady_outset (clock : Action (Host δ) Float) : Keeps Steady (outset clock) :=
  keeps_outset Steady .trans (fun _ => rfl) (steady_onHost _) (steady_onHost clock) (fun _ => rfl)
    fun _ _ => rfl

theorem steady_paint : Keeps Steady (paint (δ := δ)) :=
  keeps_paint Steady .trans (fun _ => rfl) (fun _ => steady_onHost _) fun _ => rfl

theorem steady_measure (now : Float) : Keeps Steady (measure (δ := δ) now) :=
  keeps_measure Steady .trans (fun _ => rfl) (fun _ _ => rfl) (fun _ => steady_onHost _) now

theorem steady_work (others : Nat → Interference) (due : Nat × Float) :
    Keeps (Steady (δ := δ)) (proceed others (some due)) := by
  refine Keeps.bind .trans ?_ fun _ => Keeps.bind .trans steady_paint fun _ => steady_measure due.2
  exact Keeps.get fun _ => Keeps.bind .trans (steady_runCycles others due.1) fun _ _ => rfl

/-- A tick that goes through ends the run only if the user quits. -/
theorem polled_of_tick {others : Nat → Interference} {clock : Action (Host δ) Float}
    {runner : Runner δ} (running : runner.running = true)
    (went : ((tick others clock).run.run runner).1 = .ok ())
    (stopped : ((tick others clock).run.run runner).2.running = false) :
    (Frontend.poll.run.run runner.host).1 = .ok false := by
  rw [tick_eq] at went stopped
  obtain ⟨due, first, _, whole⟩ := Action.ok_of_bind went
  cases due with
  | none => exact polled_of_outset first
  | some due =>
      have early := steady_outset clock runner
      have late := steady_work others due ((outset clock).run.run runner).2
      rw [whole, Steady.trans early late, running] at stopped
      cases stopped

def looped (runner : Runner δ) (sleeps : List (Action (Host δ) Unit)) : Runner δ :=
  sleeps.foldl (fun runner sleep => ((tick >>= fun _ => onHost sleep).run.run runner).2) runner

theorem polled_of_loop {sleeps : List (Action (Host δ) Unit)} {runner : Runner δ}
    (running : runner.running = true) (ended : ((loop sleeps).run.run runner).1 = .ok ()) :
    ∃ earlier sleep rest, sleeps = earlier ++ sleep :: rest ∧
      (Frontend.poll.run.run (runner.looped earlier).host).1 = .ok false := by
  induction sleeps generalizing runner with
  | nil => cases ended
  | cons sleep rest ih =>
      obtain ⟨_, ticked, ended, _⟩ := Action.ok_of_bind ended
      obtain ⟨_, _, ended, _⟩ := Action.ok_of_bind ended
      have lap : ((tick >>= fun _ => onHost sleep).run.run runner).2 =
          ((onHost sleep).run.run (tick.run.run runner).2).2 := by
        rw [Action.run_bind]
        cases ran : tick.run.run runner with
        | mk outcome after =>
            rw [ran] at ticked
            cases ticked
            rfl
      cases goesOn : (tick.run.run runner).2.running with
      | false => exact ⟨[], sleep, rest, rfl, polled_of_tick running ticked goesOn⟩
      | true =>
          rw [Action.run_get] at ended
          have again := Eq.trans (steady_onHost sleep (tick.run.run runner).2) goesOn
          rw [if_pos again] at ended
          obtain ⟨earlier, last, later, rfl, polled⟩ := ih again ended
          refine ⟨sleep :: earlier, last, later, rfl, ?_⟩
          rw [looped, List.foldl_cons, lap]
          exact polled

theorem running_entered {runner : Runner δ} {clock : Action (Host δ) Float}
    (entered : ((enter clock).run.run runner).1 = .ok ()) :
    (runner.entered clock).running = true := by
  obtain ⟨_, _, ended, whole⟩ := Action.ok_of_bind entered
  rw [Action.run_get] at ended whole
  obtain ⟨_, _, ended, drawn⟩ := Action.ok_of_bind ended
  obtain ⟨_, _, ended, switched⟩ := Action.ok_of_bind ended
  rw [Runner.entered, enter, whole, drawn, switched]
  refine Eq.trans (Keeps.bind .trans (steady_onHost clock) (fun _ => ?_) _) rfl
  exact Keeps.bind .trans (fun _ => rfl) fun _ => Keeps.get fun _ => steady_onHost _

theorem polled_of_run {sleeps : List (Action (Host δ) Unit)} {runner : Runner δ}
    (ended : ((run sleeps).run.run runner).1 = .ok ()) :
    ∃ earlier sleep rest, sleeps = earlier ++ sleep :: rest ∧
      (Frontend.poll.run.run ((runner.entered Host.now).looped earlier).host).1 = .ok false := by
  obtain ⟨_, entered, looped, _⟩ := Action.ok_of_bind (Action.ok_of_thenAlways ended)
  exact polled_of_loop (running_entered entered) looped

/-- What may end a run of a machine, on whatever host. -/
structure EndsByFault (start : Machine) : Prop where
  /-- A cycle fails only by the instruction that it executes; whatever came before, and whatever
  input sources do meanwhile, the keys that it hands over are taken. -/
  cycle : ∀ {δ : Type} (runner : Runner δ) (turns : List Turn) (others : Interference)
    (error : HostError), runner.machine = start →
      ((runCycle others).run.run (runner.playAll turns)).1 = .error error →
        ∃ machine cause, (runner.playAll turns).console.stepped others = some machine ∧
          machine.Stuck cause ∧ error = .machine (machine.faultHere cause)
  /-- A tick ends the loop on the machine's account only by a fault, and otherwise if the user
  quits. -/
  tick : ∀ {δ : Type} [Frontend δ], Frontend.IsOuter δ →
    ∀ (runner : Runner δ) (rounds : List (Round δ)) (round : Round δ), runner.machine = start →
      (∀ other ∈ rounds ++ [round], Outer other.clock) →
        let before := runner.after rounds
        let ended := before.ticked round
        (∀ error, ended.1 = .error error → Blames error ended.2.machine) ∧
          (before.running = true → ended.1 = .ok () → ended.2.running = false →
            (Frontend.poll.run.run (before.prepare round).host).1 = .ok false)
  run : ∀ {δ : Type} [Frontend δ], Frontend.IsOuter δ →
    ∀ (runner : Runner δ) (sleeps : List (Action (Host δ) Unit)), runner.machine = start →
      (∀ sleep ∈ sleeps, Outer sleep) →
        let ended := (run sleeps).run.run runner
        (∀ error, ended.1 = .error error → Blames error ended.2.machine) ∧
          (ended.1 = .ok () → ∃ earlier sleep rest, sleeps = earlier ++ sleep :: rest ∧
            (Frontend.poll.run.run ((runner.entered Host.now).looped earlier).host).1 = .ok false)

theorem endsByFault_of_load {program : List Byte} {shift : ShiftDialect} {random : RandomSource}
    {trace : Trace} {start : Machine} (loaded : Machine.load program shift random trace = .ok start) :
    EndsByFault start := by
  have sound := Machine.Sound.load loaded
  refine ⟨?_, ?_, ?_⟩
  · intro δ runner turns others error fresh raised
    exact stuck_of_runCycle (sound_playAll (fresh ▸ sound) turns) raised
  · intro δ _ outer runner rounds round fresh outerClocks before ended
    have reached : before.machine.Sound := sound_after outer (fresh ▸ sound)
      fun other member => outerClocks other (List.mem_append_left _ member)
    have sparing := safe_tick outer round.others
      (outerClocks round (List.mem_append_right _ (List.mem_singleton_self round)))
    exact ⟨fun error => sparing.blames reached,
      @polled_of_tick δ _ round.others round.clock (before.prepare round)⟩
  · intro δ _ outer runner sleeps fresh outerSleeps ended
    have sparing := safe_run outer outerSleeps
    exact ⟨fun error => sparing.blames (fresh ▸ sound), polled_of_run⟩

theorem endsByFault_of_bareReturn :
    let start : Machine :=
      { memory := Memory.withFont.writeBlock Memory.programStart [0x00, 0xEE], programSize := 2 }
    let runner : Runner Recorder :=
      { machine := start
        host := { device := {} }
        pace := { speed := Pace.defaultSpeed, timerPeriod := 1.0 / 60.0 } }
    Machine.load [0x00, 0xEE] .vx .zeros .silent = .ok start ∧ EndsByFault start ∧
      ((runCycle {}).run.run (runner.playAll [.event (.raise 99 true), .timers])).1 =
        .error (.machine (start.faultHere .stackUnderflow)) ∧
      ∀ error, ((run []).run.run runner).1 = .error error →
        Blames error ((run []).run.run runner).2.machine := by
  intro start runner
  have loaded : Machine.load [0x00, 0xEE] .vx .zeros .silent = .ok start := rfl
  have ends : EndsByFault start := endsByFault_of_load loaded
  refine ⟨loaded, ends, ?_, ?_⟩
  · decide +kernel
  · exact (ends.run Recorder.isOuter runner [] rfl (by simp)).1

end Runner

end Chip8
