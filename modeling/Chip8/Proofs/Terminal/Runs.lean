import Chip8.Proofs.Keyboard.Codes
import Chip8.Proofs.Terminal.Closing
import Chip8.Proofs.Terminal.Forgiving
import Chip8.Run.Script

/-!
# Runs on a terminal

A run that has opened the screen closes it, however it ends, and one that has not leaves it alone.
Where texts cannot be written or the cursor not be set, the run goes on as if they could.
-/

namespace Chip8.Terminal

open Chip8.Action (Ends Keeps Parallel parallel_iff_ends run_bind)

variable {α β : Type} {host : Host Terminal} {earlier : List Call}

structure Beside (before after : Host Terminal) : Prop where
  isOpen : after.device.isOpen = before.device.isOpen
  calls : after.device.screen.calls = before.device.screen.calls
  threads : threadCalls after.device.poller = threadCalls before.device.poller

theorem Beside.trans {first second third : Host Terminal} (left : Beside first second)
    (right : Beside second third) : Beside first third where
  isOpen := right.isOpen.trans left.isOpen
  calls := right.calls.trans left.calls
  threads := right.threads.trans left.threads

theorem Session.beside {threads : List Call} {after : Host Terminal}
    (session : Session earlier threads host) (beside : Beside host after) :
    Session earlier threads after where
  isOpen := beside.isOpen.trans session.isOpen
  since := by
    rw [beside.calls]
    exact session.since
  poller := beside.threads.trans session.poller

/-- What goes on beside the calls: it makes none, and it does not look at the picture or the log. -/
structure Aside (action : Action (Host Terminal) α) : Prop where
  beside : Keeps Beside action
  alike : Parallel Alike action action

namespace Aside

variable {action : Action (Host Terminal) α}

theorem pure (value : α) : Aside (Pure.pure value) where
  beside _ := ⟨rfl, rfl, rfl⟩
  alike := .pure value

theorem throw (error : HostError) : Aside (throw error : Action (Host Terminal) α) where
  beside _ := ⟨rfl, rfl, rfl⟩
  alike := .throw error

theorem bind {next : α → Action (Host Terminal) β} (aside : Aside action)
    (asideNext : ∀ value, Aside (next value)) : Aside (action >>= next) where
  beside := by
    refine Keeps.bind ?_ aside.beside fun value => (asideNext value).beside
    exact Beside.trans
  alike := aside.alike.bind fun value => (asideNext value).alike

theorem forM {list : List β} {step : β → Action (Host Terminal) PUnit}
    (aside : ∀ value, Aside (step value)) : Aside (list.forM step) := by
  induction list with
  | nil => exact .pure _
  | cons first rest ih => exact (aside first).bind fun _ => ih

theorem sleep (micros : Int) : Aside (Host.sleep micros) where
  beside _ := ⟨rfl, rfl, rfl⟩
  alike _ _ alike := ⟨rfl, { alike with clock := congrArg (·.advance micros) alike.clock }⟩

theorem type (codes : List Int) : Aside (type codes) where
  beside _ := ⟨rfl, rfl, rfl⟩
  alike _ _ alike := ⟨rfl, { alike with pending := congrArg (· ++ codes) alike.pending }⟩

theorem now : Aside Host.now where
  beside host := by
    rw [Host.run_now]
    exact ⟨rfl, rfl, rfl⟩
  alike := parallel_now

end Aside

theorem threaded_onCode (now : Float) (state : Keyboard.Poller × Keypad) (code : Int) :
    (Keyboard.Poller.onCode now state code).1.threaded = state.1.threaded := by
  obtain ⟨_, _, read⟩ | ⟨_, read⟩ | ⟨_, _, read⟩ := Keyboard.onCode_cases now state code <;> rw [read]

theorem threaded_poll (poller : Keyboard.Poller) (keypad : Keypad) (now : Float) (codes : List Int) :
    (poller.poll keypad now codes).1.threaded = poller.threaded := by
  have read : ∀ state, (codes.foldl (Keyboard.Poller.onCode now) state).1.threaded =
      state.1.threaded := by
    induction codes with
    | nil => exact fun _ => rfl
    | cons code rest ih => exact fun state => (ih _).trans (threaded_onCode now state code)
  exact read (poller, keypad)

theorem aside_pollKeyboard : Aside pollKeyboard where
  beside host := by
    rw [pollKeyboard, Action.run_get]
    cases reads : host.device.poller with
    | none => exact ⟨rfl, rfl, rfl⟩
    | some poller =>
        dsimp only
        rw [run_bind, Host.run_now]
        cases Clock.seconds? host.clock.afterReading.micros with
        | none => exact ⟨rfl, rfl, rfl⟩
        | some now =>
            refine ⟨rfl, rfl, ?_⟩
            rw [reads]
            change (if (Keyboard.Poller.poll _ _ _ _).1.threaded = true then _ else _) = _
            rw [threaded_poll]
            rfl
  alike := by
    refine .get fun host twin alike => ?_
    rw [alike.poller]
    cases twin.device.poller with
    | none => exact .pure ()
    | some poller =>
        refine parallel_now.bind fun now => .get fun host twin alike => ?_
        rw [alike.pending, alike.keypad]
        refine .bind (fun _ _ alike => ⟨rfl, { alike with pending := rfl }⟩) fun _ => ?_
        refine .bind (fun _ _ alike => ⟨rfl, { alike with keypad := rfl }⟩) fun _ => ?_
        exact parallel_setPoller _

/-- Whatever a script lets happen during a sleep happens beside the calls. -/
theorem aside_of_mem_onTerminal {script : Script Int} :
    ∀ sleep ∈ script.onTerminal, Aside sleep := by
  intro sleep member
  obtain ⟨step, _, rfl⟩ := List.mem_map.mp member
  refine (Aside.sleep _).bind fun _ => .bind (.forM fun happening => ?_) fun _ => aside_pollKeyboard
  cases happening with
  | input code => exact .type [code]
  | pass micros => exact .sleep micros
  | interrupt => exact .throw _
  | failure text => exact .throw _

def failing (fails : List Call → Call → Bool) (runner : Runner Terminal) : Runner Terminal :=
  { runner with host := { runner.host with device := { runner.host.device with
      screen := { runner.host.device.screen with fails } } } }

structure GivesBack (runner : Runner Terminal) (sleeps : List (Action (Host Terminal) Unit)) :
    Prop where
  /-- Once the screen is open, the last call of the run closes it and no other call does.  If the
  thread that reads the keyboard was started, it has ended before. -/
  closed : runner.host.device.screen.fails runner.host.device.screen.calls .openScreen = false →
    ∃ calls, ((Runner.run sleeps).run.run runner).2.host.device.screen.calls =
        .closeScreen :: calls ++ .openScreen :: runner.host.device.screen.calls ∧
      .closeScreen ∉ calls ∧ calls.filter Call.isThread ∈ endings
  /-- A screen that cannot be opened is not closed, nor is anything else asked of it. -/
  refused : runner.host.device.screen.fails runner.host.device.screen.calls .openScreen = true →
    runner.host.device.isOpen = false →
    ((Runner.run sleeps).run.run runner).2.host.device.screen.calls =
      .openScreen :: runner.host.device.screen.calls
  rests : ((Runner.run sleeps).run.run runner).2.running = false
  idle : Idle ((Runner.run sleeps).run.run runner).2.host
  /-- Which texts cannot be written, and when the cursor cannot be set, makes no difference to the
  end of the run, nor to the calls that are made until then. -/
  forgives : ∀ fails : List Call → Call → Bool,
    (∀ earlier call, call.isMinor = false →
      fails earlier call = runner.host.device.screen.fails earlier call) →
    ((Runner.run sleeps).run.run (failing fails runner)).1 =
        ((Runner.run sleeps).run.run runner).1 ∧
      Runner.Twins Alike ((Runner.run sleeps).run.run (failing fails runner)).2
        ((Runner.run sleeps).run.run runner).2

variable {runner : Runner Terminal} {sleeps : List (Action (Host Terminal) Unit)}

theorem ends_session_loop {threads : List Call} (aside : ∀ sleep ∈ sleeps, Aside sleep) :
    Ends (fun runner : Runner Terminal => Session earlier threads runner.host)
      (fun runner => Session earlier threads runner.host)
      (Runner.present Host.now >>= fun _ => Runner.loop sleeps) := by
  have stays {γ : Type} {action : Action (Host Terminal) γ} (aside : Aside action) :
      Parallel (fun host twin => host = twin ∧ Session earlier threads host) action action :=
    parallel_iff_ends.mpr fun host session => session.beside (aside.beside host)
  refine Runner.ends_of_parallel ((Runner.parallel_present twins_session (stays .now)).bind fun _ => ?_)
  exact Runner.parallel_loop twins_session (stays .now)
    (List.forall₂_same.mpr fun sleep member => stays (aside sleep member))

theorem ends_run (aside : ∀ sleep ∈ sleeps, Aside sleep) :
    Ends (fun runner : Runner Terminal => Ready earlier runner.host)
      (fun runner => runner.running = false ∧ Closed earlier runner.host) (Runner.run sleeps) := by
  have noted (record : LogRecord) : Ends (Closed earlier) (Closed earlier) (Host.note record) :=
    fun _ closed => ⟨closed.poller, closed.calls⟩
  refine Ends.thenAlways ?_ (Runner.ends_leave ends_stop noted)
  have opens : Ends (fun runner : Runner Terminal => Ready earlier runner.host)
      (fun runner => ∃ threads, Session earlier threads runner.host)
      (Runner.onHost Frontend.start) := fun runner ready => ends_start runner.host ready
  rw [Runner.enter_eq, bind_assoc]
  refine opens.bind (fun _ => id) fun _ => ?_
  rintro opened ⟨threads, session⟩
  exact ⟨threads, ends_session_loop aside opened session⟩

def refused (runner : Runner Terminal) : Runner Terminal :=
  { runner with
    host := called runner.host .openScreen runner.host.device.screen.grid runner.host.log }

/-- A run whose screen does not open leaves at once. -/
theorem run_of_fails
    (fails : runner.host.device.screen.fails runner.host.device.screen.calls .openScreen = true) :
    ((Runner.run sleeps).run.run runner).2 = (Runner.leave.run.run (refused runner)).2 := by
  have started : (Frontend.start (δ := Terminal)).run.run runner.host = _ := run_start_of_fails fails
  have body : (Runner.enter >>= fun _ => Runner.loop sleeps).run.run runner =
      (.error (.screenCall Call.openScreen.name), refused runner) := by
    rw [Runner.enter_eq, bind_assoc, run_bind, Runner.run_onHost, started]
    rfl
  rw [Runner.run, Action.run_thenAlways, body]

theorem rests_run (idle : Idle runner.host) (aside : ∀ sleep ∈ sleeps, Aside sleep) :
    ((Runner.run sleeps).run.run runner).2.running = false ∧
      Idle ((Runner.run sleeps).run.run runner).2.host := by
  cases opens : runner.host.device.screen.fails runner.host.device.screen.calls .openScreen with
  | false =>
      obtain ⟨rested, closed⟩ := ends_run aside runner ⟨idle, rfl, opens⟩
      exact ⟨rested, closed.poller⟩
  | true =>
      rw [run_of_fails opens]
      exact Runner.ends_leave ends_stop_idle (fun _ _ idle => idle) (refused runner) idle

theorem alike_failing {fails : List Call → Call → Bool}
    (same : ∀ earlier call, call.isMinor = false →
      fails earlier call = runner.host.device.screen.fails earlier call) :
    Runner.Twins Alike (failing fails runner) runner :=
  ⟨rfl, rfl, rfl, rfl, rfl, ⟨rfl, rfl, rfl, rfl, rfl, rfl, rfl, rfl, same⟩⟩

/-- Whichever calls fail, and however the run ends, the terminal is given back.  It has to be idle
before, as a new terminal is and as every run leaves it. -/
theorem givesBack_of_idle (idle : Idle runner.host) (aside : ∀ sleep ∈ sleeps, Aside sleep) :
    GivesBack runner sleeps where
  closed opens := by
    obtain ⟨_, _, calls, threads, latest, ended, since⟩ :=
      ends_run aside runner ⟨idle, rfl, opens⟩
    obtain ⟨made, rfl, unclosed, rfl⟩ := since
    exact ⟨made, latest, unclosed, ended⟩
  refused fails unopened := by
    have shut : Shut (.openScreen :: runner.host.device.screen.calls) (refused runner).host :=
      ⟨unopened, idle, rfl⟩
    rw [run_of_fails fails]
    exact (Runner.ends_leave ends_stop_shut
      (fun _ _ shut => ⟨shut.isOpen, shut.poller, shut.calls⟩) (refused runner) shut).2.calls
  rests := (rests_run idle aside).1
  idle := (rests_run idle aside).2
  forgives fails same := parallel_run (fun sleep member => (aside sleep member).alike)
    (failing fails runner) runner (alike_failing same)

theorem givesBack_of_question :
    let fails (_ : List Call) (call : Call) : Bool := call.isMinor || call = .lineInput
    let runner : Runner Terminal :=
      { machine :=
          { memory := Memory.withFont.writeBlock Memory.programStart [0x12, 0x00], programSize := 2 }
        host := { device := { screen := Screen.blank 24 80 fails } }
        pace := { speed := 8, timerPeriod := 1.0 / 60.0 } }
    let sleeps := Script.onTerminal [[.pass 500000]]
    Idle runner.host ∧ (∀ sleep ∈ sleeps, Aside sleep) ∧ GivesBack runner sleeps ∧
      ((Runner.run sleeps).run.run runner).1 = .error (.screenCall "nocbreak") ∧
      ((Runner.run sleeps).run.run runner).2.machine.instructionCount = 2 ∧
      ((Runner.run sleeps).run.run runner).2.host.device.screen.calls.take 4 =
        [.closeScreen, .lineInput, .keypadMode false,
          .threadJoin Keyboard.Poller.joinTimeout true] := by
  intro fails runner sleeps
  refine ⟨rfl, aside_of_mem_onTerminal, givesBack_of_idle rfl aside_of_mem_onTerminal, ?_⟩
  decide +kernel

end Chip8.Terminal
