import Chip8.Proofs.Run.Twins
import Chip8.Proofs.Terminal.Calls

/-!
# Closing a terminal

A front end that has opened the screen gives it back, whatever fails on the way: it stops the thread
that reads the keyboard, restores the modes as far as it can and then closes the screen, once.
-/

namespace Chip8.Terminal

open Chip8.Action (Ends Keeps Leads Parallel parallel_iff_ends run_bind)

variable {host : Host Terminal} {earlier threads calls : List Call} {call : Call}

/-- The calls to the thread that have been made, the latest first, as its poller shows. -/
def threadCalls : Option Keyboard.Poller → List Call
  | none => []
  | some poller => if poller.threaded then [.threadStart Keyboard.Poller.threadName] else []

/-- The calls since the screen was opened do not close it, and these of them went to the thread. -/
def Since (earlier threads calls : List Call) : Prop :=
  ∃ since, calls = since ++ .openScreen :: earlier ∧ .closeScreen ∉ since ∧
    since.filter Call.isThread = threads

theorem Since.ordinary (since : Since earlier threads calls) (ordinary : call.isOrdinary = true) :
    Since earlier threads (call :: calls) := by
  obtain ⟨made, rfl, unclosed, threaded⟩ := since
  refine ⟨call :: made, rfl, ?_, ?_⟩
  · rw [List.mem_cons, not_or]
    refine ⟨?_, unclosed⟩
    rintro rfl
    cases ordinary
  · rw [List.filter_cons_of_neg, threaded]
    cases call <;> simp_all [Call.isOrdinary, Call.isThread]

theorem Since.thread (since : Since earlier threads calls) (thread : call.isThread = true) :
    Since earlier (call :: threads) (call :: calls) := by
  obtain ⟨made, rfl, unclosed, rfl⟩ := since
  refine ⟨call :: made, rfl, ?_, List.filter_cons_of_pos thread⟩
  rw [List.mem_cons, not_or]
  refine ⟨?_, unclosed⟩
  rintro rfl
  cases thread

structure Session (earlier threads : List Call) (host : Host Terminal) : Prop where
  isOpen : host.device.isOpen = true
  since : Since earlier threads host.device.screen.calls
  poller : threadCalls host.device.poller = threads

/-- What holds on through ordinary calls, and does not depend on the grid or on the log. -/
theorem follows_of_called {holds : Host Terminal → Prop}
    (stays : ∀ {host call} grid log, call.isOrdinary = true → holds host →
      holds (called host call grid log))
    (marked : ∀ {host} grid log, holds host → holds { host with
      device := { host.device with screen := { host.device.screen with grid := grid } }
      log := log }) :
    Follows fun host twin => host = twin ∧ holds host where
  require {call} ordinary _ := by
    refine parallel_iff_ends.mpr fun host held => ?_
    rw [(run_require_cases host call).2]
    exact stays _ _ ordinary held
  setCursor visibility := by
    refine parallel_iff_ends.mpr fun host held => ?_
    obtain ⟨log, ran⟩ := run_setCursor_cases host visibility
    rw [ran]
    exact stays _ _ rfl held
  write row column text := by
    refine parallel_iff_ends.mpr fun host held => ?_
    obtain ⟨grid, ran⟩ := run_write_cases host row column text
    rw [ran]
    exact stays _ _ rfl held
  cleared := parallel_iff_ends.mpr fun host held => marked _ host.log held
  note record := parallel_iff_ends.mpr fun host held => marked host.device.screen.grid _ held
  rows same := by rw [same.1]
  columns same := by rw [same.1]
  isOpen same := by rw [same.1]
  poller same := by rw [same.1]

theorem follows_session :
    Follows fun host twin => host = twin ∧ Session earlier threads host :=
  follows_of_called
    (fun _ _ ordinary session => ⟨session.isOpen, session.since.ordinary ordinary, session.poller⟩)
    fun _ _ session => ⟨session.isOpen, session.since, session.poller⟩

theorem twins_session :
    Host.Twins fun host twin => host = twin ∧ Session earlier threads host where
  sameKeypad same := by rw [same.1]
  keypad := by
    rintro host _ ⟨rfl, session⟩ keypad
    exact ⟨rfl, session.isOpen, session.since, session.poller⟩
  note := follows_session.note
  poll := parallel_poll follows_session
  draw display := parallel_drawBytes follows_session display.toBytes
  reportSpeed _ := .pure ()
  paused _ := rfl

theorem ends_startThread :
    Ends (Session earlier []) (fun host => ∃ threads, Session earlier threads host) startThread := by
  refine .get fun _ session => ?_
  rintro host rfl
  cases poller : host.device.poller with
  | none => exact ⟨[], session⟩
  | some poller => exact ⟨_, session.isOpen, session.since.thread rfl, rfl⟩

structure Ready (earlier : List Call) (host : Host Terminal) : Prop where
  poller : host.device.poller = none
  calls : host.device.screen.calls = earlier
  opens : host.device.screen.fails earlier .openScreen = false

/-- An opening that gets past its first call leaves the screen open, whatever it fails of later. -/
theorem ends_start :
    Ends (Ready earlier) (fun host => ∃ threads, Session earlier threads host) start := by
  intro host ready
  have opened : Ends (· = called host .openScreen host.device.screen.grid host.log)
      (Session earlier [])
      (Host.changeDevice fun terminal => { terminal with isOpen := true }) := by
    rintro _ rfl
    refine ⟨rfl, ⟨[], ?_, List.not_mem_nil, rfl⟩, congrArg threadCalls ready.poller⟩
    exact congrArg (Call.openScreen :: ·) ready.calls
  have set : Ends (Session earlier []) (Session earlier []) setUp :=
    parallel_iff_ends.mp (parallel_setUp follows_session)
  have polls : Ends (Session earlier []) (Session earlier []) (setPoller (some {})) :=
    fun _ session => ⟨session.isOpen, session.since, rfl⟩
  have rest := opened.bind (fun _ session => ⟨[], session⟩) fun _ =>
    set.bind (fun _ session => ⟨[], session⟩) fun _ =>
      polls.bind (fun _ session => ⟨[], session⟩) fun _ => ends_startThread
  obtain ⟨outcome, after⟩ := run_require_cases host .openScreen
  rw [ready.calls, ready.opens] at outcome
  rw [start_eq, run_bind]
  cases ran : (require .openScreen).run.run host with
  | mk result reached =>
      rw [ran] at outcome after
      cases outcome
      exact rest reached after

/-- An opening that does not get past its first call makes no other one. -/
theorem run_start_of_fails
    (fails : host.device.screen.fails host.device.screen.calls .openScreen = true) :
    start.run.run host = (.error (.screenCall Call.openScreen.name),
      called host .openScreen host.device.screen.grid host.log) := by
  obtain ⟨outcome, after⟩ := run_require_cases host .openScreen
  rw [fails, if_pos rfl] at outcome
  have ran : (require .openScreen).run.run host = (.error (.screenCall Call.openScreen.name),
      called host .openScreen host.device.screen.grid host.log) := Prod.ext outcome after
  rw [start_eq, run_bind, ran]

/-! ## Closing the screen -/

def endings : List (List Call) :=
  [[], [.threadJoin Keyboard.Poller.joinTimeout true, .threadStart Keyboard.Poller.threadName]]

/-- The screen is open still, but the thread has ended. -/
structure Stilled (earlier : List Call) (host : Host Terminal) : Prop where
  isOpen : host.device.isOpen = true
  since : ∃ threads ∈ endings, Since earlier threads host.device.screen.calls

structure Told (earlier : List Call) (host : Host Terminal) : Prop where
  isOpen : host.device.isOpen = true
  since : Since earlier (threadCalls host.device.poller) host.device.screen.calls
  stopped : ∀ poller, host.device.poller = some poller → poller.stopped = true

theorem leads_joinThread : Leads (Told earlier) (Stilled earlier) joinThread := by
  refine .get fun _ told => ?_
  rintro host rfl
  have since := told.since
  cases reads : host.device.poller with
  | none =>
      rw [reads] at since
      exact ⟨(), host, rfl, told.isOpen, [], List.mem_cons_self, since⟩
  | some poller =>
      rw [reads, threadCalls] at since
      simp only [told.stopped poller reads]
      cases threaded : poller.threaded with
      | false =>
          rw [threaded] at since
          exact ⟨(), host, rfl, told.isOpen, [], List.mem_cons_self, since⟩
      | true =>
          rw [threaded] at since
          refine ⟨(), _, rfl, told.isOpen, _, ?_, since.thread rfl⟩
          exact List.mem_cons_of_mem _ List.mem_cons_self

theorem leads_stopThread :
    Leads (fun host => ∃ threads, Session earlier threads host) (Stilled earlier)
      stopThread := by
  refine .get fun _ held => ?_
  rintro host rfl
  obtain ⟨_, isOpen, since, rfl⟩ := held
  cases reads : host.device.poller with
  | none =>
      rw [reads] at since
      exact ⟨(), host, rfl, isOpen, [], List.mem_cons_self, since⟩
  | some poller =>
      rw [reads] at since
      have tells : Leads (· = host) (Told earlier)
          (setPoller (some { poller with stopped := true })) := by
        rintro _ rfl
        refine ⟨(), _, rfl, isOpen, since, ?_⟩
        rintro _ ⟨rfl⟩
        rfl
      exact (tells.bind fun _ => leads_joinThread) host rfl

/-- The screen is open still, but nothing reads the keyboard. -/
structure Leaving (earlier : List Call) (host : Host Terminal) : Prop extends
    Stilled earlier host where
  poller : host.device.poller = none

/-- The last call closed the screen that was opened after the earlier calls. -/
structure Closed (earlier : List Call) (host : Host Terminal) : Prop where
  poller : host.device.poller = none
  calls : ∃ calls threads, host.device.screen.calls = .closeScreen :: calls ∧ threads ∈ endings ∧
    Since earlier threads calls

theorem follows_leaving : Follows fun host twin => host = twin ∧ Leaving earlier host :=
  follows_of_called
    (fun _ _ ordinary leaving =>
      have ⟨threads, ended, since⟩ := leaving.since
      ⟨⟨leaving.isOpen, threads, ended, since.ordinary ordinary⟩, leaving.poller⟩)
    fun _ _ leaving => ⟨⟨leaving.isOpen, leaving.since⟩, leaving.poller⟩

/-- The screen is closed even if its modes cannot be restored. -/
theorem ends_stop :
    Ends (fun host => ∃ threads, Session earlier threads host) (Closed earlier) stop := by
  have still : Leads (Stilled earlier) (Leaving earlier) (setPoller none) :=
    fun host stilled => ⟨(), _, rfl, ⟨stilled.isOpen, stilled.since⟩, rfl⟩
  have restores : Ends (Leaving earlier) (Leaving earlier) restoreModes :=
    parallel_iff_ends.mp (parallel_restoreModes follows_leaving)
  have closes : Ends (Leaving earlier) (Closed earlier) (require .closeScreen) := by
    intro host leaving
    obtain ⟨threads, ended, since⟩ := leaving.since
    rw [(run_require_cases host .closeScreen).2]
    exact ⟨leaving.poller, _, threads, rfl, ended, since⟩
  have shuts : Ends (Closed earlier) (Closed earlier)
      (Host.changeDevice fun terminal => { terminal with isOpen := false }) :=
    fun _ closed => ⟨closed.poller, closed.calls⟩
  refine leads_stopThread.ends_bind fun _ => still.ends_bind fun _ => .get fun _ leaving => ?_
  rintro host rfl
  rw [leaving.isOpen]
  exact (restores.thenAlways closes).bind (fun _ => id) (fun _ => shuts) host leaving

/-- No screen is open, nothing reads the keyboard, and these calls have been made. -/
structure Shut (calls : List Call) (host : Host Terminal) : Prop where
  isOpen : host.device.isOpen = false
  poller : host.device.poller = none
  calls : host.device.screen.calls = calls

theorem ends_stop_shut : Ends (Shut calls) (Shut calls) stop := by
  have thread : Ends (Shut calls) (Shut calls) stopThread := by
    refine .get fun _ shut => ?_
    rintro host rfl
    rw [shut.poller]
    exact shut
  have still : Ends (Shut calls) (Shut calls) (setPoller none) :=
    fun _ shut => ⟨shut.isOpen, rfl, shut.calls⟩
  refine thread.bind (fun _ => id) fun _ => still.bind (fun _ => id) fun _ => .get fun _ shut => ?_
  rintro host rfl
  rw [shut.isOpen]
  exact shut

def Idle (host : Host Terminal) : Prop := host.device.poller = none

theorem ends_stop_idle : Ends Idle Idle stop := by
  have thread : Ends Idle Idle stopThread := by
    refine .get fun _ idle => ?_
    rintro host rfl
    rw [show host.device.poller = none from idle]
    exact idle
  have still : Ends Idle Idle (setPoller none) := fun _ _ => rfl
  have follows : Follows fun host twin => host = twin ∧ Idle host :=
    follows_of_called (fun _ _ _ idle => idle) fun _ _ idle => idle
  have restores : Ends Idle Idle restoreModes := parallel_iff_ends.mp (parallel_restoreModes follows)
  have closes : Ends Idle Idle (require .closeScreen) := by
    intro host idle
    rw [(run_require_cases host .closeScreen).2]
    exact idle
  have shuts : Ends Idle Idle (Host.changeDevice fun terminal => { terminal with isOpen := false }) :=
    fun _ idle => idle
  refine thread.bind (fun _ => id) fun _ => still.bind (fun _ => id) fun _ => .get fun _ idle => ?_
  rintro host rfl
  cases host.device.isOpen with
  | false => exact idle
  | true => exact (restores.thenAlways closes).bind (fun _ => id) (fun _ => shuts) host idle

end Chip8.Terminal
