import Chip8.Proofs.Run.Twins
import Chip8.Proofs.Terminal.Calls

namespace Chip8.Terminal

open Chip8.Action (Parallel)

/-- Hosts of terminals on which the same calls were made, and on which the same calls will fail but
for minor ones.  What stands on the screens and in the logs may differ. -/
structure Alike (host twin : Host Terminal) : Prop where
  keypad : host.keypad = twin.keypad
  clock : host.clock = twin.clock
  isOpen : host.device.isOpen = twin.device.isOpen
  poller : host.device.poller = twin.device.poller
  rows : host.device.screen.rows = twin.device.screen.rows
  columns : host.device.screen.columns = twin.device.screen.columns
  pending : host.device.screen.pending = twin.device.screen.pending
  calls : host.device.screen.calls = twin.device.screen.calls
  fails : ∀ earlier call, call.isMinor = false →
    host.device.screen.fails earlier call = twin.device.screen.fails earlier call

variable {host twin : Host Terminal} {call : Call}

theorem Alike.called (alike : Alike host twin) (call : Call) (grid grid' : Array (Array Char))
    (log log' : Array LogRecord) : Alike (called host call grid log) (called twin call grid' log') :=
  { alike with calls := congrArg (call :: ·) alike.calls }

theorem parallel_attempt (grave : call.isMinor = false) :
    Parallel Alike (attempt call) (attempt call) := by
  intro host twin alike
  -- Both are asked after the same calls, so they give the same answer.
  rw [run_attempt, run_attempt, alike.calls, alike.fails _ _ grave]
  exact ⟨rfl, alike.called call _ _ _ _⟩

theorem parallel_require (grave : call.isMinor = false) :
    Parallel Alike (require call) (require call) := by
  refine (parallel_attempt grave).bind fun succeeded => ?_
  cases succeeded with
  | false => exact .throw _
  | true => exact .pure ()

theorem parallel_note (record : LogRecord) :
    Parallel Alike (Host.note record) (Host.note record) := fun _ _ alike => ⟨rfl, { alike with }⟩

theorem follows_alike : Follows Alike where
  require _ grave := parallel_require grave
  setCursor visibility := by
    intro host twin alike
    obtain ⟨log, ran⟩ := run_setCursor_cases host visibility
    obtain ⟨log', ran'⟩ := run_setCursor_cases twin visibility
    rw [ran, ran']
    exact ⟨rfl, alike.called _ _ _ _ _⟩
  write row column text := by
    intro host twin alike
    obtain ⟨grid, ran⟩ := run_write_cases host row column text
    obtain ⟨grid', ran'⟩ := run_write_cases twin row column text
    rw [ran, ran']
    exact ⟨rfl, alike.called _ _ _ _ _⟩
  cleared _ _ alike := ⟨rfl, { alike with }⟩
  note := parallel_note
  rows alike := alike.rows
  columns alike := alike.columns
  isOpen alike := alike.isOpen
  poller alike := alike.poller

theorem parallel_setPoller (poller : Option Keyboard.Poller) :
    Parallel Alike (setPoller poller) (setPoller poller) :=
  fun _ _ alike => ⟨rfl, { alike with poller := rfl }⟩

theorem parallel_startThread : Parallel Alike startThread startThread := by
  refine .get fun host twin alike => ?_
  rw [alike.poller]
  cases twin.device.poller with
  | none => exact .pure ()
  | some poller =>
      refine (parallel_setPoller _).bind fun _ => ?_
      exact (parallel_attempt rfl).bind fun _ => .pure ()

theorem parallel_joinThread : Parallel Alike joinThread joinThread := by
  refine .get fun host twin alike => ?_
  rw [alike.poller]
  cases twin.device.poller with
  | none => exact .pure ()
  | some poller =>
      dsimp only
      cases poller.threaded with
      | false => exact .pure ()
      | true => exact (parallel_attempt rfl).bind fun _ => parallel_setPoller _

theorem parallel_stopThread : Parallel Alike stopThread stopThread := by
  refine .get fun host twin alike => ?_
  rw [alike.poller]
  cases twin.device.poller with
  | none => exact .pure ()
  | some poller => exact (parallel_setPoller _).bind fun _ => parallel_joinThread

theorem parallel_start : Parallel Alike start start := by
  rw [start_eq]
  refine (parallel_require rfl).bind fun _ => ?_
  refine .bind (fun _ _ alike => ⟨rfl, { alike with isOpen := rfl }⟩) fun _ => ?_
  refine (parallel_setUp follows_alike).bind fun _ => ?_
  exact (parallel_setPoller _).bind fun _ => parallel_startThread

theorem parallel_stop : Parallel Alike stop stop := by
  refine parallel_stopThread.bind fun _ => (parallel_setPoller none).bind fun _ => ?_
  refine .get fun host twin alike => ?_
  rw [alike.isOpen]
  cases twin.device.isOpen with
  | false => exact .pure ()
  | true =>
      refine .bind ((parallel_restoreModes follows_alike).thenAlways (parallel_require rfl)) fun _ => ?_
      exact fun _ _ alike => ⟨rfl, { alike with isOpen := rfl }⟩

theorem parallel_now : Parallel Alike Host.now Host.now := by
  intro host twin alike
  rw [Host.run_now, Host.run_now, alike.clock]
  exact ⟨rfl, { alike with clock := rfl }⟩

theorem twins_alike : Host.Twins Alike where
  sameKeypad alike := alike.keypad
  keypad alike _ := { alike with keypad := rfl }
  note := parallel_note
  poll := parallel_poll follows_alike
  draw display := parallel_drawBytes follows_alike display.toBytes
  reportSpeed _ := .pure ()
  paused _ := rfl

theorem parallel_run {sleeps : List (Action (Host Terminal) Unit)}
    (blind : ∀ sleep ∈ sleeps, Parallel Alike sleep sleep) :
    Parallel (Runner.Twins Alike) (Runner.run sleeps) (Runner.run sleeps) :=
  Runner.parallel_run twins_alike parallel_start parallel_stop parallel_now
    (List.forall₂_same.mpr blind)

end Chip8.Terminal
