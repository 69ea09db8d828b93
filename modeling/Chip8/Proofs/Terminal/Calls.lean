import Chip8.Proofs.Terminal.Drawing

namespace Chip8.Terminal

open Chip8.Action (Parallel run_bind)

/-- A call of which a failure is passed over: it writes a text or sets the cursor. -/
def Call.isMinor : Call → Bool
  | .write _ _ | .cursor _ => true
  | _ => false

def Call.isThread : Call → Bool
  | .threadStart _ | .threadJoin _ _ => true
  | _ => false

def Call.isOrdinary : Call → Bool
  | .openScreen | .closeScreen => false
  | call => !call.isThread

/-- The host after a call that may have left its mark on the screen and in the log. -/
def called (host : Host Terminal) (call : Call) (grid : Array (Array Char)) (log : Array LogRecord) :
    Host Terminal :=
  { host with
    device :=
      { host.device with screen := { (host.device.screen.call call).2 with grid := grid } }
    log := log }

theorem run_require_cases (host : Host Terminal) (call : Call) :
    ((require call).run.run host).1 =
        (if host.device.screen.fails host.device.screen.calls call then .error (.screenCall call.name)
          else .ok ()) ∧
      ((require call).run.run host).2 = called host call host.device.screen.grid host.log := by
  rw [require, run_bind, run_attempt]
  cases host.device.screen.fails host.device.screen.calls call <;> exact ⟨rfl, rfl⟩

theorem run_write_cases (host : Host Terminal) (row column : Nat) (text : List Char) :
    ∃ grid, (write row column text).run.run host =
      (.ok (), called host (.write row column) grid host.log) := by
  cases failed : host.device.screen.fails host.device.screen.calls (.write row column) with
  | true =>
      refine ⟨host.device.screen.grid, ?_⟩
      rw [write, run_bind, run_attempt, failed]
      rfl
  | false =>
      obtain ⟨grid, put⟩ := (host.device.screen.call (.write row column)).2.put_eq row column text
      refine ⟨grid, ?_⟩
      rw [run_write_eq row column text failed]
      simp only [put]
      rfl

theorem run_setCursor_cases (host : Host Terminal) (visibility : Nat) :
    ∃ log, (setCursor visibility).run.run host =
      (.ok (), called host (.cursor visibility) host.device.screen.grid log) := by
  rw [setCursor, run_bind, run_attempt]
  cases host.device.screen.fails host.device.screen.calls (.cursor visibility) <;> exact ⟨_, rfl⟩

/-- A relation of hosts that holds on through every ordinary call, and that lets their terminals look
alike to the requests that make the calls. -/
structure Follows (related : Host Terminal → Host Terminal → Prop) : Prop where
  require : ∀ {call : Call}, call.isOrdinary = true → call.isMinor = false →
    Parallel related (require call) (require call)
  setCursor : ∀ visibility, Parallel related (setCursor visibility) (setCursor visibility)
  write : ∀ row column text,
    Parallel related (write row column text) (write row column text)
  cleared : Parallel related (changeScreen Screen.cleared) (changeScreen Screen.cleared)
  note : ∀ record, Parallel related (Host.note record) (Host.note record)
  rows : ∀ {host twin}, related host twin → host.device.screen.rows = twin.device.screen.rows
  columns : ∀ {host twin}, related host twin →
    host.device.screen.columns = twin.device.screen.columns
  isOpen : ∀ {host twin}, related host twin → host.device.isOpen = twin.device.isOpen
  poller : ∀ {host twin}, related host twin → host.device.poller = twin.device.poller

def setUp : Action (Host Terminal) Unit := do
  require .noEcho
  require .rawInput
  require (.keypadMode true)
  require (.noDelay true)
  require (.escapeDelay escapeMillis)
  setCursor 0
  require .size
  let screen := (← get).device.screen
  if screen.rows < boxHeight ∨ screen.columns < boxWidth then
    note .warning (s!"Terminal is {screen.columns}x{screen.rows}; " ++
      s!"{boxWidth}x{boxHeight} is needed to show the whole screen")
  drawBox

theorem start_eq : start = (do
    require .openScreen
    Host.changeDevice fun terminal => { terminal with isOpen := true }
    setUp
    setPoller (some {})
    startThread) := by
  simp only [start, setUp, bind_assoc]
  repeat refine bind_congr fun _ => ?_
  split <;> simp only [bind_assoc]

variable {related : Host Terminal → Host Terminal → Prop} (follows : Follows related)
include follows

theorem parallel_drawBox : Parallel related drawBox drawBox := by
  refine (follows.require rfl rfl).bind fun _ => follows.cleared.bind fun _ => ?_
  refine (follows.write _ _ _).bind fun _ => .bind (.forM fun row => ?_) fun _ => ?_
  · exact (follows.write _ _ _).bind fun _ => follows.write _ _ _
  · exact (follows.write _ _ _).bind fun _ => follows.require rfl rfl

theorem parallel_setUp : Parallel related setUp setUp := by
  refine (follows.require rfl rfl).bind fun _ => (follows.require rfl rfl).bind fun _ => ?_
  refine (follows.require rfl rfl).bind fun _ => (follows.require rfl rfl).bind fun _ => ?_
  refine (follows.require rfl rfl).bind fun _ => (follows.setCursor 0).bind fun _ => ?_
  refine (follows.require rfl rfl).bind fun _ => .get fun host twin alike => ?_
  simp only [follows.rows alike, follows.columns alike]
  split
  · exact (follows.note _).bind fun _ => parallel_drawBox follows
  · exact parallel_drawBox follows

theorem parallel_restoreModes : Parallel related restoreModes restoreModes := by
  refine (follows.require rfl rfl).bind fun _ => (follows.require rfl rfl).bind fun _ => ?_
  exact (follows.require rfl rfl).bind fun _ => follows.setCursor 1

theorem parallel_poll : Parallel related poll poll := by
  refine .get fun host twin alike => ?_
  rw [follows.poller alike]
  cases twin.device.poller with
  | none => exact .pure true
  | some poller => exact .pure _

theorem parallel_drawBytes (bytes : List Byte) :
    Parallel related (drawBytes bytes) (drawBytes bytes) := by
  refine .get fun host twin alike => ?_
  rw [follows.isOpen alike]
  cases twin.device.isOpen with
  | false => exact fun _ _ alike => ⟨rfl, alike⟩
  | true =>
      cases Pixels.unpack bytes with
      | error wrong => exact .throw _
      | ok pixels =>
          exact .bind (.forM fun _ => follows.write _ _ _) fun _ => follows.require rfl rfl

end Chip8.Terminal
