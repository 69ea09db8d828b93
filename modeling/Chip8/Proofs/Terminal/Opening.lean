import Chip8.Proofs.Terminal.Drawing

namespace Chip8.Terminal

open Chip8.Action (Leads run_bind)

theorem Screen.fitted_cleared (screen : Screen) : screen.cleared.Fitted := by
  refine ⟨Array.size_replicate, ?_⟩
  intro row line found
  obtain ⟨inside, rfl⟩ := Array.getElem?_eq_some_iff.mp found
  simp [cleared]

/-- How far the opening of a terminal has got. -/
structure Stage (opened boxed : Bool) (host : Host Terminal) : Prop where
  reliable : ∀ earlier call, host.device.screen.fails earlier call = false
  isOpen : opened = true → host.device.isOpen = true
  fitted : boxed = true → host.device.screen.Fitted

variable {opened boxed : Bool}

theorem Stage.closed {host : Host Terminal}
    (reliable : ∀ earlier call, host.device.screen.fails earlier call = false) :
    Stage false false host :=
  ⟨reliable, fun never => absurd never Bool.false_ne_true,
    fun never => absurd never Bool.false_ne_true⟩

theorem Stage.works {host : Host Terminal} (stage : Stage true true host) : host.device.Works :=
  ⟨stage.isOpen rfl, stage.fitted rfl, fun _ _ _ => stage.reliable _ _,
    fun _ => stage.reliable _ _⟩

theorem Stage.called {host : Host Terminal} (stage : Stage opened boxed host) (call : Call) :
    Stage opened boxed
      { host with device := { host.device with screen := (host.device.screen.call call).2 } } :=
  ⟨stage.reliable, stage.isOpen, fun boxed =>
    ⟨(stage.fitted boxed).rows, (stage.fitted boxed).columns⟩⟩

theorem leads_require (call : Call) :
    Leads (Stage opened boxed) (Stage opened boxed) (require call) := by
  intro host stage
  refine ⟨(), _, ?_, stage.called call⟩
  rw [require, run_bind, run_attempt, stage.reliable]
  rfl

theorem leads_setCursor (visibility : Nat) :
    Leads (Stage opened boxed) (Stage opened boxed) (setCursor visibility) := by
  intro host stage
  refine ⟨(), _, ?_, stage.called (.cursor visibility)⟩
  rw [setCursor, run_bind, run_attempt, stage.reliable]
  rfl

theorem leads_write (row column : Nat) (text : List Char) :
    Leads (Stage opened true) (Stage opened true) (write row column text) := by
  intro host stage
  let called := (host.device.screen.call (.write row column)).2
  let put := (called.put row column text).2
  have fits : put.Fitted := ((stage.called (.write row column)).fitted rfl).put row column text
  have kept : ∃ grid, put = { called with grid } := called.put_eq row column text
  refine ⟨(), _, run_write_eq row column text (stage.reliable _ _), ?_⟩
  change Stage opened true { host with device := { host.device with screen := put } }
  obtain ⟨grid, kept⟩ := kept
  rw [kept] at fits ⊢
  exact ⟨stage.reliable, stage.isOpen, fun _ => fits⟩

theorem leads_drawBox : Leads (Stage true false) (Stage true true) drawBox := by
  have clears : Leads (Stage true false) (Stage true true) (changeScreen Screen.cleared) :=
    fun host stage => ⟨(), _, rfl, stage.reliable, stage.isOpen,
      fun _ => Screen.fitted_cleared host.device.screen⟩
  refine (leads_require .clear).bind fun _ => clears.bind fun _ => ?_
  refine (leads_write 0 0 _).bind fun _ => ?_
  have sides (row : Nat) : Leads (Stage true true) (Stage true true) (do
      write row 0 ['│']
      write row (boxWidth - 1) ['│']) :=
    (leads_write row 0 _).bind fun _ => leads_write row _ _
  refine (Leads.forM sides).bind fun _ => ?_
  exact (leads_write _ 0 _).bind fun _ => leads_require .refresh

theorem leads_setPoller (poller : Option Keyboard.Poller) :
    Leads (Stage opened boxed) (Stage opened boxed) (setPoller poller) :=
  fun _ stage => ⟨(), _, rfl, stage.reliable, stage.isOpen, stage.fitted⟩

theorem leads_startThread : Leads (Stage opened boxed) (Stage opened boxed) startThread := by
  refine Leads.get fun _ stage => ?_
  rintro host rfl
  cases host.device.poller with
  | none => exact ⟨(), host, rfl, stage⟩
  | some poller => exact ⟨(), _, rfl, stage.reliable, stage.isOpen, fun boxed =>
      ⟨(stage.fitted boxed).rows, (stage.fitted boxed).columns⟩⟩

theorem leads_note (level : LogLevel) (message : String) :
    Leads (Stage opened boxed) (Stage opened boxed) (note level message) :=
  fun _ stage => ⟨(), _, rfl, stage.reliable, stage.isOpen, stage.fitted⟩

theorem leads_start : Leads (Stage false false) (Stage true true) start := by
  have opens : Leads (Stage false false) (Stage true false)
      (Host.changeDevice fun terminal : Terminal => { terminal with isOpen := true }) :=
    fun host stage => ⟨(), _, rfl, stage.reliable, fun _ => rfl, stage.fitted⟩
  have rest : Leads (Stage true false) (Stage true true) (do
      drawBox
      setPoller (some {})
      startThread) :=
    leads_drawBox.bind fun _ => (leads_setPoller _).bind fun _ => leads_startThread
  refine (leads_require .openScreen).bind fun _ => opens.bind fun _ => ?_
  refine (leads_require .noEcho).bind fun _ => (leads_require .rawInput).bind fun _ => ?_
  refine (leads_require _).bind fun _ => (leads_require _).bind fun _ => ?_
  refine (leads_require _).bind fun _ => (leads_setCursor 0).bind fun _ => ?_
  refine (leads_require .size).bind fun _ => Leads.get fun _ stage => ?_
  rintro host rfl
  dsimp only
  split
  · exact ((leads_note .warning _).bind fun _ => rest) host stage
  · exact rest host stage

end Chip8.Terminal
