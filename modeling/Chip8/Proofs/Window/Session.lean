import Chip8.Proofs.Host.Action
import Chip8.Proofs.Window.Moments
import Chip8.Window.Basic

namespace Chip8.Window

/-- A call that hands events to a window or reads its keypad. -/
inductive Call where
  | handle (event : Event)
  | poll (events : List Event)
  | capture
  | take
  deriving DecidableEq, Repr

namespace Call

inductive Answer where
  | done
  | goesOn (more : Bool)
  | keys (held : KeySet)
  | press (key : Option (Fin 16))
  deriving DecidableEq, Repr

def perform {σ : Type} : Call → Action (Host (Window σ)) Answer
  | .handle event => do
    Window.handle event
    return .done
  | .poll events => do
    Window.post events
    return .goesOn (← Window.poll)
  | .capture => do
    Host.changeKeypad Keypad.capture
    return .keys (← get).keypad.captured
  | .take => do
    let (key, keypad) := (← get).keypad.take
    Host.changeKeypad fun _ => keypad
    return .press key

def moments : Call → List Moment
  | .handle event => [.event event]
  | .poll events => events.map .event
  | .capture => [.capture]
  | .take => [.take]

/-- What a call answers after a history. -/
def Fits (history : List Moment) : Call → Answer → Prop
  | .handle _, .done => True
  | .poll events, .goesOn more =>
    more = true ↔ ∀ moment ∈ history ++ events.map Moment.event,
      moment ≠ .event .quit ∧ moment ≠ .event (.keyDown Keyboard.escapeCode)
  | .capture, .keys held => ∀ key, held.has key = true ↔ Held history key
  | .take, .press key => ∀ latched, key = some latched ↔ Latched history latched
  | _, _ => False

/-- Each of some calls answers what fits the history up to it. -/
inductive Tell : List Moment → List Call → List Answer → Prop where
  | nil {history : List Moment} : Tell history [] []
  | cons {history : List Moment} {call : Call} {answer : Answer} {calls : List Call}
      {answers : List Answer} (fits : call.Fits history answer)
      (rest : Tell (history ++ call.moments) calls answers) :
      Tell history (call :: calls) (answer :: answers)

end Call

/-- An event that is none of the keypad: the window is closed, or the key is Escape, `p` or one that
stands for no key. -/
def Event.IsForeign (event : Event) : Prop :=
  event = .quit ∨ ∃ code, (event = .keyDown code ∨ event = .keyUp code) ∧
    (code = Keyboard.escapeCode ∨ code = Input.pauseCode ∨ ∀ key, ¬ Stands code key)

variable {σ : Type}

structure Fresh (host : Host (Window σ)) : Prop where
  isOpen : host.device.isOpen = true
  queue : host.device.queue = []
  input : host.device.input = {}
  keypad : host.keypad = {}

/-- An open window is as a history leaves it, and no event waits. -/
structure Remembers (history : List Moment) (host : Host (Window σ)) : Prop where
  isOpen : host.device.isOpen = true
  queue : host.device.queue = []
  keys : KeysFollow history host.keypad
  requests : RequestsFollow history host.device.input

/-- Calls on a host succeed, with answers and to an end that follow from the history. -/
structure FollowsHistory (host : Host (Window σ)) (calls : List Call) (answers : List Call.Answer)
    (after : Host (Window σ)) : Prop where
  run : (calls.mapM Call.perform).run.run host = (.ok answers, after)
  tell : Call.Tell [] calls answers
  keys : KeysFollow (calls.flatMap Call.moments) after.keypad
  requests : RequestsFollow (calls.flatMap Call.moments) after.device.input
  unmoved (event : Event) (foreign : event.IsForeign) :
    ((handle event).run.run after).2.keypad = after.keypad

variable {history : List Moment} {host : Host (Window σ)} {event : Event}

theorem Event.IsForeign.isSilent (foreign : event.IsForeign) : event.IsSilent := by
  obtain rfl | ⟨code, isKey, names⟩ := foreign
  · exact isSilent_quit
  have unmapped : ∀ key, ¬ Stands code key := by
    obtain rfl | rfl | unmapped := names
    · exact fun _ => not_stands_escape
    · exact fun _ => not_stands_pause
    · exact unmapped
  obtain rfl | rfl := isKey
  · exact isSilent_keyDown unmapped
  · exact isSilent_keyUp unmapped

theorem Fresh.remembers (fresh : Fresh host) : Remembers [] host where
  isOpen := fresh.isOpen
  queue := fresh.queue
  keys := by
    rw [fresh.keypad]
    exact .nil
  requests := by
    rw [fresh.input]
    exact .nil

theorem run_post (isOpen : host.device.isOpen = true) (events : List Event) :
    (post events).run.run host = (.ok (), { host with
      device := { host.device with queue := host.device.queue ++ events } }) := by
  rw [post, Action.run_get, isOpen]
  rfl

theorem run_poll {after : Host (Window σ)} (isOpen : host.device.isOpen = true)
    (handled : (host.device.queue.forM handle).run.run
      { host with device := { host.device with queue := [] } } = (.ok (), after)) :
    poll.run.run host = (.ok (!after.device.input.quit), after) := by
  rw [poll, Action.run_get]
  simp only [isOpen, if_true]
  change (host.device.queue.forM handle >>= fun _ => _).run.run
    { host with device := { host.device with queue := [] } } = _
  rw [Action.run_bind, handled]
  rfl

namespace Remembers

theorem handle (remembers : Remembers history host) (event : Event) :
    ∃ after, (Window.handle event).run.run host = (.ok (), after) ∧
      Remembers (history ++ [.event event]) after :=
  ⟨_, rfl, remembers.isOpen, remembers.queue, remembers.keys.moves moves_handle,
    remembers.requests.handle⟩

theorem handleAll (remembers : Remembers history host) (events : List Event) :
    ∃ after, (events.forM Window.handle).run.run host = (.ok (), after) ∧
      Remembers (history ++ events.map .event) after := by
  induction events generalizing history host with
  | nil => exact ⟨host, rfl, by simpa using remembers⟩
  | cons event rest ih =>
      obtain ⟨middle, handled, remembers⟩ := remembers.handle event
      obtain ⟨after, ran, remembers⟩ := ih remembers
      refine ⟨after, ?_, by simpa using remembers⟩
      change (Window.handle event >>= fun _ => rest.forM Window.handle).run.run host = _
      rw [Action.run_bind, handled]
      exact ran

theorem goesOn_iff (remembers : Remembers history host) :
    (!host.device.input.quit) = true ↔ ∀ moment ∈ history,
      moment ≠ .event .quit ∧ moment ≠ .event (.keyDown Keyboard.escapeCode) := by
  rw [Bool.not_eq_true', ← Bool.not_eq_true, remembers.requests.quit, not_or]
  constructor
  · rintro ⟨noQuit, noEscape⟩ moment member
    exact ⟨fun same => noQuit (same ▸ member), fun same => noEscape (same ▸ member)⟩
  · intro goesOn
    exact ⟨fun member => (goesOn _ member).1 rfl, fun member => (goesOn _ member).2 rfl⟩

theorem perform (remembers : Remembers history host) (call : Call) :
    ∃ answer after, call.perform.run.run host = (.ok answer, after) ∧
      call.Fits history answer ∧ Remembers (history ++ call.moments) after := by
  cases call with
  | handle event =>
      obtain ⟨after, handled, remembers⟩ := remembers.handle event
      refine ⟨.done, after, ?_, trivial, remembers⟩
      rw [Call.perform, Action.run_bind, handled]
      rfl
  | poll events =>
      have cleared : Remembers history
          { host with device := { host.device with queue := [] } } :=
        ⟨remembers.isOpen, rfl, remembers.keys, remembers.requests⟩
      obtain ⟨after, handled, left⟩ := cleared.handleAll events
      refine ⟨.goesOn (!after.device.input.quit), after, ?_, left.goesOn_iff, left⟩
      have polled : Window.poll.run.run
          { host with device := { host.device with queue := events } } =
            (.ok (!after.device.input.quit), after) := run_poll remembers.isOpen handled
      rw [Call.perform, Action.run_bind, run_post remembers.isOpen, remembers.queue, List.nil_append]
      change (Window.poll >>= fun more => pure (Call.Answer.goesOn more)).run.run _ = _
      rw [Action.run_bind, polled]
      rfl
  | capture =>
      refine ⟨.keys host.keypad.staged, { host with keypad := host.keypad.capture }, rfl,
        remembers.keys.staged, ?_⟩
      exact ⟨remembers.isOpen, remembers.queue, remembers.keys.capture,
        remembers.requests.reads (by simp)⟩
  | take =>
      refine ⟨.press host.keypad.pressed, { host with keypad := host.keypad.take.2 }, rfl,
        remembers.keys.pressed, ?_⟩
      exact ⟨remembers.isOpen, remembers.queue, remembers.keys.take,
        remembers.requests.reads (by simp)⟩

theorem performAll (remembers : Remembers history host) (calls : List Call) :
    ∃ answers after, (calls.mapM Call.perform).run.run host = (.ok answers, after) ∧
      Call.Tell history calls answers ∧
      Remembers (history ++ calls.flatMap Call.moments) after := by
  induction calls generalizing history host with
  | nil => exact ⟨[], host, rfl, .nil, by simpa using remembers⟩
  | cons call rest ih =>
      obtain ⟨answer, middle, first, fits, remembers⟩ := remembers.perform call
      obtain ⟨answers, after, ran, tell, remembers⟩ := ih remembers
      refine ⟨answer :: answers, after, ?_, .cons fits tell, by simpa using remembers⟩
      rw [List.mapM_cons, Action.run_bind, first]
      change (rest.mapM Call.perform >>= fun _ => _).run.run middle = _
      rw [Action.run_bind, ran]
      rfl

end Remembers

/-- Whatever is done to a window, its answers, its keypad and the requests of its user are what the
history of its events and of its readings makes them. -/
theorem followsHistory_of_fresh (fresh : Fresh host) (calls : List Call) :
    ∃ answers after, FollowsHistory host calls answers after := by
  obtain ⟨answers, after, ran, tell, left⟩ := fresh.remembers.performAll calls
  refine ⟨answers, after, ran, tell, left.keys, left.requests, ?_⟩
  intro event foreign
  exact handle_of_silent foreign.isSilent

theorem followsHistory_of_heldKey :
    Fresh { device := ({ create 10 "PONG" with isOpen := true } : Window Raster) } ∧
      ∃ after, FollowsHistory
        { device := ({ create 10 "PONG" with isOpen := true } : Window Raster) }
        [.poll [.keyDown 113, .keyDown 113], .capture, .take, .take, .handle .focusLost, .capture]
        [.goesOn true, .keys 0x10, .press (some 4), .press none, .done, .keys 0] after := by
  have fresh : Fresh { device := ({ create 10 "PONG" with isOpen := true } : Window Raster) } :=
    ⟨rfl, rfl, rfl, rfl⟩
  obtain ⟨answers, after, follows⟩ := followsHistory_of_fresh fresh
    [.poll [.keyDown 113, .keyDown 113], .capture, .take, .take, .handle .focusLost, .capture]
  have told : answers =
      [.goesOn true, .keys 0x10, .press (some 4), .press none, .done, .keys 0] :=
    Except.ok.inj (congrArg Prod.fst follows.run).symm
  subst told
  exact ⟨fresh, after, follows⟩

end Chip8.Window
