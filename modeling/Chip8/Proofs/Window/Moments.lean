import Chip8.Proofs.History
import Chip8.Proofs.Window.Keys
import Mathlib.Algebra.Ring.Parity
import Mathlib.Data.List.Count

/-!
# What a window remembers

The keypad of a window and the requests of its user follow from what has happened: the events
handled so far, and when the keypad was captured and the latched press taken.  A key is held if the
latest of its own events and the focus losses is a press, and a press is fresh if its key was up.
-/

namespace Chip8.Window

/-- Something that happens to the input of a window, or that is read from it. -/
inductive Moment where
  | event (event : Event)
  | capture
  | take
  deriving DecidableEq, Repr

namespace Moment

/-- A key goes down, whether or not it was down. -/
def Presses (moment : Moment) (key : Fin 16) : Prop :=
  ∃ code, Stands code key ∧ moment = .event (.keyDown code)

def Concerns (moment : Moment) (key : Fin 16) : Prop :=
  moment = .event .focusLost ∨
    ∃ code, Stands code key ∧ (moment = .event (.keyDown code) ∨ moment = .event (.keyUp code))

end Moment

/-- The latest moment that concerns a key is a press. -/
def Held (history : List Moment) (key : Fin 16) : Prop :=
  Since (fun _ moment => moment.Presses key) (fun _ moment => moment.Concerns key) history

def Freshly (before : List Moment) (moment : Moment) (key : Fin 16) : Prop :=
  moment.Presses key ∧ ¬ Held before key

/-- The latest fresh press was of a key, and since then no press was taken and no focus lost. -/
def Latched (history : List Moment) (key : Fin 16) : Prop :=
  Since (fun before moment => Freshly before moment key)
    (fun before moment => moment = .take ∨ moment = .event .focusLost ∨
      ∃ other, Freshly before moment other) history

/-- A key was held at the latest capture, and no focus was lost since then. -/
def Shown (history : List Moment) (key : Fin 16) : Prop :=
  Since (fun before moment => moment = .capture ∧ Held before key)
    (fun _ moment => moment = .capture ∨ moment = .event .focusLost) history

/-- A keypad is as a history leaves it. -/
structure KeysFollow (history : List Moment) (keypad : Keypad) : Prop where
  staged (key : Fin 16) : keypad.staged.has key = true ↔ Held history key
  captured (key : Fin 16) : keypad.captured.has key = true ↔ Shown history key
  pressed (key : Fin 16) : keypad.pressed = some key ↔ Latched history key

structure RequestsFollow (history : List Moment) (input : Input) : Prop where
  quit : input.quit = true ↔
    .event .quit ∈ history ∨ .event (.keyDown Keyboard.escapeCode) ∈ history
  paused : input.paused = true ↔ Odd (history.count (.event (.keyDown Input.pauseCode)))

variable {history : List Moment} {moment : Moment} {event : Event} {code : Int}
  {key other : Fin 16} {input : Input} {keypad after : Keypad}

theorem presses_keyDown_iff (stands : Stands code key) :
    (Moment.event (.keyDown code)).Presses other ↔ key = other := by
  constructor
  · rintro ⟨code', stands', same⟩
    cases same
    exact stands.unique stands'
  · rintro rfl
    exact ⟨code, stands, rfl⟩

theorem concerns_keyDown_iff (stands : Stands code key) :
    (Moment.event (.keyDown code)).Concerns other ↔ key = other := by
  constructor
  · rintro (lost | ⟨code', stands', same | same⟩)
    · cases lost
    · cases same
      exact stands.unique stands'
    · cases same
  · rintro rfl
    exact Or.inr ⟨code, stands, Or.inl rfl⟩

theorem concerns_keyUp_iff (stands : Stands code key) :
    (Moment.event (.keyUp code)).Concerns other ↔ key = other := by
  constructor
  · rintro (lost | ⟨code', stands', same | same⟩)
    · cases lost
    · cases same
    · cases same
      exact stands.unique stands'
  · rintro rfl
    exact Or.inr ⟨code, stands, Or.inr rfl⟩

theorem not_presses (quiet : ∀ code, moment ≠ .event (.keyDown code)) : ¬ moment.Presses key := by
  rintro ⟨code, _, same⟩
  exact quiet code same

theorem not_presses_of_silent (silent : event.IsSilent) : ¬ (Moment.event event).Presses key := by
  rintro ⟨code, stands, same⟩
  exact (silent.2 code key stands).1 (Moment.event.inj same)

theorem not_concerns_of_silent (silent : event.IsSilent) :
    ¬ (Moment.event event).Concerns key := by
  rintro (lost | ⟨code, stands, same | same⟩)
  · exact silent.1 (Moment.event.inj lost)
  · exact (silent.2 code key stands).1 (Moment.event.inj same)
  · exact (silent.2 code key stands).2 (Moment.event.inj same)

theorem not_concerns (reads : ∀ event, moment ≠ .event event) : ¬ moment.Concerns key := by
  rintro (lost | ⟨code, _, same | same⟩)
  · exact reads _ lost
  · exact reads _ same
  · exact reads _ same

theorem held_concat : Held (history ++ [moment]) key ↔
    moment.Presses key ∨ Held history key ∧ ¬ moment.Concerns key := Since.concat_iff

theorem latched_concat : Latched (history ++ [moment]) key ↔
    Freshly history moment key ∨ Latched history key ∧
      ¬ (moment = .take ∨ moment = .event .focusLost ∨ ∃ other, Freshly history moment other) :=
  Since.concat_iff

theorem shown_concat : Shown (history ++ [moment]) key ↔
    (moment = .capture ∧ Held history key) ∨
      Shown history key ∧ ¬ (moment = .capture ∨ moment = .event .focusLost) := Since.concat_iff

theorem latched_concat_of_not_presses (quiet : ∀ key, ¬ moment.Presses key) :
    Latched (history ++ [moment]) key ↔
      Latched history key ∧ moment ≠ .take ∧ moment ≠ .event .focusLost := by
  have stale (other : Fin 16) : ¬ Freshly history moment other := fun fresh => quiet other fresh.1
  simp [latched_concat, stale]

namespace KeysFollow

theorem nil : KeysFollow [] {} where
  staged key := by
    have up : ¬ Held [] key := Since.not_nil
    simpa [KeySet.has] using up
  captured key := by
    have dark : ¬ Shown [] key := Since.not_nil
    simpa [KeySet.has] using dark
  pressed key := by
    have quiet : ¬ Latched [] key := Since.not_nil
    simpa using quiet

theorem press (follow : KeysFollow history keypad) (stands : Stands code key) :
    KeysFollow (history ++ [.event (.keyDown code)]) (keypad.press key) where
  staged other := by
    rw [Keypad.has_press, Bool.or_eq_true, decide_eq_true_iff, follow.staged, held_concat,
      presses_keyDown_iff stands, concerns_keyDown_iff stands]
    tauto
  captured other := by simpa [shown_concat, Keypad.press] using follow.captured other
  pressed other := by
    have freshly (other : Fin 16) : Freshly history (.event (.keyDown code)) other ↔
        key = other ∧ ¬ Held history other := by
      rw [Freshly, presses_keyDown_iff stands]
    rw [latched_concat]
    simp only [freshly, Keypad.press]
    by_cases held : Held history key
    · -- A key that repeats leaves the latched press as it was.
      have stale (other : Fin 16) : ¬ (key = other ∧ ¬ Held history other) := by
        rintro ⟨rfl, up⟩
        exact up held
      rw [if_pos ((follow.staged key).mpr held), follow.pressed]
      simp only [stale, exists_false, false_or, reduceCtorEq, Moment.event.injEq,
        not_false_eq_true, and_true]
    · rw [if_neg (mt (follow.staged key).mp held)]
      have fresh : ∃ other, key = other ∧ ¬ Held history other := ⟨key, rfl, held⟩
      simp only [fresh, or_true, not_true_eq_false, and_false, or_false, Option.some.injEq]
      constructor
      · rintro rfl
        exact ⟨rfl, held⟩
      · exact And.left

theorem release (follow : KeysFollow history keypad) (stands : Stands code key) :
    KeysFollow (history ++ [.event (.keyUp code)]) (keypad.release key) where
  staged other := by
    rw [Keypad.has_release, Bool.and_eq_true, Bool.not_eq_true', decide_eq_false_iff_not,
      follow.staged, held_concat, concerns_keyUp_iff stands]
    have quiet : ¬ (Moment.event (.keyUp code)).Presses other := not_presses (by simp)
    tauto
  captured other := by simpa [shown_concat, Keypad.release] using follow.captured other
  pressed other := by
    have quiet (any : Fin 16) : ¬ Moment.Presses (.event (.keyUp code)) any := not_presses (by simp)
    simpa [latched_concat_of_not_presses quiet, Keypad.release] using follow.pressed other

theorem clear : KeysFollow (history ++ [.event .focusLost]) keypad.clear where
  staged key := by
    have up : ¬ Held (history ++ [.event .focusLost]) key := by
      rw [held_concat]
      rintro (⟨_, _, same⟩ | ⟨_, goesOn⟩)
      · cases same
      · exact goesOn (Or.inl rfl)
    simpa [Keypad.clear, KeySet.has] using up
  captured key := by
    have dark : ¬ Shown (history ++ [.event .focusLost]) key := by
      simp [shown_concat]
    simpa [Keypad.clear, KeySet.has] using dark
  pressed key := by
    have quiet (any : Fin 16) : ¬ Moment.Presses (.event .focusLost) any := not_presses (by simp)
    simp [latched_concat_of_not_presses quiet, Keypad.clear]

theorem silent (follow : KeysFollow history keypad) (silent : event.IsSilent) :
    KeysFollow (history ++ [.event event]) keypad := by
  have keepsFocus := silent.1
  have quiet (key : Fin 16) : ¬ (Moment.event event).Presses key := not_presses_of_silent silent
  constructor
  · intro key
    simp only [follow.staged, held_concat, quiet key, not_concerns_of_silent silent, false_or,
      not_false_eq_true, and_true]
  · intro key
    simp [follow.captured, shown_concat, keepsFocus]
  · intro key
    simp [follow.pressed, latched_concat_of_not_presses quiet, keepsFocus]

theorem moves (follow : KeysFollow history keypad) (moves : Moves keypad event after) :
    KeysFollow (history ++ [.event event]) after := by
  cases moves with
  | press stands => exact follow.press stands
  | release stands => exact follow.release stands
  | clear => exact clear
  | silent silent => exact follow.silent silent

theorem held_of_reads (follow : KeysFollow history keypad)
    (reads : ∀ event, moment ≠ .event event) :
    keypad.staged.has key = true ↔ Held (history ++ [moment]) key := by
  have quiet : ¬ moment.Presses key := not_presses fun code => reads (.keyDown code)
  simp only [follow.staged, held_concat, quiet, not_concerns reads, false_or, not_false_eq_true,
    and_true]

theorem capture (follow : KeysFollow history keypad) :
    KeysFollow (history ++ [.capture]) keypad.capture where
  staged key := follow.held_of_reads (by simp)
  captured key := by
    simp only [shown_concat, Keypad.capture, follow.staged, true_and, true_or, not_true_eq_false,
      and_false, or_false]
  pressed key := by
    have quiet (any : Fin 16) : ¬ Moment.Presses .capture any := not_presses (by simp)
    simpa [latched_concat_of_not_presses quiet, Keypad.capture] using follow.pressed key

theorem take (follow : KeysFollow history keypad) :
    KeysFollow (history ++ [.take]) keypad.take.2 where
  staged key := follow.held_of_reads (by simp)
  captured key := by simpa [shown_concat, Keypad.take] using follow.captured key
  pressed key := by
    have quiet (any : Fin 16) : ¬ Moment.Presses .take any := not_presses (by simp)
    simp [latched_concat_of_not_presses quiet, Keypad.take]

end KeysFollow

namespace RequestsFollow

theorem nil : RequestsFollow [] {} where
  quit := by simp
  paused := by simp

theorem handle (follow : RequestsFollow history input) :
    RequestsFollow (history ++ [.event event]) (input.handle keypad event).input where
  quit := by
    rw [input_handle]
    simp only [Bool.or_eq_true, follow.quit, decide_eq_true_eq, List.mem_append,
      List.mem_singleton, Moment.event.injEq, eq_comm (b := event)]
    tauto
  paused := by
    rw [input_handle, List.count_append, List.count_singleton]
    by_cases pause : event = .keyDown Input.pauseCode
    · simp [pause, Nat.odd_add_one, ← follow.paused]
    · simp [pause, ← follow.paused]

theorem reads (follow : RequestsFollow history input) (reads : ∀ event, moment ≠ .event event) :
    RequestsFollow (history ++ [moment]) input where
  quit := by
    simp [follow.quit, (reads _).symm]
  paused := by
    have other : history.count (.event (.keyDown Input.pauseCode)) =
        (history ++ [moment]).count (.event (.keyDown Input.pauseCode)) := by
      simp [reads]
    rw [← other, follow.paused]

end RequestsFollow

end Chip8.Window
