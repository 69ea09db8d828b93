import Chip8.Window.Input

namespace Chip8.Window

def Stands (code : Int) (key : Fin 16) : Prop :=
  ∃ c, (c, key) ∈ Keyboard.layout ∧ (c.toNat : Int) = code

/-- An event that is none of a key of the keypad, and no loss of the focus either. -/
def Event.IsSilent (event : Event) : Prop :=
  event ≠ .focusLost ∧
    ∀ code key, Stands code key → event ≠ .keyDown code ∧ event ≠ .keyUp code

/-- How an event changes a keypad. -/
inductive Moves (keypad : Keypad) : Event → Keypad → Prop where
  | press {code : Int} {key : Fin 16} (stands : Stands code key) :
      Moves keypad (.keyDown code) (keypad.press key)
  | release {code : Int} {key : Fin 16} (stands : Stands code key) :
      Moves keypad (.keyUp code) (keypad.release key)
  | clear : Moves keypad .focusLost keypad.clear
  | silent {event : Event} (silent : event.IsSilent) : Moves keypad event keypad

variable {event : Event} {code : Int} {key other : Fin 16} {input : Input} {keypad : Keypad}

theorem keyOfCode?_layout :
    ∀ entry ∈ Keyboard.layout, Input.keyOfCode? entry.1.toNat = some entry.2 := by
  decide

theorem keyOfCode?_eq_some_iff : Input.keyOfCode? code = some key ↔ Stands code key := by
  constructor
  · intro found
    obtain ⟨⟨c, named⟩, met, rfl⟩ := Option.map_eq_some_iff.mp found
    exact ⟨c, List.mem_of_find?_eq_some met, by simpa using List.find?_some met⟩
  · rintro ⟨c, member, rfl⟩
    exact keyOfCode?_layout (c, key) member

theorem keyOfCode?_eq_none_iff : Input.keyOfCode? code = none ↔ ∀ key, ¬ Stands code key := by
  simp only [← keyOfCode?_eq_some_iff, Option.eq_none_iff_forall_ne_some]

theorem Stands.unique (stands : Stands code key) (stands' : Stands code other) : key = other := by
  rw [← keyOfCode?_eq_some_iff] at stands stands'
  exact Option.some.inj (stands.symm.trans stands')

theorem not_stands_escape : ¬ Stands Keyboard.escapeCode key :=
  keyOfCode?_eq_none_iff.mp (by decide) key

theorem not_stands_pause : ¬ Stands Input.pauseCode key :=
  keyOfCode?_eq_none_iff.mp (by decide) key

theorem isSilent_quit : Event.IsSilent .quit := by simp [Event.IsSilent]

theorem isSilent_other : Event.IsSilent .other := by simp [Event.IsSilent]

theorem isSilent_keyDown (unmapped : ∀ key, ¬ Stands code key) :
    Event.IsSilent (.keyDown code) := by
  refine ⟨by simp, fun mapped key stands => ⟨?_, by simp⟩⟩
  intro same
  cases same
  exact unmapped key stands

theorem isSilent_keyUp (unmapped : ∀ key, ¬ Stands code key) : Event.IsSilent (.keyUp code) := by
  refine ⟨by simp, fun mapped key stands => ⟨by simp, ?_⟩⟩
  intro same
  cases same
  exact unmapped key stands

theorem moves_handle : Moves keypad event (input.handle keypad event).keypad := by
  cases event with
  | keyDown code =>
      simp only [Input.handle, Input.keyDown]
      by_cases escape : code = Keyboard.escapeCode
      · rw [if_pos escape]
        subst escape
        exact .silent (isSilent_keyDown fun _ => not_stands_escape)
      by_cases pause : code = Input.pauseCode
      · rw [if_neg escape, if_pos pause]
        subst pause
        exact .silent (isSilent_keyDown fun _ => not_stands_pause)
      rw [if_neg escape, if_neg pause]
      cases named : Input.keyOfCode? code with
      | none => exact .silent (isSilent_keyDown (keyOfCode?_eq_none_iff.mp named))
      | some key => exact .press (keyOfCode?_eq_some_iff.mp named)
  | keyUp code =>
      simp only [Input.handle]
      cases named : Input.keyOfCode? code with
      | none => exact .silent (isSilent_keyUp (keyOfCode?_eq_none_iff.mp named))
      | some key => exact .release (keyOfCode?_eq_some_iff.mp named)
  | quit => exact .silent isSilent_quit
  | focusLost => exact .clear
  | other => exact .silent isSilent_other

theorem handle_of_silent (silent : event.IsSilent) :
    (input.handle keypad event).keypad = keypad := by
  have moves : Moves keypad event (input.handle keypad event).keypad := moves_handle
  generalize (input.handle keypad event).keypad = after at moves
  cases moves with
  | press stands => exact absurd rfl (silent.2 _ _ stands).1
  | release stands => exact absurd rfl (silent.2 _ _ stands).2
  | clear => exact absurd rfl silent.1
  | silent => rfl

theorem input_handle : (input.handle keypad event).input =
    { quit := input.quit || decide (event = .quit ∨ event = .keyDown Keyboard.escapeCode)
      paused := input.paused ^^ decide (event = .keyDown Input.pauseCode) } := by
  cases event with
  | keyDown code =>
      simp only [Input.handle, Input.keyDown]
      by_cases escape : code = Keyboard.escapeCode
      · subst escape
        simp [Keyboard.escapeCode, Input.pauseCode]
      by_cases pause : code = Input.pauseCode
      · subst pause
        simp [Keyboard.escapeCode, Input.pauseCode]
      cases Input.keyOfCode? code <;> simp [escape, pause]
  | keyUp code => cases named : Input.keyOfCode? code <;> simp [Input.handle, named]
  | quit => simp [Input.handle]
  | focusLost => simp [Input.handle]
  | other => simp [Input.handle]

end Chip8.Window
