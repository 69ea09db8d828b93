import Chip8.Proofs.Machine.Soundness

namespace Chip8.Machine

variable {machine : Machine}

/-- The machine is about to execute an instruction of this form. -/
structure Executes (machine : Machine) (form : Form) : Prop where
  running : machine.runState = .running
  covers : form.Covers machine.view.word

instance (machine : Machine) (form : Form) : Decidable (machine.Executes form) :=
  decidable_of_iff (machine.runState = .running ∧ form.Covers machine.view.word)
    ⟨fun both => ⟨both.1, both.2⟩, fun executes => ⟨executes.running, executes.covers⟩⟩

def operand (machine : Machine) : Byte := machine.registers.get machine.nextWord.x

theorem toNat_operand :
    machine.operand.toNat = machine.view.v (slotAt (machine.view.word / 256 : Nat)) := by
  rw [operand, get_x, nextWord, toNat_readWord]

/-- Only one form of instruction changes this part of a view. -/
structure OnlyBy {α : Type} (part : View → α) (form : Form) : Prop where
  advance : ∀ view : View, part view.advance = part view
  act : ∀ other ≠ form, ∀ word address view, part (Form.act other word address view).2 = part view

theorem OnlyBy.step {α : Type} {part : View → α} {form : Form} (only : OnlyBy part form)
    (sound : machine.Sound) (other : ¬ machine.Executes form) :
    part machine.step.2.view = part machine.view := by
  cases state : machine.runState with
  | awaitingKey register => rw [step_of_awaiting state]
  | running =>
      by_cases covered : ∃ form : Form, form.Covers machine.view.word
      · obtain ⟨executed, covers⟩ := covered
        have plain : executed ≠ form := by
          rintro rfl
          exact other ⟨state, covers⟩
        have after : machine.step.2.view = _ :=
          congrArg Prod.snd (sound.step_follows state covers)
        rw [after, only.act executed plain, only.advance]
      · rw [step_of_uncovered state (not_exists.mp covered), view_fetch, only.advance]

theorem encounters_append (first second : List Request) :
    machine.encounters (first ++ second) =
      machine.encounters first ++ (machine.serveAll first).encounters second := by
  induction first generalizing machine with
  | nil => rfl
  | cons request rest ih => exact congrArg ((machine, request) :: ·) ih

theorem sound_of_encounter (sound : machine.Sound) {requests : List Request}
    {met : Machine × Request} (member : met ∈ machine.encounters requests) : met.1.Sound := by
  induction requests generalizing machine with
  | nil => cases member
  | cons request rest ih =>
      rcases List.mem_cons.mp member with rfl | later
      · exact sound
      · exact ih (sound.serve request) later

/-- The requests of a run before the first one that is met in this way, if there is one. -/
theorem exists_first (Meets : Machine × Request → Prop) (requests : List Request)
    (some : ∃ met ∈ machine.encounters requests, Meets met) :
    ∃ before request after, requests = before ++ request :: after ∧
      Meets (machine.serveAll before, request) ∧
      ∀ met ∈ machine.encounters before, ¬ Meets met := by
  induction requests generalizing machine with
  | nil =>
      obtain ⟨met, member, _⟩ := some
      cases member
  | cons request rest ih =>
      by_cases here : Meets (machine, request)
      · exact ⟨[], request, rest, rfl, here, fun met member => absurd member List.not_mem_nil⟩
      · obtain ⟨met, member, meets⟩ := some
        rcases List.mem_cons.mp member with rfl | later
        · exact absurd meets here
        · obtain ⟨before, request', after, rfl, meets, earlier⟩ := ih ⟨met, later, meets⟩
          refine ⟨request :: before, request', after, rfl, meets, ?_⟩
          intro met member
          rcases List.mem_cons.mp member with rfl | later
          · exact here
          · exact earlier met later

end Chip8.Machine
