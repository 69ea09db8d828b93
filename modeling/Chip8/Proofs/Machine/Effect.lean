import Chip8.Proofs.Machine.Step

namespace Chip8

def Form.effect : Form → Effect
  | clearScreen | draw => .redraw
  | awaitKey => .awaitKey
  | _ => .none

theorem Form.effect_eq_redraw_iff {form : Form} :
    form.effect = .redraw ↔ form = clearScreen ∨ form = draw := by
  cases form <;> simp [effect]

theorem Form.effect_eq_awaitKey_iff {form : Form} : form.effect = .awaitKey ↔ form = awaitKey := by
  cases form <;> simp [effect]

namespace Machine

variable {machine : Machine} {instruction : Instruction}

/-- An instruction either reports the effect of its form or fails without one. -/
theorem perform_effect :
    (∃ result, (machine.perform instruction).1 = .ok result ∧
      result.effect = (Form.ofInstruction instruction).effect) ∨
    ∃ error, (machine.perform instruction).1 = .error error ∧
      (Form.ofInstruction instruction).effect = .none := by
  cases instruction with
  | returnFromCall =>
      rw [perform]
      split
      · exact Or.inr ⟨_, rfl, rfl⟩
      · split
        · exact Or.inl ⟨_, rfl, rfl⟩
        · exact Or.inr ⟨_, rfl, rfl⟩
  | call target =>
      rw [perform]
      split
      · exact Or.inr ⟨_, rfl, rfl⟩
      · split
        · exact Or.inl ⟨_, rfl, rfl⟩
        · exact Or.inr ⟨_, rfl, rfl⟩
  | readDelay x =>
      rw [perform]
      split
      · exact Or.inl ⟨_, rfl, rfl⟩
      · exact Or.inr ⟨_, rfl, rfl⟩
  | operate operation x y =>
      refine Or.inl ⟨_, rfl, ?_⟩
      cases operation <;> rfl
  | _ => exact Or.inl ⟨_, rfl, rfl⟩

theorem skipIf_display (condition : Bool) : (machine.skipIf condition).display = machine.display := by
  cases condition <;> rfl

theorem skipIf_runState (condition : Bool) :
    (machine.skipIf condition).runState = machine.runState := by
  cases condition <;> rfl

theorem perform_display (plain : (Form.ofInstruction instruction).effect ≠ .redraw) :
    (machine.perform instruction).2.display = machine.display := by
  cases instruction with
  | clearScreen | draw x y rows => exact absurd rfl plain
  | returnFromCall | call target =>
      rw [perform]
      split
      · rfl
      · split <;> rfl
  | readDelay x =>
      rw [perform]
      split <;> rfl
  | skipIfByte | skipUnlessByte | skipIfEqual | skipUnlessEqual | skipIfKey | skipUnlessKey =>
      exact skipIf_display _
  | _ => rfl

theorem perform_runState : (machine.perform instruction).2.runState =
    match instruction with
    | .awaitKey x => .awaitingKey x.toNat
    | _ => machine.runState := by
  cases instruction with
  | returnFromCall | call target =>
      rw [perform]
      split
      · rfl
      · split <;> rfl
  | readDelay x =>
      rw [perform]
      split <;> rfl
  | skipIfByte | skipUnlessByte | skipIfEqual | skipUnlessEqual | skipIfKey | skipUnlessKey =>
      exact skipIf_runState _
  | _ => rfl

theorem runState_of_form {form : Form} {word : Word} (running : machine.runState = .running) :
    (machine.perform (form.instruction word)).2.runState =
      if form = .awaitKey then .awaitingKey word.x.toNat else .running := by
  rw [perform_runState, running]
  cases form <;> rfl

theorem form_unique {form other : Form} (covers : form.Covers machine.view.word)
    (also : other.Covers machine.view.word) : form = other :=
  Form.Covers.unique (covers_nextWord.mpr covers) (covers_nextWord.mpr also)

/-- The next step executes an instruction that clears the screen or draws on it. -/
def Repaints (machine : Machine) : Prop :=
  machine.runState = .running ∧
    (Form.clearScreen.Covers machine.view.word ∨ Form.draw.Covers machine.view.word)

instance (machine : Machine) : Decidable machine.Repaints := inferInstanceAs (Decidable (_ ∧ _))

theorem repaints_iff {form : Form} (running : machine.runState = .running)
    (covers : form.Covers machine.view.word) : machine.Repaints ↔ form.effect = .redraw := by
  rw [Form.effect_eq_redraw_iff, Repaints]
  constructor
  · rintro ⟨_, clears | draws⟩
    · exact Or.inl (form_unique covers clears)
    · exact Or.inr (form_unique covers draws)
  · rintro (rfl | rfl)
    · exact ⟨running, Or.inl covers⟩
    · exact ⟨running, Or.inr covers⟩

/-- What can come of a step of a running machine, as far as its host has to know: the effect of the
form that was executed, or an error. -/
inductive Stepped (before : Machine) : Except MachineError StepResult × Machine → Prop where
  | done {form : Form} {result : StepResult} {after : Machine}
      (covers : form.Covers before.view.word) (effect : result.effect = form.effect)
      (picture : result.display = if result.effect = .redraw then some after.display else none)
      (display : form.effect ≠ .redraw → after.display = before.display)
      (runState : after.runState =
        if form = .awaitKey then .awaitingKey before.nextWord.x.toNat else .running) :
      Stepped before (.ok result, after)
  | failed {error : MachineError} {after : Machine}
      (plain : ∀ form : Form, form.Covers before.view.word → form.effect = .none)
      (display : after.display = before.display) (runState : after.runState = .running) :
      Stepped before (.error error, after)

theorem counted_eq (performed : Except MachineError StepResult × Machine) :
    ∃ count, counted performed = (performed.1, { performed.2 with instructionCount := count }) := by
  obtain ⟨answer, after⟩ := performed
  cases answer with
  | error error => exact ⟨after.instructionCount, rfl⟩
  | ok result => exact ⟨after.instructionCount + 1, rfl⟩

theorem step_stepped (running : machine.runState = .running) : Stepped machine machine.step := by
  have fetchedDisplay : machine.fetch.display = machine.display := by rw [fetch_eq]
  have fetchedState : machine.fetch.runState = .running := by rw [fetch_eq]; exact running
  by_cases covered : ∃ form : Form, form.Covers machine.view.word
  · obtain ⟨form, covers⟩ := covered
    have kind := Form.ofInstruction_instruction form machine.nextWord
    have performed := @perform_effect machine.fetch (form.instruction machine.nextWord)
    have shown := @perform_display machine.fetch (form.instruction machine.nextWord)
    have state := @runState_of_form machine.fetch form machine.nextWord fetchedState
    obtain ⟨count, stepped⟩ := counted_eq (machine.fetch.perform (form.instruction machine.nextWord))
    rw [← step_of_covers running covers] at stepped
    rw [kind] at performed
    rw [kind, fetchedDisplay] at shown
    have picture := @step_picture machine
    rw [stepped] at picture ⊢
    generalize machine.fetch.perform (form.instruction machine.nextWord) = performance at *
    obtain ⟨answer, after⟩ := performance
    rcases performed with ⟨result, same, effect⟩ | ⟨error, same, plain⟩
    · cases same
      exact .done covers effect (picture rfl) shown state
    · cases same
      refine .failed ?_ (shown (by rw [plain]; decide)) ?_
      · intro other also
        rw [form_unique also covers]
        exact plain
      · rw [if_neg (by rintro rfl; cases plain)] at state
        exact state
  · rw [step_of_uncovered running (not_exists.mp covered)]
    exact .failed (fun form covers => absurd ⟨form, covers⟩ covered) fetchedDisplay fetchedState

end Machine

end Chip8
