/-!
# Histories

What holds now because of what happened before: something came about at a moment of a history, and
nothing has undone it since.  Both may depend on the history up to the moment in question.
-/

namespace Chip8

variable {α : Type} {Begins Ends : List α → α → Prop} {history : List α} {moment : α}

/-- At some moment of the history the first property began, and it did not end at a later one. -/
def Since (Begins Ends : List α → α → Prop) (history : List α) : Prop :=
  ∃ before moment after, history = before ++ moment :: after ∧ Begins before moment ∧
    ∀ between next rest, after = between ++ next :: rest →
      ¬ Ends (before ++ moment :: between) next

namespace Since

theorem not_nil : ¬ Since Begins Ends [] := by
  rintro ⟨before, moment, after, whole, _⟩
  simp at whole

theorem concat_iff : Since Begins Ends (history ++ [moment]) ↔
    Begins history moment ∨ Since Begins Ends history ∧ ¬ Ends history moment := by
  constructor
  · -- What began did so at the last moment, or before it and has not ended there either.
    rintro ⟨before, first, after, whole, begins, quiet⟩
    rcases List.eq_nil_or_concat after with rfl | ⟨rest, last, rfl⟩
    · obtain ⟨rfl, same⟩ := List.append_inj' whole rfl
      cases same
      exact Or.inl begins
    · rw [List.concat_eq_append, ← List.cons_append, ← List.append_assoc] at whole
      obtain ⟨rfl, same⟩ := List.append_inj' whole rfl
      cases same
      refine Or.inr ⟨⟨before, first, rest, rfl, begins, ?_⟩, ?_⟩
      · intro between next later split
        exact quiet between next (later ++ [moment]) (by simp [split])
      · exact quiet rest moment [] (by simp)
  · rintro (begins | ⟨⟨before, first, after, rfl, begins, quiet⟩, goesOn⟩)
    · exact ⟨history, moment, [], rfl, begins, by simp⟩
    · refine ⟨before, first, after ++ [moment], by simp, begins, ?_⟩
      intro between next rest split
      rcases List.eq_nil_or_concat rest with rfl | ⟨later, last, rfl⟩
      · obtain ⟨rfl, same⟩ := List.append_inj' split rfl
        cases same
        exact goesOn
      · rw [List.concat_eq_append, ← List.cons_append, ← List.append_assoc] at split
        exact quiet between next later (List.append_inj' split rfl).1

end Since

end Chip8
