import Mathlib.Data.List.Basic

/-!
# What happens in order

A list of properties holds of a log in order when the log falls into
consecutive stretches that have them one after the other, and possibly more.
-/

variable {α : Type}

def InOrder : List (List α → Prop) → List α → Prop
  | [], _ => True
  | part :: rest, log => ∃ before after, log = before ++ after ∧ part before ∧ InOrder rest after

namespace InOrder

variable {parts : List (List α → Prop)} {log : List α}

@[simp]
theorem nil : InOrder [] log := trivial

/-- What is logged later does no harm. -/
theorem grown (held : InOrder parts log) (more : List α) : InOrder parts (log ++ more) := by
  induction parts generalizing log with
  | nil => trivial
  | cons part rest inductionHypothesis =>
      obtain ⟨before, after, rfl, holds, later⟩ := held
      exact ⟨before, after ++ more, List.append_assoc _ _ _, holds, inductionHypothesis later⟩

/-- One more part, in what is logged later; what was left over before it does no harm. -/
theorem concat {part : List α → Prop} {more : List α} (held : InOrder parts log)
    (late : ∀ earlier, part (earlier ++ more)) :
    InOrder (parts ++ [part]) (log ++ more) := by
  induction parts generalizing log with
  | nil => exact ⟨log ++ more, [], by simp, late log, trivial⟩
  | cons first rest inductionHypothesis =>
      obtain ⟨before, after, rfl, begins, later⟩ := held
      exact ⟨before, after ++ more, List.append_assoc _ _ _, begins, inductionHypothesis later⟩

theorem of_append {others : List (List α → Prop)} (held : InOrder (parts ++ others) log) :
    InOrder parts log := by
  induction parts generalizing log with
  | nil => trivial
  | cons first rest inductionHypothesis =>
      obtain ⟨before, after, same, begins, later⟩ := held
      exact ⟨before, after, same, begins, inductionHypothesis later⟩

end InOrder
