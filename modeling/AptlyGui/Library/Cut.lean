import Mathlib.Data.List.Basic

/-!
# Lists cut at a separator

One list may be cut at a separator in several ways.  Of two of them the earlier
front is a front of the later one, and a piece of the list lies in between; if
neither rear has the separator, there is only one way.
-/

namespace List

variable {α : Type*} {separator : α} {front front' rear rear' : List α}

theorem append_cons_eq_iff :
    front ++ separator :: rear = front' ++ separator :: rear' ↔
      front = front' ∧ rear = rear' ∨
        (∃ between, front' = front ++ separator :: between ∧ rear = between ++ separator :: rear') ∨
        ∃ between, front = front' ++ separator :: between ∧ rear' = between ++ separator :: rear := by
  rw [List.append_eq_append_iff]
  constructor
  · rintro (⟨more, rfl, rest⟩ | ⟨more, rfl, rest⟩)
    · cases more with
      | nil => exact .inl ⟨by simp, (List.cons.inj rest).2⟩
      | cons first between =>
          obtain ⟨rfl, later⟩ := List.cons.inj rest
          exact .inr (.inl ⟨between, rfl, later⟩)
    · cases more with
      | nil => exact .inl ⟨by simp, (List.cons.inj rest).2.symm⟩
      | cons first between =>
          obtain ⟨rfl, later⟩ := List.cons.inj rest
          exact .inr (.inr ⟨between, rfl, later⟩)
  · rintro (⟨rfl, rfl⟩ | ⟨between, rfl, rfl⟩ | ⟨between, rfl, rfl⟩)
    · exact .inl ⟨[], by simp, rfl⟩
    · exact .inl ⟨separator :: between, rfl, rfl⟩
    · exact .inr ⟨separator :: between, rfl, rfl⟩

/-- The last separator splits a list. -/
theorem append_cons_inj (rest : separator ∉ rear) (rest' : separator ∉ rear')
    (same : front ++ separator :: rear = front' ++ separator :: rear') :
    front = front' ∧ rear = rear' := by
  rcases append_cons_eq_iff.mp same with equal | ⟨between, -, rfl⟩ | ⟨between, -, rfl⟩
  · exact equal
  · exact absurd (mem_append_right between mem_cons_self) rest
  · exact absurd (mem_append_right between mem_cons_self) rest'

end List
