import Mathlib.Data.List.Basic

/-!
# Loops that may fail

`List.foldlM` in `Except`: where an error comes from, and an invariant rule for
the loops that succeed.
-/

namespace List

variable {α β ε : Type} {body : β → α → Except ε β}

@[simp]
theorem foldlM_nil_except (start : β) : [].foldlM body start = .ok start := rfl

theorem foldlM_cons_except (item : α) (rest : List α) (start : β) :
    (item :: rest).foldlM body start =
      match body start item with
      | .ok next => rest.foldlM body next
      | .error error => .error error := by
  rw [List.foldlM_cons]
  cases body start item <;> rfl

/-- A loop none of whose turns changes the value leaves it as it is. -/
theorem foldlM_eq_self {items : List α} {value : β}
    (still : ∀ item ∈ items, body value item = .ok value) :
    items.foldlM body value = .ok value := by
  induction items with
  | nil => rfl
  | cons item rest inductionHypothesis =>
      rw [foldlM_cons_except, still item List.mem_cons_self]
      exact inductionHypothesis fun later listed => still later (List.mem_cons_of_mem _ listed)

/-- An error of a loop is an error of one of its turns. -/
theorem error_of_foldlM {items : List α} {start : β} {error : ε}
    (failed : items.foldlM body start = .error error) :
    ∃ item ∈ items, ∃ value, body value item = .error error := by
  induction items generalizing start with
  | nil => cases failed
  | cons item rest inductionHypothesis =>
      rw [foldlM_cons_except] at failed
      cases turn : body start item with
      | ok next =>
          rw [turn] at failed
          obtain ⟨later, listed, value, raised⟩ := inductionHypothesis failed
          exact ⟨later, List.mem_cons_of_mem _ listed, value, raised⟩
      | error other =>
          rw [turn] at failed
          cases failed
          exact ⟨item, by simp, start, turn⟩

/-- What holds at the start and is kept by every turn holds at the end; the invariant may speak
of the items already seen. -/
theorem invariant_of_foldlM {items : List α} {start last : β}
    (invariant : List α → β → Prop) (entry : invariant [] start)
    (turn : ∀ seen item value next, invariant seen value → body value item = .ok next →
      invariant (seen ++ [item]) next)
    (finished : items.foldlM body start = .ok last) : invariant items last := by
  have general : ∀ seen value, invariant seen value → ∀ rest, rest.foldlM body value = .ok last →
      invariant (seen ++ rest) last := by
    intro seen value holds rest
    induction rest generalizing seen value with
    | nil =>
        intro finished
        cases finished
        simpa using holds
    | cons item rest inductionHypothesis =>
        intro finished
        rw [foldlM_cons_except] at finished
        cases step : body value item with
        | ok next =>
            rw [step] at finished
            have kept := turn seen item value next holds step
            simpa using inductionHypothesis (seen ++ [item]) next kept finished
        | error error =>
            rw [step] at finished
            cases finished
  simpa using general [] start entry items finished

end List
