import Mathlib.Data.Option.Basic

/-!
# Labelled transition systems

Runs of a partial step function whose every step meets a condition, what they
preserve, and how to run through a list of labels.
-/

/-- `step state label` is `none` when the label cannot happen in that state. -/
structure Transition (State Label : Type) where
  step : State → Label → Option State

namespace Transition

variable {State Label : Type} {system : Transition State Label}

/-- The states of the runs from `start` all of whose steps meet the condition. -/
inductive Reaches (system : Transition State Label) (condition : State → Label → Prop)
    (start : State) : State → Prop where
  | refl : Reaches system condition start start
  | step {before after : State} {label : Label} : Reaches system condition start before →
      condition before label → system.step before label = some after →
      Reaches system condition start after

variable {condition : State → Label → Prop} {start state : State}

theorem Reaches.trans {middle : State} (before : Reaches system condition start middle)
    (after : Reaches system condition middle state) : Reaches system condition start state := by
  induction after with
  | refl => exact before
  | step _ permitted stepped inductionHypothesis => exact .step inductionHypothesis permitted stepped

theorem Reaches.mono {weaker : State → Label → Prop} (reached : Reaches system condition start state)
    (implies : ∀ state label, condition state label → weaker state label) :
    Reaches system weaker start state := by
  induction reached with
  | refl => exact .refl
  | step _ permitted stepped inductionHypothesis =>
      exact .step inductionHypothesis (implies _ _ permitted) stepped

/-- What holds at the start and is kept by every permitted step holds in every state reached. -/
theorem Reaches.invariant {holds : State → Prop} (reached : Reaches system condition start state)
    (entry : holds start)
    (keeps : ∀ before label after, condition before label →
      system.step before label = some after → holds before → holds after) : holds state := by
  induction reached with
  | refl => exact entry
  | step _ permitted stepped inductionHypothesis =>
      exact keeps _ _ _ permitted stepped inductionHypothesis

/-- Run through a list of labels as long as each step meets the condition. -/
def runUnder (system : Transition State Label) (condition : State → Label → Bool) (state : State) :
    List Label → Option State
  | [] => some state
  | label :: rest =>
      if condition state label then
        (system.step state label).bind fun next => system.runUnder condition next rest
      else none

theorem Reaches.of_runUnder {condition : State → Label → Bool} {labels : List Label}
    (ran : system.runUnder condition start labels = some state) :
    Reaches system (fun state label => condition state label) start state := by
  induction labels generalizing start with
  | nil =>
      cases ran
      exact .refl
  | cons label rest inductionHypothesis =>
      rw [runUnder] at ran
      split at ran
      · rename_i permitted
        obtain ⟨next, stepped, ran⟩ := Option.bind_eq_some_iff.mp ran
        exact Reaches.trans (.step .refl permitted stepped) (inductionHypothesis ran)
      · cases ran

end Transition
