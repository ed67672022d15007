import AptlyGui.Library.Coroutine
import Mathlib.Data.List.Basic

/-!
# What a coroutine goes through

The operations that a coroutine awaits one after another, whatever becomes of
each, and coroutines that make their stops in the order of a plan: as far as
one gets, it has made the first stops of the plan, and all of them if it
returns.  What it does on the way is allowed at the stop made last.
-/

/-- The operations that are stops, those that make a given stop, and what else may be done before
the first stop or after a given one. -/
structure Itinerary (I : Interface) (Stop : Type) where
  counts : I.Op → Bool
  fits : Stop → I.Op → Prop
  allows : Option Stop → I.Op → Prop

/-- From here on these operations make these stops, and what they do else is allowed where it is
done. -/
inductive Itinerary.Makes {I : Interface} {Stop : Type} (route : Itinerary I Stop) :
    Option Stop → List I.Op → List Stop → Prop where
  | nil {here : Option Stop} : route.Makes here [] []
  | stop {here : Option Stop} {op : I.Op} {stop : Stop} {ops : List I.Op} {later : List Stop} :
      route.counts op = true → route.fits stop op → route.Makes (some stop) ops later →
      route.Makes here (op :: ops) (stop :: later)
  | between {here : Option Stop} {op : I.Op} {ops : List I.Op} {made : List Stop} :
      route.counts op = false → route.allows here op → route.Makes here ops made →
      route.Makes here (op :: ops) made

namespace Coroutine

variable {I : Interface} {α β σ Stop : Type}

/-- From a coroutine, through these operations, to what is left of it. -/
inductive Performs : Coroutine I α → List I.Op → Coroutine I α → Prop where
  | nil {program : Coroutine I α} : Performs program [] program
  | cons {op : I.Op} {resume : Except I.Exn (I.Ret op) → Coroutine I α}
      {outcome : Except I.Exn (I.Ret op)} {ops : List I.Op} {rest : Coroutine I α} :
      Performs (resume outcome) ops rest → Performs (.await op resume) (op :: ops) rest

/-- From here on the coroutine makes the stops of the plan, in its order. -/
def Follows (route : Itinerary I Stop) : Coroutine I α → Option Stop → List Stop → Prop
  | .done _, _, plan => plan = []
  | .raised _, _, _ => True
  | .stalled, _, _ => True
  | .await op resume, here, plan =>
      if route.counts op = true then
        ∃ stop later, plan = stop :: later ∧ route.fits stop op ∧
          ∀ outcome, Follows route (resume outcome) (some stop) later
      else route.allows here op ∧ ∀ outcome, Follows route (resume outcome) here plan

/-- Where one is after these stops. -/
def lastStop (here : Option Stop) (plan : List Stop) : Option Stop := plan.getLast?.or here

theorem lastStop_cons (here : Option Stop) (stop : Stop) (later : List Stop) :
    lastStop here (stop :: later) = lastStop (some stop) later := by
  rw [lastStop, lastStop, List.getLast?_cons]
  cases later.getLast? <;> rfl

section Follows

variable {route : Itinerary I Stop} {here : Option Stop} {program rest : Coroutine I α}
  {plan : List Stop}

@[simp]
theorem follows_done (value : α) : (done value : Coroutine I α).Follows route here [] := rfl

theorem follows_perform {op : I.Op} {stop : Stop} (counted : route.counts op = true)
    (fits : route.fits stop op) : (perform op).Follows route here [stop] := by
  rw [perform, Follows, if_pos counted]
  refine ⟨stop, [], rfl, fits, fun outcome => ?_⟩
  cases outcome with
  | ok value => exact rfl
  | error error => trivial

/-- Where nothing counts there are no stops. -/
theorem Follows.of_uses (uses : program.Uses fun op => route.counts op = false ∧ route.allows here op) :
    program.Follows route here [] := by
  induction program with
  | done value => rfl
  | raised error => trivial
  | stalled => trivial
  | await op resume inductionHypothesis =>
      rw [Follows, if_neg (by simp [uses.1.1])]
      exact ⟨uses.1.2, fun outcome => inductionHypothesis outcome (uses.2 outcome)⟩

theorem Follows.bind {next : α → Coroutine I β} {later : List Stop}
    (first : program.Follows route here plan)
    (rest : ∀ value, (next value).Follows route (lastStop here plan) later) :
    (program.bind next).Follows route here (plan ++ later) := by
  induction program generalizing here plan with
  | done value =>
      obtain rfl : plan = [] := first
      exact rest value
  | raised error => trivial
  | stalled => trivial
  | await op resume inductionHypothesis =>
      rw [Coroutine.bind, Follows]
      rw [Follows] at first
      split
      · rename_i counted
        rw [if_pos counted] at first
        obtain ⟨stop, after, rfl, fits, follows⟩ := first
        rw [lastStop_cons] at rest
        refine ⟨stop, after ++ later, rfl, fits, fun outcome => ?_⟩
        exact inductionHypothesis outcome (follows outcome) rest
      · rename_i silent
        rw [if_neg silent] at first
        obtain ⟨allowed, follows⟩ := first
        exact ⟨allowed, fun outcome => inductionHypothesis outcome (follows outcome) rest⟩

/-- What makes no stops may come first. -/
theorem Follows.skip {next : α → Coroutine I β} (silent : program.Follows route here [])
    (rest : ∀ value, (next value).Follows route here plan) :
    (program.bind next).Follows route here plan :=
  Follows.bind silent rest

/-- What makes no stops may come last. -/
theorem Follows.close {next : α → Coroutine I β} (follows : program.Follows route here plan)
    (silent : ∀ value, (next value).Follows route (lastStop here plan) []) :
    (program.bind next).Follows route here plan := by
  rw [← List.append_nil plan]
  exact Follows.bind follows silent

theorem Follows.foldEach {items : List β} {state : σ} {body : σ → β → Coroutine I σ}
    (stop : β → Stop)
    (follows : ∀ item state here, (body state item).Follows route here [stop item]) :
    (foldEach items state body).Follows route here (items.map stop) := by
  induction items generalizing state here with
  | nil => rfl
  | cons item later inductionHypothesis =>
      exact Follows.bind (follows item state here) fun _ => inductionHypothesis

theorem Follows.forEach {items : List β} {body : β → Coroutine I Unit} (stop : β → Stop)
    (follows : ∀ item here, (body item).Follows route here [stop item]) :
    (forEach items body).Follows route here (items.map stop) :=
  Follows.foldEach stop fun item _ => follows item

/-- The stops made so far are the first of the plan, and what is left follows the others. -/
theorem Follows.performs {ops : List I.Op} (follows : program.Follows route here plan)
    (performs : program.Performs ops rest) :
    ∃ made later, plan = made ++ later ∧ route.Makes here ops made ∧
      rest.Follows route (lastStop here made) later := by
  induction performs generalizing here plan with
  | nil => exact ⟨[], plan, rfl, .nil, follows⟩
  | @cons op resume outcome ops rest _ inductionHypothesis =>
      rw [Follows] at follows
      split at follows
      · rename_i counted
        obtain ⟨stop, after, rfl, fits, follows⟩ := follows
        obtain ⟨made, later, rfl, makes, ends⟩ := inductionHypothesis (follows outcome)
        rw [← lastStop_cons here] at ends
        exact ⟨stop :: made, later, rfl, .stop counted fits makes, ends⟩
      · rename_i silent
        obtain ⟨allowed, follows⟩ := follows
        obtain ⟨made, later, rfl, makes, ends⟩ := inductionHypothesis (follows outcome)
        exact ⟨made, later, rfl, .between (by simpa using silent) allowed makes, ends⟩

end Follows

end Coroutine
