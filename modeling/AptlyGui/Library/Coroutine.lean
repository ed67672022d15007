import Mathlib.Data.List.Basic

/-!
# Coroutines

A coroutine is what is left of an `async` function: a value, an exception, or
one awaited operation together with what follows each of its outcomes.  The
type says nothing about what the operations do; a `Semantics` performs them on
a shared state, one at a time, so that other parties may run between any two.

Python's exception forms are derived from `attempt`, which turns the outcome of
a coroutine into a value.
-/

/-- The operations a coroutine may await, what each returns, and what it may raise. -/
structure Interface where
  Op : Type
  Ret : Op → Type
  Exn : Type

/-- `stalled` stands for a coroutine that is never resumed again. -/
inductive Coroutine (I : Interface) (α : Type) : Type where
  | done (value : α)
  | raised (error : I.Exn)
  | stalled
  | await (op : I.Op) (resume : Except I.Exn (I.Ret op) → Coroutine I α)

namespace Coroutine

variable {I : Interface} {α β σ : Type}

def bind (program : Coroutine I α) (next : α → Coroutine I β) : Coroutine I β :=
  match program with
  | .done value => next value
  | .raised error => .raised error
  | .stalled => .stalled
  | .await op resume => .await op fun outcome => (resume outcome).bind next

instance : Monad (Coroutine I) where
  pure := .done
  bind := bind

@[simp]
theorem pure_eq (value : α) : (pure value : Coroutine I α) = .done value := rfl

@[simp]
theorem bind_eq (program : Coroutine I α) (next : α → Coroutine I β) :
    program >>= next = program.bind next := rfl

@[simp]
theorem done_bind (value : α) (next : α → Coroutine I β) :
    (done value).bind next = next value := rfl

@[simp]
theorem raised_bind (error : I.Exn) (next : α → Coroutine I β) :
    (raised error).bind next = .raised error := rfl

theorem bind_assoc {γ : Type} (program : Coroutine I α) (first : α → Coroutine I β)
    (second : β → Coroutine I γ) :
    (program.bind first).bind second = program.bind fun value => (first value).bind second := by
  induction program with
  | done value => rfl
  | raised error => rfl
  | stalled => rfl
  | await op resume inductionHypothesis =>
      simp only [bind]
      congr 1
      funext outcome
      exact inductionHypothesis outcome

/-- Await one operation and return what it returns, or raise what it raises. -/
def perform (op : I.Op) : Coroutine I (I.Ret op) :=
  .await op fun
    | .ok value => .done value
    | .error error => .raised error

/-- Run a coroutine to its end and hand on how it ended. -/
def attempt (program : Coroutine I α) : Coroutine I (Except I.Exn α) :=
  match program with
  | .done value => .done (.ok value)
  | .raised error => .done (.error error)
  | .stalled => .stalled
  | .await op resume => .await op fun outcome => (resume outcome).attempt

/-- `try: program; except: handler`, where the handler raises again what it does not catch. -/
def catching (program : Coroutine I α) (handler : I.Exn → Coroutine I α) : Coroutine I α :=
  program.attempt.bind fun
    | .ok value => .done value
    | .error error => handler error

def ofExcept : Except I.Exn α → Coroutine I α
  | .ok value => .done value
  | .error error => .raised error

/-- A `for` loop with one accumulated value. -/
def foldEach (items : List β) (state : σ) (body : σ → β → Coroutine I σ) : Coroutine I σ :=
  match items with
  | [] => .done state
  | item :: rest => (body state item).bind fun next => foldEach rest next body

/-- A `for` loop. -/
def forEach (items : List β) (body : β → Coroutine I Unit) : Coroutine I Unit :=
  foldEach items () fun _ item => body item

theorem foldEach_append (first second : List β) (state : σ) (body : σ → β → Coroutine I σ) :
    foldEach (first ++ second) state body =
      (foldEach first state body).bind fun next => foldEach second next body := by
  induction first generalizing state with
  | nil => rfl
  | cons item rest inductionHypothesis =>
      simp only [List.cons_append, foldEach, bind_assoc]
      congr 1
      funext next
      exact inductionHypothesis next

/-- A loop in a loop runs through the items of all its parts. -/
theorem foldEach_flatMap {γ : Type} (items : List β) (parts : β → List γ) (state : σ)
    (body : σ → γ → Coroutine I σ) :
    (foldEach items state fun next item => foldEach (parts item) next body) =
      foldEach (items.flatMap parts) state body := by
  induction items generalizing state with
  | nil => rfl
  | cons item rest inductionHypothesis =>
      rw [List.flatMap_cons, foldEach_append, foldEach]
      congr 1
      funext next
      exact inductionHypothesis next

theorem foldEach_map {γ : Type} (items : List β) (change : β → γ) (state : σ)
    (body : σ → γ → Coroutine I σ) :
    (foldEach items state fun next item => body next (change item)) =
      foldEach (items.map change) state body := by
  induction items generalizing state with
  | nil => rfl
  | cons item rest inductionHypothesis =>
      rw [List.map_cons, foldEach, foldEach]
      congr 1
      funext next
      exact inductionHypothesis next

/-- The operation the coroutine is waiting for. -/
def awaits : Coroutine I α → Option I.Op
  | .await op _ => some op
  | _ => none

/-- Every operation the coroutine can ever await satisfies `allowed`. -/
def Uses (allowed : I.Op → Prop) : Coroutine I α → Prop
  | .done _ => True
  | .raised _ => True
  | .stalled => True
  | .await op resume => allowed op ∧ ∀ outcome, (resume outcome).Uses allowed

section Uses

variable {allowed : I.Op → Prop}

@[simp]
theorem uses_done (value : α) : (done value : Coroutine I α).Uses allowed := trivial

@[simp]
theorem uses_raised (error : I.Exn) : (raised error : Coroutine I α).Uses allowed := trivial

@[simp]
theorem uses_stalled : (stalled : Coroutine I α).Uses allowed := trivial

@[simp]
theorem uses_perform (op : I.Op) : (perform op).Uses allowed ↔ allowed op := by
  refine ⟨And.left, fun permitted => ⟨permitted, ?_⟩⟩
  intro outcome
  cases outcome <;> trivial

@[simp]
theorem uses_ofExcept (outcome : Except I.Exn α) : (ofExcept outcome).Uses allowed := by
  cases outcome <;> trivial

theorem Uses.bind {program : Coroutine I α} {next : α → Coroutine I β}
    (first : program.Uses allowed) (rest : ∀ value, (next value).Uses allowed) :
    (program.bind next).Uses allowed := by
  induction program with
  | done value => exact rest value
  | raised error => trivial
  | stalled => trivial
  | await op resume inductionHypothesis =>
      exact ⟨first.1, fun outcome => inductionHypothesis outcome (first.2 outcome)⟩

theorem Uses.attempt {program : Coroutine I α} (uses : program.Uses allowed) :
    program.attempt.Uses allowed := by
  induction program with
  | done value => trivial
  | raised error => trivial
  | stalled => trivial
  | await op resume inductionHypothesis =>
      exact ⟨uses.1, fun outcome => inductionHypothesis outcome (uses.2 outcome)⟩

theorem Uses.catching {program : Coroutine I α} {handler : I.Exn → Coroutine I α}
    (uses : program.Uses allowed) (handled : ∀ error, (handler error).Uses allowed) :
    (program.catching handler).Uses allowed := by
  apply Uses.bind uses.attempt
  intro outcome
  cases outcome with
  | ok value => trivial
  | error error => exact handled error

theorem Uses.foldEach {items : List β} {state : σ} {body : σ → β → Coroutine I σ}
    (uses : ∀ item ∈ items, ∀ state, (body state item).Uses allowed) :
    (foldEach items state body).Uses allowed := by
  induction items generalizing state with
  | nil => trivial
  | cons item rest inductionHypothesis =>
      apply Uses.bind (uses item (by simp) state)
      intro next
      exact inductionHypothesis fun other membership =>
        uses other (List.mem_cons_of_mem _ membership)

theorem Uses.forEach {items : List β} {body : β → Coroutine I Unit}
    (uses : ∀ item ∈ items, (body item).Uses allowed) :
    (forEach items body).Uses allowed :=
  Uses.foldEach fun item membership _ => uses item membership

theorem Uses.mono {wider : I.Op → Prop} {program : Coroutine I α}
    (uses : program.Uses allowed) (implies : ∀ op, allowed op → wider op) :
    program.Uses wider := by
  induction program with
  | done value => trivial
  | raised error => trivial
  | stalled => trivial
  | await op resume inductionHypothesis =>
      exact ⟨implies op uses.1, fun outcome => inductionHypothesis outcome (uses.2 outcome)⟩

theorem Uses.and {also : I.Op → Prop} {program : Coroutine I α} (first : program.Uses allowed)
    (second : program.Uses also) : program.Uses fun op => allowed op ∧ also op := by
  induction program with
  | done value => trivial
  | raised error => trivial
  | stalled => trivial
  | await op resume inductionHypothesis =>
      exact ⟨⟨first.1, second.1⟩,
        fun outcome => inductionHypothesis outcome (first.2 outcome) (second.2 outcome)⟩

end Uses

/-- As long as its operations raise only what is expected, so does the coroutine. -/
def Raises (expected : I.Exn → Prop) : Coroutine I α → Prop
  | .done _ => True
  | .raised error => expected error
  | .stalled => True
  | .await _ resume => ∀ outcome, (∀ error, outcome = .error error → expected error) →
      (resume outcome).Raises expected

section Raises

variable {expected : I.Exn → Prop}

theorem raises_perform (op : I.Op) : (perform op).Raises expected := by
  intro outcome only
  cases outcome with
  | ok value => trivial
  | error error => exact only error rfl

theorem Raises.bind {program : Coroutine I α} {next : α → Coroutine I β}
    (first : program.Raises expected) (rest : ∀ value, (next value).Raises expected) :
    (program.bind next).Raises expected := by
  induction program with
  | done value => exact rest value
  | raised error => exact first
  | stalled => trivial
  | await op resume inductionHypothesis =>
      intro outcome only
      exact inductionHypothesis outcome (first outcome only)

/-- What is handed to a handler is expected. -/
theorem Raises.catching {program : Coroutine I α} {handler : I.Exn → Coroutine I α}
    (first : program.Raises expected)
    (handled : ∀ error, expected error → (handler error).Raises expected) :
    (program.catching handler).Raises expected := by
  induction program with
  | done value => trivial
  | raised error => exact handled error first
  | stalled => trivial
  | await op resume inductionHypothesis =>
      intro outcome only
      exact inductionHypothesis outcome (first outcome only)

theorem Raises.foldEach {items : List β} {state : σ} {body : σ → β → Coroutine I σ}
    (raises : ∀ state item, (body state item).Raises expected) :
    (foldEach items state body).Raises expected := by
  induction items generalizing state with
  | nil => trivial
  | cons item rest inductionHypothesis =>
      apply Raises.bind (raises state item)
      intro next
      exact inductionHypothesis

theorem Raises.forEach {items : List β} {body : β → Coroutine I Unit}
    (raises : ∀ item, (body item).Raises expected) : (forEach items body).Raises expected :=
  Raises.foldEach fun _ item => raises item

end Raises

/-- Whatever the surroundings answer, what it returns is as expected. -/
def Returns (expected : α → Prop) : Coroutine I α → Prop
  | .done value => expected value
  | .raised _ => True
  | .stalled => True
  | .await _ resume => ∀ outcome, (resume outcome).Returns expected

section Returns

variable {middle : α → Prop} {expected : β → Prop}

theorem Returns.bind {program : Coroutine I α} {next : α → Coroutine I β}
    (first : program.Returns middle) (rest : ∀ value, middle value → (next value).Returns expected) :
    (program.bind next).Returns expected := by
  induction program with
  | done value => exact rest value first
  | raised error => trivial
  | stalled => trivial
  | await op resume inductionHypothesis => exact fun outcome => inductionHypothesis outcome (first outcome)

theorem returns_anything (program : Coroutine I α) : program.Returns fun _ => True := by
  induction program with
  | done value => trivial
  | raised error => trivial
  | stalled => trivial
  | await op resume inductionHypothesis => exact inductionHypothesis

/-- Only the last part of a sequence returns something. -/
theorem returns_bind {program : Coroutine I α} {next : α → Coroutine I β}
    (rest : ∀ value, (next value).Returns expected) : (program.bind next).Returns expected :=
  (returns_anything program).bind fun value _ => rest value

end Returns

end Coroutine

/-- How one awaited operation goes when the surroundings answer it with `event`; `none` when
that event is no answer to it. -/
structure Semantics (I : Interface) (State Event : Type) where
  perform : (op : I.Op) → Event → State → Option (Except I.Exn (I.Ret op) × State)

namespace Coroutine

variable {I : Interface} {State Event : Type} {α : Type}

/-- Let the awaited operation happen and resume the coroutine. -/
def step (sem : Semantics I State Event) (program : Coroutine I α) (event : Event)
    (state : State) : Option (Coroutine I α × State) :=
  match program with
  | .await op resume =>
      (sem.perform op event state).map fun (outcome, after) => (resume outcome, after)
  | _ => none

/-- Run alone through a list of events. -/
def run (sem : Semantics I State Event) (program : Coroutine I α) (events : List Event)
    (state : State) : Option (Coroutine I α × State) :=
  match events with
  | [] => some (program, state)
  | event :: rest =>
      (program.step sem event state).bind fun (next, after) => next.run sem rest after

theorem run_perform_ok {sem : Semantics I State Event} {op : I.Op} {next : I.Ret op → Coroutine I α}
    {value : I.Ret op} {event : Event} {state after : State}
    (performed : sem.perform op event state = some (.ok value, after)) :
    ((perform op).bind next).run sem [event] state = some (next value, after) := by
  simp [run, step, perform, bind, performed]

theorem run_perform_error {sem : Semantics I State Event} {op : I.Op}
    {next : I.Ret op → Coroutine I α} {error : I.Exn} {event : Event} {state after : State}
    (performed : sem.perform op event state = some (.error error, after)) :
    ((perform op).bind next).run sem [event] state = some (raised error, after) := by
  simp [run, step, perform, bind, performed]

theorem step_eq_some {sem : Semantics I State Event} {program next : Coroutine I α}
    {event : Event} {state after : State}
    (stepped : program.step sem event state = some (next, after)) :
    ∃ op resume outcome, program = .await op resume ∧
      sem.perform op event state = some (outcome, after) ∧ next = resume outcome := by
  cases program with
  | done value => simp [step] at stepped
  | raised error => simp [step] at stepped
  | stalled => simp [step] at stepped
  | await op resume =>
      simp only [step, Option.map_eq_some_iff, Prod.mk.injEq, Prod.exists] at stepped
      obtain ⟨outcome, reached, performed, rfl, rfl⟩ := stepped
      exact ⟨op, resume, outcome, rfl, performed, rfl⟩

theorem Uses.step {sem : Semantics I State Event} {program next : Coroutine I α}
    {event : Event} {state after : State} {allowed : I.Op → Prop} (uses : program.Uses allowed)
    (stepped : program.step sem event state = some (next, after)) :
    next.Uses allowed ∧ ∃ op outcome, allowed op ∧ sem.perform op event state = some (outcome, after) := by
  obtain ⟨op, resume, outcome, rfl, performed, rfl⟩ := step_eq_some stepped
  exact ⟨uses.2 outcome, op, outcome, uses.1, performed⟩

theorem Returns.step {sem : Semantics I State Event} {program next : Coroutine I α} {event : Event}
    {state after : State} {expected : α → Prop} (returns : program.Returns expected)
    (stepped : program.step sem event state = some (next, after)) : next.Returns expected := by
  obtain ⟨op, resume, outcome, rfl, -, rfl⟩ := step_eq_some stepped
  exact returns outcome

/-- What every operation keeps holds after any run. -/
theorem run_invariant {sem : Semantics I State Event} (invariant : State → Prop)
    (keeps : ∀ op event state outcome after, sem.perform op event state = some (outcome, after) →
      invariant state → invariant after)
    {program last : Coroutine I α} {events : List Event} {state final : State}
    (entry : invariant state) (ran : program.run sem events state = some (last, final)) :
    invariant final := by
  induction events generalizing program state with
  | nil =>
      cases ran
      exact entry
  | cons event rest inductionHypothesis =>
      simp only [run, Option.bind_eq_some_iff, Prod.exists] at ran
      obtain ⟨next, after, stepped, ran⟩ := ran
      obtain ⟨op, resume, outcome, rfl, performed, rfl⟩ := step_eq_some stepped
      exact inductionHypothesis (keeps op event state outcome after performed entry) ran

end Coroutine
