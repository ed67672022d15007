import AptlyGui.Library.Coroutine

/-!
# Coroutines that run alone

How a coroutine can end when no other party moves between its operations.  The
rules follow the program text, so that a run is taken apart by rewriting.
`Completes` adds that the coroutine can end at all; its rules put the runs of
the parts together again.
-/

/-- The same operations in surroundings that give only these answers. -/
def Semantics.only {I : Interface} {State Event : Type} (sem : Semantics I State Event)
    (permitted : State → I.Op → Event → Bool) : Semantics I State Event :=
  ⟨fun op event state => if permitted state op event then sem.perform op event state else none⟩

theorem Semantics.perform_only {I : Interface} {State Event : Type} {sem : Semantics I State Event}
    {permitted : State → I.Op → Event → Bool} {op : I.Op} {event : Event} {state : State}
    {result : Except I.Exn (I.Ret op) × State} :
    (sem.only permitted).perform op event state = some result ↔
      permitted state op event = true ∧ sem.perform op event state = some result := by
  simp [only]

namespace Coroutine

variable {I : Interface} {State Event : Type} {sem : Semantics I State Event} {α β : Type}

/-- Some answers of the surroundings lead to this outcome and this state. -/
def Ends (sem : Semantics I State Event) (program : Coroutine I α) (state : State)
    (outcome : Except I.Exn α) (after : State) : Prop :=
  ∃ events, program.run sem events state = some (ofExcept outcome, after)

theorem ends_of_settled {outcome reached : Except I.Exn α} {state after : State} :
    Ends sem (ofExcept outcome) state reached after ↔ reached = outcome ∧ after = state := by
  constructor
  · rintro ⟨events, ran⟩
    cases events with
    | nil =>
        cases outcome <;> cases reached <;> cases ran <;> exact ⟨rfl, rfl⟩
    | cons event rest => cases outcome <;> cases ran
  · rintro ⟨rfl, rfl⟩
    exact ⟨[], rfl⟩

@[simp]
theorem ends_done {value : α} {outcome : Except I.Exn α} {state after : State} :
    Ends sem (done value) state outcome after ↔ outcome = .ok value ∧ after = state :=
  @ends_of_settled I State Event sem α (.ok value) outcome state after

@[simp]
theorem ends_raised {error : I.Exn} {outcome : Except I.Exn α} {state after : State} :
    Ends sem (raised error) state outcome after ↔ outcome = .error error ∧ after = state :=
  @ends_of_settled I State Event sem α (.error error) outcome state after

theorem not_ends_stalled {outcome : Except I.Exn α} {state after : State} :
    ¬ Ends sem (stalled : Coroutine I α) state outcome after := by
  rintro ⟨events, ran⟩
  cases events with
  | nil => cases outcome <;> cases ran
  | cons event rest => cases ran

theorem ends_await {op : I.Op} {resume : Except I.Exn (I.Ret op) → Coroutine I α}
    {outcome : Except I.Exn α} {state after : State} :
    Ends sem (await op resume) state outcome after ↔ ∃ event answer middle,
      sem.perform op event state = some (answer, middle) ∧
        Ends sem (resume answer) middle outcome after := by
  constructor
  · rintro ⟨events, ran⟩
    cases events with
    | nil => cases outcome <;> cases ran
    | cons event rest =>
        obtain ⟨⟨next, middle⟩, stepped, ran⟩ := Option.bind_eq_some_iff.mp ran
        obtain ⟨_, _, answer, same, performed, rfl⟩ := step_eq_some stepped
        cases same
        exact ⟨event, answer, middle, performed, rest, ran⟩
  · rintro ⟨event, answer, middle, performed, rest, ran⟩
    refine ⟨event :: rest, Option.bind_eq_some_iff.mpr ⟨(resume answer, middle), ?_, ran⟩⟩
    simp [step, performed]

@[simp]
theorem ends_perform {op : I.Op} {outcome : Except I.Exn (I.Ret op)} {state after : State} :
    Ends sem (perform op) state outcome after ↔
      ∃ event, sem.perform op event state = some (outcome, after) := by
  rw [perform, ends_await]
  constructor
  · rintro ⟨event, answer, middle, performed, ended⟩
    cases answer with
    | ok value =>
        obtain ⟨rfl, rfl⟩ := ends_done.mp ended
        exact ⟨event, performed⟩
    | error error =>
        obtain ⟨rfl, rfl⟩ := ends_raised.mp ended
        exact ⟨event, performed⟩
  · rintro ⟨event, performed⟩
    refine ⟨event, outcome, after, performed, ?_⟩
    cases outcome with
    | ok value => exact ends_done.mpr ⟨rfl, rfl⟩
    | error error => exact ends_raised.mpr ⟨rfl, rfl⟩

/-- The first part returns and the rest goes on from there, or the first part raises. -/
theorem ends_bind {program : Coroutine I α} {next : α → Coroutine I β}
    {outcome : Except I.Exn β} {state after : State} :
    Ends sem (program.bind next) state outcome after ↔
      (∃ value middle, Ends sem program state (.ok value) middle ∧
        Ends sem (next value) middle outcome after) ∨
      ∃ error, outcome = .error error ∧ Ends sem program state (.error error) after := by
  induction program generalizing state with
  | done value => simp
  | raised error => simp
  | stalled => simp [bind, not_ends_stalled]
  | await op resume inductionHypothesis =>
      simp only [bind, ends_await, inductionHypothesis]
      constructor
      · rintro ⟨event, answer, middle, performed, ⟨value, later, first, rest⟩ | ⟨error, rfl, first⟩⟩
        · exact .inl ⟨value, later, ⟨event, answer, middle, performed, first⟩, rest⟩
        · exact .inr ⟨error, rfl, event, answer, middle, performed, first⟩
      · rintro (⟨value, later, ⟨event, answer, middle, performed, first⟩, rest⟩ |
          ⟨error, rfl, event, answer, middle, performed, first⟩)
        · exact ⟨event, answer, middle, performed, .inl ⟨value, later, first, rest⟩⟩
        · exact ⟨event, answer, middle, performed, .inr ⟨error, rfl, first⟩⟩

/-- A sequence returns only when both of its parts do. -/
theorem ends_bind_ok {program : Coroutine I α} {next : α → Coroutine I β} {value : β}
    {state after : State} : Ends sem (program.bind next) state (.ok value) after ↔
      ∃ first middle, Ends sem program state (.ok first) middle ∧
        Ends sem (next first) middle (.ok value) after := by
  simp [ends_bind]

@[simp]
theorem ends_attempt {program : Coroutine I α} {outcome : Except I.Exn (Except I.Exn α)}
    {state after : State} : Ends sem program.attempt state outcome after ↔
      ∃ inner, outcome = .ok inner ∧ Ends sem program state inner after := by
  induction program generalizing state with
  | done value =>
      simp only [attempt, ends_done]
      constructor
      · rintro ⟨rfl, rfl⟩
        exact ⟨_, rfl, rfl, rfl⟩
      · rintro ⟨_, rfl, rfl, rfl⟩
        exact ⟨rfl, rfl⟩
  | raised error =>
      simp only [attempt, ends_done, ends_raised]
      constructor
      · rintro ⟨rfl, rfl⟩
        exact ⟨_, rfl, rfl, rfl⟩
      · rintro ⟨_, rfl, rfl, rfl⟩
        exact ⟨rfl, rfl⟩
  | stalled => simp [attempt, not_ends_stalled]
  | await op resume inductionHypothesis =>
      simp only [attempt, ends_await, inductionHypothesis]
      constructor
      · rintro ⟨event, answer, middle, performed, inner, rfl, ended⟩
        exact ⟨inner, rfl, event, answer, middle, performed, ended⟩
      · rintro ⟨inner, rfl, event, answer, middle, performed, ended⟩
        exact ⟨event, answer, middle, performed, inner, rfl, ended⟩

/-! ## Programs that end as they should -/

/-- The value or the error that a program ended with, and the state it left, are as expected. -/
def Meets {Error : Type} (returned : α → State → Prop) (raised : Error → State → Prop)
    (outcome : Except Error α) (after : State) : Prop :=
  match outcome with
  | .ok value => returned value after
  | .error error => raised error after

/-- Every end that the answers of the surroundings lead to is an expected one. -/
def Ensures (sem : Semantics I State Event) (returned : α → State → Prop)
    (raised : I.Exn → State → Prop) (program : Coroutine I α) (state : State) : Prop :=
  ∀ outcome after, Ends sem program state outcome after → Meets returned raised outcome after

/-- Besides, some answers of the surroundings lead to an end. -/
structure Completes (sem : Semantics I State Event) (returned : α → State → Prop)
    (raised : I.Exn → State → Prop) (program : Coroutine I α) (state : State) : Prop where
  ends : ∃ outcome after, Ends sem program state outcome after
  ensures : Ensures sem returned raised program state

section Completes

variable {returned : α → State → Prop} {raised : I.Exn → State → Prop} {state : State}

theorem ensures_done {value : α} (holds : returned value state) :
    Ensures sem returned raised (.done value) state := by
  intro outcome after ended
  obtain ⟨rfl, rfl⟩ := ends_done.mp ended
  exact holds

theorem ensures_stalled : Ensures sem returned raised (.stalled : Coroutine I α) state :=
  fun _ _ ended => (not_ends_stalled ended).elim

theorem Ensures.bind {middle : α → State → Prop} {returned : β → State → Prop}
    {program : Coroutine I α} {next : α → Coroutine I β}
    (first : Ensures sem middle raised program state)
    (rest : ∀ value state, middle value state → Ensures sem returned raised (next value) state) :
    Ensures sem returned raised (program.bind next) state := by
  intro outcome after ended
  rcases ends_bind.mp ended with ⟨value, reached, began, went⟩ | ⟨error, rfl, failed⟩
  · exact rest value reached (first _ _ began) outcome after went
  · exact first _ _ failed

theorem completes_done {value : α} (holds : returned value state) :
    Completes sem returned raised (.done value) state :=
  ⟨⟨.ok value, state, ends_done.mpr ⟨rfl, rfl⟩⟩, ensures_done holds⟩

theorem completes_raised {error : I.Exn} (holds : raised error state) :
    Completes sem returned raised (.raised error : Coroutine I α) state := by
  refine ⟨⟨.error error, state, ends_raised.mpr ⟨rfl, rfl⟩⟩, fun outcome after ended => ?_⟩
  obtain ⟨rfl, rfl⟩ := ends_raised.mp ended
  exact holds

/-- One operation: there is an answer, and every answer is a good one. -/
theorem completes_perform {op : I.Op} {returned : I.Ret op → State → Prop}
    (answered : ∃ event outcome after, sem.perform op event state = some (outcome, after))
    (good : ∀ event outcome after, sem.perform op event state = some (outcome, after) →
      Meets returned raised outcome after) :
    Completes sem returned raised (perform op) state := by
  obtain ⟨event, outcome, after, performed⟩ := answered
  refine ⟨⟨outcome, after, ends_perform.mpr ⟨event, performed⟩⟩, fun outcome after ended => ?_⟩
  obtain ⟨event, performed⟩ := ends_perform.mp ended
  exact good event outcome after performed

theorem Completes.mono {returned' : α → State → Prop} {raised' : I.Exn → State → Prop}
    {program : Coroutine I α} (completes : Completes sem returned raised program state)
    (onReturn : ∀ value state, returned value state → returned' value state)
    (onRaise : ∀ error state, raised error state → raised' error state) :
    Completes sem returned' raised' program state := by
  refine ⟨completes.ends, fun outcome after ended => ?_⟩
  have met := completes.ensures outcome after ended
  cases outcome with
  | ok value => exact onReturn value after met
  | error error => exact onRaise error after met

theorem Completes.bind {middle : α → State → Prop} {returned : β → State → Prop}
    {program : Coroutine I α} {next : α → Coroutine I β}
    (first : Completes sem middle raised program state)
    (rest : ∀ value state, middle value state → Completes sem returned raised (next value) state) :
    Completes sem returned raised (program.bind next) state := by
  refine ⟨?_, first.ensures.bind fun value after met => (rest value after met).ensures⟩
  obtain ⟨outcome, reached, ended⟩ := first.ends
  have met := first.ensures outcome reached ended
  cases outcome with
  | ok value =>
      obtain ⟨later, after, went⟩ := (rest value reached met).ends
      exact ⟨later, after, ends_bind.mpr (.inl ⟨value, reached, ended, went⟩)⟩
  | error error => exact ⟨.error error, reached, ends_bind.mpr (.inr ⟨error, rfl, ended⟩)⟩

theorem Completes.attempt {returned : Except I.Exn α → State → Prop} {program : Coroutine I α}
    (completes : Completes sem (fun value => returned (.ok value))
      (fun error => returned (.error error)) program state) :
    Completes sem returned raised program.attempt state := by
  constructor
  · obtain ⟨outcome, after, ended⟩ := completes.ends
    exact ⟨.ok outcome, after, ends_attempt.mpr ⟨outcome, rfl, ended⟩⟩
  · intro outcome after ended
    obtain ⟨inner, rfl, went⟩ := ends_attempt.mp ended
    have met := completes.ensures inner after went
    cases inner <;> exact met

theorem Completes.catching {program : Coroutine I α} {handler : I.Exn → Coroutine I α}
    (completes : Completes sem returned
      (fun error => Completes sem returned raised (handler error)) program state) :
    Completes sem returned raised (program.catching handler) state := by
  have attempted : Completes sem (fun outcome after =>
      Meets returned (fun error => Completes sem returned raised (handler error)) outcome after)
      raised program.attempt state := Completes.attempt completes
  refine attempted.bind fun outcome after met => ?_
  cases outcome with
  | ok value => exact completes_done met
  | error error => exact met

theorem Completes.forEach (invariant : List β → State → Prop) {body : β → Coroutine I Unit}
    {items : List β} (entry : invariant items state)
    (turn : ∀ item rest state, invariant (item :: rest) state →
      Completes sem (fun _ => invariant rest) raised (body item) state) :
    Completes sem (fun _ => invariant []) raised (forEach items body) state := by
  induction items generalizing state with
  | nil => exact completes_done entry
  | cons item rest inductionHypothesis =>
      exact (turn item rest state entry).bind fun _ _ kept => inductionHypothesis kept

theorem Completes.foldEach {σ : Type} (invariant : List β → σ → State → Prop)
    {body : σ → β → Coroutine I σ} {items : List β} {start : σ} (entry : invariant items start state)
    (turn : ∀ item rest value state, invariant (item :: rest) value state →
      Completes sem (invariant rest) raised (body value item) state) :
    Completes sem (invariant []) raised (foldEach items start body) state := by
  induction items generalizing start state with
  | nil => exact completes_done entry
  | cons item rest inductionHypothesis =>
      exact (turn item rest start state entry).bind fun _ _ kept => inductionHypothesis kept

end Completes

end Coroutine
