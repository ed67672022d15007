import AptlyGui.Library.Coroutine
import Mathlib.Logic.Relation

/-!
# Rely and guarantee for coroutines

`Safe contract returned raised program state` says what a coroutine does from
`state` on when other parties may change the state between any two of its
operations.  A contract fixes what its surroundings may answer, what the other
parties may do meanwhile (`rely`, a preorder) and what every operation of the
coroutine must keep to (`guarantee`).  The rules follow the program text:
sequencing, exceptions, loops, and one rule for programs whose operations are
harmless one by one.
-/

namespace Coroutine

structure Contract {I : Interface} {State Event : Type} (sem : Semantics I State Event) where
  allowed : State → I.Op → Event → Prop
  rely : State → State → Prop
  guarantee : State → State → Prop
  rely_refl : ∀ state, rely state state
  rely_trans : ∀ {first second third}, rely first second → rely second third → rely first third

variable {I : Interface} {State Event : Type} {sem : Semantics I State Event} {α β σ : Type}

/-- What one awaited operation may come to under the contract's answers. -/
def Contract.Commits (contract : Contract sem) (state : State) (op : I.Op)
    (outcome : Except I.Exn (I.Ret op)) (after : State) : Prop :=
  ∃ event, contract.allowed state op event ∧ sem.perform op event state = some (outcome, after)

def Safe (contract : Contract sem) (returned : α → State → Prop)
    (raised : I.Exn → State → Prop) : Coroutine I α → State → Prop
  | .done value, state => returned value state
  | .raised error, state => raised error state
  | .stalled, _ => True
  | .await op resume, state => ∀ outcome after, contract.Commits state op outcome after →
      contract.guarantee state after ∧
        ∀ later, contract.rely after later → Safe contract returned raised (resume outcome) later

variable {contract : Contract sem} {returned : α → State → Prop}
  {raised : I.Exn → State → Prop}

@[simp]
theorem safe_done (value : α) (state : State) :
    Safe contract returned raised (.done value) state ↔ returned value state := Iff.rfl

@[simp]
theorem safe_raised (error : I.Exn) (state : State) :
    Safe contract returned raised (.raised error : Coroutine I α) state ↔ raised error state :=
  Iff.rfl

@[simp]
theorem safe_stalled (state : State) :
    Safe contract returned raised (.stalled : Coroutine I α) state := trivial

/-- What has to hold after an operation: the guarantee, and the postcondition of its outcome
once the other parties have moved. -/
def Settles (contract : Contract sem) (returned : α → State → Prop)
    (raised : I.Exn → State → Prop) (before : State) (outcome : Except I.Exn α) (after : State) :
    Prop :=
  contract.guarantee before after ∧ ∀ later, contract.rely after later →
    match outcome with
    | .ok value => returned value later
    | .error error => raised error later

theorem Settles.ok {value : α} {before after : State} (kept : contract.guarantee before after)
    (holds : ∀ later, contract.rely after later → returned value later) :
    Settles contract returned raised before (.ok value) after :=
  ⟨kept, holds⟩

theorem Settles.error {error : I.Exn} {before after : State}
    (kept : contract.guarantee before after)
    (holds : ∀ later, contract.rely after later → raised error later) :
    Settles contract returned raised before (.error error) after :=
  ⟨kept, holds⟩

/-- One operation: whatever it comes to, and whatever happens before the coroutine is resumed. -/
theorem safe_perform {op : I.Op} {returned : I.Ret op → State → Prop} {state : State} :
    Safe contract returned raised (perform op) state ↔
      ∀ outcome after, contract.Commits state op outcome after →
        Settles contract returned raised state outcome after := by
  simp only [perform, Safe, Settles]
  refine forall₃_congr fun outcome after committed => ?_
  refine and_congr_right fun kept => forall₂_congr fun later passed => ?_
  cases outcome <;> exact Iff.rfl

theorem Safe.mono {returned' : α → State → Prop} {raised' : I.Exn → State → Prop}
    {program : Coroutine I α} {state : State} (safe : Safe contract returned raised program state)
    (onReturn : ∀ value state, returned value state → returned' value state)
    (onRaise : ∀ error state, raised error state → raised' error state) :
    Safe contract returned' raised' program state := by
  induction program generalizing state with
  | done value => exact onReturn value state safe
  | raised error => exact onRaise error state safe
  | stalled => trivial
  | await op resume inductionHypothesis =>
      intro outcome after committed
      obtain ⟨kept, rest⟩ := safe outcome after committed
      exact ⟨kept, fun later passed => inductionHypothesis outcome (rest later passed)⟩

theorem safe_bind {returned : β → State → Prop} {program : Coroutine I α}
    {next : α → Coroutine I β} {state : State} :
    Safe contract returned raised (program.bind next) state ↔
      Safe contract (fun value => Safe contract returned raised (next value)) raised
        program state := by
  induction program generalizing state with
  | done value => exact Iff.rfl
  | raised error => exact Iff.rfl
  | stalled => exact Iff.rfl
  | await op resume inductionHypothesis =>
      simp only [bind, Safe, inductionHypothesis]

theorem Safe.bind {middle : α → State → Prop} {returned : β → State → Prop}
    {program : Coroutine I α} {next : α → Coroutine I β} {state : State}
    (first : Safe contract middle raised program state)
    (rest : ∀ value state, middle value state → Safe contract returned raised (next value) state) :
    Safe contract returned raised (program.bind next) state :=
  safe_bind.mpr (first.mono rest fun _ _ failed => failed)

theorem safe_attempt {returned : Except I.Exn α → State → Prop} {program : Coroutine I α}
    {state : State} :
    Safe contract returned raised program.attempt state ↔
      Safe contract (fun value => returned (.ok value)) (fun error => returned (.error error))
        program state := by
  induction program generalizing state with
  | done value => exact Iff.rfl
  | raised error => exact Iff.rfl
  | stalled => exact Iff.rfl
  | await op resume inductionHypothesis =>
      simp only [attempt, Safe, inductionHypothesis]

theorem safe_catching {program : Coroutine I α} {handler : I.Exn → Coroutine I α}
    {state : State} :
    Safe contract returned raised (program.catching handler) state ↔
      Safe contract returned (fun error => Safe contract returned raised (handler error))
        program state := by
  simp only [catching, safe_bind, safe_attempt]
  exact Iff.rfl

/-- A loop keeps an invariant of the items still to come and the accumulated value. -/
theorem Safe.foldEach (invariant : List β → σ → State → Prop) {body : σ → β → Coroutine I σ}
    {items : List β} {value : σ} {state : State}
    (entry : invariant items value state)
    (turn : ∀ item rest value state, invariant (item :: rest) value state →
      Safe contract (invariant rest) raised (body value item) state) :
    Safe contract (invariant []) raised (foldEach items value body) state := by
  induction items generalizing value state with
  | nil => exact entry
  | cons item rest inductionHypothesis =>
      exact Safe.bind (turn item rest value state entry) fun next after kept =>
        inductionHypothesis kept

theorem Safe.forEach (invariant : List β → State → Prop) {body : β → Coroutine I Unit}
    {items : List β} {state : State} (entry : invariant items state)
    (turn : ∀ item rest state, invariant (item :: rest) state →
      Safe contract (fun _ => invariant rest) raised (body item) state) :
    Safe contract (fun _ => invariant []) raised (forEach items body) state :=
  Safe.foldEach (fun rest _ => invariant rest) entry
    fun item rest _ state kept => turn item rest state kept

/-- A loop whose turns each add their item to what is done. -/
theorem Safe.forEach_done (invariant : List β → State → Prop) {body : β → Coroutine I Unit}
    {items : List β} {state : State} (entry : invariant [] state)
    (turn : ∀ item ∈ items, ∀ done state, invariant done state →
      Safe contract (fun _ => invariant (item :: done)) raised (body item) state) :
    Safe contract (fun _ => invariant items.reverse) raised (Coroutine.forEach items body) state := by
  refine (Safe.forEach (fun rest after => (∀ item ∈ rest, item ∈ items) ∧
    ∃ done, items.reverse = rest.reverse ++ done ∧ invariant done after)
    ⟨fun _ => id, [], by simp, entry⟩ ?_).mono ?_ fun _ _ failed => failed
  · rintro item rest before ⟨listed, done, whole, holds⟩
    refine (turn item (listed item (by simp)) done before holds).mono
      (fun _ after kept => ⟨fun other later => listed other (by simp [later]), item :: done, ?_, kept⟩)
      fun _ _ failed => failed
    simpa using whole
  · rintro _ after ⟨-, done, whole, holds⟩
    rw [whole]
    exact holds

/-- Operations that each keep a stable invariant keep it together. -/
theorem Safe.of_uses (invariant : State → Prop) {allowed : I.Op → Prop}
    {program : Coroutine I α} {state : State} (uses : program.Uses allowed)
    (entry : invariant state)
    (stable : ∀ state later, invariant state → contract.rely state later → invariant later)
    (keeps : ∀ op state outcome after, allowed op → invariant state →
      contract.Commits state op outcome after → contract.guarantee state after ∧ invariant after) :
    Safe contract (fun _ => invariant) (fun _ => invariant) program state := by
  induction program generalizing state with
  | done value => exact entry
  | raised error => exact entry
  | stalled => trivial
  | await op resume inductionHypothesis =>
      intro outcome after committed
      obtain ⟨kept, holds⟩ := keeps op state outcome after uses.1 entry committed
      exact ⟨kept, fun later passed =>
        inductionHypothesis outcome (uses.2 outcome) (stable after later holds passed)⟩

/-- Operations that each keep a stable invariant and raise only what is expected do so together. -/
theorem Safe.of_raises (invariant : State → Prop) {allowed : I.Op → Prop}
    {expected : I.Exn → Prop} {program : Coroutine I α} {state : State}
    (uses : program.Uses allowed) (raises : program.Raises expected) (entry : invariant state)
    (stable : ∀ state later, invariant state → contract.rely state later → invariant later)
    (keeps : ∀ op state outcome after, allowed op → invariant state →
      contract.Commits state op outcome after → contract.guarantee state after ∧ invariant after ∧
        ∀ error, outcome = .error error → expected error) :
    Safe contract (fun _ => invariant) (fun error after => expected error ∧ invariant after)
      program state := by
  induction program generalizing state with
  | done value => exact entry
  | raised error => exact ⟨raises, entry⟩
  | stalled => trivial
  | await op resume inductionHypothesis =>
      intro outcome after committed
      obtain ⟨kept, holds, only⟩ := keeps op state outcome after uses.1 entry committed
      exact ⟨kept, fun later passed => inductionHypothesis outcome (uses.2 outcome)
        (raises outcome only) (stable after later holds passed)⟩

/-- Safe now and after everything the other parties may do before the next operation. -/
def SafeNow (contract : Contract sem) (returned : α → State → Prop)
    (raised : I.Exn → State → Prop) (program : Coroutine I α) (state : State) : Prop :=
  ∀ later, contract.rely state later → Safe contract returned raised program later

theorem SafeNow.now {program : Coroutine I α} {state : State}
    (safe : SafeNow contract returned raised program state) :
    Safe contract returned raised program state :=
  safe state (contract.rely_refl state)

theorem SafeNow.passed {program : Coroutine I α} {state later : State}
    (safe : SafeNow contract returned raised program state)
    (passed : contract.rely state later) : SafeNow contract returned raised program later :=
  fun final rest => safe final (contract.rely_trans passed rest)

/-- One step of a safe coroutine keeps to the guarantee and leaves it safe. -/
theorem SafeNow.step {program next : Coroutine I α} {event : Event} {state after : State}
    (safe : SafeNow contract returned raised program state)
    (permitted : ∀ op resume, program = .await op resume → contract.allowed state op event)
    (stepped : program.step sem event state = some (next, after)) :
    contract.guarantee state after ∧ SafeNow contract returned raised next after := by
  obtain ⟨op, resume, outcome, rfl, performed, rfl⟩ := step_eq_some stepped
  exact safe.now outcome after ⟨event, permitted op resume rfl, performed⟩

/-- A coroutine that runs alone stays safe, and all its steps keep to the guarantee. -/
theorem Safe.run {program last : Coroutine I α} {events : List Event} {state final : State}
    (safe : Safe contract returned raised program state)
    (permitted : ∀ event ∈ events, ∀ state op, contract.allowed state op event)
    (ran : program.run sem events state = some (last, final)) :
    Relation.ReflTransGen contract.guarantee state final ∧
      Safe contract returned raised last final := by
  induction events generalizing program state with
  | nil =>
      simp only [Coroutine.run, Option.some.injEq, Prod.mk.injEq] at ran
      obtain ⟨rfl, rfl⟩ := ran
      exact ⟨.refl, safe⟩
  | cons event rest inductionHypothesis =>
      simp only [Coroutine.run, Option.bind_eq_some_iff, Prod.exists] at ran
      obtain ⟨next, after, stepped, ran⟩ := ran
      obtain ⟨op, resume, outcome, rfl, performed, rfl⟩ := step_eq_some stepped
      obtain ⟨kept, continued⟩ := safe outcome after ⟨event, permitted event (by simp) _ _, performed⟩
      obtain ⟨path, done⟩ := inductionHypothesis (continued after (contract.rely_refl after))
        (fun other membership => permitted other (List.mem_cons_of_mem _ membership)) ran
      exact ⟨.head kept path, done⟩

end Coroutine
