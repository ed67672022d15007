import AptlyGui.Library.Coroutine

/-!
# Coroutines over two interfaces

The operations of two interfaces side by side, on one state or each on its own
component of a pair.  A coroutine of either one is a coroutine of the sum, and
what it spares there is what it spares on its own.
-/

namespace Interface

def sum (first second : Interface) : Interface where
  Op := first.Op ⊕ second.Op
  Ret := Sum.elim first.Ret second.Ret
  Exn := first.Exn ⊕ second.Exn

end Interface

namespace Coroutine

variable {I J : Interface} {α : Type}

/-- A coroutine of the first interface; its operations raise nothing of the second. -/
def left : Coroutine I α → Coroutine (I.sum J) α
  | .done value => .done value
  | .raised error => .raised (.inl error)
  | .stalled => .stalled
  | .await op resume => .await (.inl op) fun outcome =>
      match outcome with
      | .ok value => (resume (.ok value)).left
      | .error (.inl error) => (resume (.error error)).left
      | .error (.inr _) => .stalled

/-- A coroutine of the second interface; its operations raise nothing of the first. -/
def right : Coroutine J α → Coroutine (I.sum J) α
  | .done value => .done value
  | .raised error => .raised (.inr error)
  | .stalled => .stalled
  | .await op resume => .await (.inr op) fun outcome =>
      match outcome with
      | .ok value => (resume (.ok value)).right
      | .error (.inr error) => (resume (.error error)).right
      | .error (.inl _) => .stalled

theorem Uses.left {allowed : (I.sum J).Op → Prop} {program : Coroutine I α}
    (uses : program.Uses fun op => allowed (.inl op)) :
    (program.left : Coroutine (I.sum J) α).Uses allowed := by
  induction program with
  | done value => trivial
  | raised error => trivial
  | stalled => trivial
  | await op resume inductionHypothesis =>
      rw [Coroutine.left]
      refine ⟨uses.1, fun outcome => ?_⟩
      rcases outcome with (error | error) | value
      · exact inductionHypothesis (.error error) (uses.2 (.error error))
      · trivial
      · exact inductionHypothesis (.ok value) (uses.2 (.ok value))

theorem Uses.right {allowed : (I.sum J).Op → Prop} {program : Coroutine J α}
    (uses : program.Uses fun op => allowed (.inr op)) :
    (program.right : Coroutine (I.sum J) α).Uses allowed := by
  induction program with
  | done value => trivial
  | raised error => trivial
  | stalled => trivial
  | await op resume inductionHypothesis =>
      rw [Coroutine.right]
      refine ⟨uses.1, fun outcome => ?_⟩
      rcases outcome with (error | error) | value
      · trivial
      · exact inductionHypothesis (.error error) (uses.2 (.error error))
      · exact inductionHypothesis (.ok value) (uses.2 (.ok value))

theorem Returns.left {expected : α → Prop} {program : Coroutine I α}
    (returns : program.Returns expected) :
    (program.left : Coroutine (I.sum J) α).Returns expected := by
  induction program with
  | done value => exact returns
  | raised error => trivial
  | stalled => trivial
  | await op resume inductionHypothesis =>
      rw [Coroutine.left]
      intro outcome
      rcases outcome with (error | error) | value
      · exact inductionHypothesis (.error error) (returns (.error error))
      · trivial
      · exact inductionHypothesis (.ok value) (returns (.ok value))

theorem Returns.right {expected : α → Prop} {program : Coroutine J α}
    (returns : program.Returns expected) :
    (program.right : Coroutine (I.sum J) α).Returns expected := by
  induction program with
  | done value => exact returns
  | raised error => trivial
  | stalled => trivial
  | await op resume inductionHypothesis =>
      rw [Coroutine.right]
      intro outcome
      rcases outcome with (error | error) | value
      · trivial
      · exact inductionHypothesis (.error error) (returns (.error error))
      · exact inductionHypothesis (.ok value) (returns (.ok value))

theorem awaits_left {program : Coroutine I α} :
    (program.left : Coroutine (I.sum J) α).awaits = program.awaits.map .inl := by
  cases program <;> rw [Coroutine.left] <;> rfl

theorem awaits_right {program : Coroutine J α} :
    (program.right : Coroutine (I.sum J) α).awaits = program.awaits.map .inr := by
  cases program <;> rw [Coroutine.right] <;> rfl

end Coroutine

namespace Semantics

variable {I J : Interface} {S T E F : Type}

/-- Operations on the first component of a pair. -/
def onFst (sem : Semantics I S E) : Semantics I (S × T) E where
  perform op event state :=
    (sem.perform op event state.1).map fun answer => (answer.1, (answer.2, state.2))

/-- Operations on the second component of a pair. -/
def onSnd (sem : Semantics J T F) : Semantics J (S × T) F where
  perform op event state :=
    (sem.perform op event state.2).map fun answer => (answer.1, (state.1, answer.2))

def sum (first : Semantics I S E) (second : Semantics J S F) :
    Semantics (I.sum J) S (E ⊕ F) where
  perform
    | .inl op, .inl event, state =>
        (first.perform op event state).map fun answer => (answer.1.mapError .inl, answer.2)
    | .inr op, .inr event, state =>
        (second.perform op event state).map fun answer => (answer.1.mapError .inr, answer.2)
    | _, _, _ => none

/-- Performed in any state that `found` describes, the operation keeps the relation. -/
def Spares (sem : Semantics I S E) (found : S → Prop) (kept : S → S → Prop) (op : I.Op) : Prop :=
  ∀ event state outcome after, found state → sem.perform op event state = some (outcome, after) →
    kept state after

variable {found : S → Prop} {kept : S → S → Prop}

theorem Spares.onFst {sem : Semantics I S E} {op : I.Op} (spares : sem.Spares found kept op) :
    (sem.onFst (T := T)).Spares (fun state => found state.1)
      (fun before after => kept before.1 after.1 ∧ after.2 = before.2) op := by
  intro event state outcome after held performed
  obtain ⟨⟨answer, reached⟩, answered, same⟩ := Option.map_eq_some_iff.mp performed
  cases same
  exact ⟨spares event state.1 _ reached held answered, rfl⟩

theorem Spares.onSnd {sem : Semantics I S E} {op : I.Op} (spares : sem.Spares found kept op) :
    (sem.onSnd (S := T)).Spares (fun state => found state.2)
      (fun before after => kept before.2 after.2 ∧ after.1 = before.1) op := by
  intro event state outcome after held performed
  obtain ⟨⟨answer, reached⟩, answered, same⟩ := Option.map_eq_some_iff.mp performed
  cases same
  exact ⟨spares event state.2 _ reached held answered, rfl⟩

theorem Spares.inl {first : Semantics I S E} {second : Semantics J S F} {op : I.Op}
    (spares : first.Spares found kept op) : (first.sum second).Spares found kept (.inl op) := by
  intro event state outcome after held performed
  cases event with
  | inl given =>
      obtain ⟨⟨answer, reached⟩, answered, same⟩ := Option.map_eq_some_iff.mp performed
      cases same
      exact spares given state answer reached held answered
  | inr given => cases performed

theorem Spares.inr {first : Semantics I S E} {second : Semantics J S F} {op : J.Op}
    (spares : second.Spares found kept op) : (first.sum second).Spares found kept (.inr op) := by
  intro event state outcome after held performed
  cases event with
  | inl given => cases performed
  | inr given =>
      obtain ⟨⟨answer, reached⟩, answered, same⟩ := Option.map_eq_some_iff.mp performed
      cases same
      exact spares given state answer reached held answered

theorem Spares.mono {sem : Semantics I S E} {op : I.Op} {fewer : S → Prop}
    {weaker : S → S → Prop} (spares : sem.Spares found kept op)
    (narrows : ∀ state, fewer state → found state)
    (widens : ∀ before after, kept before after → weaker before after) :
    sem.Spares fewer weaker op :=
  fun event state outcome after held performed =>
    widens state after (spares event state outcome after (narrows state held) performed)

end Semantics

namespace Coroutine

variable {I J : Interface} {α β S E F : Type} {sem : Semantics I S E} {found : S → Prop}
  {kept : S → S → Prop}

/-- Whatever operation the coroutine comes to spares the relation. -/
def Keeps (sem : Semantics I S E) (found : S → Prop) (kept : S → S → Prop)
    (program : Coroutine I α) : Prop :=
  program.Uses (sem.Spares found kept)

theorem awaits_bind {program : Coroutine I α} {next : α → Coroutine I β} {op : I.Op}
    (awaited : program.awaits = some op) : (program.bind next).awaits = some op := by
  cases program with
  | await other resume => exact awaited
  | _ => cases awaited

/-- What a coroutine keeps, the operation it awaits spares. -/
theorem Keeps.spares {program : Coroutine I α} {op : I.Op} (keeps : program.Keeps sem found kept)
    (awaited : program.awaits = some op) : sem.Spares found kept op := by
  cases program with
  | await other resume =>
      cases awaited
      exact keeps.1
  | _ => cases awaited

/-- A coroutine keeps what every operation there is spares. -/
theorem keeps_of_spares (spares : ∀ op, sem.Spares found kept op) (program : Coroutine I α) :
    program.Keeps sem found kept := by
  induction program with
  | done value => trivial
  | raised error => trivial
  | stalled => trivial
  | await op resume inductionHypothesis => exact ⟨spares op, inductionHypothesis⟩

theorem Keeps.bind {program : Coroutine I α} {next : α → Coroutine I β}
    (first : program.Keeps sem found kept) (rest : ∀ value, (next value).Keeps sem found kept) :
    (program.bind next).Keeps sem found kept :=
  Uses.bind first rest

theorem Keeps.left {second : Semantics J S F} {program : Coroutine I α}
    (keeps : program.Keeps sem found kept) :
    (program.left : Coroutine (I.sum J) α).Keeps (sem.sum second) found kept :=
  Uses.left (keeps.mono fun _ => Semantics.Spares.inl)

theorem Keeps.right {first : Semantics J S F} {program : Coroutine I α}
    (keeps : program.Keeps sem found kept) :
    (program.right : Coroutine (J.sum I) α).Keeps (first.sum sem) found kept :=
  Uses.right (keeps.mono fun _ => Semantics.Spares.inr)

end Coroutine
