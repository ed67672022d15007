import AptlyGui.Web.Frame

/-!
# Proof outlines for the running service

An `Outline` says what always holds, what holds while the worker is at rest, and
under which contract it runs a job.  Each obligation is about one kind of step; together
they hold in every reachable state of the service, whatever the requests, aptly
and the clock do in between.
-/

namespace AptlyGui

open Coroutine (Contract SafeNow Safe)

namespace System

/-- The process has not started; the database and aptly are what earlier ones left. -/
structure Fresh (system : System) : Prop where
  worker : system.worker = .down
  requests : system.requests = []
  queue : system.world.queue = []
  taken : system.world.taken = []
  currentJob : system.world.currentJob = none
  log : system.world.log = []

theorem Fresh.requests_use {system : System} (fresh : system.Fresh) :
    ∀ request ∈ system.requests, request.Uses Op.forRequest := by
  simp [fresh.requests]

theorem blank_fresh (db : Database) (aptly : Aptly) : (blank db aptly).Fresh :=
  ⟨rfl, rfl, rfl, rfl, rfl, rfl⟩

/-- The process is never stopped, neither by a crash nor by cancelling the worker. -/
def uninterrupted : Label → Bool
  | .crash | .work (.cancel _ _) => false
  | _ => true

end System

/-- The worker at rest satisfies `rest`; a job it runs keeps to the contract and ends in `rest`. -/
def HoldsAt (contract : Contract semantics) (rest : Worker → World → Prop) (system : System) :
    Prop :=
  match system.worker with
  | .running program =>
      SafeNow contract (fun _ world => rest .idle (world.released .idle))
        (fun error world =>
          rest (.resume (.raised error)) (world.released (.resume (.raised error))))
        program system.world
  | worker => rest worker system.world

structure Outline (runner : JobRunner) (condition : System → Label → Prop) (start : System) where
  contract : Contract semantics
  /-- what holds in every state -/
  always : World → Prop
  /-- what holds while the worker runs no job -/
  rest : Worker → World → Prop
  requests : ∀ request ∈ start.requests, request.Uses Op.forRequest
  entry : always start.world
  begins : HoldsAt contract rest start
  relies : ∀ {before after}, always before → contract.rely before after → always after
  guarantees : ∀ {before after}, always before → contract.guarantee before after → always after
  unmoved : ∀ {before after : World}, always before → after.db = before.db →
    after.log = before.log → after.aptly = before.aptly →
    (∀ jobId, after.currentJob = some jobId → before.currentJob = some jobId) → always after
  recovers : ∀ {world}, always world → always world.recovered
  stays : ∀ {worker before after}, rest worker before → contract.rely before after →
    rest worker after
  others : ∀ {system after label}, System.Reachable runner condition start system →
    condition system label → label.external → system.step runner label = some after →
    contract.rely system.world after.world
  allows : ∀ {system event op resume}, System.Reachable runner condition start system →
    condition system (.work event) → system.worker = .running (.await op resume) →
    contract.allowed system.world op event
  takes : ∀ {system jobId waiting}, System.Reachable runner condition start system →
    condition system .take → system.worker = .idle → system.world.queue = jobId :: waiting →
    always system.world → rest .idle system.world →
    SafeNow contract (fun _ world => rest .idle (world.released .idle))
      (fun error world => rest (.resume (.raised error)) (world.released (.resume (.raised error))))
      (runner.runJob jobId) (system.world.take jobId waiting)
  crashes : ∀ {system}, System.Reachable runner condition start system → condition system .crash →
    always system.world →
    ((∀ program, system.worker ≠ .running program) → rest system.worker system.world) →
    rest .down system.world.crashed
  starts : ∀ {world}, always world → rest .down world → rest .idle world.recovered

theorem HoldsAt.fresh {contract : Contract semantics} {rest : Worker → World → Prop}
    {system : System} (fresh : system.Fresh) (begins : rest .down system.world) :
    HoldsAt contract rest system := by
  rw [HoldsAt, fresh.worker]
  exact begins

/-- A worker that runs no job is at rest. -/
theorem HoldsAt.rests {contract : Contract semantics} {rest : Worker → World → Prop}
    {system : System} (held : HoldsAt contract rest system)
    (resting : ∀ program, system.worker ≠ .running program) : rest system.worker system.world := by
  unfold HoldsAt at held
  cases worker : system.worker with
  | running program => exact absurd worker (resting program)
  | down => simpa only [worker] using held
  | idle => simpa only [worker] using held
  | ended => simpa only [worker] using held

namespace Outline

variable {runner : JobRunner} {condition : System → Label → Prop} {start system after : System}

/-- The outline at one state. -/
structure Holds (outline : Outline runner condition start) (system : System) : Prop where
  always : outline.always system.world
  worker : HoldsAt outline.contract outline.rest system

theorem holds_of_external (outline : Outline runner condition start) {label : Label}
    (reached : System.Reachable runner condition start system) (permitted : condition system label)
    (external : label.external) (stepped : system.step runner label = some after)
    (held : outline.Holds system) : outline.Holds after := by
  have passed := outline.others reached permitted external stepped
  have same := System.worker_of_external external stepped
  refine ⟨outline.relies held.always passed, ?_⟩
  have worker := held.worker
  unfold HoldsAt at worker ⊢
  rw [same]
  cases running : system.worker with
  | running program =>
      simp only [running] at worker
      exact worker.passed passed
  | down =>
      simp only [running] at worker
      exact outline.stays worker passed
  | idle =>
      simp only [running] at worker
      exact outline.stays worker passed
  | ended =>
      simp only [running] at worker
      exact outline.stays worker passed

/-- One operation of the running job keeps to the guarantee. -/
theorem worked (outline : Outline runner condition start) {program next : Program Unit}
    {event : Event} {world : World} (reached : System.Reachable runner condition start system)
    (permitted : condition system (.work event)) (held : outline.Holds system)
    (running : system.worker = .running program)
    (progressed : program.step semantics event system.world = some (next, world)) :
    outline.contract.guarantee system.world world ∧
      SafeNow outline.contract (fun _ world => outline.rest .idle (world.released .idle))
        (fun error world =>
          outline.rest (.resume (.raised error)) (world.released (.resume (.raised error))))
        next world := by
  have worker := held.worker
  simp only [HoldsAt, running] at worker
  refine worker.step ?_ progressed
  rintro op resume rfl
  exact outline.allows reached permitted running

/-- A step of the worker keeps to the guarantee; what follows it in the step is the release of a
job that has ended. -/
theorem guaranteed (outline : Outline runner condition start) {event : Event}
    (reached : System.Reachable runner condition start system)
    (permitted : condition system (.work event))
    (stepped : system.step runner (.work event) = some after)
    (held : outline.Holds system) :
    ∃ world, outline.contract.guarantee system.world world ∧ after.world.db = world.db ∧
      after.world.aptly = world.aptly := by
  obtain ⟨program, next, world, running, progressed, rfl⟩ := System.step_work stepped
  exact ⟨world, (outline.worked reached permitted held running progressed).1,
    World.released_db _ _, World.released_aptly _ _⟩

theorem holds_of_work (outline : Outline runner condition start) {event : Event}
    (reached : System.Reachable runner condition start system)
    (permitted : condition system (.work event))
    (stepped : system.step runner (.work event) = some after)
    (held : outline.Holds system) : outline.Holds after := by
  obtain ⟨program, next, world, running, progressed, rfl⟩ := System.step_work stepped
  obtain ⟨kept, safe⟩ := outline.worked reached permitted held running progressed
  refine ⟨outline.unmoved (outline.guarantees held.always kept) (World.released_db _ _)
    (World.released_log _ _) (World.released_aptly _ _) fun _ => World.released_currentJob, ?_⟩
  cases next with
  | done value => exact safe.now
  | raised error =>
      have ends := safe.now
      simp only [Coroutine.safe_raised] at ends
      by_cases caught : error.isException = true
      · simpa [HoldsAt, Worker.resume, caught] using ends
      · simpa [HoldsAt, Worker.resume, caught] using ends
  | stalled => exact safe
  | await op resume => exact safe

theorem holds (outline : Outline runner condition start)
    (reached : System.Reachable runner condition start system) : outline.Holds system := by
  induction reached with
  | refl => exact ⟨outline.entry, outline.begins⟩
  | @step before after label earlier permitted stepped inductionHypothesis =>
      have always := inductionHypothesis.always
      have worker := inductionHypothesis.worker
      cases label with
      | arrive arrival =>
          exact outline.holds_of_external earlier permitted rfl stepped inductionHypothesis
      | serve index event =>
          exact outline.holds_of_external earlier permitted rfl stepped inductionHypothesis
      | drift reached =>
          exact outline.holds_of_external earlier permitted rfl stepped inductionHypothesis
      | tick elapsed =>
          exact outline.holds_of_external earlier permitted rfl stepped inductionHypothesis
      | work event => exact outline.holds_of_work earlier permitted stepped inductionHypothesis
      | take =>
          obtain ⟨jobId, waiting, idle, queued, rfl⟩ := System.step_take stepped
          simp only [HoldsAt, idle] at worker
          exact ⟨outline.unmoved always rfl rfl rfl fun _ same => same,
            outline.takes earlier permitted idle queued always worker⟩
      | crash =>
          cases stepped
          exact ⟨outline.unmoved always rfl rfl rfl (by simp [World.crashed]),
            outline.crashes earlier permitted always worker.rests⟩
      | start =>
          obtain ⟨down, rfl⟩ := System.step_start stepped
          simp only [HoldsAt, down] at worker
          exact ⟨outline.recovers always, outline.starts always worker⟩

end Outline

end AptlyGui
