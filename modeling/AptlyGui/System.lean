import AptlyGui.Web.Handlers

/-!
# The running service

One worker takes jobs from the queue, any number of requests are being served,
aptly and the clock move on their own, and the process may stop and start
again.  A step lets one of them perform one operation, so every interleaving of
awaits is a run of this system.
-/

namespace AptlyGui

inductive Worker where
  /-- no process is running -/
  | down
  /-- waiting in `self._queue.get()` -/
  | idle
  | running (rest : Program Unit)
  /-- the worker task has ended because it was cancelled -/
  | ended

/-- The operation the running job is waiting for. -/
def Worker.awaits : Worker → Option Op
  | .running (.await op _) => some op
  | _ => none

def Worker.isIdle : Worker → Bool
  | .idle => true
  | _ => false

theorem Worker.eq_idle {worker : Worker} (idle : worker.isIdle = true) : worker = .idle := by
  cases worker <;> first | rfl | cases idle

/-- What enters the service: a request to a handler, or a direct call of `JobRunner.enqueue`. -/
inductive Arrival where
  | web (request : WebRequest)
  | direct (type : JobType) (mirrorSetId : Option Nat) (author : String) (params : JobParams)
  deriving DecidableEq, Repr

def Arrival.program : Arrival → Program Response
  | .web request => request.handler
  | .direct type mirrorSetId author params => enqueued type mirrorSetId author params

structure System where
  world : World
  worker : Worker
  requests : List (Program Response)

inductive Label where
  | arrive (arrival : Arrival)
  | serve (index : Nat) (event : Event)
  | take
  | work (event : Event)
  | drift (after : Aptly)
  | tick (elapsed : Nat)
  | crash
  | start

/-- `_run_forever` logs what a job raises and goes on; only a cancellation ends it. -/
def Worker.resume : Program Unit → Worker
  | .done _ => .idle
  | .raised error => if error.isException then .idle else .ended
  | rest => .running rest

theorem Worker.eq_of_resume {next program : Program Unit}
    (resumed : Worker.resume next = .running program) : program = next := by
  cases next with
  | done value => cases resumed
  | raised error => cases caught : error.isException <;> simp [Worker.resume, caught] at resumed
  | stalled => exact (Worker.running.inj resumed).symm
  | await op resume => exact (Worker.running.inj resumed).symm

theorem Worker.resume_ne_down (next : Program Unit) : Worker.resume next ≠ .down := by
  cases next with
  | raised error => cases caught : error.isException <;> simp [Worker.resume, caught]
  | _ => simp [Worker.resume]

namespace World

/-- The `finally` of `_run_forever` clears `current_job_id`. -/
def released (world : World) : Worker → World
  | .running _ => world
  | _ => { world with currentJob := none }

@[simp]
theorem released_db (world : World) (worker : Worker) : (world.released worker).db = world.db := by
  cases worker <;> rfl

@[simp]
theorem released_aptly (world : World) (worker : Worker) :
    (world.released worker).aptly = world.aptly := by
  cases worker <;> rfl

@[simp]
theorem released_log (world : World) (worker : Worker) :
    (world.released worker).log = world.log := by
  cases worker <;> rfl

@[simp]
theorem released_queue (world : World) (worker : Worker) :
    (world.released worker).queue = world.queue := by
  cases worker <;> rfl

@[simp]
theorem released_taken (world : World) (worker : Worker) :
    (world.released worker).taken = world.taken := by
  cases worker <;> rfl

theorem released_currentJob {world : World} {worker : Worker} {jobId : Nat}
    (current : (world.released worker).currentJob = some jobId) : world.currentJob = some jobId := by
  cases worker <;> first | exact current | cases current

/-- `job_id = await self._queue.get()` -/
def take (world : World) (jobId : Nat) (rest : List Nat) : World :=
  { world with queue := rest, taken := jobId :: world.taken }

/-- The memory of the process is gone, the database and aptly stay. -/
def crashed (world : World) : World :=
  { world with
    queue := []
    taken := []
    currentJob := none
    nextPosition := 0
    sessionBroken := false }

/-- `_recover_orphans` -/
def recovered (world : World) : World :=
  { world with
    db := { world.db with
      jobs := world.db.jobs.map fun job =>
        if job.state = .running ∨ job.state = .queued then
          { job with
            state := .interrupted
            finishedAt := some world.clock
            error := some "Interrupted by a restart of aptly-gui" }
        else job } }

/-- `_recover_orphans` on one row. -/
theorem recovered_jobs (world : World) (id : Nat) : world.recovered.db.jobs.get? id =
    (world.db.jobs.get? id).map fun job =>
      Keyed.withId id (if job.state = .running ∨ job.state = .queued then
        { job with
          state := .interrupted
          finishedAt := some world.clock
          error := some "Interrupted by a restart of aptly-gui" }
      else job) :=
  Table.get?_map _ _ _

end World

namespace System

def step (self : JobRunner) (system : System) : Label → Option System
  | .arrive arrival =>
      match system.worker with
      | .down => none
      | _ => some { system with requests := system.requests ++ [arrival.program] }
  | .serve index event =>
      (system.requests[index]?).bind fun request =>
        (request.step semantics event system.world).map fun (next, world) =>
          { system with world := world, requests := system.requests.set index next }
  | .take =>
      match system.worker, system.world.queue with
      | .idle, jobId :: rest =>
          some { system with
            world := system.world.take jobId rest
            worker := .running (self.runJob jobId) }
      | _, _ => none
  | .work event =>
      match system.worker with
      | .running rest =>
          (rest.step semantics event system.world).map fun (next, world) =>
            { system with world := world.released (.resume next), worker := .resume next }
      | _ => none
  | .drift after => some { system with world := { system.world with aptly := after } }
  | .tick elapsed =>
      some { system with world := { system.world with clock := system.world.clock + elapsed } }
  | .crash => some { world := system.world.crashed, worker := .down, requests := [] }
  | .start =>
      match system.worker with
      | .down => some { system with world := system.world.recovered, worker := .idle }
      | _ => none

section

variable {self : JobRunner} {system after : System}

theorem step_arrive {arrival : Arrival} (stepped : system.step self (.arrive arrival) = some after) :
    system.worker ≠ .down ∧
      after = { system with requests := system.requests ++ [arrival.program] } := by
  simp only [step] at stepped
  split at stepped
  · cases stepped
  · rename_i up
    cases stepped
    exact ⟨up, rfl⟩

theorem step_serve {index : Nat} {event : Event}
    (stepped : system.step self (.serve index event) = some after) :
    ∃ op resume outcome world, system.requests[index]? = some (.await op resume) ∧
      op.perform event system.world = some (outcome, world) ∧
      after = { system with
        world := world
        requests := system.requests.set index (resume outcome) } := by
  simp only [step, Option.bind_eq_some_iff, Option.map_eq_some_iff, Prod.exists] at stepped
  obtain ⟨served, found, next, world, progressed, rfl⟩ := stepped
  obtain ⟨op, resume, outcome, rfl, performed, rfl⟩ := Coroutine.step_eq_some progressed
  exact ⟨op, resume, outcome, world, found, performed, rfl⟩

theorem step_take (stepped : system.step self .take = some after) :
    ∃ jobId rest, system.worker = .idle ∧ system.world.queue = jobId :: rest ∧
      after = { system with
        world := system.world.take jobId rest
        worker := .running (self.runJob jobId) } := by
  simp only [step] at stepped
  split at stepped
  · rename_i jobId rest idle queue
    cases stepped
    exact ⟨jobId, rest, idle, queue, rfl⟩
  · cases stepped

theorem step_work {event : Event} (stepped : system.step self (.work event) = some after) :
    ∃ program next world, system.worker = .running program ∧
      program.step semantics event system.world = some (next, world) ∧
      after = { system with
        world := world.released (.resume next)
        worker := .resume next } := by
  simp only [step] at stepped
  split at stepped
  · rename_i program running
    simp only [Option.map_eq_some_iff, Prod.exists] at stepped
    obtain ⟨next, world, progressed, rfl⟩ := stepped
    exact ⟨program, next, world, running, progressed, rfl⟩
  · cases stepped

theorem step_start (stepped : system.step self .start = some after) :
    system.worker = .down ∧
      after = { system with world := system.world.recovered, worker := .idle } := by
  simp only [step] at stepped
  split at stepped
  · rename_i down
    cases stepped
    exact ⟨down, rfl⟩
  · cases stepped

end

def run (self : JobRunner) (system : System) : List Label → Option System
  | [] => some system
  | label :: rest => (system.step self label).bind fun next => next.run self rest

/-- The check holds of the operation that the step performs, if it performs one. -/
def checked (check : World → Op → Event → Bool) (system : System) : Label → Bool
  | .serve index event =>
      ((system.requests[index]?).bind Coroutine.awaits).all fun op => check system.world op event
  | .work event => system.worker.awaits.all fun op => check system.world op event
  | _ => true

theorem checked_serve {check : World → Op → Event → Bool} {system : System} {index : Nat}
    {event : Event} {op : Op} {resume : Except Exn op.Ret → Program Response}
    (found : system.requests[index]? = some (.await op resume)) :
    system.checked check (.serve index event) = check system.world op event := by
  simp [checked, found, Coroutine.awaits]

theorem checked_work {check : World → Op → Event → Bool} {system : System} {event : Event}
    {op : Op} {resume : Except Exn op.Ret → Program Unit}
    (running : system.worker = .running (.await op resume)) :
    system.checked check (.work event) = check system.world op event := by
  simp [checked, running, Worker.awaits]

/-- The states of the runs from `start` all of whose steps meet the condition. -/
inductive Reachable (self : JobRunner) (condition : System → Label → Prop) (start : System) :
    System → Prop where
  | refl : Reachable self condition start start
  | step {before after : System} {label : Label} : Reachable self condition start before →
      condition before label → before.step self label = some after →
      Reachable self condition start after

theorem Reachable.mono {self : JobRunner} {condition weaker : System → Label → Prop}
    {start system : System} (reached : Reachable self condition start system)
    (implies : ∀ system label, condition system label → weaker system label) :
    Reachable self weaker start system := by
  induction reached with
  | refl => exact .refl
  | step _ permitted stepped inductionHypothesis =>
      exact .step inductionHypothesis (implies _ _ permitted) stepped

theorem Reachable.trans {self : JobRunner} {condition : System → Label → Prop}
    {first second third : System} (before : Reachable self condition first second)
    (after : Reachable self condition second third) : Reachable self condition first third := by
  induction after with
  | refl => exact before
  | step _ permitted stepped inductionHypothesis => exact .step inductionHypothesis permitted stepped

/-- Each step of a run leads from a state of that run to one. -/
theorem Reachable.along {self : JobRunner} {condition : System → Label → Prop}
    {start system last : System} (before : Reachable self condition start system)
    (after : Reachable self condition system last) :
    Reachable self (fun system label => condition system label ∧
      Reachable self condition start system ∧
        ∃ next, system.step self label = some next ∧ Reachable self condition next last)
      start system := by
  induction before with
  | refl => exact .refl
  | @step earlier system label passed permitted stepped inductionHypothesis =>
      have rest : Reachable self condition earlier last :=
        Reachable.trans (.step .refl permitted stepped) after
      exact .step (inductionHypothesis rest) ⟨permitted, passed, system, stepped, after⟩ stepped

/-- Run through a list of labels as long as each step meets the condition. -/
def runUnder (self : JobRunner) (condition : System → Label → Bool) (system : System) :
    List Label → Option System
  | [] => some system
  | label :: rest =>
      if condition system label then
        (system.step self label).bind fun next => next.runUnder self condition rest
      else none

theorem Reachable.of_runUnder {self : JobRunner} {condition : System → Label → Bool}
    {start system : System} {labels : List Label}
    (ran : start.runUnder self condition labels = some system) :
    Reachable self (fun system label => condition system label) start system := by
  induction labels generalizing start with
  | nil =>
      cases ran
      exact .refl
  | cons label rest inductionHypothesis =>
      rw [runUnder] at ran
      split at ran
      · rename_i permitted
        obtain ⟨next, stepped, ran⟩ := Option.bind_eq_some_iff.mp ran
        exact Reachable.trans (.step .refl permitted stepped) (inductionHypothesis ran)
      · cases ran

/-- A service that has not been started, over this database and aptly. -/
def blank (db : Database) (aptly : Aptly) : System where
  world :=
    { db := db
      aptly := aptly
      log := []
      queue := []
      taken := []
      currentJob := none
      nextPosition := 0
      sessionBroken := false
      clock := 0 }
  worker := .down
  requests := []

end System

/-! ## A small service

One mirror set of one mirror, from which the runs start that show what the
results below are about.
-/

namespace Sample

def runner : JobRunner := ⟨⟨30, 15⟩, 3⟩

def debian : MirrorSet where
  name := "debian"
  archiveUrl := "http://deb.example.org/debian"
  suites := ["stable"]
  components := ["main"]
  architectures := ["amd64"]
  keyrings := []
  filter := none
  publishPrefix := "debian"
  publishEndpoint := none
  publicUrl := none
  mirrorPattern := .suiteComponent
  signingKey := none
  adopted := true

def mirrored : Aptly :=
  ⟨[⟨"stable-main", "http://deb.example.org/debian", "stable", ["main"], ["amd64"], none⟩], [], []⟩

/-- A form for a set of mirrors named after suite and component, whatever the set is called. -/
def form (name suites : String) : SetForm where
  name := name
  archiveUrl := "http://deb.example.org/debian"
  suites := suites
  components := "main"
  architectures := "amd64"
  publishPrefix := name
  keyrings := ""
  signingKey := ""
  filter := ""
  publishEndpoint := ""
  publicUrl := ""
  mirrorPattern := Pattern.suiteComponent.text

def service : System :=
  .blank { Database.empty with mirrorSets := Database.empty.mirrorSets.insert debian } mirrored

/-- aptly starts a task for the job, which is then seen to have succeeded. -/
def task (id : Int) : List Label :=
  [.work (.reply (.task ⟨id, "task", .queued⟩) mirrored), .work .proceed,
    .work (.reply (.task ⟨id, "task", .succeeded⟩) mirrored), .work (.reply (.output "") mirrored),
    .work .proceed]

end Sample

end AptlyGui
