import AptlyGui.Services.Jobs.Lifecycle
import AptlyGui.Services.Jobs.Queue
import AptlyGui.Outline

/-!
# What a restart finds and leaves

`_recover_orphans` interrupts the jobs of the process before.  It does not look
at their steps, so a step that was open when that process ended stays open for
good; nothing else leaves one behind.
-/

namespace AptlyGui

open Coroutine (Contract)

instance (db : Database) : Decidable (AllFinished db) :=
  decidable_of_iff (∀ row ∈ db.steps.rows, row.state.unfinished = false) <| by
    constructor
    · exact fun closed id row found => closed row (Table.get?_eq_some_iff.mp found).1
    · exact fun finished row listed => finished row.id row (Table.mem_rows_iff.mp listed)

/-! ## The condition -/

def Worker.isRunning : Worker → Bool
  | .running _ => true
  | _ => false

/-- The worker is cancelled with no step open, and not in the commit that opens one. -/
def World.stopsCleanly (world : World) (op : Op) : Event → Bool
  | .cancel applied _ => decide (AllFinished world.db) && !(applied && op.addsStep)
  | _ => true

/-- The process is stopped only between two steps of a job, and no request deletes a snapshot set
while a job fills it. -/
def System.stopsBetweenSteps (system : System) (label : Label) : Bool :=
  system.spares label &&
    match label with
    | .work event => system.worker.awaits.all fun op => system.world.stopsCleanly op event
    | .crash => !system.worker.isRunning || decide (AllFinished system.world.db)
    | _ => true

/-- No job and no step is shown as still going on. -/
structure NothingRuns (db : Database) : Prop where
  jobs : ∀ id job, db.jobs.get? id = some job →
    job.state = .succeeded ∨ job.state = .failed ∨ job.state = .interrupted
  steps : AllFinished db

namespace Restart

def contract : Contract semantics where
  allowed world op event := world.stopsCleanly op event = true
  rely before after := before.Others after ∧ before.Spared after
  guarantee _ _ := True
  rely_refl := World.sparing_refl
  rely_trans := World.sparing_trans

def assignment (jobId : Nat) : Lifecycle.Assignment where
  jobId := jobId
  frame _ := True
  skips := True
  tracked := True

theorem finished_iff {jobId : Nat} {db : Database} :
    (assignment jobId).Finished db ↔ AllFinished db := by
  refine forall₃_congr fun id row found => ?_
  simp [Lifecycle.Assignment.Open, assignment]

theorem terms (jobId : Nat) : Lifecycle.Terms contract (assignment jobId) where
  others passed := passed.1
  filling passed current found owned incomplete := by
    refine passed.2 _ _ found ?_
    simp only [World.fills, owned, current, incomplete]
    simp
  free _ _ := trivial
  stops permitted := by
    have cleanly : World.stopsCleanly _ _ _ = true := permitted
    simp only [World.stopsCleanly, Bool.and_eq_true, decide_eq_true_eq] at cleanly
    refine ⟨finished_iff.mpr cleanly.1, fun applied => ?_, trivial⟩
    simpa [applied] using cleanly.2
  names _ _ _ := .inr trivial
  finds _ _ _ _ := .inr trivial
  stamps _ := .inr trivial
  passed _ _ := trivial
  worked _ _ _ := trivial

variable {self : JobRunner} {start system : System}

/-- Whenever the worker runs no job, no step is open. -/
def outline (fresh : start.Fresh) (finished : AllFinished start.world.db) :
    Outline self (fun system label => system.stopsBetweenSteps label) start where
  contract := contract
  always _ := True
  rest _ world := AllFinished world.db
  requests := fresh.requests_use
  entry := trivial
  begins := .fresh fresh finished
  relies _ _ := trivial
  guarantees _ _ := trivial
  unmoved _ _ _ _ _ := trivial
  recovers _ := trivial
  stays closed passed := by
    rw [AllFinished, passed.1.db.steps]
    exact closed
  others reached permitted external stepped := by
    simp only [System.stopsBetweenSteps, Bool.and_eq_true] at permitted
    have uses := reached.requests_use fresh.requests_use
    exact ⟨System.others_of_external uses external stepped,
      System.spared_of_external uses external permitted.1 stepped⟩
  allows _ permitted running := by
    simp only [System.stopsBetweenSteps, Bool.and_eq_true, running, Worker.awaits,
      Option.all_some] at permitted
    exact permitted.2
  takes := by
    intro system jobId waiting reached _ idle queued _ closed later passed
    obtain ⟨job, found, -⟩ := (reached.queued fresh).unstarted jobId (by simp [System.waiting, queued])
    have stored : (later.db.jobs.get? jobId).isSome = true := by
      simp [passed.1.db.jobs jobId job found]
    have still : AllFinished later.db := by
      rw [AllFinished, passed.1.db.steps]
      exact closed
    have ends : ∀ world worker, Lifecycle.Over (assignment jobId) world →
        AllFinished (world.released worker).db := by
      intro world worker closed
      rw [World.released_db]
      exact finished_iff.mp closed.finished
    exact (Lifecycle.runJob_at (terms jobId) (finished_iff.mpr still) stored trivial).mono
      (fun _ world closed => ends world .idle closed) fun error world closed => ends world _ closed
  crashes _ permitted _ rests := by
    simp only [System.stopsBetweenSteps, Bool.and_eq_true, Bool.or_eq_true, Bool.not_eq_true',
      decide_eq_true_eq] at permitted
    rcases permitted.2 with resting | closed
    · refine rests fun program running => ?_
      rw [running] at resting
      cases resting
    · exact closed
  starts _ closed := closed

/-- `_recover_orphans` leaves no job QUEUED or RUNNING. -/
theorem jobs_of_recovered (world : World) (id : Nat) (job : Job)
    (found : world.recovered.db.jobs.get? id = some job) :
    job.state = .succeeded ∨ job.state = .failed ∨ job.state = .interrupted := by
  rw [World.recovered_jobs] at found
  obtain ⟨old, -, rfl⟩ := Option.map_eq_some_iff.mp found
  by_cases active : old.state = .running ∨ old.state = .queued
  · rw [if_pos active]
    exact .inr (.inr rfl)
  · rw [if_neg active]
    change old.state = _ ∨ old.state = _ ∨ old.state = _
    cases state : old.state with
    | queued => exact absurd (.inr state) active
    | running => exact absurd (.inl state) active
    | succeeded => exact .inl rfl
    | failed => exact .inr (.inl rfl)
    | interrupted => exact .inr (.inr rfl)

end Restart

/-- A new request, or a direct call of `enqueue`. -/
def Label.arrives : Label → Bool
  | .arrive _ => true
  | _ => false

/-- The service has nothing to do. -/
structure System.Unasked (system : System) : Prop where
  worker : system.worker.isRunning = false
  requests : system.requests = []
  queue : system.world.queue = []
  nothing : NothingRuns system.world.db

theorem System.Unasked.step {self : JobRunner} {before after : System} {label : Label}
    (unasked : before.Unasked) (silent : label.arrives = false)
    (stepped : before.step self label = some after) : after.Unasked := by
  cases label with
  | arrive arrival => cases silent
  | serve index event =>
      obtain ⟨_, _, _, _, found, -⟩ := System.step_serve stepped
      simp [unasked.requests] at found
  | take =>
      obtain ⟨_, _, -, queued, -⟩ := System.step_take stepped
      rw [unasked.queue] at queued
      cases queued
  | work event =>
      obtain ⟨_, _, _, running, -⟩ := System.step_work stepped
      have resting := unasked.worker
      rw [running] at resting
      cases resting
  | drift reached =>
      cases stepped
      exact ⟨unasked.worker, unasked.requests, unasked.queue, unasked.nothing⟩
  | tick elapsed =>
      cases stepped
      exact ⟨unasked.worker, unasked.requests, unasked.queue, unasked.nothing⟩
  | crash =>
      cases stepped
      exact ⟨rfl, rfl, rfl, unasked.nothing⟩
  | start =>
      obtain ⟨-, rfl⟩ := System.step_start stepped
      exact ⟨rfl, unasked.requests, unasked.queue, Restart.jobs_of_recovered _,
        unasked.nothing.steps⟩

theorem System.Unasked.run {self : JobRunner} {labels : List Label} {before after : System}
    (unasked : before.Unasked) (silent : ∀ label ∈ labels, label.arrives = false)
    (ran : before.run self labels = some after) : after.Unasked := by
  induction labels generalizing before with
  | nil =>
      cases ran
      exact unasked
  | cons label rest inductionHypothesis =>
      obtain ⟨next, stepped, ran⟩ := Option.bind_eq_some_iff.mp ran
      exact inductionHypothesis (unasked.step (silent label (by simp)) stepped)
        (fun other listed => silent other (List.mem_cons_of_mem _ listed)) ran

/-- After a restart, and as long as nobody asks for anything, no job and no step is shown as going
on, in every history in which the process was only stopped between steps. -/
theorem restart_leaves_nothing_running {self : JobRunner} {start before after later : System}
    {labels : List Label} (fresh : start.Fresh) (finished : AllFinished start.world.db)
    (reached : System.Reachable self (fun system label => system.stopsBetweenSteps label) start
      before)
    (started : before.step self .start = some after)
    (silent : ∀ label ∈ labels, label.arrives = false)
    (ran : after.run self labels = some later) : NothingRuns later.world.db := by
  have closed := ((Restart.outline fresh finished).holds reached).worker.rests
  have queued := reached.queued fresh
  obtain ⟨down, rfl⟩ := System.step_start started
  obtain ⟨queue, requests⟩ := queued.down down
  have resting : ∀ program, before.worker ≠ .running program := by simp [down]
  have unasked : System.Unasked { before with world := before.world.recovered, worker := .idle } :=
    ⟨rfl, requests, queue, Restart.jobs_of_recovered _, closed resting⟩
  exact (unasked.run silent ran).nothing

namespace Restart

/-! ### A cancelled removal -/

def held : Aptly :=
  ⟨[⟨"a", "http://deb.example.org/debian", "stable", ["main"], ["amd64"], none⟩], [], []⟩

/-- An unmanaged mirror is to be deleted, and the worker has begun the job. -/
def begun : List Label :=
  [.start, .arrive (.web (.mirrorDelete "operator" "a")),
    .serve 0 (.cached ⟨held.mirrors, [], []⟩), .serve 0 .proceed, .serve 0 .proceed,
    .serve 0 .proceed, .take, .work .proceed, .work .proceed, .work .proceed, .work .proceed]

/-- The worker is cancelled while it waits for aptly; the `finally` block stores the job, and the
process ends. -/
def cancelledInStep : List Label :=
  begun ++ [.work .proceed, .work (.cancel false held), .work .proceed, .crash]

/-- The worker is cancelled before the step is stored. -/
def cancelledBetween : List Label :=
  begun ++ [.work (.cancel false held), .work .proceed, .crash]

end Restart

theorem not_restart_leaves_nothing_running : ¬ ∀ (self : JobRunner) (start before after : System)
    (labels : List Label), start.Fresh → AllFinished start.world.db →
    start.run self labels = some before → before.step self .start = some after →
    NothingRuns after.world.db := by
  intro claimed
  have stuck : ((System.blank .empty Restart.held).run Sample.runner Restart.cancelledInStep).any
      (fun before => (before.step Sample.runner .start).any fun after =>
        !decide (AllFinished after.world.db)) = true := by
    decide
  obtain ⟨before, ran, stuck⟩ := (Option.any_eq_true _ _).mp stuck
  obtain ⟨after, started, stuck⟩ := (Option.any_eq_true _ _).mp stuck
  simp only [Bool.not_eq_true', decide_eq_false_iff_not] at stuck
  exact stuck (claimed _ _ _ _ _ (System.blank_fresh _ _) (by decide) ran started).steps

theorem restart_leaves_nothing_running_removal : ∃ before after,
    (System.blank .empty Restart.held).runUnder Sample.runner
      (fun system label => system.stopsBetweenSteps label) Restart.cancelledBetween = some before ∧
    before.step Sample.runner .start = some after ∧ NothingRuns after.world.db := by
  have ends : ((System.blank .empty Restart.held).runUnder Sample.runner
      (fun system label => system.stopsBetweenSteps label) Restart.cancelledBetween).any
      (fun before => (before.step Sample.runner .start).isSome) = true := by
    decide
  obtain ⟨before, ran, starts⟩ := (Option.any_eq_true _ _).mp ends
  obtain ⟨after, started⟩ := Option.isSome_iff_exists.mp starts
  exact ⟨before, after, ran, started, @restart_leaves_nothing_running _ _ _ _ after []
    (System.blank_fresh _ _) (by decide) (.of_runUnder ran) started nofun rfl⟩

end AptlyGui
