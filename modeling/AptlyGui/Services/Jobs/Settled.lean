import AptlyGui.Services.Jobs.Lifecycle
import AptlyGui.Services.Jobs.Queue
import AptlyGui.Outline

/-!
# Every job taken from the queue is settled

A job that the worker has taken and is no longer running has succeeded or
failed, with the time and, if it failed, the reason in its row.  Two things can
go wrong: a mirror set that is gone when the worker looks for it ends the job
without a trace, and a snapshot set that is deleted while a job fills it leaves
the job's session unable to store the failure.
-/

namespace AptlyGui

open Coroutine (Contract Safe SafeNow Uses)

/-! ## The condition -/

/-- A job that needs a mirror set finds it. -/
def World.supplies (world : World) : Op → Bool
  | .getJob .job id => (world.db.jobs.get? id).all fun job => !job.needsSet || job.mirrorSetId.isSome
  | .getMirrorSet .job id =>
      (world.currentJob.bind world.db.jobs.get?).all fun job =>
        !job.needsSet || (world.db.mirrorSets.get? id).isSome
  | _ => true

/-- The service is not stopped, the worker finds the mirror sets it needs, no request deletes a
snapshot set while a job fills it, and no two snapshot sets of a mirror set are taken at the same
microsecond. -/
def System.settles (system : System) (label : Label) : Bool :=
  uninterrupted label && system.spares label &&
    match label with
    | .work _ => system.worker.awaits.all fun op => system.world.supplies op && system.world.stamps op
    | _ => true

/-- The job was taken from the queue and is no longer running. -/
def System.HasRun (system : System) (jobId : Nat) : Prop :=
  jobId ∈ system.world.taken ∧
    ∀ program, system.worker = .running program → system.world.taken.head? ≠ some jobId

theorem Settled.of_row {before after : Database} {jobId : Nat} (settled : Settled before jobId)
    (same : after.jobs.get? jobId = before.jobs.get? jobId) : Settled after jobId := by
  obtain ⟨job, found, ended⟩ := settled
  exact ⟨job, same.trans found, ended⟩

theorem Settled.kept {before after : Database} {jobId : Nat} (settled : Settled before jobId)
    (kept : before.Kept after) : Settled after jobId := by
  obtain ⟨job, found, ended⟩ := settled
  exact ⟨job, kept.jobs jobId job found, ended⟩

/-- A restart leaves settled jobs as they are. -/
theorem Settled.recovered {world : World} {jobId : Nat} (settled : Settled world.db jobId) :
    Settled world.recovered.db jobId := by
  obtain ⟨job, found, state, ended⟩ := settled
  refine ⟨Keyed.withId jobId job, ?_, state, ended⟩
  have closed : ¬ (job.state = .running ∨ job.state = .queued) := by
    rcases state with state | state <;> simp [state]
  rw [World.recovered_jobs, found, Option.map_some, if_neg closed]

namespace Settling

def contract : Contract semantics where
  allowed world op event :=
    System.uninterrupted (.work event) = true ∧ world.supplies op = true ∧ world.stamps op = true
  rely before after := before.Others after ∧ before.Spared after
  guarantee _ _ := True
  rely_refl := World.sparing_refl
  rely_trans := World.sparing_trans

/-- All jobs taken but this one are settled. -/
def AllOther (jobId : Nat) (world : World) : Prop :=
  ∀ id ∈ world.taken, id ≠ jobId → Settled world.db id

def assignment (jobId : Nat) : Lifecycle.Assignment where
  jobId := jobId
  frame := AllOther jobId
  skips := False
  tracked := False

theorem terms (jobId : Nat) : Lifecycle.Terms contract (assignment jobId) where
  others passed := passed.1
  filling passed current found owned incomplete := by
    refine passed.2 _ _ found ?_
    simp only [World.fills, owned, current, incomplete]
    simp
  free _ _ := trivial
  stops permitted := by
    have uninterrupted := permitted.1
    simp [System.uninterrupted] at uninterrupted
  names permitted found needed := by
    have supplied := permitted.2.1
    simp only [assignment] at found supplied
    simp only [World.supplies, found, Option.all_some, needed] at supplied
    exact .inl (Option.isSome_iff_ne_none.mp (by simpa using supplied))
  finds permitted current found needed := by
    have supplied := permitted.2.1
    simp only [assignment] at found current
    simp only [World.supplies, current, Option.bind_some, found, Option.all_some, needed] at supplied
    exact .inl (by simpa using supplied)
  stamps permitted := .inl (by simpa [World.stamps] using permitted.2.2)
  passed framed passed := by
    intro id listed other
    rw [passed.1.taken] at listed
    exact (framed id listed other).kept passed.1.db
  worked framed taken same := by
    intro id listed other
    rw [taken] at listed
    exact (framed id listed other).of_row (same id other)

variable {self : JobRunner} {start system : System}

/-- The worker at rest has settled all jobs it has taken. -/
def outline (fresh : start.Fresh) :
    Outline self (fun system label => system.settles label) start where
  contract := contract
  always _ := True
  rest _ world := ∀ id ∈ world.taken, Settled world.db id
  requests := fresh.requests_use
  entry := trivial
  begins := .fresh fresh (by simp [fresh.taken])
  relies _ _ := trivial
  guarantees _ _ := trivial
  unmoved _ _ _ _ _ := trivial
  recovers _ := trivial
  stays settled passed := by
    intro id listed
    rw [passed.1.taken] at listed
    exact (settled id listed).kept passed.1.db
  others reached permitted external stepped := by
    simp only [System.settles, Bool.and_eq_true] at permitted
    have uses := reached.requests_use fresh.requests_use
    exact ⟨System.others_of_external uses external stepped,
      System.spared_of_external uses external permitted.1.2 stepped⟩
  allows _ permitted running := by
    simp only [System.settles, Bool.and_eq_true] at permitted
    refine ⟨permitted.1.1, ?_⟩
    simpa [running, Worker.awaits] using permitted.2
  takes := by
    intro system jobId waiting reached _ idle queued _ settled later passed
    obtain ⟨job, found, -⟩ := (reached.queued fresh).unstarted jobId (by simp [System.waiting, queued])
    have framed : AllOther jobId (system.world.take jobId waiting) := by
      intro id listed other
      exact settled id (List.mem_of_ne_of_mem other listed)
    have stored : (later.db.jobs.get? jobId).isSome = true := by
      simp [passed.1.db.jobs jobId job found]
    have runs : Safe contract (fun _ => Lifecycle.Over (assignment jobId))
        (fun _ => Lifecycle.Over (assignment jobId)) (self.runJob jobId) later :=
      Lifecycle.runJob_at (terms jobId)
        (fun _ _ _ opened => opened.1.elim) stored ((terms jobId).passed framed passed)
    have ends : ∀ world worker, Lifecycle.Over (assignment jobId) world →
        ∀ id ∈ (world.released worker).taken, Settled (world.released worker).db id := by
      intro world worker closed id listed
      rw [World.released_taken] at listed
      rw [World.released_db]
      by_cases same : id = jobId
      · rw [same]
        exact closed.settled.resolve_right not_false
      · exact closed.frame id listed same
    exact runs.mono (fun _ world closed => ends world .idle closed)
      fun error world closed => ends world _ closed
  crashes _ permitted _ _ := by simp [System.settles, System.uninterrupted] at permitted
  starts _ settled := fun id listed => (settled id listed).recovered

/-- While a job runs, the ones before it stay as they are. -/
theorem hasRun_of_work {before after : System} {event : Event} {jobId : Nat}
    (queued : before.Queued) (stepped : before.step self (.work event) = some after)
    (ran : after.HasRun jobId) (running : ∃ program, after.worker = .running program)
    (settled : before.HasRun jobId → Settled before.world.db jobId) :
    Settled after.world.db jobId := by
  obtain ⟨program, next, world, worker, progressed, rfl⟩ := System.step_work stepped
  obtain ⟨current, -, -, uses, -, last⟩ := queued.working program worker
  obtain ⟨-, op, outcome, own, performed⟩ := uses.step progressed
  obtain ⟨rows, -, -⟩ := Op.jobFrame own performed
  have taken := (Op.perform_frame performed).taken
  obtain ⟨rest, resumed⟩ := running
  obtain ⟨listed, past⟩ := ran
  have other := past rest resumed
  simp only [World.released_taken, taken] at listed other
  have different : jobId ≠ current := by
    rintro rfl
    exact other last
  rw [World.released_db]
  exact (settled ⟨listed, fun _ _ => other⟩).of_row (rows.others jobId different)

theorem hasRun_of_external {before after : System} {label : Label} {jobId : Nat}
    (uses : ∀ request ∈ before.requests, request.Uses Op.forRequest)
    (external : label.external = true) (stepped : before.step self label = some after)
    (ran : after.HasRun jobId) (settled : before.HasRun jobId → Settled before.world.db jobId) :
    Settled after.world.db jobId := by
  have passed := System.others_of_external uses external stepped
  have worker := System.worker_of_external external stepped
  obtain ⟨listed, past⟩ := ran
  rw [passed.taken] at listed past
  rw [worker] at past
  exact (settled ⟨listed, past⟩).kept passed.db

end Settling

/-- Every job the worker has run is settled, in every run in which it finds the mirror sets it
needs, no request deletes a snapshot set while a job fills it, and no two snapshot sets of a mirror
set are taken at the same microsecond. -/
theorem every_job_settled {self : JobRunner} {start system : System} (fresh : start.Fresh)
    (reached : System.Reachable self (fun system label => system.settles label) start system) :
    ∀ jobId, system.HasRun jobId → Settled system.world.db jobId := by
  induction reached with
  | refl =>
      rintro jobId ⟨listed, -⟩
      rw [fresh.taken] at listed
      cases listed
  | @step before after label earlier permitted stepped inductionHypothesis =>
      intro jobId ran
      have later : System.Reachable self (fun system label => system.settles label) start after :=
        .step earlier permitted stepped
      by_cases running : ∃ program, after.worker = .running program
      · have uses := earlier.requests_use fresh.requests_use
        cases label with
        | work event =>
            exact Settling.hasRun_of_work (earlier.queued fresh) stepped ran running
              (inductionHypothesis jobId)
        | arrive arrival =>
            exact Settling.hasRun_of_external uses rfl stepped ran (inductionHypothesis jobId)
        | serve index event =>
            exact Settling.hasRun_of_external uses rfl stepped ran (inductionHypothesis jobId)
        | drift reached =>
            exact Settling.hasRun_of_external uses rfl stepped ran (inductionHypothesis jobId)
        | tick elapsed =>
            exact Settling.hasRun_of_external uses rfl stepped ran (inductionHypothesis jobId)
        | take =>
            obtain ⟨taken, waiting, idle, queue, rfl⟩ := System.step_take stepped
            have other : jobId ≠ taken := by
              rintro rfl
              exact ran.2 _ rfl rfl
            have resting : ∀ program, before.worker ≠ .running program := by simp [idle]
            exact ((Settling.outline fresh).holds earlier).worker.rests resting jobId
              (List.mem_of_ne_of_mem other ran.1)
        | crash =>
            obtain ⟨program, running⟩ := running
            cases stepped
            cases running
        | start =>
            obtain ⟨program, running⟩ := running
            obtain ⟨-, rfl⟩ := System.step_start stepped
            cases running
      · exact ((Settling.outline fresh).holds later).worker.rests
          (fun program worker => running ⟨program, worker⟩) jobId ran.1

namespace Settling

/-! ### A forgotten set -/

def hosted : System := .blank .empty ⟨[], [], []⟩

/-- A set of no suites is adopted and a job on it is queued. -/
def ordered : List Label :=
  [.start, .arrive (.web (.adoptSubmit (Sample.form "debian" ","))), .serve 0 .proceed,
    .arrive (.web (.setCreateMissing "operator" 1)), .serve 1 .proceed, .serve 1 .proceed]

/-- The set is forgotten before the worker takes the job. -/
def forgotten : List Label :=
  ordered ++ [.arrive (.web (.setDelete "operator" 1 "keep")), .serve 2 .proceed, .serve 2 .proceed,
    .serve 2 .proceed, .take, .work .proceed, .work .proceed, .work .proceed]

/-- The worker carries the job out. -/
def carriedOut : List Label :=
  ordered ++ [.take, .work .proceed, .work .proceed, .work .proceed, .work .proceed,
    .work (.reply (.mirrors []) ⟨[], [], []⟩), .work .proceed]

end Settling

theorem not_every_job_settled : ¬ ∀ (self : JobRunner) (start system : System)
    (labels : List Label), start.Fresh → (∀ label ∈ labels, System.uninterrupted label = true) →
    start.run self labels = some system →
    ∀ jobId, system.HasRun jobId → Settled system.world.db jobId := by
  intro claimed
  have lost : (Settling.hosted.run Sample.runner Settling.forgotten).any (fun system =>
      system.worker.isIdle && decide (1 ∈ system.world.taken) &&
        (system.world.db.jobs.get? 1).any fun job => decide (job.state = .queued)) = true := by
    decide
  obtain ⟨system, ran, lost⟩ := (Option.any_eq_true _ _).mp lost
  simp only [Bool.and_eq_true, decide_eq_true_eq, Option.any_eq_true] at lost
  obtain ⟨⟨idle, taken⟩, job, found, queued⟩ := lost
  have resting := Worker.eq_idle idle
  obtain ⟨settled, known, state, -⟩ := claimed _ _ _ _ (System.blank_fresh _ _) (by decide) ran 1
    ⟨taken, fun program running => by simp [resting] at running⟩
  rw [found] at known
  cases known
  simp [queued] at state

theorem every_job_settled_create : ∃ system,
    Settling.hosted.runUnder Sample.runner (fun system label => system.settles label)
      Settling.carriedOut = some system ∧ system.HasRun 1 ∧ Settled system.world.db 1 := by
  have ends : (Settling.hosted.runUnder Sample.runner (fun system label => system.settles label)
      Settling.carriedOut).any (fun system =>
        system.worker.isIdle && decide (1 ∈ system.world.taken)) = true := by
    decide
  obtain ⟨system, ran, idle⟩ := (Option.any_eq_true _ _).mp ends
  simp only [Bool.and_eq_true, decide_eq_true_eq] at idle
  have resting := Worker.eq_idle idle.1
  have ran1 : system.HasRun 1 := ⟨idle.2, fun program running => by simp [resting] at running⟩
  exact ⟨system, ran, ran1, every_job_settled (System.blank_fresh _ _) (.of_runUnder ran) 1 ran1⟩

end AptlyGui
