import AptlyGui.Services.Jobs.Announced
import Mathlib.Algebra.Order.Field.Rat
import Mathlib.Tactic.Linarith

/-!
# How far a job has got

The figures of the overall progress bar.  A step that was skipped does not
count as done, so a CREATE job that finds some of its mirrors in aptly never
reads as finished.
-/

namespace AptlyGui

open Coroutine (Contract Safe)

namespace Job

/-- `total_steps`: the planned count, or what exists if that is more. -/
def totalSteps (job : Job) (db : Database) : Nat :=
  max (job.expectedSteps.getD 0) (db.stepsOf job.id).length

/-- `done_steps` -/
def doneSteps (job : Job) (db : Database) : Nat :=
  (db.stepsOf job.id).countP fun step => step.state = .succeeded

/-- `percent`, as a rational number. -/
def percent (job : Job) (db : Database) : ℚ :=
  if job.totalSteps db = 0 then 0
  else min 100 (100 * (job.doneSteps db : ℚ) / (job.totalSteps db : ℚ))

variable {job : Job} {db : Database}

theorem doneSteps_le_totalSteps : job.doneSteps db ≤ job.totalSteps db :=
  Nat.le_trans List.countP_le_length (Nat.le_max_right _ _)

/-- The bar is full when all steps are done and there is at least one. -/
theorem percent_eq_hundred_iff : job.percent db = 100 ↔
    job.doneSteps db = job.totalSteps db ∧ job.totalSteps db ≠ 0 := by
  have bounded := @doneSteps_le_totalSteps job db
  unfold percent
  by_cases none : job.totalSteps db = 0
  · simp [none]
  · have positive : (0 : ℚ) < (job.totalSteps db : ℚ) := by
      exact_mod_cast Nat.pos_of_ne_zero none
    have under : 100 * (job.doneSteps db : ℚ) / (job.totalSteps db : ℚ) ≤ 100 := by
      rw [div_le_iff₀ positive]
      have casted : (job.doneSteps db : ℚ) ≤ (job.totalSteps db : ℚ) := by exact_mod_cast bounded
      linarith
    rw [if_neg none, min_eq_right under, div_eq_iff positive.ne']
    constructor
    · intro full
      have same : (job.doneSteps db : ℚ) = (job.totalSteps db : ℚ) := by linarith
      exact ⟨by exact_mod_cast same, none⟩
    · rintro ⟨same, -⟩
      rw [same]

theorem totalSteps_of_announced (announced : job.expectedSteps = some (db.stepsOf job.id).length) :
    job.totalSteps db = (db.stepsOf job.id).length := by
  simp [totalSteps, announced]

/-- The figures of a job that has as many steps as announced. -/
theorem doneSteps_eq_totalSteps_iff
    (announced : job.expectedSteps = some (db.stepsOf job.id).length) :
    job.doneSteps db = job.totalSteps db ↔
      ∀ state ∈ (db.stepsOf job.id).map JobStep.state, state = .succeeded := by
  rw [totalSteps_of_announced announced, doneSteps, List.countP_eq_length]
  simp

/-- A CREATE job finds none of its mirrors in aptly. -/
def StartsAfresh (job : Job) (db : Database) (existing : List String) : Prop :=
  job.type = .create → ∀ mirrorSet ∈ job.mirrorSetIn db, ∀ name ∈ mirrorSet.expectedMirrors,
    name ∉ existing

/-- A CREATE job has mirrors to create. -/
def HasMirrors (job : Job) (db : Database) : Prop :=
  job.type = .create → ∀ mirrorSet ∈ job.mirrorSetIn db, mirrorSet.expectedMirrors ≠ []

end Job

namespace StepLog.Outcome

variable {jobId : Nat} {job : Job} {db : Database} {log : List Entry} {closed : List StepState}

/-- The steps have all gone well if and only if none was skipped. -/
theorem afresh_iff {existing : List Mirror}
    (outcome : Outcome jobId job (job.mirrorSetIn db) log closed)
    (answered : ∀ mirrors, ⟨some jobId, .listMirrors, .ok (.mirrors mirrors), true⟩ ∈ log →
      mirrors = existing) :
    (∀ state ∈ closed, state = .succeeded) ↔ job.StartsAfresh db (existing.map Mirror.name) := by
  by_cases create : job.type = .create
  · obtain ⟨mirrorSet, described, mirrors, listed, rfl⟩ := outcome.created create
    obtain rfl := answered mirrors listed
    constructor
    · intro well _ other same name expected present
      rw [described] at same
      cases same
      obtain ⟨pair, among, named⟩ := MirrorSet.mem_expectedMirrors_iff_pairs.mp expected
      have skipped := well _ (List.mem_map_of_mem among)
      rw [createMark, named, if_pos present] at skipped
      cases skipped
    · intro fresh state made
      obtain ⟨pair, among, rfl⟩ := List.mem_map.mp made
      have absent := fresh create mirrorSet described (mirrorSet.mirrorName pair.1 pair.2)
        (MirrorSet.mem_expectedMirrors_iff_pairs.mpr ⟨pair, among, rfl⟩)
      rw [createMark, if_neg absent]
  · exact ⟨fun _ other => absurd other create, fun _ => (outcome.others create).2⟩

theorem nonempty_iff (outcome : Outcome jobId job (job.mirrorSetIn db) log closed) :
    closed.length ≠ 0 ↔ job.HasMirrors db := by
  by_cases create : job.type = .create
  · obtain ⟨mirrorSet, described, mirrors, -, rfl⟩ := outcome.created create
    rw [List.length_map, MirrorSet.length_pairs, ← MirrorSet.length_expectedMirrors, Ne,
      List.length_eq_zero_iff]
    constructor
    · intro some' _ other same
      rw [described] at same
      cases same
      exact some'
    · intro mirrors
      exact mirrors create mirrorSet described
  · have some' := (outcome.others create).1
    exact ⟨fun _ other => absurd other create, fun _ => List.length_eq_zero_iff.not.mpr some'⟩

end StepLog.Outcome

namespace Progress

open StepLog (Assignment Terms Over Ready Outcome runJob_at)

/-- Nobody else moves. -/
def assignment (jobId : Nat) (job : Job) (origin : Database) : Assignment where
  jobId := jobId
  frame _ := True
  origin db := db = origin
  result := Outcome jobId job (job.mirrorSetIn origin)

def contract (jobId : Nat) (job : Job) (origin : Database) : Contract semantics where
  allowed _ _ _ := True
  rely before after := after = before
  guarantee _ after := Over (assignment jobId job origin) after
  rely_refl _ := rfl
  rely_trans before after := after.trans before

variable {jobId : Nat} {job : Job} {origin : Database}

theorem terms (stored : origin.jobs.get? jobId = some job) :
    Terms (contract jobId job origin) (assignment jobId job origin) where
  others passed := by
    rw [passed]
    exact .refl _
  keeps held := held
  passed _ _ := trivial
  worked _ _ := trivial
  stays same passed := by
    rw [passed]
    exact same
  ends first known second loaded outcome := by
    have same := (congrArg (fun db : Database => db.jobs.get? jobId) first).trans stored
    obtain rfl := Option.some.inj (same.symm.trans known)
    rw [loaded, second] at outcome
    exact outcome

/-- What a run of the job alone leaves behind. -/
theorem over_of_run {self : JobRunner} {world final : World} {events : List Event}
    {rest : Program Unit} (queued : job.state = .queued)
    (stored : world.db.jobs.get? jobId = some job) (untouched : world.Untouched jobId)
    (ran : (self.runJob jobId).run semantics events world = some (rest, final)) :
    Over (assignment jobId job world.db) final := by
  have steps : world.db.stepsOf jobId = [] := by
    simpa [Database.stepsOf, List.filter_eq_nil_iff] using untouched.steps
  have ready : Ready (assignment jobId job world.db) world :=
    ⟨trivial, rfl, steps, job, stored, queued⟩
  have agreed := terms stored
  obtain ⟨path, -⟩ := (runJob_at agreed ready).run (fun _ _ _ _ => trivial) ran
  cases path with
  | refl => exact ready.held
  | tail _ last => exact last

end Progress

/-- Of a job that has run to SUCCEEDED all steps are done if and only if it was no CREATE job or
found none of its mirrors in aptly; the bar is full unless there was no mirror to create either.
Of no job are more steps done than there are. -/
theorem finished_job_reads_finished_iff {self : JobRunner} {world final : World}
    {events : List Event} {rest : Program Unit} {jobId : Nat} {job row : Job} {existing : List Mirror}
    (queued : job.state = .queued) (stored : world.db.jobs.get? jobId = some job)
    (untouched : world.Untouched jobId)
    (ran : (self.runJob jobId).run semantics events world = some (rest, final))
    (answered : ∀ mirrors, ⟨some jobId, .listMirrors, .ok (.mirrors mirrors), true⟩ ∈ final.log →
      mirrors = existing)
    (found : final.db.jobs.get? jobId = some row) (succeeded : row.state = .succeeded) :
    (row.doneSteps final.db = row.totalSteps final.db ↔
        job.StartsAfresh world.db (existing.map Mirror.name)) ∧
      (row.percent final.db = 100 ↔
        job.StartsAfresh world.db (existing.map Mirror.name) ∧ job.HasMirrors world.db) ∧
      ∀ (other : Job) (db : Database), other.doneSteps db ≤ other.totalSteps db := by
  obtain ⟨-, logs, result⟩ := Progress.over_of_run queued stored untouched ran
  obtain rfl : row.id = jobId := Table.id_of_get? found
  have announced := ((logs.1 row found).passed succeeded).2
  have outcome := result row found succeeded
  have read : row.doneSteps final.db = row.totalSteps final.db ↔
      job.StartsAfresh world.db (existing.map Mirror.name) := by
    rw [Job.doneSteps_eq_totalSteps_iff announced]
    exact outcome.afresh_iff answered
  have counted : row.totalSteps final.db ≠ 0 ↔ job.HasMirrors world.db := by
    rw [Job.totalSteps_of_announced announced, ← List.length_map JobStep.state]
    exact outcome.nonempty_iff
  refine ⟨read, ?_, fun other db => Job.doneSteps_le_totalSteps⟩
  rw [Job.percent_eq_hundred_iff, read, counted]

namespace Progress

/-- A CREATE job on the set of one mirror. -/
def waiting : World := Sample.waiting .create none Sample.service.world

theorem waiting_untouched : waiting.Untouched 1 := by
  constructor
  · simp [waiting, Sample.waiting, Sample.service, System.blank, Database.empty, Table.empty]
  · simp [waiting, Sample.waiting, Sample.service, System.blank]

/-- aptly has the mirror already. -/
def skipping : List Event :=
  Sample.taken ++ Sample.replies Sample.mirrored [.mirrors Sample.mirrored.mirrors] ++
    List.replicate 4 .proceed

/-- aptly has no mirror yet. -/
def creating : List Event :=
  Sample.taken ++ Sample.replies Sample.mirrored [.mirrors []] ++ [.proceed, .proceed] ++
    Sample.replies Sample.mirrored (Sample.mirrored.mirrors.map Reply.mirror) ++ [.proceed, .proceed]

/-- If the entry is a list of aptly's mirrors, it is empty. -/
def listsNone (entry : Entry) : Bool :=
  match entry.request, entry.outcome with
  | .listMirrors, .ok (.mirrors mirrors) => mirrors.isEmpty
  | _, _ => true

end Progress

theorem not_finished_job_reads_finished : ¬ ∀ (self : JobRunner) (world final : World)
    (events : List Event) (rest : Program Unit) (jobId : Nat) (job row : Job),
    job.state = .queued → world.db.jobs.get? jobId = some job → world.Untouched jobId →
    (self.runJob jobId).run semantics events world = some (rest, final) →
    final.db.jobs.get? jobId = some row → row.state = .succeeded →
    row.doneSteps final.db = row.totalSteps final.db := by
  intro claimed
  have skipped : ((Sample.runner.runJob 1).run semantics Progress.skipping Progress.waiting).any
      (fun left => (left.2.db.jobs.get? 1).any fun row => decide (row.state = .succeeded) &&
        decide (row.doneSteps left.2.db = 0) && decide (row.totalSteps left.2.db = 1)) = true := by
    decide +kernel
  obtain ⟨⟨rest, final⟩, ran, ended⟩ := (Option.any_eq_true _ _).mp skipped
  obtain ⟨row, found, ended⟩ := (Option.any_eq_true _ _).mp ended
  simp only [Bool.and_eq_true, decide_eq_true_eq] at ended
  obtain ⟨⟨succeeded, done⟩, total⟩ := ended
  have same := claimed Sample.runner _ _ _ _ 1 (Sample.job 1 .create none) row rfl (by decide)
    Progress.waiting_untouched ran found succeeded
  rw [done, total] at same
  cases same

theorem finished_job_reads_finished_create : ∃ (final : World) (row : Job),
    final.db.jobs.get? 1 = some row ∧ row.state = .succeeded ∧ row.percent final.db = 100 := by
  have created : ((Sample.runner.runJob 1).run semantics Progress.creating Progress.waiting).any
      (fun left => left.2.log.all Progress.listsNone &&
        (left.2.db.jobs.get? 1).any fun row => decide (row.state = .succeeded)) = true := by
    decide +kernel
  obtain ⟨⟨rest, final⟩, ran, ended⟩ := (Option.any_eq_true _ _).mp created
  simp only [Bool.and_eq_true, List.all_eq_true, Option.any_eq_true, decide_eq_true_eq] at ended
  obtain ⟨listed, row, found, succeeded⟩ := ended
  have answered : ∀ mirrors, ⟨some 1, .listMirrors, .ok (.mirrors mirrors), true⟩ ∈ final.log →
      mirrors = [] := by
    intro mirrors among
    simpa [Progress.listsNone] using listed _ among
  have queued : (Sample.job 1 .create none).state = .queued := rfl
  have reads := finished_job_reads_finished_iff queued (by decide) Progress.waiting_untouched ran
    answered found succeeded
  refine ⟨final, row, found, succeeded, reads.2.1.mpr ⟨?_, ?_⟩⟩
  · simp [Job.StartsAfresh]
  · intro _ mirrorSet described
    obtain rfl : mirrorSet = Sample.stored := (Option.some.inj described).symm
    decide

end AptlyGui
