import AptlyGui.Services.Jobs.Frame
import AptlyGui.Services.Jobs.Sources
import AptlyGui.Database.Commit
import AptlyGui.Rules

/-!
# The life of a job

From the moment the worker begins a job to the end of its epilogue: which step
of the step log is open, that no commit of the session is refused, and that
every way out of the job closes its steps and settles its row.  The proof holds
for any contract that keeps the rows the job works on, and lets the worker be
cancelled only between steps.
-/

namespace AptlyGui

open Coroutine (Contract Safe Settles Uses forEach foldEach)

def StepState.unfinished : StepState → Bool
  | .pending | .running => true
  | .succeeded | .failed | .skipped => false

/-- No step is shown as still going on. -/
def AllFinished (db : Database) : Prop :=
  ∀ id row, db.steps.get? id = some row → row.state.unfinished = false

/-- The row says how the job ended, when, and why if it failed. -/
def Settled (db : Database) (jobId : Nat) : Prop :=
  ∃ job, db.jobs.get? jobId = some job ∧ (job.state = .succeeded ∨ job.state = .failed) ∧
    job.finishedAt.isSome = true ∧
    (job.state = .failed → ∃ error, job.error = some error ∧ error ≠ "")

def Op.addsStep : Op → Bool
  | .commit _ writes => writes.any fun
    | .addStep _ => true
    | _ => false
  | _ => false

/-- The snapshot set about to be stored gets a time of its own. -/
def World.stamps (world : World) : Op → Bool
  | .commit .job [.addSnapshotSet row] => !world.db.takenTwice world.clock row.mirrorSetId
  | _ => true

namespace Lifecycle

/-- The job a worker has been given.  `frame` is any property of the rows of other jobs, `skips`
allows the job to end without being settled, and `tracked` says whether the step log matters. -/
structure Assignment where
  jobId : Nat
  frame : World → Prop
  skips : Prop
  tracked : Prop

namespace Assignment

/-- The step is shown as still going on. -/
def Open (given : Assignment) (row : JobStep) : Prop :=
  given.tracked ∧ row.state.unfinished = true

def Finished (given : Assignment) (db : Database) : Prop :=
  ∀ id row, db.steps.get? id = some row → ¬ given.Open row

end Assignment

/-- What the proof needs of the surroundings of one job. -/
structure Terms (contract : Contract semantics) (given : Assignment) : Prop where
  others : ∀ {before after}, contract.rely before after → before.Others after
  filling : ∀ {before after id row}, contract.rely before after →
    before.currentJob = some given.jobId → before.db.snapshotSets.get? id = some row →
    row.jobId = some given.jobId → row.state = .incomplete →
    after.db.snapshotSets.get? id = some row
  free : ∀ before after, contract.guarantee before after
  stops : ∀ {world op applied reached}, contract.allowed world op (.cancel applied reached) →
    given.Finished world.db ∧ (applied = true → op.addsStep = false) ∧ given.skips
  names : ∀ {world event job}, contract.allowed world (.getJob .job given.jobId) event →
    world.db.jobs.get? given.jobId = some job → job.needsSet = true →
    job.mirrorSetId ≠ none ∨ given.skips
  finds : ∀ {world event job id}, contract.allowed world (.getMirrorSet .job id) event →
    world.currentJob = some given.jobId → world.db.jobs.get? given.jobId = some job →
    job.needsSet = true → (world.db.mirrorSets.get? id).isSome = true ∨ given.skips
  stamps : ∀ {world event row}, contract.allowed world (.commit .job [.addSnapshotSet row]) event →
    world.db.takenTwice world.clock row.mirrorSetId = false ∨ given.skips
  passed : ∀ {before after}, given.frame before → contract.rely before after → given.frame after
  worked : ∀ {before after : World}, given.frame before → after.taken = before.taken →
    (∀ id, id ≠ given.jobId → after.db.jobs.get? id = before.db.jobs.get? id) → given.frame after

/-- The job is filling this snapshot set. -/
def Fills (given : Assignment) (filling : Option Nat) (db : Database) : Prop :=
  ∀ id ∈ filling, ∃ row, db.snapshotSets.get? id = some row ∧ row.jobId = some given.jobId ∧
    row.state = .incomplete

/-- The job runs with the step `doing` open, if any, and fills the snapshot set `filling`. -/
structure At (given : Assignment) (filling doing : Option Nat) (world : World) : Prop where
  current : world.currentJob = some given.jobId
  whole : world.sessionBroken = false
  job : (world.db.jobs.get? given.jobId).isSome = true
  frame : given.frame world
  filling : Fills given filling world.db
  recorded : ∀ id ∈ doing, (world.db.steps.get? id).isSome = true
  steps : ∀ id row, world.db.steps.get? id = some row → given.Open row →
    doing = some id ∧ row.state = .running ∧ row.jobId = given.jobId

/-- The job is about to fail; its open steps are still to be closed. -/
structure Failing (given : Assignment) (world : World) : Prop where
  current : world.currentJob = some given.jobId
  whole : world.sessionBroken = false
  job : (world.db.jobs.get? given.jobId).isSome = true
  frame : given.frame world
  steps : ∀ id row, world.db.steps.get? id = some row → given.Open row →
    row.state = .running ∧ row.jobId = given.jobId

/-- The worker was cancelled between two steps. -/
structure Stopped (given : Assignment) (world : World) : Prop where
  finished : given.Finished world.db
  frame : given.frame world
  skips : given.skips

/-- How the work of a job leaves the world when it raises.  A set that may not be stored breaks
the session, and nothing is stored any more. -/
def Gave (given : Assignment) (error : Exn) (world : World) : Prop :=
  if error.isException = true then
    Failing given world ∨ world.sessionBroken = true ∧ Stopped given world
  else Stopped given world

/-- The job is over. -/
structure Over (given : Assignment) (world : World) : Prop where
  finished : given.Finished world.db
  frame : given.frame world
  settled : Settled world.db given.jobId ∨ given.skips

variable {contract : Contract semantics} {given : Assignment} {filling doing : Option Nat} {world after : World}

theorem Over.of_stopped (stopped : Stopped given world) : Over given world :=
  ⟨stopped.finished, stopped.frame, .inr stopped.skips⟩

theorem At.finished (working : At given filling none world) : given.Finished world.db := by
  intro id row found unfinished
  have opened := (working.steps id row found unfinished).1
  cases opened

theorem At.failing (working : At given filling doing world) :
    Failing given world where
  current := working.current
  whole := working.whole
  job := working.job
  frame := working.frame
  steps id row found unfinished := (working.steps id row found unfinished).2

theorem At.gave (working : At given filling doing world) {error : Exn}
    (caught : error.isException = true) : Gave given error world := by
  rw [Gave, if_pos caught]
  exact .inl working.failing

theorem Stopped.gave (stopped : Stopped given world) :
    Gave given .cancelled world := by
  rw [Gave, if_neg (by simp [Exn.isException])]
  exact stopped

/-- Nothing the job works on has changed. -/
theorem At.moved (working : At given filling doing world) (frame' : given.frame after)
    (current : after.currentJob = world.currentJob)
    (whole : after.sessionBroken = world.sessionBroken) (db : after.db = world.db) :
    At given filling doing after where
  current := current.trans working.current
  whole := whole.trans working.whole
  job := by
    rw [db]
    exact working.job
  frame := frame'
  filling := by
    rw [db]
    exact working.filling
  recorded := by
    rw [db]
    exact working.recorded
  steps := by
    rw [db]
    exact working.steps

section Stable

variable (terms : Terms contract given)

include terms

theorem At.passed (working : At given filling doing world)
    (passed : contract.rely world after) : At given filling doing after := by
  have others := terms.others passed
  refine ⟨others.currentJob.trans working.current, others.sessionBroken.trans working.whole, ?_,
    terms.passed working.frame passed, ?_, ?_, ?_⟩
  · obtain ⟨job, found⟩ := Option.isSome_iff_exists.mp working.job
    simp [others.db.jobs given.jobId job found]
  · intro id filled
    obtain ⟨row, found, owned, unfinished⟩ := working.filling id filled
    exact ⟨row, terms.filling passed working.current found owned unfinished, owned, unfinished⟩
  · rw [others.db.steps]
    exact working.recorded
  · rw [others.db.steps]
    exact working.steps

theorem Failing.passed (failing : Failing given world) (passed : contract.rely world after) :
    Failing given after := by
  have others := terms.others passed
  refine ⟨others.currentJob.trans failing.current, others.sessionBroken.trans failing.whole, ?_,
    terms.passed failing.frame passed, ?_⟩
  · obtain ⟨job, found⟩ := Option.isSome_iff_exists.mp failing.job
    simp [others.db.jobs given.jobId job found]
  · rw [others.db.steps]
    exact failing.steps

theorem Stopped.passed (stopped : Stopped given world) (passed : contract.rely world after) :
    Stopped given after := by
  refine ⟨?_, terms.passed stopped.frame passed, stopped.skips⟩
  rw [Assignment.Finished, (terms.others passed).db.steps]
  exact stopped.finished

theorem Over.passed (closed : Over given world) (passed : contract.rely world after) :
    Over given after := by
  have others := terms.others passed
  refine ⟨?_, terms.passed closed.frame passed, closed.settled.imp_left ?_⟩
  · rw [Assignment.Finished, others.db.steps]
    exact closed.finished
  · rintro ⟨job, found, ended⟩
    exact ⟨job, others.db.jobs given.jobId job found, ended⟩

end Stable

/-! ## Operations -/

section Operations

variable (terms : Terms contract given)

include terms

/-- A calm operation leaves the job where it is, unless the worker is cancelled in it. -/
theorem calm_left {op : Op} (calm : op.calm = true)
    (working : At given filling doing world) :
    Safe contract (fun _ => At given filling doing)
      (fun error after => if error.isException = true then At given filling doing after
        else Stopped given after) (perform op) world := by
  refine safe_op fun event outcome after permitted performed => ⟨terms.free _ _, ?_⟩
  intro later passed
  have kept := Op.perform_frame performed
  have db : after.db = world.db := kept.db (by cases op <;> first | rfl | cases calm)
  have frame' : given.frame after := by
    refine terms.worked working.frame kept.taken fun id _ => ?_
    rw [db]
  have current : after.currentJob = world.currentJob :=
    kept.currentJob (by cases op <;> first | rfl | cases calm)
  rcases Op.perform_calm calm performed with ⟨applied, reached, rfl, rfl⟩ | ⟨whole, ordinary⟩
  · obtain ⟨finished, -, allowed⟩ := terms.stops permitted
    have stopped : Stopped given after :=
      ⟨by rw [Assignment.Finished, db]; exact finished, frame', allowed⟩
    simpa [Exn.isException] using stopped.passed terms passed
  · have still := (working.moved frame' current whole db).passed terms passed
    cases outcome with
    | ok value => exact still
    | error error =>
        dsimp only
        rw [if_pos (ordinary error rfl)]
        exact still

theorem calm_at {op : Op} (calm : op.calm = true) (working : At given filling doing world) :
    Safe contract (fun _ => At given filling doing) (Gave given)
      (perform op) world := by
  refine (calm_left terms calm working).mono (fun _ _ kept => kept) fun error after left => ?_
  rw [Gave]
  split
  · rename_i caught
    rw [if_pos caught] at left
    exact .inl left.failing
  · rename_i uncaught
    rw [if_neg uncaught] at left
    exact left

/-- A commit that the database accepts raises only when the worker is cancelled in it. -/
theorem commit_left {writes : List Write} {db : Database} {inserted : Inserted}
    {filling' next : Option Nat} (working : At given filling doing world)
    (stored : world.db.commit world.clock writes = .ok (db, inserted))
    (good : At given filling' next { world with db := db })
    (kept : (Op.commit .job writes).addsStep = false → given.Finished world.db → given.Finished db) :
    Safe contract (fun keys after => keys = inserted ∧ At given filling' next after)
      (fun error after => error = .cancelled ∧ Stopped given after)
      (commit .job writes) world := by
  apply safe_commit_stored working.whole fun _ _ => stored
  · intro _
    exact .ok (terms.free _ _) fun later passed => ⟨rfl, good.passed terms passed⟩
  · intro applied reached permitted
    obtain ⟨finished, silent, allowed⟩ := terms.stops permitted
    have before : Stopped given { world with sessionBroken := true } :=
      ⟨finished, terms.worked working.frame rfl fun _ _ => rfl, allowed⟩
    refine ⟨.error (terms.free _ _) fun later passed => ⟨rfl, before.passed terms passed⟩, ?_⟩
    intro applies
    have after : Stopped given { world with db := db, sessionBroken := true } :=
      ⟨kept (silent applies) finished, terms.worked good.frame rfl fun _ _ => rfl, allowed⟩
    exact .error (terms.free _ _) fun later passed => ⟨rfl, after.passed terms passed⟩

theorem commit_at {writes : List Write} {db : Database} {inserted : Inserted}
    {filling' next : Option Nat} (working : At given filling doing world)
    (stored : world.db.commit world.clock writes = .ok (db, inserted))
    (good : At given filling' next { world with db := db })
    (kept : (Op.commit .job writes).addsStep = false → given.Finished world.db → given.Finished db) :
    Safe contract (fun keys after => keys = inserted ∧ At given filling' next after)
      (Gave given) (commit .job writes) world := by
  refine (commit_left terms working stored good kept).mono (fun _ _ reached => reached) ?_
  rintro error after ⟨rfl, stopped⟩
  exact stopped.gave

/-- A commit after which no step is open. -/
theorem closing_at {writes : List Write} {db : Database} {inserted : Inserted}
    {filling' : Option Nat} (working : At given filling doing world)
    (stored : world.db.commit world.clock writes = .ok (db, inserted))
    (good : At given filling' none { world with db := db }) :
    Safe contract (fun _ => At given filling' none) (Gave given)
      (commit .job writes) world :=
  (commit_at terms working stored good fun _ _ => good.finished).mono
    (fun _ _ reached => reached.2) fun _ _ gave => gave

/-- The step log gets a new, running step. -/
theorem addStep_at (description : String) (working : At given filling none world) :
    Safe contract (fun step => At given filling (some step)) (Gave given)
      (addStep given.jobId description) world := by
  refine Safe.bind (calm_at terms rfl working) fun position before working => ?_
  let opened (now : Time) : JobStep :=
    { jobId := given.jobId, position, description, state := .running, startedAt := some now }
  have stored : before.db.commit before.clock [.addStep opened] =
      .ok ({ before.db with steps := before.db.steps.insert (opened before.clock) },
        { step := before.db.steps.nextId }) := rfl
  have good : At given filling (some before.db.steps.nextId) { before with
      db := { before.db with steps := before.db.steps.insert (opened before.clock) } } := by
    refine ⟨working.current, working.whole, working.job,
      terms.worked working.frame rfl fun _ _ => rfl, working.filling, ?_, ?_⟩
    · rintro id ⟨⟩
      simp
    · intro id row found unfinished
      simp only [Table.get?_insert] at found
      split at found
      · rename_i new
        cases found
        exact ⟨congrArg some new.symm, rfl, rfl⟩
      · have opened := (working.steps id row found unfinished).1
        cases opened
  refine Safe.bind (commit_at terms working stored good nofun) ?_
  rintro inserted after ⟨rfl, begun⟩
  exact begun

/-- A change of the open step's row that leaves it open. -/
theorem noteStep_at {step : Nat} {change : Time → JobStep → JobStep}
    (working : At given filling (some step) world)
    (same : ∀ now row, (change now row).state = row.state ∧ (change now row).jobId = row.jobId) :
    Safe contract (fun _ => At given filling (some step)) (Gave given)
      (commit .job [.setStep step change]) world := by
  obtain ⟨old, recorded⟩ := Option.isSome_iff_exists.mp (working.recorded step rfl)
  have stored : world.db.commit world.clock [.setStep step change] =
      .ok ({ world.db with steps := world.db.steps.update step (change world.clock) }, {}) := by
    simp [Database.commit, Database.writeAll, Database.write, recorded]
  have states : ∀ id row, (world.db.steps.update step (change world.clock)).get? id = some row →
      ∃ old, world.db.steps.get? id = some old ∧ row.state = old.state ∧ row.jobId = old.jobId := by
    intro id row found
    simp only [Table.get?_update] at found
    split at found
    · rename_i here
      subst here
      rw [recorded] at found
      cases found
      exact ⟨old, recorded, same world.clock old⟩
    · exact ⟨row, found, rfl, rfl⟩
  have good : At given filling (some step) { world with
      db := { world.db with steps := world.db.steps.update step (change world.clock) } } := by
    refine ⟨working.current, working.whole, working.job,
      terms.worked working.frame rfl fun _ _ => rfl, working.filling, ?_, ?_⟩
    · rintro id ⟨⟩
      simp [recorded]
    · intro id row found unfinished
      obtain ⟨was, known, state, owner⟩ := states id row found
      rw [Assignment.Open, state] at unfinished
      rw [state, owner]
      exact working.steps id was known unfinished
  refine (commit_at terms working stored good fun _ finished => ?_).mono
    (fun _ _ reached => reached.2) fun _ _ gave => gave
  intro id row found
  obtain ⟨was, known, state, -⟩ := states id row found
  rw [Assignment.Open, state]
  exact finished id was known

/-- Closing the open step, perhaps with a change of the snapshot set being filled. -/
theorem closeStep_good {step : Nat} {change : JobStep → JobStep} {db : Database}
    (ends : ∀ row, (change row).state.unfinished = false)
    (working : At given filling (some step) world)
    (steps : db.steps = world.db.steps.update step change) (jobs : db.jobs = world.db.jobs)
    (sets : Fills given filling db) :
    At given filling none { world with db := db } := by
  refine ⟨working.current, working.whole, ?_, ?_, sets, nofun, ?_⟩
  · change (db.jobs.get? given.jobId).isSome = true
    rw [jobs]
    exact working.job
  · refine terms.worked working.frame rfl fun id _ => ?_
    change db.jobs.get? id = _
    rw [jobs]
  · intro id row found unfinished
    change db.steps.get? id = some row at found
    rw [steps, Table.get?_update] at found
    split at found
    · obtain ⟨old, -, rfl⟩ := Option.map_eq_some_iff.mp found
      have ended := unfinished.2
      change (change old).state.unfinished = true at ended
      rw [ends old] at ended
      cases ended
    · rename_i other
      obtain ⟨opened, -⟩ := working.steps id row found unfinished
      exact absurd (Option.some.inj opened).symm other

theorem finishStep_at {step : Nat} {state : StepState} (output : String)
    (closed : state.unfinished = false) (working : At given filling (some step) world) :
    Safe contract (fun _ => At given filling none) (Gave given)
      (finishStep step state output) world := by
  refine Safe.bind (closing_at terms working
    (Database.commit_setStep _ (working.recorded step rfl)) ?_) fun _ _ working => working
  exact closeStep_good terms (fun _ => closed) working rfl rfl working.filling

end Operations

/-! ## The work of a job -/

section Work

variable (terms : Terms contract given) {self : JobRunner} {mirrorSet : MirrorSet}
  {step : Nat}

include terms

theorem guardDisk_at (remainingBytes : Int) (working : At given filling (some step) world) :
    Safe contract (fun _ => At given filling (some step)) (Gave given)
      (self.guardDisk remainingBytes) world := by
  refine Safe.bind (calm_at terms rfl working) fun storage after working => ?_
  dsimp only
  split
  · exact working
  · exact working.gave rfl

theorem pollTask_at (taskId : Int) (polls : Nat) (reported : Bool)
    (working : At given filling (some step) world) :
    Safe contract (fun _ => At given filling (some step)) (Gave given)
      (self.pollTask step taskId polls reported) world := by
  apply safe_pollTask (At given filling (some step)) (fun _ => At given filling (some step))
    fun _ => At given filling (some step)
  case looks =>
    intro world working
    refine (calm_at terms rfl working).mono (fun task after working => ?_) fun _ _ gave => gave
    split <;> exact working
  case reads => exact calm_at terms rfl
  case fails =>
    intro task output world _ working
    exact working.gave rfl
  case succeeds => exact fun _ working => working
  case zeroes => exact fun _ working => noteStep_at terms working fun _ _ => ⟨rfl, rfl⟩
  case asks => exact calm_at terms rfl
  case rests => exact fun working => working
  case notes => exact fun working => noteStep_at terms working fun _ _ => ⟨rfl, rfl⟩
  case guards => exact guardDisk_at terms _
  case sleeps => exact calm_at terms rfl
  case held => exact working

theorem followTask_at (task : Task) (working : At given filling (some step) world) :
    Safe contract (fun _ => At given filling none) (Gave given)
      (self.followTask step task) world := by
  refine Safe.bind (noteStep_at terms working fun _ _ => ⟨rfl, rfl⟩) fun _ _ working => ?_
  refine Safe.bind (pollTask_at terms task.id self.polls false working) fun output _ working => ?_
  exact finishStep_at terms output rfl working

/-- A call whose failure is noted on the step before the job gives up. -/
theorem noted_at {request : Request} (working : At given filling (some step) world) :
    Safe contract (fun _ => At given filling (some step)) (Gave given)
      ((perform (.aptly request)).catching (JobRunner.failStep step)) world := by
  have called : Safe contract (fun _ => At given filling (some step))
      (fun error after => if error.isException = true then At given filling (some step) after
        else Stopped given after) (perform (.aptly request)) world :=
    calm_left terms rfl working
  refine Coroutine.safe_catching.mpr (called.mono (fun _ _ kept => kept) fun error after left => ?_)
  by_cases caught : error.isException = true
  · rw [if_pos caught] at left
    refine safe_failStep (fun _ => ?_) fun _ => left.gave caught
    exact (finishStep_at terms _ rfl left).mono (fun _ _ kept => kept.gave caught)
      fun _ _ gave => gave
  · rw [if_neg caught] at left
    obtain rfl : error = .cancelled := by
      cases error <;> simp [Exn.isException] at caught ⊢
    exact left.gave

theorem create_at (working : At given filling none world) :
    Safe contract (fun _ => At given filling none) (Gave given)
      (JobRunner.create given.jobId mirrorSet) world := by
  refine Safe.bind (calm_at terms rfl working) fun mirrors _ working => ?_
  refine Safe.forEach (fun _ => At given filling none) working fun suite _ _ working => ?_
  refine Safe.forEach (fun _ => At given filling none) working fun component _ _ working => ?_
  refine Safe.bind (addStep_at terms _ working) fun step _ working => ?_
  split
  · exact finishStep_at terms _ rfl working
  · exact Safe.bind (calm_at terms rfl working) fun _ _ working => finishStep_at terms _ rfl working

theorem preflight_at (working : At given filling none world) :
    Safe contract (fun _ => At given filling none) (Gave given)
      (self.preflight given.jobId mirrorSet) world := by
  refine Safe.bind (addStep_at terms _ working) fun step _ working => ?_
  refine Safe.bind (calm_at terms rfl working) fun mirrors _ working => ?_
  dsimp only
  split
  · exact Safe.bind (finishStep_at terms _ rfl working) fun _ _ working => working.gave rfl
  · refine Safe.bind (calm_at terms rfl working) fun storage _ working => ?_
    split
    · exact finishStep_at terms _ rfl working
    · exact Safe.bind (finishStep_at terms _ rfl working) fun _ _ working => working.gave rfl

theorem sync_at (working : At given filling none world) :
    Safe contract (fun _ => At given filling none) (Gave given)
      (self.sync given.jobId mirrorSet) world := by
  refine Safe.forEach (fun _ => At given filling none) working fun suite _ _ working => ?_
  refine Safe.forEach (fun _ => At given filling none) working fun component _ _ working => ?_
  refine Safe.bind (addStep_at terms _ working) fun step _ working => ?_
  exact Safe.bind (calm_at terms rfl working) fun task _ working => followTask_at terms task working

omit terms in
/-- A change of the snapshot set being filled keeps its owner. -/
theorem filled_after {db : Database} {snapshotSet : Nat} {change : SnapshotSet → SnapshotSet}
    (working : At given (some snapshotSet) doing world)
    (same : ∀ row, (change row).jobId = row.jobId ∧ (change row).state = row.state)
    (sets : db.snapshotSets = world.db.snapshotSets.update snapshotSet change) :
    Fills given (some snapshotSet) db := by
  rintro id ⟨⟩
  obtain ⟨row, found, owned, unfinished⟩ := working.filling snapshotSet rfl
  refine ⟨Keyed.withId snapshotSet (change row), by simp [sets, found], ?_, ?_⟩
  · exact (same row).1.trans owned
  · exact (same row).2.trans unfinished

theorem snapshotEach_at {stamp suite component : String} {snapshotSet : Nat}
    {taken : Dict String String} (working : At given (some snapshotSet) none world) :
    Safe contract (fun _ => At given (some snapshotSet) none) (Gave given)
      (JobRunner.snapshotEach given.jobId mirrorSet stamp snapshotSet taken suite component) world := by
  refine Safe.bind (addStep_at terms _ working) fun step _ working => ?_
  refine Safe.bind (calm_at terms rfl working) fun _ before working => ?_
  obtain ⟨row, found, -⟩ := working.filling snapshotSet rfl
  refine Safe.bind (closing_at terms working (Database.commit_recordSnapshot _ _
    (Option.isSome_of_eq_some found) (working.recorded step rfl)) ?_) fun _ _ working => working
  refine closeStep_good terms (fun _ => rfl) working rfl rfl (filled_after working ?_ rfl)
  exact fun _ => ⟨rfl, rfl⟩

theorem takeSnapshots_at {stamp : String} {snapshotSet : Nat}
    (working : At given (some snapshotSet) none world) :
    Safe contract (fun _ => At given (some snapshotSet) none) (Gave given)
      (JobRunner.takeSnapshots given.jobId mirrorSet stamp snapshotSet) world := by
  refine Safe.foldEach (fun _ _ => At given (some snapshotSet) none) working
    fun suite _ _ _ working => ?_
  exact Safe.foldEach (fun _ _ => At given (some snapshotSet) none) working
    fun component _ _ _ working => snapshotEach_at terms working

/-- The set about to be filled is stored, unless one of the mirror set has the same time. -/
theorem addSnapshotSet_at {fresh : SnapshotSet} (owned : fresh.jobId = some given.jobId)
    (unfinished : fresh.state = .incomplete) (working : At given none none world) :
    Safe contract (fun inserted => At given (some inserted.snapshotSet) none) (Gave given)
      (commit .job [.addSnapshotSet fresh]) world := by
  cases twice : world.db.takenTwice world.clock fresh.mirrorSetId with
  | false =>
      refine (commit_at terms working (Database.commit_addSnapshotSet fresh twice)
        (?_ : At given (some world.db.snapshotSets.nextId) none _) fun _ finished => finished).mono
        ?_ fun _ _ gave => gave
      · refine ⟨working.current, working.whole, working.job,
          terms.worked working.frame rfl fun _ _ => rfl, ?_, nofun, working.steps⟩
        rintro id ⟨⟩
        exact ⟨Keyed.withId world.db.snapshotSets.nextId { fresh with takenAt := world.clock },
          by simp, owned, unfinished⟩
      · rintro inserted _ ⟨rfl, working⟩
        exact working
  | true =>
      have broke : given.skips → Stopped given { world with sessionBroken := true } := fun allowed =>
        ⟨working.finished, terms.worked working.frame rfl fun _ _ => rfl, allowed⟩
      have refusal := Database.commit_addSnapshotSet_of_takenTwice fresh twice
      refine safe_commit ?_ ?_ ?_ ?_
      · intro db inserted _ _ committed
        rw [refusal] at committed
        cases committed
      · intro error permitted _ refused
        rw [refusal] at refused
        cases refused
        have allowed : given.skips := by
          refine (terms.stamps permitted).resolve_left fun alone => ?_
          rw [twice] at alone
          cases alone
        refine .error (terms.free _ _) fun later passed => ?_
        rw [Gave, if_pos (show Exn.integrityError.isException = true from rfl)]
        exact .inr ⟨(terms.others passed).sessionBroken, (broke allowed).passed terms passed⟩
      · intro _ broken
        rw [working.whole] at broken
        cases broken
      · intro applied reached permitted
        obtain ⟨-, -, allowed⟩ := terms.stops permitted
        refine ⟨.error (terms.free _ _) fun later passed => ?_, fun db inserted _ committed => ?_⟩
        · exact ((broke allowed).passed terms passed).gave
        · rw [refusal] at committed
          cases committed

theorem update_at (working : At given none none world) :
    Safe contract (fun _ => At given none none) (Gave given)
      (self.update given.jobId mirrorSet) world := by
  refine Safe.bind (preflight_at terms working) fun _ _ working => ?_
  refine Safe.bind (calm_at terms rfl working) fun moment before working => ?_
  refine Safe.bind (addSnapshotSet_at terms rfl rfl working) fun inserted _ working => ?_
  refine Safe.bind (sync_at terms working) fun _ _ working => ?_
  refine Safe.bind (takeSnapshots_at terms working) fun _ last working => ?_
  obtain ⟨row, found, -⟩ := working.filling _ rfl
  refine Safe.bind (closing_at terms working
    (Database.commit_setSnapshotSet _ (Option.isSome_of_eq_some found)) ?_) fun _ _ working => working
  exact ⟨working.current, working.whole, working.job, terms.worked working.frame rfl fun _ _ => rfl,
    nofun, nofun, working.steps⟩

theorem deleteSnapshotEach_at (name : String) (working : At given filling none world) :
    Safe contract (fun _ => At given filling none) (Gave given)
      (JobRunner.deleteSnapshotEach given.jobId name) world := by
  refine Safe.bind (addStep_at terms _ working) fun step _ working => ?_
  refine Safe.bind (noted_at terms working) fun _ _ working => ?_
  exact finishStep_at terms _ rfl working

theorem reclaimSpace_at (working : At given filling none world) :
    Safe contract (fun _ => At given filling none) (Gave given)
      (self.reclaimSpace given.jobId) world := by
  refine Safe.bind (addStep_at terms _ working) fun step _ working => ?_
  exact Safe.bind (calm_at terms rfl working) fun task _ working => followTask_at terms task working

/-- A commit that leaves the jobs and the step log alone. -/
theorem aside_at {writes : List Write} {db : Database} {inserted : Inserted}
    (working : At given none none world)
    (stored : world.db.commit world.clock writes = .ok (db, inserted))
    (jobs : db.jobs = world.db.jobs) (steps : db.steps = world.db.steps) :
    Safe contract (fun _ => At given none none) (Gave given)
      (commit .job writes) world := by
  refine closing_at terms working stored ⟨working.current, working.whole, ?_,
    terms.worked working.frame rfl fun id _ => ?_, nofun, nofun, ?_⟩
  · change (db.jobs.get? given.jobId).isSome = true
    rw [jobs]
    exact working.job
  · change db.jobs.get? id = _
    rw [jobs]
  · change ∀ id row, db.steps.get? id = some row → _
    rw [steps]
    exact working.steps

theorem discard_at {params : JobParams} (working : At given none none world) :
    Safe contract (fun _ => At given none none) (Gave given)
      (self.discard given.jobId params) world := by
  refine Safe.bind (Safe.forEach (fun _ => At given none none) working
    fun name _ _ working => deleteSnapshotEach_at terms name working) fun _ _ working => ?_
  refine Safe.bind (reclaimSpace_at terms working) fun _ _ working => ?_
  split
  · exact working
  · refine Safe.bind (calm_at terms rfl working) fun found _ working => ?_
    split
    · exact working
    · exact Safe.bind (aside_at terms working (Database.commit_deleteSnapshotSet _) rfl rfl)
        fun _ _ working => working

theorem deleteMirrorEach_at (name : String) (working : At given filling none world) :
    Safe contract (fun _ => At given filling none) (Gave given)
      (self.deleteMirrorEach given.jobId name) world := by
  refine Safe.bind (addStep_at terms _ working) fun step _ working => ?_
  exact Safe.bind (noted_at terms working) fun task _ working => followTask_at terms task working

theorem remove_at {params : JobParams} {loaded : Option MirrorSet}
    (working : At given none none world) :
    Safe contract (fun _ => At given none none) (Gave given)
      (self.remove given.jobId params loaded) world := by
  refine Safe.bind (Safe.forEach (fun _ => At given none none) working
    fun name _ _ working => deleteMirrorEach_at terms name working) fun _ _ working => ?_
  refine Safe.bind (reclaimSpace_at terms working) fun _ _ working => ?_
  split
  · exact working
  · have loading : ∀ id world, At given none none world →
        Safe contract (fun _ => At given none none) (Gave given)
          (JobRunner.getLoaded loaded id) world := by
      intro id world working
      unfold JobRunner.getLoaded
      split
      · split
        · exact working
        · exact calm_at terms rfl working
      · exact calm_at terms rfl working
    refine Safe.bind (loading _ _ working) fun found _ working => ?_
    split
    · exact working
    · rename_i mirrorSet
      refine Safe.bind (calm_at terms rfl working) fun owned before working => ?_
      have stored := (@Database.commit_setJob before.db before.clock _
        (fun _ job => { job with mirrorSetId := none }) _ working.job).trans
        (Database.commit_forget owned mirrorSet.id)
      refine Safe.bind (closing_at terms working stored ?_) fun _ _ working => working
      refine ⟨working.current, working.whole, ?_,
        terms.worked working.frame rfl fun id other => ?_, nofun, nofun, working.steps⟩
      · obtain ⟨job, found⟩ := Option.isSome_iff_exists.mp working.job
        simp [found]
      · simp [other]

theorem publishEach_at {target : SnapshotSet} {published : Dict (String × String) Published}
    {suite : String} (working : At given filling none world) :
    Safe contract (fun _ => At given filling none) (Gave given)
      (self.publishEach given.jobId mirrorSet target published suite) world := by
  unfold JobRunner.publishEach
  cases sources : JobRunner.sourcesFor mirrorSet target suite with
  | error error => exact working.gave (JobRunner.sourcesFor_error sources)
  | ok sources =>
      change Safe _ _ _ (Coroutine.bind (addStep given.jobId _) _) _
      refine Safe.bind (addStep_at terms _ working) fun step _ working => ?_
      dsimp only
      split
      · exact Safe.bind (calm_at terms rfl working)
          fun task _ working => followTask_at terms task working
      · exact Safe.bind (calm_at terms rfl working)
          fun task _ working => followTask_at terms task working

theorem verify_at {target : SnapshotSet} (working : At given filling none world) :
    Safe contract (fun _ => At given filling none) (Gave given)
      (JobRunner.verify given.jobId mirrorSet target) world := by
  refine Safe.bind (addStep_at terms _ working) fun step _ working => ?_
  refine Safe.bind (calm_at terms rfl working) fun actual _ working => ?_
  cases checked : JobRunner.verifyProblems mirrorSet target (JobRunner.byPlace actual) with
  | error error => exact working.gave (JobRunner.verifyProblems_error checked)
  | ok problems =>
      change Safe _ _ _ (if problems ≠ [] then _ else _) _
      split
      · exact Safe.bind (finishStep_at terms _ rfl working) fun _ _ working => working.gave rfl
      · exact finishStep_at terms _ rfl working

theorem checkAsClient_at {publicUrl : String} (working : At given filling none world) :
    Safe contract (fun _ => At given filling none) (Gave given)
      (JobRunner.checkAsClient given.jobId mirrorSet publicUrl) world := by
  refine Safe.bind (addStep_at terms _ working) fun step _ working => ?_
  refine Safe.bind (Safe.foldEach (fun _ _ => At given filling (some step)) working
    fun suite _ _ _ working => Safe.bind (calm_at terms rfl working) fun _ _ working => working)
    fun checks _ working => ?_
  dsimp only
  split
  · exact Safe.bind (finishStep_at terms _ rfl working) fun _ _ working => working.gave rfl
  · exact finishStep_at terms _ rfl working

theorem switch_at {params : JobParams} (working : At given filling none world) :
    Safe contract (fun _ => At given filling none) (Gave given)
      (self.switch given.jobId params mirrorSet) world := by
  unfold JobRunner.switch
  split
  · exact working.gave rfl
  · refine Safe.bind (calm_at terms rfl working) fun found _ working => ?_
    split
    · exact working.gave rfl
    · split
      · exact working.gave rfl
      · split
        · exact working.gave rfl
        · refine Safe.bind (calm_at terms rfl working) fun published _ working => ?_
          refine Safe.bind (Safe.forEach (fun _ => At given filling none) working
            fun suite _ _ working => publishEach_at terms working) fun _ _ working => ?_
          refine Safe.bind (verify_at terms working) fun _ _ working => ?_
          split
          · exact working
          · split
            · exact working
            · exact checkAsClient_at terms working

theorem execute_at {job : Job} {loaded : Option MirrorSet}
    (working : At given none none world) :
    Safe contract (fun _ => At given none none) (Gave given)
      (self.execute given.jobId job loaded) world := by
  unfold JobRunner.execute
  split
  · exact discard_at terms working
  · exact remove_at terms working
  · exact working.gave rfl
  · exact create_at terms working
  · exact update_at terms working
  · exact switch_at terms working
  · exact working.gave rfl

end Work

/-! ## Beginning and end -/

section Epilogue

variable (terms : Terms contract given) {self : JobRunner} {job : Job}
  {loaded : Option MirrorSet}

include terms

theorem Over.settles {α : Type} {before : World} (closed : Over given after)
    (outcome : Except Exn α) :
    Settles contract (fun _ => Over given) (fun _ => Over given) before
      outcome after := by
  refine ⟨terms.free _ _, fun later passed => ?_⟩
  cases outcome <;> exact closed.passed terms passed

theorem Stopped.settles {α : Type} {before : World} (stopped : Stopped given after)
    (outcome : Except Exn α) :
    Settles contract (fun _ => Stopped given) (fun _ => Stopped given) before
      outcome after := by
  refine ⟨terms.free _ _, fun later passed => ?_⟩
  cases outcome <;> exact stopped.passed terms passed

/-- The epilogue stores the state it is given, and the time. -/
theorem settle_at {state : JobState} {error : Option String}
    (ended : state = .succeeded ∨ state = .failed)
    (told : state = .failed → ∃ text, error = some text ∧ text ≠ "")
    (working : At given none none world) :
    Safe contract (fun _ => Over given) (fun _ => Over given)
      (JobRunner.settle given.jobId job loaded state error) world := by
  obtain ⟨row, found⟩ := Option.isSome_iff_exists.mp working.job
  refine Safe.bind (?_ : Safe contract (fun (_ : Inserted) => Over given) _ _ _)
    fun _ _ closed => closed
  apply safe_commit_stored working.whole fun _ _ => Database.commit_setJob _ _ working.job
  · intro _
    refine Over.settles terms ?_ _
    refine ⟨working.finished, ?_, .inl ?_⟩
    · exact terms.worked working.frame rfl fun id other => by simp [other]
    · exact ⟨Keyed.withId given.jobId
        { row with state := state, error := error, finishedAt := some world.clock },
        by simp [found], ended, rfl, told⟩
  · intro applied reached permitted
    obtain ⟨-, -, allowed⟩ := terms.stops permitted
    have broke : Over given { world with sessionBroken := true } :=
      ⟨working.finished, terms.worked working.frame rfl fun _ _ => rfl, .inr allowed⟩
    refine ⟨broke.settles terms _, fun _ => ?_⟩
    refine Over.settles terms ?_ _
    refine ⟨working.finished, ?_, .inr allowed⟩
    exact terms.worked working.frame rfl fun id other => by simp [other]

/-- After a cancellation the epilogue leaves the steps as they are. -/
theorem settle_stopped {state : JobState} {error : Option String}
    (stopped : Stopped given world) :
    Safe contract (fun _ => Stopped given) (fun _ => Stopped given)
      (JobRunner.settle given.jobId job loaded state error) world := by
  have edited : ∀ db inserted, world.db.commit world.clock [
      .setJob given.jobId fun now row =>
        { row with state := state, error := error, finishedAt := some now },
      .addAudit
        { actor := job.author
          action := s!"job.{job.type.value}"
          target := (loaded.map MirrorSet.name).getD "snapshots"
          result := state.value
          detail := error }] = .ok (db, inserted) →
      ∀ broken, Stopped given { world with db := db, sessionBroken := broken } := by
    intro db inserted committed broken
    cases found : world.db.jobs.get? given.jobId with
    | none => simp [Database.commit, Database.writeAll, Database.write, found] at committed
    | some row =>
        rw [Database.commit_setJob _ _ (Option.isSome_of_eq_some found)] at committed
        cases committed
        refine ⟨stopped.finished, terms.worked stopped.frame rfl fun id other => ?_, stopped.skips⟩
        simp [other]
  have broke : Stopped given { world with sessionBroken := true } :=
    ⟨stopped.finished, terms.worked stopped.frame rfl fun _ _ => rfl, stopped.skips⟩
  refine Safe.bind (?_ : Safe contract (fun (_ : Inserted) => Stopped given) _ _ _)
    fun _ _ stopped => stopped
  refine safe_commit ?_ ?_ ?_ ?_
  · exact fun db inserted _ _ committed =>
      Stopped.settles terms (edited db inserted committed world.sessionBroken) _
  · exact fun _ _ _ _ => broke.settles terms _
  · exact fun _ _ => stopped.settles terms _
  · exact fun _ _ _ => ⟨broke.settles terms _, fun db inserted _ committed =>
      Stopped.settles terms (edited db inserted committed true) _⟩

omit terms in
/-- After the same closing change of several steps, a step is closed or was not one of them. -/
theorem closed_or_kept {steps : List JobStep} {change : JobStep → JobStep} {table : Table JobStep}
    (ends : ∀ row, (change row).state.unfinished = false) {id : Nat} {row : JobStep}
    (found : (steps.foldl (fun table step => table.update step.id change) table).get? id =
      some row) :
    row.state.unfinished = false ∨ (∀ step ∈ steps, step.id ≠ id) ∧ table.get? id = some row := by
  induction steps generalizing table with
  | nil => exact .inr ⟨by simp, found⟩
  | cons step rest inductionHypothesis =>
      rcases inductionHypothesis found with closed | ⟨others, kept⟩
      · exact .inl closed
      · rw [Table.get?_update] at kept
        split at kept
        · obtain ⟨old, -, rfl⟩ := Option.map_eq_some_iff.mp kept
          exact .inl (ends old)
        · rename_i other
          refine .inr ⟨?_, kept⟩
          intro step listed
          rcases List.mem_cons.mp listed with rfl | later
          · exact fun same => other same.symm
          · exact others step later

/-- The job's own steps that run. -/
theorem runningSteps_at (failing : Failing given world) :
    Safe contract (fun (running : List JobStep) after => Failing given after ∧
      running = after.db.steps.rows.filter fun row => row.jobId = given.jobId ∧ row.state = .running)
      (fun _ => Stopped given) (runningSteps given.jobId) world := by
  refine safe_query (.runningSteps given.jobId) (fun world => world.db.steps.rows.filter fun row =>
    row.jobId = given.jobId ∧ row.state = .running) (fun _ => rfl) ?_ ?_ ?_
  · intro _ _
    refine .ok (terms.free _ _) fun later passed => ⟨failing.passed terms passed, ?_⟩
    rw [(terms.others passed).db.steps]
  · intro _ broken
    rw [failing.whole] at broken
    cases broken
  · intro applied reached permitted
    obtain ⟨finished, -, allowed⟩ := terms.stops permitted
    have stopped : Stopped given { world with sessionBroken := true } :=
      ⟨finished, terms.worked failing.frame rfl fun _ _ => rfl, allowed⟩
    exact .error (terms.free _ _) fun later passed => stopped.passed terms passed

/-- With these steps closed, the job has none that is open. -/
theorem Failing.closed (failing : Failing given world) {change : Job → Job}
    {closing : JobStep → JobStep} (ends : ∀ row, (closing row).state.unfinished = false) :
    At given none none { world with
      db := { world.db with
        jobs := world.db.jobs.update given.jobId change
        steps := (world.db.steps.rows.filter fun row =>
            row.jobId = given.jobId ∧ row.state = .running).foldl
          (fun table step => table.update step.id closing) world.db.steps } } := by
  refine ⟨failing.current, failing.whole, ?_,
    terms.worked failing.frame rfl fun id other => by simp [other], nofun, nofun, ?_⟩
  · obtain ⟨row, found⟩ := Option.isSome_iff_exists.mp failing.job
    simp [found]
  · intro id row found unfinished
    rcases closed_or_kept ends found with closed | ⟨others, kept⟩
    · have ended := unfinished.2
      rw [closed] at ended
      cases ended
    · obtain ⟨running, owned⟩ := failing.steps id row kept unfinished
      obtain ⟨listed, rfl⟩ := Table.get?_eq_some_iff.mp kept
      have chosen : row ∈ world.db.steps.rows.filter fun row =>
          row.jobId = given.jobId ∧ row.state = .running :=
        List.mem_filter.mpr ⟨listed, by simp [running, owned]⟩
      exact absurd rfl (others row chosen)

/-- Whichever steps are open are closed, in the commit that stores the failure. -/
theorem failRunningSteps_at {error : String} (failing : Failing given world) :
    Safe contract (fun _ => At given none none) (fun _ => Stopped given)
      (failRunningSteps given.jobId error) world := by
  refine Safe.bind (runningSteps_at terms failing) ?_
  rintro running before ⟨failing, rfl⟩
  refine Safe.bind (?_ : Safe contract (fun (_ : Inserted) => At given none none) _ _ _)
    fun _ _ working => working
  have recorded : ∀ step ∈ before.db.steps.rows.filter (fun row =>
      row.jobId = given.jobId ∧ row.state = .running), (before.db.steps.get? step.id).isSome = true :=
    fun step listed => Option.isSome_of_eq_some (Table.mem_rows_iff.mp (List.mem_of_mem_filter listed))
  have stored : ∀ change closing, before.db.commit before.clock (.setJob given.jobId change ::
      (before.db.steps.rows.filter fun row => row.jobId = given.jobId ∧ row.state = .running).map
        fun step => .setStep step.id closing) = _ :=
    fun change closing => (Database.commit_setJob change _ failing.job).trans
      (Database.commit_setSteps _ closing recorded)
  apply safe_commit_stored failing.whole fun _ _ => stored _ _
  · intro _
    exact .ok (terms.free _ _) fun later passed =>
      (failing.closed terms fun _ => rfl).passed terms passed
  · intro applied reached permitted
    obtain ⟨finished, -, allowed⟩ := terms.stops permitted
    have broke : Stopped given { before with sessionBroken := true } :=
      ⟨finished, terms.worked failing.frame rfl fun _ _ => rfl, allowed⟩
    refine ⟨.error (terms.free _ _) fun later passed => broke.passed terms passed, ?_⟩
    intro _
    refine .error (terms.free _ _) fun later passed => ?_
    refine Stopped.passed terms ⟨?_, ?_, allowed⟩ passed
    · exact (failing.closed terms fun _ => rfl).finished
    · exact terms.worked failing.frame rfl fun id other => by simp [other]

/-- In a broken session the steps cannot even be asked for. -/
theorem failRunningSteps_broken {error : String} (broken : world.sessionBroken = true)
    (stopped : Stopped given world) :
    Safe contract (fun _ => At given none none) (fun _ => Stopped given)
      (failRunningSteps given.jobId error) world := by
  refine Safe.bind (?_ : Safe contract (fun (_ : List JobStep) _ => False)
    (fun _ => Stopped given) (runningSteps given.jobId) world) fun _ _ no => no.elim
  refine safe_query (.runningSteps given.jobId) (fun world => world.db.steps.rows.filter fun row =>
    row.jobId = given.jobId ∧ row.state = .running) (fun _ => rfl) ?_ ?_ ?_
  · intro _ whole
    rw [broken] at whole
    cases whole
  · exact fun _ _ => .error (terms.free _ _) fun later passed => stopped.passed terms passed
  · intro _ _ _
    have broke : Stopped given { world with sessionBroken := true } :=
      ⟨stopped.finished, terms.worked stopped.frame rfl fun _ _ => rfl, stopped.skips⟩
    exact .error (terms.free _ _) fun later passed => broke.passed terms passed

/-- The `except` branch and the `finally` block after it. -/
theorem giveUp_at {error : Exn} (caught : error.isException = true) (gave : Gave given error world) :
    Safe contract (fun _ => Over given) (fun _ => Over given)
      (do
        let recorded ← (failRunningSteps given.jobId error.text).attempt
        JobRunner.settle given.jobId job loaded .failed (some error.text)
        Coroutine.ofExcept recorded) world := by
  have told : JobState.failed = .failed → ∃ text, some error.text = some text ∧ text ≠ "" :=
    fun _ => ⟨error.text, rfl, error.text_ne_empty⟩
  have ends : ∀ (recorded : Except Exn Unit) after, Over given after →
      Safe contract (fun _ => Over given) (fun _ => Over given)
        (Coroutine.ofExcept recorded : Program Unit) after := by
    intro recorded after closed
    cases recorded <;> exact closed
  have recording : Safe contract (fun _ => At given none none) (fun _ => Stopped given)
      (failRunningSteps given.jobId error.text) world := by
    rw [Gave, if_pos caught] at gave
    rcases gave with failing | ⟨broken, stopped⟩
    · exact failRunningSteps_at terms failing
    · exact failRunningSteps_broken terms broken stopped
  refine Coroutine.safe_bind.mpr (Coroutine.safe_attempt.mpr ?_)
  refine recording.mono (fun _ after working => ?_)
    fun failure after stopped => ?_
  · exact Safe.bind (settle_at terms (.inr rfl) told working) fun _ _ closed => ends _ _ closed
  · refine Safe.bind ((settle_stopped terms stopped).mono (fun _ _ stopped => ?_)
      fun _ _ stopped => ?_) fun _ _ closed => ends _ _ closed
    · exact Over.of_stopped stopped
    · exact Over.of_stopped stopped

theorem runLoaded_at (loads : job.needsSet = true → loaded ≠ none ∨ given.skips)
    (working : At given none none world) :
    Safe contract (fun _ => Over given) (fun _ => Over given)
      (self.runLoaded given.jobId job loaded) world := by
  unfold JobRunner.runLoaded
  split
  · rename_i idle
    have needed : job.needsSet = true := by
      unfold Job.needsSet
      split
      · exact absurd (by assumption) idle.2.1
      · exact absurd (by assumption) idle.2.2
      · rfl
    exact ⟨working.finished, working.frame, .inr ((loads needed).resolve_left fun some => some idle.1)⟩
  · have stored := @Database.commit_setJob world.db world.clock _ (fun now row =>
      { row with
        state := .running
        startedAt := some now
        expectedSteps := some (JobRunner.announcedSteps job loaded) }) [] working.job
    refine Coroutine.safe_bind.mpr ((commit_left terms working stored (?_ : At given none none _) fun _ finished => finished).mono ?_
      fun _ _ left => Over.of_stopped left.2)
    · refine ⟨working.current, working.whole, ?_,
        terms.worked working.frame rfl fun id other => ?_, nofun, nofun, working.steps⟩
      · obtain ⟨row, found⟩ := Option.isSome_iff_exists.mp working.job
        simp [found]
      · simp [other]
    · rintro _ begun ⟨-, working⟩
      refine safe_supervise (At given none none) (Gave given)
        (execute_at terms working) ?_ ?_ ?_
      · exact fun after working => settle_at terms (.inl rfl) nofun working
      · intro error after caught gave
        exact giveUp_at terms caught gave
      · intro error after uncaught gave
        rw [Gave, if_neg (by simp [uncaught])] at gave
        exact Safe.bind ((settle_stopped terms gave).mono
          (fun _ _ stopped => Over.of_stopped stopped) fun _ _ stopped => Over.of_stopped stopped)
          fun _ _ closed => closed

/-- A job whose row is stored is over when its program ends, however it ends. -/
theorem runJob_at (finished : given.Finished world.db) (stored : (world.db.jobs.get? given.jobId).isSome = true)
    (framed : given.frame world) :
    Safe contract (fun _ => Over given) (fun _ => Over given)
      (self.runJob given.jobId) world := by
  have begun : Safe contract (fun (_ : Unit) => At given none none)
      (fun _ => Over given) (beginJob given.jobId) world := by
    refine safe_op fun event outcome after _ performed => ?_
    cases event <;> cases performed
    refine .ok (terms.free _ _) fun later passed => At.passed terms ?_ passed
    refine ⟨rfl, rfl, stored, terms.worked framed rfl fun _ _ => rfl, nofun, nofun, ?_⟩
    exact fun id row found unfinished => (finished id row found unfinished).elim
  refine Safe.bind begun fun _ ready working => ?_
  obtain ⟨job, found⟩ := Option.isSome_iff_exists.mp working.job
  have loaded : Safe contract (fun (loaded : Option Job) after => At given none none after ∧
      loaded = some job ∧ after.db.jobs.get? given.jobId = some job ∧
      (job.needsSet = true → job.mirrorSetId ≠ none ∨ given.skips))
      (fun _ => Over given) (getJob given.jobId) ready := by
    refine safe_query (.getJob .job given.jobId) (fun world => world.db.jobs.get? given.jobId) (fun _ => rfl)
      ?_ ?_ ?_
    · intro permitted _
      refine .ok (terms.free _ _) fun later passed => ?_
      exact ⟨working.passed terms passed, found, (terms.others passed).db.jobs given.jobId job found,
        terms.names permitted found⟩
    · intro _ broken
      rw [working.whole] at broken
      cases broken
    · intro applied reached permitted
      obtain ⟨finished, -, allowed⟩ := terms.stops permitted
      have stopped : Stopped given { ready with sessionBroken := true } :=
        ⟨finished, terms.worked working.frame rfl fun _ _ => rfl, allowed⟩
      exact .error (terms.free _ _) fun later passed =>
        Over.of_stopped (stopped.passed terms passed)
  refine Safe.bind loaded ?_
  rintro _ before ⟨working, rfl, found, names⟩
  dsimp only
  split
  · rename_i missing
    refine runLoaded_at terms (fun needed => ?_) working
    exact .inr ((names needed).resolve_left fun named => named missing)
  · rename_i mirrorSetId named
    have looked : Safe contract (fun (loaded : Option MirrorSet) after =>
        At given none none after ∧ (job.needsSet = true → loaded ≠ none ∨ given.skips))
        (fun _ => Over given) (getMirrorSet .job mirrorSetId) before := by
      refine safe_query (.getMirrorSet .job mirrorSetId)
        (fun world => world.db.mirrorSets.get? mirrorSetId) (fun _ => rfl) ?_ ?_ ?_
      · intro permitted _
        refine .ok (terms.free _ _) fun later passed => ⟨working.passed terms passed, ?_⟩
        intro needed
        refine (terms.finds permitted working.current found needed).imp_left fun stored => ?_
        exact Option.isSome_iff_ne_none.mp stored
      · intro _ broken
        rw [working.whole] at broken
        cases broken
      · intro applied reached permitted
        obtain ⟨finished, -, allowed⟩ := terms.stops permitted
        have stopped : Stopped given { before with sessionBroken := true } :=
          ⟨finished, terms.worked working.frame rfl fun _ _ => rfl, allowed⟩
        exact .error (terms.free _ _) fun later passed =>
          Over.of_stopped (stopped.passed terms passed)
    exact Safe.bind looked fun loaded _ reached => runLoaded_at terms reached.2 reached.1

end Epilogue

end Lifecycle

end AptlyGui
