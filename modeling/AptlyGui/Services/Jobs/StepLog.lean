import AptlyGui.Services.Jobs.Alone
import AptlyGui.Services.Jobs.Records
import AptlyGui.Services.Jobs.Settled

/-!
# The step log

How many steps a job announces is computed apart from the loops that create
them.  The two agree: no job ever has more steps than it announced, one that
SUCCEEDED has exactly as many, and one that is over has numbered them without
gaps, has closed all of them, and has failed in the last of them or between
two.
-/

namespace AptlyGui

open Coroutine (Contract Safe Settles Uses forEach foldEach)

/-- The step went well. -/
def StepState.passed : StepState → Bool
  | .succeeded | .skipped => true
  | .pending | .running | .failed => false

/-- What the steps of a job are like at any moment. -/
structure Logged (row : Job) (steps : List JobStep) : Prop where
  positions : steps.map JobStep.position = List.range' 1 steps.length
  announced : steps.length ≤ row.expectedSteps.getD 0
  waits : row.state = .queued → steps = []
  closed : row.state = .succeeded ∨ row.state = .failed →
    ∀ state ∈ steps.map JobStep.state, state.unfinished = false
  earlier : row.state = .succeeded ∨ row.state = .failed →
    ∀ state ∈ (steps.map JobStep.state).dropLast, state ≠ .failed
  passed : row.state = .succeeded →
    (∀ state ∈ steps.map JobStep.state, state.passed = true) ∧ row.expectedSteps = some steps.length

/-- The steps of one job are as they should be; without the job there are none. -/
def Database.Logs (db : Database) (jobId : Nat) : Prop :=
  (∀ row, db.jobs.get? jobId = some row → Logged row (db.stepsOf jobId)) ∧
    (db.jobs.get? jobId = none → db.stepsOf jobId = [])

theorem StepState.passed_spec {state : StepState} (passed : state.passed = true) :
    state.unfinished = false ∧ state ≠ .failed ∧ state ≠ .pending := by
  cases state <;> simp_all [StepState.passed, StepState.unfinished]

/-- A job without steps that has not ended. -/
theorem Logged.blank {row : Job} (open' : row.state ≠ .succeeded) : Logged row [] := by
  refine ⟨rfl, Nat.zero_le _, fun _ => rfl, by simp, by simp, fun succeeded => ?_⟩
  exact absurd succeeded open'

namespace Database

variable {before after : Database} {jobId : Nat}

theorem Logs.of_same (logs : before.Logs jobId)
    (jobs : after.jobs.get? jobId = before.jobs.get? jobId)
    (steps : after.stepsOf jobId = before.stepsOf jobId) : after.Logs jobId := by
  rw [Logs, jobs, steps]
  exact logs

/-- A request may store a new job, which has no steps. -/
theorem Logs.kept (logs : before.Logs jobId) (kept : before.Kept after) : after.Logs jobId := by
  have steps : after.stepsOf jobId = before.stepsOf jobId := by
    rw [stepsOf, kept.steps]
    rfl
  refine ⟨fun row found => ?_, fun absent => ?_⟩
  · rw [steps]
    rcases kept.newJobs jobId row found with old | ⟨fresh, queued⟩
    · exact logs.1 row old
    · rw [logs.2 fresh]
      apply Logged.blank
      rw [queued]
      decide
  · rw [steps]
    apply logs.2
    cases known : before.jobs.get? jobId with
    | none => rfl
    | some row =>
        rw [kept.jobs jobId row known] at absent
        cases absent

theorem Logs.recovered {world : World} (logs : world.db.Logs jobId) :
    world.recovered.db.Logs jobId := by
  have known := World.recovered_jobs world jobId
  refine ⟨fun row found => ?_, fun absent => ?_⟩
  · rw [found] at known
    obtain ⟨old, stored, same⟩ := Option.map_eq_some_iff.mp known.symm
    have logged := logs.1 old stored
    change Logged row (world.db.stepsOf jobId)
    by_cases active : old.state = .running ∨ old.state = .queued
    · rw [if_pos active] at same
      subst same
      exact ⟨logged.positions, logged.announced, nofun, by simp [Keyed.withId], by simp [Keyed.withId],
        nofun⟩
    · rw [if_neg active] at same
      subst same
      exact ⟨logged.positions, logged.announced, logged.waits, logged.closed, logged.earlier,
        logged.passed⟩
  · rw [absent] at known
    exact logs.2 (Option.map_eq_none_iff.mp known.symm)

/-- The steps of other jobs are not affected by a change of one of this job's. -/
theorem rows_update_other {table : Table JobStep} {other step : Nat} {change : JobStep → JobStep}
    (same : ∀ row, (change row).jobId = row.jobId)
    (foreign : ∀ row, table.get? step = some row → row.jobId ≠ other) :
    ((table.update step change).rows.filter fun row => row.jobId = other) =
      table.rows.filter fun row => row.jobId = other := by
  rw [rows_update same]
  refine (List.map_congr_left fun row listed => ?_).trans (List.map_id _)
  obtain ⟨stored, owned⟩ := List.mem_filter.mp listed
  have different : row.id ≠ step := by
    intro here
    have known : table.get? row.id = some row := Table.mem_rows_iff.mp stored
    rw [here] at known
    exact foreign row known (by simpa using owned)
  simp [different]

theorem rows_foldl_update_other {table : Table JobStep} {other : Nat} {change : JobStep → JobStep}
    (same : ∀ row, (change row).jobId = row.jobId) (steps : List JobStep)
    (foreign : ∀ step ∈ steps, ∀ row, table.get? step.id = some row → row.jobId ≠ other) :
    ((steps.foldl (fun table step => table.update step.id change) table).rows.filter
      fun row => row.jobId = other) = table.rows.filter fun row => row.jobId = other := by
  induction steps generalizing table with
  | nil => rfl
  | cons step rest inductionHypothesis =>
      rw [List.foldl_cons, inductionHypothesis, rows_update_other same (foreign step (by simp))]
      intro later listed row found
      rw [Table.get?_update] at found
      split at found
      · rename_i here
        obtain ⟨old, known, rfl⟩ := Option.map_eq_some_iff.mp found
        have owner := foreign step (by simp) old known
        rw [← same old] at owner
        exact owner
      · exact foreign later (List.mem_cons_of_mem _ listed) row found

end Database

/-- Only `beginJob` and `nextPosition` move the counter. -/
def Op.counts : Op → Bool
  | .beginJob _ | .nextPosition => true
  | _ => false

theorem Op.nextPosition_of_perform {op : Op} (silent : op.counts = false) {event : Event}
    {world after : World} {outcome : Except Exn op.Ret}
    (performed : op.perform event world = some (outcome, after)) :
    after.nextPosition = world.nextPosition := by
  have read : ∀ {α : Type} {session : Session} {value : α} {outcome : Except Exn α},
      world.query session value event = some (outcome, after) →
      after.nextPosition = world.nextPosition := by
    intro α session value outcome asked
    rcases query_frame asked with rfl | rfl <;> rfl
  cases op with
  | aptly request =>
      rcases perform_aptly performed with ⟨_, _, -, -, rfl⟩ | ⟨_, _, _, -, -, -, rfl⟩ |
        ⟨_, _, -, -, rfl⟩ <;> rfl
  | commit session writes =>
      obtain ⟨db, broken, rfl⟩ := commit_frame performed
      rfl
  | getJob session id => exact read performed
  | getMirrorSet session id => exact read performed
  | getSnapshotSet session id => exact read performed
  | mirrorSetNamed name => exact read performed
  | loadSets => exact read performed
  | snapshotSetsOf session id => exact read performed
  | runningSteps id => exact read performed
  | fetchRelease publicUrl distribution =>
      cases event <;> simp [perform] at performed
      · obtain ⟨-, -, rfl⟩ := performed
        rfl
      · obtain ⟨-, rfl⟩ := performed
        rfl
      · obtain ⟨-, rfl⟩ := performed
        rfl
  | readCache =>
      cases event <;> simp [perform] at performed
      obtain ⟨-, rfl⟩ := performed
      rfl
  | sleep =>
      cases event <;> simp [perform] at performed
      · obtain ⟨-, rfl⟩ := performed
        rfl
      · obtain ⟨-, rfl⟩ := performed
        rfl
  | now =>
      cases event <;> simp [perform] at performed
      obtain ⟨-, rfl⟩ := performed
      rfl
  | beginJob id => cases silent
  | nextPosition => cases silent
  | put id =>
      cases event <;> simp [perform] at performed
      obtain ⟨-, rfl⟩ := performed
      rfl

/-- A broken session stores nothing any more. -/
theorem Op.perform_commit_broken {writes : List Write} {event : Event} {world after : World}
    {outcome : Except Exn Inserted} (broken : world.sessionBroken = true)
    (performed : (commit .job writes).perform event world = some (outcome, after)) :
    (∃ error, outcome = .error error) ∧ after = world := by
  have same : ({ world with sessionBroken := true } : World) = world := by
    rw [← broken]
  cases event with
  | proceed =>
      change world.commit .job writes .proceed = _ at performed
      rw [World.commit, World.broken, broken, if_pos rfl] at performed
      cases performed
      exact ⟨⟨_, rfl⟩, rfl⟩
  | cancel applied reached =>
      simp only [perform, World.commit, broken, Bool.not_true, Bool.and_false] at performed
      cases performed
      exact ⟨⟨_, rfl⟩, same⟩
  | reply body reached => cases performed
  | fault error carriedOut reached => cases performed
  | checked check => cases performed
  | cached state => cases performed

namespace StepLog

/-- The job a worker has been given.  `frame` is any property of the other jobs and their steps,
`origin` holds of the database until the job starts, and `result` says what the steps of a job that
succeeds are to be, given the requests sent. -/
structure Assignment where
  jobId : Nat
  frame : Database → Prop
  origin : Database → Prop
  result : List Entry → List StepState → Prop

/-- The states of the job's steps. -/
def statesOf (given : Assignment) (world : World) : List StepState :=
  (world.db.stepsOf given.jobId).map JobStep.state

/-- What holds of the job whenever it is not at work on its steps. -/
structure Over (given : Assignment) (world : World) : Prop where
  frame : given.frame world.db
  logs : world.db.Logs given.jobId
  result : ∀ row, world.db.jobs.get? given.jobId = some row → row.state = .succeeded →
    given.result world.log (statesOf given world)

/-- The step of one mirror ends this way when aptly has the mirrors in `existing`. -/
def createMark (mirrorSet : MirrorSet) (existing : List String) (pair : String × String) : StepState :=
  if mirrorSet.mirrorName pair.1 pair.2 ∈ existing then .skipped else .succeeded

/-- The states in which the steps of a job end that goes well. -/
structure Outcome (jobId : Nat) (job : Job) (loaded : Option MirrorSet) (log : List Entry)
    (closed : List StepState) : Prop where
  created : job.type = .create → ∃ mirrorSet, loaded = some mirrorSet ∧ ∃ mirrors : List Mirror,
    ⟨some jobId, .listMirrors, .ok (.mirrors mirrors), true⟩ ∈ log ∧
      closed = mirrorSet.pairs.map (createMark mirrorSet (mirrors.map Mirror.name))
  others : job.type ≠ .create → closed ≠ [] ∧ ∀ state ∈ closed, state = .succeeded

/-- What the proof needs of the surroundings of one job. -/
structure Terms (contract : Contract semantics) (given : Assignment) : Prop where
  others : ∀ {before after}, contract.rely before after → before.Others after
  keeps : ∀ {before after}, Over given after → contract.guarantee before after
  passed : ∀ {before after : World}, given.frame before.db → contract.rely before after →
    given.frame after.db
  worked : ∀ {before after : Database}, given.frame before →
    (∀ id, id ≠ given.jobId → after.jobs.get? id = before.jobs.get? id ∧
      after.stepsOf id = before.stepsOf id) → given.frame after
  stays : ∀ {before after : World}, given.origin before.db → contract.rely before after →
    given.origin after.db
  ends : ∀ {first second job loaded log closed}, given.origin first →
    first.jobs.get? given.jobId = some job → given.origin second →
    loaded = job.mirrorSetIn second → Outcome given.jobId job loaded log closed →
    given.result log closed

/-- The job has started and not ended, and all its steps but the last have gone well. -/
structure Underway (given : Assignment) (world : World) : Prop where
  frame : given.frame world.db
  job : ∃ row, world.db.jobs.get? given.jobId = some row ∧ row.state = .running ∧
    (world.db.stepsOf given.jobId).length ≤ row.expectedSteps.getD 0
  positions : (world.db.stepsOf given.jobId).map JobStep.position =
    List.range' 1 (world.db.stepsOf given.jobId).length
  begun : ∀ state ∈ statesOf given world, state ≠ .pending
  earlier : ∀ state ∈ (statesOf given world).dropLast, state.passed = true

/-- The job has `left` steps still to come: those in `closed` are done, and after them there is
`doing`, if one is open.  The entries in `heard` are in the log. -/
structure Steady (given : Assignment) (heard : List Entry) (left : Nat) (closed : List StepState)
    (doing : Option Nat) (world : World) : Prop where
  current : world.currentJob = some given.jobId
  whole : world.sessionBroken = false
  heard : ∀ entry ∈ heard, entry ∈ world.log
  frame : given.frame world.db
  job : ∃ row, world.db.jobs.get? given.jobId = some row ∧ row.state = .running ∧
    row.expectedSteps = some (closed.length + doing.toList.length + left)
  positions : (world.db.stepsOf given.jobId).map JobStep.position =
    List.range' 1 (closed.length + doing.toList.length)
  states : statesOf given world = closed ++ doing.toList.map fun _ => .running
  clean : ∀ state ∈ closed, state.passed = true
  newest : ∀ id ∈ doing, ∃ olds last, world.db.stepsOf given.jobId = olds ++ [last] ∧ last.id = id

/-- Between two steps of its program the job has counted the steps it has. -/
structure Going (given : Assignment) (heard : List Entry) (left : Nat) (closed : List StepState)
    (doing : Option Nat) (world : World) : Prop extends
    Steady given heard left closed doing world where
  counted : world.nextPosition = closed.length + doing.toList.length

variable {contract : Contract semantics} {given : Assignment} {heard : List Entry} {left : Nat}
  {closed : List StepState} {doing : Option Nat} {world after : World} {db : Database}

theorem Steady.length (steady : Steady given heard left closed doing world) :
    (world.db.stepsOf given.jobId).length = closed.length + doing.toList.length := by
  have states := congrArg List.length steady.states
  simpa [statesOf] using states

theorem Steady.underway (steady : Steady given heard left closed doing world) :
    Underway given world := by
  obtain ⟨row, found, running, announced⟩ := steady.job
  refine ⟨steady.frame, ⟨row, found, running, ?_⟩, ?_, fun state listed => ?_, fun state listed => ?_⟩
  · rw [announced, steady.length]
    exact Nat.le_add_right _ _
  · rw [steady.length]
    exact steady.positions
  · rw [steady.states] at listed
    rcases List.mem_append.mp listed with earlier | newest
    · exact (StepState.passed_spec (steady.clean state earlier)).2.2
    · obtain ⟨-, -, rfl⟩ := List.mem_map.mp newest
      decide
  · apply steady.clean
    rw [steady.states] at listed
    cases doing with
    | none => exact List.dropLast_subset _ (by simpa using listed)
    | some step => simpa using listed

/-- A job at work shows nothing that only a finished one may show. -/
theorem Underway.held (underway : Underway given world) : Over given world := by
  obtain ⟨row, found, running, announced⟩ := underway.job
  refine ⟨underway.frame, ⟨fun other known => ?_, fun absent => ?_⟩, fun other known ended => ?_⟩
  · rw [found] at known
    cases known
    exact ⟨underway.positions, announced, by simp [running], by simp [running], by simp [running],
      by simp [running]⟩
  · rw [found] at absent
    cases absent
  · rw [found] at known
    cases known
    rw [running] at ended
    cases ended

/-- Nothing the step log is read from has changed. -/
theorem Underway.moved (underway : Underway given world) (same : after.db = world.db) :
    Underway given after := by
  obtain ⟨frame, job, positions, begun, earlier⟩ := underway
  rw [statesOf] at begun earlier
  rw [← same] at frame job positions begun earlier
  exact ⟨frame, job, positions, begun, earlier⟩

theorem Steady.moved (steady : Steady given heard left closed doing world)
    (same : after.db = world.db) (log : ∀ entry ∈ world.log, entry ∈ after.log)
    (current : after.currentJob = world.currentJob)
    (whole : after.sessionBroken = world.sessionBroken) :
    Steady given heard left closed doing after := by
  obtain ⟨current', whole', heard', frame, job, positions, states, clean, newest⟩ := steady
  rw [statesOf] at states
  rw [← same] at frame job positions states newest
  exact ⟨current.trans current', whole.trans whole', fun entry listed => log entry (heard' entry listed),
    frame, job, positions, states, clean, newest⟩

/-- A commit that concerns neither the jobs nor the steps. -/
theorem Going.stored (terms : Terms contract given)
    (going : Going given heard left closed doing world) (jobs : db.jobs = world.db.jobs)
    (steps : db.steps = world.db.steps) :
    Going given heard left closed doing { world with db := db } := by
  have same : ∀ id, db.stepsOf id = world.db.stepsOf id := by
    intro id
    rw [Database.stepsOf, steps, Database.stepsOf]
  obtain ⟨⟨current, whole, heard', frame, job, positions, states, clean, newest⟩, counted⟩ := going
  rw [statesOf] at states
  rw [← same] at positions states newest
  rw [← jobs] at job
  refine ⟨⟨current, whole, heard', ?_, job, positions, states, clean, newest⟩, counted⟩
  exact terms.worked frame fun id _ => ⟨by rw [jobs], same id⟩

section Stable

variable (terms : Terms contract given)

include terms

theorem Over.passed (held : Over given world) (passed : contract.rely world after) :
    Over given after := by
  have others := terms.others passed
  have kept := others.db
  have steps : after.db.stepsOf given.jobId = world.db.stepsOf given.jobId := by
    rw [Database.stepsOf, kept.steps, Database.stepsOf]
  refine ⟨terms.passed held.frame passed, held.logs.kept kept, fun row found ended => ?_⟩
  rw [statesOf, steps, others.log]
  rcases kept.newJobs _ row found with known | ⟨-, queued⟩
  · exact held.result row known ended
  · rw [queued] at ended
    cases ended

theorem Underway.passed (underway : Underway given world) (passed : contract.rely world after) :
    Underway given after := by
  have kept := (terms.others passed).db
  have steps : after.db.stepsOf given.jobId = world.db.stepsOf given.jobId := by
    rw [Database.stepsOf, kept.steps, Database.stepsOf]
  obtain ⟨frame, ⟨row, found, started⟩, positions, begun, earlier⟩ := underway
  rw [statesOf] at begun earlier
  rw [← steps] at started positions begun earlier
  exact ⟨terms.passed frame passed, ⟨row, kept.jobs _ row found, started⟩, positions, begun, earlier⟩

theorem Steady.passed (steady : Steady given heard left closed doing world)
    (passed : contract.rely world after) : Steady given heard left closed doing after := by
  have others := terms.others passed
  have steps : after.db.stepsOf given.jobId = world.db.stepsOf given.jobId := by
    rw [Database.stepsOf, others.db.steps, Database.stepsOf]
  obtain ⟨current, whole, heard', frame, ⟨row, found, started⟩, positions, states, clean, newest⟩ :=
    steady
  rw [statesOf] at states
  rw [← steps] at positions states newest
  rw [← others.log] at heard'
  exact ⟨others.currentJob.trans current, others.sessionBroken.trans whole, heard',
    terms.passed frame passed, ⟨row, others.db.jobs _ row found, started⟩, positions, states, clean,
    newest⟩

theorem Going.passed (going : Going given heard left closed doing world)
    (passed : contract.rely world after) : Going given heard left closed doing after :=
  ⟨going.toSteady.passed terms passed, (terms.others passed).nextPosition.trans going.counted⟩

/-! ## Operations -/

/-- Any operation but a commit leaves a job underway. -/
theorem calm_at {op : Op} (calm : op.calm = true) (silent : op.counts = false)
    (going : Going given heard left closed doing world) :
    Safe contract (fun _ => Going given heard left closed doing) (fun _ => Underway given)
      (perform op) world := by
  apply safe_op
  intro event outcome after permitted performed
  have frame := Op.perform_frame performed
  have db : after.db = world.db := frame.db (by cases op <;> first | rfl | cases calm)
  have underway := going.underway.moved db
  rcases Op.perform_calm calm performed with ⟨applied, reached, -, rfl⟩ | ⟨whole, -⟩
  · exact .error (terms.keeps underway.held) fun later passed => underway.passed terms passed
  · have log : ∀ entry ∈ world.log, entry ∈ after.log :=
      fun _ sent => Op.mem_log_of_perform performed sent
    have counter := Op.nextPosition_of_perform silent performed
    have still : Going given heard left closed doing after :=
      ⟨going.toSteady.moved db log (frame.currentJob (by cases op <;> first | rfl | cases calm)) whole,
        counter.trans going.counted⟩
    cases outcome with
    | ok value =>
        exact .ok (terms.keeps underway.held) fun later passed => still.passed terms passed
    | error error =>
        exact .error (terms.keeps underway.held) fun later passed => underway.passed terms passed

/-- A commit of a job at work, which is stored or leaves everything as it is. -/
theorem commit_at {writes : List Write} {good : Inserted → World → Prop}
    (whole : world.sessionBroken = false) (underway : Underway given world)
    (stable : ∀ {inserted before after}, good inserted before → contract.rely before after →
      good inserted after)
    (started : ∀ {inserted after}, good inserted after → Underway given after)
    (stored : ∀ db inserted, world.db.commit world.clock writes = .ok (db, inserted) →
      good inserted { world with db := db }) :
    Safe contract good (fun _ => Underway given) (commit .job writes) world := by
  have lost : Underway given { world with sessionBroken := true } := underway.moved rfl
  refine safe_commit ?_ ?_ ?_ ?_
  · intro db inserted _ _ committed
    have kept := stored db inserted committed
    exact .ok (terms.keeps (started kept).held) fun later passed => stable kept passed
  · intro error _ _ _
    exact .error (terms.keeps lost.held) fun later passed => lost.passed terms passed
  · intro _ broken
    rw [whole] at broken
    cases broken
  · intro applied reached _
    constructor
    · exact .error (terms.keeps lost.held) fun later passed => lost.passed terms passed
    · intro db inserted _ committed
      have kept : Underway given { world with db := db, sessionBroken := true } :=
        (started (stored db inserted committed)).moved rfl
      exact .error (terms.keeps kept.held) fun later passed => kept.passed terms passed

/-- A commit that leads a job from one step to the next. -/
theorem going_at {writes : List Write} {left' : Nat} {closed' : List StepState}
    {next : Option Nat} (going : Going given heard left closed doing world)
    (stored : ∀ db inserted, world.db.commit world.clock writes = .ok (db, inserted) →
      Going given heard left' closed' next { world with db := db }) :
    Safe contract (fun _ => Going given heard left' closed' next) (fun _ => Underway given)
      (commit .job writes) world :=
  commit_at terms going.whole going.underway (fun going passed => going.passed terms passed)
    (fun going => going.underway) stored

/-- A new step takes the next position and one of the steps still to come. -/
theorem addStep_at (description : String) (going : Going given heard (left + 1) closed none world) :
    Safe contract (fun step => Going given heard left closed (some step))
      (fun _ => Underway given) (addStep given.jobId description) world := by
  have counting : Safe contract (fun (position : Nat) after => position = closed.length + 1 ∧
      after.nextPosition = closed.length + 1 ∧ Steady given heard (left + 1) closed none after)
      (fun _ => Underway given) advancePosition world := by
    apply safe_op
    intro event outcome after permitted performed
    cases event <;> cases performed
    have counter : world.nextPosition + 1 = closed.length + 1 := congrArg (· + 1) going.counted
    have steady : Steady given heard (left + 1) closed none
        { world with nextPosition := world.nextPosition + 1 } :=
      going.toSteady.moved rfl (fun _ listed => listed) rfl rfl
    refine .ok (terms.keeps steady.underway.held) fun later passed => ⟨counter, ?_, ?_⟩
    · exact (terms.others passed).nextPosition.trans counter
    · exact steady.passed terms passed
  refine Safe.bind counting ?_
  rintro _ before ⟨rfl, counter, steady⟩
  let opened (now : Time) : JobStep :=
    { jobId := given.jobId, position := closed.length + 1, description, state := .running
      startedAt := some now }
  have added : ∀ db inserted, before.db.commit before.clock [.addStep opened] = .ok (db, inserted) →
      Going given heard left closed (some inserted.step) { before with db := db } := by
    intro db inserted committed
    rw [Database.commit_addStep] at committed
    cases committed
    have own : ((before.db.steps.insert (opened before.clock)).rows.filter
        fun row => row.jobId = given.jobId) = before.db.stepsOf given.jobId ++
          [{ opened before.clock with id := before.db.steps.nextId }] := by
      simp [Table.insert, Database.stepsOf, Keyed.withId, opened]
    have others : ∀ id, id ≠ given.jobId → ((before.db.steps.insert (opened before.clock)).rows.filter
        fun row => row.jobId = id) = before.db.stepsOf id := by
      intro id other
      simp [Table.insert, Database.stepsOf, Keyed.withId, opened, Ne.symm other]
    obtain ⟨row, found, running, announced⟩ := steady.job
    have positions := steady.positions
    have states := steady.states
    refine ⟨⟨steady.current, steady.whole, steady.heard,
      terms.worked steady.frame fun id other => ⟨rfl, others id other⟩, ⟨row, found, running, ?_⟩,
      ?_, ?_, steady.clean, ?_⟩, counter⟩
    · rw [announced]
      simp [Nat.add_comm, Nat.add_left_comm]
    · rw [Database.stepsOf, own, List.map_append, positions]
      simp [opened, List.range'_concat, Nat.add_comm]
    · rw [statesOf] at states ⊢
      rw [Database.stepsOf, own, List.map_append, states]
      simp [opened]
    · rintro step ⟨⟩
      exact ⟨_, _, own, rfl⟩
  have committing : Safe contract (fun inserted => Going given heard left closed (some inserted.step))
      (fun _ => Underway given) (commit .job [.addStep opened]) before :=
    commit_at terms steady.whole steady.underway (fun going passed => going.passed terms passed)
      (fun going => going.underway) added
  exact Safe.bind committing fun inserted after begun => begun

/-- What a commit comes to that changes the newest step. -/
theorem Steady.changed {step : Nat} {change : JobStep → JobStep}
    (steady : Steady given heard left closed (some step) world) (jobs : db.jobs = world.db.jobs)
    (steps : db.steps = world.db.steps.update step change)
    (same : ∀ row, (change row).jobId = row.jobId ∧ (change row).position = row.position) :
    given.frame db ∧
      (db.stepsOf given.jobId).map JobStep.position = List.range' 1 (closed.length + 1) ∧
      ∃ olds last, olds.map JobStep.state = closed ∧ last.state = .running ∧
        db.stepsOf given.jobId = olds ++ [{ change last with id := step }] := by
  obtain ⟨olds, last, rows, newest⟩ := steady.newest step rfl
  have listed : last ∈ world.db.stepsOf given.jobId := by simp [rows]
  have owner : last.jobId = given.jobId := by simpa using (List.mem_filter.mp listed).2
  have stored : world.db.steps.get? step = some last := by
    rw [← newest]
    exact Table.mem_rows_iff.mp (List.mem_of_mem_filter listed)
  have own : db.stepsOf given.jobId = olds ++ [{ change last with id := step }] := by
    rw [Database.stepsOf, steps]
    exact Database.rows_update_last (fun row => (same row).1) rows newest
  have states := steady.states
  simp only [statesOf, rows, List.map_append, List.map_cons, List.map_nil, Option.toList_some] at states
  obtain ⟨earlier, now⟩ := List.append_inj' states rfl
  have positions := steady.positions
  rw [rows] at positions
  refine ⟨terms.worked steady.frame fun id other => ⟨by rw [jobs], ?_⟩, ?_, olds, last, earlier,
    by simpa using now, own⟩
  · rw [Database.stepsOf, steps]
    apply Database.rows_update_other fun row => (same row).1
    intro row found
    rw [stored] at found
    cases found
    rw [owner]
    exact Ne.symm other
  · rw [own]
    simpa [(same last).2] using positions

/-- A change of the open step that leaves it open. -/
theorem noteStep_at {step : Nat} {change : Time → JobStep → JobStep}
    (going : Going given heard left closed (some step) world)
    (same : ∀ now row, (change now row).jobId = row.jobId ∧
      (change now row).position = row.position ∧ (change now row).state = row.state) :
    Safe contract (fun _ => Going given heard left closed (some step)) (fun _ => Underway given)
      (commit .job [.setStep step change]) world := by
  apply going_at terms going
  intro db inserted committed
  obtain ⟨jobs, steps, -, -⟩ := Database.writeAll_tables committed
  obtain ⟨frame, positions, olds, last, states, running, own⟩ :=
    going.changed terms jobs steps fun row => ⟨(same _ row).1, (same _ row).2.1⟩
  have job := going.job
  rw [← show db.jobs = world.db.jobs from jobs] at job
  refine ⟨⟨going.current, going.whole, going.heard, frame, job, positions, ?_, going.clean, ?_⟩,
    going.counted⟩
  · rw [statesOf, own]
    simp [states, (same world.clock last).2.2, running]
  · rintro other ⟨⟩
    exact ⟨olds, _, own, rfl⟩

/-- A commit that ends the open step well. -/
theorem Going.ended {step : Nat} {state : StepState} {change : JobStep → JobStep}
    (going : Going given heard left closed (some step) world) (jobs : db.jobs = world.db.jobs)
    (steps : db.steps = world.db.steps.update step change)
    (same : ∀ row, (change row).jobId = row.jobId ∧ (change row).position = row.position ∧
      (change row).state = state) (passed : state.passed = true) :
    Going given heard left (closed ++ [state]) none { world with db := db } := by
  obtain ⟨frame, positions, olds, last, states, -, own⟩ :=
    going.changed terms jobs steps fun row => ⟨(same row).1, (same row).2.1⟩
  obtain ⟨row, found, running, announced⟩ := going.job
  rw [← jobs] at found
  refine ⟨⟨going.current, going.whole, going.heard, frame, ⟨row, found, running, ?_⟩, ?_, ?_, ?_,
    nofun⟩, ?_⟩
  · rw [announced]
    simp
  · simpa using positions
  · rw [statesOf, own]
    simp [states, (same last).2.2]
  · intro other listed
    rcases List.mem_append.mp listed with earlier | last
    · exact going.clean other earlier
    · rw [List.mem_singleton.mp last]
      exact passed
  · simpa using going.counted

theorem finishStep_at {step : Nat} {state : StepState} (output : String)
    (passed : state.passed = true) (going : Going given heard left closed (some step) world) :
    Safe contract (fun _ => Going given heard left (closed ++ [state]) none)
      (fun _ => Underway given) (finishStep step state output) world := by
  have ending : Safe contract (fun _ => Going given heard left (closed ++ [state]) none)
      (fun _ => Underway given) (commit .job [endStep step state output]) world := by
    apply going_at terms going
    intro db inserted committed
    obtain ⟨jobs, steps, -, -⟩ := Database.writeAll_tables committed
    exact going.ended terms jobs steps (fun _ => ⟨rfl, rfl, rfl⟩) passed
  exact Safe.bind ending fun _ _ finished => finished

/-- The step that fails is the newest one. -/
theorem failedStep_at {step : Nat} (output : String)
    (going : Going given heard left closed (some step) world) :
    Safe contract (fun _ => Underway given) (fun _ => Underway given)
      (finishStep step .failed output) world := by
  have stored : ∀ db inserted, world.db.commit world.clock [endStep step .failed output] =
      .ok (db, inserted) → Underway given { world with db := db } := by
    intro db inserted committed
    obtain ⟨jobs, steps, -, -⟩ := Database.writeAll_tables committed
    obtain ⟨frame, positions, olds, last, states, -, own⟩ :=
      going.changed terms jobs steps fun _ => ⟨rfl, rfl⟩
    obtain ⟨row, found, running, announced⟩ := going.job
    rw [← show db.jobs = world.db.jobs from jobs] at found
    have length : (db.stepsOf given.jobId).length = closed.length + 1 := by
      simpa using congrArg List.length positions
    have after : statesOf given { world with db := db } = closed ++ [.failed] := by
      rw [statesOf, own]
      simp [states]
    refine ⟨frame, ⟨row, found, running, ?_⟩, ?_, ?_, ?_⟩
    · rw [length, announced]
      simp
    · rw [length]
      exact positions
    · intro state listed
      rw [after] at listed
      rcases List.mem_append.mp listed with earlier | newest
      · exact (StepState.passed_spec (going.clean state earlier)).2.2
      · rw [List.mem_singleton.mp newest]
        decide
    · intro state listed
      apply going.clean state
      rw [after] at listed
      simpa using listed
  have ending : Safe contract (fun _ => Underway given) (fun _ => Underway given)
      (commit .job [endStep step .failed output]) world :=
    commit_at terms going.whole going.underway (fun underway passed => underway.passed terms passed)
      id stored
  exact Safe.bind ending fun _ _ underway => underway

end Stable

/-! ## The steps a program makes -/

/-- Unless it raises, the program adds steps that end in these states, in this order. -/
def Makes {α : Type} (contract : Contract semantics) (given : Assignment) (heard : List Entry)
    (program : Program α) (marks : List StepState) : Prop :=
  ∀ left closed world, Going given heard (marks.length + left) closed none world →
    Safe contract (fun _ => Going given heard left (closed ++ marks) none)
      (fun _ => Underway given) program world

section Makes

variable {α β : Type} {marks later : List StepState}

theorem makes_done (value : α) : Makes contract given heard (.done value) [] := by
  intro left closed world going
  rw [List.append_nil]
  simpa using going

theorem makes_raised (error : Exn) : Makes contract given heard (.raised error : Program α) marks :=
  fun _ _ _ going => going.underway

theorem Makes.bind {program : Program α} {next : α → Program β}
    (first : Makes contract given heard program marks)
    (rest : ∀ value, Makes contract given heard (next value) later) :
    Makes contract given heard (program.bind next) (marks ++ later) := by
  intro left closed world going
  rw [List.length_append, Nat.add_assoc] at going
  refine Safe.bind (first _ _ _ going) fun value after going => ?_
  rw [← List.append_assoc]
  exact rest value _ _ _ going

/-- A loop that makes one step in each turn. -/
theorem Makes.foldEach {items : List β} {body : α → β → Program α} {value : α}
    (mark : β → StepState)
    (turn : ∀ item value, Makes contract given heard (body value item) [mark item]) :
    Makes contract given heard (foldEach items value body) (items.map mark) := by
  induction items generalizing value with
  | nil => exact makes_done value
  | cons item rest inductionHypothesis =>
      rw [List.map_cons, ← List.singleton_append]
      exact Makes.bind (turn item value) fun next => inductionHypothesis

theorem Makes.forEach {items : List β} {body : β → Program Unit} (mark : β → StepState)
    (turn : ∀ item, Makes contract given heard (body item) [mark item]) :
    Makes contract given heard (forEach items body) (items.map mark) :=
  Makes.foldEach mark fun item _ => turn item

theorem makes_ofExcept (outcome : Except Exn α) :
    Makes contract given heard (Coroutine.ofExcept outcome) [] := by
  cases outcome with
  | ok value => exact makes_done value
  | error error => exact makes_raised error

variable (terms : Terms contract given)

include terms

theorem makes_calm {op : Op} (calm : op.calm = true) (silent : op.counts = false) :
    Makes contract given heard (perform op) [] := by
  intro left closed world going
  rw [List.append_nil]
  apply calm_at terms calm silent
  simpa using going

/-- A commit that concerns neither the jobs nor the steps makes no step. -/
theorem makes_commit {writes : List Write}
    (spares : ∀ (now : Time) (db : Database), writes.foldl (Write.onJobs now) db.jobs = db.jobs ∧
      writes.foldl (Write.onSteps now) db.steps = db.steps) :
    Makes contract given heard (commit .job writes) [] := by
  intro left closed world going
  rw [List.append_nil]
  rw [List.length_nil, Nat.zero_add] at going
  apply going_at terms going
  intro db inserted committed
  obtain ⟨jobs, steps, -, -⟩ := Database.writeAll_tables committed
  obtain ⟨sameJobs, sameSteps⟩ := spares world.clock world.db
  exact going.stored terms (jobs.trans sameJobs) (steps.trans sameSteps)

/-- A new step, and what the program does until it ends it. -/
theorem makes_step {description : String} {body : Nat → Program α} {mark : StepState}
    (ends : ∀ step left closed world, Going given heard left closed (some step) world →
      Safe contract (fun _ => Going given heard left (closed ++ [mark]) none)
        (fun _ => Underway given) (body step) world) :
    Makes contract given heard ((addStep given.jobId description).bind body) [mark] := by
  intro left closed world going
  rw [List.length_singleton, Nat.add_comm] at going
  exact Safe.bind (addStep_at terms description going) fun step after begun =>
    ends step left closed after begun

end Makes

/-! ## The work of a job -/

section Work

variable (terms : Terms contract given) {self : JobRunner} {mirrorSet : MirrorSet} {step : Nat}

include terms

theorem guardDisk_at (remainingBytes : Int)
    (going : Going given heard left closed (some step) world) :
    Safe contract (fun _ => Going given heard left closed (some step)) (fun _ => Underway given)
      (self.guardDisk remainingBytes) world := by
  refine Safe.bind (calm_at terms rfl rfl going) fun storage after going => ?_
  dsimp only
  split
  · exact going
  · exact going.underway

theorem pollTask_at (taskId : Int) (polls : Nat) (reported : Bool)
    (going : Going given heard left closed (some step) world) :
    Safe contract (fun _ => Going given heard left closed (some step)) (fun _ => Underway given)
      (self.pollTask step taskId polls reported) world := by
  apply safe_pollTask (Going given heard left closed (some step))
    (fun _ => Going given heard left closed (some step))
    fun _ => Going given heard left closed (some step)
  case looks =>
    intro world going
    refine (calm_at terms rfl rfl going).mono (fun task after going => ?_) fun _ _ kept => kept
    split <;> exact going
  case reads => exact calm_at terms rfl rfl
  case fails =>
    intro task output world _ going
    exact going.underway
  case succeeds => exact fun _ going => going
  case zeroes => exact fun _ going => noteStep_at terms going fun _ _ => ⟨rfl, rfl, rfl⟩
  case asks => exact calm_at terms rfl rfl
  case rests => exact fun going => going
  case notes => exact fun going => noteStep_at terms going fun _ _ => ⟨rfl, rfl, rfl⟩
  case guards => exact guardDisk_at terms _
  case sleeps => exact calm_at terms rfl rfl
  case held => exact going

theorem followTask_at (task : Task) (going : Going given heard left closed (some step) world) :
    Safe contract (fun _ => Going given heard left (closed ++ [.succeeded]) none)
      (fun _ => Underway given) (self.followTask step task) world := by
  refine Safe.bind (noteStep_at terms going fun _ _ => ⟨rfl, rfl, rfl⟩) fun _ _ going => ?_
  refine Safe.bind (pollTask_at terms task.id self.polls false going) fun output _ going => ?_
  exact finishStep_at terms output rfl going

/-- A call whose failure is noted on the step before the job gives up. -/
theorem noted_at {request : Request} (going : Going given heard left closed (some step) world) :
    Safe contract (fun _ => Going given heard left closed (some step)) (fun _ => Underway given)
      ((perform (.aptly request)).catching (JobRunner.failStep step)) world := by
  have answered : ∀ outcome carriedOut reached, Going given heard left closed (some step)
      (world.record request outcome carriedOut reached) := by
    intro outcome carriedOut reached
    exact ⟨going.toSteady.moved rfl (fun entry listed => List.mem_cons_of_mem _ listed) rfl rfl,
      going.counted⟩
  have caught : ∀ (error : Exn) after, Going given heard left closed (some step) after →
      Safe contract (fun _ => Going given heard left closed (some step)) (fun _ => Underway given)
        (JobRunner.failStep step error : Program request.Ret) after := by
    intro error after going
    apply safe_failStep
    · exact fun _ => failedStep_at terms error.str going
    · exact fun _ => going.underway
  apply Coroutine.safe_catching.mpr
  apply safe_aptly
  · intro body reached _
    have still := answered (.ok body) true reached
    refine ⟨terms.keeps still.underway.held, fun later passed => ?_⟩
    cases request.parse body with
    | ok value => exact still.passed terms passed
    | error error => exact caught error later (still.passed terms passed)
  · intro error carriedOut reached _ _
    have still := answered (.error error) carriedOut reached
    exact .error (terms.keeps still.underway.held) fun later passed =>
      caught error later (still.passed terms passed)
  · intro applied reached _
    have still := answered (.error .cancelled) applied reached
    exact .error (terms.keeps still.underway.held) fun later passed =>
      caught .cancelled later (still.passed terms passed)

/-! ### Create -/

theorem createEach_makes {existing : List String} (pair : String × String) :
    Makes contract given heard
      (JobRunner.createEach given.jobId mirrorSet existing pair.1 pair.2)
      [createMark mirrorSet existing pair] := by
  apply makes_step terms
  intro step left closed world going
  by_cases present : mirrorSet.mirrorName pair.1 pair.2 ∈ existing
  · rw [specFor_name, if_pos present, createMark, if_pos present]
    exact finishStep_at terms _ rfl going
  · rw [specFor_name, if_neg present, createMark, if_neg present]
    exact Safe.bind (calm_at terms rfl rfl going) fun _ _ going => finishStep_at terms _ rfl going

/-- aptly is asked for its mirrors, and each mirror has a step. -/
theorem create_at (going : Going given heard (mirrorSet.pairs.length + left) closed none world) :
    Safe contract
      (fun _ after => ∃ mirrors : List Mirror,
        Going given (⟨some given.jobId, .listMirrors, .ok (.mirrors mirrors), true⟩ :: heard) left
          (closed ++ mirrorSet.pairs.map (createMark mirrorSet (mirrors.map Mirror.name))) none after)
      (fun _ => Underway given) (JobRunner.create given.jobId mirrorSet) world := by
  have asked : Safe contract (fun (mirrors : List Mirror) =>
      Going given (⟨some given.jobId, .listMirrors, .ok (.mirrors mirrors), true⟩ :: heard)
        (mirrorSet.pairs.length + left) closed none) (fun _ => Underway given)
      (perform (.aptly .listMirrors)) world := by
    apply safe_aptly
    · intro body reached _
      have still : Going given (⟨some given.jobId, .listMirrors, .ok body, true⟩ :: heard)
          (mirrorSet.pairs.length + left) closed none
          (world.record .listMirrors (.ok body) true reached) := by
        refine ⟨⟨going.current, going.whole, fun entry listed => ?_, going.frame, going.job,
          going.positions, going.states, going.clean, going.newest⟩, going.counted⟩
        rw [World.record_log, going.current]
        rcases List.mem_cons.mp listed with rfl | earlier
        · exact List.mem_cons_self
        · exact List.mem_cons_of_mem _ (going.heard entry earlier)
      refine ⟨terms.keeps still.underway.held, fun later passed => ?_⟩
      cases body with
      | mirrors mirrors => exact still.passed terms passed
      | _ => exact (still.passed terms passed).underway
    · intro error carriedOut reached _ _
      have still : Underway given
          (world.record .listMirrors (.error error) carriedOut reached) := going.underway.moved rfl
      exact .error (terms.keeps still.held) fun later passed => still.passed terms passed
    · intro applied reached _
      have still : Underway given
          (world.record .listMirrors (.error .cancelled) applied reached) := going.underway.moved rfl
      exact .error (terms.keeps still.held) fun later passed => still.passed terms passed
  refine Safe.bind asked fun mirrors after going => ?_
  rw [JobRunner.createAll_eq]
  refine (Makes.forEach (createMark mirrorSet (mirrors.map Mirror.name))
    (createEach_makes terms) _ _ _ ?_).mono (fun _ _ going => ⟨mirrors, going⟩) fun _ _ failed => failed
  rw [List.length_map]
  exact going

/-! ### Update -/

theorem preflight_makes :
    Makes contract given heard (self.preflight given.jobId mirrorSet) [.succeeded] := by
  apply makes_step terms
  intro step left closed world going
  refine Safe.bind (calm_at terms rfl rfl going) fun mirrors _ going => ?_
  dsimp only
  split
  · exact Safe.bind (failedStep_at terms _ going) fun _ _ underway => underway
  · refine Safe.bind (calm_at terms rfl rfl going) fun storage _ going => ?_
    split
    · exact finishStep_at terms _ rfl going
    · exact Safe.bind (failedStep_at terms _ going) fun _ _ underway => underway

theorem sync_makes : Makes contract given heard (self.sync given.jobId mirrorSet)
    (mirrorSet.pairs.map fun _ => .succeeded) := by
  rw [JobRunner.sync_eq]
  apply Makes.forEach
  intro pair
  apply makes_step terms
  intro step left closed world going
  exact Safe.bind (calm_at terms rfl rfl going) fun task _ going => followTask_at terms task going

theorem takeSnapshots_makes (stamp : String) (snapshotSet : Nat) :
    Makes contract given heard (JobRunner.takeSnapshots given.jobId mirrorSet stamp snapshotSet)
      (mirrorSet.pairs.map fun _ => .succeeded) := by
  rw [JobRunner.takeSnapshots_eq]
  apply Makes.foldEach
  intro pair taken
  apply makes_step terms
  intro step left closed world going
  refine Safe.bind (calm_at terms rfl rfl going) fun _ before going => ?_
  refine Safe.bind (going_at terms going fun db inserted committed => ?_) fun _ _ going => going
  obtain ⟨jobs, steps, -, -⟩ := Database.writeAll_tables committed
  exact going.ended terms jobs steps (fun _ => ⟨rfl, rfl, rfl⟩) rfl

theorem update_makes : Makes contract given heard (self.update given.jobId mirrorSet)
    ([.succeeded] ++ ((mirrorSet.pairs.map fun _ => .succeeded) ++
      mirrorSet.pairs.map fun _ => .succeeded)) := by
  apply Makes.bind (preflight_makes terms)
  intro _
  apply Makes.bind (makes_calm terms rfl rfl)
  intro moment
  apply Makes.bind (makes_commit terms fun _ _ => ⟨rfl, rfl⟩)
  intro inserted
  apply Makes.bind (sync_makes terms)
  intro _
  rw [← List.append_nil (List.map _ mirrorSet.pairs)]
  apply Makes.bind (takeSnapshots_makes terms _ _)
  intro _
  exact Makes.bind (makes_commit terms fun _ _ => ⟨rfl, rfl⟩) fun _ => makes_done ()

/-! ### Discard and remove -/

theorem reclaimSpace_makes :
    Makes contract given heard (self.reclaimSpace given.jobId) [.succeeded] := by
  apply makes_step terms
  intro step left closed world going
  exact Safe.bind (calm_at terms rfl rfl going) fun task _ going => followTask_at terms task going

theorem deleteSnapshotEach_makes (name : String) :
    Makes contract given heard (JobRunner.deleteSnapshotEach given.jobId name) [.succeeded] := by
  apply makes_step terms
  intro step left closed world going
  exact Safe.bind (noted_at terms going) fun _ _ going => finishStep_at terms _ rfl going

theorem deleteMirrorEach_makes (name : String) :
    Makes contract given heard (self.deleteMirrorEach given.jobId name) [.succeeded] := by
  apply makes_step terms
  intro step left closed world going
  exact Safe.bind (noted_at terms going) fun task _ going => followTask_at terms task going

theorem discard_makes (params : JobParams) :
    Makes contract given heard (self.discard given.jobId params)
      (((params.snapshots.getD []).map fun _ => .succeeded) ++ [.succeeded]) := by
  apply Makes.bind (Makes.forEach _ (deleteSnapshotEach_makes terms))
  intro _
  rw [← List.append_nil [StepState.succeeded]]
  apply Makes.bind (reclaimSpace_makes terms)
  intro _
  split
  · exact makes_done ()
  · apply Makes.bind (makes_calm terms rfl rfl)
    intro found
    split
    · exact makes_done ()
    · exact Makes.bind (makes_commit terms fun _ _ => ⟨rfl, rfl⟩) fun _ => makes_done ()

/-- Forgetting a mirror set changes the job's row, but not what it says about the steps. -/
theorem forget_makes (owned : List SnapshotSet) (id : Nat) :
    Makes contract given heard
      (commit .job (.setJob given.jobId (fun _ job => { job with mirrorSetId := none })
        :: owned.map (fun row => .deleteSnapshotSet row.id) ++ [.deleteMirrorSet id])) [] := by
  intro left closed world going
  rw [List.append_nil]
  rw [List.length_nil, Nat.zero_add] at going
  apply going_at terms going
  intro db inserted committed
  obtain ⟨row, found, running, announced⟩ := going.job
  rw [List.cons_append, Database.commit_setJob _ _ (Option.isSome_of_eq_some found),
    Database.commit_forget] at committed
  cases committed
  refine ⟨⟨going.current, going.whole, going.heard, ?_, ?_, going.positions, going.states,
    going.clean, going.newest⟩, going.counted⟩
  · apply terms.worked going.frame
    intro other different
    simp only [Table.get?_update, if_neg different]
    exact ⟨trivial, rfl⟩
  · simp only [Table.get?_update, found, Option.map_some]
    exact ⟨_, rfl, running, announced⟩

theorem remove_makes (params : JobParams) (loaded : Option MirrorSet) :
    Makes contract given heard (self.remove given.jobId params loaded)
      (((params.mirrors.getD []).map fun _ => .succeeded) ++ [.succeeded]) := by
  apply Makes.bind (Makes.forEach _ (deleteMirrorEach_makes terms))
  intro _
  have reading : ∀ id, Makes contract given heard (JobRunner.getLoaded loaded id) [] := by
    intro id
    unfold JobRunner.getLoaded
    split
    · split
      · exact makes_done _
      · exact makes_calm terms rfl rfl
    · exact makes_calm terms rfl rfl
  rw [← List.append_nil [StepState.succeeded]]
  apply Makes.bind (reclaimSpace_makes terms)
  intro _
  split
  · exact makes_done ()
  · apply Makes.bind (reading _)
    intro found
    split
    · exact makes_done ()
    · apply Makes.bind (makes_calm terms rfl rfl)
      intro owned
      exact Makes.bind (forget_makes terms owned _) fun _ => makes_done ()

/-! ### Switch -/

theorem publishEach_makes {target : SnapshotSet} {published : Dict (String × String) Published}
    (suite : String) :
    Makes contract given heard
      (self.publishEach given.jobId mirrorSet target published suite) [.succeeded] := by
  apply Makes.bind (makes_ofExcept _)
  intro sources
  apply makes_step terms
  intro step left closed world going
  dsimp only
  split
  · exact Safe.bind (calm_at terms rfl rfl going) fun task _ going => followTask_at terms task going
  · exact Safe.bind (calm_at terms rfl rfl going) fun task _ going => followTask_at terms task going

theorem verify_makes {target : SnapshotSet} :
    Makes contract given heard (JobRunner.verify given.jobId mirrorSet target) [.succeeded] := by
  apply makes_step terms
  intro step left closed world going
  refine Safe.bind (calm_at terms rfl rfl going) fun actual _ going => ?_
  cases JobRunner.verifyProblems mirrorSet target (JobRunner.byPlace actual) with
  | error error => exact going.underway
  | ok problems =>
      by_cases wrong : problems ≠ []
      · simp only [Coroutine.ofExcept, Coroutine.bind_eq, Coroutine.done_bind, if_pos wrong]
        exact Safe.bind (failedStep_at terms _ going) fun _ _ underway => underway
      · simp only [Coroutine.ofExcept, Coroutine.bind_eq, Coroutine.done_bind, if_neg wrong]
        exact finishStep_at terms _ rfl going

theorem checkAsClient_makes (publicUrl : String) :
    Makes contract given heard (JobRunner.checkAsClient given.jobId mirrorSet publicUrl)
      [.succeeded] := by
  apply makes_step terms
  intro step left closed world going
  refine Safe.bind (Safe.foldEach (fun _ _ => Going given heard left closed (some step)) going
    fun suite _ checks _ going => ?_) fun checks _ going => ?_
  · exact Safe.bind (calm_at terms rfl rfl going) fun check _ going => going
  · dsimp only
    split
    · exact Safe.bind (failedStep_at terms _ going) fun _ _ underway => underway
    · exact finishStep_at terms _ rfl going

/-- The steps of a SWITCH job. -/
def switchMarks (mirrorSet : MirrorSet) : List StepState :=
  (mirrorSet.suites.map fun _ => .succeeded) ++
    ([.succeeded] ++ if mirrorSet.publicUrl.getD "" = "" then [] else [.succeeded])

theorem publishSuites_makes (target : SnapshotSet) :
    Makes contract given heard (self.publishSuites given.jobId mirrorSet target)
      (switchMarks mirrorSet) := by
  have ordered : (mirrorSet.suites.map fun _ => StepState.succeeded) =
      (orderSuites mirrorSet.suites).map fun _ => .succeeded := by
    simp [List.map_const']
  rw [switchMarks, ordered]
  apply Makes.bind (makes_calm terms rfl rfl)
  intro published
  apply Makes.bind (Makes.forEach _ (publishEach_makes terms))
  intro _
  apply Makes.bind (verify_makes terms)
  intro _
  cases mirrorSet.publicUrl with
  | none => exact makes_done ()
  | some publicUrl =>
      dsimp only [Option.getD_some]
      split
      · exact makes_done ()
      · exact checkAsClient_makes terms publicUrl

theorem switch_makes (params : JobParams) :
    Makes contract given heard (self.switch given.jobId params mirrorSet) (switchMarks mirrorSet) := by
  unfold JobRunner.switch
  split
  · exact makes_raised _
  · apply Makes.bind (makes_calm terms rfl rfl)
    intro found
    split
    · exact makes_raised _
    · split
      · exact makes_raised _
      · split
        · exact makes_raised _
        · exact publishSuites_makes terms _

omit terms in
theorem Outcome.mono {jobId : Nat} {job : Job} {loaded : Option MirrorSet} {log : List Entry}
    (outcome : Outcome jobId job loaded heard closed) (longer : ∀ entry ∈ heard, entry ∈ log) :
    Outcome jobId job loaded log closed := by
  refine ⟨fun create => ?_, outcome.others⟩
  obtain ⟨mirrorSet, described, mirrors, answered, states⟩ := outcome.created create
  exact ⟨mirrorSet, described, mirrors, longer _ answered, states⟩

omit terms in
theorem length_switchMarks (mirrorSet : MirrorSet) :
    (switchMarks mirrorSet).length = expectedSteps .switch (some mirrorSet) := by
  by_cases absent : mirrorSet.publicUrl.getD "" = ""
  · simp [switchMarks, expectedSteps, absent]
  · simp [switchMarks, expectedSteps, absent]

/-- A job that goes well makes as many steps as it has announced. -/
theorem execute_at {job : Job} {loaded : Option MirrorSet}
    (going : Going given [] (JobRunner.announcedSteps job loaded) [] none world) :
    Safe contract
      (fun _ after => ∃ heard closed, Going given heard 0 closed none after ∧
        Outcome given.jobId job loaded heard closed)
      (fun _ => Underway given) (self.execute given.jobId job loaded) world := by
  have plain : ∀ {program : Program Unit} {marks : List StepState},
      Makes contract given [] program marks →
      marks.length = JobRunner.announcedSteps job loaded → marks ≠ [] →
      (∀ state ∈ marks, state = .succeeded) → job.type ≠ .create →
      Safe contract (fun _ after => ∃ heard closed, Going given heard 0 closed none after ∧
        Outcome given.jobId job loaded heard closed) (fun _ => Underway given) program world := by
    intro program marks makes count some' well different
    rw [← count] at going
    exact (makes 0 [] world going).mono (fun _ after ended =>
      ⟨[], _, ended, fun create => absurd create different, fun _ => ⟨some', well⟩⟩) fun _ _ failed => failed
  have repeated : ∀ {β : Type} (items : List β), ∀ state ∈ items.map fun _ => StepState.succeeded,
      state = .succeeded := by
    intro β items state listed
    obtain ⟨-, -, rfl⟩ := List.mem_map.mp listed
    rfl
  have cleaned : ∀ names : List String, ∀ state ∈
      (names.map fun _ => StepState.succeeded) ++ [.succeeded], state = .succeeded := by
    intro names state listed
    rcases List.mem_append.mp listed with deleted | last
    · exact repeated names state deleted
    · exact List.mem_singleton.mp last
  unfold JobRunner.execute
  split
  · rename_i type
    apply plain (discard_makes terms job.params)
    · simp [JobRunner.announcedSteps, type, discardSteps]
    · simp
    · exact cleaned _
    · simp [type]
  · rename_i type
    apply plain (remove_makes terms job.params _)
    · simp [JobRunner.announcedSteps, type, discardSteps]
    · simp
    · exact cleaned _
    · simp [type]
  · exact going.underway
  · rename_i mirrorSet type
    have length : JobRunner.announcedSteps job (some mirrorSet) = mirrorSet.pairs.length + 0 := by
      simp [JobRunner.announcedSteps, type, expectedSteps, MirrorSet.length_pairs]
    rw [length] at going
    refine (create_at terms going).mono ?_ fun _ _ failed => failed
    rintro _ after ⟨mirrors, ended⟩
    refine ⟨_, _, ended, fun _ => ⟨mirrorSet, rfl, ?_⟩, fun other => absurd type other⟩
    exact ⟨mirrors, List.mem_cons_self, rfl⟩
  · rename_i mirrorSet type
    apply plain (update_makes terms)
    · simp [JobRunner.announcedSteps, type, expectedSteps, MirrorSet.length_pairs]
      omega
    · simp
    · simp
    · simp [type]
  · rename_i mirrorSet type
    apply plain (switch_makes terms job.params)
    · simp [JobRunner.announcedSteps, type, length_switchMarks]
    · simp [switchMarks]
    · intro state listed
      rw [switchMarks] at listed
      rcases List.mem_append.mp listed with published | later
      · exact repeated _ state published
      · split at later
        · simpa using later
        · simpa using later
    · simp [type]
  · exact going.underway

end Work

end StepLog

end AptlyGui
