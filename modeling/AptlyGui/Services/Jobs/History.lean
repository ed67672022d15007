import AptlyGui.Services.Jobs.Walk
import AptlyGui.Services.Jobs.StepLog
import AptlyGui.Services.Jobs.Audit

/-!
# History

What the database has recorded stays recorded.  A job moves from QUEUED over
RUNNING to one end and is not touched again, a step that is over is frozen, the
audit log only grows, and a COMPLETE snapshot set stays what it is until it is
deleted.  This holds along every run, through crashes and restarts.
-/

namespace AptlyGui

open Coroutine (Contract Safe Uses)

/-- The moves of `JobState`; what is missing here never happens. -/
inductive JobState.Turns : JobState → JobState → Prop
  | starts : Turns .queued .running
  | succeeds : Turns .running .succeeded
  | fails : Turns .running .failed
  | waitingInterrupted : Turns .queued .interrupted
  | runningInterrupted : Turns .running .interrupted

/-- The job is at one of its three ends. -/
def JobState.ended : JobState → Bool
  | .succeeded | .failed | .interrupted => true
  | _ => false

theorem JobState.eq_of_ended {first second : JobState} (ended : first.ended = true)
    (leads : Relation.ReflTransGen Turns first second) : second = first := by
  rcases Relation.ReflTransGen.cases_head leads with same | ⟨middle, turn, -⟩
  · exact same.symm
  · cases turn <;> cases ended

/-- What a later state of the database says about a job. -/
structure Job.Follows (before after : Job) : Prop where
  id : after.id = before.id
  type : after.type = before.type
  author : after.author = before.author
  params : after.params = before.params
  mirrorSet : after.mirrorSetId = before.mirrorSetId ∨ after.mirrorSetId = none
  state : Relation.ReflTransGen JobState.Turns before.state after.state
  started : before.startedAt.isSome = true →
    after.startedAt = before.startedAt ∧ after.expectedSteps = before.expectedSteps
  ended : before.state.ended = true →
    after.mirrorSetId = before.mirrorSetId ∧ after.error = before.error ∧
      (before.finishedAt.isSome = true → after.finishedAt = before.finishedAt)

/-- What a later state of the database says about a step: nothing new once it is over. -/
structure JobStep.Follows (before after : JobStep) : Prop where
  id : after.id = before.id
  jobId : after.jobId = before.jobId
  position : after.position = before.position
  description : after.description = before.description
  startedAt : after.startedAt = before.startedAt
  frozen : before.state ≠ .running → after = before

theorem Job.Follows.refl (row : Job) : row.Follows row :=
  ⟨rfl, rfl, rfl, rfl, .inl rfl, .refl, fun _ => ⟨rfl, rfl⟩, fun _ => ⟨rfl, rfl, fun _ => rfl⟩⟩

theorem Job.Follows.trans {first second third : Job} (earlier : first.Follows second)
    (later : second.Follows third) : first.Follows third where
  id := later.id.trans earlier.id
  type := later.type.trans earlier.type
  author := later.author.trans earlier.author
  params := later.params.trans earlier.params
  mirrorSet := by
    rcases later.mirrorSet with same | gone
    · rw [same]
      exact earlier.mirrorSet
    · exact .inr gone
  state := earlier.state.trans later.state
  started := by
    intro started
    obtain ⟨time, steps⟩ := earlier.started started
    rw [← time] at started
    obtain ⟨laterTime, laterSteps⟩ := later.started started
    exact ⟨laterTime.trans time, laterSteps.trans steps⟩
  ended := by
    intro ended
    obtain ⟨mirrorSet, error, finished⟩ := earlier.ended ended
    have still : second.state.ended = true := by
      rw [JobState.eq_of_ended ended earlier.state]
      exact ended
    obtain ⟨laterSet, laterError, laterFinished⟩ := later.ended still
    refine ⟨laterSet.trans mirrorSet, laterError.trans error, fun known => ?_⟩
    have same := finished known
    rw [← same] at known
    exact (laterFinished known).trans same

theorem JobStep.Follows.refl (row : JobStep) : row.Follows row :=
  ⟨rfl, rfl, rfl, rfl, rfl, fun _ => rfl⟩

theorem JobStep.Follows.trans {first second third : JobStep} (earlier : first.Follows second)
    (later : second.Follows third) : first.Follows third where
  id := later.id.trans earlier.id
  jobId := later.jobId.trans earlier.jobId
  position := later.position.trans earlier.position
  description := later.description.trans earlier.description
  startedAt := later.startedAt.trans earlier.startedAt
  frozen := by
    intro isOver
    have same := earlier.frozen isOver
    rw [← same] at isOver
    exact (later.frozen isOver).trans same

namespace Database

/-- The later database remembers what the earlier one recorded. -/
structure Follows (before after : Database) : Prop where
  jobs : ∀ id row, before.jobs.get? id = some row →
    ∃ later, after.jobs.get? id = some later ∧ row.Follows later
  steps : ∀ id row, before.steps.get? id = some row →
    ∃ later, after.steps.get? id = some later ∧ row.Follows later
  audit : before.audit <+: after.audit

/-- A COMPLETE snapshot set stays what it is, or is deleted. -/
def Freezes (before after : Database) : Prop :=
  ∀ id row, before.snapshotSets.get? id = some row → row.state = .complete →
    after.snapshotSets.get? id = some row ∨ after.snapshotSets.get? id = none

variable {before after db : Database}

theorem Follows.refl (db : Database) : db.Follows db :=
  ⟨fun _ row found => ⟨row, found, .refl row⟩, fun _ row found => ⟨row, found, .refl row⟩,
    List.prefix_rfl⟩

theorem Follows.trans {first second third : Database} (earlier : first.Follows second)
    (later : second.Follows third) : first.Follows third where
  jobs := by
    intro id row found
    obtain ⟨middle, known, start⟩ := earlier.jobs id row found
    obtain ⟨last, present, rest⟩ := later.jobs id middle known
    exact ⟨last, present, start.trans rest⟩
  steps := by
    intro id row found
    obtain ⟨middle, known, start⟩ := earlier.steps id row found
    obtain ⟨last, present, rest⟩ := later.steps id middle known
    exact ⟨last, present, start.trans rest⟩
  audit := earlier.audit.trans later.audit

theorem Freezes.of_same (same : after.snapshotSets = before.snapshotSets) :
    before.Freezes after := by
  intro id row found _
  rw [same]
  exact .inl found

/-- Only one table of the history changes. -/
theorem Follows.of_jobs (jobs : ∀ id row, before.jobs.get? id = some row →
      ∃ later, after.jobs.get? id = some later ∧ row.Follows later)
    (steps : after.steps = before.steps) (audit : before.audit <+: after.audit) :
    before.Follows after := by
  refine ⟨jobs, fun id row found => ⟨row, ?_, .refl row⟩, audit⟩
  rw [steps]
  exact found

theorem Follows.of_steps (jobs : after.jobs = before.jobs)
    (steps : ∀ id row, before.steps.get? id = some row →
      ∃ later, after.steps.get? id = some later ∧ row.Follows later)
    (audit : before.audit <+: after.audit) : before.Follows after := by
  refine ⟨fun id row found => ⟨row, ?_, .refl row⟩, steps, audit⟩
  rw [jobs]
  exact found

theorem Follows.of_same (jobs : after.jobs = before.jobs) (steps : after.steps = before.steps)
    (audit : before.audit <+: after.audit) : before.Follows after := by
  refine .of_jobs (fun id row found => ⟨row, ?_, .refl row⟩) steps audit
  rw [jobs]
  exact found

end Database

/-! ## The audit log -/

/-- The entries a change adds. -/
def Write.entries : Write → List AuditEntry
  | .addAudit entry => [entry]
  | _ => []

/-- A commit only adds to the audit log. -/
theorem Database.writeAll_audit {now : Time} {writes : List Write} {db after : Database}
    {inserted keys : Inserted} (committed : db.writeAll now inserted writes = .ok (after, keys)) :
    after.audit = db.audit ++ writes.flatMap Write.entries := by
  induction writes generalizing db inserted with
  | nil =>
      cases committed
      simp
  | cons change rest inductionHypothesis =>
      rw [writeAll] at committed
      split at committed
      · rename_i middle handed wrote
        have one : middle.audit = db.audit ++ change.entries := by
          cases change <;> simp only [write] at wrote <;> (try split at wrote) <;> cases wrote <;>
            simp [Write.entries]
        rw [inductionHypothesis committed, one, List.append_assoc, List.flatMap_cons]
      · cases committed

theorem Database.audit_prefix {now : Time} {writes : List Write} {db after : Database}
    {inserted keys : Inserted} (committed : db.writeAll now inserted writes = .ok (after, keys)) :
    db.audit <+: after.audit := by
  rw [writeAll_audit committed]
  exact List.prefix_append _ _

/-! ## One row -/

theorem Job.follows_update {table : Table Job} {id : Nat} {change : Job → Job}
    (follows : ∀ row, table.get? id = some row → row.Follows (Keyed.withId id (change row))) :
    ∀ other row, table.get? other = some row →
      ∃ later, (table.update id change).get? other = some later ∧ row.Follows later := by
  intro other row found
  by_cases same : other = id
  · subst same
    exact ⟨_, by simp [found], follows row found⟩
  · exact ⟨row, by simp [same, found], .refl row⟩

theorem JobStep.follows_update {table : Table JobStep} {id : Nat} {change : JobStep → JobStep}
    (follows : ∀ row, table.get? id = some row → row.Follows (Keyed.withId id (change row))) :
    ∀ other row, table.get? other = some row →
      ∃ later, (table.update id change).get? other = some later ∧ row.Follows later := by
  intro other row found
  by_cases same : other = id
  · subst same
    exact ⟨_, by simp [found], follows row found⟩
  · exact ⟨row, by simp [same, found], .refl row⟩

/-- A change that keeps what a running step is about, whatever it makes of its state. -/
theorem JobStep.Follows.of_running {id : Nat} {row after : JobStep} (here : row.id = id)
    (running : row.state = .running) (jobId : after.jobId = row.jobId)
    (position : after.position = row.position) (description : after.description = row.description)
    (startedAt : after.startedAt = row.startedAt) : row.Follows (Keyed.withId id after) :=
  ⟨here.symm, jobId, position, description, startedAt, fun isOver => absurd running isOver⟩

namespace History

variable {self : JobRunner} {jobId : Nat}

/-! ## The job that runs -/

/-- What the running job may rely on and what each of its operations keeps. -/
def contract : Contract semantics where
  allowed _ _ _ := True
  rely before after := before.Others after
  guarantee before after := before.db.Follows after.db ∧ before.db.Freezes after.db
  rely_refl := .refl
  rely_trans before after := before.trans after

/-- There is nothing to show of what is not there. -/
theorem forall_mem_none {holds : Nat → Prop} : ∀ id ∈ (none : Option Nat), holds id :=
  fun _ listed => absurd listed (Option.not_mem_none _)

/-- The job is RUNNING, so is the step it is doing, and the set it fills is INCOMPLETE. -/
structure Live (jobId : Nat) (doing filling : Option Nat) (db : Database) : Prop where
  job : ∃ row, db.jobs.get? jobId = some row ∧ row.state = .running ∧ row.finishedAt = none
  step : ∀ id ∈ doing, ∃ row, db.steps.get? id = some row ∧ row.state = .running
  snapshotSet : ∀ id ∈ filling, ∀ row, db.snapshotSets.get? id = some row →
    row.state = .incomplete

/-- It holds of the database as long as the session can still commit. -/
def Unless (holds : Database → Prop) (world : World) : Prop :=
  world.sessionBroken = true ∨ holds world.db

def At (jobId : Nat) (filling doing : Option Nat) : World → Prop :=
  Unless (Live jobId doing filling)

variable {filling doing : Option Nat} {world : World}

theorem At.leave (working : At jobId filling doing world) : At jobId none none world :=
  working.imp_right fun live => ⟨live.job, forall_mem_none, forall_mem_none⟩

/-- Whatever the requests do, the rows of the running job stay. -/
def Stable (holds : Database → Prop) : Prop :=
  ∀ before after, holds before → before.Kept after → holds after

theorem live_stable (jobId : Nat) (doing filling : Option Nat) :
    Stable (Live jobId doing filling) := by
  intro before after live kept
  obtain ⟨row, found, running, unfinished⟩ := live.job
  refine ⟨⟨row, kept.jobs jobId row found, running, unfinished⟩, ?_, ?_⟩
  · rw [kept.steps]
    exact live.step
  · exact fun id listed row found => live.snapshotSet id listed row (kept.snapshotSets id row found)

theorem Unless.passed {holds : Database → Prop} (stable : Stable holds) {before after : World}
    (held : Unless holds before) (passed : contract.rely before after) : Unless holds after := by
  rcases held with broken | live
  · exact .inl (passed.sessionBroken.trans broken)
  · exact .inr (stable _ _ live passed.db)

/-! ## Operations -/

/-- An operation that is no commit does not mend a broken session. -/
theorem broken_of_calm {op : Op} (calm : op.calm = true) {event : Event} {world after : World}
    {outcome : Except Exn op.Ret} (performed : op.perform event world = some (outcome, after))
    (broken : world.sessionBroken = true) : after.sessionBroken = true := by
  have read : ∀ {α : Type} {value : α} {outcome : Except Exn α},
      world.query .job value event = some (outcome, after) → after.sessionBroken = true := by
    intro α value outcome asked
    rcases Op.query_job asked with ⟨-, -, -, rfl⟩ | ⟨-, -, -, rfl⟩ | ⟨_, _, -, -, rfl⟩
    · exact broken
    · exact broken
    · rfl
  cases op with
  | aptly request =>
      rcases Op.perform_aptly performed with ⟨_, _, -, -, rfl⟩ | ⟨_, _, _, -, -, -, rfl⟩ |
        ⟨_, _, -, -, rfl⟩
      all_goals exact broken
  | fetchRelease publicUrl distribution =>
      cases event <;> simp [Op.perform] at performed
      · obtain ⟨-, -, rfl⟩ := performed
        exact broken
      · obtain ⟨-, rfl⟩ := performed
        exact broken
      · obtain ⟨-, rfl⟩ := performed
        exact broken
  | sleep =>
      cases event <;> cases performed
      all_goals exact broken
  | now =>
      cases event <;> cases performed
      exact broken
  | nextPosition =>
      cases event <;> cases performed
      exact broken
  | getJob session id => cases session <;> first | exact read performed | cases calm
  | getMirrorSet session id => cases session <;> first | exact read performed | cases calm
  | getSnapshotSet session id => cases session <;> first | exact read performed | cases calm
  | snapshotSetsOf session id => cases session <;> first | exact read performed | cases calm
  | runningSteps id => exact read performed
  | _ => cases calm

theorem calm_unless {holds : Database → Prop} (stable : Stable holds) {op : Op}
    (calm : op.calm = true) (held : Unless holds world) :
    Safe contract (fun _ => Unless holds) (fun _ => Unless holds) (perform op) world := by
  refine safe_op fun event outcome after _ performed => ?_
  have same : after.db = world.db := by
    apply (Op.perform_frame performed).db
    cases op <;> first | rfl | cases calm
  have kept : Unless holds after := by
    rcases held with broken | live
    · exact .inl (broken_of_calm calm performed broken)
    · exact .inr (same ▸ live)
  have guaranteed : contract.guarantee world after := by
    refine ⟨?_, .of_same (by rw [same])⟩
    rw [same]
    exact .refl _
  refine ⟨guaranteed, fun later passed => ?_⟩
  cases outcome <;> exact kept.passed stable passed

/-- A commit of the job's session: stored, or the session is broken afterwards. -/
theorem commit_unless {before : Database → Prop} {writes : List Write}
    {after : Inserted → Database → Prop} (stable : ∀ inserted, Stable (after inserted))
    (held : Unless before world)
    (lawful : ∀ db inserted, before world.db →
      world.db.commit world.clock writes = .ok (db, inserted) →
      world.db.Follows db ∧ world.db.Freezes db ∧ after inserted db) :
    Safe contract (fun inserted => Unless (after inserted))
      (fun _ world => world.sessionBroken = true) (commit .job writes) world := by
  refine safe_op fun event outcome reached _ performed => ?_
  have unchanged : contract.guarantee world world := ⟨.refl _, .of_same rfl⟩
  have stays : ∀ {world later : World}, world.sessionBroken = true → contract.rely world later →
      later.sessionBroken = true := fun broken passed => passed.sessionBroken.trans broken
  rcases held with broken | live
  · obtain ⟨⟨error, rfl⟩, rfl⟩ := Op.perform_commit_broken broken performed
    exact Coroutine.Settles.error unchanged fun later => stays broken
  · rcases Op.perform_commit performed with ⟨db, inserted, -, -, committed, rfl, rfl⟩ |
      ⟨error, -, -, -, rfl, rfl⟩ | ⟨-, broken, rfl, rfl⟩ |
      ⟨applied, moved, -, rfl, rfl | ⟨db, inserted, -, committed, rfl⟩⟩
    · obtain ⟨follows, freezes, holds⟩ := lawful db inserted live committed
      refine Coroutine.Settles.ok ⟨follows, freezes⟩ fun later passed => ?_
      exact Unless.passed (stable inserted) (.inr holds) passed
    · exact Coroutine.Settles.error unchanged fun later => stays rfl
    · exact Coroutine.Settles.error unchanged fun later => stays broken
    · exact Coroutine.Settles.error unchanged fun later => stays rfl
    · obtain ⟨follows, freezes, -⟩ := lawful db inserted live committed
      exact Coroutine.Settles.error ⟨follows, freezes⟩ fun later => stays rfl

/-! ## Steps -/

/-- A commit that changes the step the job is doing. -/
theorem changeStep_at {step : Nat} {next : Option Nat} {change : Time → JobStep → JobStep}
    (working : At jobId filling (some step) world)
    (keeps : ∀ now row, (change now row).jobId = row.jobId ∧
      (change now row).position = row.position ∧
      (change now row).description = row.description ∧
      (change now row).startedAt = row.startedAt)
    (doing : ∀ id ∈ next, id = step ∧ ∀ now row, (change now row).state = row.state) :
    Safe contract (fun _ => At jobId filling next) (fun _ => At jobId none none)
      (commit .job [.setStep step change]) world := by
  refine (commit_unless (fun _ => live_stable jobId next filling) working ?_).mono
    (fun _ _ kept => kept) fun _ _ broken => .inl broken
  intro db inserted live committed
  obtain ⟨row, found, running⟩ := live.step step rfl
  rw [Database.commit_setStep change (Option.isSome_of_eq_some found)] at committed
  cases committed
  refine ⟨.of_steps rfl (JobStep.follows_update fun other known => ?_) List.prefix_rfl,
    .of_same rfl, live.job, ?_, live.snapshotSet⟩
  · obtain rfl := Option.some.inj (found.symm.trans known)
    obtain ⟨sameJob, samePosition, sameDescription, sameStart⟩ := keeps world.clock row
    exact .of_running (Table.id_of_get? found) running sameJob samePosition
      sameDescription sameStart
  · intro id listed
    obtain ⟨rfl, sameState⟩ := doing id listed
    exact ⟨_, Table.get?_updated _ found, (sameState world.clock row).trans running⟩

theorem addStep_at (description : String) (working : At jobId filling none world) :
    Safe contract (fun step => At jobId filling (some step)) (fun _ => At jobId none none)
      (addStep jobId description) world := by
  refine Safe.bind ((calm_unless (live_stable jobId none filling) rfl working).mono
    (fun _ _ kept => kept) fun _ _ kept => At.leave kept) fun position before working => ?_
  refine Safe.bind ((@commit_unless before _ _
    (fun inserted => Live jobId (some inserted.step) filling)
    (fun inserted => live_stable jobId (some inserted.step) filling) working ?_).mono
    (fun _ _ kept => kept) fun _ _ broken => .inl broken) fun inserted after kept => kept
  intro db inserted live committed
  rw [Database.commit_addStep] at committed
  cases committed
  refine ⟨.of_steps rfl (fun id row found => ⟨row, ?_, .refl row⟩) List.prefix_rfl, .of_same rfl,
    live.job, ?_, live.snapshotSet⟩
  · have old : id ≠ before.db.steps.nextId := by
      rintro rfl
      simp at found
    simp [old, found]
  · rintro id ⟨⟩
    exact ⟨_, (Table.get?_insert _ _ _).trans (if_pos rfl), rfl⟩

/-- The rules by which a job's work is walked through. -/
theorem rules : WalkRules contract jobId (At jobId filling) fun _ => At jobId none none where
  calm := by
    intro op doing world calm working
    refine (calm_unless (live_stable jobId doing filling) calm working).mono
      (fun _ _ kept => kept) fun error after kept => ?_
    split
    · exact kept
    · exact At.leave kept
  gives := fun _ working => working.leave
  adds := addStep_at
  notes := by
    intro step world change notes working
    refine changeStep_at working (fun now row => ⟨notes.jobId now row, notes.position now row,
      notes.description now row, notes.startedAt now row⟩) ?_
    rintro id ⟨⟩
    exact ⟨rfl, notes.state⟩
  ends := by
    intro step world state output _ working
    exact Safe.bind (changeStep_at working (fun _ _ => ⟨rfl, rfl, rfl, rfl⟩) forall_mem_none)
      fun _ _ working => working

/-! ## Sets -/

/-- A commit about the set being filled, and about the step being done. -/
theorem fillSet_at {snapshotSet : Nat} {step : Nat} {change : SnapshotSet → SnapshotSet}
    {ending : Time → JobStep → JobStep} (working : At jobId (some snapshotSet) (some step) world)
    (incomplete : ∀ row, (change row).state = row.state)
    (keeps : ∀ now row, (ending now row).jobId = row.jobId ∧
      (ending now row).position = row.position ∧
      (ending now row).description = row.description ∧
      (ending now row).startedAt = row.startedAt) :
    Safe contract (fun _ => At jobId (some snapshotSet) none) (fun _ => At jobId none none)
      (commit .job [.setSnapshotSet snapshotSet change, .setStep step ending]) world := by
  refine (commit_unless (fun _ => live_stable jobId none (some snapshotSet)) working ?_).mono
    (fun _ _ kept => kept) fun _ _ broken => .inl broken
  intro db inserted live committed
  obtain ⟨row, found, running⟩ := live.step step rfl
  obtain ⟨jobs, steps, -, snapshotSets⟩ := Database.writeAll_tables committed
  simp only [List.foldl_cons, List.foldl_nil, Write.onJobs, Write.onSteps,
    Write.onSnapshotSets] at jobs steps snapshotSets
  refine ⟨.of_steps jobs ?_ (Database.audit_prefix committed), ?_, ?_, forall_mem_none, ?_⟩
  · rw [steps]
    refine JobStep.follows_update fun other known => ?_
    obtain rfl := Option.some.inj (found.symm.trans known)
    obtain ⟨sameJob, samePosition, sameDescription, sameStart⟩ := keeps world.clock row
    exact .of_running (Table.id_of_get? found) running sameJob samePosition
      sameDescription sameStart
  · intro id old located complete
    rw [snapshotSets, Table.get?_update]
    by_cases same : id = snapshotSet
    · subst same
      rw [live.snapshotSet id rfl old located] at complete
      cases complete
    · rw [if_neg same]
      exact .inl located
  · rw [jobs]
    exact live.job
  · rintro id ⟨⟩ later located
    rw [snapshotSets, Table.get?_update, if_pos rfl] at located
    obtain ⟨old, known, rfl⟩ := Option.map_eq_some_iff.mp located
    exact (incomplete old).trans (live.snapshotSet _ rfl old known)

/-- A commit that leaves the jobs and the step log alone. -/
theorem aside_at {writes : List Write} {filling' : Inserted → Option Nat}
    (working : At jobId filling none world)
    (sparing : ∀ change ∈ writes, ∀ now table steps,
      change.onJobs now table = table ∧ change.onSteps now steps = steps)
    (lawful : ∀ db inserted, Live jobId none filling world.db →
      world.db.commit world.clock writes = .ok (db, inserted) →
      world.db.Freezes db ∧ ∀ id ∈ filling' inserted, ∀ row,
        db.snapshotSets.get? id = some row → row.state = .incomplete) :
    Safe contract (fun inserted => At jobId (filling' inserted) none)
      (fun _ => At jobId none none) (commit .job writes) world := by
  refine (commit_unless (fun inserted => live_stable jobId none (filling' inserted)) working
    ?_).mono (fun _ _ kept => kept) fun _ _ broken => .inl broken
  intro db inserted live committed
  obtain ⟨jobs, steps, -, -⟩ := Database.writeAll_tables committed
  have same : ∀ (now : Time) (writes : List Write), (∀ change ∈ writes, ∀ now table steps,
      change.onJobs now table = table ∧ change.onSteps now steps = steps) →
      ∀ table steps, writes.foldl (Write.onJobs now) table = table ∧
        writes.foldl (Write.onSteps now) steps = steps := by
    intro now writes
    induction writes with
    | nil => exact fun _ _ _ => ⟨rfl, rfl⟩
    | cons change rest inductionHypothesis =>
        intro sparing table steps
        obtain ⟨first, second⟩ := sparing change List.mem_cons_self now table steps
        rw [List.foldl_cons, List.foldl_cons, first, second]
        exact inductionHypothesis
          (fun other later => sparing other (List.mem_cons_of_mem change later)) table steps
  rw [(same _ _ sparing _ world.db.steps).1] at jobs
  rw [(same _ _ sparing world.db.jobs _).2] at steps
  obtain ⟨freezes, incomplete⟩ := lawful db inserted live committed
  refine ⟨.of_same jobs steps (Database.audit_prefix committed), freezes, ?_, forall_mem_none, incomplete⟩
  rw [jobs]
  exact live.job

theorem update_at {mirrorSet : MirrorSet} (working : At jobId none none world) :
    Safe contract (fun _ => At jobId none none) (fun _ => At jobId none none)
      (self.update jobId mirrorSet) world := by
  refine Safe.bind (rules.preflight working) fun _ _ working => ?_
  refine Safe.bind (rules.calls rfl working) fun moment before working => ?_
  refine Safe.bind (@aside_at jobId none before _ (fun inserted => some inserted.snapshotSet)
    working ?_ ?_) fun inserted _ working => ?_
  · intro change listed now table steps
    obtain rfl := List.mem_singleton.mp listed
    exact ⟨rfl, rfl⟩
  · intro db inserted live committed
    have handed := Database.inserted_of_addSnapshotSet committed
    obtain ⟨-, -, -, snapshotSets⟩ := Database.writeAll_tables committed
    simp only [List.foldl_cons, List.foldl_nil, Write.onSnapshotSets] at snapshotSets
    constructor
    · intro id row found complete
      have old : id ≠ before.db.snapshotSets.nextId := by
        rintro rfl
        simp at found
      rw [snapshotSets, Table.get?_insert, if_neg old]
      exact .inl found
    · rintro id ⟨⟩ row found
      rw [snapshotSets, handed, Table.get?_insert, if_pos rfl] at found
      cases found
      rfl
  refine Safe.bind (rules.sync working) fun _ _ working => ?_
  refine Safe.bind (Safe.foldEach (fun _ _ => At jobId (some inserted.snapshotSet) none) working
    fun suite _ _ _ working => ?_) fun _ last working => ?_
  · refine Safe.foldEach (fun _ _ => At jobId (some inserted.snapshotSet) none) working
      fun component _ _ _ working => ?_
    refine Safe.bind (rules.adds _ working) fun step _ working => ?_
    refine Safe.bind (rules.calls rfl working) fun _ _ working => ?_
    exact Safe.bind (fillSet_at working (fun _ => rfl) fun _ _ => ⟨rfl, rfl, rfl, rfl⟩)
      fun _ _ working => working
  · refine Safe.bind (@aside_at jobId (some inserted.snapshotSet) last _ (fun _ => none) working ?_ ?_)
      fun _ _ working => working
    · intro change listed now table steps
      obtain rfl := List.mem_singleton.mp listed
      exact ⟨rfl, rfl⟩
    · intro db _ live committed
      obtain ⟨-, -, -, snapshotSets⟩ := Database.writeAll_tables committed
      simp only [List.foldl_cons, List.foldl_nil, Write.onSnapshotSets] at snapshotSets
      refine ⟨fun id row found complete => ?_, forall_mem_none⟩
      rw [snapshotSets, Table.get?_update]
      by_cases same : id = inserted.snapshotSet
      · rw [live.snapshotSet id (by rw [same]; rfl) row found] at complete
        cases complete
      · rw [if_neg same]
        exact .inl found

/-- Deleting snapshot sets freezes the others. -/
theorem Freezes.of_deletes {before after : Database} (gone : ∀ id,
    after.snapshotSets.get? id = before.snapshotSets.get? id ∨
      after.snapshotSets.get? id = none) : before.Freezes after := by
  intro id row found _
  exact (gone id).imp_left fun same => same.trans found

theorem discard_at {params : JobParams} (working : At jobId none none world) :
    Safe contract (fun _ => At jobId none none) (fun _ => At jobId none none)
      (self.discard jobId params) world := by
  refine Safe.bind (rules.discardSnapshots _ working) fun _ _ working => ?_
  refine Safe.bind (rules.reclaimSpace working) fun _ _ working => ?_
  split
  · exact working
  · refine Safe.bind (rules.calls rfl working) fun found before working => ?_
    split
    · exact working
    · rename_i snapshotSet
      refine Safe.bind (@aside_at jobId none before _ (fun _ => none) working ?_ ?_)
        fun _ _ working => working
      · intro change listed now table steps
        obtain rfl := List.mem_singleton.mp listed
        exact ⟨rfl, rfl⟩
      · intro db _ live committed
        obtain ⟨-, -, -, snapshotSets⟩ := Database.writeAll_tables committed
        refine ⟨Freezes.of_deletes fun id => ?_, forall_mem_none⟩
        rw [snapshotSets]
        simp only [List.foldl_cons, List.foldl_nil, Write.onSnapshotSets, Table.get?_delete]
        by_cases same : id = snapshotSet.id
        · exact .inr (if_pos same)
        · exact .inl (if_neg same)

theorem get?_foldl_delete (owned : List SnapshotSet) (table : Table SnapshotSet) (id : Nat) :
    (owned.foldl (fun sets row => sets.delete row.id) table).get? id = table.get? id ∨
      (owned.foldl (fun sets row => sets.delete row.id) table).get? id = none := by
  induction owned generalizing table with
  | nil => exact .inl rfl
  | cons row rest inductionHypothesis =>
      rw [List.foldl_cons]
      rcases inductionHypothesis (table.delete row.id) with same | gone
      · rw [same, Table.get?_delete]
        by_cases here : id = row.id
        · exact .inr (if_pos here)
        · exact .inl (if_neg here)
      · exact .inr gone

/-- The commit by which a REMOVE job forgets the set; the job lets go of it. -/
theorem forget_at {owned : List SnapshotSet} {mirrorSetId : Nat}
    (working : At jobId none none world) :
    Safe contract (fun _ => At jobId none none) (fun _ => At jobId none none)
      (commit .job (.setJob jobId (fun _ job => { job with mirrorSetId := none })
        :: owned.map (fun row => .deleteSnapshotSet row.id) ++ [.deleteMirrorSet mirrorSetId]))
      world := by
  refine (commit_unless (fun _ => live_stable jobId none none) working ?_).mono
    (fun _ _ kept => kept) fun _ _ broken => .inl broken
  intro db inserted live committed
  obtain ⟨row, found, running, unfinished⟩ := live.job
  have stored := (@Database.commit_setJob world.db world.clock _
    (fun _ job => { job with mirrorSetId := none }) _ (Option.isSome_of_eq_some found)).trans
    (Database.commit_forget owned mirrorSetId)
  obtain ⟨rfl, rfl⟩ := Prod.mk.inj (Except.ok.inj (committed.symm.trans stored))
  refine ⟨.of_jobs (Job.follows_update fun other known => ?_) rfl List.prefix_rfl,
    Freezes.of_deletes (get?_foldl_delete owned _), ⟨?_, forall_mem_none, forall_mem_none⟩⟩
  · obtain rfl := Option.some.inj (found.symm.trans known)
    refine ⟨(Table.id_of_get? found).symm, rfl, rfl, rfl, .inr rfl, .refl, fun _ => ⟨rfl, rfl⟩, ?_⟩
    intro ended
    rw [running] at ended
    cases ended
  · exact ⟨_, Table.get?_updated _ found, running, unfinished⟩

theorem remove_at {params : JobParams} {loaded : Option MirrorSet}
    (working : At jobId none none world) :
    Safe contract (fun _ => At jobId none none) (fun _ => At jobId none none)
      (self.remove jobId params loaded) world := by
  refine Safe.bind (rules.removeMirrors _ working) fun _ _ working => ?_
  refine Safe.bind (rules.reclaimSpace working) fun _ _ working => ?_
  split
  · exact working
  · refine Safe.bind (rules.getLoaded loaded _ working) fun found _ working => ?_
    split
    · exact working
    · refine Safe.bind (rules.calls rfl working) fun owned _ working => ?_
      exact Safe.bind (forget_at working) fun _ _ working => working

theorem execute_at {job : Job} {loaded : Option MirrorSet} (working : At jobId none none world) :
    Safe contract (fun _ => At jobId none none) (fun _ => At jobId none none)
      (self.execute jobId job loaded) world := by
  unfold JobRunner.execute
  split
  · exact discard_at working
  · exact remove_at working
  · exact working
  · exact rules.create working
  · exact update_at working
  · exact rules.switch working
  · exact working

/-! ## Beginning and end -/

/-- The job has been marked FAILED for this reason and is not finished yet. -/
def FailedFor (jobId : Nat) (error : String) (db : Database) : Prop :=
  ∃ row, db.jobs.get? jobId = some row ∧ row.state = .failed ∧ row.error = some error ∧
    row.finishedAt = none

theorem failedFor_stable (jobId : Nat) (error : String) : Stable (FailedFor jobId error) := by
  rintro before after ⟨row, found, rest⟩ kept
  exact ⟨row, kept.jobs jobId row found, rest⟩

/-- The `finally` block leaves the job as its end found it. -/
theorem settle_at {job : Job} {mirrorSet : Option MirrorSet} {state : JobState}
    {error : Option String} {holds : Database → Prop} (held : Unless holds world)
    (ends : ∀ db, holds db → ∃ row, db.jobs.get? jobId = some row ∧ row.finishedAt = none ∧
      Relation.ReflTransGen JobState.Turns row.state state ∧
      (row.state.ended = true → error = row.error)) :
    Safe contract (fun _ _ => True) (fun _ _ => True)
      (JobRunner.settle jobId job mirrorSet state error) world := by
  refine Safe.bind ((@commit_unless world holds _ (fun _ _ => True) (fun _ _ _ _ _ => trivial)
    held ?_).mono (fun _ _ _ => trivial) fun _ _ _ => trivial) fun _ _ _ => trivial
  intro db inserted known committed
  obtain ⟨row, found, unfinished, turns, same⟩ := ends world.db known
  obtain ⟨jobs, steps, -, snapshotSets⟩ := Database.writeAll_tables committed
  refine ⟨.of_jobs ?_ steps (Database.audit_prefix committed), .of_same snapshotSets, trivial⟩
  rw [jobs]
  refine Job.follows_update fun other located => ?_
  obtain rfl := Option.some.inj (found.symm.trans located)
  refine ⟨(Table.id_of_get? found).symm, rfl, rfl, rfl, .inl rfl, turns, fun _ => ⟨rfl, rfl⟩, ?_⟩
  intro ended
  refine ⟨rfl, same ended, fun finished => ?_⟩
  rw [unfinished] at finished
  cases finished

/-- Closing several running steps at once. -/
theorem follows_closing {steps : List JobStep} {change : JobStep → JobStep}
    {table : Table JobStep}
    (keeps : ∀ row, (change row).jobId = row.jobId ∧ (change row).position = row.position ∧
      (change row).description = row.description ∧ (change row).startedAt = row.startedAt)
    (distinct : (steps.map JobStep.id).Nodup)
    (running : ∀ step ∈ steps, table.get? step.id = some step ∧ step.state = .running) :
    ∀ id row, table.get? id = some row → ∃ later,
      (steps.foldl (fun table step => table.update step.id change) table).get? id = some later ∧
        row.Follows later := by
  induction steps generalizing table with
  | nil => exact fun _ row found => ⟨row, found, .refl row⟩
  | cons step rest inductionHypothesis =>
      rw [List.map_cons, List.nodup_cons] at distinct
      have still : ∀ other ∈ rest, (table.update step.id change).get? other.id = some other ∧
          other.state = .running := by
        intro other later
        have apart : other.id ≠ step.id := fun same =>
          distinct.1 (same ▸ List.mem_map_of_mem later)
        rw [Table.get?_update, if_neg apart]
        exact running other (List.mem_cons_of_mem _ later)
      have first := @JobStep.follows_update table step.id change
        fun row found => by
          obtain ⟨known, here⟩ := running step List.mem_cons_self
          obtain rfl := Option.some.inj (known.symm.trans found)
          obtain ⟨sameJob, samePosition, sameDescription, sameStart⟩ := keeps step
          exact .of_running rfl here sameJob samePosition sameDescription sameStart
      intro id row found
      obtain ⟨middle, known, one⟩ := first id row found
      obtain ⟨last, present, more⟩ := inductionHypothesis distinct.2 still id middle known
      exact ⟨last, present, one.trans more⟩

/-- The running steps that were read are still the running steps when they are closed. -/
def Read (jobId : Nat) (running : List JobStep) (db : Database) : Prop :=
  Live jobId none none db ∧
    running = db.steps.rows.filter fun row => row.jobId = jobId ∧ row.state = .running

theorem read_stable (jobId : Nat) (running : List JobStep) : Stable (Read jobId running) := by
  rintro before after ⟨live, same⟩ kept
  refine ⟨live_stable jobId none none before after live kept, ?_⟩
  rw [kept.steps]
  exact same

theorem runningSteps_at (working : At jobId none none world) :
    Safe contract (fun running => Unless (Read jobId running))
      (fun _ after => after.sessionBroken = true) (runningSteps jobId) world := by
  refine safe_op fun event outcome after _ performed => ?_
  have unchanged : ∀ broken, contract.guarantee world { world with sessionBroken := broken } :=
    fun _ => ⟨.refl _, .of_same rfl⟩
  have stays : ∀ {world later : World}, world.sessionBroken = true → contract.rely world later →
      later.sessionBroken = true := fun broken passed => passed.sessionBroken.trans broken
  rcases Op.query_job performed with ⟨-, whole, rfl, rfl⟩ | ⟨-, broken, rfl, rfl⟩ |
    ⟨_, _, -, rfl, rfl⟩
  · refine Coroutine.Settles.ok (unchanged _) fun later passed => ?_
    refine Unless.passed (read_stable jobId _) (.inr ⟨?_, rfl⟩) passed
    exact working.resolve_left (by simp [whole])
  · exact Coroutine.Settles.error (unchanged _) fun later => stays broken
  · exact Coroutine.Settles.error (unchanged _) fun later => stays rfl

theorem failRunningSteps_at {error : String} (working : At jobId none none world) :
    Safe contract (fun _ => Unless (FailedFor jobId error))
      (fun _ after => after.sessionBroken = true) (failRunningSteps jobId error) world := by
  refine Safe.bind (runningSteps_at working) fun running before read => ?_
  refine Safe.bind (commit_unless (fun _ => failedFor_stable jobId error) read ?_)
    fun _ _ kept => kept
  rintro db inserted ⟨live, rfl⟩ committed
  obtain ⟨row, found, going, unfinished⟩ := live.job
  rw [Database.commit_closeRunning _ _ (Option.isSome_of_eq_some found)] at committed
  cases committed
  refine ⟨⟨Job.follows_update fun other known => ?_, ?_, List.prefix_rfl⟩, .of_same rfl, ?_⟩
  · obtain rfl := Option.some.inj (found.symm.trans known)
    refine ⟨(Table.id_of_get? found).symm, rfl, rfl, rfl, .inl rfl, ?_, fun _ => ⟨rfl, rfl⟩, ?_⟩
    · change Relation.ReflTransGen JobState.Turns row.state .failed
      rw [going]
      exact .single .fails
    · intro ended
      rw [going] at ended
      cases ended
  · refine follows_closing (fun _ => ⟨rfl, rfl, rfl, rfl⟩) ?_ ?_
    · exact before.db.steps.distinct.sublist (List.filter_sublist.map _)
    · intro step listed
      obtain ⟨stored, chosen⟩ := List.mem_filter.mp listed
      exact ⟨Table.mem_rows_iff.mp stored, (by simpa using chosen : _ ∧ _).2⟩
  · exact ⟨_, Table.get?_updated _ found, rfl, rfl, unfinished⟩

theorem supervise_at {job : Job} {loaded : Option MirrorSet} {work : Program Unit}
    (working : Safe contract (fun _ => At jobId none none) (fun _ => At jobId none none) work
      world) :
    Safe contract (fun _ _ => True) (fun _ _ => True)
      (JobRunner.supervise jobId job loaded work) world := by
  refine safe_supervise (At jobId none none) (fun _ => At jobId none none) working ?_ ?_ ?_
  · intro after held
    refine settle_at held fun db live => ?_
    obtain ⟨row, found, running, unfinished⟩ := live.job
    refine ⟨row, found, unfinished, ?_, fun ended => ?_⟩
    · rw [running]
      exact .single .succeeds
    · rw [running] at ended
      cases ended
  · intro error after _ held
    have recording : Safe contract (fun _ => Unless (FailedFor jobId error.text))
        (fun _ _ => True) (failRunningSteps jobId error.text).attempt after :=
      Coroutine.safe_attempt.mpr ((failRunningSteps_at held).mono (fun _ _ kept => kept)
        fun _ _ broken => .inl broken)
    refine Safe.bind recording fun recorded later kept => ?_
    refine Safe.bind (settle_at kept ?_) fun _ _ _ => ?_
    · rintro db ⟨row, found, failed, reason, unfinished⟩
      refine ⟨row, found, unfinished, ?_, fun _ => reason.symm⟩
      rw [failed]
    · cases recorded <;> trivial
  · intro error after _ held
    refine Safe.bind (settle_at held fun db live => ?_) fun _ _ _ => trivial
    obtain ⟨row, found, running, unfinished⟩ := live.job
    refine ⟨row, found, unfinished, ?_, fun ended => ?_⟩
    · rw [running]
    · rw [running] at ended
      cases ended

/-- The job waits, and nothing is recorded about it yet. -/
def Pristine (jobId : Nat) (db : Database) : Prop :=
  ∃ row, db.jobs.get? jobId = some row ∧ row.state = .queued ∧ row.startedAt = none ∧
    row.finishedAt = none

theorem pristine_stable (jobId : Nat) : Stable (Pristine jobId) := by
  rintro before after ⟨row, found, rest⟩ kept
  exact ⟨row, kept.jobs jobId row found, rest⟩

theorem runLoaded_at {job : Job} {loaded : Option MirrorSet}
    (held : Unless (Pristine jobId) world) :
    Safe contract (fun _ _ => True) (fun _ _ => True)
      (self.runLoaded jobId job loaded) world := by
  unfold JobRunner.runLoaded
  split
  · trivial
  · refine Safe.bind ((commit_unless (fun _ => live_stable jobId none none) held ?_).mono
      (fun _ _ kept => kept) fun _ _ _ => trivial) fun _ _ working =>
        supervise_at (execute_at working)
    rintro db inserted ⟨row, found, queued, unstarted, unfinished⟩ committed
    rw [Database.commit_setJob _ _ (Option.isSome_of_eq_some found)] at committed
    cases committed
    refine ⟨.of_jobs (Job.follows_update fun other known => ?_) rfl List.prefix_rfl, .of_same rfl,
      ⟨_, Table.get?_updated _ found, rfl, unfinished⟩, forall_mem_none, forall_mem_none⟩
    obtain rfl := Option.some.inj (found.symm.trans known)
    refine ⟨(Table.id_of_get? found).symm, rfl, rfl, rfl, .inl rfl, ?_, fun started => ?_, ?_⟩
    · change Relation.ReflTransGen JobState.Turns row.state .running
      rw [queued]
      exact .single .starts
    · rw [unstarted] at started
      cases started
    · intro ended
      rw [queued] at ended
      cases ended

theorem runJob_at (pristine : Pristine jobId world.db) :
    Safe contract (fun _ _ => True) (fun _ _ => True) (self.runJob jobId) world := by
  have entry : Unless (Pristine jobId) { world with
      currentJob := some jobId, nextPosition := 0, sessionBroken := false } := .inr pristine
  have begun : Safe contract (fun _ => Unless (Pristine jobId)) (fun _ _ => True)
      (beginJob jobId) world :=
    safe_beginJob (Coroutine.Settles.ok ⟨.refl _, .of_same rfl⟩ fun later passed =>
      entry.passed (pristine_stable jobId) passed)
  refine Safe.bind begun fun _ _ held => ?_
  refine Safe.bind ((calm_unless (pristine_stable jobId) rfl held).mono
    (fun _ _ kept => kept) fun _ _ _ => trivial) fun found _ held => ?_
  split
  · trivial
  · split
    · exact runLoaded_at held
    · exact Safe.bind ((calm_unless (pristine_stable jobId) rfl held).mono
        (fun _ _ kept => kept) fun _ _ _ => trivial) fun loaded _ held => runLoaded_at held

/-! ## The service -/

variable {condition : System → Label → Prop} {start system before after : System} {label : Label}

/-- A request touches neither the history nor what is recorded. -/
theorem requests_aside (fresh : start.Fresh)
    (reached : System.Reachable self condition start system) :
    ∀ request ∈ system.requests, request.Uses Op.aside :=
  reached.uses Arrival.program_aside (by simp [fresh.requests])

/-- Nothing is recorded about a job that waits. -/
theorem pristine_of_waiting (fresh : start.Fresh)
    (reached : System.Reachable self condition start system) {id : Nat}
    (waiting : id ∈ system.waiting) : Pristine id system.world.db := by
  have queued := reached.queued fresh
  induction reached with
  | refl => simp [System.waiting, fresh.queue, fresh.requests] at waiting
  | @step before after label earlier permitted stepped inductionHypothesis =>
      have uses := earlier.requests_use fresh.requests_use
      have held := earlier.queued fresh
      obtain ⟨row, found, state⟩ := queued.unstarted id waiting
      by_cases stored : (before.world.db.jobs.get? id).isSome = true
      · obtain ⟨waited, same⟩ := held.row_of_step uses stepped stored waiting
        obtain ⟨old, known, rest⟩ := inductionHypothesis waited held
        exact ⟨old, same.trans known, rest⟩
      · have absent : before.world.db.jobs.get? id = none := by simpa using stored
        by_cases external : label.external = true
        · -- A row that is new was added by a request, which records nothing about it.
          obtain ⟨added, rows, fresh⟩ :=
            (System.beside_of_external (requests_aside fresh earlier) external stepped).jobs
          obtain ⟨listed, here⟩ := Table.get?_eq_some_iff.mp found
          rw [rows] at listed
          rcases List.mem_append.mp listed with old | new
          · exact absurd here (Table.get?_eq_none_iff.mp absent row old)
          · exact ⟨row, found, state, fresh row new⟩
        · have unchanged : after.world.db.jobs.get? id = none := by
            cases label with
            | work event =>
                obtain ⟨program, next, world, running, progressed, rfl⟩ := System.step_work stepped
                obtain ⟨current, -, known, working, -⟩ := held.working program running
                obtain ⟨-, op, outcome, own, performed⟩ := working.step progressed
                have other : id ≠ current := by
                  rintro rfl
                  rw [absent] at known
                  cases known
                rw [World.released_db, (Op.jobFrame own performed).1.others id other, absent]
            | take =>
                obtain ⟨_, _, -, -, rfl⟩ := System.step_take stepped
                exact absent
            | crash =>
                cases stepped
                exact absent
            | start =>
                obtain ⟨-, rfl⟩ := System.step_start stepped
                rw [World.recovered_jobs, absent]
                rfl
            | arrive arrival => exact absurd rfl external
            | serve index event => exact absurd rfl external
            | drift reached => exact absurd rfl external
            | tick elapsed => exact absurd rfl external
          rw [found] at unchanged
          cases unchanged

/-- A restart interrupts what was unfinished and remembers everything. -/
theorem follows_recovered (world : World) : world.db.Follows world.recovered.db := by
  refine .of_jobs (fun id row found => ?_) rfl List.prefix_rfl
  rw [World.recovered_jobs, found]
  have here : row.id = id := Table.id_of_get? found
  refine ⟨_, rfl, ?_⟩
  dsimp only
  split
  · rename_i unfinished
    refine ⟨here.symm, rfl, rfl, rfl, .inl rfl, ?_, fun _ => ⟨rfl, rfl⟩, fun ended => ?_⟩
    · change Relation.ReflTransGen JobState.Turns row.state .interrupted
      rcases unfinished with running | queued
      · rw [running]
        exact .single .runningInterrupted
      · rw [queued]
        exact .single .waitingInterrupted
    · rcases unfinished with running | queued
      · rw [running] at ended
        cases ended
      · rw [queued] at ended
        cases ended
  · have same : Keyed.withId id row = row := by
      subst here
      rfl
    rw [same]
    exact .refl row

/-- Requests add jobs and audit entries, and only delete snapshot sets. -/
theorem follows_of_external (uses : ∀ request ∈ before.requests, request.Uses Op.forRequest)
    (external : label.external = true) (stepped : before.step self label = some after) :
    before.world.db.Follows after.world.db ∧ before.world.db.Freezes after.world.db := by
  have others := System.others_of_external uses external stepped
  have audit : before.world.db.audit <+: after.world.db.audit := by
    rcases System.external_cases external stepped with same | ⟨_, -, same⟩ | ⟨_, same⟩ |
      ⟨_, event, op, resume, outcome, -, -, performed⟩
    · exact same ▸ List.prefix_rfl
    · exact same ▸ List.prefix_rfl
    · exact same ▸ List.prefix_rfl
    · rcases Op.db_of_perform performed with same | stored
      · exact same ▸ List.prefix_rfl
      · cases op with
        | commit session writes =>
            simp only [World.stored] at stored
            split at stored
            · rename_i db inserted committed
              cases stored
              exact Database.audit_prefix committed
            · cases stored
        | _ => cases stored
  refine ⟨.of_jobs (fun id row found => ⟨row, others.db.jobs id row found, .refl row⟩)
    others.db.steps audit, fun id row found _ => ?_⟩
  cases located : after.world.db.snapshotSets.get? id with
  | none => exact .inr rfl
  | some other =>
      have old := others.db.snapshotSets id other located
      rw [found] at old
      exact .inl old.symm

/-- The worker keeps to the contract whatever it does. -/
def outline (fresh : start.Fresh) : Outline self condition start where
  contract := contract
  always _ := True
  rest _ _ := True
  requests := fresh.requests_use
  entry := trivial
  begins := .fresh fresh trivial
  relies _ _ := trivial
  guarantees _ _ := trivial
  unmoved _ _ _ _ _ := trivial
  recovers _ := trivial
  stays _ _ := trivial
  others reached _ external stepped :=
    System.others_of_external (reached.requests_use fresh.requests_use) external stepped
  allows _ _ _ := trivial
  takes := by
    intro system jobId waiting reached _ idle queued _ _ later passed
    have pristine : Pristine jobId system.world.db :=
      pristine_of_waiting fresh reached (by simp [System.waiting, queued])
    exact (runJob_at (pristine_stable jobId _ _ pristine passed.db)).mono
      (fun _ _ _ => trivial) fun _ _ _ => trivial
  crashes _ _ _ _ := trivial
  starts _ _ := trivial

/-- Every step of every run remembers what was recorded. -/
theorem follows_of_step (fresh : start.Fresh)
    (reached : System.Reachable self condition start before) (permitted : condition before label)
    (stepped : before.step self label = some after) :
    before.world.db.Follows after.world.db ∧ before.world.db.Freezes after.world.db := by
  by_cases external : label.external = true
  · exact follows_of_external (reached.requests_use fresh.requests_use) external stepped
  · cases label with
    | work event =>
        obtain ⟨world, kept, same, -⟩ := (outline fresh).guaranteed reached permitted stepped
          ((outline fresh).holds reached)
        rw [same]
        exact kept
    | take =>
        obtain ⟨_, _, -, -, rfl⟩ := System.step_take stepped
        exact ⟨.refl _, .of_same rfl⟩
    | crash =>
        cases stepped
        exact ⟨.refl _, .of_same rfl⟩
    | start =>
        obtain ⟨-, rfl⟩ := System.step_start stepped
        exact ⟨follows_recovered _, .of_same rfl⟩
    | arrive arrival => exact absurd rfl external
    | serve index event => exact absurd rfl external
    | drift reached => exact absurd rfl external
    | tick elapsed => exact absurd rfl external

end History

/-- Along every run of the service, later states follow earlier ones. -/
theorem history_is_kept {self : JobRunner} {condition : System → Label → Prop}
    {start system later : System} (fresh : start.Fresh)
    (reached : System.Reachable self condition start system)
    (onwards : System.Reachable self condition system later) :
    system.world.db.Follows later.world.db := by
  induction onwards with
  | refl => exact .refl _
  | step earlier permitted stepped inductionHypothesis =>
      exact inductionHypothesis.trans
        (History.follows_of_step fresh (reached.trans earlier) permitted stepped).1

namespace History

/-- A DISCARD job is running and has opened its only step. -/
def begun : List Label :=
  [.start, .arrive (.direct .discard none "operator" {}), .serve 0 .proceed, .serve 0 .proceed,
    .take] ++ List.replicate 5 (.work .proceed)

end History

theorem history_is_kept_restart : ∃ system later,
    Sample.service.runUnder Sample.runner (fun _ _ => true) History.begun = some system ∧
    system.runUnder Sample.runner (fun _ _ => true) [.crash, .start] = some later ∧
    (system.world.db.jobs.get? 1).any (fun row => decide (row.state = .running)) = true ∧
    (later.world.db.jobs.get? 1).any (fun row => decide (row.state = .interrupted)) = true ∧
    system.world.db.Follows later.world.db := by
  have runs : (Sample.service.runUnder Sample.runner (fun _ _ => true) History.begun).any
      (fun system => (system.world.db.jobs.get? 1).any (fun row => decide (row.state = .running)) &&
        (system.runUnder Sample.runner (fun _ _ => true) [.crash, .start]).any fun later =>
          (later.world.db.jobs.get? 1).any fun row => decide (row.state = .interrupted)) = true := by
    decide
  obtain ⟨system, first, both⟩ := (Option.any_eq_true _ _).mp runs
  obtain ⟨running, further⟩ := Bool.and_eq_true_iff.mp both
  obtain ⟨later, second, interrupted⟩ := (Option.any_eq_true _ _).mp further
  exact ⟨system, later, first, second, running, interrupted,
    history_is_kept (System.blank_fresh _ _) (.of_runUnder first) (.of_runUnder second)⟩

/-- A COMPLETE snapshot set is the same for as long as it is there. -/
theorem complete_set_is_frozen {self : JobRunner} {condition : System → Label → Prop}
    {start system later : System} {id : Nat} {row : SnapshotSet} (fresh : start.Fresh)
    (reached : System.Reachable self condition start system)
    (found : system.world.db.snapshotSets.get? id = some row) (complete : row.state = .complete)
    (onwards : System.Reachable self (fun system label => condition system label ∧
      ∀ after, system.step self label = some after →
        (after.world.db.snapshotSets.get? id).isSome = true) system later) :
    later.world.db.snapshotSets.get? id = some row := by
  induction onwards with
  | refl => exact found
  | step earlier permitted stepped inductionHypothesis =>
      have before := reached.trans (earlier.mono fun _ _ both => both.1)
      have frozen := (History.follows_of_step fresh before permitted.1 stepped).2
      rcases frozen id row inductionHypothesis complete with same | gone
      · exact same
      · have there := permitted.2 _ stepped
        rw [gone] at there
        cases there

namespace History

def recorded : SnapshotSet where
  mirrorSetId := 1
  snapshots := Dict.ofList [("stable-main", "stable-main-20260911T0800Z")]
  state := .complete
  jobId := none

def keeping : System :=
  .blank { Database.empty with
    mirrorSets := Database.empty.mirrorSets.insert Sample.debian
    snapshotSets := Database.empty.snapshotSets.insert recorded } Sample.mirrored

end History

theorem complete_set_is_frozen_restart : ∃ system later,
    History.keeping.runUnder Sample.runner (fun _ _ => true) History.begun = some system ∧
    system.runUnder Sample.runner (fun system label => (system.step Sample.runner label).all
      fun after => (after.world.db.snapshotSets.get? 1).isSome) [.crash, .start] = some later ∧
    later.world.db.snapshotSets.get? 1 = some { History.recorded with id := 1 } := by
  have runs : (History.keeping.runUnder Sample.runner (fun _ _ => true) History.begun).any
      (fun system =>
        decide (system.world.db.snapshotSets.get? 1 = some { History.recorded with id := 1 }) &&
        (system.runUnder Sample.runner (fun system label => (system.step Sample.runner label).all
          fun after => (after.world.db.snapshotSets.get? 1).isSome) [.crash, .start]).isSome) =
        true := by
    decide
  obtain ⟨system, first, both⟩ := (Option.any_eq_true _ _).mp runs
  obtain ⟨found, further⟩ := Bool.and_eq_true_iff.mp both
  obtain ⟨later, second⟩ := Option.isSome_iff_exists.mp further
  refine ⟨system, later, first, second, ?_⟩
  refine complete_set_is_frozen (System.blank_fresh _ _) (.of_runUnder first)
    (of_decide_eq_true found) rfl ((System.Reachable.of_runUnder second).mono ?_)
  intro system label stays
  exact ⟨rfl, fun after stepped => by simpa [stepped] using stays⟩

end AptlyGui
