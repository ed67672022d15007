import AptlyGui.Library.InOrder
import AptlyGui.Services.Jobs.Remove

/-!
# Records go after the deed

A DISCARD or REMOVE job deletes its rows last.  By then aptly has confirmed
every deletion on the job's list, in the order of the list, and a cleanup that
was asked for after them; and these rows are the only sets that it touches.
-/

namespace AptlyGui

open Coroutine (Contract Safe Uses)

/-! ## What aptly has confirmed -/

/-- The job's calls that aptly has answered, oldest first. -/
def World.exchanges (world : World) (jobId : Nat) : List (Request × Reply) :=
  world.log.reverse.filterMap fun entry =>
    if entry.job = some jobId then entry.outcome.toOption.map (entry.request, ·) else none

/-- A call that does its work before it is answered. -/
def Answered (request : Request) (exchanges : List (Request × Reply)) : Prop :=
  ∃ body, (request, body) ∈ exchanges

/-- A call that only starts a task, and later the news that the task has succeeded. -/
def Succeeded (request : Request) (exchanges : List (Request × Reply)) : Prop :=
  ∃ task ended, [(request, .task task), (.getTask task.id, .task ended)].Sublist exchanges ∧
    ended.state = .succeeded

/-- What the job has to have done before it deletes a row. -/
def Job.deeds (job : Job) : List (List (Request × Reply) → Prop) :=
  match job.type with
  | .discard =>
      (job.params.snapshots.getD []).map (fun name => Answered (.deleteSnapshot name)) ++
        [Succeeded .dbCleanup]
  | .remove =>
      (job.params.mirrors.getD []).map (fun name => Succeeded (.deleteMirror name)) ++
        [Succeeded .dbCleanup]
  | _ => []

/-- Every deletion has succeeded in the order of the list, and a later cleanup has. -/
def Job.Done (job : Job) (jobId : Nat) (world : World) : Prop :=
  InOrder job.deeds (world.exchanges jobId)

/-- The snapshot sets that the job may delete: the one it names, or those of its mirror set. -/
def Job.owns (job : Job) (db : Database) (id : Nat) : Prop :=
  match job.type with
  | .discard => job.params.snapshotSetId = some id
  | .remove => ∃ row, db.snapshotSets.get? id = some row ∧
      job.params.mirrorSetId = some row.mirrorSetId
  | _ => False

/-- What one operation of the job may do to the sets. -/
structure Job.Forgets (job : Job) (jobId : Nat) (before : World) (after : Database) : Prop where
  mirrorSets : ∀ id, after.mirrorSets.get? id ≠ before.db.mirrorSets.get? id →
    after.mirrorSets.get? id = none ∧ job.type = .remove ∧ job.params.mirrorSetId = some id ∧
      job.Done jobId before
  snapshotSets : ∀ id, after.snapshotSets.get? id ≠ before.db.snapshotSets.get? id →
    after.snapshotSets.get? id = none ∧ job.owns before.db id ∧ job.Done jobId before

theorem Job.Forgets.of_same {job : Job} {jobId : Nat} {before : World} {after : Database}
    (same : before.db.SameSets after) : job.Forgets jobId before after where
  mirrorSets id changed := absurd (by rw [same.mirrorSets]) changed
  snapshotSets id changed := absurd (by rw [same.snapshotSets]) changed

theorem Answered.late {request : Request} {body : Reply} (earlier : List (Request × Reply)) :
    Answered request (earlier ++ [(request, body)]) :=
  ⟨body, by simp⟩

variable {jobId : Nat} {job : Job} {world after : World} {deeds : List (List (Request × Reply) → Prop)}

/-- An operation adds at most one exchange, and only to those of the job it runs for. -/
theorem World.exchanges_of_perform {op : Op} {event : Event} {outcome : Except Exn op.Ret}
    (performed : op.perform event world = some (outcome, after)) :
    ∃ more, after.exchanges jobId = world.exchanges jobId ++ more := by
  rcases Op.log_of_perform performed with same | ⟨entry, grown, -⟩
  · exact ⟨[], by simp [exchanges, same]⟩
  · simp only [exchanges, grown, List.reverse_cons, List.filterMap_append]
    exact ⟨_, rfl⟩

/-- The answer to a call of the running job is its newest exchange. -/
theorem World.exchanges_of_answer {request : Request} {event : Event} {value : request.Ret}
    (current : world.currentJob = some jobId)
    (performed : Op.perform (.aptly request) event world = some (.ok value, after)) :
    ∃ body, request.parse body = .ok value ∧
      after.exchanges jobId = world.exchanges jobId ++ [(request, body)] := by
  obtain ⟨body, reached, -, parsed, rfl⟩ := Op.replied_of_ok performed
  exact ⟨body, parsed, by simp [exchanges, World.record, current, Except.toOption]⟩

theorem World.exchanges_of_others (others : world.Others after) :
    after.exchanges jobId = world.exchanges jobId := by
  rw [exchanges, exchanges, others.log]

/-! ## The job's own run -/

namespace Deeds

structure Steady (jobId : Nat) (job : Job) (world : World) : Prop where
  stored : world.db.Stores jobId job
  ended : ∀ row, world.db.jobs.get? jobId = some row → row.state = .succeeded →
    job.Done jobId world

def contract (jobId : Nat) (job : Job) : Contract semantics where
  allowed _ _ _ := True
  rely before after := before.Others after
  guarantee before after :=
    (Steady jobId job before → Steady jobId job after) ∧
      (before.currentJob = some jobId → job.Forgets jobId before after.db)
  rely_refl := .refl
  rely_trans := .trans

/-- Neither a step of another party nor more of the log undoes it. -/
def Lasting (holds : List (Request × Reply) → Prop) : Prop :=
  ∀ log more, holds log → holds (log ++ more)

theorem lasting_inOrder (deeds : List (List (Request × Reply) → Prop)) : Lasting (InOrder deeds) :=
  fun _ more held => held.grown more

/-- The task of the newest deed has been started. -/
def Sent (deeds : List (List (Request × Reply) → Prop)) (request : Request) (task : Task)
    (log : List (Request × Reply)) : Prop :=
  ∃ earlier later, log = earlier ++ later ∧ InOrder deeds earlier ∧ (request, .task task) ∈ later

theorem lasting_sent (request : Request) (task : Task) : Lasting (Sent deeds request task) := by
  rintro _ more ⟨earlier, later, rfl, held, listed⟩
  exact ⟨earlier, later ++ more, List.append_assoc _ _ _, held, List.mem_append_left _ listed⟩

theorem Sent.inOrder {request : Request} {task : Task} {log : List (Request × Reply)}
    (sent : Sent deeds request task log) : InOrder deeds log := by
  obtain ⟨earlier, later, rfl, held, -⟩ := sent
  exact held.grown later

/-- The news that the task has succeeded completes the deed. -/
theorem Sent.succeeded {request : Request} {task ended : Task} {log : List (Request × Reply)}
    (sent : Sent deeds request task log) (succeeded : ended.state = .succeeded) :
    InOrder (deeds ++ [Succeeded request]) (log ++ [(.getTask task.id, .task ended)]) := by
  obtain ⟨earlier, later, rfl, held, listed⟩ := sent
  rw [List.append_assoc]
  refine held.concat fun before => ⟨task, ended, ?_, succeeded⟩
  rw [← List.append_assoc]
  have first : [(request, Reply.task task)].Sublist (before ++ later) :=
    List.singleton_sublist.mpr (List.mem_append_right _ listed)
  exact first.append (List.Sublist.refl [(Request.getTask task.id, Reply.task ended)])

/-- An operation that leaves the sets alone and does not end the job. -/
def quiet (jobId : Nat) (op : Op) : Prop := op.ofJob jobId ∧ op.leavesOpen ∧ op.sparesSets

theorem quiet_of_bookkeeping {op : Op} (reads : op.bookkeeping) : quiet jobId op :=
  ⟨Op.ofJob_of_bookkeeping reads, Op.leavesOpen_of_bookkeeping reads,
    Op.sparesSets_of_bookkeeping reads⟩

variable {holds : List (Request × Reply) → Prop} {self : JobRunner} {α : Type}

theorem Steady.of_begun (begun : Begun jobId job world) : Steady jobId job world :=
  ⟨begun.stored, fun row found succeeded => absurd succeeded (begun.unended row found)⟩

theorem kept_of_quiet (lasting : Lasting holds) {op : Op} {event : Event}
    {outcome : Except Exn op.Ret} (own : quiet jobId op)
    (performed : op.perform event world = some (outcome, after))
    (begun : Begun jobId job after) (held : holds (world.exchanges jobId)) :
    (contract jobId job).guarantee world after ∧ holds (after.exchanges jobId) := by
  refine ⟨⟨fun _ => .of_begun begun, fun _ => .of_same (Op.sameSets own.2.2 performed)⟩, ?_⟩
  obtain ⟨more, grown⟩ := World.exchanges_of_perform performed
  rw [grown]
  exact lasting _ more held

theorem course (lasting : Lasting holds) : Course (contract jobId job) jobId job
    (fun world => holds (world.exchanges jobId)) where
  passes := id
  passed _ held passed := by
    rw [World.exchanges_of_others passed]
    exact held
  routine routine performed begun held :=
    kept_of_quiet lasting ⟨routine.1, routine.2.1, routine.2.2.1⟩ performed begun held

/-- Such operations lose nothing of what aptly has confirmed. -/
theorem safe_quiet (lasting : Lasting holds) {program : Program α}
    (uses : program.Uses (quiet jobId)) (begun : Begun jobId job world)
    (held : holds (world.exchanges jobId)) :
    Safe (contract jobId job) (fun _ after => Begun jobId job after ∧ holds (after.exchanges jobId))
      (fun _ after => Begun jobId job after ∧ holds (after.exchanges jobId)) program world := by
  refine Safe.of_uses
    (fun after => Begun jobId job after ∧ holds (after.exchanges jobId)) uses ⟨begun, held⟩ ?_ ?_
  · rintro before after ⟨begun, held⟩ passed
    exact ⟨begun.passed passed, (course lasting).passed begun held passed⟩
  · rintro op before outcome after own ⟨begun, held⟩ ⟨event, -, performed⟩
    have still := begun.of_perform own.1 own.2.1 performed
    obtain ⟨kept, held⟩ := kept_of_quiet lasting own performed still held
    exact ⟨kept, still, held⟩

theorem safe_bookkeeping (lasting : Lasting holds) {program : Program α}
    (uses : program.Uses Op.bookkeeping) (begun : Begun jobId job world)
    (held : holds (world.exchanges jobId)) :
    Safe (contract jobId job) (fun _ after => Begun jobId job after ∧ holds (after.exchanges jobId))
      (fun _ after => Begun jobId job after ∧ holds (after.exchanges jobId)) program world :=
  safe_quiet lasting (uses.mono fun _ => quiet_of_bookkeeping) begun held

/-- A call to aptly, whose answer is the newest exchange. -/
theorem safe_call (lasting : Lasting holds) (request : Request) (begun : Begun jobId job world)
    (held : holds (world.exchanges jobId)) :
    Safe (contract jobId job)
      (fun value after => Begun jobId job after ∧ ∃ log body, holds log ∧
        request.parse body = .ok value ∧ after.exchanges jobId = log ++ [(request, body)])
      (fun _ after => Begun jobId job after ∧ holds (after.exchanges jobId))
      (perform (.aptly request)) world := by
  refine safe_op fun event outcome after _ performed => ?_
  have own : quiet jobId (.aptly request) := ⟨trivial, trivial, trivial⟩
  have still := begun.of_perform own.1 own.2.1 performed
  obtain ⟨kept, lasted⟩ := kept_of_quiet lasting own performed still held
  refine ⟨kept, fun later passed => ?_⟩
  cases outcome with
  | error error => exact ⟨still.passed passed, (course lasting).passed still lasted passed⟩
  | ok value =>
      obtain ⟨body, parsed, grown⟩ := World.exchanges_of_answer begun.current performed
      refine ⟨still.passed passed, world.exchanges jobId, body, held, parsed, ?_⟩
      rw [World.exchanges_of_others passed, grown]

/-- A program that returns with one more deed done, and raises with those before. -/
abbrev Adds {α : Type} (jobId : Nat) (job : Job) (deeds : List (List (Request × Reply) → Prop))
    (deed : List (Request × Reply) → Prop) (program : Program α) (world : World) : Prop :=
  Safe (contract jobId job)
    (fun _ after => Begun jobId job after ∧ InOrder (deeds ++ [deed]) (after.exchanges jobId))
    (fun _ after => Begun jobId job after ∧ InOrder deeds (after.exchanges jobId)) program world

/-- What is left to do once the deed is done. -/
theorem Adds.of_bookkeeping {deed : List (Request × Reply) → Prop} {program : Program α}
    (uses : program.Uses Op.bookkeeping) (begun : Begun jobId job world)
    (held : InOrder (deeds ++ [deed]) (world.exchanges jobId)) :
    Adds jobId job deeds deed program world :=
  (safe_bookkeeping (lasting_inOrder _) uses begun held).mono (fun _ _ kept => kept)
    fun _ _ kept => ⟨kept.1, kept.2.of_append⟩

theorem pollTask_adds {request : Request} {task : Task} (step polls : Nat) (reported : Bool)
    (begun : Begun jobId job world) (sent : Sent deeds request task (world.exchanges jobId)) :
    Adds jobId job deeds (Succeeded request) (self.pollTask step task.id polls reported) world := by
  apply safe_pollTask_lasting (fun after => Begun jobId job after ∧
    Sent deeds request task (after.exchanges jobId)) _ _ _ _ polls reported ⟨begun, sent⟩
  · rintro before ⟨begun, sent⟩
    refine (safe_call (lasting_sent request task) (.getTask task.id) begun sent).mono ?_
      fun _ _ kept => ⟨kept.1, kept.2.inOrder⟩
    rintro found after ⟨begun, log, body, sent, parsed, grown⟩
    obtain rfl : body = .task found := by
      cases body <;> cases parsed
      rfl
    split
    · rename_i succeeded
      rw [grown]
      exact ⟨begun, sent.succeeded succeeded⟩
    · rw [grown]
      exact ⟨begun, lasting_sent request task log _ sent⟩
  · rintro α program before uses ⟨begun, sent⟩
    exact (safe_bookkeeping (lasting_sent request task) uses begun sent).mono
      (fun _ _ kept => kept) fun _ _ kept => ⟨kept.1, kept.2.inOrder⟩
  · rintro α program before uses ⟨begun, held⟩
    exact Adds.of_bookkeeping uses begun held
  · rintro before ⟨begun, sent⟩
    exact ⟨begun, sent.inOrder⟩

/-- Once the task is started, following it to its end makes it a deed. -/
theorem followTask_adds {request : Request} {task : Task} (step : Nat) {log : List (Request × Reply)}
    (begun : Begun jobId job world) (held : InOrder deeds log)
    (started : world.exchanges jobId = log ++ [(request, .task task)]) :
    Adds jobId job deeds (Succeeded request) (self.followTask step task) world := by
  have sent : Sent deeds request task (world.exchanges jobId) :=
    ⟨log, _, started, held, List.mem_singleton.mpr rfl⟩
  have noting : Uses Op.bookkeeping (commit .job [.setStep step fun _ row =>
      { row with aptlyTaskId := some task.id }]) := uses_steps (by simp [Write.ofSteps])
  refine Safe.bind ((safe_bookkeeping (lasting_sent request task) noting begun sent).mono
    (fun _ _ kept => kept) fun _ _ kept => ⟨kept.1, kept.2.inOrder⟩) ?_
  rintro _ noted ⟨begun, sent⟩
  refine Safe.bind (pollTask_adds step self.polls false begun sent) ?_
  rintro output after ⟨begun, held⟩
  exact Adds.of_bookkeeping (finishStep_uses step .succeeded output) begun held

theorem reclaimSpace_adds (begun : Begun jobId job world)
    (held : InOrder deeds (world.exchanges jobId)) :
    Adds jobId job deeds (Succeeded .dbCleanup) (self.reclaimSpace jobId) world := by
  refine Safe.bind (safe_bookkeeping (lasting_inOrder deeds) (addStep_uses jobId _) begun held) ?_
  rintro step before ⟨begun, held⟩
  refine Safe.bind (safe_call (lasting_inOrder deeds) .dbCleanup begun held) ?_
  rintro task after ⟨begun, log, body, held, parsed, grown⟩
  obtain rfl : body = .task task := by
    cases body <;> cases parsed
    rfl
  exact followTask_adds step begun held grown

theorem failStep_safe {step : Nat} {error : Exn} {returned : α → World → Prop}
    (begun : Begun jobId job world) (held : InOrder deeds (world.exchanges jobId)) :
    Safe (contract jobId job) returned
      (fun _ after => Begun jobId job after ∧ InOrder deeds (after.exchanges jobId))
      (JobRunner.failStep step error : Program α) world :=
  safe_failStep (fun _ => safe_bookkeeping (lasting_inOrder deeds) (finishStep_uses step .failed _)
    begun held) fun _ => ⟨begun, held⟩

/-- A call to aptly whose refusal is noted in the step log. -/
theorem safe_caught (request : Request) (step : Nat) (begun : Begun jobId job world)
    (held : InOrder deeds (world.exchanges jobId)) :
    Safe (contract jobId job)
      (fun value after => Begun jobId job after ∧ ∃ log body, InOrder deeds log ∧
        request.parse body = .ok value ∧ after.exchanges jobId = log ++ [(request, body)])
      (fun _ after => Begun jobId job after ∧ InOrder deeds (after.exchanges jobId))
      (Coroutine.catching (perform (.aptly request)) (JobRunner.failStep step)) world :=
  Coroutine.safe_catching.mpr ((safe_call (lasting_inOrder deeds) request begun held).mono
    (fun _ _ kept => kept) fun _ _ kept => failStep_safe kept.1 kept.2)

theorem deleteSnapshotEach_adds (name : String) (begun : Begun jobId job world)
    (held : InOrder deeds (world.exchanges jobId)) :
    Adds jobId job deeds (Answered (.deleteSnapshot name))
      (JobRunner.deleteSnapshotEach jobId name) world := by
  refine Safe.bind (safe_bookkeeping (lasting_inOrder deeds) (addStep_uses jobId _) begun held) ?_
  rintro step before ⟨begun, held⟩
  refine Safe.bind (safe_caught (.deleteSnapshot name) step begun held) ?_
  rintro _ after ⟨begun, log, body, held, -, grown⟩
  refine Adds.of_bookkeeping (finishStep_uses step .succeeded "") begun ?_
  rw [grown]
  exact held.concat Answered.late

theorem deleteMirrorEach_adds (name : String) (begun : Begun jobId job world)
    (held : InOrder deeds (world.exchanges jobId)) :
    Adds jobId job deeds (Succeeded (.deleteMirror name)) (self.deleteMirrorEach jobId name)
      world := by
  refine Safe.bind (safe_bookkeeping (lasting_inOrder deeds) (addStep_uses jobId _) begun held) ?_
  rintro step before ⟨begun, held⟩
  refine Safe.bind (safe_caught (.deleteMirror name) step begun held) ?_
  rintro task after ⟨begun, log, body, held, parsed, grown⟩
  obtain rfl : body = .task task := by
    cases body <;> cases parsed
    rfl
  exact followTask_adds step begun held grown

/-- The deletions of the list, one after the other. -/
theorem forEach_adds (deed : String → List (Request × Reply) → Prop) {names : List String}
    {body : String → Program Unit} (begun : Begun jobId job world)
    (turn : ∀ name deeds world, Begun jobId job world → InOrder deeds (world.exchanges jobId) →
      Adds jobId job deeds (deed name) (body name) world) :
    Safe (contract jobId job)
      (fun _ after => Begun jobId job after ∧ InOrder (names.map deed) (after.exchanges jobId))
      (fun _ after => Begun jobId job after ∧ True) (Coroutine.forEach names body) world := by
  refine (Safe.forEach_done (fun done after => Begun jobId job after ∧
    InOrder (done.reverse.map deed) (after.exchanges jobId)) ⟨begun, trivial⟩ ?_).mono ?_
    fun _ _ failed => failed
  · rintro name - done before ⟨begun, held⟩
    refine (turn name _ before begun held).mono (fun _ _ kept => ?_) fun _ _ kept => ⟨kept.1, trivial⟩
    simpa using kept
  · rintro _ after kept
    simpa using kept

/-- A read in the job's session, of what other parties may change before the job goes on. -/
theorem read_safe (lasting : Lasting holds) (op : Op) (value : World → op.Ret)
    (reads : ∀ event world, op.perform event world = world.query .job (value world) event)
    (own : quiet jobId op) (begun : Begun jobId job world) (held : holds (world.exchanges jobId)) :
    Safe (contract jobId job)
      (fun found after => found = value world ∧ world.Others after ∧ Begun jobId job after ∧
        holds (after.exchanges jobId))
      (fun _ after => Begun jobId job after ∧ True) (perform op) world := by
  refine safe_op fun event outcome after _ performed => ?_
  have still := begun.of_perform own.1 own.2.1 performed
  obtain ⟨kept, lasted⟩ := kept_of_quiet lasting own performed still held
  refine ⟨kept, fun later passed => ?_⟩
  have last := still.passed passed
  rw [reads] at performed
  rcases Op.query_job performed with ⟨-, -, rfl, rfl⟩ | ⟨-, -, rfl, -⟩ | ⟨_, _, -, rfl, -⟩
  · exact ⟨rfl, passed, last, (course lasting).passed still lasted passed⟩
  · exact ⟨last, trivial⟩
  · exact ⟨last, trivial⟩

/-! ### The last commit -/

/-- A change of the commit with which the rows go. -/
def forgets : Write → Prop
  | .setJob _ _ | .deleteSnapshotSet _ | .deleteMirrorSet _ => True
  | _ => False

/-- Such a commit deletes the rows that it names and leaves the other sets alone. -/
theorem sets_of_commit {writes : List Write} {db later : Database} {now : Time} {inserted : Inserted}
    (only : ∀ change ∈ writes, forgets change)
    (committed : db.commit now writes = .ok (later, inserted)) :
    (∀ id, later.mirrorSets.get? id = db.mirrorSets.get? id ∨
      later.mirrorSets.get? id = none ∧ .deleteMirrorSet id ∈ writes) ∧
    (∀ id, later.snapshotSets.get? id = db.snapshotSets.get? id ∨
      later.snapshotSets.get? id = none ∧ .deleteSnapshotSet id ∈ writes) := by
  refine @Database.writeAll_induction now (fun before after =>
    (∀ id, after.mirrorSets.get? id = before.mirrorSets.get? id ∨
      after.mirrorSets.get? id = none ∧ .deleteMirrorSet id ∈ writes) ∧
    (∀ id, after.snapshotSets.get? id = before.snapshotSets.get? id ∨
      after.snapshotSets.get? id = none ∧ .deleteSnapshotSet id ∈ writes))
    (fun _ => ⟨fun _ => .inl rfl, fun _ => .inl rfl⟩) ?_ writes db later {} inserted ?_ committed
  · rintro first second third ⟨mirrors, snapshots⟩ ⟨mirrorsAfter, snapshotsAfter⟩
    constructor
    · intro id
      rcases mirrorsAfter id with same | gone
      · rw [same]
        exact mirrors id
      · exact .inr gone
    · intro id
      rcases snapshotsAfter id with same | gone
      · rw [same]
        exact snapshots id
      · exact .inr gone
  · intro change listed before keys after handed wrote
    obtain ⟨-, -, mirrorSets, snapshotSets⟩ := Database.write_tables wrote
    rw [mirrorSets, snapshotSets]
    have permitted := only change listed
    cases change with
    | setJob id edit => exact ⟨fun _ => .inl rfl, fun _ => .inl rfl⟩
    | deleteMirrorSet gone =>
        refine ⟨fun id => ?_, fun _ => .inl rfl⟩
        by_cases here : id = gone
        · subst here
          exact .inr ⟨by simp [Write.onMirrorSets], listed⟩
        · exact .inl (by simp [Write.onMirrorSets, here])
    | deleteSnapshotSet gone =>
        refine ⟨fun _ => .inl rfl, fun id => ?_⟩
        by_cases here : id = gone
        · subst here
          exact .inr ⟨by simp [Write.onSnapshotSets], listed⟩
        · exact .inl (by simp [Write.onSnapshotSets, here])
    | _ => exact permitted.elim

/-- The rows go when everything is done. -/
theorem commit_safe {writes : List Write} (begun : Begun jobId job world)
    (done : job.Done jobId world) (only : ∀ change ∈ writes, forgets change)
    (own : ∀ change ∈ writes, change.ofJob jobId ∧ change.leavesOpen)
    (mirrors : ∀ id, .deleteMirrorSet id ∈ writes →
      job.type = .remove ∧ job.params.mirrorSetId = some id)
    (snapshots : ∀ id row, .deleteSnapshotSet id ∈ writes →
      world.db.snapshotSets.get? id = some row → job.owns world.db id) :
    Safe (contract jobId job) (fun _ after => Begun jobId job after ∧ job.Done jobId after)
      (fun _ after => Begun jobId job after ∧ True) (commit .job writes) world := by
  refine safe_op fun event outcome after _ performed => ?_
  have within : (Op.commit .job writes).ofJob jobId := fun change listed => (own change listed).1
  have leaves : (Op.commit .job writes).leavesOpen := fun change listed => (own change listed).2
  have still := begun.of_perform within leaves performed
  have kept : job.Done jobId after := by
    obtain ⟨more, grown⟩ := World.exchanges_of_perform performed
    rw [Job.Done, grown]
    exact InOrder.grown done more
  have forgotten : job.Forgets jobId world after.db := by
    rcases Op.db_of_perform performed with same | stored
    · rw [same]
      exact .of_same ⟨rfl, rfl⟩
    · simp only [World.stored] at stored
      split at stored
      · rename_i db inserted committed
        cases stored
        obtain ⟨mirrorSets, snapshotSets⟩ := sets_of_commit only committed
        constructor
        · intro id changed
          obtain ⟨gone, listed⟩ := (mirrorSets id).resolve_left changed
          obtain ⟨type, named⟩ := mirrors id listed
          exact ⟨gone, type, named, done⟩
        · intro id changed
          obtain ⟨gone, listed⟩ := (snapshotSets id).resolve_left changed
          cases found : world.db.snapshotSets.get? id with
          | none => exact absurd (gone.trans found.symm) changed
          | some row => exact ⟨gone, snapshots id row listed found, done⟩
      · cases stored
  refine ⟨⟨fun _ => .of_begun still, fun _ => forgotten⟩, fun later passed => ?_⟩
  have last := still.passed passed
  cases outcome with
  | error error => exact ⟨last, trivial⟩
  | ok inserted =>
      refine ⟨last, ?_⟩
      rw [Job.Done, World.exchanges_of_others passed]
      exact kept

/-- The job has done everything on its list, and cleaned up. -/
def Finished (jobId : Nat) (job : Job) (world : World) : Prop :=
  Begun jobId job world ∧ job.Done jobId world

theorem discard_safe (type : job.type = .discard) (begun : Begun jobId job world) :
    Safe (contract jobId job) (fun _ => Finished jobId job)
      (fun _ after => Begun jobId job after ∧ True) (self.discard jobId job.params) world := by
  refine Safe.bind (forEach_adds (fun name => Answered (.deleteSnapshot name)) begun
    fun name deeds world begun held => deleteSnapshotEach_adds name begun held) ?_
  rintro _ deleted ⟨begun, held⟩
  refine Safe.bind ((reclaimSpace_adds begun held).mono (fun _ _ kept => kept)
    fun _ _ kept => ⟨kept.1, trivial⟩) ?_
  rintro _ reclaimed ⟨begun, held⟩
  have done : job.Done jobId reclaimed := by
    simp only [Job.Done, Job.deeds, type]
    exact held
  split
  · exact ⟨begun, done⟩
  · rename_i setId named
    refine Safe.bind (read_safe (lasting_inOrder job.deeds) (.getSnapshotSet .job setId)
      (fun world => world.db.snapshotSets.get? setId) (fun _ _ => rfl)
      ⟨trivial, trivial, trivial⟩ begun done) ?_
    rintro _ read ⟨rfl, -, begun, done⟩
    split
    · exact ⟨begun, done⟩
    · rename_i snapshotSet found
      obtain rfl : snapshotSet.id = setId := Table.id_of_get? found
      refine Safe.bind (commit_safe begun done ?_ ?_ ?_ ?_) fun _ _ kept => kept
      · simp [forgets]
      · simp [Write.ofJob, Write.leavesOpen]
      · simp
      · intro id row listed _
        obtain rfl : id = snapshotSet.id := by simpa using listed
        simp only [Job.owns, type]
        exact named

/-- `session.get` answers with the set of this id. -/
theorem getLoaded_safe (loaded : Option MirrorSet) (setId : Nat) (begun : Begun jobId job world)
    (done : job.Done jobId world) :
    Safe (contract jobId job)
      (fun found after => (∀ mirrorSet ∈ found, mirrorSet.id = setId) ∧ Finished jobId job after)
      (fun _ after => Begun jobId job after ∧ True) (JobRunner.getLoaded loaded setId) world := by
  have asks : Safe (contract jobId job)
      (fun found after => (∀ mirrorSet ∈ found, mirrorSet.id = setId) ∧ Finished jobId job after)
      (fun _ after => Begun jobId job after ∧ True) (getMirrorSet .job setId) world := by
    refine (read_safe (lasting_inOrder job.deeds) (.getMirrorSet .job setId)
      (fun world => world.db.mirrorSets.get? setId) (fun _ _ => rfl)
      ⟨trivial, trivial, trivial⟩ begun done).mono ?_ fun _ _ failed => failed
    rintro _ after ⟨rfl, -, begun, done⟩
    exact ⟨fun mirrorSet found => Table.id_of_get? found, begun, done⟩
  unfold JobRunner.getLoaded
  split
  · split
    · rename_i mirrorSet same
      exact ⟨by simp [same], begun, done⟩
    · exact asks
  · exact asks

theorem remove_safe (type : job.type = .remove) (loaded : Option MirrorSet)
    (begun : Begun jobId job world) :
    Safe (contract jobId job) (fun _ => Finished jobId job)
      (fun _ after => Begun jobId job after ∧ True) (self.remove jobId job.params loaded) world := by
  refine Safe.bind (forEach_adds (fun name => Succeeded (.deleteMirror name)) begun
    fun name deeds world begun held => deleteMirrorEach_adds name begun held) ?_
  rintro _ deleted ⟨begun, held⟩
  refine Safe.bind ((reclaimSpace_adds begun held).mono (fun _ _ kept => kept)
    fun _ _ kept => ⟨kept.1, trivial⟩) ?_
  rintro _ reclaimed ⟨begun, held⟩
  have done : job.Done jobId reclaimed := by
    simp only [Job.Done, Job.deeds, type]
    exact held
  split
  · exact ⟨begun, done⟩
  · rename_i setId named
    refine Safe.bind (getLoaded_safe loaded setId begun done) ?_
    rintro found read ⟨same, begun, done⟩
    split
    · exact ⟨begun, done⟩
    · rename_i mirrorSet
      obtain rfl : mirrorSet.id = setId := same mirrorSet rfl
      refine Safe.bind (read_safe (lasting_inOrder job.deeds) (.snapshotSetsOf .job mirrorSet.id)
        (fun world => world.db.snapshotSets.rows.filter fun row => row.mirrorSetId = mirrorSet.id)
        (fun _ _ => rfl) ⟨trivial, trivial, trivial⟩ begun done) ?_
      rintro owned last ⟨rfl, others, begun, done⟩
      refine Safe.bind (commit_safe begun done ?_ ?_ ?_ ?_) fun _ _ kept => kept
      · intro change listed
        rcases JobRunner.mem_forget listed with rfl | ⟨row, -, rfl⟩ | rfl <;> trivial
      · intro change listed
        rcases JobRunner.mem_forget listed with rfl | ⟨row, -, rfl⟩ | rfl
        · exact ⟨⟨rfl, fun _ _ => ⟨rfl, rfl, id⟩⟩, fun _ _ => id⟩
        · exact ⟨trivial, trivial⟩
        · exact ⟨trivial, trivial⟩
      · intro id listed
        rcases JobRunner.mem_forget listed with other | ⟨row, -, other⟩ | same
        · cases other
        · cases other
        · cases same
          exact ⟨type, named⟩
      · intro id row listed found
        rcases JobRunner.mem_forget listed with other | ⟨owns, among, same⟩ | other
        · cases other
        · cases same
          obtain ⟨stored, mine⟩ := List.mem_filter.mp among
          have known := others.db.snapshotSets owns.id row found
          obtain rfl := Option.some.inj (known.symm.trans (Table.mem_rows_iff.mp stored))
          simp only [Job.owns, type]
          exact ⟨row, found, named.trans (by simpa using (of_decide_eq_true mine).symm)⟩
        · cases other

theorem settle_safe {loaded : Option MirrorSet} {row : Job} {error : Option String}
    (finished : Finished jobId job world) :
    Safe (contract jobId job) (fun _ _ => True) (fun _ _ => True)
      (JobRunner.settle jobId row loaded .succeeded error) world := by
  refine safe_settle (by decide) fun after rows same log _ _ => ⟨fun _ => ?_, fun _ => .of_same same⟩
  refine ⟨finished.1.stored.of_own rows, fun _ _ _ => ?_⟩
  rw [Job.Done, World.exchanges, log]
  exact finished.2

/-! ### From the moment the job is stored -/

theorem Steady.unmoved (steady : Steady jobId job world) (db : after.db = world.db)
    (log : after.log = world.log) : Steady jobId job after := by
  obtain ⟨stored, ended⟩ := steady
  refine ⟨?_, fun row found succeeded => ?_⟩
  · rw [db]
    exact stored
  · rw [db] at found
    rw [Job.Done, World.exchanges, log]
    exact ended row found succeeded

theorem Steady.passed (steady : Steady jobId job world) (others : world.Others after) :
    Steady jobId job after := by
  refine ⟨steady.stored.kept others.db, fun row found succeeded => ?_⟩
  obtain ⟨old, known, -⟩ := steady.stored
  obtain rfl := Option.some.inj ((others.db.jobs jobId old known).symm.trans found)
  rw [Job.Done, World.exchanges_of_others others]
  exact steady.ended old known succeeded

theorem Steady.recovered (steady : Steady jobId job world) : Steady jobId job world.recovered := by
  refine ⟨steady.stored.recovered, fun row found succeeded => ?_⟩
  obtain ⟨old, known, ended⟩ := (World.recovered_unended found).2 succeeded
  exact steady.ended old known ended

theorem Steady.of_other {op : Op} {event : Event} {outcome : Except Exn op.Ret} {other : Nat}
    (different : other ≠ jobId) (own : op.ofJob other)
    (performed : op.perform event world = some (outcome, after))
    (steady : Steady jobId job world) : Steady jobId job after := by
  obtain ⟨rows, -, -⟩ := Op.jobFrame own performed
  refine ⟨steady.stored.of_other different rows, fun row found succeeded => ?_⟩
  rw [rows.others jobId different.symm] at found
  obtain ⟨more, grown⟩ := World.exchanges_of_perform performed
  rw [Job.Done, grown]
  exact InOrder.grown (steady.ended row found succeeded) more

def watch (self : JobRunner) (type : job.type = .discard ∨ job.type = .remove) :
    Watch self (fun _ _ => True) jobId where
  contract := contract jobId job
  steady := Steady jobId job
  relies steady passed := steady.passed passed
  guarantees steady kept := kept.1 steady
  unmoved steady db log _ _ := steady.unmoved db log
  recovers := Steady.recovered
  passes := id
  external uses _ external stepped := System.others_of_external uses external stepped
  allows _ _ := trivial
  others different own idle _ performed _ :=
    ⟨fun steady => steady.of_other different own performed, fun current => absurd current idle⟩
  runs := by
    intro world steady unstarted
    have free : Course (contract jobId job) jobId job fun _ => True :=
      @course jobId job (fun _ => True) fun _ _ _ => trivial
    refine free.safe_runJob (fun {row loaded world} same params begun _ => ?_) settle_safe ?_
    · rcases type with type | type
      · simp only [JobRunner.execute, same, type, params]
        exact discard_safe type begun
      · simp only [JobRunner.execute, same, type, params]
        exact remove_safe type loaded begun
    · rintro after rfl
      have begun := Begun.of_unstarted steady.stored unstarted
      exact ⟨⟨fun _ => .of_begun begun, fun _ => .of_same ⟨rfl, rfl⟩⟩, begun, trivial⟩

end Deeds

/-- In every run a DISCARD or REMOVE job that has ended SUCCEEDED has done everything on its list
and cleaned up after it.  An operation of the job that changes a set deletes it, and only once all
of that is done: the one it names, or with a mirror set the snapshot sets that belong to it. -/
theorem records_go_after_deed {self : JobRunner} {start before chosen moment : System}
    {label : Label} {jobId : Nat} {job : Job} (fresh : start.Fresh)
    (reached : System.Reachable self (fun _ _ => True) start before)
    (stepped : before.step self label = some chosen)
    (absent : before.world.db.jobs.get? jobId = none)
    (stored : chosen.world.db.jobs.get? jobId = some job)
    (type : job.type = .discard ∨ job.type = .remove)
    (followed : System.Reachable self (fun _ _ => True) chosen moment) :
    (∀ ended, moment.world.db.jobs.get? jobId = some ended → ended.state = .succeeded →
      job.Done jobId moment.world) ∧
    ∀ event later, moment.step self (.work event) = some later →
      moment.world.currentJob = some jobId → job.Forgets jobId moment.world later.world.db := by
  have standing := reached.queued fresh
  have served := reached.requests_use fresh.requests_use
  have queued := standing.step served stepped
  have uses := System.requests_use_of_step served stepped
  have waiting := standing.waiting_of_stored served stepped absent (Option.isSome_of_eq_some stored)
  have unstarted : job.state = .queued := by
    obtain ⟨other, same, state⟩ := queued.unstarted jobId waiting
    rw [stored] at same
    cases same
    exact state
  have entry : Deeds.Steady jobId job chosen.world := by
    refine ⟨⟨job, stored, rfl, rfl⟩, fun row found succeeded => ?_⟩
    rw [stored] at found
    cases found
    rw [unstarted] at succeeded
    cases succeeded
  constructor
  · intro ended found succeeded
    exact ((Deeds.watch self type).holds queued uses waiting entry followed).ended ended found
      succeeded
  · intro event later worked current
    obtain ⟨world, kept, db, -⟩ :=
      (Deeds.watch self type).worked queued uses waiting entry followed trivial worked
    rw [db]
    exact kept.2 current

/-- A removal that goes through: the set goes in the step after the cleanup has been confirmed. -/
theorem records_go_after_deed_remove : ∃ moment later : System, ∃ job : Job,
    job.type = .remove ∧ job.params.mirrors = some ["stable-main"] ∧
    moment.world.db.mirrorSets.get? 1 ≠ none ∧ later.world.db.mirrorSets.get? 1 = none ∧
    job.Done 1 moment.world := by
  have runs : (Sample.service.runUnder Sample.runner (fun _ _ => true)
      (Remove.asked Sample.mirrored.mirrors)).any (fun before =>
        (before.step Sample.runner (.serve 0 .proceed)).any fun chosen =>
        (chosen.runUnder Sample.runner (fun _ _ => true) (Remove.deleted.take 21)).any fun moment =>
        (moment.step Sample.runner (.work .proceed)).any fun later =>
          (before.world.db.jobs.get? 1).isNone && decide (moment.world.currentJob = some 1) &&
          (chosen.world.db.jobs.get? 1).any (fun job =>
            decide (job.type = .remove ∧ job.params.mirrors = some ["stable-main"])) &&
          (moment.world.db.mirrorSets.get? 1).isSome &&
          (later.world.db.mirrorSets.get? 1).isNone) = true := by
    decide +kernel
  obtain ⟨before, first, runs⟩ := (Option.any_eq_true _ _).mp runs
  obtain ⟨chosen, stepped, runs⟩ := (Option.any_eq_true _ _).mp runs
  obtain ⟨moment, second, runs⟩ := (Option.any_eq_true _ _).mp runs
  obtain ⟨later, worked, runs⟩ := (Option.any_eq_true _ _).mp runs
  simp only [Bool.and_eq_true, Option.isNone_iff_eq_none, Option.any_eq_true,
    decide_eq_true_eq] at runs
  obtain ⟨⟨⟨⟨absent, current⟩, job, stored, type, listed⟩, present⟩, gone⟩ := runs
  have reached := (System.Reachable.of_runUnder first).mono fun _ _ _ => trivial
  have followed := (System.Reachable.of_runUnder second).mono fun _ _ _ => trivial
  have forgets := (records_go_after_deed (System.blank_fresh _ _) reached stepped absent stored
    (.inr type) followed).2 .proceed later worked current
  have there : moment.world.db.mirrorSets.get? 1 ≠ none := Option.isSome_iff_ne_none.mp present
  obtain ⟨-, -, -, done⟩ := forgets.mirrorSets 1 (by rw [gone]; exact there.symm)
  exact ⟨moment, later, job, type, listed, there, gone, done⟩

end AptlyGui
