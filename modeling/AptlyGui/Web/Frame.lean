import AptlyGui.System
import AptlyGui.Database.Commit

/-!
# What requests leave alone

A request handler only reads the cache and the database, stores new rows,
forgets mirror sets, and hands job ids to the worker.  `Others` says what a job
can rely on between two of its own operations.
-/

namespace AptlyGui

open Coroutine (Uses)

/-! ## Commits -/

def Write.forRequest : Write → Prop
  | .addJob job => job.state = .queued
  | .addMirrorSet _ | .addAudit _ | .deleteMirrorSet _ | .deleteSnapshotSet _ => True
  | _ => False

/-- What a request's commit leaves of the rows jobs work with. -/
structure Database.Kept (before after : Database) : Prop where
  steps : after.steps = before.steps
  jobs : ∀ id job, before.jobs.get? id = some job → after.jobs.get? id = some job
  newJobs : ∀ id job, after.jobs.get? id = some job →
    before.jobs.get? id = some job ∨ before.jobs.get? id = none ∧ job.state = .queued
  snapshotSets : ∀ id row, after.snapshotSets.get? id = some row →
    before.snapshotSets.get? id = some row

theorem Database.Kept.refl (db : Database) : db.Kept db :=
  ⟨rfl, fun _ _ found => found, fun _ _ found => .inl found, fun _ _ found => found⟩

theorem Database.Kept.trans {first second third : Database} (before : first.Kept second)
    (after : second.Kept third) : first.Kept third := by
  refine ⟨after.steps.trans before.steps, ?_, ?_, ?_⟩
  · exact fun id job found => after.jobs id job (before.jobs id job found)
  · intro id job found
    rcases after.newJobs id job found with kept | ⟨fresh, queued⟩
    · exact before.newJobs id job kept
    · refine .inr ⟨?_, queued⟩
      cases known : first.jobs.get? id with
      | none => rfl
      | some old => simp [before.jobs id old known] at fresh
  · exact fun id row found => before.snapshotSets id row (after.snapshotSets id row found)

theorem Database.kept_of_write {now : Time} {change : Write} (harmless : change.forRequest)
    {db after : Database} {inserted keys : Inserted}
    (wrote : db.write now inserted change = .ok (after, keys)) : db.Kept after := by
  obtain ⟨jobs, steps, -, snapshotSets⟩ := write_tables wrote
  have spared : change.onJobs now db.jobs = db.jobs → change.onSteps now db.steps = db.steps →
      (∀ id row, (change.onSnapshotSets now db.snapshotSets).get? id = some row →
        db.snapshotSets.get? id = some row) → db.Kept after := by
    intro sameJobs sameSteps sets
    rw [sameJobs] at jobs
    rw [← snapshotSets] at sets
    refine ⟨steps.trans sameSteps, fun _ _ found => ?_, fun _ _ found => .inl ?_, sets⟩
    · rw [jobs]
      exact found
    · rw [jobs] at found
      exact found
  cases change with
  | addJob job =>
      refine ⟨steps, fun id row found => ?_, fun id row found => ?_, fun id row found => ?_⟩
      · have old : id ≠ db.jobs.nextId := by
          rintro rfl
          simp at found
        simpa [jobs, Write.onJobs, old] using found
      · simp only [jobs, Write.onJobs, Table.get?_insert] at found
        split at found
        · rename_i fresh
          subst fresh
          cases found
          exact .inr ⟨by simp, harmless⟩
        · exact .inl found
      · rw [snapshotSets] at found
        exact found
  | deleteSnapshotSet id =>
      refine spared rfl rfl fun other row found => ?_
      simp only [Write.onSnapshotSets, Table.get?_delete] at found
      split at found
      · cases found
      · exact found
  | addMirrorSet mirrorSet => exact spared rfl rfl fun _ _ found => found
  | addAudit entry => exact spared rfl rfl fun _ _ found => found
  | deleteMirrorSet id => exact spared rfl rfl fun _ _ found => found
  | addStep step => exact harmless.elim
  | addSnapshotSet row => exact harmless.elim
  | setJob id change => exact harmless.elim
  | setStep id change => exact harmless.elim
  | setSnapshotSet id change => exact harmless.elim

theorem Database.kept_of_commit {now : Time} {writes : List Write}
    (harmless : ∀ change ∈ writes, change.forRequest) {db after : Database} {inserted : Inserted}
    (committed : db.commit now writes = .ok (after, inserted)) : db.Kept after :=
  writeAll_induction Kept.refl Kept.trans
    (fun change membership _ _ _ _ wrote => kept_of_write (harmless change membership) wrote)
    committed

/-- The snapshot set whose row the change deletes. -/
def Write.discards : Write → Option Nat
  | .deleteSnapshotSet id => some id
  | _ => none

/-- A snapshot set that a request's commit does not delete is still there. -/
theorem Database.snapshotSet_of_commit {now : Time} {writes : List Write} {db after : Database}
    {inserted : Inserted} {id : Nat} {row : SnapshotSet}
    (harmless : ∀ change ∈ writes, change.forRequest)
    (spared : ∀ change ∈ writes, change.discards ≠ some id)
    (committed : db.commit now writes = .ok (after, inserted))
    (found : db.snapshotSets.get? id = some row) : after.snapshotSets.get? id = some row := by
  refine @writeAll_induction now (fun before after =>
    before.snapshotSets.get? id = some row → after.snapshotSets.get? id = some row)
    (fun _ found => found) (fun first second found => second (first found)) writes db after {}
    inserted (fun change listed before keys later handed wrote found => ?_) committed found
  have request := harmless change listed
  have other := spared change listed
  rw [(write_tables wrote).2.2.2]
  cases change with
  | deleteSnapshotSet gone =>
      have different : id ≠ gone := by
        rintro rfl
        exact other rfl
      simpa [Write.onSnapshotSets, different] using found
  | addSnapshotSet row => exact request.elim
  | setSnapshotSet id change => exact request.elim
  | _ => exact found

/-! ## Handlers -/

def Op.forRequest : Op → Prop
  | .readCache | .mirrorSetNamed _ | .loadSets | .put _ => True
  | .getMirrorSet .request _ | .getSnapshotSet .request _ | .snapshotSetsOf .request _ => True
  | .commit .request writes => ∀ change ∈ writes, change.forRequest
  | _ => False

theorem enqueue_uses (type : JobType) (mirrorSetId : Option Nat) (author : String)
    (params : JobParams) : (enqueue type mirrorSetId author params).Uses Op.forRequest := by
  refine Uses.bind ?_ fun inserted => Uses.bind ?_ fun _ => trivial
  · exact uses_op (by simp [Op.forRequest, Write.forRequest])
  · exact uses_op trivial

/-- Every handler only awaits operations of requests. -/
theorem WebRequest.handler_uses (request : WebRequest) : request.handler.Uses Op.forRequest := by
  have storing : ∀ type mirrorSetId author params,
      (enqueued type mirrorSetId author params).Uses Op.forRequest :=
    fun type mirrorSetId author params =>
      Uses.bind (enqueue_uses type mirrorSetId author params) fun _ => trivial
  cases request with
  | discardSubmit author name =>
      refine Uses.bind (uses_op trivial) fun cached => ?_
      refine Uses.bind (uses_op trivial) fun sets => ?_
      split
      · trivial
      · split
        · trivial
        · exact storing _ _ _ _
  | discardSetSubmit author setId snapshotSetId =>
      refine Uses.bind (uses_op trivial) fun found => ?_
      split
      · trivial
      · split
        · trivial
        · refine Uses.bind (uses_op trivial) fun cached => ?_
          dsimp only
          split
          · trivial
          · exact storing _ _ _ _
  | newSetSubmit author form =>
      refine Uses.bind (uses_op trivial) fun found => ?_
      split
      · exact Uses.bind (uses_op trivial) fun _ => trivial
      · refine Uses.bind ?_ fun inserted => storing _ _ _ _
        exact uses_op (by simp [Op.forRequest, Write.forRequest])
  | adoptSubmit form =>
      refine Uses.bind ?_ fun inserted => trivial
      exact uses_op (by simp [Op.forRequest, Write.forRequest])
  | setDelete author setId mirrors =>
      refine Uses.bind (uses_op trivial) fun found => ?_
      split
      · trivial
      · split
        · refine Uses.bind (uses_op trivial) fun owned => ?_
          refine Uses.bind (uses_op ?_) fun _ => trivial
          intro change membership
          simp only [List.cons_append, List.mem_cons, List.mem_append, List.mem_map,
            List.not_mem_nil, or_false] at membership
          rcases membership with rfl | ⟨row, -, rfl⟩ | rfl <;> trivial
        · refine Uses.bind (uses_op trivial) fun cached => ?_
          dsimp only
          split
          · trivial
          · exact storing _ _ _ _
  | mirrorDelete author name =>
      refine Uses.bind (uses_op trivial) fun cached => ?_
      refine Uses.bind (uses_op trivial) fun sets => ?_
      split
      · trivial
      · exact storing _ _ _ _
  | setCreateMissing author setId => exact storing _ _ _ _
  | setUpdate author setId => exact storing _ _ _ _
  | setSwitch author setId snapshotSetId => exact storing _ _ _ _

theorem Arrival.program_uses (arrival : Arrival) : arrival.program.Uses Op.forRequest := by
  cases arrival with
  | web request => exact request.handler_uses
  | direct type mirrorSetId author params =>
      exact Uses.bind (enqueue_uses type mirrorSetId author params) fun _ => trivial

/-! ## Worlds -/

/-- What the other parties may do between two operations of a job. -/
structure World.Others (before after : World) : Prop where
  db : before.db.Kept after.db
  log : after.log = before.log
  taken : after.taken = before.taken
  currentJob : after.currentJob = before.currentJob
  nextPosition : after.nextPosition = before.nextPosition
  sessionBroken : after.sessionBroken = before.sessionBroken
  queue : before.queue <+: after.queue

theorem World.Others.refl (world : World) : world.Others world :=
  ⟨.refl _, rfl, rfl, rfl, rfl, rfl, List.prefix_rfl⟩

theorem World.Others.trans {first second third : World} (before : first.Others second)
    (after : second.Others third) : first.Others third where
  db := before.db.trans after.db
  log := after.log.trans before.log
  taken := after.taken.trans before.taken
  currentJob := after.currentJob.trans before.currentJob
  nextPosition := after.nextPosition.trans before.nextPosition
  sessionBroken := after.sessionBroken.trans before.sessionBroken
  queue := before.queue.trans after.queue

/-- A request's commit takes effect as a whole or changes nothing. -/
theorem World.commit_request {writes : List Write} {event : Event} {world after : World}
    {outcome : Except Exn Inserted}
    (committed : world.commit .request writes event = some (outcome, after)) :
    (∃ error, outcome = .error error ∧ after = world) ∨
      ∃ db inserted, world.db.commit world.clock writes = .ok (db, inserted) ∧
        outcome = .ok inserted ∧ after = { world with db := db } := by
  cases event <;> simp only [commit, broken, Bool.false_eq_true, if_false, reduceCtorEq] at committed
  split at committed
  · rename_i db inserted stored
    cases committed
    exact .inr ⟨db, inserted, stored, rfl, rfl⟩
  · rename_i error refused
    cases committed
    exact .inl ⟨error, rfl, rfl⟩

/-- An operation of a request reads, stores, or hands a job to the worker. -/
theorem Op.request_cases {op : Op} (harmless : op.forRequest) {event : Event} {world after : World}
    {outcome : Except Exn op.Ret} (performed : op.perform event world = some (outcome, after)) :
    after = world ∨
      (∃ id, op = .put id ∧ after = { world with queue := world.queue ++ [id] }) ∨
      ∃ writes db inserted, op = .commit .request writes ∧
        world.db.commit world.clock writes = .ok (db, inserted) ∧
        after = { world with db := db } := by
  have reading : ∀ {α : Type} (value : α) (outcome : Except Exn α),
      world.query .request value event = some (outcome, after) → after = world := by
    intro α value outcome asked
    cases event <;> simp [World.query, World.broken] at asked
    exact asked.2.symm
  cases op with
  | readCache =>
      cases event <;> simp [Op.perform] at performed
      exact .inl performed.2.symm
  | mirrorSetNamed name => exact .inl (reading _ _ performed)
  | loadSets => exact .inl (reading _ _ performed)
  | put id =>
      cases event <;> simp [Op.perform] at performed
      exact .inr (.inl ⟨id, rfl, performed.2.symm⟩)
  | getMirrorSet session id =>
      cases session with
      | job => exact harmless.elim
      | request => exact .inl (reading _ _ performed)
  | getSnapshotSet session id =>
      cases session with
      | job => exact harmless.elim
      | request => exact .inl (reading _ _ performed)
  | snapshotSetsOf session id =>
      cases session with
      | job => exact harmless.elim
      | request => exact .inl (reading _ _ performed)
  | commit session writes =>
      cases session with
      | job => exact harmless.elim
      | request =>
          rcases World.commit_request performed with
            ⟨error, -, unchanged⟩ | ⟨db, inserted, stored, -, changed⟩
          · exact .inl unchanged
          · exact .inr (.inr ⟨writes, db, inserted, rfl, stored, changed⟩)
  | aptly request => exact harmless.elim
  | fetchRelease publicUrl distribution => exact harmless.elim
  | sleep => exact harmless.elim
  | now => exact harmless.elim
  | beginJob id => exact harmless.elim
  | nextPosition => exact harmless.elim
  | getJob session id => exact harmless.elim
  | runningSteps id => exact harmless.elim

theorem Op.others_of_request {op : Op} (harmless : op.forRequest) {event : Event}
    {world after : World} {outcome : Except Exn op.Ret}
    (performed : op.perform event world = some (outcome, after)) : world.Others after := by
  rcases op.request_cases harmless performed with
    rfl | ⟨id, rfl, rfl⟩ | ⟨writes, db, inserted, rfl, committed, rfl⟩
  · exact .refl _
  · exact ⟨.refl _, rfl, rfl, rfl, rfl, rfl, List.prefix_append _ _⟩
  · exact ⟨Database.kept_of_commit harmless committed, rfl, rfl, rfl, rfl, rfl, List.prefix_rfl⟩

/-! ## Systems -/

/-- A step of somebody other than the worker. -/
def Label.external : Label → Bool
  | .arrive _ | .serve _ _ | .drift _ | .tick _ => true
  | _ => false

namespace System

/-- What every arriving program keeps to, the requests being served keep to. -/
theorem uses_of_step {self : JobRunner} {allowed : Op → Prop} {before after : System}
    {label : Label} (arrives : ∀ arrival : Arrival, arrival.program.Uses allowed)
    (uses : ∀ request ∈ before.requests, request.Uses allowed)
    (stepped : before.step self label = some after) :
    ∀ request ∈ after.requests, request.Uses allowed := by
  cases label with
  | arrive arrival =>
      obtain ⟨-, rfl⟩ := System.step_arrive stepped
      intro request membership
      rcases List.mem_append.mp membership with old | new
      · exact uses request old
      · rw [List.mem_singleton.mp new]
        exact arrives arrival
  | serve index event =>
      obtain ⟨op, resume, outcome, world, found, -, rfl⟩ := System.step_serve stepped
      intro request membership
      rcases List.mem_or_eq_of_mem_set membership with old | rfl
      · exact uses request old
      · exact (uses _ (List.mem_of_getElem? found)).2 outcome
  | take =>
      obtain ⟨_, _, -, -, rfl⟩ := System.step_take stepped
      exact uses
  | work event =>
      obtain ⟨_, _, _, -, -, rfl⟩ := System.step_work stepped
      exact uses
  | drift reached =>
      cases stepped
      exact uses
  | tick elapsed =>
      cases stepped
      exact uses
  | crash =>
      cases stepped
      simp
  | start =>
      obtain ⟨-, rfl⟩ := System.step_start stepped
      exact uses

theorem requests_use_of_step {self : JobRunner} {before after : System} {label : Label}
    (uses : ∀ request ∈ before.requests, request.Uses Op.forRequest)
    (stepped : before.step self label = some after) :
    ∀ request ∈ after.requests, request.Uses Op.forRequest :=
  uses_of_step Arrival.program_uses uses stepped

theorem Reachable.uses {self : JobRunner} {condition : System → Label → Prop}
    {allowed : Op → Prop} {start system : System}
    (reached : Reachable self condition start system)
    (arrives : ∀ arrival : Arrival, arrival.program.Uses allowed)
    (entry : ∀ request ∈ start.requests, request.Uses allowed) :
    ∀ request ∈ system.requests, request.Uses allowed := by
  induction reached with
  | refl => exact entry
  | step _ _ stepped inductionHypothesis => exact uses_of_step arrives inductionHypothesis stepped

theorem Reachable.requests_use {self : JobRunner} {condition : System → Label → Prop}
    {start system : System} (reached : Reachable self condition start system)
    (uses : ∀ request ∈ start.requests, request.Uses Op.forRequest) :
    ∀ request ∈ system.requests, request.Uses Op.forRequest :=
  reached.uses Arrival.program_uses uses

/-- Such a step changes nothing, moves aptly or the clock, or performs one operation of a
request. -/
theorem external_cases {self : JobRunner} {before after : System} {label : Label}
    (external : label.external) (stepped : before.step self label = some after) :
    after.world = before.world ∨
      (∃ reached, label = .drift reached ∧
        after.world = { before.world with aptly := reached }) ∨
      (∃ elapsed, after.world = { before.world with clock := before.world.clock + elapsed }) ∨
      ∃ index event op resume outcome, label = .serve index event ∧
        before.requests[index]? = some (.await op resume) ∧
        op.perform event before.world = some (outcome, after.world) := by
  cases label with
  | arrive arrival =>
      obtain ⟨-, rfl⟩ := System.step_arrive stepped
      exact .inl rfl
  | serve index event =>
      obtain ⟨op, resume, outcome, world, found, performed, rfl⟩ := System.step_serve stepped
      exact .inr (.inr (.inr ⟨index, event, op, resume, outcome, rfl, found, performed⟩))
  | drift reached =>
      cases stepped
      exact .inr (.inl ⟨reached, rfl, rfl⟩)
  | tick elapsed =>
      cases stepped
      exact .inr (.inr (.inl ⟨elapsed, rfl⟩))
  | take => cases external
  | work event => cases external
  | crash => cases external
  | start => cases external

theorem worker_of_external {self : JobRunner} {before after : System} {label : Label}
    (external : label.external) (stepped : before.step self label = some after) :
    after.worker = before.worker := by
  cases label with
  | arrive arrival =>
      obtain ⟨-, rfl⟩ := System.step_arrive stepped
      rfl
  | serve index event =>
      obtain ⟨_, _, _, _, -, -, rfl⟩ := System.step_serve stepped
      rfl
  | drift reached =>
      cases stepped
      rfl
  | tick elapsed =>
      cases stepped
      rfl
  | take => cases external
  | work event => cases external
  | crash => cases external
  | start => cases external

theorem others_of_external {self : JobRunner} {before after : System} {label : Label}
    (uses : ∀ request ∈ before.requests, request.Uses Op.forRequest)
    (external : label.external) (stepped : before.step self label = some after) :
    before.world.Others after.world := by
  rcases external_cases external stepped with
    same | ⟨reached, -, same⟩ | ⟨elapsed, same⟩ | ⟨index, event, op, resume, outcome, -, found, performed⟩
  · rw [same]
    exact .refl _
  · rw [same]
    exact ⟨.refl _, rfl, rfl, rfl, rfl, rfl, List.prefix_rfl⟩
  · rw [same]
    exact ⟨.refl _, rfl, rfl, rfl, rfl, rfl, List.prefix_rfl⟩
  · exact Op.others_of_request (uses _ (List.mem_of_getElem? found)).1 performed

/-- Only a request that is served reaches the database. -/
theorem db_of_external {self : JobRunner} {before after : System} {label : Label}
    (external : label.external) (stepped : before.step self label = some after) :
    after.world.db = before.world.db ∨
      ∃ index event op resume outcome, label = .serve index event ∧
        before.requests[index]? = some (.await op resume) ∧
        op.perform event before.world = some (outcome, after.world) := by
  rcases external_cases external stepped with same | ⟨_, -, same⟩ | ⟨_, same⟩ | served
  · left
    rw [same]
  · left
    rw [same]
  · left
    rw [same]
  · exact .inr served

/-- No request reaches aptly. -/
theorem aptly_of_external {self : JobRunner} {before after : System} {label : Label}
    (uses : ∀ request ∈ before.requests, request.Uses Op.forRequest)
    (external : label.external) (stepped : before.step self label = some after) :
    label = .drift after.world.aptly ∨ after.world.aptly = before.world.aptly := by
  rcases external_cases external stepped with
    same | ⟨reached, drifted, same⟩ | ⟨elapsed, same⟩ |
    ⟨index, event, op, resume, outcome, -, found, performed⟩
  · right
    rw [same]
  · left
    rw [same]
    exact drifted
  · right
    rw [same]
  · right
    rcases op.request_cases (uses _ (List.mem_of_getElem? found)).1 performed with
      same | ⟨id, -, same⟩ | ⟨writes, db, inserted, -, -, same⟩
    all_goals rw [same]

end System

/-! ## The snapshot set being filled -/

namespace World

/-- The running job is still filling this snapshot set. -/
def fills (world : World) (row : SnapshotSet) : Bool :=
  row.jobId.isSome && decide (row.jobId = world.currentJob) && decide (row.state = .incomplete)

/-- The operation deletes no snapshot set that the running job is still filling. -/
def spares (world : World) : Op → Bool
  | .commit _ writes => writes.all fun change =>
      match change.discards with
      | some id => !(world.db.snapshotSets.get? id).any world.fills
      | none => true
  | _ => true

/-- The snapshot sets that the running job was filling are as they were. -/
def Spared (before after : World) : Prop :=
  ∀ id row, before.db.snapshotSets.get? id = some row → before.fills row = true →
    after.db.snapshotSets.get? id = some row

theorem Spared.of_db {before after : World} (same : after.db = before.db) :
    before.Spared after := by
  intro id row found _
  rw [same]
  exact found

theorem Spared.trans {first second third : World} (before : first.Spared second)
    (after : second.Spared third) (same : second.currentJob = first.currentJob) :
    first.Spared third := by
  intro id row found filling
  refine after id row (before id row found filling) ?_
  rw [fills, same]
  exact filling

theorem sparing_refl (world : World) : world.Others world ∧ world.Spared world :=
  ⟨.refl world, .of_db rfl⟩

theorem sparing_trans {first second third : World}
    (before : first.Others second ∧ first.Spared second)
    (after : second.Others third ∧ second.Spared third) :
    first.Others third ∧ first.Spared third :=
  ⟨before.1.trans after.1, before.2.trans after.2 before.1.currentJob⟩

end World

/-- No request deletes a snapshot set that the running job is still filling. -/
def System.spares (system : System) : Label → Bool
  | .serve index _ =>
      ((system.requests[index]?).bind Coroutine.awaits).all system.world.spares
  | _ => true

theorem System.spared_of_external {self : JobRunner} {before after : System} {label : Label}
    (uses : ∀ request ∈ before.requests, request.Uses Op.forRequest)
    (external : label.external) (spares : before.spares label = true)
    (stepped : before.step self label = some after) : before.world.Spared after.world := by
  rcases db_of_external external stepped with
    same | ⟨index, event, op, resume, outcome, rfl, found, performed⟩
  · exact .of_db same
  · have harmless := (uses _ (List.mem_of_getElem? found)).1
    rcases op.request_cases harmless performed with
      same | ⟨id, rfl, same⟩ | ⟨writes, db, inserted, rfl, committed, same⟩
    · exact .of_db (by rw [same])
    · exact .of_db (by rw [same])
    · intro id row known filling
      rw [same]
      refine Database.snapshotSet_of_commit harmless (fun change listed gone => ?_) committed known
      simp only [System.spares, found, Option.bind_some, Coroutine.awaits, Option.all_some,
        World.spares, List.all_eq_true] at spares
      have kept := spares change listed
      simp [gone, known, filling] at kept

end AptlyGui
