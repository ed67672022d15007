import AptlyGui.Library.Safety
import AptlyGui.Database.Model
import Mathlib.Data.List.Sort

/-!
# What one awaited operation does

The operations that the job runner and the request handlers await, the state
they share, and every way in which one of them can go.  A step of the world is
one operation: between two operations of one coroutine any other may run.

aptly's answers are free.  A call may raise although aptly carried it out, and
aptly may hold anything afterwards; assumptions about aptly are stated where a
result needs them.
-/

namespace AptlyGui

/-- The part of `web/state.py`'s `AptlyState` that handlers look at. -/
structure AptlyState where
  mirrors : List Mirror
  snapshots : List Snapshot
  published : List Published
  deriving DecidableEq, Repr

/-- Whose database session an operation runs in.  The running job has one for its whole life. -/
inductive Session where
  | job
  | request
  deriving DecidableEq, Repr

inductive Op where
  | aptly (request : Request)
  /-- `check_release`: fetch `InRelease` the way apt would -/
  | fetchRelease (publicUrl distribution : String)
  /-- `StateCache.get` -/
  | readCache
  | sleep
  /-- `datetime.now(UTC)` -/
  | now
  /-- `self.current_job_id = job_id; self._next_position = 0`, and a new session -/
  | beginJob (jobId : Nat)
  /-- `self._next_position += 1` -/
  | nextPosition
  | getJob (session : Session) (id : Nat)
  | getMirrorSet (session : Session) (id : Nat)
  | getSnapshotSet (session : Session) (id : Nat)
  | mirrorSetNamed (name : String)
  /-- `_load_sets`: every mirror set with its snapshot sets, by name -/
  | loadSets
  /-- the snapshot sets that `session.delete(mirror_set)` loads to delete them too -/
  | snapshotSetsOf (session : Session) (mirrorSetId : Nat)
  | runningSteps (jobId : Nat)
  | commit (session : Session) (writes : List Write)
  /-- `self._queue.put(job.id)` -/
  | put (jobId : Nat)

def Op.Ret : Op → Type
  | .aptly request => request.Ret
  | .fetchRelease _ _ => ClientCheck
  | .readCache => AptlyState
  | .sleep => Unit
  | .now => Time
  | .beginJob _ => Unit
  | .nextPosition => Nat
  | .getJob _ _ => Option Job
  | .getMirrorSet _ _ => Option MirrorSet
  | .getSnapshotSet _ _ => Option SnapshotSet
  | .mirrorSetNamed _ => Option MirrorSet
  | .loadSets => List (MirrorSet × List SnapshotSet)
  | .snapshotSetsOf _ _ => List SnapshotSet
  | .runningSteps _ => List JobStep
  | .commit _ _ => Inserted
  | .put _ => Unit

abbrev Async : Interface := ⟨Op, Op.Ret, Exn⟩

abbrev Program := Coroutine Async

abbrev perform (op : Op) : Program op.Ret := @Coroutine.perform Async op

theorem uses_op {allowed : Op → Prop} {op : Op} (permitted : allowed op) :
    Coroutine.Uses allowed (perform op) :=
  (@Coroutine.uses_perform Async allowed op).mpr permitted

/-- One request the runner has sent, and what came of it.  `carriedOut` says whether aptly did
what was asked; after an exception only aptly knows. -/
structure Entry where
  job : Option Nat
  request : Request
  outcome : Except Exn Reply
  carriedOut : Bool

structure World where
  db : Database
  aptly : Aptly
  /-- the runner's requests to aptly, newest first -/
  log : List Entry
  /-- `JobRunner._queue` -/
  queue : List Nat
  /-- every job id the worker has taken from the queue, newest first -/
  taken : List Nat
  /-- `JobRunner.current_job_id` -/
  currentJob : Option Nat
  /-- `JobRunner._next_position` -/
  nextPosition : Nat
  /-- The job's session refuses further work: SQLAlchemy deactivates a session in which a flush
  failed, or in which an await on the database was cancelled. -/
  sessionBroken : Bool
  clock : Time

/-- How the surroundings answer an operation. -/
inductive Event where
  | proceed
  | reply (body : Reply) (after : Aptly)
  | fault (error : Exn) (carriedOut : Bool) (after : Aptly)
  | checked (check : ClientCheck)
  | cached (state : AptlyState)
  /-- `task.cancel()` reaches the worker while it awaits this operation -/
  | cancel (applied : Bool) (after : Aptly)

namespace World

def record (world : World) (request : Request) (outcome : Except Exn Reply) (carriedOut : Bool)
    (after : Aptly) : World :=
  { world with
    aptly := after
    log := ⟨world.currentJob, request, outcome, carriedOut⟩ :: world.log }

def broken (world : World) : Session → Bool
  | .job => world.sessionBroken
  | .request => false

/-- A session whose flush failed is deactivated; a request's session is simply closed. -/
def breakSession (world : World) : Session → World
  | .job => { world with sessionBroken := true }
  | .request => world

/-- A read of the database. -/
def query {α : Type} (world : World) (session : Session) (value : α) :
    Event → Option (Except Exn α × World)
  | .proceed =>
      if world.broken session then some (.error .pendingRollback, world) else some (.ok value, world)
  | .cancel _ _ =>
      match session with
      | .job => some (.error .cancelled, world.breakSession .job)
      | .request => none
  | _ => none

def commit (world : World) (session : Session) (writes : List Write) :
    Event → Option (Except Exn Inserted × World)
  | .proceed =>
      if world.broken session then some (.error .pendingRollback, world)
      else
        match world.db.commit world.clock writes with
        | .ok (db, inserted) => some (.ok inserted, { world with db := db })
        | .error error => some (.error error, world.breakSession session)
  | .cancel applied _ =>
      match session with
      | .job =>
          match applied && !world.sessionBroken, world.db.commit world.clock writes with
          | true, .ok (db, _) => some (.error .cancelled, { world with db := db, sessionBroken := true })
          | _, _ => some (.error .cancelled, world.breakSession .job)
      | .request => none
  | _ => none

/-- `_load_sets` orders by name. -/
def loadSets (world : World) : List (MirrorSet × List SnapshotSet) :=
  (world.db.mirrorSets.rows.insertionSort fun first second => first.name ≤ second.name).map
    fun mirrorSet => (mirrorSet, world.db.snapshotSets.rows.filter
      fun snapshotSet => snapshotSet.mirrorSetId = mirrorSet.id)

end World

def Op.perform : (op : Op) → Event → World → Option (Except Exn op.Ret × World)
  | .aptly request, event, world =>
      match event with
      | .reply body after => some (request.parse body, world.record request (.ok body) true after)
      | .fault error carriedOut after =>
          if error.isException then
            some (.error error, world.record request (.error error) carriedOut after)
          else none
      | .cancel applied after =>
          some (.error .cancelled, world.record request (.error .cancelled) applied after)
      | _ => none
  | .fetchRelease _ _, event, world =>
      match event with
      | .checked check => some (.ok check, world)
      | .fault error _ _ => if error.isException then some (.error error, world) else none
      | .cancel _ _ => some (.error .cancelled, world)
      | _ => none
  | .readCache, event, world =>
      match event with
      | .cached state => some (.ok state, world)
      | _ => none
  | .sleep, event, world =>
      match event with
      | .proceed => some (.ok (), world)
      | .cancel _ _ => some (.error .cancelled, world)
      | _ => none
  | .now, event, world =>
      match event with
      | .proceed => some (.ok world.clock, world)
      | _ => none
  | .beginJob jobId, event, world =>
      match event with
      | .proceed => some (.ok (),
          { world with currentJob := some jobId, nextPosition := 0, sessionBroken := false })
      | _ => none
  | .nextPosition, event, world =>
      match event with
      | .proceed => some (.ok (world.nextPosition + 1),
          { world with nextPosition := world.nextPosition + 1 })
      | _ => none
  | .getJob session id, event, world => world.query session (world.db.jobs.get? id) event
  | .getMirrorSet session id, event, world =>
      world.query session (world.db.mirrorSets.get? id) event
  | .getSnapshotSet session id, event, world =>
      world.query session (world.db.snapshotSets.get? id) event
  | .mirrorSetNamed name, event, world =>
      world.query .request (world.db.mirrorSets.rows.find? fun row => row.name = name) event
  | .loadSets, event, world => world.query .request world.loadSets event
  | .snapshotSetsOf session mirrorSetId, event, world =>
      world.query session
        (world.db.snapshotSets.rows.filter fun row => row.mirrorSetId = mirrorSetId) event
  | .runningSteps jobId, event, world =>
      world.query .job
        (world.db.steps.rows.filter fun row => row.jobId = jobId ∧ row.state = .running) event
  | .commit session writes, event, world => world.commit session writes event
  | .put jobId, event, world =>
      match event with
      | .proceed => some (.ok (), { world with queue := world.queue ++ [jobId] })
      | _ => none

def semantics : Semantics Async World Event := ⟨Op.perform⟩

end AptlyGui
