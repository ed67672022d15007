import AptlyGui.Library.Table
import AptlyGui.Aptly.Model
import AptlyGui.Services.Naming

/-!
# The service's own database

The rows of `db/models.py` that jobs and the job-related request handlers read
or write, and what one `session.commit()` does to them.  A commit either takes
effect as a whole or raises and changes nothing.
-/

namespace AptlyGui

/-- Microseconds since the epoch, UTC. -/
abbrev Time := Nat

inductive JobState where
  | queued
  | running
  | succeeded
  | failed
  | interrupted
  deriving DecidableEq, Repr

def JobState.value : JobState → String
  | .queued => "queued"
  | .running => "running"
  | .succeeded => "succeeded"
  | .failed => "failed"
  | .interrupted => "interrupted"

inductive JobType where
  | create
  | update
  | switch
  | discard
  | remove
  | cleanup
  deriving DecidableEq, Repr

def JobType.value : JobType → String
  | .create => "create"
  | .update => "update"
  | .switch => "switch"
  | .discard => "discard"
  | .remove => "remove"
  | .cleanup => "cleanup"

inductive StepState where
  | pending
  | running
  | succeeded
  | failed
  | skipped
  deriving DecidableEq, Repr

inductive SnapshotSetState where
  | complete
  | incomplete
  deriving DecidableEq, Repr

/-- The keys jobs read from the free-form `params`. -/
structure JobParams where
  snapshots : Option (List String) := none
  snapshotSetId : Option Nat := none
  mirrors : Option (List String) := none
  mirrorSetId : Option Nat := none
  deriving DecidableEq, Repr

structure Job where
  id : Nat := 0
  type : JobType
  mirrorSetId : Option Nat
  state : JobState := .queued
  author : String
  startedAt : Option Time := none
  finishedAt : Option Time := none
  error : Option String := none
  params : JobParams
  expectedSteps : Option Nat := none
  deriving DecidableEq, Repr

structure JobStep where
  id : Nat := 0
  jobId : Nat
  position : Nat
  description : String
  state : StepState := .pending
  aptlyTaskId : Option Int := none
  outputTail : Option String := none
  startedAt : Option Time := none
  finishedAt : Option Time := none
  totalBytes : Option Int := none
  remainingBytes : Option Int := none
  totalPackages : Option Int := none
  remainingPackages : Option Int := none
  deriving DecidableEq, Repr

structure MirrorSet where
  id : Nat := 0
  name : String
  archiveUrl : String
  suites : List String
  components : List String
  architectures : List String
  keyrings : List String
  filter : Option String
  publishPrefix : String
  publishEndpoint : Option String
  publicUrl : Option String
  mirrorPattern : Pattern
  signingKey : Option String
  adopted : Bool
  deriving DecidableEq, Repr

structure SnapshotSet where
  id : Nat := 0
  mirrorSetId : Nat
  takenAt : Time := 0
  /-- mirror name to snapshot name -/
  snapshots : Dict String String
  state : SnapshotSetState
  jobId : Option Nat
  deriving DecidableEq

structure AuditEntry where
  actor : String := "anonymous"
  action : String
  target : String := ""
  result : String := "ok"
  detail : Option String := none
  deriving DecidableEq, Repr

namespace MirrorSet

def mirrorName (mirrorSet : MirrorSet) (suite component : String) : String :=
  mirrorSet.mirrorPattern.format mirrorSet.name suite component

/-- The prefix as aptly's API wants it, including the storage scheme. -/
def publishTarget (mirrorSet : MirrorSet) : String :=
  match mirrorSet.publishEndpoint with
  | some endpoint =>
      if endpoint = "" then mirrorSet.publishPrefix
      else s!"filesystem:{endpoint}:{mirrorSet.publishPrefix}"
  | none => mirrorSet.publishPrefix

def expectedMirrors (mirrorSet : MirrorSet) : List String :=
  mirrorSet.suites.flatMap fun suite =>
    mirrorSet.components.map fun component => mirrorSet.mirrorName suite component

theorem mem_expectedMirrors {mirrorSet : MirrorSet} {name : String} :
    name ∈ mirrorSet.expectedMirrors ↔
      ∃ suite ∈ mirrorSet.suites, ∃ component ∈ mirrorSet.components,
        mirrorSet.mirrorName suite component = name := by
  simp [expectedMirrors]

end MirrorSet

instance : Keyed Job := ⟨Job.id, fun key row => { row with id := key }, fun _ _ => rfl⟩

instance : Keyed JobStep := ⟨JobStep.id, fun key row => { row with id := key }, fun _ _ => rfl⟩

instance : Keyed MirrorSet := ⟨MirrorSet.id, fun key row => { row with id := key }, fun _ _ => rfl⟩

instance : Keyed SnapshotSet :=
  ⟨SnapshotSet.id, fun key row => { row with id := key }, fun _ _ => rfl⟩

structure Database where
  jobs : Table Job
  steps : Table JobStep
  mirrorSets : Table MirrorSet
  snapshotSets : Table SnapshotSet
  audit : List AuditEntry
  deriving DecidableEq

def Database.empty : Database := ⟨.empty, .empty, .empty, .empty, []⟩

/-- One change a session holds when it commits.  Changes to a row are written as functions of
the clock, since the source stamps rows with `datetime.now(UTC)`. -/
inductive Write where
  | addJob (job : Job)
  | addStep (step : Time → JobStep)
  | addMirrorSet (mirrorSet : MirrorSet)
  | addSnapshotSet (snapshotSet : SnapshotSet)
  | addAudit (entry : AuditEntry)
  | setJob (id : Nat) (change : Time → Job → Job)
  | setStep (id : Nat) (change : Time → JobStep → JobStep)
  | setSnapshotSet (id : Nat) (change : SnapshotSet → SnapshotSet)
  | deleteMirrorSet (id : Nat)
  | deleteSnapshotSet (id : Nat)

/-- The primary keys a commit handed out. -/
structure Inserted where
  job : Nat := 0
  step : Nat := 0
  mirrorSet : Nat := 0
  snapshotSet : Nat := 0
  deriving DecidableEq, Repr

/-- Another snapshot set of the same mirror set was taken at this very moment. -/
def Database.takenTwice (db : Database) (now : Time) (mirrorSetId : Nat) : Bool :=
  db.snapshotSets.rows.any fun other =>
    decide (other.mirrorSetId = mirrorSetId) && decide (other.takenAt = now)

/-- Updating a row that is gone raises `StaleDataError`, deleting one only warns.
`mirror_sets.name` is unique, and so is `snapshot_sets.taken_at` in each mirror set, which the
insert fills with the time. -/
def Database.write (now : Time) (db : Database) (inserted : Inserted) :
    Write → Except Exn (Database × Inserted)
  | .addJob job =>
      .ok ({ db with jobs := db.jobs.insert job }, { inserted with job := db.jobs.nextId })
  | .addStep step =>
      .ok ({ db with steps := db.steps.insert (step now) },
        { inserted with step := db.steps.nextId })
  | .addMirrorSet mirrorSet =>
      if ∃ other ∈ db.mirrorSets.rows, other.name = mirrorSet.name then .error .integrityError
      else .ok ({ db with mirrorSets := db.mirrorSets.insert mirrorSet },
        { inserted with mirrorSet := db.mirrorSets.nextId })
  | .addSnapshotSet snapshotSet =>
      if db.takenTwice now snapshotSet.mirrorSetId then .error .integrityError
      else .ok ({ db with
          snapshotSets := db.snapshotSets.insert { snapshotSet with takenAt := now } },
        { inserted with snapshotSet := db.snapshotSets.nextId })
  | .addAudit entry => .ok ({ db with audit := db.audit ++ [entry] }, inserted)
  | .setJob id change =>
      if (db.jobs.get? id).isNone then .error .staleData
      else .ok ({ db with jobs := db.jobs.update id (change now) }, inserted)
  | .setStep id change =>
      if (db.steps.get? id).isNone then .error .staleData
      else .ok ({ db with steps := db.steps.update id (change now) }, inserted)
  | .setSnapshotSet id change =>
      if (db.snapshotSets.get? id).isNone then .error .staleData
      else .ok ({ db with snapshotSets := db.snapshotSets.update id change }, inserted)
  | .deleteMirrorSet id => .ok ({ db with mirrorSets := db.mirrorSets.delete id }, inserted)
  | .deleteSnapshotSet id => .ok ({ db with snapshotSets := db.snapshotSets.delete id }, inserted)

def Database.writeAll (now : Time) (db : Database) (inserted : Inserted) :
    List Write → Except Exn (Database × Inserted)
  | [] => .ok (db, inserted)
  | change :: rest =>
      match db.write now inserted change with
      | .ok (after, keys) => after.writeAll now keys rest
      | .error error => .error error

/-- `session.commit()`: all changes, or none and an exception. -/
def Database.commit (now : Time) (db : Database) (writes : List Write) :
    Except Exn (Database × Inserted) :=
  db.writeAll now {} writes

end AptlyGui
