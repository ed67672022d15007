import AptlyGui.World
import AptlyGui.Services.Space
import AptlyGui.Services.Jobs.Plan

/-!
# The job runner

`JobRunner` of `services/jobs.py`, method by method.  Objects that a session
keeps in memory are values here, and what the source assigns between two
commits is the list of writes of the second one.
-/

namespace AptlyGui

open Coroutine (foldEach forEach ofExcept raised stalled)

/-! ## The client and the job's session -/

namespace Client

def storage : Program Storage := perform (.aptly .storage)
def getTask (taskId : Int) : Program Task := perform (.aptly (.getTask taskId))
def taskOutput (taskId : Int) : Program String := perform (.aptly (.taskOutput taskId))
def taskProgress (taskId : Int) : Program (Option TaskProgress) :=
  perform (.aptly (.taskProgress taskId))
def listMirrors : Program (List Mirror) := perform (.aptly .listMirrors)
def createMirror (spec : MirrorSpec) : Program Mirror := perform (.aptly (.createMirror spec))
def updateMirror (spec : MirrorSpec) : Program Task := perform (.aptly (.updateMirror spec))
def deleteMirror (name : String) : Program Task := perform (.aptly (.deleteMirror name))
def listSnapshots : Program (List Snapshot) := perform (.aptly .listSnapshots)
def createSnapshotFromMirror (mirror name description : String) : Program Snapshot :=
  perform (.aptly (.createSnapshotFromMirror mirror name description))
def deleteSnapshot (name : String) : Program Unit := perform (.aptly (.deleteSnapshot name))
def listPublished : Program (List Published) := perform (.aptly .listPublished)
def publishSnapshots (target distribution : String) (sources : Dict String String)
    (architectures : List String) (signing : Signing) : Program Task :=
  perform (.aptly (.publishSnapshots target distribution sources architectures signing))
def switchPublished (target distribution : String) (sources : Dict String String)
    (signing : Signing) : Program Task :=
  perform (.aptly (.switchPublished target distribution sources signing))
def dbCleanup : Program Task := perform (.aptly .dbCleanup)

end Client

def fetchRelease (publicUrl distribution : String) : Program ClientCheck :=
  perform (.fetchRelease publicUrl distribution)
def sleep : Program Unit := perform .sleep
def currentTime : Program Time := perform .now
def beginJob (jobId : Nat) : Program Unit := perform (.beginJob jobId)
def advancePosition : Program Nat := perform .nextPosition
def getJob (id : Nat) : Program (Option Job) := perform (.getJob .job id)
def getMirrorSet (session : Session) (id : Nat) : Program (Option MirrorSet) :=
  perform (.getMirrorSet session id)
def getSnapshotSet (session : Session) (id : Nat) : Program (Option SnapshotSet) :=
  perform (.getSnapshotSet session id)
def snapshotSetsOf (session : Session) (mirrorSetId : Nat) : Program (List SnapshotSet) :=
  perform (.snapshotSetsOf session mirrorSetId)
def runningSteps (jobId : Nat) : Program (List JobStep) := perform (.runningSteps jobId)
def commit (session : Session) (writes : List Write) : Program Inserted :=
  perform (.commit session writes)
def put (jobId : Nat) : Program Unit := perform (.put jobId)

/-! ## Steps -/

def outputTail : Nat := 4000

/-- `text[-OUTPUT_TAIL:]` -/
def lastOutput (text : String) : String :=
  String.ofList (text.toList.drop (text.length - outputTail))

/-- `text[:OUTPUT_TAIL]` -/
def firstOutput (text : String) : String := String.ofList (text.toList.take outputTail)

def addStep (jobId : Nat) (description : String) : Program Nat := do
  let position ← advancePosition
  let inserted ← commit .job [.addStep fun now =>
    { jobId, position, description, state := .running, startedAt := some now }]
  return inserted.step

/-- The assignments of `_finish_step`; an empty output leaves the old one. -/
def endStep (step : Nat) (state : StepState) (output : String) : Write :=
  .setStep step fun now row =>
    { row with
      state := state
      finishedAt := some now
      outputTail := if output = "" then row.outputTail else some (lastOutput output) }

def finishStep (step : Nat) (state : StepState) (output : String) : Program Unit := do
  let _ ← commit .job [endStep step state output]

/-- Every step of the job that is still running becomes a failed one, in the commit that also
stores the job's new state. -/
def failRunningSteps (jobId : Nat) (error : String) : Program Unit := do
  let running ← runningSteps jobId
  let _ ← commit .job (.setJob jobId (fun _ job => { job with state := .failed, error := some error })
    :: running.map fun step => .setStep step.id fun now row =>
      { row with
        state := .failed
        finishedAt := some now
        outputTail := if row.outputTail.getD "" = "" then some (firstOutput error)
          else row.outputTail })

structure JobRunner where
  margin : Margin
  /-- How often an unfinished task is looked at before the model stops following the job.  The
  source goes on for ever; every result holds for every value. -/
  polls : Nat

namespace JobRunner

/-- Give up while the download is still in flight if it will not fit. -/
def guardDisk (self : JobRunner) (remainingBytes : Int) : Program Unit := do
  let storage ← Client.storage
  let verdict := checkSpace storage self.margin (some (remainingBytes / (1024 * 1024)))
  if verdict.ok then return
  else raised (.aptlyError
    s!"stopping the sync: {verdict.shortfallMb} MiB short of the configured safety margin")

/-- The polling loop of `_await_task`.  `reported` says whether the step has numbers yet. -/
def pollTask (self : JobRunner) (step : Nat) (taskId : Int) :
    (polls : Nat) → (reported : Bool) → Program String
  | 0, _ => stalled
  | polls + 1, reported => do
      let task ← Client.getTask taskId
      if task.state.finished then
        let output ← Client.taskOutput taskId
        if task.state = .failed then raised (.taskFailed task output)
        else if reported then
          let _ ← commit .job [.setStep step fun _ row =>
            { row with remainingBytes := some 0, remainingPackages := some 0 }]
          return output
        else return output
      else
        match ← Client.taskProgress taskId with
        | none =>
            sleep
            self.pollTask step taskId polls reported
        | some progress =>
            let _ ← commit .job [.setStep step fun _ row =>
              { row with
                totalBytes := some progress.totalBytes
                remainingBytes := some progress.remainingBytes
                totalPackages := some progress.totalPackages
                remainingPackages := some progress.remainingPackages }]
            self.guardDisk progress.remainingBytes
            sleep
            self.pollTask step taskId polls true

/-- Wait for an aptly task, recording download progress onto the step as it goes. -/
def awaitTask (self : JobRunner) (step : Nat) (taskId : Int) : Program String :=
  self.pollTask step taskId self.polls false

/-- What follows every asynchronous call: keep the task id, wait, finish the step. -/
def followTask (self : JobRunner) (step : Nat) (task : Task) : Program Unit := do
  let _ ← commit .job [.setStep step fun _ row => { row with aptlyTaskId := some task.id }]
  let output ← self.awaitTask step task.id
  finishStep step .succeeded output

/-- `except AptlyError as exc`: the step fails with aptly's message, and the exception goes on. -/
def failStep {α : Type} (step : Nat) (error : Exn) : Program α :=
  if error.isAptlyError then do
    finishStep step .failed error.str
    raised error
  else raised error

/-! ## Create -/

def createEach (jobId : Nat) (mirrorSet : MirrorSet) (existing : List String)
    (suite component : String) : Program Unit := do
  let spec := specFor mirrorSet suite component
  let step ← addStep jobId s!"Create {spec.name}"
  if spec.name ∈ existing then finishStep step .skipped "already exists in aptly"
  else
    let _ ← Client.createMirror spec
    finishStep step .succeeded ""

/-- Create one aptly mirror per suite and component. -/
def create (jobId : Nat) (mirrorSet : MirrorSet) : Program Unit := do
  let mirrors ← Client.listMirrors
  forEach (orderSuites mirrorSet.suites) fun suite =>
    forEach mirrorSet.components fun component =>
      createEach jobId mirrorSet (mirrors.map Mirror.name) suite component

/-! ## Update -/

def missingMessage (missing expected : List String) : String :=
  let listed := ", ".intercalate (missing.take 4)
  let more := if missing.length > 4 then " …" else ""
  s!"{missing.length} of {expected.length} mirrors this set describes do not exist in aptly, so " ++
    "there is nothing to sync. Use \"Create missing mirrors\" on the set, then try again. " ++
    s!"Missing: {listed}{more}"

/-- Every mirror must exist and the disk must have room before anything is downloaded. -/
def preflight (self : JobRunner) (jobId : Nat) (mirrorSet : MirrorSet) : Program Unit := do
  let step ← addStep jobId "Preflight"
  let mirrors ← Client.listMirrors
  let missing := mirrorSet.expectedMirrors.filter fun name => name ∉ mirrors.map Mirror.name
  if missing ≠ [] then
    finishStep step .failed ("\n".intercalate missing)
    raised (.aptlyError (missingMessage missing mirrorSet.expectedMirrors))
  else
    let storage ← Client.storage
    let verdict := checkSpace storage self.margin none
    let detail := s!"free {verdict.freeMb} MiB, margin requires {verdict.requiredMb} MiB"
    if verdict.ok then finishStep step .succeeded detail
    else
      finishStep step .failed detail
      raised (.aptlyError s!"not enough free disk space: {detail}")

def syncEach (self : JobRunner) (jobId : Nat) (mirrorSet : MirrorSet)
    (suite component : String) : Program Unit := do
  let spec := specFor mirrorSet suite component
  let step ← addStep jobId s!"Sync {spec.name}"
  let task ← Client.updateMirror spec
  self.followTask step task

def sync (self : JobRunner) (jobId : Nat) (mirrorSet : MirrorSet) : Program Unit :=
  forEach (orderSuites mirrorSet.suites) fun suite =>
    forEach mirrorSet.components fun component => self.syncEach jobId mirrorSet suite component

/-- One snapshot; the new entry of the recorded map and the step's end share a commit. -/
def snapshotEach (jobId : Nat) (mirrorSet : MirrorSet) (stamp : String) (snapshotSet : Nat)
    (taken : Dict String String) (suite component : String) : Program (Dict String String) := do
  let mirrorName := mirrorSet.mirrorName suite component
  let snapshotName := s!"{mirrorName}-{stamp}"
  let step ← addStep jobId s!"Snapshot {snapshotName}"
  let _ ← Client.createSnapshotFromMirror mirrorName snapshotName s!"aptly-gui job {jobId}"
  let taken := taken.set mirrorName snapshotName
  let _ ← commit .job [.setSnapshotSet snapshotSet fun row => { row with snapshots := taken },
    endStep step .succeeded ""]
  return taken

def takeSnapshots (jobId : Nat) (mirrorSet : MirrorSet) (stamp : String) (snapshotSet : Nat) :
    Program (Dict String String) :=
  foldEach (orderSuites mirrorSet.suites) Dict.empty fun taken suite =>
    foldEach mirrorSet.components taken fun taken component =>
      snapshotEach jobId mirrorSet stamp snapshotSet taken suite component

/-- Sync, then snapshot, deliberately stopping before publish. -/
def update (self : JobRunner) (jobId : Nat) (mirrorSet : MirrorSet) : Program Unit := do
  self.preflight jobId mirrorSet
  let moment ← currentTime
  let inserted ← commit .job [.addSnapshotSet
    { mirrorSetId := mirrorSet.id, jobId := some jobId, state := .incomplete
      snapshots := Dict.empty }]
  self.sync jobId mirrorSet
  let _ ← takeSnapshots jobId mirrorSet (snapshotStamp moment) inserted.snapshotSet
  let _ ← commit .job [.setSnapshotSet inserted.snapshotSet fun row =>
    { row with state := .complete }]

/-! ## Discard and remove -/

def deleteSnapshotEach (jobId : Nat) (name : String) : Program Unit := do
  let step ← addStep jobId s!"Delete {name}"
  (Client.deleteSnapshot name).catching (failStep step)
  finishStep step .succeeded ""

/-- Deleting frees nothing on its own, so the cleanup is part of the job. -/
def reclaimSpace (self : JobRunner) (jobId : Nat) : Program Unit := do
  let step ← addStep jobId "Reclaim disk space"
  let task ← Client.dbCleanup
  self.followTask step task

/-- Drop the named snapshots, then compact, then forget the set they made up. -/
def discard (self : JobRunner) (jobId : Nat) (params : JobParams) : Program Unit := do
  forEach (params.snapshots.getD []) (deleteSnapshotEach jobId)
  self.reclaimSpace jobId
  match params.snapshotSetId with
  | none => return
  | some setId =>
      match ← getSnapshotSet .job setId with
      | none => return
      | some snapshotSet =>
          let _ ← commit .job [.deleteSnapshotSet snapshotSet.id]

def deleteMirrorEach (self : JobRunner) (jobId : Nat) (name : String) : Program Unit := do
  let step ← addStep jobId s!"Delete mirror {name}"
  let task ← (Client.deleteMirror name).catching (failStep step)
  self.followTask step task

/-- `session.get` answers from the objects the session has loaded already. -/
def getLoaded (loaded : Option MirrorSet) (id : Nat) : Program (Option MirrorSet) :=
  match loaded with
  | some mirrorSet => if mirrorSet.id = id then return some mirrorSet else getMirrorSet .job id
  | none => getMirrorSet .job id

/-- Drop the named mirrors, then compact, then forget the set that described them. -/
def remove (self : JobRunner) (jobId : Nat) (params : JobParams) (loaded : Option MirrorSet) :
    Program Unit := do
  forEach (params.mirrors.getD []) (self.deleteMirrorEach jobId)
  self.reclaimSpace jobId
  match params.mirrorSetId with
  | none => return
  | some setId =>
      match ← getLoaded loaded setId with
      | none => return
      | some mirrorSet =>
          let owned ← snapshotSetsOf .job mirrorSet.id
          let _ ← commit .job (.setJob jobId (fun _ job => { job with mirrorSetId := none })
            :: owned.map (fun row => .deleteSnapshotSet row.id) ++ [.deleteMirrorSet mirrorSet.id])

/-! ## Switch -/

/-- The snapshots of one suite, or the `KeyError` of the first component without one. -/
def sourcesFor (mirrorSet : MirrorSet) (target : SnapshotSet) (suite : String) :
    Except Exn (Dict String String) :=
  mirrorSet.components.foldlM (fun sources component =>
    match target.snapshots.get? (mirrorSet.mirrorName suite component) with
    | some name => .ok (sources.set component name)
    | none => .error (.keyError (mirrorSet.mirrorName suite component))) Dict.empty

/-- `{(p.prefix, p.distribution): p for p in ...}` -/
def byPlace (published : List Published) : Dict (String × String) Published :=
  Dict.ofList (published.map fun item => ((item.barePrefix, item.distribution), item))

def publishEach (self : JobRunner) (jobId : Nat) (mirrorSet : MirrorSet) (target : SnapshotSet)
    (published : Dict (String × String) Published) (suite : String) : Program Unit := do
  let sources ← ofExcept (sourcesFor mirrorSet target suite)
  let step ← addStep jobId s!"Publish {mirrorSet.publishPrefix}/{suite}"
  let task ←
    if (published.get? (mirrorSet.publishPrefix, suite)).isSome then
      Client.switchPublished mirrorSet.publishTarget suite sources ⟨mirrorSet.signingKey⟩
    else
      Client.publishSnapshots mirrorSet.publishTarget suite sources mirrorSet.architectures
        ⟨mirrorSet.signingKey⟩
  self.followTask step task

/-- `str` of an optional name. -/
def pointsAt (name : Option String) : String := name.getD "None"

def componentProblems (mirrorSet : MirrorSet) (target : SnapshotSet) (suite : String)
    (found : Published) : Except Exn (List String) :=
  mirrorSet.components.foldlM (fun problems component =>
    match target.snapshots.get? (mirrorSet.mirrorName suite component) with
    | none => .error (.keyError (mirrorSet.mirrorName suite component))
    | some expected =>
        if found.snapshotFor component ≠ some expected then
          .ok (problems ++ [s!"{suite}/{component} points at {pointsAt (found.snapshotFor component)}"])
        else .ok problems) []

/-- What the Verify step finds wrong with the publications it has just read. -/
def verifyProblems (mirrorSet : MirrorSet) (target : SnapshotSet)
    (actual : Dict (String × String) Published) : Except Exn (List String) :=
  mirrorSet.suites.foldlM (fun problems suite =>
    match actual.get? (mirrorSet.publishPrefix, suite) with
    | none => .ok (problems ++ [s!"{mirrorSet.publishPrefix}/{suite} is not published"])
    | some found => (componentProblems mirrorSet target suite found).map (problems ++ ·)) []

def verify (jobId : Nat) (mirrorSet : MirrorSet) (target : SnapshotSet) : Program Unit := do
  let step ← addStep jobId "Verify"
  let actual ← Client.listPublished
  let problems ← ofExcept (verifyProblems mirrorSet target (byPlace actual))
  if problems ≠ [] then
    finishStep step .failed ("\n".intercalate problems)
    raised (.aptlyError ("; ".intercalate problems))
  else finishStep step .succeeded ""

def checkAsClient (jobId : Nat) (mirrorSet : MirrorSet) (publicUrl : String) : Program Unit := do
  let step ← addStep jobId "Check as a client"
  let checks ← foldEach (orderSuites mirrorSet.suites) ([] : List ClientCheck) fun checks suite => do
    let check ← fetchRelease publicUrl suite
    return checks ++ [check]
  let report := "\n".intercalate (checks.map ClientCheck.describe)
  match checks.find? fun check => !check.ok with
  | some failed =>
      finishStep step .failed report
      raised (.aptlyError failed.describe)
  | none => finishStep step .succeeded report

/-- Point the publications of the set at the snapshots of a target already checked. -/
def publishSuites (self : JobRunner) (jobId : Nat) (mirrorSet : MirrorSet)
    (target : SnapshotSet) : Program Unit := do
  let published ← Client.listPublished
  forEach (orderSuites mirrorSet.suites)
    (self.publishEach jobId mirrorSet target (byPlace published))
  verify jobId mirrorSet target
  match mirrorSet.publicUrl with
  | none => return
  | some publicUrl =>
      if publicUrl = "" then return else checkAsClient jobId mirrorSet publicUrl

def switch (self : JobRunner) (jobId : Nat) (params : JobParams) (mirrorSet : MirrorSet) :
    Program Unit := do
  match params.snapshotSetId with
  | none => raised (.keyError "snapshot_set_id")
  | some targetId =>
      match ← getSnapshotSet .job targetId with
      | none => raised (.valueError "snapshot set does not belong to this mirror set")
      | some target =>
          if target.mirrorSetId ≠ mirrorSet.id then
            raised (.valueError "snapshot set does not belong to this mirror set")
          else if target.state ≠ .complete then
            raised (.valueError "refusing to publish an incomplete snapshot set")
          else self.publishSuites jobId mirrorSet target

/-! ## Running a job -/

/-- The `try` body of `_run_job`. -/
def execute (self : JobRunner) (jobId : Nat) (job : Job) (mirrorSet : Option MirrorSet) :
    Program Unit :=
  match job.type, mirrorSet with
  | .discard, _ => self.discard jobId job.params
  | .remove, _ => self.remove jobId job.params mirrorSet
  | _, none => raised (.valueError "job has no mirror set")
  | .create, some mirrorSet => create jobId mirrorSet
  | .update, some mirrorSet => self.update jobId mirrorSet
  | .switch, some mirrorSet => self.switch jobId job.params mirrorSet
  | .cleanup, some _ => raised (.valueError s!"unknown job type {job.type.value}")

def announcedSteps (job : Job) (mirrorSet : Option MirrorSet) : Nat :=
  match job.type with
  | .discard => discardSteps (job.params.snapshots.getD []).length
  | .remove => discardSteps (job.params.mirrors.getD []).length
  | type => expectedSteps type mirrorSet

/-- The `finally` block: the job object as it is in memory, and the audit entry. -/
def settle (jobId : Nat) (job : Job) (mirrorSet : Option MirrorSet) (state : JobState)
    (error : Option String) : Program Unit := do
  let _ ← commit .job [
    .setJob jobId fun now row =>
      { row with state := state, error := error, finishedAt := some now },
    .addAudit
      { actor := job.author
        action := s!"job.{job.type.value}"
        target := (mirrorSet.map MirrorSet.name).getD "snapshots"
        result := state.value
        detail := error }]

/-- `try`, `except Exception`, `finally` around a job's work.  The `finally` block runs also when
the `except` branch raises, and an exception raised in it replaces the one in flight. -/
def supervise (jobId : Nat) (job : Job) (mirrorSet : Option MirrorSet) (work : Program Unit) :
    Program Unit := do
  match ← work.attempt with
  | .ok () => settle jobId job mirrorSet .succeeded job.error
  | .error error =>
      if error.isException then
        let recorded ← (failRunningSteps jobId error.text).attempt
        settle jobId job mirrorSet .failed (some error.text)
        ofExcept recorded
      else
        settle jobId job mirrorSet .running job.error
        raised error

/-- `_run_job` once the job and its mirror set are loaded. -/
def runLoaded (self : JobRunner) (jobId : Nat) (job : Job) (mirrorSet : Option MirrorSet) :
    Program Unit := do
  if mirrorSet = none ∧ job.type ≠ .discard ∧ job.type ≠ .remove then return
  else
    let _ ← commit .job [.setJob jobId fun now row =>
      { row with
        state := .running
        startedAt := some now
        expectedSteps := some (announcedSteps job mirrorSet) }]
    supervise jobId job mirrorSet (self.execute jobId job mirrorSet)

def runJob (self : JobRunner) (jobId : Nat) : Program Unit := do
  beginJob jobId
  match ← getJob jobId with
  | none => return
  | some job =>
      match job.mirrorSetId with
      | none => self.runLoaded jobId job none
      | some mirrorSetId =>
          let mirrorSet ← getMirrorSet .job mirrorSetId
          self.runLoaded jobId job mirrorSet

end JobRunner

/-- `JobRunner.enqueue`: store the job, then hand its id to the worker.  `session.refresh` in between
reads the row that has just been stored; it is left out, as the database is taken not to fail. -/
def enqueue (type : JobType) (mirrorSetId : Option Nat) (author : String) (params : JobParams) :
    Program Nat := do
  let inserted ← commit .request [.addJob { type, mirrorSetId, author, params }]
  put inserted.job
  return inserted.job

/-! ## Reconcile -/

/-- What `reconcile` makes of a recorded set, given the snapshots aptly lists. -/
def reconciled (mirrorSet : MirrorSet) (existing : List String) (row : SnapshotSet) :
    SnapshotSet :=
  let present := row.snapshots.filter fun _ snapshot => snapshot ∈ existing
  { row with
    snapshots := present
    state :=
      if present.entries.length = mirrorSet.suites.length * mirrorSet.components.length then
        .complete
      else .incomplete }

end AptlyGui
