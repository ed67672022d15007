import AptlyGui.Library.Dict

/-!
# What aptly's REST API is told and answers

The data classes of `aptly/models.py`, the methods of `AptlyClient` that the
job runner calls (`Request`), and the bodies aptly may answer with (`Reply`).
aptly itself is not modelled: any answer to any request is possible, and a call
that raises may or may not have been carried out.
-/

namespace AptlyGui

inductive TaskState where
  | queued
  | running
  | succeeded
  | failed
  deriving DecidableEq, Repr

def TaskState.finished : TaskState → Bool
  | .succeeded | .failed => true
  | .queued | .running => false

theorem TaskState.eq_of_finished {state : TaskState} (finished : state.finished = true)
    (unfailed : state ≠ .failed) : state = .succeeded := by
  cases state with
  | queued => cases finished
  | running => cases finished
  | succeeded => rfl
  | failed => exact absurd rfl unfailed

structure Task where
  id : Int
  name : String
  state : TaskState
  deriving DecidableEq, Repr

/-- aptly reports download progress as plain numbers; nothing keeps them positive. -/
structure TaskProgress where
  totalBytes : Int
  remainingBytes : Int
  totalPackages : Int
  remainingPackages : Int
  deriving DecidableEq, Repr

structure Storage where
  totalMb : Int
  freeMb : Int
  deriving DecidableEq, Repr

structure MirrorSpec where
  name : String
  archiveUrl : String
  distribution : String
  components : List String
  architectures : List String
  keyrings : List String
  filter : Option String
  filterWithDeps : Bool
  downloadSources : Bool
  downloadUdebs : Bool
  ignoreSignatures : Bool
  deriving DecidableEq, Repr

structure Mirror where
  name : String
  archiveUrl : String
  distribution : String
  components : List String
  architectures : List String
  filter : Option String
  deriving DecidableEq, Repr

structure Snapshot where
  name : String
  deriving DecidableEq, Repr

structure PublishedSource where
  component : String
  name : String
  deriving DecidableEq, Repr

/-- A publication as aptly lists it: where it is stored, and the bare prefix. -/
structure Publication where
  storage : String
  barePrefix : String
  distribution : String
  sources : List PublishedSource
  deriving DecidableEq, Repr

/-- A publication as the program keeps it. -/
structure Published where
  barePrefix : String
  distribution : String
  sources : List PublishedSource
  deriving DecidableEq, Repr

/-- `Published.parse` reads `Prefix`, `Distribution` and `Sources`, not `Storage`. -/
def Published.parse (raw : Publication) : Published where
  barePrefix := raw.barePrefix
  distribution := raw.distribution
  sources := raw.sources

/-- The first source of the component, as `next(..., None)` finds it. -/
def Published.snapshotFor (published : Published) (component : String) : Option String :=
  (published.sources.find? fun source => source.component = component).map PublishedSource.name

structure Signing where
  gpgKey : Option String
  deriving DecidableEq, Repr

/-- What a client of the published tree gets, from `services/verify.py`. -/
structure ClientCheck where
  url : String
  status : Option Nat
  signed : Bool
  error : Option String
  deriving DecidableEq, Repr

def ClientCheck.ok (check : ClientCheck) : Bool :=
  check.status = some 200 && check.signed

def ClientCheck.describeAnswer (check : ClientCheck) : String :=
  match check.status with
  | some 200 =>
      if check.signed then s!"{check.url}: signed and reachable"
      else s!"{check.url}: fetched but not signed"
  | some status => s!"{check.url}: HTTP {status}"
  | none => s!"{check.url}: HTTP None"

def ClientCheck.describe (check : ClientCheck) : String :=
  match check.error with
  | some error => if error = "" then check.describeAnswer else s!"{check.url}: {error}"
  | none => check.describeAnswer

/-! ## Exceptions -/

def singleQuote : Char := Char.ofNat 39
def doubleQuote : Char := Char.ofNat 34

/-- A character inside `repr` of a text that is put between these quotes.  Outside ASCII every
character counts as printable. -/
def reprChar (quote char : Char) : List Char :=
  if char = quote ∨ char = '\\' then ['\\', char]
  else if char = '\t' then ['\\', 't']
  else if char = '\n' then ['\\', 'n']
  else if char = '\r' then ['\\', 'r']
  else if char.toNat < 32 ∨ char.toNat = 127 then
    ['\\', 'x', Nat.digitChar (char.toNat / 16), Nat.digitChar (char.toNat % 16)]
  else [char]

/-- `repr(text)`, between double quotes only where that saves escaping single ones. -/
def pythonRepr (text : String) : String :=
  let quote := if singleQuote ∈ text.toList ∧ doubleQuote ∉ text.toList then doubleQuote
    else singleQuote
  String.ofList (quote :: text.toList.flatMap (reprChar quote) ++ [quote])

/-- The exceptions the runner's code raises itself or meets.  `other` is any other subclass of
`Exception`; `cancelled` is `asyncio.CancelledError`, which is not one. -/
inductive Exn where
  | aptlyError (message : String)
  | taskFailed (task : Task) (output : String)
  | valueError (message : String)
  | keyError (key : String)
  | staleData
  | pendingRollback
  | integrityError
  | malformed
  | other (className message : String) (named : className ≠ "")
  | cancelled
  deriving DecidableEq

namespace Exn

/-- Caught by `except Exception`. -/
def isException : Exn → Bool
  | .cancelled => false
  | _ => true

/-- Caught by `except AptlyError`; `TaskFailed` is a subclass. -/
def isAptlyError : Exn → Bool
  | .aptlyError _ | .taskFailed _ _ => true
  | _ => false

def className : Exn → String
  | .aptlyError _ => "AptlyError"
  | .taskFailed _ _ => "TaskFailed"
  | .valueError _ => "ValueError"
  | .keyError _ => "KeyError"
  | .staleData => "StaleDataError"
  | .pendingRollback => "PendingRollbackError"
  | .integrityError => "IntegrityError"
  | .malformed => "KeyError"
  | .other className _ _ => className
  | .cancelled => "CancelledError"

/-- `str(exc)`; the texts of SQLAlchemy's own exceptions are not told apart. -/
def str : Exn → String
  | .aptlyError message => message
  | .taskFailed task output => s!"{task.name}: " ++ if output = "" then "no output" else output
  | .valueError message => message
  | .keyError key => pythonRepr key
  | .staleData | .pendingRollback | .integrityError | .malformed => ""
  | .other _ message _ => message
  | .cancelled => ""

/-- `str(exc) or exc.__class__.__name__`, the text a failed job keeps. -/
def text (exn : Exn) : String :=
  if exn.str = "" then exn.className else exn.str

theorem className_ne_empty (exn : Exn) : exn.className ≠ "" := by
  cases exn with
  | other className message named => exact named
  | _ => simp [className]

theorem text_ne_empty (exn : Exn) : exn.text ≠ "" := by
  unfold text
  split
  · exact exn.className_ne_empty
  · assumption

end Exn

/-! ## Requests and replies -/

/-- The calls of `AptlyClient` that the job runner makes. -/
inductive Request where
  | storage
  | getTask (taskId : Int)
  | taskOutput (taskId : Int)
  | taskProgress (taskId : Int)
  | listMirrors
  | createMirror (spec : MirrorSpec)
  | updateMirror (spec : MirrorSpec)
  | deleteMirror (name : String)
  | listSnapshots
  | createSnapshotFromMirror (mirror name description : String)
  | deleteSnapshot (name : String)
  | listPublished
  | publishSnapshots (target distribution : String) (sources : Dict String String)
      (architectures : List String) (signing : Signing)
  | switchPublished (target distribution : String) (sources : Dict String String)
      (signing : Signing)
  | dbCleanup
  deriving DecidableEq

namespace Request

/-- The call changes what aptly holds: everything but a `GET`. -/
def writes : Request → Bool
  | .createMirror _ | .updateMirror _ | .deleteMirror _ | .createSnapshotFromMirror _ _ _
  | .deleteSnapshot _ | .publishSnapshots _ _ _ _ _ | .switchPublished _ _ _ _ | .dbCleanup => true
  | .storage | .getTask _ | .taskOutput _ | .taskProgress _ | .listMirrors | .listSnapshots
  | .listPublished => false

/-- The call is sent with `_async=1`, so it only starts a task. -/
def startsTask : Request → Bool
  | .updateMirror _ | .deleteMirror _ | .publishSnapshots _ _ _ _ _ | .switchPublished _ _ _ _
  | .dbCleanup => true
  | _ => false

/-- What the client method returns. -/
def Ret : Request → Type
  | .storage => Storage
  | .getTask _ => Task
  | .taskOutput _ => String
  | .taskProgress _ => Option TaskProgress
  | .listMirrors => List Mirror
  | .createMirror _ => Mirror
  | .updateMirror _ => Task
  | .deleteMirror _ => Task
  | .listSnapshots => List Snapshot
  | .createSnapshotFromMirror _ _ _ => Snapshot
  | .deleteSnapshot _ => Unit
  | .listPublished => List Published
  | .publishSnapshots _ _ _ _ _ => Task
  | .switchPublished _ _ _ _ => Task
  | .dbCleanup => Task

end Request

/-- The bodies aptly may answer with, by the shape a client method can read. -/
inductive Reply where
  | storage (storage : Storage)
  | task (task : Task)
  | output (text : String)
  | progress (progress : Option TaskProgress)
  | mirrors (mirrors : List Mirror)
  | mirror (mirror : Mirror)
  | snapshots (snapshots : List Snapshot)
  | snapshot (snapshot : Snapshot)
  | published (publications : List Publication)
  | nothing
  deriving DecidableEq

/-- The client method's reading of a body.  A body of another shape makes `parse` raise. -/
def Request.parse : (request : Request) → Reply → Except Exn request.Ret
  | .storage, .storage reading => .ok reading
  | .getTask _, .task task => .ok task
  | .taskOutput _, .output text => .ok text
  | .taskProgress _, .progress progress => .ok progress
  | .listMirrors, .mirrors mirrors => .ok mirrors
  | .createMirror _, .mirror mirror => .ok mirror
  | .updateMirror _, .task task => .ok task
  | .deleteMirror _, .task task => .ok task
  | .listSnapshots, .snapshots snapshots => .ok snapshots
  | .createSnapshotFromMirror _ _ _, .snapshot snapshot => .ok snapshot
  | .deleteSnapshot _, _ => .ok ()
  | .listPublished, .published publications => .ok (publications.map Published.parse)
  | .publishSnapshots _ _ _ _ _, .task task => .ok task
  | .switchPublished _ _ _ _, .task task => .ok task
  | .dbCleanup, .task task => .ok task
  | _, _ => .error .malformed

/-- What aptly holds.  Its surroundings choose it anew at every call. -/
structure Aptly where
  mirrors : List Mirror
  snapshots : List String
  published : List Publication
  deriving DecidableEq, Repr

def Aptly.mirrorNames (aptly : Aptly) : List String := aptly.mirrors.map Mirror.name

end AptlyGui
