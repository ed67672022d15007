import AptlyGui.Services.Jobs.Runner

/-!
# The request handlers that feed the job runner

The `POST` handlers of `web/app.py` that create, adopt, forget or delete mirror
sets or enqueue jobs.  A handler is a coroutine like a job: other requests and
the worker run between its awaits.
-/

namespace AptlyGui

/-! ## Form helpers -/

/-- `str.isspace` for one character. -/
def isSpace (char : Char) : Bool :=
  let code := char.toNat
  (9 ≤ code && code ≤ 13) || (28 ≤ code && code ≤ 32) || code = 133 || code = 160 ||
    code = 5760 || (8192 ≤ code && code ≤ 8202) || code = 8232 || code = 8233 || code = 8239 ||
    code = 8287 || code = 12288

/-- `str.strip()` -/
def stripChars (chars : List Char) : List Char :=
  ((chars.dropWhile isSpace).reverse.dropWhile isSpace).reverse

/-- `str.split(",")` on the characters; never empty. -/
def splitCommas : List Char → List (List Char)
  | [] => [[]]
  | char :: rest =>
      if char = ',' then [] :: splitCommas rest
      else
        match splitCommas rest with
        | [] => [[char]]
        | first :: others => (char :: first) :: others

/-- `_split` -/
def splitField (value : String) : List String :=
  let commas := value.toList.map fun char => if char = '\n' then ',' else char
  ((splitCommas commas).map stripChars).filterMap fun part =>
    if part = [] then none else some (String.ofList part)

/-- `value or None` -/
def orNone (value : String) : Option String := if value = "" then none else some value

/-- `value.rstrip("/")` -/
def rstripSlash (value : String) : String :=
  String.ofList (value.toList.reverse.dropWhile (· = '/')).reverse

/-- `_valid_pattern` -/
def validPattern (value : String) : Pattern :=
  if value = Pattern.suiteComponent.text then .suiteComponent else .setSuiteComponent

/-- The fields of the create and adopt forms. -/
structure SetForm where
  name : String
  archiveUrl : String
  suites : String
  components : String
  architectures : String
  publishPrefix : String
  keyrings : String
  signingKey : String
  filter : String
  publishEndpoint : String
  publicUrl : String
  mirrorPattern : String
  deriving DecidableEq, Repr

/-- The row both forms store. -/
def SetForm.mirrorSet (form : SetForm) (adopted : Bool) : MirrorSet where
  name := form.name
  archiveUrl := form.archiveUrl
  suites := splitField form.suites
  components := splitField form.components
  architectures := splitField form.architectures
  keyrings := splitField form.keyrings
  filter := orNone form.filter
  publishPrefix := form.publishPrefix
  publishEndpoint := orNone form.publishEndpoint
  publicUrl := orNone (rstripSlash form.publicUrl)
  mirrorPattern := validPattern form.mirrorPattern
  signingKey := orNone form.signingKey
  adopted := adopted

inductive Response where
  | redirect (url : String)
  | page (template : String)
  deriving DecidableEq, Repr

/-! ## Views of the cached state -/

namespace AptlyState

def mirrorNames (state : AptlyState) : List String := state.mirrors.map Mirror.name

def publishedSnapshotNames (state : AptlyState) : List String :=
  state.published.flatMap fun item => item.sources.map PublishedSource.name

end AptlyState

def sortedNames (names : List String) : List String := names.insertionSort (· ≤ ·)

def startsWith (text start : String) : Bool := start.toList.isPrefixOf text.toList

theorem startsWith_iff {text start : String} :
    startsWith text start = true ↔ start.toList <+: text.toList :=
  List.isPrefixOf_iff_prefix

/-- `_snapshots_of`: snapshots that appear to have come from these mirrors. -/
def snapshotsOf (state : AptlyState) (mirrors : List String) : List String :=
  sortedNames (state.snapshots.flatMap fun snapshot =>
    (mirrors.filter fun mirror => startsWith snapshot.name s!"{mirror}-").map
      fun _ => snapshot.name).dedup

/-- `_managed_map` -/
def managedMap (sets : List MirrorSet) : Dict String String :=
  Dict.ofList (sets.flatMap fun item => item.expectedMirrors.map fun name => (name, item.name))

/-- What `_snapshot_context` says about one snapshot, as far as `discard_submit` reads it. -/
structure SnapshotEntry where
  mirrorSetId : Option Nat
  snapshotSetId : Option Nat
  blocked : Option String
  deriving DecidableEq, Repr

/-- Which mirror set and snapshot set record a snapshot; the last one that does wins. -/
def snapshotOwners (sets : List (MirrorSet × List SnapshotSet)) : Dict String (Nat × Nat) :=
  Dict.ofList (sets.flatMap fun item => item.2.flatMap fun snapshotSet =>
    snapshotSet.snapshots.values.map fun name => (name, (item.1.id, snapshotSet.id)))

def snapshotContext (state : AptlyState) (sets : List (MirrorSet × List SnapshotSet)) :
    Dict String SnapshotEntry :=
  Dict.ofList (state.snapshots.map fun snapshot =>
    let owner := (snapshotOwners sets).get? snapshot.name
    (snapshot.name,
      { mirrorSetId := owner.map Prod.fst
        snapshotSetId := owner.map Prod.snd
        blocked :=
          if snapshot.name ∈ state.publishedSnapshotNames then some "published"
          else if owner.isSome then some "in_set"
          else none }))

/-! ## Handlers -/

def readCache : Program AptlyState := perform .readCache
def loadSets : Program (List (MirrorSet × List SnapshotSet)) := perform .loadSets

/-- `render` reads the cache for every page. -/
def render (template : String) : Program Response := do
  let _ ← readCache
  return .page template

def enqueued (type : JobType) (mirrorSetId : Option Nat) (author : String) (params : JobParams) :
    Program Response := do
  let jobId ← enqueue type mirrorSetId author params
  return .redirect s!"/jobs/{jobId}"

def discardSubmit (author name : String) : Program Response := do
  let cached ← readCache
  let sets ← loadSets
  match (snapshotContext cached sets).get? name with
  | none => return .redirect s!"/snapshots/discard?name={name}"
  | some entry =>
      if entry.blocked.isSome then return .redirect s!"/snapshots/discard?name={name}"
      else enqueued .discard entry.mirrorSetId author { snapshots := some [name] }

def discardSetSubmit (author : String) (setId snapshotSetId : Nat) : Program Response := do
  match ← getSnapshotSet .request snapshotSetId with
  | none => return .redirect s!"/sets/{setId}"
  | some snapshotSet =>
      if snapshotSet.mirrorSetId ≠ setId then return .redirect s!"/sets/{setId}"
      else
        let cached ← readCache
        let names := sortedNames snapshotSet.snapshots.values
        if ∃ name ∈ names, name ∈ cached.publishedSnapshotNames then
          return .redirect s!"/sets/{setId}/discard/{snapshotSetId}"
        else
          enqueued .discard (some setId) author
            { snapshots := some names, snapshotSetId := some snapshotSetId }

def newSetSubmit (author : String) (form : SetForm) : Program Response := do
  match ← (perform (.mirrorSetNamed form.name) : Program (Option MirrorSet)) with
  | some _ => render "set_new.html"
  | none =>
      let inserted ← commit .request [.addMirrorSet (form.mirrorSet false),
        .addAudit { action := "set.create", target := form.name }]
      enqueued .create (some inserted.mirrorSet) author {}

def adoptSubmit (form : SetForm) : Program Response := do
  let inserted ← commit .request [.addMirrorSet (form.mirrorSet true),
    .addAudit { action := "set.adopt", target := form.name }]
  return .redirect s!"/sets/{inserted.mirrorSet}"

/-- `set_delete`: forget the set, or enqueue the deletion of the mirrors the cache knows. -/
def setDelete (author : String) (setId : Nat) (mirrors : String) : Program Response := do
  match ← getMirrorSet .request setId with
  | none => return .redirect "/sets"
  | some mirrorSet =>
      if mirrors ≠ "delete" then
        let owned ← snapshotSetsOf .request mirrorSet.id
        let _ ← commit .request (.addAudit
            { actor := author, action := "set.forget", target := mirrorSet.name }
          :: owned.map (fun row => .deleteSnapshotSet row.id) ++ [.deleteMirrorSet mirrorSet.id])
        return .redirect "/sets"
      else
        let cached ← readCache
        let present := mirrorSet.expectedMirrors.filter fun name => name ∈ cached.mirrorNames
        if snapshotsOf cached present ≠ [] then return .redirect s!"/sets/{setId}/delete"
        else
          enqueued .remove (some setId) author
            { mirrors := some present, mirrorSetId := some setId }

def mirrorDelete (author name : String) : Program Response := do
  let cached ← readCache
  let sets ← loadSets
  if name ∉ cached.mirrorNames ∨ ((managedMap (sets.map Prod.fst)).get? name).getD "" ≠ "" ∨
      snapshotsOf cached [name] ≠ [] then
    return .redirect s!"/mirrors/delete?name={name}"
  else enqueued .remove none author { mirrors := some [name] }

def setCreateMissing (author : String) (setId : Nat) : Program Response :=
  enqueued .create (some setId) author {}

def setUpdate (author : String) (setId : Nat) : Program Response :=
  enqueued .update (some setId) author {}

def setSwitch (author : String) (setId snapshotSetId : Nat) : Program Response :=
  enqueued .switch (some setId) author { snapshotSetId := some snapshotSetId }

/-- The requests a signed-in operator can send. -/
inductive WebRequest where
  | discardSubmit (author name : String)
  | discardSetSubmit (author : String) (setId snapshotSetId : Nat)
  | newSetSubmit (author : String) (form : SetForm)
  | adoptSubmit (form : SetForm)
  | setDelete (author : String) (setId : Nat) (mirrors : String)
  | mirrorDelete (author name : String)
  | setCreateMissing (author : String) (setId : Nat)
  | setUpdate (author : String) (setId : Nat)
  | setSwitch (author : String) (setId snapshotSetId : Nat)
  deriving DecidableEq, Repr

def WebRequest.handler : WebRequest → Program Response
  | .discardSubmit author name => AptlyGui.discardSubmit author name
  | .discardSetSubmit author setId snapshotSetId =>
      AptlyGui.discardSetSubmit author setId snapshotSetId
  | .newSetSubmit author form => AptlyGui.newSetSubmit author form
  | .adoptSubmit form => AptlyGui.adoptSubmit form
  | .setDelete author setId mirrors => AptlyGui.setDelete author setId mirrors
  | .mirrorDelete author name => AptlyGui.mirrorDelete author name
  | .setCreateMissing author setId => AptlyGui.setCreateMissing author setId
  | .setUpdate author setId => AptlyGui.setUpdate author setId
  | .setSwitch author setId snapshotSetId => AptlyGui.setSwitch author setId snapshotSetId

end AptlyGui
