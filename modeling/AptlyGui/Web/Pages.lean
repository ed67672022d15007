import AptlyGui.Auth.Service
import AptlyGui.Library.Sum
import AptlyGui.Web.Frame

/-!
# Requests and pages

What a handler of `web/app.py` is given of a request, and the handlers that
only show something.  They read what other requests write, so they run on the
database, the queue and the accounts together.
-/

namespace AptlyGui

open Coroutine (Uses)

variable {Hash : Type}

/-! ## Requests -/

structure HttpRequest where
  method : String
  /-- what the router matches.  The guard and `_check_csrf` judge `request.url.path`, which is the
  same unless the Host header reaches into the path (`judgedPath`); every header is plain here. -/
  path : String
  /-- the session cookie -/
  cookie : Option String
  query : List (String × String)
  form : List (String × String)
  deriving DecidableEq, Repr

/-- `get` of a multidict: the last value under a name. -/
def lastValue (fields : List (String × String)) (name : String) : Option String :=
  (fields.reverse.find? fun field => field.1 = name).map Prod.snd

/-- `name: str = Form(...)`; an empty value counts as missing. -/
def HttpRequest.required (request : HttpRequest) (name : String) : Option String :=
  (lastValue request.form name).filter (· ≠ "")

/-- `name: str = Form(default)` -/
def HttpRequest.optional (request : HttpRequest) (name default : String) : String :=
  (request.required name).getD default

/-- What `create_app` puts together, and how pydantic reads numbers and flags. -/
structure App (Hash : Type) where
  hasher : PasswordHasher Hash
  /-- the payload of a cookie that is validly signed and not too old -/
  unsign : String → Option SessionData
  oidc : Option OidcClient
  settings : AdminSettings
  parseInt : String → Option Int
  parseBool : String → Option Bool

/-- A parameter of type `int`.  Rows are numbered from 1, so that nothing is lost when every
negative number becomes 0. -/
def App.id? (app : App Hash) (text : String) : Option Nat := (app.parseInt text).map Int.toNat

/-- The parameters of a path with one number in it. -/
def App.oneId (app : App Hash) : List String → Option Nat
  | [text] => app.id? text
  | _ => none

def App.twoIds (app : App Hash) : List String → Option (Nat × Nat)
  | [first, second] => (app.id? first).bind fun id => (app.id? second).map (id, ·)
  | _ => none

/-- What `secrets` gives while the request is served. -/
structure Fresh where
  csrf : String
  salt : String
  oidcState : String
  oidcVerifier : String
  deriving DecidableEq, Repr

/-- `request.state`, as the guard leaves it. -/
structure RequestState (Hash : Type) where
  user : Option (User Hash)
  csrf : String

/-! ## Operations -/

/-- What a page awaits besides the operations of the other handlers. -/
inductive PageOp where
  /-- the latest jobs, of one mirror set or of all -/
  | jobs (mirrorSetId : Option Nat) (limit : Nat)
  /-- every user, by name -/
  | users
  /-- `OidcClient.authorization_url` -/
  | authorizationUrl (state verifier : String)

def PageOp.Ret (Hash : Type) : PageOp → Type
  | .jobs _ _ => List Job
  | .users => List (User Hash)
  | .authorizationUrl _ _ => String

abbrev PageAsync (Hash : Type) : Interface := ⟨PageOp, PageOp.Ret Hash, AccountExn⟩

inductive PageEvent where
  | proceed
  | url (url : String)
  | refused (message : String)
  | unreachable

/-- The state of the whole application. -/
abbrev Site (Hash : Type) := World × Accounts Hash

def PageOp.perform : (op : PageOp) → PageEvent → Site Hash →
    Option (Except AccountExn (op.Ret Hash) × Site Hash)
  | .jobs mirrorSetId limit, .proceed, site =>
      some (.ok ((site.1.db.jobs.rows.reverse.filter fun job =>
        mirrorSetId.all fun id => job.mirrorSetId = some id).take limit), site)
  | .users, .proceed, site =>
      some (.ok (site.2.users.rows.insertionSort fun first second =>
        first.username ≤ second.username), site)
  | .authorizationUrl _ _, .url url, site => some (.ok url, site)
  | .authorizationUrl _ _, .refused message, site => some (.error (.oidcError message), site)
  | .authorizationUrl _ _, .unreachable, site => some (.error .transport, site)
  | _, _, _ => none

abbrev SiteAsync (Hash : Type) : Interface := (Async.sum (AccountAsync Hash)).sum (PageAsync Hash)

abbrev SiteEvent := (Event ⊕ AccountEvent) ⊕ PageEvent

abbrev SiteProgram (Hash : Type) := Coroutine (SiteAsync Hash)

def siteSemantics : Semantics (SiteAsync Hash) (Site Hash) SiteEvent :=
  (semantics.onFst.sum accountSemantics.onSnd).sum ⟨PageOp.perform⟩

/-- What a request is answered with, and which session its cookie then carries. -/
inductive SiteResponse where
  | account (response : AccountResponse)
  | signOut (url : String)
  /-- off to the identity provider -/
  | leave (url : String) (session : SessionData)
  | health (cached : AptlyState)
  deriving DecidableEq, Repr

namespace SiteProgram

variable {α : Type}

def ofWorld (program : Program α) : SiteProgram Hash α := program.left.left
def ofAccounts (program : AccountProgram Hash α) : SiteProgram Hash α := program.right.left
def ofPage (op : PageOp) : SiteProgram Hash (op.Ret Hash) :=
  (@Coroutine.perform (PageAsync Hash) op).right

def redirect (url : String) : SiteProgram Hash SiteResponse :=
  .done (.account (.plain (.redirect url)))

/-- `render` -/
def page (template : String) : SiteProgram Hash SiteResponse := do
  let response ← ofWorld (render template)
  return .account (.plain response)

def jobs (mirrorSetId : Option Nat) (limit : Nat) : SiteProgram Hash (List Job) :=
  ofPage (.jobs mirrorSetId limit)
def users : SiteProgram Hash (List (User Hash)) := ofPage .users
def authorizationUrl (state verifier : String) : SiteProgram Hash String :=
  ofPage (.authorizationUrl state verifier)

end SiteProgram

open SiteProgram

/-! ## Handlers -/

/-- The handlers that a `GET` request reaches, apart from the callback of the provider. -/
inductive Page where
  | dashboard
  | mirrors
  | snapshots
  | discardConfirm
  | discardSetConfirm
  | publications
  | setsIndex
  | newSetForm
  | adoptForm
  | setDeleteConfirm
  | mirrorDeleteConfirm
  | setDetail
  | jobsIndex
  | jobDetail
  | jobPartial
  | setupForm
  | loginForm
  | logout
  | oidcStart
  | settingsForm
  | usersIndex
  | statusPartial
  | healthz
  deriving DecidableEq, Repr

def discardSetConfirm (setId snapshotSetId : Nat) : SiteProgram Hash SiteResponse := do
  let snapshotSet ← ofWorld (getSnapshotSet .request snapshotSetId)
  let mirrorSet ← ofWorld (getMirrorSet .request setId)
  if snapshotSet = none ∨ mirrorSet = none then page "not_found.html"
  else
    let _ ← ofWorld readCache
    page "snapshot_set_discard.html"

def setDeleteConfirm (setId : Nat) : SiteProgram Hash SiteResponse := do
  match ← ofWorld (getMirrorSet .request setId) with
  | none => page "not_found.html"
  | some mirrorSet =>
      let _ ← ofWorld (snapshotSetsOf .request mirrorSet.id)
      let _ ← ofWorld readCache
      page "set_delete.html"

def setDetail (setId : Nat) : SiteProgram Hash SiteResponse := do
  match ← ofWorld (getMirrorSet .request setId) with
  | none => page "not_found.html"
  | some mirrorSet =>
      let _ ← ofWorld (snapshotSetsOf .request mirrorSet.id)
      let _ ← SiteProgram.jobs (some setId) 5
      let _ ← ofWorld readCache
      page "set_detail.html"

def jobDetail (jobId : Nat) : SiteProgram Hash SiteResponse := do
  match ← ofWorld (perform (.getJob .request jobId)) with
  | none => page "not_found.html"
  | some _ => page "job_detail.html"

def loginForm (user : Option (User Hash)) : SiteProgram Hash SiteResponse :=
  match user with
  | some _ => SiteProgram.redirect "/"
  | none => page "login.html"

def oidcStart (client : Option OidcClient) (fresh : Fresh) (csrf next : String) :
    SiteProgram Hash SiteResponse :=
  match client with
  | none => SiteProgram.redirect "/login"
  | some _ => do
      match ← (SiteProgram.authorizationUrl fresh.oidcState fresh.oidcVerifier).attempt with
      | .ok url =>
          let session : SessionData :=
            { csrf := some csrf
              oidcState := some fresh.oidcState
              oidcVerifier := some fresh.oidcVerifier
              oidcNext := some (safeNext next) }
          return .leave url session
      | .error (.inr (.oidcError _)) => page "login.html"
      | .error error => .raised error

/-- The page's handler; `none` stands for a request whose parameters FastAPI refuses. -/
def Page.program (app : App Hash) (fresh : Fresh) (request : HttpRequest)
    (state : RequestState Hash) (parameters : List String) :
    Page → Option (SiteProgram Hash SiteResponse)
  | dashboard => some do
      let _ ← ofWorld loadSets
      page "dashboard.html"
  | mirrors => some do
      let _ ← ofWorld loadSets
      page "mirrors.html"
  | snapshots => some do
      let _ ← ofWorld readCache
      let _ ← ofWorld loadSets
      page "snapshots.html"
  | discardConfirm => (lastValue request.query "name").map fun _ => do
      let _ ← ofWorld readCache
      let _ ← ofWorld loadSets
      page "snapshot_discard.html"
  | discardSetConfirm =>
      (app.twoIds parameters).map fun ids => AptlyGui.discardSetConfirm ids.1 ids.2
  | publications => some (page "publications.html")
  | setsIndex => some do
      let _ ← ofWorld loadSets
      page "sets.html"
  | newSetForm => some (page "set_new.html")
  | adoptForm => some do
      let _ ← ofWorld readCache
      let _ ← ofWorld loadSets
      page "adopt.html"
  | setDeleteConfirm => (app.oneId parameters).map AptlyGui.setDeleteConfirm
  | mirrorDeleteConfirm => (lastValue request.query "name").map fun _ => do
      let _ ← ofWorld readCache
      let _ ← ofWorld loadSets
      page "mirror_delete.html"
  | setDetail => (app.oneId parameters).map AptlyGui.setDetail
  | jobsIndex => some do
      let _ ← SiteProgram.jobs none 50
      page "jobs.html"
  | jobDetail => (app.oneId parameters).map AptlyGui.jobDetail
  | jobPartial => (app.oneId parameters).map fun jobId => do
      let _ ← ofWorld (perform (.getJob .request jobId))
      page "_job_progress.html"
  | setupForm => some (page "setup.html")
  | loginForm => some (AptlyGui.loginForm state.user)
  | logout => some (.done (.signOut "/login"))
  | oidcStart =>
      some (AptlyGui.oidcStart app.oidc fresh state.csrf ((lastValue request.query "next").getD "/"))
  | settingsForm =>
      if ((lastValue request.query "saved").all fun saved => (app.parseBool saved).isSome) then
        some (page "settings.html")
      else none
  | usersIndex => some do
      let _ ← SiteProgram.users
      page "users.html"
  | statusPartial => some (page "_status.html")
  | healthz => some do
      let cached ← ofWorld readCache
      return .health cached

/-! ## Reading -/

/-- An operation on the database or the cache that only reads. -/
def Op.reads : Op → Prop
  | .readCache | .loadSets | .mirrorSetNamed _ => True
  | .getJob .request _ | .getMirrorSet .request _ | .getSnapshotSet .request _ => True
  | .snapshotSetsOf .request _ => True
  | _ => False

def siteReads : (SiteAsync Hash).Op → Prop
  | .inl (.inl op) => op.reads
  | .inl (.inr _) => False
  | .inr _ => True

theorem query_request {α : Type} {value : α} {event : Event} {world after : World}
    {outcome : Except Exn α}
    (asked : world.query .request value event = some (outcome, after)) : after = world := by
  cases event <;> simp [World.query, World.broken] at asked
  exact asked.2.symm

theorem Op.eq_of_reads {op : Op} (reading : op.reads) {event : Event} {world after : World}
    {outcome : Except Exn op.Ret} (performed : op.perform event world = some (outcome, after)) :
    after = world := by
  cases op with
  | readCache =>
      cases event <;> simp [Op.perform] at performed
      exact performed.2.symm
  | getJob session id =>
      cases session with
      | job => exact reading.elim
      | request => exact query_request performed
  | getMirrorSet session id =>
      cases session with
      | job => exact reading.elim
      | request => exact query_request performed
  | getSnapshotSet session id =>
      cases session with
      | job => exact reading.elim
      | request => exact query_request performed
  | snapshotSetsOf session id =>
      cases session with
      | job => exact reading.elim
      | request => exact query_request performed
  | mirrorSetNamed name => exact query_request performed
  | loadSets => exact query_request performed
  | aptly request => exact reading.elim
  | fetchRelease publicUrl distribution => exact reading.elim
  | sleep => exact reading.elim
  | now => exact reading.elim
  | beginJob id => exact reading.elim
  | nextPosition => exact reading.elim
  | runningSteps id => exact reading.elim
  | commit session writes => exact reading.elim
  | put id => exact reading.elim

theorem PageOp.eq_of_perform {op : PageOp} {event : PageEvent} {site after : Site Hash}
    {outcome : Except AccountExn (op.Ret Hash)}
    (performed : op.perform event site = some (outcome, after)) : after = site := by
  cases op <;> cases event <;> cases performed <;> rfl

/-- A reading operation leaves the application as it is, whatever state that is in. -/
theorem spares_of_reads {op : (SiteAsync Hash).Op} (reading : siteReads op) :
    siteSemantics.Spares (fun _ => True) (fun before after => after = before) op := by
  rcases op with (op | op) | op
  · have still : semantics.Spares (fun _ => True) (fun before after => after = before) op :=
      fun event world outcome after _ performed => Op.eq_of_reads reading performed
    refine Semantics.Spares.inl (Semantics.Spares.inl (still.onFst.mono (fun _ _ => trivial) ?_))
    exact fun before after ⟨world, accounts⟩ => Prod.ext world accounts
  · exact reading.elim
  · exact Semantics.Spares.inr fun event site outcome after _ performed =>
      PageOp.eq_of_perform performed

theorem uses_ofWorld {op : Op} (reading : op.reads) :
    Uses (@siteReads Hash) (ofWorld (perform op)) :=
  Uses.left (Uses.left (uses_op reading))

theorem uses_ofPage (op : PageOp) : Uses (@siteReads Hash) (ofPage op) :=
  Uses.right ((@Coroutine.uses_perform (PageAsync Hash) (fun _ => True) op).mpr trivial)

theorem uses_page (template : String) : Uses (@siteReads Hash) (page template) := by
  refine Uses.bind (Uses.left (Uses.left ?_)) fun _ => trivial
  exact Uses.bind (uses_op trivial) fun _ => trivial

theorem uses_discardSetConfirm (setId snapshotSetId : Nat) :
    Uses siteReads (discardSetConfirm setId snapshotSetId : SiteProgram Hash SiteResponse) := by
  refine Uses.bind (uses_ofWorld trivial) fun snapshotSet => ?_
  refine Uses.bind (uses_ofWorld trivial) fun mirrorSet => ?_
  split
  · exact uses_page _
  · exact Uses.bind (uses_ofWorld trivial) fun _ => uses_page _

theorem uses_setDeleteConfirm (setId : Nat) :
    Uses siteReads (setDeleteConfirm setId : SiteProgram Hash SiteResponse) := by
  refine Uses.bind (uses_ofWorld trivial) fun found => ?_
  split
  · exact uses_page _
  · refine Uses.bind (uses_ofWorld trivial) fun _ => ?_
    exact Uses.bind (uses_ofWorld trivial) fun _ => uses_page _

theorem uses_setDetail (setId : Nat) :
    Uses siteReads (setDetail setId : SiteProgram Hash SiteResponse) := by
  refine Uses.bind (uses_ofWorld trivial) fun found => ?_
  split
  · exact uses_page _
  · refine Uses.bind (uses_ofWorld trivial) fun _ => ?_
    refine Uses.bind (uses_ofPage (.jobs (some setId) 5)) fun _ => ?_
    exact Uses.bind (uses_ofWorld trivial) fun _ => uses_page _

theorem uses_jobDetail (jobId : Nat) :
    Uses siteReads (jobDetail jobId : SiteProgram Hash SiteResponse) := by
  refine Uses.bind (uses_ofWorld trivial) fun found => ?_
  split
  · exact uses_page _
  · exact uses_page _

theorem uses_oidcStart (client : Option OidcClient) (fresh : Fresh) (csrf next : String) :
    Uses siteReads (oidcStart client fresh csrf next : SiteProgram Hash SiteResponse) := by
  cases client with
  | none => trivial
  | some client =>
      refine Uses.bind (Uses.attempt (uses_ofPage _)) fun answer => ?_
      split
      · trivial
      · exact uses_page _
      · trivial

/-- The handlers of pages only read. -/
theorem Page.uses_program {app : App Hash} {fresh : Fresh} {request : HttpRequest}
    {state : RequestState Hash} {parameters : List String} {page : Page}
    {program : SiteProgram Hash SiteResponse}
    (given : page.program app fresh request state parameters = some program) :
    Uses siteReads program := by
  have twice (template : String) : Uses siteReads (do
      let _ ← ofWorld readCache
      let _ ← ofWorld loadSets
      SiteProgram.page template : SiteProgram Hash SiteResponse) := by
    refine Uses.bind (uses_ofWorld trivial) fun _ => ?_
    exact Uses.bind (uses_ofWorld trivial) fun _ => uses_page _
  have listed (template : String) : Uses siteReads (do
      let _ ← ofWorld loadSets
      SiteProgram.page template : SiteProgram Hash SiteResponse) :=
    Uses.bind (uses_ofWorld trivial) fun _ => uses_page _
  cases page with
  | dashboard | mirrors | setsIndex =>
      cases given
      exact listed _
  | snapshots | adoptForm =>
      cases given
      exact twice _
  | discardConfirm | mirrorDeleteConfirm =>
      obtain ⟨name, -, rfl⟩ := Option.map_eq_some_iff.mp given
      exact twice _
  | publications | newSetForm | setupForm | statusPartial =>
      cases given
      exact uses_page _
  | discardSetConfirm =>
      obtain ⟨ids, -, rfl⟩ := Option.map_eq_some_iff.mp given
      exact uses_discardSetConfirm _ _
  | setDeleteConfirm =>
      obtain ⟨setId, -, rfl⟩ := Option.map_eq_some_iff.mp given
      exact uses_setDeleteConfirm setId
  | setDetail =>
      obtain ⟨setId, -, rfl⟩ := Option.map_eq_some_iff.mp given
      exact uses_setDetail setId
  | jobsIndex =>
      cases given
      exact Uses.bind (uses_ofPage (.jobs none 50)) fun _ => uses_page _
  | jobDetail =>
      obtain ⟨jobId, -, rfl⟩ := Option.map_eq_some_iff.mp given
      exact uses_jobDetail jobId
  | jobPartial =>
      obtain ⟨jobId, -, rfl⟩ := Option.map_eq_some_iff.mp given
      exact Uses.bind (uses_ofWorld trivial) fun _ => uses_page _
  | loginForm =>
      cases given
      unfold AptlyGui.loginForm
      split
      · trivial
      · exact uses_page _
  | logout =>
      cases given
      trivial
  | oidcStart =>
      cases given
      exact uses_oidcStart _ _ _ _
  | settingsForm =>
      simp only [Page.program] at given
      split at given
      · cases given
        exact uses_page _
      · cases given
  | usersIndex =>
      cases given
      exact Uses.bind (uses_ofPage .users) fun _ => uses_page _
  | healthz =>
      cases given
      exact Uses.bind (uses_ofWorld trivial) fun _ => trivial

end AptlyGui
