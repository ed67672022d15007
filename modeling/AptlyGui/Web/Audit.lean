import AptlyGui.Services.Jobs.Audit
import AptlyGui.Web.Guard

/-!
# The audit trail

The application at work: a request passes the guard, its handler runs for the
user behind the session, and the entries it adds should name that user.  Three
handlers name nobody.
-/

namespace AptlyGui

open Coroutine (Uses)
open SiteProgram

variable {Hash : Type}

/-! ## From the guard to the handler -/

/-- A handler and what it is called with. -/
inductive Handling (Hash : Type) where
  | page (program : SiteProgram Hash SiteResponse)
  | work (given : WebRequest)
  | administration (given : AccountRequest)

def Handling.program (app : App Hash) (accounts : Accounts Hash) :
    Handling Hash → SiteProgram Hash SiteResponse
  | page program => program
  | work given => do
      let response ← ofWorld given.handler
      return .account (.plain response)
  | administration given => do
      let response ← ofAccounts (given.program app.hasher (app.service accounts))
      answer response

def Endpoint.handling (app : App Hash) (fresh : Fresh) (request : HttpRequest)
    (stored : SessionData) (state : RequestState Hash) (parameters : List String) :
    Endpoint → Option (Handling Hash)
  | page shown => (shown.program app fresh request state parameters).map .page
  | work asked =>
      let author := (state.user.map User.username).getD ""
      (asked.request? app request author parameters).map .work
  | administration asked =>
      let author := (state.user.map User.username).getD ""
      (asked.request? app fresh request stored author parameters).map .administration

/-- The route whose handler runs, and what the handler is called with. -/
def admission (app : App Hash) (fresh : Fresh) (request : HttpRequest) (accounts : Accounts Hash) :
    Option (Route × Handling Hash) :=
  let stored := readSession app.unsign request.cookie
  let state : RequestState Hash :=
    { user := visitor app request accounts, csrf := stored.token fresh.csrf }
  if dispatch request.method request.path accounts.hasUsers state.user = .run then
    (route? request.method request.path).bind fun found =>
      if passesCsrf request.method request.path state.csrf (lastValue request.form "csrf_token") then
        (found.1.endpoint.handling app fresh request stored state found.2).map (found.1, ·)
      else none
  else none

/-- `admission` stops where `serve` goes on to the body of the handler. -/
theorem serve_eq_map_admission (app : App Hash) (fresh : Fresh) (request : HttpRequest)
    (accounts : Accounts Hash) : serve app fresh request accounts =
      (admission app fresh request accounts).map fun found =>
        (found.1, found.2.program app accounts) := by
  have bodies (endpoint : Endpoint) (stored : SessionData) (state : RequestState Hash)
      (parameters : List String) :
      endpoint.program app fresh accounts request stored state parameters =
        (endpoint.handling app fresh request stored state parameters).map
          (Handling.program app accounts) := by
    cases endpoint with
    | page shown =>
        simp only [Endpoint.program, Endpoint.handling, Option.map_map]
        exact Option.map_id'.symm
    | work asked =>
        simp only [Endpoint.program, Endpoint.handling, Option.map_map]
        rfl
    | administration asked =>
        simp only [Endpoint.program, Endpoint.handling, Option.map_map]
        rfl
  unfold serve admission
  dsimp only
  split
  · cases route? request.method request.path with
    | none => rfl
    | some found =>
        simp only [Option.bind_some]
        split
        · rw [bodies, Option.map_map, Option.map_map]
          rfl
        · rfl
  · rfl

/-- The user on whose behalf the handler runs: a page, a form to sign in or the first setup is
nobody's. -/
def Route.user (route : Route) (visitor : Option (User Hash)) : Option String :=
  if route.endpoint.needs.isSome then visitor.map User.username else none

/-! ## The application -/

structure Deployment (Hash : Type) where
  system : System
  /-- for whom each request of the system runs -/
  users : List (Option String)
  accounts : Accounts Hash
  /-- the account handlers at work, and for whom each of them runs -/
  handlers : List (Option String × AccountProgram Hash AccountResponse)
  /-- every entry that a handler has added on behalf of a user -/
  trail : List (String × AuditEntry)

inductive DeploymentLabel where
  | request (fresh : Fresh) (request : HttpRequest)
  | serve (index : Nat) (event : Event)
  | answer (index : Nat) (event : AccountEvent)
  | take
  | work (event : Event)
  | drift (after : Aptly)
  | tick (elapsed : Nat)
  | crash
  | start (salt : String)

/-- The new entries of the audit log, with the user for whom they were added. -/
def signedBy (user : Option String) (before after : List AuditEntry) : List (String × AuditEntry) :=
  match user with
  | some name => (after.drop before.length).map (name, ·)
  | none => []

/-- A page only reads, so it is not followed. -/
def deployment (self : JobRunner) (app : App Hash) :
    Transition (Deployment Hash) DeploymentLabel where
  step site
    | .request fresh request =>
        (admission app fresh request site.accounts).bind fun found =>
          let user := found.1.user (visitor app request site.accounts)
          match found.2 with
          | .page _ => some site
          | .work given =>
              (site.system.step self (.arrive (.web given))).map fun system =>
                { site with system := system, users := site.users ++ [user] }
          | .administration given =>
              match site.system.worker with
              | .down => none
              | _ => some { site with handlers := site.handlers ++
                  [(user, given.program app.hasher (app.service site.accounts))] }
    | .serve index event =>
        (site.system.step self (.serve index event)).map fun system =>
          { site with
            system := system
            trail := site.trail ++ signedBy (site.users[index]?).join site.system.world.db.audit
              system.world.db.audit }
    | .answer index event =>
        (site.handlers[index]?).bind fun handler =>
          (handler.2.step accountSemantics event site.accounts).map fun (next, accounts) =>
            { site with
              accounts := accounts
              handlers := site.handlers.set index (handler.1, next)
              trail := site.trail ++ signedBy handler.1 site.accounts.audit accounts.audit }
    | .take => (site.system.step self .take).map fun system => { site with system := system }
    | .work event =>
        (site.system.step self (.work event)).map fun system => { site with system := system }
    | .drift after =>
        (site.system.step self (.drift after)).map fun system => { site with system := system }
    | .tick elapsed =>
        (site.system.step self (.tick elapsed)).map fun system =>
          { site with
            system := system
            accounts := { site.accounts with clock := site.accounts.clock + elapsed } }
    | .crash =>
        (site.system.step self .crash).map fun system =>
          { site with system := system, users := [], handlers := [] }
    | .start salt =>
        (site.system.step self .start).map fun system =>
          { site with
            system := system
            accounts := site.accounts.started app.hasher salt app.settings }

/-- Before the first start, over what earlier processes left. -/
def Deployment.blank (db : Database) (aptly : Aptly) (accounts : Accounts Hash) :
    Deployment Hash where
  system := .blank db aptly
  users := []
  accounts := accounts
  handlers := []
  trail := []

/-! ## What account handlers add -/

def AccountWrite.signs (user : String) : AccountWrite Hash → Prop
  | .addAudit entry => entry.signs user
  | _ => True

def AccountOp.signs (user : String) : AccountOp Hash → Prop
  | .commit writes => ∀ write ∈ writes, write.signs user
  | _ => True

/-- The handlers that run on behalf of this user. -/
def AccountRequest.ordered (user : String) : AccountRequest → Prop
  | usersRole author _ _ | usersActive author _ _ => author = user
  | settingsSave _ => True
  | _ => False

theorem AccountRequest.uses_signs {user : String} {op : AccountOp Hash} (permitted : op.signs user) :
    Uses (AccountOp.signs user) (AccountProgram.perform op) :=
  (@Coroutine.uses_perform (AccountAsync Hash) (AccountOp.signs user) op).mpr permitted

theorem AccountRequest.wouldOrphanAdmins_signs (name : String) (user : User Hash)
    (newRole : Option UserRole) (deactivating : Bool) :
    Uses (AccountOp.signs name) (wouldOrphanAdmins user newRole deactivating) := by
  unfold wouldOrphanAdmins
  split
  · trivial
  · split
    · trivial
    · exact Uses.bind (uses_signs trivial) fun others => trivial

theorem AccountRequest.program_signs {request : AccountRequest} {user : String}
    (ordered : request.ordered user) (hasher : PasswordHasher Hash) (service : AccountService Hash) :
    Uses (AccountOp.signs user) (request.program hasher service) := by
  cases request with
  | usersRole author userId role =>
      obtain rfl : author = user := ordered
      refine Uses.bind (uses_signs trivial) fun found => ?_
      split
      · trivial
      · refine Uses.bind (wouldOrphanAdmins_signs _ _ _ _) fun refused => ?_
        split
        · trivial
        · refine Uses.bind (uses_signs ?_) fun _ => trivial
          have apart : startsWith "user.role" "job." = false := by decide
          unfold assignRole
          split <;> simp [AccountOp.signs, AccountWrite.signs, AuditEntry.signs, AuditEntry.ofJob, apart]
  | usersActive author userId active =>
      obtain rfl : author = user := ordered
      have answered (account : User Hash) (result : String) (refused : Bool) :
          Uses (AccountOp.signs author)
            (if refused = true then AccountProgram.redirect "/users?error=last_admin"
            else do
              let _ ← AccountProgram.store (assignActive account (wantsActive active) ++ [.addAudit
                { actor := author, action := "user.active", target := account.username,
                  result := result }])
              AccountProgram.redirect "/users") := by
        split
        · trivial
        · refine Uses.bind (uses_signs ?_) fun _ => trivial
          have apart : startsWith "user.active" "job." = false := by decide
          unfold assignActive
          split <;> simp [AccountOp.signs, AccountWrite.signs, AuditEntry.signs, AuditEntry.ofJob, apart]
      refine Uses.bind (uses_signs trivial) fun found => ?_
      split
      · trivial
      · dsimp only
        split
        · exact answered _ _ false
        · exact Uses.bind (wouldOrphanAdmins_signs _ _ _ _) (answered _ _)
  | settingsSave language =>
      refine Uses.bind (uses_signs ?_) fun _ => Uses.bind (uses_signs trivial) fun _ => trivial
      have apart : startsWith "settings.language" "job." = false := by decide
      simp [AccountOp.signs, AccountWrite.signs, AuditEntry.signs, AuditEntry.ofJob, apart,
        unsignedActions]
  | setupSubmit salt username password passwordAgain => exact ordered.elim
  | loginSubmit username password next => exact ordered.elim
  | oidcCallback stored code state => exact ordered.elim

/-! ## What is new in the log -/

theorem Database.audit_of_writeAll {now : Time} {writes : List Write} {db after : Database}
    {inserted keys : Inserted} (stored : db.writeAll now inserted writes = .ok (after, keys)) :
    ∃ added, after.audit = db.audit ++ added ∧ ∀ entry ∈ added, .addAudit entry ∈ writes := by
  refine @Database.writeAll_induction now (fun before after => ∃ added,
      after.audit = before.audit ++ added ∧ ∀ entry ∈ added, .addAudit entry ∈ writes)
    (fun _ => ⟨[], by simp, by simp⟩) ?_ writes db after inserted keys ?_ stored
  · rintro first second third ⟨added, same, listed⟩ ⟨more, later, among⟩
    exact ⟨added ++ more, by rw [later, same, List.append_assoc],
      List.forall_mem_append.mpr ⟨listed, among⟩⟩
  · intro change listed before keys after handed wrote
    cases change with
    | addAudit entry =>
        cases wrote
        refine ⟨[entry], rfl, fun other among => ?_⟩
        rw [List.mem_singleton.mp among]
        exact listed
    | _ =>
        refine ⟨[], ?_, by simp⟩
        simp only [write] at wrote
        first
          | split at wrote <;> cases wrote; simp
          | cases wrote; simp

/-- Entries come with the commits that are stored. -/
theorem Op.audit_of_perform {op : Op} {event : Event} {world after : World}
    {outcome : Except Exn op.Ret} (performed : op.perform event world = some (outcome, after)) :
    ∃ added, after.db.audit = world.db.audit ++ added ∧ ∀ entry ∈ added,
      ∃ session writes, op = .commit session writes ∧ .addAudit entry ∈ writes ∧
        (world.stored op).isSome = true := by
  rcases Op.db_of_perform performed with same | stored
  · exact ⟨[], by simp [same], by simp⟩
  · cases op with
    | commit session writes =>
        have known := stored
        simp only [World.stored] at stored
        split at stored
        · rename_i db inserted committed
          cases stored
          obtain ⟨added, grown, listed⟩ := Database.audit_of_writeAll committed
          exact ⟨added, grown, fun entry among =>
            ⟨session, writes, rfl, listed entry among, by simp [known]⟩⟩
        · cases stored
    | _ => cases stored

theorem Accounts.audit_of_writeAll {writes : List (AccountWrite Hash)}
    {accounts after : Accounts Hash} {added last : Nat}
    (stored : accounts.writeAll added writes = some (after, last)) :
    ∃ entries, after.audit = accounts.audit ++ entries ∧
      ∀ entry ∈ entries, .addAudit entry ∈ writes := by
  induction writes generalizing accounts added with
  | nil =>
      cases stored
      exact ⟨[], by simp, by simp⟩
  | cons write rest inductionHypothesis =>
      obtain ⟨⟨next, id⟩, wrote, stored⟩ := Option.bind_eq_some_iff.mp stored
      obtain ⟨entries, grown, listed⟩ := inductionHypothesis stored
      have kept : next.audit = accounts.audit → ∃ entries, after.audit = accounts.audit ++ entries ∧
          ∀ entry ∈ entries, .addAudit entry ∈ write :: rest := by
        intro same
        exact ⟨entries, same ▸ grown, fun entry among => List.mem_cons_of_mem _ (listed entry among)⟩
      cases write with
      | addUser user =>
          obtain ⟨users, -, same⟩ := Option.map_eq_some_iff.mp wrote
          cases same
          exact kept rfl
      | change id change =>
          cases wrote
          exact kept rfl
      | addAudit entry =>
          cases wrote
          refine ⟨entry :: entries, by rw [grown, List.append_assoc]; rfl, fun other among => ?_⟩
          rcases List.mem_cons.mp among with rfl | among
          · simp
          · exact List.mem_cons_of_mem _ (listed other among)
      | setLanguage value =>
          cases wrote
          exact kept rfl

theorem AccountOp.audit_of_perform {op : AccountOp Hash} {event : AccountEvent}
    {accounts after : Accounts Hash} {outcome : Except AccountExn op.Ret}
    (performed : op.perform event accounts = some (outcome, after)) :
    ∃ added, after.audit = accounts.audit ++ added ∧ ∀ entry ∈ added,
      ∃ writes, op = .commit writes ∧ .addAudit entry ∈ writes := by
  rcases AccountOp.perform_cases performed with
    rfl | ⟨writes, added, rfl, stored⟩ | ⟨-, rfl⟩ | ⟨value, -, rfl⟩
  · exact ⟨[], by simp, by simp⟩
  · obtain ⟨entries, grown, listed⟩ := Accounts.audit_of_writeAll stored
    exact ⟨entries, grown, fun entry among => ⟨writes, rfl, listed entry among⟩⟩
  · exact ⟨[], by simp, by simp⟩
  · exact ⟨[], by simp, by simp⟩

theorem mem_signedBy {user : Option String} {before added : List AuditEntry}
    {signed : String × AuditEntry} (listed : signed ∈ signedBy user before (before ++ added)) :
    user = some signed.1 ∧ signed.2 ∈ added := by
  cases user with
  | none => cases listed
  | some name =>
      simp only [signedBy, List.drop_left] at listed
      obtain ⟨entry, among, rfl⟩ := List.mem_map.mp listed
      exact ⟨rfl, among⟩

/-! ## The condition -/

/-- The entry is written without an actor, on behalf of somebody of another name. -/
def AuditEntry.forgets (user : Option String) (entry : AuditEntry) : Bool :=
  user.any (· ≠ "anonymous") && decide (entry.action ∈ unsignedActions)

/-- The commit, if it can be stored, adds no entry that forgets the user. -/
def World.remembers (world : World) (user : Option String) (op : Op) : Bool :=
  match op with
  | .commit _ writes => (world.stored op).isNone || writes.all fun
    | .addAudit entry => !entry.forgets user
    | _ => true
  | _ => true

def AccountOp.remembers (user : Option String) : AccountOp Hash → Bool
  | .commit writes => writes.all fun
    | .addAudit entry => !entry.forgets user
    | _ => true
  | _ => true

/-- No set is created or adopted and no language saved on behalf of a user who is not called
`anonymous`, and every job that is started comes to its end. -/
def Deployment.audits (site : Deployment Hash) : DeploymentLabel → Bool
  | .serve index _ => ((site.system.requests[index]?).bind Coroutine.awaits).all
      (site.system.world.remembers (site.users[index]?).join)
  | .answer index _ => (site.handlers[index]?).all fun handler =>
      (Coroutine.awaits handler.2).all (AccountOp.remembers handler.1)
  | .work event => site.system.concludes (.work event)
  | .crash => site.system.concludes .crash
  | _ => true

theorem AuditEntry.actor_of_signs {user : String} {entry : AuditEntry} (signs : entry.signs user)
    (remembers : entry.forgets (some user) = false) : entry.actor = user := by
  rcases signs.2 with same | ⟨anonymous, listed⟩
  · exact same
  · have named : user = "anonymous" := by simpa [forgets, listed] using remembers
    exact anonymous.trans named.symm

/-! ## Runs -/

namespace Deployment

variable {self : JobRunner} {app : App Hash} {start : System} {site after : Deployment Hash}

/-- What holds in every state: the system is one that can be reached, every handler signs with the
name of its user, and so does every entry so far. -/
structure Signed (runner : JobRunner) (start : System) (site : Deployment Hash) : Prop where
  reached : System.Reachable runner (fun system label => system.concludes label) start site.system
  paired : site.users.length = site.system.requests.length
  requests : ∀ (index : Nat) (name : String) (program : Program Response),
    site.users[index]? = some (some name) → site.system.requests[index]? = some program →
    program.Uses (Op.signs name)
  handlers : ∀ handler ∈ site.handlers, ∀ name ∈ handler.1, Uses (AccountOp.signs name) handler.2
  trail : ∀ signed ∈ site.trail, signed.2.actor = signed.1

theorem author_of_request {request : HttpRequest} {author : String} {parameters : List String}
    {asked : Work} {given : WebRequest}
    (parsed : asked.request? app request author parameters = some given) :
    ∀ name ∈ given.author, name = author := by
  intro name named
  cases asked with
  | setSwitch =>
      simp only [Work.request?, bind, Option.bind_eq_some_iff, Option.pure_def,
        Option.some.injEq] at parsed
      obtain ⟨setId, -, snapshotSetId, -, rfl⟩ := parsed
      exact (Option.some.inj named).symm
  | adoptSubmit =>
      obtain ⟨form, -, rfl⟩ := Option.map_eq_some_iff.mp parsed
      cases named
  | _ =>
      obtain ⟨value, -, rfl⟩ := Option.map_eq_some_iff.mp parsed
      exact (Option.some.inj named).symm

theorem ordered_of_request {fresh : Fresh} {request : HttpRequest} {stored : SessionData}
    {author : String} {parameters : List String} {asked : Administration} {given : AccountRequest}
    (needs : (Endpoint.administration asked).needs.isSome = true)
    (parsed : asked.request? app fresh request stored author parameters = some given) :
    given.ordered author := by
  cases asked with
  | settingsSave =>
      obtain ⟨language, -, rfl⟩ := Option.map_eq_some_iff.mp parsed
      trivial
  | usersRole =>
      simp only [Administration.request?, bind, Option.bind_eq_some_iff, Option.pure_def,
        Option.some.injEq] at parsed
      obtain ⟨userId, -, role, -, rfl⟩ := parsed
      rfl
  | usersActive =>
      obtain ⟨userId, -, rfl⟩ := Option.map_eq_some_iff.mp parsed
      rfl
  | setupSubmit => cases needs
  | loginSubmit => cases needs
  | oidcCallback => cases needs

/-- The handler is called with the name of the user for whom it runs. -/
theorem handling_of_admission {fresh : Fresh} {request : HttpRequest} {accounts : Accounts Hash}
    {route : Route} {handling : Handling Hash} {name : String}
    (admitted : admission app fresh request accounts = some (route, handling))
    (behalf : route.user (visitor app request accounts) = some name) :
    (∀ given, handling = .work given → ∀ author ∈ given.author, author = name) ∧
      ∀ given, handling = .administration given → given.ordered name := by
  simp only [Route.user] at behalf
  split at behalf
  · rename_i needs
    obtain ⟨user, known, rfl⟩ := Option.map_eq_some_iff.mp behalf
    simp only [admission] at admitted
    split at admitted
    · obtain ⟨⟨found, parameters⟩, -, rest⟩ := Option.bind_eq_some_iff.mp admitted
      split at rest
      · obtain ⟨body, handled, same⟩ := Option.map_eq_some_iff.mp rest
        cases same
        cases endpoint : found.endpoint with
        | page shown =>
            rw [endpoint] at handled
            obtain ⟨program, -, rfl⟩ := Option.map_eq_some_iff.mp handled
            exact ⟨by simp, by simp⟩
        | work asked =>
            rw [endpoint] at handled
            obtain ⟨given, parsed, rfl⟩ := Option.map_eq_some_iff.mp handled
            rw [known] at parsed
            refine ⟨?_, by simp⟩
            rintro _ ⟨⟩
            exact author_of_request parsed
        | administration asked =>
            rw [endpoint] at handled needs
            obtain ⟨given, parsed, rfl⟩ := Option.map_eq_some_iff.mp handled
            rw [known] at parsed
            refine ⟨by simp, ?_⟩
            rintro _ ⟨⟩
            exact ordered_of_request needs parsed
      · cases rest
    · cases admitted
  · cases behalf

/-- A step of the system that no request takes part in. -/
theorem Signed.moved {system : System} {label : Label} (signed : Signed self start site)
    (permitted : site.system.concludes label = true)
    (stepped : site.system.step self label = some system)
    (requests : system.requests = site.system.requests) :
    Signed self start { site with system := system } where
  reached := .step signed.reached permitted stepped
  paired := by
    rw [requests]
    exact signed.paired
  requests := by
    rw [requests]
    exact signed.requests
  handlers := signed.handlers
  trail := signed.trail

theorem Signed.arrived {system : System} {given : WebRequest} {user : Option String}
    (signed : Signed self start site)
    (orders : ∀ name ∈ user, ∀ author ∈ given.author, author = name)
    (stepped : site.system.step self (.arrive (.web given)) = some system) :
    Signed self start { site with system := system, users := site.users ++ [user] } := by
  have reached : System.Reachable self (fun system label => system.concludes label) start system :=
    .step signed.reached rfl stepped
  obtain ⟨-, rfl⟩ := System.step_arrive stepped
  refine ⟨reached, ?_, ?_, signed.handlers, signed.trail⟩
  · simp [signed.paired]
  · intro index name program named found
    simp only [List.getElem?_append, signed.paired] at named found
    split at named
    · rename_i old
      rw [if_pos old] at found
      exact signed.requests index name program named found
    · rename_i new
      rw [if_neg new] at found
      have runs := List.mem_singleton.mp (List.mem_of_getElem? named)
      rw [List.mem_singleton.mp (List.mem_of_getElem? found)]
      exact WebRequest.handler_signs (orders name runs.symm)

/-- One operation of a request of the system. -/
theorem Signed.served {system : System} {index : Nat} {event : Event}
    (signed : Signed self start site)
    (permitted : ((site.system.requests[index]?).bind Coroutine.awaits).all
      (site.system.world.remembers (site.users[index]?).join) = true)
    (stepped : site.system.step self (.serve index event) = some system) :
    Signed self start { site with
      system := system
      trail := site.trail ++ signedBy (site.users[index]?).join site.system.world.db.audit
        system.world.db.audit } := by
  have reached : System.Reachable self (fun system label => system.concludes label) start system :=
    .step signed.reached rfl stepped
  obtain ⟨op, resume, outcome, world, found, performed, rfl⟩ := System.step_serve stepped
  refine ⟨reached, ?_, ?_, signed.handlers, List.forall_mem_append.mpr ⟨signed.trail, ?_⟩⟩
  · simp [signed.paired]
  · intro other name program named known
    rw [List.getElem?_set] at known
    split at known
    · rename_i same
      subst same
      split at known
      · cases known
        exact (signed.requests index name _ named found).2 outcome
      · cases known
    · exact signed.requests other name program named known
  · intro entry listed
    obtain ⟨added, grown, among⟩ := Op.audit_of_perform performed
    rw [grown] at listed
    obtain ⟨behalf, new⟩ := mem_signedBy listed
    obtain ⟨session, writes, rfl, written, stored⟩ := among entry.2 new
    have named : site.users[index]? = some (some entry.1) := Option.join_eq_some_iff.mp behalf
    have signs := (signed.requests index entry.1 _ named found).1 _ written
    refine AuditEntry.actor_of_signs signs ?_
    simp only [found, Option.bind_some, Coroutine.awaits, Option.all_some, World.remembers, behalf,
      Option.isNone_eq_false_iff.mpr stored, Bool.false_or, List.all_eq_true] at permitted
    simpa using permitted _ written

theorem Signed.answered {index : Nat} {event : AccountEvent}
    {handler : Option String × AccountProgram Hash AccountResponse}
    {next : AccountProgram Hash AccountResponse} {accounts : Accounts Hash}
    (signed : Signed self start site) (found : site.handlers[index]? = some handler)
    (permitted : (Coroutine.awaits handler.2).all (AccountOp.remembers handler.1) = true)
    (progressed : handler.2.step accountSemantics event site.accounts = some (next, accounts)) :
    Signed self start { site with
      accounts := accounts
      handlers := site.handlers.set index (handler.1, next)
      trail := site.trail ++ signedBy handler.1 site.accounts.audit accounts.audit } := by
  have uses := signed.handlers handler (List.mem_of_getElem? found)
  obtain ⟨user, program⟩ := handler
  obtain ⟨op, resume, outcome, rfl, performed, rfl⟩ := Coroutine.step_eq_some progressed
  refine ⟨signed.reached, signed.paired, signed.requests, ?_,
    List.forall_mem_append.mpr ⟨signed.trail, ?_⟩⟩
  · intro other listed name named
    rcases List.mem_or_eq_of_mem_set listed with old | rfl
    · exact signed.handlers other old name named
    · exact (uses name named).2 outcome
  · intro entry listed
    obtain ⟨added, grown, among⟩ := AccountOp.audit_of_perform performed
    rw [grown] at listed
    obtain ⟨rfl, new⟩ := mem_signedBy listed
    obtain ⟨writes, rfl, written⟩ := among entry.2 new
    have signs := (uses entry.1 rfl).1 _ written
    refine AuditEntry.actor_of_signs signs ?_
    simp only [Coroutine.awaits, Option.all_some, AccountOp.remembers, List.all_eq_true] at permitted
    simpa using permitted _ written

theorem Signed.step {label : DeploymentLabel} (signed : Signed self start site)
    (permitted : site.audits label = true)
    (stepped : (deployment self app).step site label = some after) : Signed self start after := by
  cases label with
  | request fresh request =>
      obtain ⟨⟨route, handling⟩, admitted, stepped⟩ := Option.bind_eq_some_iff.mp stepped
      have behalf : ∀ name ∈ route.user (visitor app request site.accounts),
          (∀ given, handling = .work given → ∀ author ∈ given.author, author = name) ∧
            ∀ given, handling = .administration given → given.ordered name :=
        fun name named => handling_of_admission admitted named
      cases handling with
      | page program =>
          cases stepped
          exact signed
      | work given =>
          obtain ⟨system, arrived, rfl⟩ := Option.map_eq_some_iff.mp stepped
          exact signed.arrived (fun name named => (behalf name named).1 given rfl) arrived
      | administration given =>
          dsimp only at stepped
          split at stepped
          · cases stepped
          · cases stepped
            refine ⟨signed.reached, signed.paired, signed.requests, ?_, signed.trail⟩
            refine List.forall_mem_append.mpr ⟨signed.handlers, ?_⟩
            intro handler listed name named
            obtain rfl := List.mem_singleton.mp listed
            exact AccountRequest.program_signs ((behalf name named).2 given rfl) _ _
  | serve index event =>
      obtain ⟨system, served, rfl⟩ := Option.map_eq_some_iff.mp stepped
      exact signed.served permitted served
  | answer index event =>
      obtain ⟨handler, found, stepped⟩ := Option.bind_eq_some_iff.mp stepped
      obtain ⟨⟨next, accounts⟩, progressed, rfl⟩ := Option.map_eq_some_iff.mp stepped
      refine signed.answered found ?_ progressed
      simpa [audits, found] using permitted
  | take =>
      obtain ⟨system, moved, rfl⟩ := Option.map_eq_some_iff.mp stepped
      refine signed.moved rfl moved ?_
      obtain ⟨_, _, -, -, rfl⟩ := System.step_take moved
      rfl
  | work event =>
      obtain ⟨system, moved, rfl⟩ := Option.map_eq_some_iff.mp stepped
      have concludes : site.system.concludes (.work event) = true := permitted
      refine signed.moved concludes moved ?_
      obtain ⟨_, _, _, -, -, rfl⟩ := System.step_work moved
      rfl
  | drift reached =>
      cases stepped
      have moved : site.system.step self (.drift reached) =
          some { site.system with world := { site.system.world with aptly := reached } } := rfl
      exact signed.moved rfl moved rfl
  | tick elapsed =>
      cases stepped
      have moved : site.system.step self (.tick elapsed) = some { site.system with
          world := { site.system.world with clock := site.system.world.clock + elapsed } } := rfl
      obtain ⟨reached, paired, requests, handlers, trail⟩ := signed.moved rfl moved rfl
      exact ⟨reached, paired, requests, handlers, trail⟩
  | crash =>
      cases stepped
      have concludes : site.system.concludes .crash = true := permitted
      have moved : site.system.step self .crash =
          some { world := site.system.world.crashed, worker := .down, requests := [] } := rfl
      exact ⟨.step signed.reached concludes moved, rfl, by simp, by simp, signed.trail⟩
  | start salt =>
      obtain ⟨system, moved, rfl⟩ := Option.map_eq_some_iff.mp stepped
      have same : system.requests = site.system.requests := by
        obtain ⟨-, rfl⟩ := System.step_start moved
        rfl
      obtain ⟨reached, paired, requests, handlers, trail⟩ := signed.moved rfl moved same
      exact ⟨reached, paired, requests, handlers, trail⟩

end Deployment

/-- In every run in which no set is created or adopted and no language saved on behalf of a user who
is not called `anonymous`, and every job that is started comes to its end: every entry added on
behalf of a user names that user; the entries about jobs are, one for one, those of the started
jobs that have ended, with the job's author and final state; and every other started job is being
run. -/
theorem audit_names_author_and_result {self : JobRunner} {app : App Hash} {db : Database}
    {aptly : Aptly} {accounts : Accounts Hash} {site : Deployment Hash}
    (noJobs : db.jobs = .empty) (noEntries : db.audit = [])
    (reached : (deployment self app).Reaches (fun site label => site.audits label)
      (.blank db aptly accounts) site) :
    (∀ signed ∈ site.trail, signed.2.actor = signed.1) ∧
      ((site.system.world.db.audit.filter AuditEntry.ofJob).map AuditEntry.account).Perm
        ((site.system.world.db.jobs.rows.filter Job.concluded).map Job.account) ∧
      ∀ row ∈ site.system.world.db.jobs.rows, row.startedAt.isSome = true →
        row.concluded = true ∨ site.system.Runs row.id := by
  have fresh := System.blank_fresh db aptly
  have ended : Auditing.Ended (System.blank db aptly).world.db := by
    have none' : (System.blank db aptly).world.db.jobs.rows = [] := by
      change db.jobs.rows = []
      rw [noJobs]
      rfl
    refine ⟨⟨?_, ?_⟩, ?_⟩
    · rw [none']
      change ((db.audit.filter AuditEntry.ofJob).map AuditEntry.account).Perm []
      rw [noEntries]
      rfl
    · simp [none']
    · simp [Database.ConcludedBut, none']
  have entry : Deployment.Signed self (System.blank db aptly) (.blank db aptly accounts) :=
    ⟨.refl, rfl, by simp [Deployment.blank], by simp [Deployment.blank], by simp [Deployment.blank]⟩
  have signed := reached.invariant entry fun _ _ _ permitted stepped signed =>
    signed.step permitted stepped
  have accounted := ((Auditing.outline fresh ended).holds signed.reached).always
  exact ⟨signed.trail, accounted.entries, Auditing.followed fresh ended signed.reached⟩

/-! ## Two users' work -/

namespace Trail

/-- The cookie is that of the only user. -/
def app : App (String × String) where
  hasher := Sample.hasher
  unsign := fun cookie =>
    if cookie = "signed" then some { uid := some 1, csrf := some "token" } else none
  oidc := none
  settings := {}
  parseInt := fun text => if text = "1" then some 1 else none
  parseBool := fun _ => none

def start : Deployment (String × String) :=
  .blank Sample.service.world.db Sample.mirrored
    (Sample.office (Sample.table [{ username := "operator", role := .operator }]) none).accounts

def post (path : String) (fields : List (String × String)) : DeploymentLabel :=
  .request Guard.fresh
    { method := "POST"
      path := path
      cookie := some "signed"
      query := []
      form := ("csrf_token", "token") :: fields }

/-- The operator adopts a set. -/
def adopted : List DeploymentLabel :=
  [.start "salt",
    post "/sets/adopt" [("name", "ubuntu"), ("archive_url", "http://ubuntu.example.org/ubuntu"),
      ("suites", "noble"), ("components", "main"), ("architectures", "amd64"),
      ("publish_prefix", "ubuntu")],
    .serve 0 .proceed]

/-- The operator has a CREATE job started. -/
def ordered : List DeploymentLabel :=
  [.start "salt", post "/sets/1/create" [], .serve 0 .proceed, .serve 0 .proceed, .take] ++
    List.replicate 4 (.work .proceed)

/-- The service is stopped while the job waits for aptly, and started again. -/
def stopped : List DeploymentLabel :=
  ordered ++ [.work (.cancel false Sample.mirrored), .work .proceed, .crash, .start "pepper"]

/-- The mirror is there already, and the job ends. -/
def skipped : List DeploymentLabel :=
  ordered ++ [.work (.reply (.mirrors Sample.mirrored.mirrors) Sample.mirrored)] ++
    List.replicate 4 (.work .proceed)

end Trail

/-- Whoever adopts a set is recorded as `anonymous`, and the entry of a job that the service was
stopped in says `running`. -/
theorem not_audit_names_author_and_result :
    (¬ ∀ (site : Deployment (String × String)), (deployment Sample.runner Trail.app).Reaches
      (fun _ _ => True) Trail.start site → ∀ signed ∈ site.trail, signed.2.actor = signed.1) ∧
    ¬ ∀ (site : Deployment (String × String)), (deployment Sample.runner Trail.app).Reaches
      (fun _ _ => True) Trail.start site → site.system.worker.isIdle = true →
        ((site.system.world.db.audit.filter AuditEntry.ofJob).map AuditEntry.account).Perm
          ((site.system.world.db.jobs.rows.filter fun job => job.startedAt.isSome).map
            Job.account) := by
  constructor
  · intro claimed
    have runs : ((deployment Sample.runner Trail.app).runUnder (fun _ _ => true) Trail.start
        Trail.adopted).any (fun site => decide (site.trail = [("operator",
          { actor := "anonymous", action := "set.adopt", target := "ubuntu" })])) = true := by
      decide +kernel
    obtain ⟨site, ran, ended⟩ := (Option.any_eq_true _ _).mp runs
    have named := claimed site ((Transition.Reaches.of_runUnder ran).mono fun _ _ _ => trivial)
    rw [of_decide_eq_true ended] at named
    have same := named _ (List.mem_singleton.mpr rfl)
    exact absurd same (by decide)
  · intro claimed
    have runs : ((deployment Sample.runner Trail.app).runUnder (fun _ _ => true) Trail.start
        Trail.stopped).any (fun site => site.system.worker.isIdle &&
          decide ((site.system.world.db.audit.filter AuditEntry.ofJob).map AuditEntry.account =
            [("operator", "job.create", "running")]) &&
          decide ((site.system.world.db.jobs.rows.filter fun job => job.startedAt.isSome).map
            Job.account = [("operator", "job.create", "interrupted")])) = true := by
      decide +kernel
    obtain ⟨site, ran, ended⟩ := (Option.any_eq_true _ _).mp runs
    simp only [Bool.and_eq_true, decide_eq_true_eq] at ended
    obtain ⟨⟨idle, entries⟩, jobs⟩ := ended
    have reached := (Transition.Reaches.of_runUnder ran).mono fun _ _ _ => trivial
    have same := claimed site reached idle
    rw [entries, jobs] at same
    have listed := same.subset (List.mem_singleton.mpr rfl)
    exact absurd listed (by decide)

theorem audit_names_author_and_result_create : ∃ site : Deployment (String × String),
    (site.system.world.db.jobs.rows.filter Job.concluded).map Job.account =
        [("operator", "job.create", "succeeded")] ∧
      ("operator", "job.create", "succeeded") ∈
        (site.system.world.db.audit.filter AuditEntry.ofJob).map AuditEntry.account := by
  have runs : ((deployment Sample.runner Trail.app).runUnder (fun site label => site.audits label)
      Trail.start Trail.skipped).any (fun site =>
        decide ((site.system.world.db.jobs.rows.filter Job.concluded).map Job.account =
          [("operator", "job.create", "succeeded")])) = true := by
    decide +kernel
  obtain ⟨site, ran, ended⟩ := (Option.any_eq_true _ _).mp runs
  have concluded := of_decide_eq_true ended
  obtain ⟨-, entries, -⟩ := audit_names_author_and_result rfl rfl (Transition.Reaches.of_runUnder ran)
  refine ⟨site, concluded, entries.symm.subset ?_⟩
  rw [concluded]
  exact List.mem_singleton.mpr rfl

end AptlyGui
