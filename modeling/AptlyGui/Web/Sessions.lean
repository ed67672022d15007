import AptlyGui.Web.Guard

/-!
# Signed sessions

`auth/session.py`, and what the guard and the handlers make of it while requests
come and go and the service is stopped and started.  The session is a signed
cookie: the service keeps nothing but the key.  So every cookie that a response
has carried may come back, from whoever has it and as often as he likes, but
nobody can make one who does not know the key.
-/

namespace AptlyGui

variable {Hash : Type}

/-- The clock of the signatures counts whole seconds. -/
def Time.seconds (time : Time) : Nat := time / 1000000

/-- `URLSafeTimedSerializer` with the salt of the sessions.  What was signed with a key can be read
with it until it is too old. -/
structure Serializer where
  dumps : (secretKey : String) → (now : Time) → SessionData → String
  loads : (secretKey : String) → (now : Time) → (maxAge : Nat) → String → Option SessionData
  loads_dumps : ∀ secretKey now maxAge time payload, time ≤ now →
    loads secretKey now maxAge (dumps secretKey time payload) =
      if now.seconds - time.seconds ≤ maxAge then some payload else none
  dumps_ne_empty : ∀ secretKey time payload, dumps secretKey time payload ≠ ""

/-- `_resolve_secret_key`: the key to sign with, and the row that keeps it. -/
def resolveSecretKey (configured : String) (stored : Option String) (drawn : String) :
    String × Option String :=
  if configured ≠ "" then (configured, stored)
  else
    match stored with
    | some value => (value, stored)
    | none => (drawn, some drawn)

/-! ## The service -/

/-- A cookie that a response has carried. -/
structure Issue where
  secretKey : String
  time : Time
  payload : SessionData
  /-- the handler that has answered, if one has -/
  endpoint : Option Endpoint
  response : Option SiteResponse
  deriving DecidableEq, Repr

def Issue.cookie (serializer : Serializer) (issue : Issue) : String :=
  serializer.dumps issue.secretKey issue.time issue.payload

/-- A request that the guard has taken, and that has not been answered yet. -/
structure Pending (Hash : Type) where
  /-- `read_session` -/
  session : SessionData
  /-- the token that the guard has issued, when the session had none -/
  issued : Option String
  handler : Option (Endpoint × SiteProgram Hash SiteResponse)

/-- What `lifespan` has put into `app.state`. -/
structure Process (Hash : Type) where
  app : App Hash
  secretKey : String
  maxAge : Nat

/-- What the process makes of cookies at this moment. -/
def Process.appAt (process : Process Hash) (serializer : Serializer) (now : Time) : App Hash :=
  { process.app with unsign := serializer.loads process.secretKey now process.maxAge }

structure Front (Hash : Type) where
  site : Site Hash
  /-- the `secret_key` row of `app_settings` -/
  storedKey : Option String
  process : Option (Process Hash)
  pending : List (Pending Hash)
  /-- every cookie there has been -/
  issues : List Issue

namespace Front

def now (front : Front Hash) : Time := front.site.2.clock

/-- A database that nobody has used yet. -/
structure New (front : Front Hash) : Prop where
  storedKey : front.storedKey = none
  process : front.process = none
  pending : front.pending = []
  issues : front.issues = []

end Front

namespace Pending

variable (pending : Pending Hash)

/-- What the request is answered with: inside, what the handler has returned. -/
def answer? : Option (Option SiteResponse) :=
  match pending.handler with
  | none => some none
  | some (_, .done response) => some (some response)
  | some _ => none

/-- The session that the response carries, if it carries one: `_sign_in` and `oidc_start` write it
themselves, `logout` deletes it, and otherwise the guard adds the token that it has issued. -/
def writes (token : String) : Option SiteResponse → Option SessionData
  | some (.account (.signIn uid _)) => some { uid := some uid, csrf := some token }
  | some (.leave _ session) => some session
  | some (.signOut _) => none
  | _ => pending.issued.map fun issued => { pending.session with csrf := some issued }

end Pending

inductive FrontLabel (Hash : Type) where
  | arrive (fresh : Fresh) (request : HttpRequest)
  | serve (index : Nat) (event : SiteEvent)
  /-- the response is sent; `token` is what `_sign_in` draws -/
  | respond (index : Nat) (token : String)
  /-- the handler has raised, or nobody waits for its answer any more -/
  | drop (index : Nat)
  /-- what the worker and the rest of the world do -/
  | elsewhere (world : World)
  | tick (elapsed : Nat)
  | stop
  /-- the process ends, whatever it was doing, and starts again -/
  | start (app : App Hash) (configured : String) (maxAge : Nat) (drawn salt : String)

/-- The guard takes the request. -/
def Process.take (process : Process Hash) (serializer : Serializer) (fresh : Fresh)
    (request : HttpRequest) (accounts : Accounts Hash) : Pending Hash :=
  let app := process.appAt serializer accounts.clock
  let session := readSession app.unsign request.cookie
  { session
    issued := if session.csrf.filter (· ≠ "") = none then some fresh.csrf else none
    handler := (AptlyGui.serve app fresh request accounts).map fun (route, program) =>
      (route.endpoint, program) }

def front (serializer : Serializer) : Transition (Front Hash) (FrontLabel Hash) where
  step state
    | .arrive fresh request => state.process.map fun process =>
        { state with
          pending := state.pending ++ [process.take serializer fresh request state.site.2] }
    | .serve index event =>
        (state.pending[index]?).bind fun asked => asked.handler.bind fun (endpoint, program) =>
          (program.step siteSemantics event state.site).map fun (next, site) =>
            { state with
              site := site
              pending := state.pending.set index { asked with handler := some (endpoint, next) } }
    | .respond index token =>
        (state.pending[index]?).bind fun asked => asked.answer?.bind fun response =>
          state.process.map fun process =>
            { state with
              pending := state.pending.eraseIdx index
              issues := ((asked.writes token response).map fun payload =>
                { secretKey := process.secretKey, time := state.now, payload,
                  endpoint := asked.handler.map Prod.fst, response }).toList ++ state.issues }
    | .drop index => some { state with pending := state.pending.eraseIdx index }
    | .elsewhere world => some { state with site := (world, state.site.2) }
    | .tick elapsed =>
        some { state with
          site := (state.site.1, { state.site.2 with clock := state.site.2.clock + elapsed }) }
    | .stop => some { state with process := none, pending := [] }
    | .start app configured maxAge drawn salt =>
        let (secretKey, storedKey) := resolveSecretKey configured state.storedKey drawn
        some
          { state with
            site := (state.site.1, state.site.2.started app.hasher salt app.settings)
            storedKey := storedKey
            process := some ⟨app, secretKey, maxAge⟩
            pending := [] }

/-- Whoever does not know the key cannot make a cookie, and what `secrets` draws is not empty. -/
def Front.honest (serializer : Serializer) (state : Front Hash) : FrontLabel Hash → Prop
  | .arrive fresh request => fresh.csrf ≠ "" ∧ ∀ process, state.process = some process →
      ∀ raw payload, request.cookie = some raw →
        serializer.loads process.secretKey state.now process.maxAge raw = some payload →
          ∃ issue ∈ state.issues, issue.secretKey = process.secretKey ∧
            issue.cookie serializer = raw
  | .respond _ token => token ≠ ""
  | _ => True

/-- The service has been started with this secret in its settings, or with none, every time. -/
def Front.configured (configured : String) (_ : Front Hash) : FrontLabel Hash → Prop
  | .start _ given _ _ _ => given = configured
  | _ => True

/-! ## Reading a cookie back -/

section Read

variable {serializer : Serializer} {process : Process Hash} {issue : Issue} {now : Time}
  {app : App Hash} {fresh : Fresh} {request : HttpRequest} {accounts : Accounts Hash}

theorem filter_of_filled {text : Option String} {given : String} (known : text = some given)
    (filled : given ≠ "") : text.filter (· ≠ "") = some given := by
  rw [known]
  simp [filled]

theorem readSession_cookie {cookie : Option String}
    (carried : cookie = some (issue.cookie serializer)) (past : issue.time ≤ now)
    (key : issue.secretKey = process.secretKey) :
    readSession (process.appAt serializer now).unsign cookie =
      if now.seconds - issue.time.seconds ≤ process.maxAge then issue.payload else {} := by
  have filled : issue.cookie serializer ≠ "" := serializer.dumps_ne_empty _ _ _
  have loaded := serializer.loads_dumps issue.secretKey now process.maxAge issue.time
    issue.payload past
  rw [carried, readSession, filter_of_filled rfl filled]
  simp only [Process.appAt, Issue.cookie, ← key, loaded]
  split <;> rfl

theorem serve_of_session {session : SessionData}
    (read : readSession app.unsign request.cookie = session) :
    serve app fresh request accounts =
      if dispatch request.method request.path accounts.hasUsers
          (accounts.sessionUser session.uid) = .run then
        (route? request.method request.path).bind fun found =>
          if passesCsrf request.method request.path (session.token fresh.csrf)
              (lastValue request.form "csrf_token") then
            (found.1.endpoint.program app fresh accounts request session
              ⟨accounts.sessionUser session.uid, session.token fresh.csrf⟩ found.2).map (found.1, ·)
          else none
      else none := by
  rw [← read]
  rfl

end Read

end AptlyGui
