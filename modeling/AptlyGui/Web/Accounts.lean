import AptlyGui.Auth.Accounts
import AptlyGui.Library.Solo
import AptlyGui.Web.Handlers

/-!
# Signing in and administration

The handlers of `web/app.py` that read or change accounts and settings, and
what the service does with the configured administrator when it starts.
-/

namespace AptlyGui

variable {Hash : Type}

/-- The payload of the signed session cookie. -/
structure SessionData where
  uid : Option Nat := none
  csrf : Option String := none
  oidcState : Option String := none
  oidcVerifier : Option String := none
  oidcNext : Option String := none
  deriving DecidableEq, Repr

/-- `signIn` is a redirect that carries a new session for the account. -/
inductive AccountResponse where
  | plain (response : Response)
  | signIn (uid : Nat) (url : String)
  deriving DecidableEq, Repr

namespace AccountProgram

def perform (op : AccountOp Hash) : AccountProgram Hash op.Ret :=
  @Coroutine.perform (AccountAsync Hash) op

def getUser (id : Nat) : AccountProgram Hash (Option (User Hash)) := perform (.getUser id)
def userNamed (username : String) : AccountProgram Hash (Option (User Hash)) :=
  perform (.userNamed username)
def otherAdmins (id : Nat) : AccountProgram Hash (List (User Hash)) := perform (.otherAdmins id)
def exchange (code verifier : String) : AccountProgram Hash String :=
  perform (.exchange code verifier)
def userinfo (token : String) : AccountProgram Hash Claims := perform (.userinfo token)
def now : AccountProgram Hash Time := perform .now
def store (writes : List (AccountWrite Hash)) : AccountProgram Hash Nat := perform (.commit writes)
def refresh (id : Nat) : AccountProgram Hash (User Hash) := perform (.refresh id)
def rememberUsers : AccountProgram Hash Unit := perform .rememberUsers
def showLanguage (value : String) : AccountProgram Hash Unit := perform (.showLanguage value)

def redirect (url : String) : AccountProgram Hash AccountResponse := .done (.plain (.redirect url))
def page (template : String) : AccountProgram Hash AccountResponse := .done (.plain (.page template))

/-- For whom a finished handler has opened a session. -/
def signedIn? : AccountProgram Hash AccountResponse → Option Nat
  | .done (.signIn uid _) => some uid
  | _ => none

theorem signedIn?_eq_some {program : AccountProgram Hash AccountResponse} {uid : Nat}
    (signedIn : program.signedIn? = some uid) : ∃ url, program = .done (.signIn uid url) := by
  cases program with
  | done response =>
      cases response with
      | plain answer => cases signedIn
      | signIn id url =>
          cases signedIn
          exact ⟨url, rfl⟩
  | _ => cases signedIn

end AccountProgram

open AccountProgram

/-! ## Helpers -/

/-- `csrf_matches`; `compare_digest` refuses text outside ASCII. -/
def csrfMatches (expected : Option String) (submitted : String) : Except AccountExn Bool :=
  let known := expected.getD ""
  if known = "" ∨ submitted = "" then .ok false
  else if known.toList.all (·.toNat < 128) ∧ submitted.toList.all (·.toNat < 128) then
    .ok (decide (known = submitted))
  else .error .typeError

/-- Only ever redirect within this site. -/
def safeNext (value : String) : String :=
  if !startsWith value "/" || startsWith value "//" then "/" else value

/-- `str.strip()` -/
def strip (value : String) : String := String.ofList (stripChars value.toList)

/-- SQLAlchemy updates a column only if the assignment changed the loaded value. -/
def assignRole (user : User Hash) (role : UserRole) : List (AccountWrite Hash) :=
  if user.role = role then [] else [.change user.id (.role role)]

def assignActive (user : User Hash) (wanted : Bool) : List (AccountWrite Hash) :=
  if user.active = wanted then [] else [.change user.id (.active wanted)]

/-- Refuse the change that would leave nobody able to administer the instance. -/
def wouldOrphanAdmins (user : User Hash) (newRole : Option UserRole) (deactivating : Bool) :
    AccountProgram Hash Bool := do
  if user.role ≠ .admin then return false
  else if newRole = some .admin then return false
  else
    let others ← otherAdmins user.id
    return others.isEmpty && (deactivating || decide (newRole ≠ some .admin))

/-! ## First account and local sign-in -/

/-- The row of a local administrator. -/
def localAdmin (username : String) (passwordHash : Hash) : User Hash where
  username := username
  passwordHash := some passwordHash
  role := .admin
  source := .localPassword

def setupSubmit (hasher : PasswordHasher Hash) (salt username password passwordAgain : String) :
    AccountProgram Hash AccountResponse := do
  if password ≠ passwordAgain ∨ tooShort password ∨ strip username = "" then page "setup.html"
  else
    let added ← store
      [.addUser (localAdmin (strip username) (hasher.hash salt password)),
        .addAudit { actor := strip username, action := "user.create", target := username }]
    let user ← refresh added
    rememberUsers
    return .signIn user.id "/"

def loginSubmit (hasher : PasswordHasher Hash) (username password next : String) :
    AccountProgram Hash AccountResponse := do
  let found ← userNamed username
  let verified := hasher.verifyPassword (found.bind User.passwordHash) password
  match found.filter fun user => verified && user.active with
  | none =>
      let _ ← store [.addAudit
        { actor := username, action := "login", result := "denied", target := "local" }]
      page "login.html"
  | some user =>
      let time ← now
      let _ ← store [.change user.id (.lastLogin time),
        .addAudit { actor := user.username, action := "login", target := "local" }]
      let user ← refresh user.id
      return .signIn user.id (safeNext next)

/-! ## Sign-in through the provider -/

/-- Who has signed in with the provider, as which role. -/
def askProvider (client : OidcClient) (code verifier : String) :
    AccountProgram Hash (String × UserRole) := do
  let token ← exchange code verifier
  let claims ← userinfo token
  let username ← (.ofExcept (client.usernameFrom claims) : AccountProgram Hash String)
  let role ← (.ofExcept (client.roleFrom claims) : AccountProgram Hash UserRole)
  return (username, role)

/-- The callback once the provider has answered.  A new `User` has no `active` before it is
stored, so a person's first visit ends like that of a deactivated account. -/
def admitOidc (username : String) (role : UserRole) (next : Option String) :
    AccountProgram Hash AccountResponse := do
  match ← userNamed username with
  | none =>
      let _ ← store
        [.addUser { username := username, role := role, source := .oidc },
          .addAudit { actor := username, action := "user.create", target := "oidc", result := role.text },
          .addAudit { actor := username, action := "login", result := "denied", target := "oidc" }]
      page "login.html"
  | some user =>
      let roles := if user.source = .oidc then assignRole user role else []
      if user.active then
        let time ← now
        let _ ← store (roles ++ [.change user.id (.lastLogin time),
          .addAudit { actor := username, action := "login", target := "oidc" }])
        let user ← refresh user.id
        rememberUsers
        return .signIn user.id (safeNext (next.getD "/"))
      else
        let _ ← store (roles ++ [.addAudit
          { actor := username, action := "login", result := "denied", target := "oidc" }])
        page "login.html"

def oidcCallback (client : Option OidcClient) (stored : SessionData) (code state : Option String) :
    AccountProgram Hash AccountResponse :=
  match client, code.filter (· ≠ "") with
  | some client, some code => do
      match csrfMatches stored.oidcState (state.getD "") with
      | .error error => .raised error
      | .ok false => page "login.html"
      | .ok true =>
          match ← (askProvider client code (stored.oidcVerifier.getD "")).attempt with
          | .ok (username, role) => admitOidc username role stored.oidcNext
          | .error (.oidcError _) => page "login.html"
          | .error error => .raised error
  | _, _ => redirect "/login"

/-! ## Administration -/

def usersRole (author : String) (userId : Nat) (role : String) :
    AccountProgram Hash AccountResponse := do
  match ← getUser userId with
  | none => redirect "/users"
  | some user =>
      if ← wouldOrphanAdmins user (some (validRole role)) false then
        redirect "/users?error=last_admin"
      else
        let _ ← store (assignRole user (validRole role) ++ [.addAudit
          { actor := author, action := "user.role", target := user.username,
            result := (validRole role).text }])
        redirect "/users"

/-- `active in ("1", "true", "on")` -/
def wantsActive (active : String) : Bool := active ∈ ["1", "true", "on"]

def usersActive (author : String) (userId : Nat) (active : String) :
    AccountProgram Hash AccountResponse := do
  match ← getUser userId with
  | none => redirect "/users"
  | some user =>
      let refused ←
        if wantsActive active then (.done false : AccountProgram Hash Bool)
        else wouldOrphanAdmins user none true
      if refused then redirect "/users?error=last_admin"
      else
        let _ ← store (assignActive user (wantsActive active) ++ [.addAudit
          { actor := author, action := "user.active", target := user.username,
            result := if wantsActive active then "active" else "inactive" }])
        redirect "/users"

/-- `LANGUAGES` -/
def languages : List String := ["en", "cs"]

def settingsSave (defaultLanguage language : String) : AccountProgram Hash AccountResponse := do
  let chosen := if language ∈ languages then language else defaultLanguage
  let _ ← store [.setLanguage chosen,
    .addAudit { action := "settings.language", target := chosen }]
  showLanguage chosen
  redirect "/settings?saved=1"

/-! ## Starting the service -/

/-- The settings that the start of the service looks at. -/
structure AdminSettings where
  adminUsername : String := ""
  adminPassword : String := ""
  defaultLanguage : String := "en"
  deriving DecidableEq, Repr

/-- The configured administrator, when both settings are non-empty. -/
def AdminSettings.admin (settings : AdminSettings) : Option (String × String) :=
  if settings.adminUsername = "" ∨ settings.adminPassword = "" then none
  else some (settings.adminUsername, settings.adminPassword)

/-- `_reconcile_admin`: keep the one local account in step with the configuration. -/
def reconcileAdmin (hasher : PasswordHasher Hash) (salt : String) (settings : AdminSettings)
    (users : UserTable Hash) : UserTable Hash :=
  match settings.admin with
  | none => users
  | some (username, password) =>
      match users.named username with
      | none => (users.insert? (localAdmin username (hasher.hash salt password))).getD users
      | some user => users.update user.id (.configure (hasher.hash salt password))

/-- What `lifespan` sets up before the first request. -/
def Accounts.started (hasher : PasswordHasher Hash) (salt : String) (settings : AdminSettings)
    (accounts : Accounts Hash) : Accounts Hash :=
  let users := reconcileAdmin hasher salt settings accounts.users
  { accounts with
    users := users
    hasUsers := !users.rows.isEmpty
    language :=
      match accounts.storedLanguage.filter (· ∈ languages) with
      | some language => language
      | none => settings.defaultLanguage }

/-! ## Operations of a handler that runs alone -/

section Alone

variable {accounts after : Accounts Hash}

/-- The handler, while nobody else moves, ends like this. -/
abbrev AccountProgram.Ends {α : Type} (program : AccountProgram Hash α) (accounts : Accounts Hash)
    (outcome : Except AccountExn α) (after : Accounts Hash) : Prop :=
  @Coroutine.Ends (AccountAsync Hash) (Accounts Hash) AccountEvent α accountSemantics program accounts
    outcome after

theorem exists_answered {α : Type} {value reached : Except AccountExn α} :
    (∃ event, answered accounts value event = some (reached, after)) ↔
      reached = value ∧ after = accounts := by
  simp [answered_eq_some]

@[simp]
theorem ends_getUser {id : Nat} {outcome : Except AccountExn (Option (User Hash))} :
    (getUser id).Ends accounts outcome after ↔
      outcome = .ok (accounts.users.get? id) ∧ after = accounts :=
  Coroutine.ends_perform.trans exists_answered

@[simp]
theorem ends_userNamed {username : String} {outcome : Except AccountExn (Option (User Hash))} :
    (userNamed username).Ends accounts outcome after ↔
      outcome = .ok (accounts.users.named username) ∧ after = accounts :=
  Coroutine.ends_perform.trans exists_answered

@[simp]
theorem ends_otherAdmins {id : Nat} {outcome : Except AccountExn (List (User Hash))} :
    (otherAdmins id).Ends accounts outcome after ↔
      outcome = .ok (accounts.users.otherAdmins id) ∧ after = accounts :=
  Coroutine.ends_perform.trans exists_answered

@[simp]
theorem ends_now {outcome : Except AccountExn Time} :
    (now : AccountProgram Hash Time).Ends accounts outcome after ↔
      outcome = .ok accounts.clock ∧ after = accounts :=
  Coroutine.ends_perform.trans exists_answered

@[simp]
theorem ends_rememberUsers {outcome : Except AccountExn Unit} :
    (rememberUsers : AccountProgram Hash Unit).Ends accounts outcome after ↔
      outcome = .ok () ∧ after = { accounts with hasUsers := true } :=
  Coroutine.ends_perform.trans exists_answered

theorem ends_store_ok {writes : List (AccountWrite Hash)} {added : Nat} :
    (store writes).Ends accounts (.ok added) after ↔
      accounts.writeAll 0 writes = some (after, added) := by
  refine Coroutine.ends_perform.trans ?_
  change (∃ event, AccountOp.perform (.commit writes) event accounts = some (.ok added, after)) ↔ _
  simp only [AccountOp.perform]
  cases stored : accounts.writeAll 0 writes with
  | none => simp [exists_answered]
  | some result =>
      simp only [exists_answered]
      constructor
      · rintro ⟨same, rfl⟩
        cases same
        rfl
      · rintro ⟨⟩
        exact ⟨rfl, rfl⟩

theorem ends_refresh_ok {id : Nat} {user : User Hash} :
    (refresh id).Ends accounts (.ok user) after ↔
      accounts.users.get? id = some user ∧ after = accounts := by
  refine Coroutine.ends_perform.trans ?_
  change (∃ event, AccountOp.perform (.refresh id) event accounts = some (.ok user, after)) ↔ _
  simp only [AccountOp.perform]
  cases found : accounts.users.get? id with
  | none => simp [exists_answered]
  | some row =>
      simp only [exists_answered]
      constructor
      · rintro ⟨same, rfl⟩
        cases same
        exact ⟨rfl, rfl⟩
      · rintro ⟨⟨⟩, rfl⟩
        exact ⟨rfl, rfl⟩

end Alone

end AptlyGui
