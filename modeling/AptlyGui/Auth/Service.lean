import AptlyGui.Library.Transition
import AptlyGui.Web.Accounts

/-!
# The running service, as far as accounts go

Any number of requests of the account handlers are being served, time passes,
and the service is started again with other settings.  The guard of `web/app.py`
lets a request to `/setup` in only before an account is known, and every other
request only afterwards; whoever sends one is left open here.
-/

namespace AptlyGui

open Coroutine (Uses)

variable {Hash : Type}

inductive AccountRequest where
  | setupSubmit (salt username password passwordAgain : String)
  | loginSubmit (username password next : String)
  | oidcCallback (stored : SessionData) (code state : Option String)
  | usersRole (author : String) (userId : Nat) (role : String)
  | usersActive (author : String) (userId : Nat) (active : String)
  | settingsSave (language : String)
  deriving DecidableEq, Repr

structure AccountService (Hash : Type) where
  accounts : Accounts Hash
  /-- `app.state.settings` -/
  settings : AdminSettings
  /-- `app.state.oidc` -/
  oidc : Option OidcClient
  requests : List (AccountProgram Hash AccountResponse)

namespace AccountRequest

def isSetup : AccountRequest → Bool
  | setupSubmit _ _ _ _ => true
  | _ => false

/-- `_dispatch`: before the first account exists every road leads to creating it. -/
def admitted (request : AccountRequest) (hasUsers : Bool) : Bool := request.isSetup != hasUsers

def program (hasher : PasswordHasher Hash) (service : AccountService Hash) :
    AccountRequest → AccountProgram Hash AccountResponse
  | setupSubmit salt username password passwordAgain =>
      AptlyGui.setupSubmit hasher salt username password passwordAgain
  | loginSubmit username password next => AptlyGui.loginSubmit hasher username password next
  | oidcCallback stored code state => AptlyGui.oidcCallback service.oidc stored code state
  | usersRole author userId role => AptlyGui.usersRole author userId role
  | usersActive author userId active => AptlyGui.usersActive author userId active
  | settingsSave language => AptlyGui.settingsSave service.settings.defaultLanguage language

end AccountRequest

/-! ## What a handler may store -/

namespace AccountRequest

def mayWrite : AccountRequest → AccountWrite Hash → Prop
  | _, .addAudit _ => True
  | setupSubmit _ _ _ _, .addUser _ => True
  | loginSubmit _ _ _, .change _ (.lastLogin _) => True
  | oidcCallback _ _ _, .addUser user => user.passwordHash = none
  | oidcCallback _ _ _, .change _ (.role _) => True
  | oidcCallback _ _ _, .change _ (.lastLogin _) => True
  | usersRole _ _ _, .change _ (.role _) => True
  | usersActive _ _ _, .change _ (.active _) => True
  | settingsSave _, .setLanguage _ => True
  | _, _ => False

def allows (request : AccountRequest) : AccountOp Hash → Prop
  | .commit writes => ∀ write ∈ writes, request.mayWrite write
  | .showLanguage _ => ∃ language, request = settingsSave language
  | _ => True

variable {request : AccountRequest}

theorem uses_account {op : AccountOp Hash} (permitted : request.allows op) :
    Uses request.allows (AccountProgram.perform op) :=
  (@Coroutine.uses_perform (AccountAsync Hash) request.allows op).mpr permitted

theorem uses_wouldOrphanAdmins (user : User Hash) (newRole : Option UserRole)
    (deactivating : Bool) : Uses request.allows (wouldOrphanAdmins user newRole deactivating) := by
  unfold wouldOrphanAdmins
  split
  · trivial
  · split
    · trivial
    · exact Uses.bind (uses_account trivial) fun others => trivial

theorem uses_setupSubmit (hasher : PasswordHasher Hash)
    (salt username password passwordAgain : String) :
    Uses (setupSubmit salt username password passwordAgain).allows
      (AptlyGui.setupSubmit hasher salt username password passwordAgain) := by
  unfold AptlyGui.setupSubmit
  split
  · trivial
  · refine Uses.bind (uses_account ?_) fun added => ?_
    · simp [allows, mayWrite]
    · refine Uses.bind (uses_account trivial) fun user => ?_
      exact Uses.bind (uses_account trivial) fun _ => trivial

theorem uses_loginSubmit (hasher : PasswordHasher Hash) (username password next : String) :
    Uses (loginSubmit username password next).allows
      (AptlyGui.loginSubmit hasher username password next) := by
  refine Uses.bind (uses_account trivial) fun found => ?_
  dsimp only
  split
  · exact Uses.bind (uses_account (by simp [allows, mayWrite])) fun _ => trivial
  · refine Uses.bind (uses_account trivial) fun time => ?_
    refine Uses.bind (uses_account (by simp [allows, mayWrite])) fun _ => ?_
    exact Uses.bind (uses_account trivial) fun _ => trivial

theorem uses_admitOidc (stored : SessionData) (code state : Option String) (username : String)
    (role : UserRole) (next : Option String) :
    Uses (oidcCallback stored code state).allows
      (admitOidc username role next : AccountProgram Hash AccountResponse) := by
  have assigned (user : User Hash) : ∀ write ∈
      (if user.source = .oidc then assignRole user role else []),
        (oidcCallback stored code state).mayWrite write := by
    unfold assignRole
    split <;> [split; skip] <;> simp [mayWrite]
  refine Uses.bind (uses_account trivial) fun found => ?_
  split
  · exact Uses.bind (uses_account (by simp [allows, mayWrite])) fun _ => trivial
  · rename_i user
    dsimp only
    split
    · refine Uses.bind (uses_account trivial) fun time => ?_
      refine Uses.bind (uses_account ?_) fun _ => ?_
      · exact List.forall_mem_append.mpr ⟨assigned user, by simp [mayWrite]⟩
      · refine Uses.bind (uses_account trivial) fun _ => ?_
        exact Uses.bind (uses_account trivial) fun _ => trivial
    · refine Uses.bind (uses_account ?_) fun _ => trivial
      exact List.forall_mem_append.mpr ⟨assigned user, by simp [mayWrite]⟩

theorem uses_askProvider (client : OidcClient) (code verifier : String) :
    Uses request.allows
      (askProvider client code verifier : AccountProgram Hash (String × UserRole)) := by
  refine Uses.bind (uses_account trivial) fun token => ?_
  refine Uses.bind (uses_account trivial) fun claims => ?_
  refine Uses.bind (Coroutine.uses_ofExcept _) fun username => ?_
  exact Uses.bind (Coroutine.uses_ofExcept _) fun role => trivial

theorem uses_oidcCallback (client : Option OidcClient) (stored : SessionData)
    (code state : Option String) : Uses (oidcCallback stored code state).allows
      (AptlyGui.oidcCallback client stored code state : AccountProgram Hash AccountResponse) := by
  unfold AptlyGui.oidcCallback
  split
  · split
    · trivial
    · trivial
    · refine Uses.bind (uses_askProvider _ _ _).attempt fun outcome => ?_
      split
      · exact uses_admitOidc stored code state _ _ _
      · trivial
      · trivial
  · trivial

theorem uses_usersRole (author : String) (userId : Nat) (role : String) :
    Uses (usersRole author userId role).allows
      (AptlyGui.usersRole author userId role : AccountProgram Hash AccountResponse) := by
  refine Uses.bind (uses_account trivial) fun found => ?_
  split
  · trivial
  · refine Uses.bind (uses_wouldOrphanAdmins _ _ _) fun refused => ?_
    split
    · trivial
    · refine Uses.bind (uses_account ?_) fun _ => trivial
      unfold assignRole
      split <;> simp [allows, mayWrite]

theorem uses_usersActive (author : String) (userId : Nat) (active : String) :
    Uses (usersActive author userId active).allows
      (AptlyGui.usersActive author userId active : AccountProgram Hash AccountResponse) := by
  have answered (user : User Hash) (result : String) (refused : Bool) :
      Uses (usersActive author userId active).allows
        (if refused = true then AccountProgram.redirect "/users?error=last_admin"
        else do
          let _ ← AccountProgram.store (assignActive user (wantsActive active) ++ [.addAudit
            { actor := author, action := "user.active", target := user.username, result := result }])
          AccountProgram.redirect "/users") := by
    split
    · trivial
    · refine Uses.bind (uses_account ?_) fun _ => trivial
      unfold assignActive
      split <;> simp [allows, mayWrite]
  refine Uses.bind (uses_account trivial) fun found => ?_
  split
  · trivial
  · dsimp only
    split
    · exact answered _ _ false
    · exact Uses.bind (uses_wouldOrphanAdmins _ _ _) (answered _ _)

theorem uses_settingsSave (defaultLanguage language : String) :
    Uses (settingsSave language).allows
      (AptlyGui.settingsSave defaultLanguage language : AccountProgram Hash AccountResponse) := by
  refine Uses.bind (uses_account (by simp [allows, mayWrite])) fun _ => ?_
  exact Uses.bind (uses_account ⟨language, rfl⟩) fun _ => trivial

/-- Whatever happens meanwhile, a handler stores nothing but what belongs to it. -/
theorem uses_program (hasher : PasswordHasher Hash) (service : AccountService Hash)
    (request : AccountRequest) : Uses request.allows (request.program hasher service) := by
  cases request with
  | setupSubmit salt username password passwordAgain => exact uses_setupSubmit hasher _ _ _ _
  | loginSubmit username password next => exact uses_loginSubmit hasher _ _ _
  | oidcCallback stored code state => exact uses_oidcCallback _ _ _ _
  | usersRole author userId role => exact uses_usersRole _ _ _
  | usersActive author userId active => exact uses_usersActive _ _ _
  | settingsSave language => exact uses_settingsSave _ _

end AccountRequest

/-! ## The system -/

inductive AccountLabel where
  | arrive (request : AccountRequest)
  | serve (index : Nat) (event : AccountEvent)
  | tick (elapsed : Nat)
  /-- the process ends, whatever it was doing, and starts again -/
  | start (settings : AdminSettings) (oidc : Option OidcClient) (salt : String)

def accountService (hasher : PasswordHasher Hash) :
    Transition (AccountService Hash) AccountLabel where
  step service
    | .arrive request =>
        if request.admitted service.accounts.hasUsers then
          some { service with requests := service.requests ++ [request.program hasher service] }
        else none
    | .serve index event =>
        (service.requests[index]?).bind fun request =>
          (request.step accountSemantics event service.accounts).map fun (next, accounts) =>
            { service with accounts := accounts, requests := service.requests.set index next }
    | .tick elapsed =>
        some { service with
          accounts := { service.accounts with clock := service.accounts.clock + elapsed } }
    | .start settings oidc salt =>
        some
          { accounts := service.accounts.started hasher salt settings
            settings := settings
            oidc := oidc
            requests := [] }

namespace AccountService

/-- The check holds of the operation that the step performs, if it performs one. -/
def checked (check : Accounts Hash → AccountOp Hash → Bool) (service : AccountService Hash) :
    AccountLabel → Bool
  | .serve index _ =>
      ((service.requests[index]?).bind Coroutine.awaits).all (check service.accounts)
  | _ => true

variable {hasher : PasswordHasher Hash} {service after : AccountService Hash} {label : AccountLabel}

/-- What one step does to the accounts. -/
theorem step_cases (stepped : (accountService hasher).step service label = some after) :
    (∃ request, label = .arrive request ∧ request.admitted service.accounts.hasUsers = true ∧
        after = { service with requests := service.requests ++ [request.program hasher service] }) ∨
      (∃ index event op resume outcome accounts, label = .serve index event ∧
        service.requests[index]? = some (.await op resume) ∧
        op.perform event service.accounts = some (outcome, accounts) ∧
        after = { service with
          accounts := accounts, requests := service.requests.set index (resume outcome) }) ∨
      (∃ elapsed, label = .tick elapsed ∧ after = { service with
        accounts := { service.accounts with clock := service.accounts.clock + elapsed } }) ∨
      ∃ settings oidc salt, label = .start settings oidc salt ∧ after =
        { accounts := service.accounts.started hasher salt settings
          settings := settings
          oidc := oidc
          requests := [] } := by
  cases label with
  | arrive request =>
      simp only [accountService] at stepped
      split at stepped
      · rename_i admitted
        exact .inl ⟨request, rfl, admitted, (Option.some.inj stepped).symm⟩
      · cases stepped
  | serve index event =>
      obtain ⟨request, found, stepped⟩ := Option.bind_eq_some_iff.mp stepped
      obtain ⟨⟨next, accounts⟩, resumed, rfl⟩ := Option.map_eq_some_iff.mp stepped
      obtain ⟨op, resume, outcome, rfl, performed, rfl⟩ := Coroutine.step_eq_some resumed
      exact .inr (.inl ⟨index, event, op, resume, outcome, accounts, rfl, found, performed, rfl⟩)
  | tick elapsed => exact .inr (.inr (.inl ⟨elapsed, rfl, (Option.some.inj stepped).symm⟩))
  | start settings oidc salt =>
      exact .inr (.inr (.inr ⟨settings, oidc, salt, rfl, (Option.some.inj stepped).symm⟩))

/-- An invariant of the table of users needs looking after in commits and at the start. -/
theorem keeps_users {holds : UserTable Hash → Prop} {check : Accounts Hash → AccountOp Hash → Bool}
    (performs : ∀ op event accounts outcome after, check accounts op = true →
      op.perform event accounts = some (outcome, after) → holds accounts.users → holds after.users)
    (reconciles : ∀ salt settings users, holds users → holds (reconcileAdmin hasher salt settings users))
    (permitted : service.checked check label = true)
    (stepped : (accountService hasher).step service label = some after)
    (before : holds service.accounts.users) : holds after.accounts.users := by
  rcases step_cases stepped with ⟨request, -, -, rfl⟩ |
    ⟨index, event, op, resume, outcome, accounts, rfl, found, performed, rfl⟩ |
    ⟨elapsed, -, rfl⟩ | ⟨settings, oidc, salt, -, rfl⟩
  · exact before
  · have checked : check service.accounts op = true := by
      simpa [AccountService.checked, found, Coroutine.awaits] using permitted
    exact performs op event service.accounts outcome accounts checked performed before
  · exact before
  · exact reconciles salt settings service.accounts.users before

end AccountService

/-! ## Instances -/

namespace Sample

/-- A hasher that keeps the salt and the password. -/
def hasher : PasswordHasher (String × String) where
  hash := Prod.mk
  verify := fun passwordHash password => decide (password = passwordHash.2)
  verify_hash := by simp

/-- A service that knows these users and has nothing to do. -/
def office (users : UserTable (String × String)) (oidc : Option OidcClient) :
    AccountService (String × String) where
  accounts :=
    { users := users
      audit := []
      storedLanguage := none
      hasUsers := !users.rows.isEmpty
      language := "en"
      clock := 0 }
  settings := {}
  oidc := oidc
  requests := []

/-- The table with one user after another, of those whose names are new. -/
def table (users : List (User (String × String))) : UserTable (String × String) :=
  users.foldl (fun table user => (table.insert? user).getD table) .empty

end Sample

end AptlyGui
