import AptlyGui.Auth.SignOn

/-!
# A person's first visit

`oidc_callback` asks a new `User` whether it is active before the session has
flushed it.  A column default is filled in by the flush, so the new object
answers `None`, and its visitor is turned away like one who is deactivated.
-/

namespace AptlyGui

open AccountProgram

variable {Hash : Type}

/-! ## Objects of a session -/

/-- A `User` that a handler holds: loaded from its row, perhaps with a role assigned since, or
constructed and not yet flushed. -/
inductive UserObject (Hash : Type) where
  | persistent (user : User Hash) (assigned : Option UserRole)
  | pending (username : String) (role : UserRole)

namespace UserObject

/-- `user.active`, where `none` stands for `None`. -/
def active : UserObject Hash → Option Bool
  | .persistent user _ => some user.active
  | .pending _ _ => none

/-- What the flush stores of the object; a new row gets the defaults of its columns. -/
def flush (lastLogin : Option Time) : UserObject Hash → List (AccountWrite Hash)
  | .persistent user assigned =>
      assigned.elim [] (assignRole user) ++
        lastLogin.elim [] fun time => [.change user.id (.lastLogin time)]
  | .pending username role =>
      [.addUser { username := username, role := role, source := .oidc, lastLogin := lastLogin }]

/-- `user.id` after the commit, which has the id of the row it has added. -/
def key (added : Nat) : UserObject Hash → Nat
  | .persistent user _ => user.id
  | .pending _ _ => added

/-- The object for a username, and the entry about a new account. -/
def ofUsername (username : String) (role : UserRole) :
    Option (User Hash) → UserObject Hash × List (AccountWrite Hash)
  | none => (.pending username role, [.addAudit
      { actor := username, action := "user.create", target := "oidc", result := role.text }])
  | some user => (.persistent user (if user.source = .oidc then some role else none), [])

end UserObject

/-- The callback once the provider has answered, object by object. -/
def admitObject (username : String) (role : UserRole) (next : Option String) :
    AccountProgram Hash AccountResponse := do
  let found ← userNamed username
  let (user, created) := UserObject.ofUsername username role found
  if user.active.getD false then
    let time ← now
    let added ← store (user.flush (some time) ++ created ++
      [.addAudit { actor := username, action := "login", target := "oidc" }])
    let row ← refresh (user.key added)
    rememberUsers
    return .signIn row.id (safeNext (next.getD "/"))
  else
    let _ ← store (user.flush none ++ created ++
      [.addAudit { actor := username, action := "login", result := "denied", target := "oidc" }])
    page "login.html"

theorem admitOidc_eq_admitObject (username : String) (role : UserRole) (next : Option String) :
    (admitOidc username role next : AccountProgram Hash AccountResponse) =
      admitObject username role next := by
  have assigned (user : User Hash) :
      (if user.source = .oidc then some role else none).elim [] (assignRole user) =
        if user.source = .oidc then assignRole user role else [] := by
    by_cases provided : user.source = .oidc
    · rw [if_pos provided, if_pos provided]
      rfl
    · rw [if_neg provided, if_neg provided]
      rfl
  unfold admitOidc admitObject
  congr 1
  funext found
  cases found with
  | none => rfl
  | some user =>
      simp only [UserObject.ofUsername, UserObject.active, UserObject.flush, UserObject.key,
        Option.getD_some, assigned, List.append_nil, List.append_assoc]
      rfl

/-! ## Who is turned away -/

theorem signsIn_iff_active {client : OidcClient} {stored : SessionData} {code state : Option String}
    {claims : Claims} {accounts : Accounts Hash} {username : String} {role : UserRole}
    (verified : Verified stored code state) (asserted : Asserts client claims username role) :
    (∃ uid after, CallbackSignsIn client stored code state claims accounts uid after) ↔
      ∃ user, accounts.users.named username = some user ∧ user.active = true := by
  constructor
  · rintro ⟨uid, after, signedIn⟩
    obtain ⟨-, name, given, ⟨named, -⟩, admitted⟩ := callbackSignsIn_iff.mp signedIn
    have same : name = username := Except.ok.inj (named.symm.trans asserted.1)
    obtain ⟨user, found, active, -⟩ := ends_admitOidc_signIn.mp admitted
    exact ⟨user, same ▸ found, active⟩
  · rintro ⟨user, found, active⟩
    obtain ⟨saved, wrote, -⟩ := writeAll_admission accounts user role accounts.clock
      { actor := username, action := "login", target := "oidc" }
    refine ⟨user.id, { saved with hasUsers := true }, callbackSignsIn_iff.mpr ?_⟩
    exact ⟨verified, username, role, asserted,
      ends_admitOidc_signIn.mpr ⟨user, found, active, rfl, saved, wrote, rfl⟩⟩

/-- A first visit stores an active account and ends at the login page. -/
theorem ends_admitOidc_stranger {accounts : Accounts Hash} {username : String}
    (stranger : accounts.users.named username = none) (role : UserRole) (next : Option String) :
    ∃ after user, (admitOidc username role next).Ends accounts (.ok (.plain (.page "login.html")))
      after ∧ after.users.named username = some user ∧ user.active = true ∧ user.role = role := by
  let visitor : User Hash := { username := username, role := role, source := .oidc }
  obtain ⟨users, inserted⟩ :=
    UserTable.exists_insert (show accounts.users.named visitor.username = none from stranger)
  have listed := (UserTable.mem_insert inserted).mpr (.inr rfl)
  let created : AuditEntry :=
    { actor := username, action := "user.create", target := "oidc", result := role.text }
  let denied : AuditEntry :=
    { actor := username, action := "login", result := "denied", target := "oidc" }
  let after : Accounts Hash :=
    { accounts with users := users, audit := accounts.audit ++ [created] ++ [denied] }
  refine ⟨after, _, ?_, UserTable.named_eq_some_iff.mpr ⟨listed, rfl⟩, rfl, rfl⟩
  refine Coroutine.ends_bind_ok.mpr ⟨_, accounts, ends_userNamed.mpr ⟨rfl, rfl⟩, ?_⟩
  rw [stranger]
  refine Coroutine.ends_bind_ok.mpr ⟨accounts.users.table.nextId, after, ends_store_ok.mpr ?_, ?_⟩
  · simp only [Accounts.writeAll, Accounts.write]
    rw [inserted]
    rfl
  · exact Coroutine.ends_done.mpr ⟨rfl, rfl⟩

/-- A visitor whom the provider has named is signed in exactly when no account of that name is
deactivated, if and only if there is an account of that name. -/
theorem refused_only_deactivated_iff {client : OidcClient} {stored : SessionData}
    {code state : Option String} {claims : Claims} {accounts : Accounts Hash} {username : String}
    {role : UserRole} (verified : Verified stored code state)
    (asserted : Asserts client claims username role) :
    ((∃ uid after, CallbackSignsIn client stored code state claims accounts uid after) ↔
      ∀ user ∈ accounts.users.rows, user.username = username → user.active = true) ↔
    ∃ user ∈ accounts.users.rows, user.username = username := by
  rw [signsIn_iff_active verified asserted]
  constructor
  · intro rule
    by_contra stranger
    obtain ⟨user, found, -⟩ := rule.mpr fun user listed named => absurd ⟨user, listed, named⟩ stranger
    exact stranger ⟨user, UserTable.named_eq_some_iff.mp found⟩
  · rintro ⟨user, listed, named⟩
    have found := UserTable.named_eq_some_iff.mpr ⟨listed, named⟩
    constructor
    · rintro ⟨other, same, active⟩ visitor among called
      have one := same.symm.trans (UserTable.named_eq_some_iff.mpr ⟨among, called⟩)
      rw [← Option.some.inj one]
      exact active
    · intro rule
      exact ⟨user, found, rule user listed named⟩

namespace FirstVisit

/-- The provider calls the visitor `ada`. -/
def claims : Claims := .ofList [("sub", .str "4711"), ("preferred_username", .str "ada")]

def accounts (users : List (User (String × String))) : Accounts (String × String) :=
  (Sample.office (Sample.table users) (some SignOn.provider)).accounts

end FirstVisit

theorem verified_session : Verified SignOn.session (some "code") (some "state") :=
  ⟨by decide, by rfl⟩

theorem asserted_ada : Asserts SignOn.provider FirstVisit.claims "ada" .viewer := ⟨by rfl, by rfl⟩

/-- The first visit of `ada`. -/
theorem not_refused_only_deactivated : ¬ ∀ (client : OidcClient) (stored : SessionData)
    (code state : Option String) (claims : Claims) (accounts : Accounts (String × String))
    (username : String) (role : UserRole), Verified stored code state →
      Asserts client claims username role →
      ((∃ uid after, CallbackSignsIn client stored code state claims accounts uid after) ↔
        ∀ user ∈ accounts.users.rows, user.username = username → user.active = true) := by
  intro claimed
  have rule := claimed SignOn.provider SignOn.session _ _ FirstVisit.claims (FirstVisit.accounts [])
    "ada" .viewer verified_session asserted_ada
  have signedIn := rule.mpr (by decide)
  obtain ⟨user, found, -⟩ := (signsIn_iff_active verified_session asserted_ada).mp signedIn
  have unknown : (FirstVisit.accounts []).users.named "ada" = none := by decide
  rw [unknown] at found
  cases found

/-- On her second visit the account is there, and she is signed in. -/
theorem refused_only_deactivated_returning : ∃ uid after,
    CallbackSignsIn SignOn.provider SignOn.session (some "code") (some "state") FirstVisit.claims
      (FirstVisit.accounts [{ username := "ada", source := .oidc }]) uid after := by
  have known : ∃ user ∈ (FirstVisit.accounts [{ username := "ada", source := .oidc }]).users.rows,
      user.username = "ada" := by
    decide
  have rule := (refused_only_deactivated_iff verified_session asserted_ada).mpr known
  exact rule.mpr (by decide)

end AptlyGui
