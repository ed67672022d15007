import AptlyGui.Auth.Service

/-!
# One local account

`_reconcile_admin` looks up one row by the configured name and leaves every
other row as it is.  After a start with both settings, the configured pair is
the only one that `login_submit` accepts as long as no other account that has a
password is active.
-/

namespace AptlyGui

open AccountProgram

variable {Hash : Type}

/-! ## Which pairs are accepted -/

/-- `login_submit`, running alone, signs somebody in. -/
def Accepts (hasher : PasswordHasher Hash) (accounts : Accounts Hash) (username password : String) :
    Prop :=
  ∃ next uid url after,
    (loginSubmit hasher username password next).Ends accounts (.ok (.signIn uid url)) after

theorem accepts_iff {hasher : PasswordHasher Hash} {accounts : Accounts Hash}
    {username password : String} : Accepts hasher accounts username password ↔
      ∃ user, accounts.users.named username = some user ∧ user.active = true ∧
        hasher.verifyPassword user.passwordHash password = true := by
  constructor
  · rintro ⟨next, uid, url, after, ended⟩
    obtain ⟨found, middle, asked, answered⟩ := Coroutine.ends_bind_ok.mp ended
    obtain ⟨same, rfl⟩ := ends_userNamed.mp asked
    cases same
    dsimp only at answered
    cases admitted : (middle.users.named username).filter fun user =>
        hasher.verifyPassword ((middle.users.named username).bind User.passwordHash) password &&
          user.active with
    | none =>
        rw [admitted] at answered
        obtain ⟨added, stored, -, finished⟩ := Coroutine.ends_bind_ok.mp answered
        obtain ⟨⟨⟩, -⟩ := Coroutine.ends_done.mp finished
    | some user =>
        obtain ⟨named, accepted⟩ := Option.filter_eq_some_iff.mp admitted
        rw [named] at accepted
        obtain ⟨verified, active⟩ := Bool.and_eq_true_iff.mp accepted
        exact ⟨user, rfl.trans named, active, verified⟩
  · rintro ⟨user, named, active, verified⟩
    obtain ⟨listed, -⟩ := UserTable.named_eq_some_iff.mp named
    have present : accounts.users.get? user.id = some user :=
      UserTable.get?_eq_some_iff.mpr ⟨listed, rfl⟩
    have admitted : (accounts.users.named username).filter (fun user =>
        hasher.verifyPassword ((accounts.users.named username).bind User.passwordHash) password &&
          user.active) = some user := by
      simp [named, verified, active]
    let after : Accounts Hash :=
      { accounts with
        users := accounts.users.update user.id (.lastLogin accounts.clock)
        audit := accounts.audit ++
          [{ actor := user.username, action := "login", target := "local" }] }
    have kept : after.users.get? user.id =
        some ((UserChange.lastLogin accounts.clock).apply user) := by
      simp [after, UserTable.get?_update, present]
    refine ⟨"/", user.id, safeNext "/", after, ?_⟩
    refine Coroutine.ends_bind_ok.mpr ⟨_, accounts, ends_userNamed.mpr ⟨rfl, rfl⟩, ?_⟩
    dsimp only
    rw [admitted]
    refine Coroutine.ends_bind_ok.mpr ⟨_, accounts, ends_now.mpr ⟨rfl, rfl⟩, ?_⟩
    refine Coroutine.ends_bind_ok.mpr ⟨0, after, ends_store_ok.mpr rfl, ?_⟩
    refine Coroutine.ends_bind_ok.mpr ⟨_, after, ends_refresh_ok.mpr ⟨kept, rfl⟩, ?_⟩
    exact Coroutine.ends_done.mpr ⟨rfl, rfl⟩

/-! ## Tables with one password -/

/-- The configured account has the configured password, and no other active account has one. -/
structure Configured (hasher : PasswordHasher Hash) (username password : String)
    (users : UserTable Hash) : Prop where
  admin : ∃ user ∈ users.rows, user.username = username ∧
    ∃ salt, user.passwordHash = some (hasher.hash salt password)
  others : ∀ user ∈ users.rows, user.username ≠ username → user.active = true →
    user.passwordHash = none

theorem Configured.accepts_iff {hasher : PasswordHasher Hash} {username password : String}
    {accounts : Accounts Hash} (configured : Configured hasher username password accounts.users)
    (name attempt : String) : Accepts hasher accounts name attempt ↔
      name = username ∧ attempt = password ∧
        ∃ user ∈ accounts.users.rows, user.username = username ∧ user.active = true := by
  obtain ⟨⟨admin, listed, called, salt, hashed⟩, others⟩ := configured
  have verifies (attempt : String) :
      hasher.verifyPassword admin.passwordHash attempt = true ↔ attempt = password := by
    rw [hashed]
    exact hasher.verify_hash salt password attempt
  rw [AptlyGui.accepts_iff]
  constructor
  · rintro ⟨user, named, active, verified⟩
    obtain ⟨among, rfl⟩ := UserTable.named_eq_some_iff.mp named
    by_cases same : user.username = username
    · have one : user = admin :=
        List.inj_on_of_nodup_map accounts.users.unique among listed (same.trans called.symm)
      subst one
      exact ⟨same, (verifies attempt).mp verified, user, among, same, active⟩
    · rw [others user among same active] at verified
      cases verified
  · rintro ⟨rfl, rfl, user, among, same, active⟩
    have one : user = admin :=
      List.inj_on_of_nodup_map accounts.users.unique among listed (same.trans called.symm)
    subst one
    exact ⟨user, UserTable.named_eq_some_iff.mpr ⟨among, same⟩, active, (verifies _).mpr rfl⟩

/-- The write neither brings in a password nor changes one. -/
def AccountWrite.KeepsPasswords : AccountWrite Hash → Prop
  | .addUser user => user.passwordHash = none
  | .change _ (.configure _) => False
  | _ => True

/-- The write does not activate an account that has a password of its own. -/
def UserTable.wakesNoPassword (username : String) (users : UserTable Hash) :
    AccountWrite Hash → Bool
  | .change id (.active true) =>
      (users.get? id).all fun user => decide (user.username = username) || user.passwordHash.isNone
  | _ => true

theorem Configured.write {hasher : PasswordHasher Hash} {username password : String}
    {users after : UserTable Hash} {write : AccountWrite Hash} (keeps : write.KeepsPasswords)
    (wakes : users.wakesNoPassword username write = true) (wrote : users.write? write = some after)
    (configured : Configured hasher username password users) :
    Configured hasher username password after := by
  obtain ⟨⟨admin, listed, called, hashed⟩, others⟩ := configured
  cases write with
  | addUser user =>
      refine ⟨⟨admin, (UserTable.mem_insert wrote).mpr (.inl listed), called, hashed⟩, ?_⟩
      intro other among apart active
      rcases (UserTable.mem_insert wrote).mp among with among | rfl
      · exact others other among apart active
      · exact keeps
  | change id change =>
      cases wrote
      have hash_apply (user : User Hash) : (change.apply user).passwordHash = user.passwordHash := by
        cases change with
        | configure hash => exact keeps.elim
        | _ => rfl
      constructor
      · refine ⟨_, UserTable.mem_update.mpr ⟨admin, listed, rfl⟩, ?_⟩
        split
        · exact ⟨(change.username_apply admin).trans called, by simpa [hash_apply] using hashed⟩
        · exact ⟨called, hashed⟩
      · intro user among apart active
        obtain ⟨old, before, rfl⟩ := UserTable.mem_update.mp among
        split at apart
        · rename_i changed
          rw [if_pos changed] at active ⊢
          rw [hash_apply]
          rw [UserChange.username_apply] at apart
          cases change with
          | active wanted =>
              cases active
              have found : users.get? id = some old :=
                UserTable.get?_eq_some_iff.mpr ⟨before, changed⟩
              simpa [UserTable.wakesNoPassword, found, apart] using wakes
          | configure hash => exact keeps.elim
          | _ => exact others old before apart active
        · rename_i unchanged
          rw [if_neg unchanged] at active ⊢
          exact others old before apart active
  | addAudit entry =>
      cases wrote
      exact ⟨⟨admin, listed, called, hashed⟩, others⟩
  | setLanguage value =>
      cases wrote
      exact ⟨⟨admin, listed, called, hashed⟩, others⟩

/-! ## Runs -/

theorem AccountRequest.keepsPasswords {request : AccountRequest} {write : AccountWrite Hash}
    (later : request.isSetup = false) (may : request.mayWrite write) : write.KeepsPasswords := by
  cases write with
  | addUser user =>
      cases request with
      | setupSubmit salt username password passwordAgain => cases later
      | oidcCallback stored code state => exact may
      | _ => exact may.elim
  | change id change =>
      cases change with
      | configure hash => cases request <;> exact may.elim
      | _ => trivial
  | addAudit entry => trivial
  | setLanguage value => trivial

def AccountOp.KeepsPasswords : AccountOp Hash → Prop
  | .commit writes => ∀ write ∈ writes, write.KeepsPasswords
  | _ => True

theorem AccountRequest.uses_keepsPasswords {request : AccountRequest}
    (later : request.isSetup = false) (hasher : PasswordHasher Hash) (service : AccountService Hash) :
    Coroutine.Uses AccountOp.KeepsPasswords (request.program hasher service) := by
  refine (request.uses_program hasher service).mono fun op allowed => ?_
  cases op with
  | commit writes => exact fun write listed => request.keepsPasswords later (allowed write listed)
  | _ => trivial

namespace AccountService

/-- The service before its first start. -/
def stopped (accounts : Accounts Hash) : AccountService Hash := ⟨accounts, {}, none, []⟩

/-- The condition on a step: at a start with both settings, no other active account has a
password; afterwards no account with a password is activated but the configured one. -/
def keepsOneLocal (service : AccountService Hash) : AccountLabel → Bool
  | .start settings _ _ =>
      settings.admin.all fun admin => service.accounts.users.rows.all fun user =>
        decide (user.username = admin.1) || (!user.active || user.passwordHash.isNone)
  | label =>
      service.settings.admin.all fun admin => service.checked (fun accounts op =>
        match op with
        | .commit writes => accounts.users.eachWrite (UserTable.wakesNoPassword admin.1) writes
        | _ => true) label

/-- What a start with both settings leaves behind, and every later step keeps. -/
structure Reconciled (hasher : PasswordHasher Hash) (service : AccountService Hash)
    (admin : String × String) : Prop where
  configured : Configured hasher admin.1 admin.2 service.accounts.users
  known : service.accounts.hasUsers = true
  uses : ∀ request ∈ service.requests, Coroutine.Uses AccountOp.KeepsPasswords request

end AccountService

theorem reconcileAdmin_configured {hasher : PasswordHasher Hash} {salt : String}
    {settings : AdminSettings} {admin : String × String} {users : UserTable Hash}
    (given : settings.admin = some admin)
    (others : ∀ user ∈ users.rows, user.username ≠ admin.1 → user.active = true →
      user.passwordHash = none) :
    Configured hasher admin.1 admin.2 (reconcileAdmin hasher salt settings users) := by
  obtain ⟨username, password⟩ := admin
  simp only [reconcileAdmin, given]
  split
  · rename_i unknown
    obtain ⟨after, inserted⟩ := UserTable.exists_insert
      (show users.named (localAdmin username (hasher.hash salt password)).username = none from unknown)
    rw [inserted, Option.getD_some]
    constructor
    · exact ⟨_, (UserTable.mem_insert inserted).mpr (.inr rfl), rfl, salt, rfl⟩
    · intro user among apart active
      rcases (UserTable.mem_insert inserted).mp among with among | rfl
      · exact others user among apart active
      · exact absurd rfl apart
  · rename_i admin found
    obtain ⟨listed, named⟩ := UserTable.named_eq_some_iff.mp found
    constructor
    · exact ⟨_, UserTable.mem_update.mpr ⟨admin, listed, (if_pos rfl).symm⟩, named, salt, rfl⟩
    · intro user among apart active
      obtain ⟨old, before, rfl⟩ := UserTable.mem_update.mp among
      by_cases same : old.id = admin.id
      · rw [if_pos same] at apart
        have one : old = admin := List.inj_on_of_nodup_map users.table.distinct before listed same
        subst one
        exact absurd named apart
      · rw [if_neg same] at apart active ⊢
        exact others old before apart active

/-- A start with both settings, under the condition. -/
theorem AccountService.reconciled_start {hasher : PasswordHasher Hash} {salt : String}
    {settings : AdminSettings} {oidc : Option OidcClient} {admin : String × String}
    {accounts : Accounts Hash} (given : settings.admin = some admin)
    (others : ∀ user ∈ accounts.users.rows, user.username ≠ admin.1 → user.active = true →
      user.passwordHash = none) :
    Reconciled hasher ⟨accounts.started hasher salt settings, settings, oidc, []⟩ admin where
  configured := reconcileAdmin_configured given others
  known := by
    obtain ⟨⟨user, listed, -⟩, -⟩ :=
      @reconcileAdmin_configured Hash hasher salt settings admin accounts.users given others
    simp only [Accounts.started]
    cases rows : (reconcileAdmin hasher salt settings accounts.users).rows with
    | nil => simp [rows] at listed
    | cons first rest => rfl
  uses := by simp

theorem AccountService.reconciled_step {hasher : PasswordHasher Hash}
    {service after : AccountService Hash} {label : AccountLabel}
    (before : ∀ admin, service.settings.admin = some admin → service.Reconciled hasher admin)
    (permitted : service.keepsOneLocal label = true)
    (stepped : (accountService hasher).step service label = some after) :
    ∀ admin, after.settings.admin = some admin → after.Reconciled hasher admin := by
  intro admin given
  rcases step_cases stepped with ⟨request, rfl, admitted, rfl⟩ |
    ⟨index, event, op, resume, outcome, accounts, rfl, found, performed, rfl⟩ |
    ⟨elapsed, rfl, rfl⟩ | ⟨settings, oidc, salt, rfl, rfl⟩
  · obtain ⟨configured, known, uses⟩ := before admin given
    have later : request.isSetup = false := by
      rw [AccountRequest.admitted, known] at admitted
      simpa using admitted
    refine ⟨configured, known, ?_⟩
    intro program among
    rcases List.mem_append.mp among with among | among
    · exact uses program among
    · obtain rfl := List.mem_singleton.mp among
      exact request.uses_keepsPasswords later hasher service
  · obtain ⟨configured, known, uses⟩ := before admin given
    have waiting := uses _ (List.mem_of_getElem? found)
    refine ⟨?_, AccountOp.hasUsers_of_perform performed known, ?_⟩
    · rcases AccountOp.users_cases performed with same | ⟨writes, added, rfl, stored⟩
      · exact same ▸ configured
      · have wakes : service.accounts.users.eachWrite (UserTable.wakesNoPassword admin.1) writes =
            true := by
          simpa [keepsOneLocal, given, checked, found, Coroutine.awaits] using permitted
        refine Accounts.writeAll_keeps ?_ wakes stored configured
        intro write listed users after wakes wrote configured
        exact configured.write (waiting.1 write listed) wakes wrote
    · intro program among
      rcases List.mem_or_eq_of_mem_set among with old | rfl
      · exact uses program old
      · exact waiting.2 outcome
  · obtain ⟨configured, known, uses⟩ := before admin given
    exact ⟨configured, known, uses⟩
  · refine AccountService.reconciled_start given ?_
    intro user among apart active
    simp only [keepsOneLocal, given, Option.all_some, List.all_eq_true] at permitted
    simpa [apart, active] using permitted user among

/-- The configured pair is the only one that is accepted, while its account is active. -/
theorem one_local_account {hasher : PasswordHasher Hash} {accounts : Accounts Hash}
    {service : AccountService Hash} {username password : String}
    (reached : (accountService hasher).Reaches
      (fun service label => service.keepsOneLocal label) (.stopped accounts) service)
    (given : service.settings.admin = some (username, password)) (name attempt : String) :
    Accepts hasher service.accounts name attempt ↔
      name = username ∧ attempt = password ∧
        ∃ user ∈ service.accounts.users.rows, user.username = username ∧ user.active = true := by
  have reconciled := @Transition.Reaches.invariant _ _ _ _ _ _
    (fun service => ∀ admin, service.settings.admin = some admin → service.Reconciled hasher admin)
    reached (fun admin given => by cases given)
    (fun before label after permitted stepped holds =>
      AccountService.reconciled_step holds permitted stepped)
  exact (reconciled (username, password) given).configured.accepts_iff name attempt

namespace OneLocal

def settings (username password : String) : AdminSettings :=
  { adminUsername := username, adminPassword := password }

/-- The service is deployed, and deployed again with other settings. -/
def redeployed (first second : AdminSettings) : List AccountLabel :=
  [.start first none "salt", .start second none "pepper"]

end OneLocal

/-- The renamed administrator's old account still signs in. -/
theorem not_one_local_account : ¬ ∀ (hasher : PasswordHasher (String × String))
    (accounts : Accounts (String × String)) (service : AccountService (String × String))
    (username password : String),
    (accountService hasher).Reaches (fun _ _ => True) (.stopped accounts) service →
      service.settings.admin = some (username, password) → ∀ name attempt,
        Accepts hasher service.accounts name attempt → name = username ∧ attempt = password := by
  intro claimed
  have runs : ((accountService Sample.hasher).runUnder (fun _ _ => true)
      (.stopped (Sample.office .empty none).accounts) (OneLocal.redeployed
        (OneLocal.settings "admin" "first password") (OneLocal.settings "root" "second password"))).any
      (fun service => decide (service.settings.admin = some ("root", "second password") ∧
        (service.accounts.users.named "admin").any (fun user => user.active &&
          Sample.hasher.verifyPassword user.passwordHash "first password") = true)) = true := by
    decide +kernel
  obtain ⟨service, ran, ended⟩ := (Option.any_eq_true _ _).mp runs
  obtain ⟨given, kept⟩ := of_decide_eq_true ended
  obtain ⟨user, named, accepted⟩ := (Option.any_eq_true _ _).mp kept
  obtain ⟨active, verified⟩ := Bool.and_eq_true_iff.mp accepted
  have same := claimed Sample.hasher _ service _ _
    ((Transition.Reaches.of_runUnder ran).mono fun _ _ _ => trivial) given "admin" "first password"
    (accepts_iff.mpr ⟨user, named, active, verified⟩)
  exact absurd same.1 (by decide)

/-- The password is rotated: only the new one is accepted. -/
theorem one_local_account_rotated : ∃ service : AccountService (String × String),
    Accepts Sample.hasher service.accounts "admin" "second password" ∧
      ¬ Accepts Sample.hasher service.accounts "admin" "first password" := by
  have runs : ((accountService Sample.hasher).runUnder
      (fun service label => service.keepsOneLocal label)
      (.stopped (Sample.office .empty none).accounts) (OneLocal.redeployed
        (OneLocal.settings "admin" "first password")
        (OneLocal.settings "admin" "second password"))).any
      (fun service => decide (service.settings.admin = some ("admin", "second password") ∧
        ∃ user ∈ service.accounts.users.rows, user.username = "admin" ∧ user.active = true)) =
      true := by
    decide +kernel
  obtain ⟨service, ran, ended⟩ := (Option.any_eq_true _ _).mp runs
  obtain ⟨given, active⟩ := of_decide_eq_true ended
  have accepts := one_local_account (Transition.Reaches.of_runUnder ran) given
  refine ⟨service, (accepts "admin" "second password").mpr ⟨rfl, rfl, active⟩, fun accepted => ?_⟩
  exact absurd ((accepts "admin" "first password").mp accepted).2.1 (by decide)

end AptlyGui
