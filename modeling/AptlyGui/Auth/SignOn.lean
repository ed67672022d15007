import AptlyGui.Auth.Service

/-!
# Whom the provider signs in

`oidc_callback` looks an account up by its username alone.  It re-applies the
role to an account of the provider's, but signs in whichever account it found.
-/

namespace AptlyGui

open AccountProgram

variable {Hash : Type}

/-! ## The callback -/

/-- The callback runs alone, and the provider answers with a token and these claims. -/
def CallbackSignsIn (client : OidcClient) (stored : SessionData) (code state : Option String)
    (claims : Claims) (accounts : Accounts Hash) (uid : Nat) (after : Accounts Hash) : Prop :=
  ∃ token events url, (oidcCallback (some client) stored code state).run accountSemantics
    (.token token :: .claims claims :: events) accounts = some (.done (.signIn uid url), after)

/-- The request carries a code and the state that its session cookie remembers. -/
def Verified (stored : SessionData) (code state : Option String) : Prop :=
  code.getD "" ≠ "" ∧ csrfMatches stored.oidcState (state.getD "") = .ok true

/-- Whom the claims name, and as what. -/
def Asserts (client : OidcClient) (claims : Claims) (username : String) (role : UserRole) : Prop :=
  client.usernameFrom claims = .ok username ∧ client.roleFrom claims = .ok role

/-- A handler that has ended takes no further step. -/
theorem run_done_ne {response : AccountResponse} {uid : Nat} {url : String}
    {events : List AccountEvent} {accounts after : Accounts Hash}
    (other : response ≠ .signIn uid url) :
    (.done response : AccountProgram Hash AccountResponse).run accountSemantics events accounts ≠
      some (.done (.signIn uid url), after) := by
  cases events with
  | nil =>
      intro ran
      cases ran
      exact other rfl
  | cons event rest =>
      intro ran
      cases ran

theorem run_raised_ne {error : AccountExn} {response : AccountResponse}
    {events : List AccountEvent} {accounts after : Accounts Hash} :
    (.raised error : AccountProgram Hash AccountResponse).run accountSemantics events accounts ≠
      some (.done response, after) := by
  cases events with
  | nil =>
      intro ran
      cases ran
  | cons event rest =>
      intro ran
      cases ran

/-- The callback once it knows the claims. -/
theorem oidcCallback_run {client : OidcClient} {stored : SessionData} {code state : Option String}
    {claims : Claims} {accounts : Accounts Hash} {token : String} {events : List AccountEvent}
    (verified : Verified stored code state) :
    (oidcCallback (some client) stored code state).run accountSemantics
        (.token token :: .claims claims :: events) accounts =
      (match client.usernameFrom claims, client.roleFrom claims with
        | .ok username, .ok role => admitOidc username role stored.oidcNext
        | .error (.oidcError _), _ => page "login.html"
        | .error error, _ => .raised error
        | .ok _, .error (.oidcError _) => page "login.html"
        | .ok _, .error error => .raised error).run accountSemantics events accounts := by
  obtain ⟨present, matched⟩ := verified
  obtain ⟨code, rfl⟩ : ∃ given, code = some given := by
    cases code with
    | none => exact absurd rfl present
    | some given => exact ⟨given, rfl⟩
  have kept : (some code).filter (· ≠ "") = some code := by
    simpa [Option.filter] using present
  unfold oidcCallback
  rw [kept]
  simp only [matched]
  change Coroutine.run accountSemantics (Coroutine.bind (Coroutine.attempt
    ((Coroutine.ofExcept (client.usernameFrom claims) : AccountProgram Hash String).bind fun username =>
      (Coroutine.ofExcept (client.roleFrom claims) : AccountProgram Hash UserRole).bind fun role =>
        .done (username, role))) _) events accounts = _
  cases client.usernameFrom claims with
  | error error => cases error <;> rfl
  | ok username =>
      cases client.roleFrom claims with
      | error error => cases error <;> rfl
      | ok role => rfl

theorem not_callback_unverified {client : OidcClient} {stored : SessionData}
    {code state : Option String} {accounts after : Accounts Hash} {events : List AccountEvent}
    {uid : Nat} {url : String} (unverified : ¬ Verified stored code state) :
    (oidcCallback (some client) stored code state).run accountSemantics events accounts ≠
      some (.done (.signIn uid url), after) := by
  unfold oidcCallback
  cases present : code.filter (· ≠ "") with
  | none => exact run_done_ne (by simp)
  | some given =>
      have written : code.getD "" ≠ "" := by
        obtain ⟨rfl, written⟩ := Option.filter_eq_some_iff.mp present
        simpa using written
      dsimp only
      cases matched : csrfMatches stored.oidcState (state.getD "") with
      | error error => exact run_raised_ne
      | ok same =>
          cases same with
          | false => exact run_done_ne (by simp)
          | true => exact absurd ⟨written, matched⟩ unverified

/-- The callback signs somebody in when the claims name them and their admission ends so. -/
theorem callbackSignsIn_iff {client : OidcClient} {stored : SessionData} {code state : Option String}
    {claims : Claims} {accounts after : Accounts Hash} {uid : Nat} :
    CallbackSignsIn client stored code state claims accounts uid after ↔
      Verified stored code state ∧ ∃ username role, Asserts client claims username role ∧
        ∃ url, (admitOidc username role stored.oidcNext).Ends accounts (.ok (.signIn uid url))
          after := by
  constructor
  · rintro ⟨token, events, url, ran⟩
    by_cases verified : Verified stored code state
    · rw [oidcCallback_run verified] at ran
      cases named : client.usernameFrom claims with
      | error error =>
          rw [named] at ran
          cases error with
          | oidcError message => exact absurd ran (run_done_ne (by simp))
          | _ => exact absurd ran run_raised_ne
      | ok username =>
          cases roled : client.roleFrom claims with
          | error error =>
              rw [named, roled] at ran
              cases error with
              | oidcError message => exact absurd ran (run_done_ne (by simp))
              | _ => exact absurd ran run_raised_ne
          | ok role =>
              rw [named, roled] at ran
              exact ⟨verified, username, role, ⟨named, roled⟩, url, events, ran⟩
    · exact absurd ran (not_callback_unverified verified)
  · rintro ⟨verified, username, role, ⟨named, roled⟩, url, events, ran⟩
    refine ⟨"", events, url, ?_⟩
    rw [oidcCallback_run verified, named, roled]
    exact ran

/-! ## Admission -/

/-- What a successful sign-in stores. -/
theorem writeAll_admission (accounts : Accounts Hash) (user : User Hash) (role : UserRole)
    (time : Time) (entry : AuditEntry) : ∃ after : Accounts Hash,
    accounts.writeAll 0 ((if user.source = .oidc then assignRole user role else []) ++
        [.change user.id (.lastLogin time), .addAudit entry]) = some (after, 0) ∧
      after.users.get? user.id = (accounts.users.get? user.id).map fun row =>
        { row with
          role := if user.source = .oidc ∧ user.role ≠ role then role else row.role
          lastLogin := some time } := by
  by_cases assigned : user.source = .oidc ∧ user.role ≠ role
  · refine ⟨{ accounts with
      users := (accounts.users.update user.id (.role role)).update user.id (.lastLogin time)
      audit := accounts.audit ++ [entry] }, ?_, ?_⟩
    · rw [if_pos assigned.1, assignRole, if_neg assigned.2]
      rfl
    · simp only [UserTable.get?_update, if_true, if_pos assigned, Option.map_map]
      rfl
  · refine ⟨{ accounts with
      users := accounts.users.update user.id (.lastLogin time)
      audit := accounts.audit ++ [entry] }, ?_, ?_⟩
    · have nothing : (if user.source = .oidc then assignRole user role else []) = [] := by
        split
        · rename_i provided
          exact if_pos (by_contra fun changed => assigned ⟨provided, changed⟩)
        · rfl
      rw [nothing]
      rfl
    · simp only [UserTable.get?_update, if_true, if_neg assigned]
      rfl

/-- The account that the username belongs to is signed in if it is active. -/
theorem ends_admitOidc_signIn {username : String} {role : UserRole} {next : Option String}
    {accounts after : Accounts Hash} {uid : Nat} :
    (∃ url, (admitOidc username role next).Ends accounts (.ok (.signIn uid url)) after) ↔
      ∃ user, accounts.users.named username = some user ∧ user.active = true ∧ user.id = uid ∧
        ∃ stored, accounts.writeAll 0
            ((if user.source = .oidc then assignRole user role else []) ++
              [.change user.id (.lastLogin accounts.clock),
                .addAudit { actor := username, action := "login", target := "oidc" }]) =
              some (stored, 0) ∧
          after = { stored with hasUsers := true } := by
  constructor
  · rintro ⟨url, ended⟩
    obtain ⟨found, middle, asked, ended⟩ := Coroutine.ends_bind_ok.mp ended
    obtain ⟨same, rfl⟩ := ends_userNamed.mp asked
    cases same
    cases named : middle.users.named username with
    | none =>
        rw [named] at ended
        obtain ⟨added, stored, -, ended⟩ := Coroutine.ends_bind_ok.mp ended
        obtain ⟨⟨⟩, -⟩ := Coroutine.ends_done.mp ended
    | some user =>
        rw [named] at ended
        dsimp only at ended
        cases active : user.active with
        | false =>
            rw [if_neg (by simp [active])] at ended
            obtain ⟨added, stored, -, ended⟩ := Coroutine.ends_bind_ok.mp ended
            obtain ⟨⟨⟩, -⟩ := Coroutine.ends_done.mp ended
        | true =>
            rw [if_pos active] at ended
            obtain ⟨time, before, read, storing⟩ := Coroutine.ends_bind_ok.mp ended
            obtain ⟨same, rfl⟩ := ends_now.mp read
            cases same
            obtain ⟨added, stored, committed, refreshing⟩ := Coroutine.ends_bind_ok.mp storing
            obtain ⟨row, later, refreshed, remembering⟩ := Coroutine.ends_bind_ok.mp refreshing
            obtain ⟨present, rfl⟩ := ends_refresh_ok.mp refreshed
            obtain ⟨_, last, remembered, finished⟩ := Coroutine.ends_bind_ok.mp remembering
            obtain ⟨-, rfl⟩ := ends_rememberUsers.mp remembered
            obtain ⟨same, rfl⟩ := Coroutine.ends_done.mp finished
            cases same
            obtain ⟨after, wrote, -⟩ := writeAll_admission before user role before.clock
              { actor := username, action := "login", target := "oidc" }
            have committed := ends_store_ok.mp committed
            cases wrote.symm.trans committed
            refine ⟨user, rfl, active, ?_, later, wrote, rfl⟩
            exact (Table.id_of_get? present).symm
  · rintro ⟨user, named, active, rfl, stored, committed, rfl⟩
    obtain ⟨middle, wrote, kept⟩ := writeAll_admission accounts user role accounts.clock
      { actor := username, action := "login", target := "oidc" }
    cases wrote.symm.trans committed
    obtain ⟨listed, -⟩ := UserTable.named_eq_some_iff.mp named
    rw [UserTable.get?_eq_some_iff.mpr ⟨listed, rfl⟩] at kept
    refine ⟨safeNext (next.getD "/"), ?_⟩
    refine Coroutine.ends_bind_ok.mpr ⟨_, accounts, ends_userNamed.mpr ⟨rfl, rfl⟩, ?_⟩
    rw [named]
    dsimp only
    rw [if_pos active]
    refine Coroutine.ends_bind_ok.mpr ⟨_, accounts, ends_now.mpr ⟨rfl, rfl⟩, ?_⟩
    refine Coroutine.ends_bind_ok.mpr ⟨0, stored, ends_store_ok.mpr wrote, ?_⟩
    refine Coroutine.ends_bind_ok.mpr ⟨_, stored, ends_refresh_ok.mpr ⟨kept, rfl⟩, ?_⟩
    refine Coroutine.ends_bind_ok.mpr ⟨(), _, ends_rememberUsers.mpr ⟨rfl, rfl⟩, ?_⟩
    exact Coroutine.ends_done.mpr ⟨rfl, rfl⟩

/-! ## Whose session it is -/

/-- Nobody but an account of the provider's is signed in, in the role that the claims give,
exactly when no active local account has the asserted username. -/
theorem single_sign_on_iff {client : OidcClient} {stored : SessionData} {code state : Option String}
    {claims : Claims} {accounts : Accounts Hash} :
    (∀ uid after, CallbackSignsIn client stored code state claims accounts uid after →
      ∃ user, after.users.get? uid = some user ∧ user.source = .oidc ∧
        client.roleFrom claims = .ok user.role) ↔
    (Verified stored code state → ∀ username role, Asserts client claims username role →
      ∀ user ∈ accounts.users.rows, user.username = username → user.active = true →
        user.source = .oidc) := by
  constructor
  · intro external verified username role asserted user listed named active
    obtain ⟨saved, wrote, kept⟩ := writeAll_admission accounts user role accounts.clock
      { actor := username, action := "login", target := "oidc" }
    obtain ⟨row, found, provided, -⟩ := external user.id { saved with hasUsers := true }
      (callbackSignsIn_iff.mpr ⟨verified, username, role, asserted, ends_admitOidc_signIn.mpr
        ⟨user, UserTable.named_eq_some_iff.mpr ⟨listed, named⟩, active, rfl, saved, wrote, rfl⟩⟩)
    rw [UserTable.get?_eq_some_iff.mpr ⟨listed, rfl⟩] at kept
    cases found.symm.trans kept
    exact provided
  · intro condition uid after signedIn
    obtain ⟨verified, username, role, asserted, admitted⟩ := callbackSignsIn_iff.mp signedIn
    obtain ⟨user, named, active, rfl, saved, committed, rfl⟩ := ends_admitOidc_signIn.mp admitted
    obtain ⟨listed, called⟩ := UserTable.named_eq_some_iff.mp named
    have provided := condition verified username role asserted user listed called active
    obtain ⟨middle, wrote, kept⟩ := writeAll_admission accounts user role accounts.clock
      { actor := username, action := "login", target := "oidc" }
    cases wrote.symm.trans committed
    rw [UserTable.get?_eq_some_iff.mpr ⟨listed, rfl⟩] at kept
    refine ⟨_, kept, provided, ?_⟩
    rw [asserted.2]
    by_cases same : user.role = role
    · simp [same]
    · simp [provided, same]

namespace SignOn

def provider : OidcClient where
  config := { issuer := "https://id.example.org", clientId := "aptly-gui" }
  shown := fun _ => ""

/-- The provider calls a visitor `admin`. -/
def claims : Claims := .ofList [("sub", .str "4711"), ("preferred_username", .str "admin")]

/-- The configured administrator. -/
def accounts : Accounts (String × String) :=
  (Sample.office (Sample.table [localAdmin "admin" ("salt", "password")]) (some provider)).accounts

def session : SessionData := { oidcState := some "state" }

end SignOn

theorem not_single_sign_on : ¬ ∀ (client : OidcClient) (stored : SessionData)
    (code state : Option String) (claims : Claims) (accounts after : Accounts (String × String))
    (uid : Nat), CallbackSignsIn client stored code state claims accounts uid after →
      ∃ user, after.users.get? uid = some user ∧ user.source = .oidc ∧
        client.roleFrom claims = .ok user.role := by
  intro claimed
  have runs : ((oidcCallback (some SignOn.provider) SignOn.session (some "code") (some "state")).run
      accountSemantics (.token "token" :: .claims SignOn.claims :: List.replicate 5 .proceed)
      SignOn.accounts).any (fun result => decide (signedIn? result.1 = some 1 ∧
        (result.2.users.get? 1).map User.source = some .localPassword)) = true := by
    decide +kernel
  obtain ⟨⟨program, after⟩, ran, ended⟩ := (Option.any_eq_true _ _).mp runs
  obtain ⟨signedIn, source⟩ := of_decide_eq_true ended
  obtain ⟨url, rfl⟩ := signedIn?_eq_some signedIn
  obtain ⟨user, found, provided, -⟩ := claimed SignOn.provider SignOn.session _ _ SignOn.claims
    SignOn.accounts after 1 ⟨"token", _, url, ran⟩
  simp [found, provided] at source

end AptlyGui
