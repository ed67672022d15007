import AptlyGui.Auth.Oidc
import AptlyGui.Library.Coroutine

/-!
# What an account handler awaits

The state that sign-in and administration share, the operations on it, and how
each can go.  As with jobs, other requests run between any two operations.
-/

namespace AptlyGui

variable {Hash : Type}

structure Accounts (Hash : Type) where
  users : UserTable Hash
  audit : List AuditEntry
  /-- the `language` row of `app_settings` -/
  storedLanguage : Option String
  /-- `app.state.has_users` -/
  hasUsers : Bool
  /-- `app.state.language` -/
  language : String
  clock : Time

/-- One change that a commit stores. -/
inductive AccountWrite (Hash : Type) where
  | addUser (user : User Hash)
  | change (id : Nat) (change : UserChange Hash)
  | addAudit (entry : AuditEntry)
  | setLanguage (value : String)

inductive AccountOp (Hash : Type) where
  /-- `_session_user`, and `has_users` as the guard reads it next -/
  | sessionUser (uid : Option Nat)
  | getUser (id : Nat)
  | userNamed (username : String)
  /-- the query of `_would_orphan_admins` -/
  | otherAdmins (id : Nat)
  /-- `OidcClient.exchange` -/
  | exchange (code verifier : String)
  /-- `OidcClient.userinfo` -/
  | userinfo (token : String)
  /-- `datetime.now(UTC)` -/
  | now
  | commit (writes : List (AccountWrite Hash))
  /-- `session.refresh(user)` -/
  | refresh (id : Nat)
  /-- `app.state.has_users = True` -/
  | rememberUsers
  /-- `app.state.language = language` -/
  | showLanguage (value : String)

def AccountOp.Ret : AccountOp Hash → Type
  | .sessionUser _ => Option (User Hash) × Bool
  | .getUser _ => Option (User Hash)
  | .userNamed _ => Option (User Hash)
  | .otherAdmins _ => List (User Hash)
  | .exchange _ _ => String
  | .userinfo _ => Claims
  | .now => Time
  | .commit _ => Nat
  | .refresh _ => User Hash
  | .rememberUsers => Unit
  | .showLanguage _ => Unit

abbrev AccountAsync (Hash : Type) : Interface := ⟨AccountOp Hash, AccountOp.Ret, AccountExn⟩

abbrev AccountProgram (Hash : Type) := Coroutine (AccountAsync Hash)

/-- How the surroundings answer: only the provider's answers are free. -/
inductive AccountEvent where
  | proceed
  | token (token : String)
  | claims (claims : Claims)
  /-- the client raises `OidcError` -/
  | refused (message : String)
  /-- `httpx` raises, or the answer is not JSON -/
  | unreachable

namespace UserTable

/-- The other active administrators. -/
def otherAdmins (users : UserTable Hash) (id : Nat) : List (User Hash) :=
  users.rows.filter fun user => user.role = .admin ∧ user.active = true ∧ user.id ≠ id

theorem mem_otherAdmins {users : UserTable Hash} {id : Nat} {user : User Hash} :
    user ∈ users.otherAdmins id ↔
      user ∈ users.rows ∧ user.role = .admin ∧ user.active = true ∧ user.id ≠ id := by
  simp [otherAdmins]

end UserTable

namespace Accounts

/-- One write; the id is that of the user added last. -/
def write (accounts : Accounts Hash) (added : Nat) :
    AccountWrite Hash → Option (Accounts Hash × Nat)
  | .addUser user =>
      (accounts.users.insert? user).map fun users =>
        ({ accounts with users := users }, accounts.users.table.nextId)
  | .change id change => some ({ accounts with users := accounts.users.update id change }, added)
  | .addAudit entry => some ({ accounts with audit := accounts.audit ++ [entry] }, added)
  | .setLanguage value => some ({ accounts with storedLanguage := some value }, added)

/-- A commit stores all its changes, or none because a username is taken. -/
def writeAll (accounts : Accounts Hash) (added : Nat) :
    List (AccountWrite Hash) → Option (Accounts Hash × Nat)
  | [] => some (accounts, added)
  | change :: rest =>
      (accounts.write added change).bind fun (next, added) => next.writeAll added rest

/-- `_session_user` -/
def sessionUser (accounts : Accounts Hash) (uid : Option Nat) : Option (User Hash) :=
  match uid with
  | none => none
  | some id =>
      if id = 0 then none
      else (accounts.users.get? id).filter fun user => user.active

end Accounts

/-- An operation on the database or in memory: it only waits. -/
def answered {α : Type} (accounts : Accounts Hash) (outcome : Except AccountExn α) :
    AccountEvent → Option (Except AccountExn α × Accounts Hash)
  | .proceed => some (outcome, accounts)
  | _ => none

def AccountOp.perform : (op : AccountOp Hash) → AccountEvent → Accounts Hash →
    Option (Except AccountExn op.Ret × Accounts Hash)
  | .sessionUser uid, event, accounts =>
      answered accounts (.ok (accounts.sessionUser uid, accounts.hasUsers)) event
  | .getUser id, event, accounts => answered accounts (.ok (accounts.users.get? id)) event
  | .userNamed username, event, accounts =>
      answered accounts (.ok (accounts.users.named username)) event
  | .otherAdmins id, event, accounts => answered accounts (.ok (accounts.users.otherAdmins id)) event
  | .exchange _ _, event, accounts =>
      match event with
      | .token token => some (.ok token, accounts)
      | .refused message => some (.error (.oidcError message), accounts)
      | .unreachable => some (.error .transport, accounts)
      | _ => none
  | .userinfo _, event, accounts =>
      match event with
      | .claims claims => some (.ok claims, accounts)
      | .refused message => some (.error (.oidcError message), accounts)
      | .unreachable => some (.error .transport, accounts)
      | _ => none
  | .now, event, accounts => answered accounts (.ok accounts.clock) event
  | .commit writes, event, accounts =>
      match accounts.writeAll 0 writes with
      | some (after, added) => answered after (.ok added) event
      | none => answered accounts (.error .integrityError) event
  | .refresh id, event, accounts =>
      match accounts.users.get? id with
      | some user => answered accounts (.ok user) event
      | none => answered accounts (.error .invalidRequest) event
  | .rememberUsers, event, accounts => answered { accounts with hasUsers := true } (.ok ()) event
  | .showLanguage value, event, accounts =>
      answered { accounts with language := value } (.ok ()) event

def accountSemantics : Semantics (AccountAsync Hash) (Accounts Hash) AccountEvent :=
  ⟨AccountOp.perform⟩

theorem answered_eq_some {α : Type} {accounts after : Accounts Hash}
    {outcome reached : Except AccountExn α} {event : AccountEvent} :
    answered accounts outcome event = some (reached, after) ↔
      event = .proceed ∧ reached = outcome ∧ after = accounts := by
  cases event <;> simp [answered, eq_comm]

/-- What an operation does to the accounts: nothing, one commit, or an assignment in memory. -/
theorem AccountOp.perform_cases {op : AccountOp Hash} {event : AccountEvent}
    {accounts after : Accounts Hash} {outcome : Except AccountExn op.Ret}
    (performed : op.perform event accounts = some (outcome, after)) :
    after = accounts ∨
      (∃ writes added, op = .commit writes ∧ accounts.writeAll 0 writes = some (after, added)) ∨
      (op = .rememberUsers ∧ after = { accounts with hasUsers := true }) ∨
      ∃ value, op = .showLanguage value ∧ after = { accounts with language := value } := by
  have answers {α : Type} {value reached : Except AccountExn α} {kept : Accounts Hash}
      (waited : answered kept value event = some (reached, after)) : after = kept :=
    (answered_eq_some.mp waited).2.2
  cases op with
  | commit writes =>
      simp only [perform] at performed
      split at performed
      · rename_i stored added committed
        obtain rfl := answers performed
        exact .inr (.inl ⟨writes, added, rfl, committed⟩)
      · exact .inl (answers performed)
  | exchange code verifier =>
      cases event <;> cases performed <;> exact .inl rfl
  | userinfo token =>
      cases event <;> cases performed <;> exact .inl rfl
  | refresh id =>
      simp only [perform] at performed
      split at performed
      · exact .inl (answers performed)
      · exact .inl (answers performed)
  | sessionUser uid => exact .inl (answers performed)
  | getUser id => exact .inl (answers performed)
  | userNamed username => exact .inl (answers performed)
  | otherAdmins id => exact .inl (answers performed)
  | now => exact .inl (answers performed)
  | rememberUsers => exact .inr (.inr (.inl ⟨rfl, answers performed⟩))
  | showLanguage value => exact .inr (.inr (.inr ⟨value, rfl, answers performed⟩))

/-- Only a commit touches the table of users. -/
theorem AccountOp.users_cases {op : AccountOp Hash} {event : AccountEvent}
    {accounts after : Accounts Hash} {outcome : Except AccountExn op.Ret}
    (performed : op.perform event accounts = some (outcome, after)) :
    after.users = accounts.users ∨
      ∃ writes added, op = .commit writes ∧ accounts.writeAll 0 writes = some (after, added) := by
  rcases perform_cases performed with rfl | committed | ⟨-, rfl⟩ | ⟨value, -, rfl⟩
  · exact .inl rfl
  · exact .inr committed
  · exact .inl rfl
  · exact .inl rfl

/-! ## Commits, write by write -/

namespace UserTable

/-- What one write does to the table of users. -/
def write? (users : UserTable Hash) : AccountWrite Hash → Option (UserTable Hash)
  | .addUser user => users.insert? user
  | .change id change => some (users.update id change)
  | .addAudit _ => some users
  | .setLanguage _ => some users

/-- The check holds of each write on the table that it finds. -/
def eachWrite (check : UserTable Hash → AccountWrite Hash → Bool) (users : UserTable Hash) :
    List (AccountWrite Hash) → Bool
  | [] => true
  | write :: rest => check users write && (users.write? write).all fun next => next.eachWrite check rest

end UserTable

theorem Accounts.write_users {accounts after : Accounts Hash} {added last : Nat}
    {write : AccountWrite Hash} (wrote : accounts.write added write = some (after, last)) :
    accounts.users.write? write = some after.users := by
  cases write with
  | addUser user =>
      obtain ⟨users, inserted, same⟩ := Option.map_eq_some_iff.mp wrote
      cases same
      exact inserted
  | change id change =>
      cases wrote
      rfl
  | addAudit entry =>
      cases wrote
      rfl
  | setLanguage value =>
      cases wrote
      rfl

/-- What each checked write keeps, the commit keeps. -/
theorem Accounts.writeAll_keeps {holds : UserTable Hash → Prop}
    {check : UserTable Hash → AccountWrite Hash → Bool} {writes : List (AccountWrite Hash)}
    (single : ∀ write ∈ writes, ∀ users after : UserTable Hash, check users write = true →
      users.write? write = some after → holds users → holds after)
    {accounts after : Accounts Hash} {added last : Nat}
    (checked : accounts.users.eachWrite check writes = true)
    (stored : accounts.writeAll added writes = some (after, last))
    (before : holds accounts.users) : holds after.users := by
  induction writes generalizing accounts added with
  | nil =>
      cases stored
      exact before
  | cons write rest inductionHypothesis =>
      obtain ⟨⟨next, id⟩, wrote, stored⟩ := Option.bind_eq_some_iff.mp stored
      have written := write_users wrote
      obtain ⟨first, later⟩ := Bool.and_eq_true_iff.mp checked
      rw [written] at later
      have middle := single write (by simp) accounts.users next.users first written before
      exact inductionHypothesis (fun other listed => single other (List.mem_cons_of_mem _ listed))
        later stored middle

theorem Accounts.writeAll_hasUsers {writes : List (AccountWrite Hash)}
    {accounts after : Accounts Hash} {added last : Nat}
    (stored : accounts.writeAll added writes = some (after, last)) :
    after.hasUsers = accounts.hasUsers := by
  induction writes generalizing accounts added with
  | nil =>
      cases stored
      rfl
  | cons write rest inductionHypothesis =>
      obtain ⟨⟨next, id⟩, wrote, stored⟩ := Option.bind_eq_some_iff.mp stored
      have kept : next.hasUsers = accounts.hasUsers := by
        cases write with
        | addUser user =>
            obtain ⟨users, -, same⟩ := Option.map_eq_some_iff.mp wrote
            cases same
            rfl
        | change id change =>
            cases wrote
            rfl
        | addAudit entry =>
            cases wrote
            rfl
        | setLanguage value =>
            cases wrote
            rfl
      exact (inductionHypothesis stored).trans kept

/-- Once an account is known it stays known. -/
theorem AccountOp.hasUsers_of_perform {op : AccountOp Hash} {event : AccountEvent}
    {accounts after : Accounts Hash} {outcome : Except AccountExn op.Ret}
    (performed : op.perform event accounts = some (outcome, after))
    (known : accounts.hasUsers = true) : after.hasUsers = true := by
  rcases perform_cases performed with rfl | ⟨writes, added, -, stored⟩ | ⟨-, rfl⟩ | ⟨value, -, rfl⟩
  · exact known
  · exact (Accounts.writeAll_hasUsers stored).trans known
  · rfl
  · exact known

end AptlyGui
