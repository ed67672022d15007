import AptlyGui.Database.Model
import Mathlib.Data.List.Nodup

/-!
# Accounts

`UserRole` and `User` of `db/models.py`, `auth/passwords.py`, and the table of
users.  Usernames are unique, which is part of the table's type.
-/

namespace AptlyGui

inductive UserRole where
  | viewer
  | operator
  | admin
  deriving DecidableEq, Repr

namespace UserRole

def text : UserRole → String
  | viewer => "viewer"
  | operator => "operator"
  | admin => "admin"

def rank : UserRole → Nat
  | viewer => 0
  | operator => 1
  | admin => 2

def can (role required : UserRole) : Bool := required.rank ≤ role.rank

/-- `UserRole(value)`; `none` stands for `ValueError`. -/
def ofText? (value : String) : Option UserRole :=
  [viewer, operator, admin].find? fun role => role.text = value

end UserRole

/-- `_valid_role` -/
def validRole (value : String) : UserRole := (UserRole.ofText? value).getD .viewer

/-- `User.source` -/
inductive AccountSource where
  | localPassword
  | oidc
  deriving DecidableEq, Repr

/-- A person who can sign in, locally or through the identity provider. -/
structure User (Hash : Type) where
  id : Nat := 0
  username : String
  passwordHash : Option Hash := none
  role : UserRole := .viewer
  active : Bool := true
  source : AccountSource := .localPassword
  lastLogin : Option Time := none
  deriving DecidableEq, Repr

variable {Hash : Type}

def User.can (user : User Hash) (required : UserRole) : Bool :=
  user.active && user.role.can required

instance : Keyed (User Hash) := ⟨User.id, fun key row => { row with id := key }, fun _ _ => rfl⟩

/-! ## Passwords -/

/-- argon2: a hash verifies exactly the password it was made from, whatever the salt. -/
structure PasswordHasher (Hash : Type) where
  hash : (salt password : String) → Hash
  verify : Hash → String → Bool
  verify_hash : ∀ salt password other, verify (hash salt password) other = true ↔ other = password

/-- `verify_password`; an OIDC account has no local password, so nothing can match it. -/
def PasswordHasher.verifyPassword (hasher : PasswordHasher Hash) (passwordHash : Option Hash)
    (password : String) : Bool :=
  match passwordHash with
  | none => false
  | some passwordHash => hasher.verify passwordHash password

def minLength : Nat := 10

/-- `describe_weakness(password) == "too_short"` -/
def tooShort (password : String) : Bool := password.length < minLength

/-! ## The table of users -/

/-- What one assignment, or `_reconcile_admin`, does to a stored user. -/
inductive UserChange (Hash : Type) where
  | role (newRole : UserRole)
  | active (wanted : Bool)
  | lastLogin (time : Time)
  | configure (hash : Hash)
  deriving DecidableEq, Repr

/-- `_reconcile_admin` sets four columns: configuration wins. -/
def UserChange.apply (change : UserChange Hash) (user : User Hash) : User Hash :=
  match change with
  | .role newRole => { user with role := newRole }
  | .active wanted => { user with active := wanted }
  | .lastLogin time => { user with lastLogin := some time }
  | .configure hash =>
      { user with
        passwordHash := some hash
        role := .admin
        active := true
        source := .localPassword }

@[simp]
theorem UserChange.username_apply (change : UserChange Hash) (user : User Hash) :
    (change.apply user).username = user.username := by
  cases change <;> rfl

@[simp]
theorem UserChange.id_apply (change : UserChange Hash) (user : User Hash) :
    (change.apply user).id = user.id := by
  cases change <;> rfl

structure UserTable (Hash : Type) where
  table : Table (User Hash)
  unique : (table.rows.map User.username).Nodup

namespace UserTable

def empty : UserTable Hash := ⟨.empty, by simp [Table.empty]⟩

def rows (users : UserTable Hash) : List (User Hash) := users.table.rows

/-- `session.get(User, id)` -/
def get? (users : UserTable Hash) (id : Nat) : Option (User Hash) := users.table.get? id

/-- `select(User).where(User.username == username)` -/
def named (users : UserTable Hash) (username : String) : Option (User Hash) :=
  users.rows.find? fun user => user.username = username

/-- The insertion fails when the username is taken. -/
def insert? (users : UserTable Hash) (user : User Hash) : Option (UserTable Hash) :=
  if fresh : user.username ∉ users.rows.map User.username then
    some ⟨users.table.insert user, by
      have unused : (Keyed.withId users.table.nextId user).username ∉
        users.table.rows.map User.username := fresh
      simp only [Table.insert, List.map_append, List.map_cons, List.map_nil]
      exact List.Nodup.append users.unique (by simp) (by simpa [List.Disjoint] using unused)⟩
  else none

theorem usernames_update (users : UserTable Hash) (id : Nat) (change : UserChange Hash) :
    (users.table.update id change.apply).rows.map User.username =
      users.table.rows.map User.username := by
  simp only [Table.update, List.map_map]
  refine List.map_congr_left fun user _ => ?_
  by_cases here : Keyed.id user = id
  · simp only [Function.comp_apply, if_pos here]
    exact change.username_apply user
  · simp only [Function.comp_apply, if_neg here]

def update (users : UserTable Hash) (id : Nat) (change : UserChange Hash) : UserTable Hash :=
  ⟨users.table.update id change.apply, users.usernames_update id change ▸ users.unique⟩

theorem get?_eq_some_iff {users : UserTable Hash} {id : Nat} {user : User Hash} :
    users.get? id = some user ↔ user ∈ users.rows ∧ user.id = id :=
  Table.get?_eq_some_iff

theorem named_eq_some_iff {users : UserTable Hash} {username : String} {user : User Hash} :
    users.named username = some user ↔ user ∈ users.rows ∧ user.username = username := by
  constructor
  · intro found
    exact ⟨List.mem_of_find?_eq_some found, by simpa using List.find?_some found⟩
  · rintro ⟨listed, rfl⟩
    cases found : users.named user.username with
    | none => exact absurd (List.find?_eq_none.mp found user listed) (by simp)
    | some other =>
        have also := List.mem_of_find?_eq_some found
        have same : other.username = user.username := by simpa using List.find?_some found
        rw [List.inj_on_of_nodup_map users.unique also listed same]

theorem named_eq_none_iff {users : UserTable Hash} {username : String} :
    users.named username = none ↔ username ∉ users.rows.map User.username := by
  simp [named]

theorem get?_update {users : UserTable Hash} {id other : Nat} {change : UserChange Hash} :
    (users.update id change).get? other =
      if other = id then (users.get? id).map change.apply else users.get? other := by
  simp only [get?, update, Table.get?_update]
  split
  · cases found : users.table.get? id with
    | none => rfl
    | some user =>
        have keyed : user.id = id := Table.id_of_get? found
        subst keyed
        cases change <;> rfl
  · rfl

/-- A row after a change is a row before it, or the changed one. -/
theorem mem_update {users : UserTable Hash} {id : Nat} {change : UserChange Hash}
    {user : User Hash} : user ∈ (users.update id change).rows ↔
      ∃ old ∈ users.rows, user = if old.id = id then change.apply old else old := by
  simp only [update, rows, Table.update, List.mem_map]
  constructor
  · rintro ⟨old, listed, rfl⟩
    refine ⟨old, listed, ?_⟩
    by_cases here : old.id = id
    · subst here
      cases change <;> simp only [if_true] <;> exact if_pos rfl
    · exact (if_neg here).trans (if_neg here).symm
  · rintro ⟨old, listed, rfl⟩
    refine ⟨old, listed, ?_⟩
    by_cases here : old.id = id
    · subst here
      cases change <;> simp only [if_true] <;> exact if_pos rfl
    · exact (if_neg here).trans (if_neg here).symm

theorem exists_insert {users : UserTable Hash} {user : User Hash}
    (fresh : users.named user.username = none) : ∃ after, users.insert? user = some after := by
  unfold insert?
  rw [dif_pos (named_eq_none_iff.mp fresh)]
  exact ⟨_, rfl⟩

theorem mem_insert {users after : UserTable Hash} {added : User Hash}
    (inserted : users.insert? added = some after) {user : User Hash} :
    user ∈ after.rows ↔
      user ∈ users.rows ∨ user = { added with id := users.table.nextId } := by
  unfold insert? at inserted
  split at inserted
  · cases inserted
    simp only [rows, Table.insert, List.mem_append, List.mem_singleton]
    exact Iff.rfl
  · cases inserted

end UserTable

end AptlyGui
