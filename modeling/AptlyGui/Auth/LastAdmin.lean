import AptlyGui.Auth.Service

/-!
# The last administrator

`_would_orphan_admins` is asked before a commit and only by two of the three
handlers that change roles.  When its answer would still be the same at the
commit, and an OIDC sign-in is held to it too, an administrator remains.
-/

namespace AptlyGui

variable {Hash : Type}

namespace UserTable

/-- Somebody can administer the instance. -/
def HasAdmin (users : UserTable Hash) : Prop :=
  ∃ user ∈ users.rows, user.role = .admin ∧ user.active = true

instance (users : UserTable Hash) : Decidable users.HasAdmin :=
  inferInstanceAs (Decidable (∃ user ∈ users.rows, user.role = .admin ∧ user.active = true))

/-- What `_would_orphan_admins` answers on this table. -/
def wouldOrphan (users : UserTable Hash) (user : User Hash) (newRole : Option UserRole)
    (deactivating : Bool) : Bool :=
  decide (user.role = .admin) && decide (newRole ≠ some .admin) &&
    ((users.otherAdmins user.id).isEmpty && (deactivating || decide (newRole ≠ some .admin)))

/-- The question that belongs to a change of the stored user. -/
def orphanedBy (users : UserTable Hash) (id : Nat) (change : UserChange Hash) : Bool :=
  match users.get? id with
  | none => false
  | some user =>
      match change with
      | .role newRole => users.wouldOrphan user (some newRole) false
      | .active false => users.wouldOrphan user none true
      | _ => false

end UserTable

/-- Read while nobody else writes, the coroutine answers from the table. -/
theorem ends_wouldOrphanAdmins {user : User Hash} {newRole : Option UserRole} {deactivating : Bool}
    {accounts after : Accounts Hash} {outcome : Except AccountExn Bool} :
    (wouldOrphanAdmins user newRole deactivating).Ends accounts outcome after ↔
      outcome = .ok (accounts.users.wouldOrphan user newRole deactivating) ∧ after = accounts := by
  unfold wouldOrphanAdmins UserTable.wouldOrphan
  by_cases admin : user.role = .admin
  · by_cases kept : newRole = some .admin
    · simp [admin, kept]
    · simp only [admin, kept, ne_eq, not_true_eq_false, if_false, decide_true, not_false_eq_true,
        Bool.true_and]
      refine Coroutine.ends_bind.trans ?_
      simp [and_comm]
  · simp [admin]

namespace UserTable

variable {users : UserTable Hash}

theorem exists_other {user : User Hash} (newRole : Option UserRole) (deactivating : Bool)
    (admin : user.role = .admin) (lost : newRole ≠ some .admin)
    (spared : users.wouldOrphan user newRole deactivating = false) :
    ∃ other ∈ users.rows, other.role = .admin ∧ other.active = true ∧ other.id ≠ user.id := by
  have several : users.otherAdmins user.id ≠ [] := by
    simpa [wouldOrphan, admin, lost] using spared
  obtain ⟨other, among⟩ := List.exists_mem_of_ne_nil _ several
  exact ⟨other, mem_otherAdmins.mp among⟩

theorem HasAdmin.update {id : Nat} {change : UserChange Hash} (held : users.HasAdmin)
    (spared : users.orphanedBy id change = false) : (users.update id change).HasAdmin := by
  obtain ⟨admin, listed, role, active⟩ := held
  by_cases here : admin.id = id
  · subst here
    have found : users.get? admin.id = some admin := get?_eq_some_iff.mpr ⟨listed, rfl⟩
    have changed : change.apply admin ∈ (users.update admin.id change).rows :=
      mem_update.mpr ⟨admin, listed, (if_pos rfl).symm⟩
    have anotherOne (another : ∃ other ∈ users.rows,
        other.role = .admin ∧ other.active = true ∧ other.id ≠ admin.id) :
        (users.update admin.id change).HasAdmin := by
      obtain ⟨other, among, alsoAdmin, alsoActive, apart⟩ := another
      exact ⟨other, mem_update.mpr ⟨other, among, (if_neg apart).symm⟩, alsoAdmin, alsoActive⟩
    cases change with
    | role newRole =>
        by_cases kept : newRole = .admin
        · exact ⟨_, changed, kept, active⟩
        · apply anotherOne
          exact exists_other (some newRole) false role (by simpa using kept)
            (by simpa [orphanedBy, found] using spared)
    | active wanted =>
        cases wanted with
        | true => exact ⟨_, changed, role, rfl⟩
        | false =>
            apply anotherOne
            exact exists_other none true role (by simp)
              (by simpa [orphanedBy, found] using spared)
    | lastLogin time => exact ⟨_, changed, role, active⟩
    | configure hash => exact ⟨_, changed, rfl, rfl⟩
  · exact ⟨admin, mem_update.mpr ⟨admin, listed, (if_neg here).symm⟩, role, active⟩

theorem HasAdmin.insert {user : User Hash} {after : UserTable Hash} (held : users.HasAdmin)
    (inserted : users.insert? user = some after) : after.HasAdmin := by
  obtain ⟨admin, listed, powers⟩ := held
  exact ⟨admin, (mem_insert inserted).mpr (.inl listed), powers⟩

end UserTable

theorem reconcileAdmin_hasAdmin {hasher : PasswordHasher Hash} {salt : String}
    {settings : AdminSettings} {users : UserTable Hash} (held : users.HasAdmin) :
    (reconcileAdmin hasher salt settings users).HasAdmin := by
  unfold reconcileAdmin
  split
  · exact held
  · rename_i username password _
    split
    · cases inserted : users.insert? (localAdmin username (hasher.hash salt password)) with
      | none => exact held
      | some after => exact held.insert inserted
    · rename_i user found
      apply held.update
      cases stored : users.get? user.id with
      | none => simp [UserTable.orphanedBy, stored]
      | some row => simp [UserTable.orphanedBy, stored]

/-! ## Runs -/

/-- `_would_orphan_admins`, asked about this write, would let it through. -/
def UserTable.spares (users : UserTable Hash) : AccountWrite Hash → Bool
  | .change id change => !users.orphanedBy id change
  | _ => true

theorem UserTable.HasAdmin.write {users after : UserTable Hash} {write : AccountWrite Hash}
    (held : users.HasAdmin) (spared : users.spares write = true)
    (wrote : users.write? write = some after) : after.HasAdmin := by
  cases write with
  | addUser user => exact held.insert wrote
  | change id change =>
      cases wrote
      exact held.update (by simpa [UserTable.spares] using spared)
  | addAudit entry =>
      cases wrote
      exact held
  | setLanguage value =>
      cases wrote
      exact held

/-- The condition on a step: the guard is asked again when the commit takes place. -/
def guardedAgain (accounts : Accounts Hash) : AccountOp Hash → Bool
  | .commit writes => accounts.users.eachWrite UserTable.spares writes
  | _ => true

/-- An administrator remains as long as the guard would agree again at every commit. -/
theorem administrator_remains {hasher : PasswordHasher Hash} {start service : AccountService Hash}
    (held : start.accounts.users.HasAdmin)
    (reached : (accountService hasher).Reaches
      (fun service label => service.checked guardedAgain label) start service) :
    service.accounts.users.HasAdmin := by
  refine @Transition.Reaches.invariant _ _ _ _ _ _ (fun service => service.accounts.users.HasAdmin)
    reached held ?_
  intro before label after permitted stepped
  refine AccountService.keeps_users ?_ ?_ permitted stepped
  · intro op event accounts outcome after spared performed held
    rcases AccountOp.users_cases performed with same | ⟨writes, added, rfl, stored⟩
    · rwa [same]
    · refine Accounts.writeAll_keeps ?_ spared stored held
      intro write listed users after spared wrote held
      exact held.write spared wrote
  · intro salt settings users held
    exact reconcileAdmin_hasAdmin held

namespace LastAdmin

def administrators : AccountService (String × String) :=
  Sample.office (Sample.table [{ username := "ada", role := .admin },
    { username := "bob", role := .admin }]) none

/-- Both administrators demote the other; each request reads before either commits. -/
def demotions : List AccountLabel :=
  [.arrive (.usersRole "ada" 2 "viewer"), .arrive (.usersRole "bob" 1 "viewer"),
    .serve 0 .proceed, .serve 1 .proceed, .serve 0 .proceed, .serve 1 .proceed,
    .serve 0 .proceed, .serve 1 .proceed]

end LastAdmin

theorem not_administrator_remains : ¬ ∀ (hasher : PasswordHasher (String × String))
    (start service : AccountService (String × String)), start.accounts.users.HasAdmin →
      (accountService hasher).Reaches (fun _ _ => True) start service →
      service.accounts.users.HasAdmin := by
  intro claimed
  have runs : ((accountService Sample.hasher).runUnder (fun _ _ => true)
      LastAdmin.administrators LastAdmin.demotions).any
      (fun service => !decide service.accounts.users.HasAdmin) = true := by
    decide
  obtain ⟨service, ran, nobody⟩ := (Option.any_eq_true _ _).mp runs
  have reached := Transition.Reaches.of_runUnder ran
  have remains := claimed Sample.hasher LastAdmin.administrators service (by decide)
    (reached.mono fun _ _ _ => trivial)
  simp [remains] at nobody

/-- One after the other, the second request finds no administrator left to rely on. -/
theorem administrator_remains_alone : ∃ service : AccountService (String × String),
    service.accounts.users.rows.map (fun user => (user.username, user.role)) =
        [("ada", .admin), ("bob", .viewer)] ∧
      service.accounts.users.HasAdmin := by
  have runs : ((accountService Sample.hasher).runUnder
      (fun service label => service.checked guardedAgain label) LastAdmin.administrators
      [.arrive (.usersRole "ada" 2 "viewer"), .serve 0 .proceed, .serve 0 .proceed,
        .serve 0 .proceed, .arrive (.usersRole "bob" 1 "viewer"), .serve 1 .proceed,
        .serve 1 .proceed]).any
      (fun service => decide (service.accounts.users.rows.map
        (fun user => (user.username, user.role)) = [("ada", .admin), ("bob", .viewer)])) = true := by
    decide
  obtain ⟨service, ran, roles⟩ := (Option.any_eq_true _ _).mp runs
  exact ⟨service, of_decide_eq_true roles,
    administrator_remains (by decide) (Transition.Reaches.of_runUnder ran)⟩

end AptlyGui
