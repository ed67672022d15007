import AptlyGui.Auth.Service
import AptlyGui.Library.Safety
import AptlyGui.Library.Tagged

/-!
# The first account

The guard lets `POST /setup` in as long as no account is known, and
`setup_submit` makes its account known only after it has stored it.  Every form
let in before that still stores its own account, so there is one account from
the setup page exactly when each of these commits finds none.
-/

namespace AptlyGui

open Coroutine (Uses Contract Safe SafeNow Settles)

variable {Hash : Type}

/-! ## The service with a count of what the setup page creates -/

/-- The running service, which of its requests are a `POST /setup`, and how many accounts
`setup_submit` has stored. -/
structure Enrolment (Hash : Type) where
  service : AccountService Hash
  forms : List Bool := []
  created : Nat := 0

namespace Enrolment

def formsAfter (before : Enrolment Hash) : AccountLabel → List Bool
  | .arrive request => before.forms ++ [request.isSetup]
  | .start _ _ _ => []
  | _ => before.forms

/-- Whether it is `setup_submit` that takes the step. -/
def setsUp (before : Enrolment Hash) : AccountLabel → Bool
  | .serve index _ => before.forms[index]? = some true
  | _ => false

/-- The accounts that the step adds, if `setup_submit` takes it. -/
def added (before : Enrolment Hash) (label : AccountLabel) (after : AccountService Hash) : Nat :=
  if before.setsUp label then
    after.accounts.users.rows.length - before.service.accounts.users.rows.length
  else 0

end Enrolment

def enrolment (hasher : PasswordHasher Hash) : Transition (Enrolment Hash) AccountLabel where
  step before label :=
    ((accountService hasher).step before.service label).map fun after =>
      { service := after
        forms := before.formsAfter label
        created := before.created + before.added label after }

/-- Counting does not stand in the way of anything the service does. -/
theorem exists_enrolment {hasher : PasswordHasher Hash} {start service : AccountService Hash}
    (reached : (accountService hasher).Reaches (fun _ _ => True) start service) :
    ∃ after : Enrolment Hash, after.service = service ∧
      (enrolment hasher).Reaches (fun _ _ => True) { service := start } after := by
  induction reached with
  | refl => exact ⟨_, rfl, .refl⟩
  | step _ _ stepped inductionHypothesis =>
      obtain ⟨before, rfl, ran⟩ := inductionHypothesis
      exact ⟨_, rfl, .step ran trivial (Option.map_eq_some_iff.mpr ⟨_, stepped, rfl⟩)⟩

/-- Nobody has an account, and nothing is under way. -/
structure AccountService.Fresh (service : AccountService Hash) : Prop where
  nobody : service.accounts.users.rows = []
  unknown : service.accounts.hasUsers = false
  idle : service.requests = []

/-! ## The condition -/

/-- A new account is stored before any other, or not at all because its name is taken. -/
def AccountOp.first (accounts : Accounts Hash) : AccountOp Hash → Bool
  | .commit (.addUser user :: _) =>
      accounts.users.rows.isEmpty || (accounts.users.named user.username).isSome
  | _ => true

def Enrolment.first (before : Enrolment Hash) (label : AccountLabel) : Bool :=
  !before.setsUp label || before.service.checked AccountOp.first label

/-! ## Tables that have rows keep having some -/

namespace UserTable

variable {users after : UserTable Hash}

theorem length_insert {user : User Hash} (inserted : users.insert? user = some after) :
    after.rows.length = users.rows.length + 1 := by
  unfold insert? at inserted
  split at inserted
  · cases inserted
    simp [rows, Table.insert]
  · cases inserted

theorem named_of_insert {user : User Hash} (inserted : users.insert? user = some after) :
    users.named user.username = none := by
  unfold insert? at inserted
  split at inserted
  · rename_i fresh
    exact named_eq_none_iff.mpr fresh
  · cases inserted

theorem rows_insert_ne_nil {user : User Hash} (inserted : users.insert? user = some after) :
    after.rows ≠ [] :=
  List.ne_nil_of_mem ((mem_insert inserted).mpr (.inr rfl))

theorem rows_update_ne_nil {id : Nat} {change : UserChange Hash} (inhabited : users.rows ≠ []) :
    (users.update id change).rows ≠ [] := by
  obtain ⟨user, listed⟩ := List.exists_mem_of_ne_nil _ inhabited
  exact List.ne_nil_of_mem (mem_update.mpr ⟨user, listed, rfl⟩)

end UserTable

theorem Accounts.rows_ne_nil_of_writeAll {writes : List (AccountWrite Hash)}
    {accounts after : Accounts Hash} {added last : Nat}
    (stored : accounts.writeAll added writes = some (after, last))
    (inhabited : accounts.users.rows ≠ []) : after.users.rows ≠ [] := by
  induction writes generalizing accounts added with
  | nil =>
      cases stored
      exact inhabited
  | cons write rest inductionHypothesis =>
      obtain ⟨⟨next, id⟩, wrote, stored⟩ := Option.bind_eq_some_iff.mp stored
      apply inductionHypothesis stored
      cases write with
      | addUser user =>
          obtain ⟨users, inserted, same⟩ := Option.map_eq_some_iff.mp wrote
          cases same
          exact UserTable.rows_insert_ne_nil inserted
      | change id change =>
          cases wrote
          exact UserTable.rows_update_ne_nil inhabited
      | addAudit entry =>
          cases wrote
          exact inhabited
      | setLanguage value =>
          cases wrote
          exact inhabited

theorem AccountOp.rows_ne_nil_of_perform {op : AccountOp Hash} {event : AccountEvent}
    {accounts after : Accounts Hash} {outcome : Except AccountExn op.Ret}
    (performed : op.perform event accounts = some (outcome, after))
    (inhabited : accounts.users.rows ≠ []) : after.users.rows ≠ [] := by
  rcases users_cases performed with same | ⟨writes, added, -, stored⟩
  · rw [same]
    exact inhabited
  · exact Accounts.rows_ne_nil_of_writeAll stored inhabited

theorem reconcileAdmin_rows_ne_nil {hasher : PasswordHasher Hash} {salt : String}
    {settings : AdminSettings} {users : UserTable Hash} (inhabited : users.rows ≠ []) :
    (reconcileAdmin hasher salt settings users).rows ≠ [] := by
  unfold reconcileAdmin
  split
  · exact inhabited
  · split
    · cases inserted : users.insert? _ with
      | none => exact inhabited
      | some after => exact UserTable.rows_insert_ne_nil inserted
    · exact UserTable.rows_update_ne_nil inhabited

/-! ## What `setup_submit` does -/

/-- A commit of `setup_submit`: one new account and the entry about it. -/
def AccountOp.Enrols : AccountOp Hash → Prop
  | .commit writes => ∃ user entry, writes = [.addUser user, .addAudit entry]
  | _ => True

theorem uses_setupSubmit_enrols (hasher : PasswordHasher Hash)
    (salt username password passwordAgain : String) :
    Uses AccountOp.Enrols (setupSubmit hasher salt username password passwordAgain) := by
  unfold setupSubmit
  split
  · trivial
  · refine Uses.bind ((Coroutine.uses_perform _).mpr ⟨_, _, rfl⟩) fun added => ?_
    refine Uses.bind ((Coroutine.uses_perform _).mpr trivial) fun user => ?_
    exact Uses.bind ((Coroutine.uses_perform _).mpr trivial) fun _ => trivial

/-- Such an operation leaves the users alone or stores one whose name was free. -/
theorem AccountOp.Enrols.users_cases {op : AccountOp Hash} {event : AccountEvent}
    {accounts after : Accounts Hash} {outcome : Except AccountExn op.Ret} (enrols : op.Enrols)
    (performed : op.perform event accounts = some (outcome, after)) :
    op.first accounts = true ∧ after.users = accounts.users ∨
      op.first accounts = accounts.users.rows.isEmpty ∧
        after.users.rows.length = accounts.users.rows.length + 1 := by
  rcases AccountOp.users_cases performed with same | ⟨writes, added, rfl, stored⟩
  · refine .inl ⟨?_, same⟩
    cases op with
    | commit writes =>
        obtain ⟨user, entry, rfl⟩ := enrols
        cases free : accounts.users.named user.username with
        | some other => simp [first, free]
        | none =>
            obtain ⟨users, inserted⟩ := UserTable.exists_insert free
            simp only [perform, Accounts.writeAll, Accounts.write, inserted, Option.map_some,
              Option.bind_some, answered_eq_some] at performed
            obtain ⟨-, -, rfl⟩ := performed
            have grown := UserTable.length_insert inserted
            rw [show users = accounts.users from same] at grown
            exact absurd grown (Nat.ne_of_lt (Nat.lt_succ_self _))
    | _ => rfl
  · obtain ⟨user, entry, rfl⟩ := enrols
    obtain ⟨⟨next, id⟩, wrote, stored⟩ := Option.bind_eq_some_iff.mp stored
    obtain ⟨users, inserted, same⟩ := Option.map_eq_some_iff.mp wrote
    cases same
    cases stored
    exact .inr ⟨by simp [first, UserTable.named_of_insert inserted],
      UserTable.length_insert inserted⟩

namespace Enrolment

/-- Others do not delete accounts, and an account is made known only when there is one. -/
def contract : Contract (@accountSemantics Hash) where
  allowed _ _ _ := True
  rely before after := before.users.rows ≠ [] → after.users.rows ≠ []
  guarantee before after :=
    after.hasUsers = true → before.hasUsers = true ∨ after.users.rows ≠ []
  rely_refl _ := id
  rely_trans first second := second ∘ first

theorem guarantee_of_perform {op : AccountOp Hash} {event : AccountEvent}
    {before after : Accounts Hash} {outcome : Except AccountExn op.Ret}
    (performed : op.perform event before = some (outcome, after))
    (modest : op = .rememberUsers → after.users.rows ≠ []) : contract.guarantee before after := by
  intro known
  rcases AccountOp.perform_cases performed with
    rfl | ⟨writes, added, -, stored⟩ | ⟨rfl, -⟩ | ⟨value, -, rfl⟩
  · exact .inl known
  · exact .inl ((Accounts.writeAll_hasUsers stored).symm.trans known)
  · exact .inr (modest rfl)
  · exact .inl known

theorem safe_operation {op : AccountOp Hash} {accounts : Accounts Hash}
    {returned : op.Ret → Accounts Hash → Prop}
    (modest : op = .rememberUsers → accounts.users.rows ≠ [])
    (returns : ∀ value after later, (AccountProgram.perform op).Ends accounts (.ok value) after →
      contract.rely after later → returned value later) :
    Safe contract returned (fun _ _ => True) (AccountProgram.perform op) accounts := by
  apply Coroutine.safe_perform.mpr
  rintro outcome after ⟨event, -, performed⟩
  have moved : op.perform event accounts = some (outcome, after) := performed
  refine ⟨guarantee_of_perform moved fun remembers =>
    AccountOp.rows_ne_nil_of_perform moved (modest remembers), fun later passed => ?_⟩
  cases outcome with
  | error error => trivial
  | ok value => exact returns value after later (Coroutine.ends_perform.mpr ⟨event, performed⟩) passed

/-- The account that `setup_submit` makes known is in the table by then. -/
theorem safe_setupSubmit (hasher : PasswordHasher Hash) (accounts : Accounts Hash)
    (salt username password passwordAgain : String) :
    SafeNow contract (fun _ _ => True) (fun _ _ => True)
      (setupSubmit hasher salt username password passwordAgain) accounts := by
  intro later _
  unfold setupSubmit
  split
  · trivial
  have stores (accounts : Accounts Hash) (user : User Hash) (entry : AuditEntry) :
      Safe contract (fun _ after => after.users.rows ≠ []) (fun _ _ => True)
        (AccountProgram.store [.addUser user, .addAudit entry]) accounts := by
    refine safe_operation (by simp) fun added after later ended passed => ?_
    obtain ⟨⟨next, id⟩, wrote, stored⟩ := Option.bind_eq_some_iff.mp (ends_store_ok.mp ended)
    obtain ⟨users, inserted, same⟩ := Option.map_eq_some_iff.mp wrote
    cases same
    cases stored
    exact passed (UserTable.rows_insert_ne_nil inserted)
  refine Safe.bind (stores _ _ _) fun added accounts inhabited => ?_
  have refreshes : Safe contract (fun _ after => after.users.rows ≠ []) (fun _ _ => True)
      (AccountProgram.refresh added) accounts := by
    refine safe_operation (by simp) fun user after later ended passed => passed ?_
    rw [(ends_refresh_ok.mp ended).2]
    exact inhabited
  refine Safe.bind refreshes fun user accounts inhabited => ?_
  exact Safe.bind (safe_operation (fun _ => inhabited) fun _ _ _ _ _ => trivial) fun _ _ _ => trivial

/-! ## Runs -/

/-- A form under way stores one account at most, and knows of none before it is stored. -/
def Fills (accounts : Accounts Hash) (form : Bool)
    (request : AccountProgram Hash AccountResponse) : Prop :=
  form = true → Uses AccountOp.Enrols request ∧
    SafeNow contract (fun _ _ => True) (fun _ _ => True) request accounts

theorem Fills.passed {accounts later : Accounts Hash} {form : Bool}
    {request : AccountProgram Hash AccountResponse} (fills : Fills accounts form request)
    (passed : accounts.users.rows ≠ [] → later.users.rows ≠ []) : Fills later form request :=
  fun isForm => ⟨(fills isForm).1, (fills isForm).2.passed passed⟩

/-- What holds in every state of a run that meets the condition: an account is known only when
there is one, and while a form is under way every account goes back to the setup page. -/
structure Orderly (state : Enrolment Hash) : Prop where
  forms : Tagged (Fills state.service.accounts) state.forms state.service.requests
  known : state.service.accounts.hasUsers = true → state.service.accounts.users.rows ≠ []
  others : false ∈ state.forms → state.service.accounts.hasUsers = true
  source : state.service.accounts.users.rows ≠ [] → 0 < state.created ∨
    (true ∉ state.forms ∧ state.service.accounts.hasUsers = true)
  once : state.created ≤ 1
  stored : 0 < state.created → state.service.accounts.users.rows ≠ []

variable {hasher : PasswordHasher Hash} {before after : Enrolment Hash} {label : AccountLabel}

theorem Orderly.fresh {service : AccountService Hash} (fresh : service.Fresh) :
    Orderly { service := service } where
  forms := by
    rw [fresh.idle]
    exact .nil
  known known := by
    rw [fresh.unknown] at known
    cases known
  others := by simp
  source inhabited := absurd fresh.nobody inhabited
  once := Nat.zero_le 1
  stored := by simp

theorem Orderly.arrived {request : AccountRequest} (orderly : Orderly before)
    (admitted : request.admitted before.service.accounts.hasUsers = true) :
    Orderly { before with
      service := { before.service with
        requests := before.service.requests ++ [request.program hasher before.service] }
      forms := before.forms ++ [request.isSetup] } where
  forms := by
    refine orderly.forms.arrive fun isForm => ?_
    cases request with
    | setupSubmit salt username password passwordAgain =>
        exact ⟨uses_setupSubmit_enrols _ _ _ _ _, safe_setupSubmit _ _ _ _ _ _⟩
    | _ => cases isForm
  known := orderly.known
  others listed := by
    rcases List.mem_append.mp listed with old | new
    · exact orderly.others old
    · have ordinary : request.isSetup = false := (List.mem_singleton.mp new).symm
      simpa [AccountRequest.admitted, ordinary] using admitted
  source inhabited := by
    rcases orderly.source inhabited with created | ⟨closed, known⟩
    · exact .inl created
    · have ordinary : request.isSetup = false := by
        simpa [AccountRequest.admitted, known] using admitted
      exact .inr ⟨by simp [closed, ordinary], known⟩
  once := orderly.once
  stored := orderly.stored

theorem Orderly.started {settings : AdminSettings} {oidc : Option OidcClient} {salt : String}
    (orderly : Orderly before) : Orderly { before with
      service :=
        { accounts := before.service.accounts.started hasher salt settings
          settings := settings
          oidc := oidc
          requests := [] }
      forms := [] } where
  forms := .nil
  known known := by simpa [Accounts.started] using known
  others := by simp
  source inhabited := .inr ⟨by simp, by simpa [Accounts.started] using inhabited⟩
  once := orderly.once
  stored created := reconcileAdmin_rows_ne_nil (orderly.stored created)

/-- An operation of a request that is not a form. -/
theorem Orderly.answered {index : Nat} {event : AccountEvent} {op : AccountOp Hash}
    {resume : Except AccountExn op.Ret → AccountProgram Hash AccountResponse}
    {outcome : Except AccountExn op.Ret} {accounts : Accounts Hash} (orderly : Orderly before)
    (ordinary : before.forms[index]? = some false)
    (performed : op.perform event before.service.accounts = some (outcome, accounts)) :
    Orderly { before with service := { before.service with
      accounts := accounts, requests := before.service.requests.set index (resume outcome) } } := by
  have known := orderly.others (List.mem_of_getElem? ordinary)
  have inhabited := orderly.known known
  have kept := AccountOp.rows_ne_nil_of_perform performed
  refine ⟨?_, fun _ => kept inhabited, fun _ => AccountOp.hasUsers_of_perform performed known,
    fun _ => ?_, orderly.once, fun created => kept (orderly.stored created)⟩
  · refine (orderly.forms.mono fun form request fills => fills.passed kept).set fun form named => ?_
    intro isForm
    rw [ordinary] at named
    cases named
    cases isForm
  · rcases orderly.source inhabited with created | ⟨closed, _⟩
    · exact .inl created
    · exact .inr ⟨closed, AccountOp.hasUsers_of_perform performed known⟩

/-- An operation of a form. -/
theorem Orderly.submitted {index : Nat} {event : AccountEvent} {op : AccountOp Hash}
    {resume : Except AccountExn op.Ret → AccountProgram Hash AccountResponse}
    {outcome : Except AccountExn op.Ret} {accounts : Accounts Hash} (orderly : Orderly before)
    (form : before.forms[index]? = some true)
    (found : before.service.requests[index]? = some (.await op resume))
    (permitted : op.first before.service.accounts = true)
    (performed : op.perform event before.service.accounts = some (outcome, accounts)) :
    Orderly { before with
      service := { before.service with
        accounts := accounts, requests := before.service.requests.set index (resume outcome) }
      created := before.created +
        (accounts.users.rows.length - before.service.accounts.users.rows.length) } := by
  obtain ⟨⟨enrols, uses⟩, safe⟩ := orderly.forms.get form found rfl
  have kept := AccountOp.rows_ne_nil_of_perform performed
  obtain ⟨modest, later⟩ := safe.now outcome accounts ⟨event, trivial, performed⟩
  have forms : Tagged (Fills accounts) before.forms
      (before.service.requests.set index (resume outcome)) :=
    (orderly.forms.mono fun form request fills => fills.passed kept).set
      fun form named isForm => ⟨uses outcome, later⟩
  have known : accounts.hasUsers = true → accounts.users.rows ≠ [] := by
    intro remembered
    rcases modest remembered with already | inhabited
    · exact kept (orderly.known already)
    · exact inhabited
  have others : false ∈ before.forms → accounts.hasUsers = true := fun listed =>
    AccountOp.hasUsers_of_perform performed (orderly.others listed)
  rcases enrols.users_cases performed with ⟨-, same⟩ | ⟨first, grown⟩
  · refine ⟨forms, known, others, fun inhabited => ?_, ?_, fun created => ?_⟩
    · rw [same] at inhabited ⊢
      rcases orderly.source inhabited with created | ⟨closed, -⟩
      · exact .inl (Nat.lt_add_right _ created)
      · exact absurd (List.mem_of_getElem? form) closed
    · simpa [same] using orderly.once
    · exact kept (orderly.stored (by simpa [same] using created))
  · have nobody : before.service.accounts.users.rows = [] :=
      List.isEmpty_iff.mp (first.symm.trans permitted)
    have unused : before.created = 0 := by
      by_contra created
      exact orderly.stored (Nat.pos_of_ne_zero created) nobody
    have one : accounts.users.rows ≠ [] := by
      intro empty
      simp [empty] at grown
    refine ⟨forms, known, others, fun _ => .inl ?_, ?_, fun _ => one⟩
    · simp [unused, grown]
    · simp [unused, grown]

/-- A step of a run, with what `setup_submit` adds worked out. -/
theorem step_cases (stepped : (enrolment hasher).step before label = some after) :
    ∃ service, (accountService hasher).step before.service label = some service ∧
      after = { service := service
                forms := before.formsAfter label
                created := before.created + before.added label service } := by
  obtain ⟨service, moved, rfl⟩ := Option.map_eq_some_iff.mp stepped
  exact ⟨service, moved, rfl⟩

theorem Orderly.step (orderly : Orderly before) (permitted : before.first label = true)
    (stepped : (enrolment hasher).step before label = some after) : Orderly after := by
  obtain ⟨service, moved, rfl⟩ := step_cases stepped
  rcases AccountService.step_cases moved with ⟨request, rfl, admitted, rfl⟩ |
    ⟨index, event, op, resume, outcome, accounts, rfl, found, performed, rfl⟩ |
    ⟨elapsed, rfl, rfl⟩ | ⟨settings, oidc, salt, rfl, rfl⟩
  · exact orderly.arrived admitted
  · obtain ⟨form, named, -⟩ := orderly.forms.exists_tag found
    cases form with
    | false =>
        have spared : before.added (.serve index event) { before.service with
            accounts := accounts
            requests := before.service.requests.set index (resume outcome) } = 0 := by
          simp [added, setsUp, named]
        rw [spared]
        exact orderly.answered named performed
    | true =>
        have checked : op.first before.service.accounts = true := by
          simpa [first, setsUp, named, AccountService.checked, found, Coroutine.awaits]
            using permitted
        have counted : before.added (.serve index event) { before.service with
            accounts := accounts
            requests := before.service.requests.set index (resume outcome) } =
              accounts.users.rows.length - before.service.accounts.users.rows.length := by
          simp [added, setsUp, named]
        rw [counted]
        exact orderly.submitted named found checked performed
  · obtain ⟨forms, known, others, source, once, stored⟩ := orderly
    exact ⟨forms.mono fun form request fills => fills.passed id, known, others, source, once, stored⟩
  · exact orderly.started

/-- Where the condition fails, there is a second account from the setup page. -/
theorem Orderly.created_of_not_first (orderly : Orderly before) (broken : before.first label = false)
    (stepped : (enrolment hasher).step before label = some after) : after.created = 2 := by
  obtain ⟨service, moved, rfl⟩ := step_cases stepped
  obtain ⟨form, checked⟩ := Bool.or_eq_false_iff.mp broken
  rcases AccountService.step_cases moved with ⟨request, rfl, -, -⟩ |
    ⟨index, event, op, resume, outcome, accounts, rfl, found, performed, rfl⟩ |
    ⟨elapsed, rfl, -⟩ | ⟨settings, oidc, salt, rfl, -⟩
  · cases form
  · have named : before.forms[index]? = some true := by simpa [setsUp] using form
    have late : op.first before.service.accounts = false := by
      simpa [AccountService.checked, found, Coroutine.awaits] using checked
    obtain ⟨⟨enrols, -⟩, -⟩ := orderly.forms.get named found rfl
    rcases enrols.users_cases performed with ⟨early, -⟩ | ⟨first, grown⟩
    · exact absurd (early.symm.trans late) (by decide)
    · have inhabited : before.service.accounts.users.rows ≠ [] := by
        intro nobody
        rw [nobody] at first
        exact absurd (first.symm.trans late) (by simp)
      have created : 0 < before.created := by
        rcases orderly.source inhabited with created | ⟨closed, -⟩
        · exact created
        · exact absurd (List.mem_of_getElem? named) closed
      have once := orderly.once
      have counted : before.added (.serve index event) { before.service with
          accounts := accounts
          requests := before.service.requests.set index (resume outcome) } = 1 := by
        simp [added, setsUp, named, grown]
      simp only [counted]
      omega
  · cases form
  · cases form

end Enrolment

/-- In every run of a fresh instance the setup page creates one account at most, if and only if
each of its commits finds no account, or one of the same name. -/
theorem setup_creates_one {hasher : PasswordHasher Hash} {service : AccountService Hash}
    {state : Enrolment Hash} (fresh : service.Fresh)
    (reached : (enrolment hasher).Reaches (fun _ _ => True) { service := service } state) :
    state.created ≤ 1 ↔ (enrolment hasher).Reaches (fun before label => before.first label)
      { service := service } state := by
  have orderly {state : Enrolment Hash} (kept : (enrolment hasher).Reaches
      (fun before label => before.first label) { service := service } state) : state.Orderly :=
    kept.invariant (.fresh fresh) fun _ _ _ permitted stepped held => held.step permitted stepped
  constructor
  · intro few
    induction reached with
    | refl => exact .refl
    | @step before after label _ _ stepped inductionHypothesis =>
        have fewer : before.created ≤ after.created := by
          obtain ⟨service, -, rfl⟩ := Enrolment.step_cases stepped
          exact Nat.le_add_right _ _
        have kept := inductionHypothesis (Nat.le_trans fewer few)
        cases first : before.first label with
        | true => exact .step kept first stepped
        | false =>
            have two := (orderly kept).created_of_not_first first stepped
            exact absurd few (by simp [two])
  · intro kept
    exact (orderly kept).once

namespace Setup

def vacant : AccountService (String × String) := Sample.office .empty none

/-- Two people open a fresh instance, and both forms are let in before either is stored. -/
def race : List AccountLabel :=
  [.arrive (.setupSubmit "salt" "ada" "a long password" "a long password"),
    .arrive (.setupSubmit "salt" "bob" "another password" "another password"),
    .serve 0 .proceed, .serve 1 .proceed]

/-- The second form has the same name and is refused by the table. -/
def repeated : List AccountLabel :=
  [.arrive (.setupSubmit "salt" "ada" "a long password" "a long password"),
    .arrive (.setupSubmit "salt" "ada" "another password" "another password"),
    .serve 0 .proceed, .serve 1 .proceed, .serve 0 .proceed, .serve 0 .proceed]

end Setup

theorem not_setup_creates_one : ¬ ∀ (hasher : PasswordHasher (String × String))
    (service : AccountService (String × String)) (state : Enrolment (String × String)),
    service.Fresh → (enrolment hasher).Reaches (fun _ _ => True) { service := service } state →
      state.created ≤ 1 := by
  intro claimed
  have runs : ((enrolment Sample.hasher).runUnder (fun _ _ => true)
      { service := Setup.vacant } Setup.race).any (fun state => decide (state.created = 2)) = true := by
    decide +kernel
  obtain ⟨state, ran, two⟩ := (Option.any_eq_true _ _).mp runs
  rw [decide_eq_true_eq] at two
  have one := claimed Sample.hasher Setup.vacant state ⟨rfl, rfl, rfl⟩
    ((Transition.Reaches.of_runUnder ran).mono fun _ _ _ => trivial)
  exact absurd one (by simp [two])

theorem setup_creates_one_repeated : ∃ state : Enrolment (String × String),
    state.service.accounts.users.rows.map User.username = ["ada"] ∧
      state.service.accounts.hasUsers = true ∧ state.created ≤ 1 := by
  have runs : ((enrolment Sample.hasher).runUnder (fun before label => before.first label)
      { service := Setup.vacant } Setup.repeated).any (fun state => decide (
        state.service.accounts.users.rows.map User.username = ["ada"] ∧
          state.service.accounts.hasUsers = true)) = true := by
    decide +kernel
  obtain ⟨state, ran, ended⟩ := (Option.any_eq_true _ _).mp runs
  obtain ⟨named, known⟩ := of_decide_eq_true ended
  have kept := Transition.Reaches.of_runUnder ran
  exact ⟨state, named, known,
    (setup_creates_one ⟨rfl, rfl, rfl⟩ (kept.mono fun _ _ _ => trivial)).mpr kept⟩

end AptlyGui
