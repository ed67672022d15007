import AptlyGui.Web.Routes

/-!
# The guard

Middleware, router, token and parameters decide in turn whether the handler of
a request runs.  The roles are judged by prefixes of the path and the handlers
chosen by the routes; here the two are held against each other.
-/

namespace AptlyGui

open Coroutine (Uses Keeps)
open SiteProgram

variable {Hash : Type}

/-- `_session_user` -/
def visitor (app : App Hash) (request : HttpRequest) (accounts : Accounts Hash) :
    Option (User Hash) :=
  accounts.sessionUser (readSession app.unsign request.cookie).uid

/-- `guard` and what FastAPI does before a handler: the route whose handler runs, and its body.
The guard judges the path that the router matches. -/
def serve (app : App Hash) (fresh : Fresh) (request : HttpRequest) (accounts : Accounts Hash) :
    Option (Route × SiteProgram Hash SiteResponse) :=
  let stored := readSession app.unsign request.cookie
  let state : RequestState Hash :=
    { user := visitor app request accounts, csrf := stored.token fresh.csrf }
  if dispatch request.method request.path accounts.hasUsers state.user = .run then
    (route? request.method request.path).bind fun found =>
      if passesCsrf request.method request.path state.csrf (lastValue request.form "csrf_token") then
        (found.1.endpoint.program app fresh accounts request stored state found.2).map (found.1, ·)
      else none
  else none

section Served

variable {app : App Hash} {fresh : Fresh} {request : HttpRequest} {accounts : Accounts Hash}
  {route : Route} {program : SiteProgram Hash SiteResponse}

theorem serve_eq_some (served : serve app fresh request accounts = some (route, program)) :
    dispatch request.method request.path accounts.hasUsers (visitor app request accounts) = .run ∧
      ∃ parameters, route? request.method request.path = some (route, parameters) ∧
        passesCsrf request.method request.path
          ((readSession app.unsign request.cookie).token fresh.csrf)
          (lastValue request.form "csrf_token") = true ∧
        route.endpoint.program app fresh accounts request (readSession app.unsign request.cookie)
          { user := visitor app request accounts
            csrf := (readSession app.unsign request.cookie).token fresh.csrf } parameters =
          some program := by
  simp only [serve] at served
  split at served
  · rename_i runs
    obtain ⟨⟨found, parameters⟩, routed, rest⟩ := Option.bind_eq_some_iff.mp served
    split at rest
    · rename_i passed
      obtain ⟨body, given, same⟩ := Option.map_eq_some_iff.mp rest
      cases same
      exact ⟨runs, parameters, routed, passed, given⟩
    · cases rest
  · cases served

/-! ## Roles by route -/

/-- The role that a handler is meant for, if not everybody's. -/
def Endpoint.needs : Endpoint → Option UserRole
  | .page _ => none
  | .work _ => some .operator
  | .administration asked =>
      if asked ∈ [.settingsSave, .usersRole, .usersActive] then some .admin else none

/-- No path of the route is open to everybody. -/
def Route.isPrivate (route : Route) : Bool :=
  ("/healthz" :: publicPrefixes).all fun shown =>
    !(startsWith route.start shown || startsWith shown route.start)

/-- Whoever wrote the prefixes of the policy and the routes kept them in step. -/
def Route.isGuarded (route : Route) : Bool :=
  match route.endpoint.needs with
  | none => true
  | some role =>
      route.isPrivate && decide (route.method = "POST") &&
        (decide (role = .operator) || startsWithAny route.start adminPrefixes)

theorem routes_guarded : ∀ route ∈ routes, route.isGuarded = true := by decide

theorem startsWith_trans {first second third : String} (longer : startsWith first second = true)
    (shorter : startsWith second third = true) : startsWith first third = true := by
  rw [startsWith_iff] at *
  exact shorter.trans longer

theorem startsWith_self (text : String) : startsWith text text = true :=
  startsWith_iff.mpr List.prefix_rfl

theorem visitor_of_private (isPrivate : route.isPrivate = true)
    (served : serve app fresh request accounts = some (route, program)) :
    ∃ account, visitor app request accounts = some account ∧
      account.can (requiredRole request.method request.path) = true := by
  obtain ⟨runs, parameters, routed, -, -⟩ := serve_eq_some served
  have apart (shown : String) (listed : shown ∈ "/healthz" :: publicPrefixes) :
      startsWith request.path shown = false :=
    not_startsWith (startsWith_of_route? routed)
      (by simpa using List.all_eq_true.mp isPrivate shown listed)
  have differs (shown : String) (listed : shown ∈ "/healthz" :: publicPrefixes) :
      request.path ≠ shown := by
    intro same
    have never := apart shown listed
    rw [same, startsWith_self] at never
    cases never
  have hidden : isPublic request.path = false := by
    simp only [isPublic, publicExact, startsWithAny, Bool.or_eq_false_iff, List.any_eq_false,
      List.mem_singleton, decide_eq_false_iff_not]
    exact ⟨differs _ (by simp), fun shown listed =>
      Bool.eq_false_iff.mp (apart shown (List.mem_cons_of_mem _ listed))⟩
  have static := apart "/static" (by simp [publicPrefixes])
  cases known : accounts.hasUsers with
  | false =>
      rw [known] at runs
      rcases run_cases_fresh runs with shown | shown | shown
      · simp [static] at shown
      · exact absurd shown (differs _ (by simp))
      · exact absurd shown (differs _ (by simp [publicPrefixes]))
  | true =>
      rw [known] at runs
      rcases run_cases runs with shown | ⟨-, shown | allowed⟩
      · simp [static] at shown
      · simp [hidden] at shown
      · exact allowed

theorem User.can_mono {user : User Hash} {role other : UserRole} (may : user.can role = true)
    (below : other.rank ≤ role.rank) : user.can other = true := by
  simp only [User.can, UserRole.can, Bool.and_eq_true, decide_eq_true_eq] at may ⊢
  exact ⟨may.1, below.trans may.2⟩

/-- A handler that is meant for a role runs for nobody below it. -/
theorem can_of_needs {role : UserRole} (needs : route.endpoint.needs = some role)
    (served : serve app fresh request accounts = some (route, program)) :
    ∃ account, visitor app request accounts = some account ∧ account.can role = true := by
  obtain ⟨-, parameters, routed, -, -⟩ := serve_eq_some served
  obtain ⟨listed, method, -⟩ := mem_of_route? routed
  have guarded := routes_guarded route listed
  simp only [Route.isGuarded, needs, Bool.and_eq_true, Bool.or_eq_true, decide_eq_true_eq]
    at guarded
  obtain ⟨⟨isPrivate, posts⟩, ordinary⟩ := guarded
  obtain ⟨account, known, may⟩ := visitor_of_private isPrivate served
  refine ⟨account, known, User.can_mono may ?_⟩
  rcases ordinary with rfl | admin
  · rw [← method, posts, requiredRole]
    split
    · decide
    · split
      · rename_i reads
        simp at reads
      · split <;> decide
  · obtain ⟨start, admins, begins⟩ := List.any_eq_true.mp admin
    have inside : startsWithAny request.path adminPrefixes = true :=
      List.any_eq_true.mpr ⟨start, admins, startsWith_trans (startsWith_of_route? routed) begins⟩
    rw [requiredRole, if_pos inside]
    cases role <;> decide

/-! ## What a handler leaves alone -/

/-- No job is enqueued, and jobs, mirror sets and snapshot sets are as before. -/
structure SameWork (before after : Site Hash) : Prop where
  jobs : after.1.db.jobs = before.1.db.jobs
  steps : after.1.db.steps = before.1.db.steps
  mirrorSets : after.1.db.mirrorSets = before.1.db.mirrorSets
  snapshotSets : after.1.db.snapshotSets = before.1.db.snapshotSets
  queue : after.1.queue = before.1.queue

def SameSettings (before after : Site Hash) : Prop :=
  after.2.storedLanguage = before.2.storedLanguage ∧ after.2.language = before.2.language

def SameUsers (before after : Site Hash) : Prop := after.2.users = before.2.users

theorem SameWork.of_world {before after : Site Hash} (same : after.1 = before.1) :
    SameWork before after := by
  constructor <;> rw [same]

/-- Whoever had an account has one. -/
def NamesKept (before after : Accounts Hash) : Prop :=
  ∀ username, before.users.named username ≠ none → after.users.named username ≠ none

theorem UserTable.named_of_write? {users after : UserTable Hash} {write : AccountWrite Hash}
    (wrote : users.write? write = some after) {username : String}
    (taken : users.named username ≠ none) : after.named username ≠ none := by
  rw [ne_eq, named_eq_none_iff, not_not] at taken ⊢
  cases write with
  | addUser user =>
      obtain ⟨holder, listed, rfl⟩ := List.mem_map.mp taken
      exact List.mem_map_of_mem ((mem_insert wrote).mpr (.inl listed))
  | change id change =>
      cases wrote
      exact (usernames_update users id change).symm ▸ taken
  | addAudit entry =>
      cases wrote
      exact taken
  | setLanguage value =>
      cases wrote
      exact taken

theorem NamesKept.of_writeAll {writes : List (AccountWrite Hash)} {before after : Accounts Hash}
    {added last : Nat} (stored : before.writeAll added writes = some (after, last)) :
    NamesKept before after := by
  induction writes generalizing before added with
  | nil =>
      cases stored
      exact fun _ taken => taken
  | cons write rest inductionHypothesis =>
      obtain ⟨⟨next, id⟩, wrote, stored⟩ := Option.bind_eq_some_iff.mp stored
      intro username taken
      have middle := UserTable.named_of_write? (Accounts.write_users wrote) taken
      exact inductionHypothesis stored username middle

/-- Names are never taken away, whichever handler runs. -/
theorem NamesKept.of_perform {op : AccountOp Hash} {event : AccountEvent}
    {before after : Accounts Hash} {outcome : Except AccountExn op.Ret}
    (performed : op.perform event before = some (outcome, after)) : NamesKept before after := by
  rcases AccountOp.perform_cases performed with rfl | ⟨writes, added, -, stored⟩ | ⟨-, rfl⟩ |
    ⟨value, -, rfl⟩
  · exact fun _ taken => taken
  · exact .of_writeAll stored
  · exact fun _ taken => taken
  · exact fun _ taken => taken

/-- What may have become of the application since. -/
def Since (accounts : Accounts Hash) (site : Site Hash) : Prop := NamesKept accounts site.2

section Keeping

variable {found : Site Hash → Prop} {kept : Site Hash → Site Hash → Prop}

theorem keeps_of_reads (reading : Uses siteReads program) (still : ∀ site, kept site site) :
    Keeps siteSemantics found kept program :=
  reading.mono fun _ reads => (spares_of_reads reads).mono (fun _ _ => trivial) (by
    rintro before after rfl
    exact still _)

/-- Work does not touch accounts. -/
theorem keeps_ofWorld {α : Type} (handler : Program α)
    (still : ∀ before after, after.2 = before.2 → kept before after) :
    Keeps siteSemantics found kept (ofWorld handler) := by
  refine Keeps.left (Keeps.left (Coroutine.keeps_of_spares (fun op => ?_) handler))
  have free : semantics.Spares (fun _ => True) (fun _ _ => True) op := by
    intro event world outcome after _ performed
    trivial
  exact free.onFst.mono (fun _ _ => trivial) fun before after same => still before after same.2

/-- The handlers of accounts do not touch work, and a rule about accounts is one about them. -/
theorem keeps_ofAccounts {α : Type} {handler : AccountProgram Hash α}
    {among : Accounts Hash → Prop} {like : Accounts Hash → Accounts Hash → Prop}
    (keeps : Keeps accountSemantics among like handler) (inside : ∀ site, found site → among site.2)
    (still : ∀ before after, like before.2 after.2 → after.1 = before.1 → kept before after) :
    Keeps siteSemantics found kept (ofAccounts handler) := by
  refine Keeps.left (Keeps.right (keeps.mono fun op spares => ?_))
  exact spares.onSnd.mono inside fun before after same => still before after same.1 same.2

theorem keeps_answer (still : ∀ site, kept site site) (response : AccountResponse) :
    Keeps siteSemantics found kept (answer response : SiteProgram Hash SiteResponse) := by
  unfold answer
  split
  · exact keeps_of_reads (uses_page _) still
  · trivial

end Keeping

theorem Accounts.writeAll_settings {writes : List (AccountWrite Hash)}
    (plain : ∀ value, .setLanguage value ∉ writes) {before after : Accounts Hash}
    {added last : Nat} (stored : before.writeAll added writes = some (after, last)) :
    after.storedLanguage = before.storedLanguage ∧ after.language = before.language := by
  induction writes generalizing before added with
  | nil =>
      cases stored
      exact ⟨rfl, rfl⟩
  | cons write rest inductionHypothesis =>
      obtain ⟨⟨next, id⟩, wrote, stored⟩ := Option.bind_eq_some_iff.mp stored
      have later := inductionHypothesis
        (fun value listed => plain value (List.mem_cons_of_mem _ listed)) stored
      cases write with
      | addUser user =>
          obtain ⟨users, -, same⟩ := Option.map_eq_some_iff.mp wrote
          cases same
          exact later
      | change id change =>
          cases wrote
          exact later
      | addAudit entry =>
          cases wrote
          exact later
      | setLanguage value => exact absurd (by simp) (plain value)

/-- Only the form of the settings changes a setting. -/
theorem AccountRequest.keeps_settings (hasher : PasswordHasher Hash) (service : AccountService Hash)
    {given : AccountRequest} (other : ∀ language, given ≠ .settingsSave language) :
    Keeps accountSemantics (fun _ => True) (fun before after =>
      after.storedLanguage = before.storedLanguage ∧ after.language = before.language)
      (given.program hasher service) := by
  refine (given.uses_program hasher service).mono fun op allowed => ?_
  intro event before outcome after _ performed
  rcases AccountOp.perform_cases performed with
    rfl | ⟨writes, added, rfl, stored⟩ | ⟨-, rfl⟩ | ⟨value, rfl, -⟩
  · exact ⟨rfl, rfl⟩
  · refine Accounts.writeAll_settings (fun value listed => ?_) stored
    have may := allowed _ listed
    cases given with
    | settingsSave language => exact other language rfl
    | _ => exact may
  · exact ⟨rfl, rfl⟩
  · obtain ⟨language, same⟩ := allowed
    exact absurd same (other language)

theorem spares_users {among : Accounts Hash → Prop} {op : AccountOp Hash}
    (other : ∀ writes, op ≠ .commit writes) : accountSemantics.Spares among
      (fun before after => after.users = before.users) op := by
  intro event before outcome after _ performed
  rcases AccountOp.users_cases performed with same | ⟨writes, added, same, stored⟩
  · exact same
  · exact absurd same (other writes)

theorem spares_users_of_taken {user : User Hash} {rest : List (AccountWrite Hash)}
    (taken : accounts.users.named user.username ≠ none) : accountSemantics.Spares
      (NamesKept accounts) (fun before after => after.users = before.users)
      (.commit (.addUser user :: rest)) := by
  intro event before outcome after since performed
  have moved := @AccountOp.users_cases Hash (.commit (.addUser user :: rest)) event before after
    outcome performed
  rcases moved with same | ⟨writes, added, same, stored⟩
  · exact same
  · cases same
    obtain ⟨⟨next, id⟩, wrote, -⟩ := Option.bind_eq_some_iff.mp stored
    obtain ⟨users, inserted, -⟩ := Option.map_eq_some_iff.mp wrote
    unfold UserTable.insert? at inserted
    split at inserted
    · rename_i fresh
      exact absurd (UserTable.named_eq_none_iff.mpr fresh) (since user.username taken)
    · cases inserted

/-! ## The rule -/

/-- The visitor is nobody, or an account without the role. -/
def Below (user : Option (User Hash)) (role : UserRole) : Prop :=
  ∀ account, user = some account → account.can role = false

/-- The handlers of signing in, by password or through the provider. -/
def Endpoint.signsIn (endpoint : Endpoint) : Bool :=
  endpoint ∈ [.administration .loginSubmit, .administration .oidcCallback]

/-- What roles and tokens promise about a handler that runs, whatever others do meanwhile. -/
structure Guarded (app : App Hash) (request : HttpRequest) (accounts : Accounts Hash)
    (route : Route) (program : SiteProgram Hash SiteResponse) : Prop where
  work : Below (visitor app request accounts) .operator →
    Keeps siteSemantics (Since accounts) SameWork program
  settings : Below (visitor app request accounts) .admin →
    Keeps siteSemantics (Since accounts) SameSettings program
  users : Below (visitor app request accounts) .admin → route.endpoint.signsIn = false →
    Keeps siteSemantics (Since accounts) SameUsers program
  token : request.method = "POST" → ∃ token, lastValue request.form "csrf_token" = some token ∧
    (readSession app.unsign request.cookie).csrf = some token

/-- A setup form that would be stored: it is complete, and its name is free. -/
def FillsSetup (request : HttpRequest) (accounts : Accounts Hash) : Prop :=
  ∃ username password, request.required "username" = some username ∧
    request.required "password" = some password ∧
    request.required "password_again" = some password ∧ tooShort password = false ∧
    strip username ≠ "" ∧ accounts.users.named (strip username) = none

/-- Somebody who is no administrator sends the setup form, with its token, while the guard does
not know of an account. -/
structure FirstRun (app : App Hash) (fresh : Fresh) (request : HttpRequest)
    (accounts : Accounts Hash) : Prop where
  unknown : accounts.hasUsers = false
  below : Below (visitor app request accounts) .admin
  posts : request.method = "POST"
  path : request.path = "/setup"
  token : passesCsrf "POST" "/setup" ((readSession app.unsign request.cookie).token fresh.csrf)
    (lastValue request.form "csrf_token") = true
  fills : FillsSetup request accounts

/-- The route on which an account request comes in. -/
def AccountRequest.asked : AccountRequest → Administration
  | .setupSubmit _ _ _ _ => .setupSubmit
  | .loginSubmit _ _ _ => .loginSubmit
  | .oidcCallback _ _ _ => .oidcCallback
  | .settingsSave _ => .settingsSave
  | .usersRole _ _ _ => .usersRole
  | .usersActive _ _ _ => .usersActive

theorem asked_of_request? {stored : SessionData} {author : String} {parameters : List String}
    {asked : Administration} {given : AccountRequest}
    (parsed : asked.request? app fresh request stored author parameters = some given) :
    given.asked = asked := by
  cases asked <;> simp only [Administration.request?, bind, Option.bind_eq_some_iff,
    Option.map_eq_some_iff, Option.pure_def, Option.some.injEq] at parsed
  case setupSubmit =>
    obtain ⟨_, -, _, -, _, -, rfl⟩ := parsed
    rfl
  case loginSubmit =>
    obtain ⟨_, -, _, -, rfl⟩ := parsed
    rfl
  case oidcCallback =>
    cases parsed
    rfl
  case settingsSave =>
    obtain ⟨_, -, rfl⟩ := parsed
    rfl
  case usersRole =>
    obtain ⟨_, -, _, -, rfl⟩ := parsed
    rfl
  case usersActive =>
    obtain ⟨_, -, rfl⟩ := parsed
    rfl

/-! ## Handlers one by one -/

section Bodies

variable {stored : SessionData} {state : RequestState Hash} {parameters : List String}

theorem keeps_page {found : Site Hash → Prop} {kept : Site Hash → Site Hash → Prop} {shown : Page}
    (given : shown.program app fresh request state parameters = some program)
    (still : ∀ site, kept site site) : Keeps siteSemantics found kept program :=
  keeps_of_reads (Page.uses_program given) still

theorem keeps_work {found : Site Hash → Prop} {kept : Site Hash → Site Hash → Prop} {asked : Work}
    (given : (Endpoint.work asked).program app fresh accounts request stored state parameters =
      some program) (still : ∀ before after, after.2 = before.2 → kept before after) :
    Keeps siteSemantics found kept program := by
  obtain ⟨handler, -, rfl⟩ := Option.map_eq_some_iff.mp given
  exact Keeps.bind (keeps_ofWorld handler.handler still) fun _ => trivial

theorem administration_program {asked : Administration}
    (given : (Endpoint.administration asked).program app fresh accounts request stored state
      parameters = some program) :
    ∃ author taken, asked.request? app fresh request stored author parameters = some taken ∧
      taken.asked = asked ∧
      program = (ofAccounts (taken.program app.hasher (app.service accounts))).bind answer := by
  obtain ⟨taken, parsed, rfl⟩ := Option.map_eq_some_iff.mp given
  exact ⟨_, taken, parsed, asked_of_request? parsed, rfl⟩

/-- Handlers of accounts leave work alone. -/
theorem keeps_work_of_administration {found : Site Hash → Prop} {asked : Administration}
    (given : (Endpoint.administration asked).program app fresh accounts request stored state
      parameters = some program) : Keeps siteSemantics found SameWork program := by
  obtain ⟨author, taken, -, -, rfl⟩ := administration_program given
  refine Keeps.bind ?_ (keeps_answer fun _ => .of_world rfl)
  have free : Keeps accountSemantics (fun _ => True) (fun _ _ => True)
      (taken.program app.hasher (app.service accounts)) :=
    Coroutine.keeps_of_spares (fun op event before outcome after _ _ => trivial) _
  exact keeps_ofAccounts free (fun _ _ => trivial) fun _ _ _ same => .of_world same

theorem keeps_settings_of_administration {found : Site Hash → Prop} {asked : Administration}
    (other : asked ≠ .settingsSave)
    (given : (Endpoint.administration asked).program app fresh accounts request stored state
      parameters = some program) : Keeps siteSemantics found SameSettings program := by
  obtain ⟨author, taken, -, came, rfl⟩ := administration_program given
  refine Keeps.bind ?_ (keeps_answer fun _ => ⟨rfl, rfl⟩)
  refine keeps_ofAccounts (AccountRequest.keeps_settings _ _ ?_) (fun _ _ => trivial)
    fun _ _ same _ => same
  rintro language rfl
  exact other came.symm

/-- A setup form that fails, or whose name is taken, adds nobody. -/
theorem keeps_users_of_setup {salt username password passwordAgain : String}
    (fails : ¬ (password = passwordAgain ∧ tooShort password = false ∧ strip username ≠ "" ∧
      accounts.users.named (strip username) = none)) :
    Keeps accountSemantics (NamesKept accounts) (fun before after => after.users = before.users)
      (setupSubmit app.hasher salt username password passwordAgain) := by
  unfold setupSubmit
  split
  · trivial
  · rename_i filled
    have taken : accounts.users.named (strip username) ≠ none := by
      intro free
      simp only [not_or, not_not, Bool.not_eq_true] at filled
      exact fails ⟨filled.1, filled.2.1, filled.2.2, free⟩
    have waits {op : AccountOp Hash} (other : ∀ writes, op ≠ .commit writes) :
        Keeps accountSemantics (NamesKept accounts) (fun before after => after.users = before.users)
          (AccountProgram.perform op) :=
      (@Coroutine.uses_perform (AccountAsync Hash) _ op).mpr (spares_users other)
    refine Keeps.bind ?_ fun added => ?_
    · exact (@Coroutine.uses_perform (AccountAsync Hash) _ _).mpr (spares_users_of_taken taken)
    · refine Keeps.bind (waits (by simp)) fun user => ?_
      exact Keeps.bind (waits (by simp)) fun _ => trivial

end Bodies

/-! ## Where the rule holds -/

theorem setup_route : ∀ route ∈ routes, route.endpoint = .administration .setupSubmit →
    route.method = "POST" ∧ route.pieces = [.text "/setup"] := by
  decide

theorem posts_apart : ∀ route ∈ routes, route.method = "POST" →
    (startsWith route.start "/static" || startsWith "/static" route.start) = false := by
  decide

/-- The token of the form is that of the session, since no form holds the one just issued. -/
theorem token_of_passes {stored : SessionData} {submitted : Option String} {path : String}
    (dynamic : startsWith path "/static" = false)
    (passed : passesCsrf "POST" path (stored.token fresh.csrf) submitted = true)
    (secret : submitted ≠ some fresh.csrf) :
    ∃ token, submitted = some token ∧ stored.csrf = some token := by
  rw [passesCsrf, if_neg (by simp), dynamic, if_neg Bool.false_ne_true] at passed
  have same : submitted.getD "" ≠ "" ∧ stored.token fresh.csrf = submitted.getD "" := by
    split at passed
    · rename_i matched compared
      rw [passed] at compared
      simp only [csrfMatches, Option.getD_some] at compared
      split at compared
      · cases compared
      · rename_i filled
        split at compared
        · exact ⟨(not_or.mp filled).2, of_decide_eq_true (Except.ok.inj compared)⟩
        · cases compared
    · cases passed
  obtain ⟨filled, same⟩ := same
  cases submitted with
  | none => exact absurd rfl filled
  | some token =>
      refine ⟨token, rfl, ?_⟩
      unfold SessionData.token at same
      split at same
      · rename_i kept found
        rw [same] at found
        exact Option.eq_some_of_filter_eq_some found
      · exact absurd (congrArg some same.symm) secret

theorem not_served_of_needs {role : UserRole}
    (below : Below (visitor app request accounts) role)
    (needs : route.endpoint.needs = some role) :
    serve app fresh request accounts ≠ some (route, program) := by
  intro served
  obtain ⟨account, known, may⟩ := can_of_needs needs served
  simp [below account known] at may

theorem mem_of_lastValue {fields : List (String × String)} {name value : String}
    (found : lastValue fields name = some value) : ∃ field ∈ fields, field.2 = value := by
  obtain ⟨field, last, rfl⟩ := Option.map_eq_some_iff.mp found
  exact ⟨field, List.mem_reverse.mp (List.mem_of_find?_eq_some last), rfl⟩

theorem setup_request {stored : SessionData} {author : String} {parameters : List String}
    {taken : AccountRequest} (parsed : Administration.setupSubmit.request? app fresh request stored
      author parameters = some taken) :
    ∃ username password passwordAgain, request.required "username" = some username ∧
      request.required "password" = some password ∧
      request.required "password_again" = some passwordAgain ∧
      taken = .setupSubmit fresh.salt username password passwordAgain := by
  simp only [Administration.request?, bind, Option.bind_eq_some_iff, Option.pure_def,
    Option.some.injEq] at parsed
  obtain ⟨username, name, password, word, passwordAgain, again, rfl⟩ := parsed
  exact ⟨username, password, passwordAgain, name, word, again, rfl⟩

/-- The setup handler runs only while no account is known of, and then it may add one. -/
theorem keeps_users_of_served_setup (ordinary : ¬ FirstRun app fresh request accounts)
    (below : Below (visitor app request accounts) .admin)
    (endpoint : route.endpoint = .administration .setupSubmit)
    (served : serve app fresh request accounts = some (route, program)) :
    Keeps siteSemantics (Since accounts) SameUsers program := by
  obtain ⟨runs, parameters, routed, passed, given⟩ := serve_eq_some served
  obtain ⟨listed, method, matched⟩ := mem_of_route? routed
  obtain ⟨posts, pieces⟩ := setup_route route listed endpoint
  rw [posts] at method
  rw [pieces] at matched
  have path : request.path = "/setup" := String.toList_injective (eq_of_matchPieces matched)
  rw [path, ← method] at runs passed
  have unknown : accounts.hasUsers = false := by
    cases known : accounts.hasUsers with
    | false => rfl
    | true =>
        rw [known] at runs
        cases runs
  rw [endpoint] at given
  obtain ⟨author, taken, parsed, -, rfl⟩ := administration_program given
  obtain ⟨username, password, passwordAgain, name, word, again, rfl⟩ := setup_request parsed
  refine Keeps.bind (keeps_ofAccounts (keeps_users_of_setup ?_) (fun _ since => since)
    fun _ _ same _ => same) (keeps_answer fun _ => rfl)
  rintro ⟨rfl, long, filled, free⟩
  exact ordinary
    { unknown := unknown
      below := below
      posts := method.symm
      path := path
      token := passed
      fills := ⟨username, password, name, word, again, long, filled, free⟩ }

theorem guarded_of_not_firstRun (ordinary : ¬ FirstRun app fresh request accounts)
    (secret : ∀ field ∈ request.form, field.2 ≠ fresh.csrf)
    (served : serve app fresh request accounts = some (route, program)) :
    Guarded app request accounts route program := by
  obtain ⟨-, parameters, routed, passed, given⟩ := serve_eq_some served
  obtain ⟨listed, method, -⟩ := mem_of_route? routed
  constructor
  case work =>
    intro below
    cases endpoint : route.endpoint with
    | page shown =>
        rw [endpoint] at given
        exact keeps_page given fun _ => .of_world rfl
    | work asked =>
        exact absurd served (not_served_of_needs below (by rw [endpoint]; rfl))
    | administration asked =>
        rw [endpoint] at given
        exact keeps_work_of_administration given
  case settings =>
    intro below
    cases endpoint : route.endpoint with
    | page shown =>
        rw [endpoint] at given
        exact keeps_page given fun _ => ⟨rfl, rfl⟩
    | work asked =>
        rw [endpoint] at given
        exact keeps_work given fun before after same => ⟨by rw [same], by rw [same]⟩
    | administration asked =>
        by_cases saves : asked = .settingsSave
        · exact absurd served (not_served_of_needs below (by rw [endpoint, saves]; rfl))
        · rw [endpoint] at given
          exact keeps_settings_of_administration saves given
  case users =>
    intro below outside
    cases endpoint : route.endpoint with
    | page shown =>
        rw [endpoint] at given
        exact keeps_page given fun _ => rfl
    | work asked =>
        rw [endpoint] at given
        exact keeps_work given fun before after same => congrArg Accounts.users same
    | administration asked =>
        cases asked with
        | setupSubmit => exact keeps_users_of_served_setup ordinary below endpoint served
        | loginSubmit => simp [endpoint, Endpoint.signsIn] at outside
        | oidcCallback => simp [endpoint, Endpoint.signsIn] at outside
        | settingsSave => exact absurd served (not_served_of_needs below (by rw [endpoint]; rfl))
        | usersRole => exact absurd served (not_served_of_needs below (by rw [endpoint]; rfl))
        | usersActive => exact absurd served (not_served_of_needs below (by rw [endpoint]; rfl))
  case token =>
    intro posts
    rw [posts] at passed
    refine token_of_passes ?_ passed fun issued => ?_
    · exact not_startsWith (startsWith_of_route? routed)
        (posts_apart route listed (method.trans posts))
    · obtain ⟨field, listed, same⟩ := mem_of_lastValue issued
      exact secret field listed same

/-- Adding somebody whose name is free changes the users. -/
theorem not_spares_of_free {user : User Hash} {entry : AuditEntry}
    (free : accounts.users.named user.username = none) :
    ¬ siteSemantics.Spares (Since accounts) SameUsers
      (.inl (.inr (.commit [.addUser user, .addAudit entry]))) := by
  intro spares
  obtain ⟨users, inserted⟩ := UserTable.exists_insert free
  let world := (System.blank Database.empty ⟨[], [], []⟩).world
  let after : Accounts Hash := { accounts with users := users, audit := accounts.audit ++ [entry] }
  have stored : accounts.writeAll 0 [.addUser user, .addAudit entry] =
      some (after, accounts.users.table.nextId) := by
    simp [Accounts.writeAll, Accounts.write, inserted, after]
  have performed : siteSemantics.perform (.inl (.inr (.commit [.addUser user, .addAudit entry])))
      (.inl (.inr .proceed)) (world, accounts) =
        some (.ok accounts.users.table.nextId, (world, after)) := by
    simp only [siteSemantics, Semantics.sum, Semantics.onSnd, accountSemantics, AccountOp.perform,
      stored]
    rfl
  have same : users = accounts.users :=
    spares _ (world, accounts) _ (world, after) (fun _ taken => taken) performed
  have listed := (UserTable.mem_insert inserted).mpr (.inr rfl)
  rw [same] at listed
  exact UserTable.named_eq_none_iff.mp free (List.mem_map.mpr ⟨_, listed, rfl⟩)

theorem awaits_setupSubmit {hasher : PasswordHasher Hash} {salt username password : String}
    (long : tooShort password = false) (filled : strip username ≠ "") :
    (setupSubmit hasher salt username password password).awaits =
      some (.commit [.addUser (localAdmin (strip username) (hasher.hash salt password)),
        .addAudit { actor := strip username, action := "user.create", target := username }]) := by
  rw [setupSubmit, if_neg (by simp [long, filled])]
  rfl

/-- The first run lets anybody add an administrator. -/
theorem not_guarded_of_firstRun (first : FirstRun app fresh request accounts) :
    ∃ route program, serve app fresh request accounts = some (route, program) ∧
      ¬ Guarded app request accounts route program := by
  obtain ⟨username, password, name, word, again, long, filled, free⟩ := first.fills
  have served : serve app fresh request accounts =
      some (⟨"POST", [.text "/setup"], .administration .setupSubmit⟩,
        (ofAccounts (setupSubmit app.hasher fresh.salt username password password)).bind answer) := by
    have runs : dispatch "POST" "/setup" false (visitor app request accounts) = .run := by rfl
    have routed : route? "POST" "/setup" =
        some (⟨"POST", [.text "/setup"], .administration .setupSubmit⟩, []) := by decide
    simp only [serve, first.path, first.posts, first.unknown, runs, routed, first.token, if_true,
      Option.bind_some, Endpoint.program, Administration.request?, name, word, again, bind,
      Option.pure_def, Option.map_some, AccountRequest.program]
  refine ⟨_, _, served, fun guarded => ?_⟩
  have awaited : ((ofAccounts (setupSubmit app.hasher fresh.salt username password password)).bind
      answer).awaits = some (.inl (.inr (.commit
        [.addUser (localAdmin (strip username) (app.hasher.hash fresh.salt password)),
          .addAudit { actor := strip username, action := "user.create", target := username }]))) := by
    refine Coroutine.awaits_bind ?_
    rw [ofAccounts, Coroutine.awaits_left, Coroutine.awaits_right, awaits_setupSubmit long filled]
    rfl
  have spares := (guarded.users first.below (by decide)).spares awaited
  have adds := @not_spares_of_free Hash accounts
    (localAdmin (strip username) (app.hasher.hash fresh.salt password))
  exact adds free spares

/-- The rule holds of every request, and of whatever it runs, if and only if the request is not
the first run. -/
theorem guarded_iff (secret : ∀ field ∈ request.form, field.2 ≠ fresh.csrf) :
    (∀ route program, serve app fresh request accounts = some (route, program) →
      Guarded app request accounts route program) ↔ ¬ FirstRun app fresh request accounts := by
  constructor
  · intro rule first
    obtain ⟨route, program, served, broken⟩ := not_guarded_of_firstRun first
    exact broken (rule route program served)
  · intro ordinary route program served
    exact guarded_of_not_firstRun ordinary secret served

end Served

/-! ## The first two accounts -/

namespace Guard

def app : App (String × String) where
  hasher := Sample.hasher
  unsign := fun cookie =>
    if cookie = "signed" then some { csrf := some "token" }
    else if cookie = "signed for jana" then some { uid := some 2, csrf := some "token" }
    else none
  oidc := none
  settings := {}
  parseInt := String.toInt?
  parseBool := fun _ => none

def fresh : Fresh := ⟨"issued", "salt", "state", "verifier"⟩

/-- Somebody without an account fills in the setup page. -/
def signUp : HttpRequest where
  method := "POST"
  path := "/setup"
  cookie := some "signed"
  query := []
  form := [("csrf_token", "token"), ("username", "mallory"), ("password", "correct horse"),
    ("password_again", "correct horse")]

/-- The first account is stored, but its handler has yet to set `has_users`. -/
def halfway : List AccountLabel :=
  [.arrive (.setupSubmit "salt" "root" "correct horse" "correct horse"), .serve 0 .proceed]

/-- An operator discards a snapshot. -/
def discard : HttpRequest where
  method := "POST"
  path := "/snapshots/discard"
  cookie := some "signed for jana"
  query := []
  form := [("csrf_token", "token"), ("name", "old-main")]

def known : Accounts (String × String) :=
  (Sample.office (Sample.table [{ username := "root", role := .admin },
    { username := "jana", role := .operator }]) none).accounts

end Guard

/-- An operator's request is served, and keeps accounts and settings as they are. -/
theorem guarded_discard : ∃ route program,
    serve Guard.app Guard.fresh Guard.discard Guard.known = some (route, program) ∧
      Guarded Guard.app Guard.discard Guard.known route program := by
  have runs : (serve Guard.app Guard.fresh Guard.discard Guard.known).isSome = true := by
    decide +kernel
  obtain ⟨⟨route, program⟩, served⟩ := Option.isSome_iff_exists.mp runs
  have known : ¬ FirstRun Guard.app Guard.fresh Guard.discard Guard.known := fun first =>
    absurd first.unknown (by decide)
  exact ⟨route, program, served, (guarded_iff (by decide)).mpr known route program served⟩

/-- An account exists, and a stranger becomes the second administrator. -/
theorem not_guarded : ¬ ∀ (service : AccountService (String × String)),
    (accountService Sample.hasher).Reaches (fun _ _ => True) (Sample.office .empty none) service →
      service.accounts.users.rows ≠ [] → ∀ (request : HttpRequest) (fresh : Fresh),
        (∀ field ∈ request.form, field.2 ≠ fresh.csrf) → ∀ route program,
          serve Guard.app fresh request service.accounts = some (route, program) →
            Guarded Guard.app request service.accounts route program := by
  intro claimed
  have runs : ((accountService Sample.hasher).runUnder (fun _ _ => true)
      (Sample.office .empty none) Guard.halfway).any (fun service =>
        !service.accounts.hasUsers && !service.accounts.users.rows.isEmpty &&
          (service.accounts.users.named "mallory").isNone) = true := by
    decide
  obtain ⟨service, ran, stranger⟩ := (Option.any_eq_true _ _).mp runs
  simp only [Bool.and_eq_true, Bool.not_eq_true', Option.isNone_iff_eq_none] at stranger
  obtain ⟨⟨unknown, someone⟩, free⟩ := stranger
  have reached := (Transition.Reaches.of_runUnder ran).mono fun _ _ _ => trivial
  have first : FirstRun Guard.app Guard.fresh Guard.signUp service.accounts :=
    { unknown := unknown
      below := fun account known => by cases known
      posts := rfl
      path := rfl
      token := by decide
      fills := ⟨"mallory", "correct horse", by decide, by decide, by decide, by decide, by decide,
        free⟩ }
  obtain ⟨route, program, served, broken⟩ := not_guarded_of_firstRun first
  refine broken (claimed service reached ?_ Guard.signUp Guard.fresh (by decide) route program served)
  intro empty
  simp [empty] at someone

end AptlyGui
