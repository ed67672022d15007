import Mathlib.Logic.Equiv.List
import AptlyGui.Web.Sessions

/-!
# Who acts, and for how long

A request acts for an account only with a cookie that signing in to it has
given, and only as long as that cookie lasts: nothing ever prolongs it.  And as
the key outlives the process, so do the sessions.
-/

namespace AptlyGui

open Coroutine (returns_bind)
open SiteProgram

variable {Hash : Type}

/-! ## What handlers answer -/

/-- The handlers that open a session. -/
def Endpoint.opensSessions (endpoint : Endpoint) : Bool :=
  endpoint ∈ [.administration .setupSubmit, .administration .loginSubmit,
    .administration .oidcCallback]

/-- No other handler opens one, and who is sent to the provider takes nobody's session along. -/
def Endpoint.MayAnswer (endpoint : Endpoint) : SiteResponse → Prop
  | .account (.signIn _ _) => endpoint.opensSessions = true
  | .leave _ session => session.uid = none
  | _ => True

section Answers

variable {app : App Hash} {fresh : Fresh} {accounts : Accounts Hash} {request : HttpRequest}
  {stored : SessionData} {state : RequestState Hash} {parameters : List String}
  {endpoint : Endpoint} {program : SiteProgram Hash SiteResponse}

theorem page_returns (template : String) :
    (page template : SiteProgram Hash SiteResponse).Returns endpoint.MayAnswer :=
  returns_bind fun _ => trivial

theorem discardSetConfirm_returns (setId snapshotSetId : Nat) :
    (discardSetConfirm setId snapshotSetId : SiteProgram Hash SiteResponse).Returns
      endpoint.MayAnswer := by
  refine returns_bind fun snapshotSet => returns_bind fun mirrorSet => ?_
  split
  · exact page_returns _
  · exact returns_bind fun _ => page_returns _

theorem setDeleteConfirm_returns (setId : Nat) :
    (setDeleteConfirm setId : SiteProgram Hash SiteResponse).Returns endpoint.MayAnswer := by
  refine returns_bind fun found => ?_
  split
  · exact page_returns _
  · exact returns_bind fun _ => returns_bind fun _ => page_returns _

theorem setDetail_returns (setId : Nat) :
    (setDetail setId : SiteProgram Hash SiteResponse).Returns endpoint.MayAnswer := by
  refine returns_bind fun found => ?_
  split
  · exact page_returns _
  · exact returns_bind fun _ => returns_bind fun _ => returns_bind fun _ => page_returns _

theorem jobDetail_returns (jobId : Nat) :
    (jobDetail jobId : SiteProgram Hash SiteResponse).Returns endpoint.MayAnswer := by
  refine returns_bind fun found => ?_
  split
  · exact page_returns _
  · exact page_returns _

theorem loginForm_returns (user : Option (User Hash)) :
    (loginForm user).Returns endpoint.MayAnswer := by
  cases user with
  | some user => trivial
  | none => exact page_returns _

theorem oidcStart_returns (client : Option OidcClient) (fresh : Fresh) (csrf next : String) :
    (oidcStart client fresh csrf next : SiteProgram Hash SiteResponse).Returns
      endpoint.MayAnswer := by
  cases client with
  | none => trivial
  | some client =>
      refine returns_bind fun outcome => ?_
      split
      · exact rfl
      · exact page_returns _
      · trivial

theorem Page.returns {shown : Page}
    (given : shown.program app fresh request state parameters = some program) :
    program.Returns endpoint.MayAnswer := by
  cases shown with
  | dashboard | mirrors | setsIndex | jobsIndex | usersIndex =>
      cases given
      exact returns_bind fun _ => page_returns _
  | snapshots | adoptForm =>
      cases given
      exact returns_bind fun _ => returns_bind fun _ => page_returns _
  | discardConfirm | mirrorDeleteConfirm =>
      obtain ⟨name, -, rfl⟩ := Option.map_eq_some_iff.mp given
      exact returns_bind fun _ => returns_bind fun _ => page_returns _
  | publications | newSetForm | setupForm | statusPartial =>
      cases given
      exact page_returns _
  | discardSetConfirm =>
      obtain ⟨ids, -, rfl⟩ := Option.map_eq_some_iff.mp given
      exact discardSetConfirm_returns _ _
  | setDeleteConfirm =>
      obtain ⟨setId, -, rfl⟩ := Option.map_eq_some_iff.mp given
      exact setDeleteConfirm_returns setId
  | setDetail =>
      obtain ⟨setId, -, rfl⟩ := Option.map_eq_some_iff.mp given
      exact setDetail_returns setId
  | jobDetail =>
      obtain ⟨jobId, -, rfl⟩ := Option.map_eq_some_iff.mp given
      exact jobDetail_returns jobId
  | jobPartial =>
      obtain ⟨jobId, -, rfl⟩ := Option.map_eq_some_iff.mp given
      exact returns_bind fun _ => page_returns _
  | loginForm =>
      cases given
      exact loginForm_returns _
  | logout =>
      cases given
      trivial
  | oidcStart =>
      cases given
      exact oidcStart_returns _ _ _ _
  | settingsForm =>
      simp only [Page.program] at given
      split at given
      · cases given
        exact page_returns _
      · cases given
  | healthz =>
      cases given
      exact returns_bind fun _ => trivial

/-- Administration answers with plain pages and redirects. -/
def AccountResponse.IsPlain (response : AccountResponse) : Prop :=
  ∃ plain, response = .plain plain

theorem usersRole_returns (author : String) (userId : Nat) (role : String) :
    (usersRole author userId role : AccountProgram Hash AccountResponse).Returns
      AccountResponse.IsPlain := by
  refine returns_bind fun found => ?_
  split
  · exact ⟨_, rfl⟩
  · refine returns_bind fun refused => ?_
    split
    · exact ⟨_, rfl⟩
    · exact returns_bind fun _ => ⟨_, rfl⟩

theorem usersActive_returns (author : String) (userId : Nat) (active : String) :
    (usersActive author userId active : AccountProgram Hash AccountResponse).Returns
      AccountResponse.IsPlain := by
  refine returns_bind fun found => ?_
  split
  · exact ⟨_, rfl⟩
  · dsimp only
    split
    · refine returns_bind fun refused => ?_
      split
      · exact ⟨_, rfl⟩
      · exact returns_bind fun _ => ⟨_, rfl⟩
    · refine returns_bind fun refused => ?_
      split
      · exact ⟨_, rfl⟩
      · exact returns_bind fun _ => ⟨_, rfl⟩

theorem answer_returns {response : AccountResponse}
    (may : endpoint.opensSessions = true ∨ response.IsPlain) :
    (answer response : SiteProgram Hash SiteResponse).Returns endpoint.MayAnswer := by
  unfold answer
  split
  · exact page_returns _
  · cases response with
    | plain response => trivial
    | signIn uid url =>
        rcases may with opens | ⟨plain, same⟩
        · exact opens
        · cases same

theorem administration_returns {asked : Administration}
    (given : (Endpoint.administration asked).program app fresh accounts request stored state
      parameters = some program) : program.Returns (Endpoint.administration asked).MayAnswer := by
  obtain ⟨author, taken, -, same, rfl⟩ := administration_program given
  by_cases opens : (Endpoint.administration asked).opensSessions = true
  · exact returns_bind fun response => answer_returns (.inl opens)
  · have plain : (taken.program app.hasher (app.service accounts)).Returns
        AccountResponse.IsPlain := by
      subst same
      cases taken with
      | setupSubmit | loginSubmit | oidcCallback => exact absurd rfl opens
      | usersRole author userId role => exact usersRole_returns _ _ _
      | usersActive author userId active => exact usersActive_returns _ _ _
      | settingsSave language => exact returns_bind fun _ => returns_bind fun _ => ⟨_, rfl⟩
    exact plain.right.left.bind fun response plain => answer_returns (.inr plain)

theorem Endpoint.returns
    (given : endpoint.program app fresh accounts request stored state parameters = some program) :
    program.Returns endpoint.MayAnswer := by
  cases endpoint with
  | page shown => exact Page.returns given
  | work asked =>
      obtain ⟨handler, -, rfl⟩ := Option.map_eq_some_iff.mp given
      exact returns_bind fun _ => trivial
  | administration asked => exact administration_returns given

theorem serve_returns {route : Route}
    (served : serve app fresh request accounts = some (route, program)) :
    program.Returns route.endpoint.MayAnswer := by
  obtain ⟨-, parameters, -, -, given⟩ := serve_eq_some served
  exact Endpoint.returns given

end Answers

/-! ## The clock -/

theorem Accounts.clock_of_writeAll {writes : List (AccountWrite Hash)} {before after : Accounts Hash}
    {added last : Nat} (stored : before.writeAll added writes = some (after, last)) :
    after.clock = before.clock := by
  induction writes generalizing before added with
  | nil =>
      cases stored
      rfl
  | cons write rest inductionHypothesis =>
      obtain ⟨⟨next, id⟩, wrote, stored⟩ := Option.bind_eq_some_iff.mp stored
      refine (inductionHypothesis stored).trans ?_
      cases write with
      | addUser user =>
          obtain ⟨users, -, same⟩ := Option.map_eq_some_iff.mp wrote
          cases same
          rfl
      | change id change =>
          cases wrote
          rfl
      | addAudit entry =>
          cases wrote
          rfl
      | setLanguage value =>
          cases wrote
          rfl

/-- No operation of a handler makes time pass. -/
theorem spares_clock (op : (SiteAsync Hash).Op) : siteSemantics.Spares (fun _ => True)
    (fun before after => after.2.clock = before.2.clock) op := by
  rcases op with (op | op) | op
  · have free : semantics.Spares (fun _ => True) (fun _ _ => True) op :=
      fun _ _ _ _ _ _ => trivial
    refine Semantics.Spares.inl (Semantics.Spares.inl (free.onFst.mono (fun _ _ => trivial) ?_))
    exact fun before after same => congrArg Accounts.clock same.2
  · have timeless : accountSemantics.Spares (fun _ => True)
        (fun before after => after.clock = before.clock) op := by
      intro event before outcome after _ performed
      rcases AccountOp.perform_cases performed with
        rfl | ⟨writes, added, -, stored⟩ | ⟨-, rfl⟩ | ⟨value, -, rfl⟩
      · rfl
      · exact Accounts.clock_of_writeAll stored
      · rfl
      · rfl
    refine Semantics.Spares.inl (Semantics.Spares.inr (timeless.onSnd.mono (fun _ _ => trivial) ?_))
    exact fun before after same => same.1
  · exact Semantics.Spares.inr fun event site outcome after _ performed => by
      rw [PageOp.eq_of_perform performed]

/-! ## What is known of every cookie -/

/-- The response of a handler that opens sessions, to somebody who has signed in. -/
structure Issue.Opens (issue : Issue) (uid : Nat) : Prop where
  handler : ∃ endpoint, issue.endpoint = some endpoint ∧ endpoint.opensSessions = true
  response : ∃ url, issue.response = some (.account (.signIn uid url))
  token : ∃ token, token ≠ "" ∧ issue.payload.csrf = some token

/-- Cookies name somebody only when that one has signed in, and no request is about to renew one
that does. -/
structure Front.Sound (state : Front Hash) : Prop where
  past : ∀ issue ∈ state.issues, issue.time ≤ state.now
  opened : ∀ issue ∈ state.issues, ∀ uid, issue.payload.uid = some uid → issue.Opens uid
  renewed : ∀ asked ∈ state.pending, asked.issued ≠ none → asked.session.uid = none
  answers : ∀ asked ∈ state.pending, ∀ endpoint program, asked.handler = some (endpoint, program) →
    program.Returns endpoint.MayAnswer

section Sound

variable {serializer : Serializer} {state after : Front Hash} {process : Process Hash}
  {fresh : Fresh} {request : HttpRequest}

/-- A session that names somebody comes from a cookie of the service that is not too old. -/
theorem Front.Sound.issue_of_session (sound : state.Sound) (up : state.process = some process)
    (honest : state.honest serializer (.arrive fresh request)) {session : SessionData}
    (read : readSession (process.appAt serializer state.now).unsign request.cookie = session)
    {uid : Nat} (named : session.uid = some uid) :
    ∃ issue ∈ state.issues, issue.secretKey = process.secretKey ∧
      request.cookie = some (issue.cookie serializer) ∧ issue.payload = session ∧
      state.now.seconds - issue.time.seconds ≤ process.maxAge := by
  subst read
  unfold readSession at named ⊢
  split at named
  · cases named
  · rename_i raw carried
    have cookie := Option.eq_some_of_filter_eq_some carried
    cases loaded : serializer.loads process.secretKey state.now process.maxAge raw with
    | none =>
        simp [Process.appAt, loaded] at named
    | some payload =>
        obtain ⟨issue, listed, sameKey, same⟩ :=
          honest.2 process up raw payload cookie loaded
        have again := serializer.loads_dumps issue.secretKey state.now process.maxAge issue.time
          issue.payload (sound.past issue listed)
        rw [← Issue.cookie, same, sameKey, loaded] at again
        split at again
        · rename_i young
          cases again
          refine ⟨issue, listed, sameKey, by rw [cookie, same], ?_, young⟩
          simp [Process.appAt, loaded]
        · cases again

/-- The guard issues a token only where nobody is signed in. -/
theorem Front.Sound.take (sound : state.Sound) (up : state.process = some process)
    (honest : state.honest serializer (.arrive fresh request))
    (renews : (process.take serializer fresh request state.site.2).issued ≠ none) :
    (process.take serializer fresh request state.site.2).session.uid = none := by
  let session := readSession (process.appAt serializer state.now).unsign request.cookie
  change session.uid = none
  cases named : session.uid with
  | none => rfl
  | some uid =>
      obtain ⟨issue, listed, -, -, same, -⟩ := sound.issue_of_session up honest rfl named
      have opens := sound.opened issue listed uid (same ▸ named)
      obtain ⟨token, filled, csrf⟩ := opens.token
      have given : session.csrf = some token := (congrArg SessionData.csrf same).symm.trans csrf
      exact absurd (if_neg (filter_of_filled given filled ▸ Option.some_ne_none token)) renews

/-- A response names somebody only when a handler that may has signed him in. -/
theorem Pending.opens_of_writes {asked : Pending Hash} {token secretKey : String} {time : Time}
    {payload : SessionData} {response : Option SiteResponse} {uid : Nat} (filled : token ≠ "")
    (renewed : asked.issued ≠ none → asked.session.uid = none)
    (answers : ∀ endpoint program, asked.handler = some (endpoint, program) →
      program.Returns endpoint.MayAnswer)
    (answered : asked.answer? = some response) (wrote : asked.writes token response = some payload)
    (named : payload.uid = some uid) :
    Issue.Opens ⟨secretKey, time, payload, asked.handler.map Prod.fst, response⟩ uid := by
  have unnamed : (asked.issued.map fun issued => { asked.session with csrf := some issued }) ≠
      some payload := by
    intro given
    obtain ⟨issued, known, rfl⟩ := Option.map_eq_some_iff.mp given
    have nobody := renewed (known ▸ Option.some_ne_none issued)
    exact absurd (nobody.symm.trans named) (by simp)
  unfold Pending.answer? at answered
  split at answered
  · cases answered
    exact absurd wrote unnamed
  · rename_i endpoint answer ended
    cases answered
    have may := answers endpoint _ ended
    cases answer with
    | account plain =>
        cases plain with
        | plain page => exact absurd wrote unnamed
        | signIn id url =>
            cases wrote
            cases named
            exact ⟨⟨endpoint, by rw [ended]; rfl, may⟩, ⟨url, rfl⟩, ⟨token, filled, rfl⟩⟩
    | signOut url => cases wrote
    | leave url session =>
        cases wrote
        exact absurd (Eq.trans (Eq.symm may) named) (by simp)
    | health cached => exact absurd wrote unnamed
  · cases answered

/-- No cookie is from the future. -/
theorem Front.past_of_step {label : FrontLabel Hash}
    (past : ∀ issue ∈ state.issues, issue.time ≤ state.now)
    (stepped : (front serializer).step state label = some after) :
    ∀ issue ∈ after.issues, issue.time ≤ after.now := by
  intro issue listed
  cases label with
  | arrive fresh request =>
      obtain ⟨process, up, rfl⟩ := Option.map_eq_some_iff.mp stepped
      exact past issue listed
  | serve index event =>
      obtain ⟨asked, found, stepped⟩ := Option.bind_eq_some_iff.mp stepped
      obtain ⟨⟨endpoint, program⟩, taken, stepped⟩ := Option.bind_eq_some_iff.mp stepped
      obtain ⟨⟨next, site⟩, resumed, rfl⟩ := Option.map_eq_some_iff.mp stepped
      obtain ⟨op, resume, outcome, -, performed, -⟩ := Coroutine.step_eq_some resumed
      have still : site.2.clock = state.now :=
        spares_clock op event state.site outcome site trivial performed
      exact (past issue listed).trans_eq still.symm
  | respond index token =>
      obtain ⟨asked, found, stepped⟩ := Option.bind_eq_some_iff.mp stepped
      obtain ⟨response, answered, stepped⟩ := Option.bind_eq_some_iff.mp stepped
      obtain ⟨process, -, rfl⟩ := Option.map_eq_some_iff.mp stepped
      rcases List.mem_append.mp listed with new | old
      · obtain ⟨payload, -, rfl⟩ := Option.map_eq_some_iff.mp (Option.mem_toList.mp new)
        exact le_rfl
      · exact past issue old
  | tick elapsed =>
      cases stepped
      exact (past issue listed).trans (Nat.le_add_right _ _)
  | drop | elsewhere | stop | start =>
      cases stepped
      exact past issue listed

/-- What one step of the service preserves. -/
theorem Front.Sound.step {label : FrontLabel Hash} (sound : state.Sound)
    (honest : state.honest serializer label)
    (stepped : (front serializer).step state label = some after) : after.Sound := by
  have past := Front.past_of_step sound.past stepped
  cases label with
  | arrive fresh request =>
      obtain ⟨process, up, rfl⟩ := Option.map_eq_some_iff.mp stepped
      refine ⟨past, sound.opened, fun asked listed => ?_, fun asked listed => ?_⟩
      · rcases List.mem_append.mp listed with earlier | here
        · exact sound.renewed asked earlier
        · obtain rfl := List.mem_singleton.mp here
          exact sound.take up honest
      · rcases List.mem_append.mp listed with earlier | here
        · exact sound.answers asked earlier
        · obtain rfl := List.mem_singleton.mp here
          intro endpoint program taken
          obtain ⟨⟨route, body⟩, served, same⟩ := Option.map_eq_some_iff.mp taken
          cases same
          exact serve_returns served
  | serve index event =>
      obtain ⟨asked, found, stepped⟩ := Option.bind_eq_some_iff.mp stepped
      obtain ⟨⟨endpoint, program⟩, taken, stepped⟩ := Option.bind_eq_some_iff.mp stepped
      obtain ⟨⟨next, site⟩, resumed, rfl⟩ := Option.map_eq_some_iff.mp stepped
      have known := List.mem_of_getElem? found
      refine ⟨past, sound.opened, fun other listed => ?_, fun other listed => ?_⟩
      · rcases List.mem_or_eq_of_mem_set listed with earlier | rfl
        · exact sound.renewed other earlier
        · exact sound.renewed asked known
      · rcases List.mem_or_eq_of_mem_set listed with earlier | rfl
        · exact sound.answers other earlier
        · rintro _ _ ⟨⟩
          exact (sound.answers asked known endpoint _ taken).step resumed
  | respond index token =>
      obtain ⟨asked, found, stepped⟩ := Option.bind_eq_some_iff.mp stepped
      obtain ⟨response, answered, stepped⟩ := Option.bind_eq_some_iff.mp stepped
      obtain ⟨process, -, rfl⟩ := Option.map_eq_some_iff.mp stepped
      have known := List.mem_of_getElem? found
      refine ⟨past, fun issue listed uid named => ?_,
        fun other listed => sound.renewed other (List.mem_of_mem_eraseIdx listed),
        fun other listed => sound.answers other (List.mem_of_mem_eraseIdx listed)⟩
      rcases List.mem_append.mp listed with new | old
      · obtain ⟨payload, wrote, rfl⟩ := Option.map_eq_some_iff.mp (Option.mem_toList.mp new)
        exact Pending.opens_of_writes honest (sound.renewed asked known)
          (sound.answers asked known) answered wrote named
      · exact sound.opened issue old uid named
  | drop index =>
      cases stepped
      exact ⟨past, sound.opened,
        fun other listed => sound.renewed other (List.mem_of_mem_eraseIdx listed),
        fun other listed => sound.answers other (List.mem_of_mem_eraseIdx listed)⟩
  | elsewhere | tick =>
      cases stepped
      exact ⟨past, sound.opened, sound.renewed, sound.answers⟩
  | stop | start =>
      cases stepped
      exact ⟨past, sound.opened, by simp, by simp⟩

theorem Front.Sound.of_new {start : Front Hash} (new : start.New) : start.Sound where
  past := by simp [new.issues]
  opened := by simp [new.issues]
  renewed := by simp [new.pending]
  answers := by simp [new.pending]

theorem Front.Sound.of_reaches {start : Front Hash} (new : start.New)
    (reached : (front serializer).Reaches (Front.honest serializer) start state) : state.Sound :=
  reached.invariant (.of_new new) fun _ _ _ honest stepped sound => sound.step honest stepped

/-! ## Who acts -/

theorem submitted_of_passes {session : SessionData} {submitted : Option String}
    {path issued token : String} (dynamic : startsWith path "/static" = false)
    (passed : passesCsrf "POST" path (session.token issued) submitted = true)
    (known : session.csrf = some token) (filled : token ≠ "") : submitted = some token := by
  have own : session.token issued = token := by
    rw [SessionData.token, filter_of_filled known filled]
  rw [own, passesCsrf, if_neg (by simp), dynamic, if_neg Bool.false_ne_true] at passed
  split at passed
  · rename_i matched compared
    rw [passed] at compared
    simp only [csrfMatches, Option.getD_some] at compared
    split at compared
    · cases compared
    · rename_i given
      split at compared
      · have same := of_decide_eq_true (Except.ok.inj compared)
        cases submitted with
        | none => exact absurd rfl (not_or.mp given).2
        | some text => exact congrArg some same.symm
      · cases compared
  · cases passed

/-- The cookie that a visitor has shown. -/
theorem Front.Sound.issue_of_visitor (sound : state.Sound) (up : state.process = some process)
    (honest : state.honest serializer (.arrive fresh request)) {user : User Hash}
    (known : visitor (process.appAt serializer state.now) request state.site.2 = some user) :
    user ∈ state.site.2.users.rows ∧ ∃ issue ∈ state.issues, issue.Opens user.id ∧
      request.cookie = some (issue.cookie serializer) ∧
      issue.payload = readSession (process.appAt serializer state.now).unsign request.cookie ∧
      state.now.seconds - issue.time.seconds ≤ process.maxAge := by
  unfold visitor Accounts.sessionUser at known
  split at known
  · cases known
  · rename_i uid named
    split at known
    · cases known
    · have found := Option.eq_some_of_filter_eq_some known
      obtain ⟨stored, rfl⟩ := UserTable.get?_eq_some_iff.mp found
      obtain ⟨issue, listed, -, carried, same, young⟩ :=
        sound.issue_of_session up honest rfl named
      exact ⟨stored, issue, listed, sound.opened issue listed _ (same ▸ named), carried, same, young⟩

/-- In every run, a handler that is meant for a role runs only for somebody who has it now and has
signed in, not longer ago than a session lasts, and whose form was made for that session. -/
theorem roles_act_only_after_sign_in {start : Front Hash} {route : Route}
    {program : SiteProgram Hash SiteResponse} {role : UserRole} (new : start.New)
    (reached : (front serializer).Reaches (Front.honest serializer) start state)
    (up : state.process = some process)
    (honest : state.honest serializer (.arrive fresh request))
    (needs : route.endpoint.needs = some role)
    (served : serve (process.appAt serializer state.now) fresh request state.site.2 =
      some (route, program)) :
    ∃ user ∈ state.site.2.users.rows, user.can role = true ∧
      ∃ issue ∈ state.issues, issue.Opens user.id ∧
        request.cookie = some (issue.cookie serializer) ∧ issue.time ≤ state.now ∧
        state.now.seconds - issue.time.seconds ≤ process.maxAge ∧
        lastValue request.form "csrf_token" = issue.payload.csrf := by
  have sound := Front.Sound.of_reaches new reached
  obtain ⟨user, known, may⟩ := can_of_needs needs served
  obtain ⟨stored, issue, listed, opens, carried, same, young⟩ :=
    sound.issue_of_visitor up honest known
  refine ⟨user, stored, may, issue, listed, opens, carried, sound.past issue listed, young, ?_⟩
  obtain ⟨-, parameters, routed, passed, -⟩ := serve_eq_some served
  obtain ⟨offered, method, -⟩ := mem_of_route? routed
  have guarded := routes_guarded route offered
  simp only [Route.isGuarded, needs, Bool.and_eq_true, decide_eq_true_eq] at guarded
  have posts : route.method = "POST" := guarded.1.2
  have dynamic := not_startsWith (startsWith_of_route? routed) (posts_apart route offered posts)
  rw [← method, posts, ← same] at passed
  obtain ⟨token, filled, csrf⟩ := opens.token
  exact (submitted_of_passes dynamic passed csrf filled).trans csrf.symm

end Sound

/-! ## The first administrator -/

namespace SignedIn

instance encodableChar : Encodable Char := .ofLeftInverse Char.toNat Char.ofNat Char.ofNat_toNat

instance encodableString : Encodable String :=
  .ofLeftInverse String.toList String.ofList fun _ => String.ofList_toList

instance encodableSession : Encodable SessionData :=
  .ofLeftInverse
    (fun session => (session.uid, session.csrf, session.oidcState, session.oidcVerifier,
      session.oidcNext))
    (fun fields => ⟨fields.1, fields.2.1, fields.2.2.1, fields.2.2.2.1, fields.2.2.2.2⟩)
    (fun _ => rfl)

/-- A serializer that numbers whatever it may have to sign. -/
def serializer : Serializer where
  dumps secretKey time payload :=
    String.ofList (List.replicate (Encodable.encode (secretKey, time, payload) + 1) '.')
  loads secretKey now maxAge text :=
    (Encodable.decode (text.length - 1) : Option (String × Time × SessionData)).bind fun signed =>
      if signed.1 = secretKey ∧ signed.2.1 ≤ now ∧ now.seconds - signed.2.1.seconds ≤ maxAge then
        some signed.2.2
      else none
  loads_dumps secretKey now maxAge time payload past := by
    simp [past]
  dumps_ne_empty secretKey time payload := by
    simp [List.replicate_succ]

def fresh (csrf : String) : Fresh := ⟨csrf, "salt", "state", "verifier"⟩

def start : Front (String × String) where
  site := ((System.blank Database.empty ⟨[], [], []⟩).world, (Sample.office .empty none).accounts)
  storedKey := none
  process := none
  pending := []
  issues := []

theorem start_new : start.New := ⟨rfl, rfl, rfl, rfl⟩

def process : Process (String × String) := ⟨Guard.app, "key", 3600⟩

def look : HttpRequest where
  method := "GET"
  path := "/"
  cookie := none
  query := []
  form := []

/-- The cookie that comes with the first look at the site. -/
def shown : Issue where
  secretKey := "key"
  time := 0
  payload := { csrf := some "token" }
  endpoint := none
  response := none

def form : List (String × String) :=
  [("csrf_token", "token"), ("username", "root"), ("password", "correct horse"),
    ("password_again", "correct horse")]

def signUp : HttpRequest where
  method := "POST"
  path := "/setup"
  cookie := some (shown.cookie serializer)
  query := []
  form := form

/-- The cookie of the first administrator. -/
def signedUp : Issue where
  secretKey := "key"
  time := 0
  payload := { uid := some 1, csrf := some "own token" }
  endpoint := some (.administration .setupSubmit)
  response := some (.account (.signIn 1 "/"))

/-- The service is up, and somebody has looked at the site. -/
def looked : Front (String × String) :=
  { start with storedKey := some "key", process := some process, issues := [shown] }

/-- He has filled in the setup page. -/
def setUp : SiteProgram (String × String) SiteResponse :=
  (ofAccounts (setupSubmit Sample.hasher "salt" "root" "correct horse" "correct horse")).bind answer

def asked : Front (String × String) :=
  { looked with
    pending := [⟨shown.payload, none, some (.administration .setupSubmit, setUp)⟩] }

/-- The page is answered, and a minute goes by. -/
def labels : List (FrontLabel (String × String)) :=
  List.replicate 3 (.serve 0 (.inl (.inr .proceed))) ++ [.respond 0 "own token", .tick 60000000]

/-- What nobody needs a cookie for. -/
def quiet (_ : Front (String × String)) : FrontLabel (String × String) → Bool
  | .arrive _ _ => false
  | .respond _ token => token ≠ ""
  | .start _ configured _ _ _ => configured = ""
  | _ => true

/-- The settings have no key, and nobody makes one up. -/
def fair (state : Front (String × String)) (label : FrontLabel (String × String)) : Prop :=
  state.honest serializer label ∧ state.configured "" label

theorem fair_of_quiet (state : Front (String × String)) (label : FrontLabel (String × String))
    (silent : quiet state label = true) : fair state label := by
  cases label with
  | arrive fresh request => cases silent
  | respond index token =>
      have filled : token ≠ "" := of_decide_eq_true silent
      exact ⟨filled, trivial⟩
  | start app configured maxAge drawn salt =>
      have blank : configured = "" := of_decide_eq_true silent
      exact ⟨trivial, blank⟩
  | serve | drop | elsewhere | tick | stop => exact ⟨trivial, trivial⟩

theorem looked_of_start : (front serializer).Reaches fair start looked := by
  let up : Front (String × String) :=
    { start with storedKey := some "key", process := some process }
  let waiting := { up with pending := [⟨{}, some "token", none⟩] }
  have started : (front serializer).step start (.start Guard.app "" 3600 "key" "salt") = some up :=
    rfl
  have came : (front serializer).step up (.arrive (fresh "token") look) = some waiting := rfl
  have left : (front serializer).step waiting (.respond 0 "unused") = some looked := rfl
  have alone : fair up (.arrive (fresh "token") look) := by
    refine ⟨⟨by decide, fun other same raw payload carried _ => ?_⟩, trivial⟩
    cases carried
  exact ((Transition.Reaches.refl.step (fair_of_quiet _ _ rfl) started).step alone came).step
    (fair_of_quiet _ _ (by decide)) left

theorem serve_signUp : serve (process.appAt serializer looked.site.2.clock) (fresh "spare") signUp
    looked.site.2 = some (⟨"POST", [.text "/setup"], .administration .setupSubmit⟩, setUp) := by
  have read : readSession (process.appAt serializer looked.site.2.clock).unsign signUp.cookie =
      shown.payload := readSession_cookie rfl le_rfl rfl
  have runs : dispatch signUp.method signUp.path looked.site.2.hasUsers
      (looked.site.2.sessionUser shown.payload.uid) = .run := by rfl
  have routed : route? signUp.method signUp.path =
      some (⟨"POST", [.text "/setup"], .administration .setupSubmit⟩, []) := by decide
  have passed : passesCsrf signUp.method signUp.path (shown.payload.token (fresh "spare").csrf)
      (lastValue form "csrf_token") = true := by decide
  have username : signUp.required "username" = some "root" := by decide
  have password : signUp.required "password" = some "correct horse" := by decide
  have again : signUp.required "password_again" = some "correct horse" := by decide
  have sent : signUp.form = form := rfl
  rw [serve_of_session read]
  simp only [runs, routed, sent, passed, if_true, Option.bind_some, Endpoint.program,
    Administration.request?, username, password, again, bind, Option.pure_def, Option.map_some,
    AccountRequest.program]
  rfl

theorem asked_of_start : (front serializer).Reaches fair start asked := by
  have honest : fair looked (.arrive (fresh "spare") signUp) := by
    refine ⟨⟨by decide, fun other up raw payload carried _ => ?_⟩, trivial⟩
    obtain rfl : process = other := Option.some.inj up
    exact ⟨shown, List.mem_singleton_self shown, rfl, Option.some.inj carried⟩
  have came : (front serializer).step looked (.arrive (fresh "spare") signUp) = some asked := by
    have read : readSession (process.appAt serializer looked.site.2.clock).unsign signUp.cookie =
        shown.payload := readSession_cookie rfl le_rfl rfl
    have taken : process.take serializer (fresh "spare") signUp looked.site.2 =
        ⟨shown.payload, none, some (.administration .setupSubmit, setUp)⟩ := by
      unfold Process.take
      simp only [read, serve_signUp]
      rfl
    exact congrArg (fun taken => some { looked with pending := [taken] }) taken
  exact looked_of_start.step honest came

/-- The administrator wants another language. -/
def changeLanguage : HttpRequest where
  method := "POST"
  path := "/settings"
  cookie := some (signedUp.cookie serializer)
  query := []
  form := [("csrf_token", "own token"), ("language", "cs")]

theorem serve_changeLanguage {app : App (String × String)} {accounts : Accounts (String × String)}
    (read : readSession app.unsign changeLanguage.cookie = signedUp.payload)
    (known : accounts.hasUsers = true)
    (admin : (accounts.sessionUser (some 1)).any (fun user => user.can .admin) = true) :
    ∃ program, serve app (fresh "spare") changeLanguage accounts =
      some (⟨"POST", [.text "/settings"], .administration .settingsSave⟩, program) := by
  obtain ⟨user, found, may⟩ := (Option.any_eq_true _ _).mp admin
  have runs : dispatch changeLanguage.method changeLanguage.path true (some user) = .run := by
    have needed : requiredRole "POST" "/settings" = .admin := by decide
    have hidden : isPublic "/settings" = false := by decide
    simp [dispatch, changeLanguage, hidden, needed, may]
  have routed : route? changeLanguage.method changeLanguage.path =
      some (⟨"POST", [.text "/settings"], .administration .settingsSave⟩, []) := by decide
  have passed : passesCsrf changeLanguage.method changeLanguage.path
      (signedUp.payload.token (fresh "spare").csrf) (some "own token") = true := by decide
  have token : lastValue changeLanguage.form "csrf_token" = some "own token" := by decide
  have language : changeLanguage.required "language" = some "cs" := by decide
  have uid : signedUp.payload.uid = some 1 := rfl
  rw [serve_of_session read]
  simp only [uid, known, found, runs, routed, token, passed, if_true, Option.bind_some,
    Endpoint.program, Administration.request?, language, Option.map_some]
  exact ⟨_, rfl⟩

/-- The service is up, a minute after the administrator has signed up. -/
def ready (state : Front (String × String)) : Bool :=
  state.site.2.hasUsers && decide (signedUp ∈ state.issues) &&
    (state.process.any fun process => process.secretKey = "key" ∧ 3600 ≤ process.maxAge) &&
    decide (state.now = 60000000) &&
    (state.site.2.sessionUser (some 1)).any fun user => user.can .admin

theorem exists_of_run {labels : List (FrontLabel (String × String))}
    (runs : ((front serializer).runUnder quiet asked labels).any ready = true) :
    ∃ state process, (front serializer).Reaches fair start state ∧ state.process = some process ∧
      signedUp ∈ state.issues ∧ signedUp.secretKey = process.secretKey ∧ ∃ program, serve (process.appAt serializer state.now) (fresh "spare") changeLanguage
        state.site.2 = some (⟨"POST", [.text "/settings"], .administration .settingsSave⟩, program) := by
  obtain ⟨state, ran, checked⟩ := (Option.any_eq_true _ _).mp runs
  simp only [ready, Bool.and_eq_true, decide_eq_true_eq] at checked
  obtain ⟨⟨⟨⟨known, listed⟩, running⟩, now⟩, admin⟩ := checked
  obtain ⟨process, up, suits⟩ := (Option.any_eq_true _ _).mp running
  obtain ⟨key, lasts⟩ := of_decide_eq_true suits
  have reached := asked_of_start.trans
    ((Transition.Reaches.of_runUnder ran).mono fun state label => fair_of_quiet state label)
  have young : state.now.seconds - signedUp.time.seconds ≤ process.maxAge := by
    have minute : state.now.seconds - signedUp.time.seconds = 60 := by
      rw [now]
      rfl
    omega
  have read : readSession (process.appAt serializer state.now).unsign changeLanguage.cookie =
      signedUp.payload :=
    (readSession_cookie rfl (Nat.zero_le _) key.symm).trans (if_pos young)
  exact ⟨state, process, reached, up, listed, key.symm, serve_changeLanguage read known admin⟩

end SignedIn

theorem roles_act_only_after_sign_in_settings :
    ∃ (state : Front (String × String)) (process : Process (String × String))
      (program : SiteProgram (String × String) SiteResponse),
      (front SignedIn.serializer).Reaches (Front.honest SignedIn.serializer) SignedIn.start state ∧
        state.process = some process ∧
        serve (process.appAt SignedIn.serializer state.now) (SignedIn.fresh "spare")
          SignedIn.changeLanguage state.site.2 =
            some (⟨"POST", [.text "/settings"], .administration .settingsSave⟩, program) ∧
        ∃ user ∈ state.site.2.users.rows, user.can .admin = true ∧
          ∃ issue ∈ state.issues, issue.Opens user.id ∧
            SignedIn.changeLanguage.cookie = some (issue.cookie SignedIn.serializer) ∧
            issue.time ≤ state.now ∧
            state.now.seconds - issue.time.seconds ≤ process.maxAge ∧
            lastValue SignedIn.changeLanguage.form "csrf_token" = issue.payload.csrf := by
  have runs : ((front SignedIn.serializer).runUnder SignedIn.quiet SignedIn.asked
      SignedIn.labels).any SignedIn.ready = true := by
    decide +kernel
  obtain ⟨state, process, reached, up, listed, key, program, served⟩ :=
    SignedIn.exists_of_run runs
  have honest : state.honest SignedIn.serializer
      (.arrive (SignedIn.fresh "spare") SignedIn.changeLanguage) := by
    refine ⟨by decide, fun other same raw payload carried _ => ?_⟩
    obtain rfl : process = other := Option.some.inj (up.symm.trans same)
    exact ⟨SignedIn.signedUp, listed, key, Option.some.inj carried⟩
  have reached := reached.mono fun _ _ both => both.1
  exact ⟨state, process, program, reached, up, served,
    roles_act_only_after_sign_in SignedIn.start_new reached up honest rfl served⟩

end AptlyGui
