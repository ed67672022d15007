import AptlyGui.Web.SignedIn

/-!
# Sessions and restarts

The service signs with one key as long as its settings stay: the configured
one, or the one it has drawn at its first start.  So a restart signs nobody
out.
-/

namespace AptlyGui

variable {Hash : Type}

/-- The key to sign with as long as the settings stay. -/
def Front.SignsWith (state : Front Hash) (configured secretKey : String) : Prop :=
  if configured ≠ "" then secretKey = configured else state.storedKey = some secretKey

/-- All cookies there have been are signed with one key. -/
structure Front.Keyed (configured : String) (state : Front Hash) : Prop where
  past : ∀ issue ∈ state.issues, issue.time ≤ state.now
  issued : ∀ issue ∈ state.issues, state.SignsWith configured issue.secretKey
  running : ∀ process, state.process = some process →
    state.SignsWith configured process.secretKey

section Keyed

variable {serializer : Serializer} {state after : Front Hash} {process : Process Hash}
  {configured : String}

theorem Front.SignsWith.unique {first second : String} (one : state.SignsWith configured first)
    (other : state.SignsWith configured second) : first = second := by
  unfold SignsWith at one other
  split at one
  · rename_i filled
    rw [if_pos filled] at other
    exact one.trans other.symm
  · rename_i blank
    rw [if_neg blank] at other
    exact Option.some.inj (one.symm.trans other)

theorem Front.SignsWith.of_storedKey {secretKey : String}
    (signs : state.SignsWith configured secretKey) (same : after.storedKey = state.storedKey) :
    after.SignsWith configured secretKey := by
  unfold SignsWith at signs ⊢
  rw [same]
  exact signs

/-- `_resolve_secret_key` finds the key again that it has once drawn. -/
theorem Front.SignsWith.resolve {secretKey drawn : String}
    (signs : state.SignsWith configured secretKey) :
    resolveSecretKey configured state.storedKey drawn = (secretKey, state.storedKey) := by
  unfold SignsWith at signs
  unfold resolveSecretKey
  split at signs
  · rename_i filled
    rw [if_pos filled, signs]
  · rename_i blank
    rw [if_neg blank, signs]

theorem Front.signsWith_resolved {drawn : String}
    (stored : after.storedKey = (resolveSecretKey configured state.storedKey drawn).2) :
    after.SignsWith configured (resolveSecretKey configured state.storedKey drawn).1 := by
  unfold SignsWith
  rw [stored]
  unfold resolveSecretKey
  split
  · rfl
  · cases state.storedKey <;> rfl

theorem Front.Keyed.step {label : FrontLabel Hash} (keyed : state.Keyed configured)
    (same : state.configured configured label)
    (stepped : (front serializer).step state label = some after) : after.Keyed configured := by
  have past := Front.past_of_step keyed.past stepped
  cases label with
  | arrive fresh request =>
      obtain ⟨process, up, rfl⟩ := Option.map_eq_some_iff.mp stepped
      exact ⟨past, keyed.issued, keyed.running⟩
  | serve index event =>
      obtain ⟨asked, -, stepped⟩ := Option.bind_eq_some_iff.mp stepped
      obtain ⟨⟨endpoint, program⟩, -, stepped⟩ := Option.bind_eq_some_iff.mp stepped
      obtain ⟨⟨next, site⟩, -, rfl⟩ := Option.map_eq_some_iff.mp stepped
      exact ⟨past, keyed.issued, keyed.running⟩
  | respond index token =>
      obtain ⟨asked, -, stepped⟩ := Option.bind_eq_some_iff.mp stepped
      obtain ⟨response, -, stepped⟩ := Option.bind_eq_some_iff.mp stepped
      obtain ⟨process, up, rfl⟩ := Option.map_eq_some_iff.mp stepped
      refine ⟨past, fun issue listed => ?_, keyed.running⟩
      rcases List.mem_append.mp listed with new | old
      · obtain ⟨payload, -, rfl⟩ := Option.map_eq_some_iff.mp (Option.mem_toList.mp new)
        exact keyed.running process up
      · exact keyed.issued issue old
  | drop | elsewhere | tick =>
      cases stepped
      exact ⟨past, keyed.issued, keyed.running⟩
  | stop =>
      cases stepped
      exact ⟨past, keyed.issued, by simp⟩
  | start app given maxAge drawn salt =>
      obtain rfl : given = configured := same
      cases stepped
      refine ⟨past, fun issue listed => ?_, fun process up => ?_⟩
      · have signs := keyed.issued issue listed
        exact signs.of_storedKey (congrArg Prod.snd signs.resolve)
      · cases up
        exact Front.signsWith_resolved rfl

/-- However often the service has been stopped and started with the same settings, every cookie that
it has ever given stands for the session that was put into it, until it is too old. -/
theorem sessions_outlive_restarts {start : Front Hash} {issue : Issue} {request : HttpRequest}
    (new : start.New)
    (reached : (front serializer).Reaches (Front.configured configured) start state)
    (up : state.process = some process) (listed : issue ∈ state.issues)
    (carried : request.cookie = some (issue.cookie serializer)) :
    readSession (process.appAt serializer state.now).unsign request.cookie =
        (if state.now.seconds - issue.time.seconds ≤ process.maxAge then issue.payload else {}) ∧
      visitor (process.appAt serializer state.now) request state.site.2 =
        if state.now.seconds - issue.time.seconds ≤ process.maxAge then
          state.site.2.sessionUser issue.payload.uid
        else none := by
  have entry : start.Keyed configured :=
    ⟨by simp [new.issues], by simp [new.issues], by simp [new.process]⟩
  have keyed : state.Keyed configured :=
    reached.invariant entry fun _ _ _ same stepped keyed => keyed.step same stepped
  have key : issue.secretKey = process.secretKey :=
    (keyed.issued issue listed).unique (keyed.running process up)
  have session := readSession_cookie carried (keyed.past issue listed) key
  refine ⟨session, ?_⟩
  unfold visitor
  rw [session]
  split <;> rfl

end Keyed

/-- The service is restarted, would draw another key, and knows the administrator's cookie. -/
theorem sessions_outlive_restarts_administrator :
    ∃ (state : Front (String × String)) (process : Process (String × String)),
      (front SignedIn.serializer).Reaches (Front.configured "") SignedIn.start state ∧
        state.process = some process ∧
        readSession (process.appAt SignedIn.serializer state.now).unsign
            SignedIn.changeLanguage.cookie =
          (if state.now.seconds - SignedIn.signedUp.time.seconds ≤ process.maxAge then
            SignedIn.signedUp.payload
          else {}) ∧
        visitor (process.appAt SignedIn.serializer state.now) SignedIn.changeLanguage state.site.2 =
          if state.now.seconds - SignedIn.signedUp.time.seconds ≤ process.maxAge then
            state.site.2.sessionUser SignedIn.signedUp.payload.uid
          else none := by
  have runs : ((front SignedIn.serializer).runUnder SignedIn.quiet SignedIn.asked
      (SignedIn.labels ++ [.stop, .start Guard.app "" 7200 "another key" "pepper"])).any
        SignedIn.ready = true := by
    decide +kernel
  obtain ⟨state, process, reached, up, listed, -⟩ := SignedIn.exists_of_run runs
  have reached := reached.mono fun _ _ both => both.2
  exact ⟨state, process, reached, up,
    sessions_outlive_restarts SignedIn.start_new reached up listed rfl⟩

end AptlyGui
