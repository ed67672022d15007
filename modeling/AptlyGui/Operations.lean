import AptlyGui.World

/-!
# What one operation did

Inversion lemmas for `Op.perform`: a request to aptly is recorded and nothing
else changes; a commit of the job's session succeeds, breaks the session, or
finds it broken; every other operation leaves the database, aptly and the
request log alone.
-/

namespace AptlyGui

/-- Everything the runner sent stays recorded, with the new request in front. -/
@[simp]
theorem World.record_log (world : World) (request : Request) (outcome : Except Exn Reply)
    (carriedOut : Bool) (after : Aptly) :
    (world.record request outcome carriedOut after).log =
      ⟨world.currentJob, request, outcome, carriedOut⟩ :: world.log := rfl

@[simp]
theorem World.record_db (world : World) (request : Request) (outcome : Except Exn Reply)
    (carriedOut : Bool) (after : Aptly) :
    (world.record request outcome carriedOut after).db = world.db := rfl

@[simp]
theorem World.record_aptly (world : World) (request : Request) (outcome : Except Exn Reply)
    (carriedOut : Bool) (after : Aptly) :
    (world.record request outcome carriedOut after).aptly = after := rfl

@[simp]
theorem World.record_currentJob (world : World) (request : Request) (outcome : Except Exn Reply)
    (carriedOut : Bool) (after : Aptly) :
    (world.record request outcome carriedOut after).currentJob = world.currentJob := rfl

@[simp]
theorem World.record_sessionBroken (world : World) (request : Request)
    (outcome : Except Exn Reply) (carriedOut : Bool) (after : Aptly) :
    (world.record request outcome carriedOut after).sessionBroken = world.sessionBroken := rfl

namespace Op

theorem perform_aptly {request : Request} {event : Event} {world after : World}
    {outcome : Except Exn request.Ret}
    (performed : (aptly request).perform event world = some (outcome, after)) :
    (∃ body reached, event = .reply body reached ∧ outcome = request.parse body ∧
        after = world.record request (.ok body) true reached) ∨
      (∃ error carriedOut reached, event = .fault error carriedOut reached ∧
        error.isException = true ∧ outcome = .error error ∧
        after = world.record request (.error error) carriedOut reached) ∨
      ∃ applied reached, event = .cancel applied reached ∧ outcome = .error .cancelled ∧
        after = world.record request (.error .cancelled) applied reached := by
  cases event with
  | reply body reached =>
      cases performed
      exact .inl ⟨body, reached, rfl, rfl, rfl⟩
  | fault error carriedOut reached =>
      simp only [perform] at performed
      split at performed
      · rename_i caught
        cases performed
        exact .inr (.inl ⟨error, carriedOut, reached, rfl, caught, rfl, rfl⟩)
      · cases performed
  | cancel applied reached =>
      cases performed
      exact .inr (.inr ⟨applied, reached, rfl, rfl, rfl⟩)
  | proceed => cases performed
  | checked check => cases performed
  | cached state => cases performed

/-- A call that returns has been answered. -/
theorem replied_of_ok {request : Request} {event : Event} {world after : World}
    {value : request.Ret}
    (performed : (aptly request).perform event world = some (.ok value, after)) :
    ∃ body reached, event = .reply body reached ∧ request.parse body = .ok value ∧
      after = world.record request (.ok body) true reached := by
  rcases perform_aptly performed with ⟨body, reached, replied, parsed, same⟩ |
    ⟨_, _, _, -, -, refused, -⟩ | ⟨_, _, -, refused, -⟩
  · exact ⟨body, reached, replied, parsed.symm, same⟩
  · cases refused
  · cases refused

/-- Whatever comes of a call, it is recorded under the job that runs. -/
theorem log_of_aptly {request : Request} {event : Event} {world after : World}
    {outcome : Except Exn request.Ret}
    (performed : (aptly request).perform event world = some (outcome, after)) :
    ∃ entry, after.log = entry :: world.log ∧ entry.job = world.currentJob ∧
      entry.request = request := by
  rcases perform_aptly performed with ⟨_, _, -, -, rfl⟩ | ⟨_, _, _, -, -, -, rfl⟩ |
    ⟨_, _, -, -, rfl⟩
  all_goals exact ⟨_, rfl, rfl, rfl⟩

/-- A commit of the job's session. -/
theorem perform_commit {writes : List Write} {event : Event} {world after : World}
    {outcome : Except Exn Inserted}
    (performed : (commit .job writes).perform event world = some (outcome, after)) :
    (∃ db inserted, event = .proceed ∧ world.sessionBroken = false ∧
        world.db.commit world.clock writes = .ok (db, inserted) ∧ outcome = .ok inserted ∧
        after = { world with db := db }) ∨
      (∃ error, event = .proceed ∧ world.sessionBroken = false ∧
        world.db.commit world.clock writes = .error error ∧ outcome = .error error ∧
        after = { world with sessionBroken := true }) ∨
      (event = .proceed ∧ world.sessionBroken = true ∧ outcome = .error .pendingRollback ∧
        after = world) ∨
      (∃ applied reached, event = .cancel applied reached ∧ outcome = .error .cancelled ∧
        (after = { world with sessionBroken := true } ∨
          ∃ db inserted, applied = true ∧ world.db.commit world.clock writes = .ok (db, inserted) ∧
            after = { world with db := db, sessionBroken := true })) := by
  cases event with
  | proceed =>
      change world.commit .job writes .proceed = _ at performed
      cases broken : world.sessionBroken with
      | true =>
          rw [World.commit, World.broken, broken, if_pos rfl] at performed
          cases performed
          exact .inr (.inr (.inl ⟨rfl, rfl, rfl, rfl⟩))
      | false =>
          rw [World.commit, World.broken, broken, if_neg Bool.false_ne_true] at performed
          split at performed
          · rename_i db inserted committed
            cases performed
            exact .inl ⟨db, inserted, rfl, rfl, committed, rfl, rfl⟩
          · rename_i error refused
            cases performed
            exact .inr (.inl ⟨error, rfl, rfl, refused, rfl, rfl⟩)
  | cancel applied reached =>
      refine .inr (.inr (.inr ⟨applied, reached, rfl, ?_⟩))
      simp only [perform, World.commit] at performed
      split at performed
      · rename_i db inserted reaches committed
        cases performed
        simp only [Bool.and_eq_true] at reaches
        exact ⟨rfl, .inr ⟨db, inserted, reaches.1, committed, rfl⟩⟩
      · cases performed
        exact ⟨rfl, .inl rfl⟩
  | reply body reached => cases performed
  | fault error carriedOut reached => cases performed
  | checked check => cases performed
  | cached state => cases performed

/-- A read in the job's session, which leaves everything but the session alone. -/
theorem query_job {α : Type} {value : α} {event : Event} {world after : World}
    {outcome : Except Exn α} (asked : world.query .job value event = some (outcome, after)) :
    (event = .proceed ∧ world.sessionBroken = false ∧ outcome = .ok value ∧ after = world) ∨
      (event = .proceed ∧ world.sessionBroken = true ∧ outcome = .error .pendingRollback ∧
        after = world) ∨
      ∃ applied reached, event = .cancel applied reached ∧ outcome = .error .cancelled ∧
        after = { world with sessionBroken := true } := by
  cases event with
  | proceed =>
      cases broken : world.sessionBroken with
      | true =>
          rw [World.query, World.broken, broken, if_pos rfl] at asked
          cases asked
          exact .inr (.inl ⟨rfl, rfl, rfl, rfl⟩)
      | false =>
          rw [World.query, World.broken, broken, if_neg Bool.false_ne_true] at asked
          cases asked
          exact .inl ⟨rfl, rfl, rfl, rfl⟩
  | cancel applied reached =>
      cases asked
      exact .inr (.inr ⟨applied, reached, rfl, rfl, rfl⟩)
  | reply body reached => cases asked
  | fault error carriedOut reached => cases asked
  | checked check => cases asked
  | cached state => cases asked

/-- The operation is a request to aptly. -/
def asksAptly : Op → Bool
  | aptly _ => true
  | _ => false

/-- The operation is a commit. -/
def commits : Op → Bool
  | commit _ _ => true
  | _ => false

def puts : Op → Bool
  | put _ => true
  | _ => false

def begins : Op → Bool
  | beginJob _ => true
  | _ => false

/-- What an operation of this kind leaves alone. -/
structure Frame (op : Op) (before after : World) : Prop where
  log : op.asksAptly = false → after.log = before.log
  aptly : op.asksAptly = false → after.aptly = before.aptly
  db : op.commits = false → after.db = before.db
  queue : op.puts = false → after.queue = before.queue
  currentJob : op.begins = false → after.currentJob = before.currentJob
  taken : after.taken = before.taken
  clock : after.clock = before.clock

theorem Frame.refl (op : Op) (world : World) : Frame op world world :=
  ⟨fun _ => rfl, fun _ => rfl, fun _ => rfl, fun _ => rfl, fun _ => rfl, rfl, rfl⟩

theorem Frame.of_broken (op : Op) (world : World) :
    Frame op world { world with sessionBroken := true } :=
  ⟨fun _ => rfl, fun _ => rfl, fun _ => rfl, fun _ => rfl, fun _ => rfl, rfl, rfl⟩

theorem query_frame {α : Type} {session : Session} {value : α} {event : Event}
    {world after : World} {outcome : Except Exn α}
    (asked : world.query session value event = some (outcome, after)) :
    after = world ∨ after = { world with sessionBroken := true } := by
  cases session with
  | job =>
      rcases query_job asked with ⟨-, -, -, same⟩ | ⟨-, -, -, same⟩ | ⟨_, _, -, -, broke⟩
      · exact .inl same
      · exact .inl same
      · exact .inr broke
  | request =>
      cases event <;> simp [World.query, World.broken] at asked
      exact .inl asked.2.symm

theorem commit_frame {session : Session} {writes : List Write} {event : Event}
    {world after : World} {outcome : Except Exn Inserted}
    (committed : world.commit session writes event = some (outcome, after)) :
    ∃ db broken, after = { world with db := db, sessionBroken := broken } := by
  cases session with
  | job =>
      rcases perform_commit committed with ⟨db, _, -, -, -, -, rfl⟩ | ⟨_, -, -, -, -, rfl⟩ |
        ⟨-, -, -, rfl⟩ | ⟨_, _, -, -, rfl | ⟨db, _, -, -, rfl⟩⟩
      all_goals exact ⟨_, _, rfl⟩
  | request =>
      cases event <;> simp only [World.commit, World.broken, Bool.false_eq_true, if_false,
        reduceCtorEq] at committed
      split at committed
      · cases committed
        exact ⟨_, _, rfl⟩
      · cases committed
        exact ⟨_, _, rfl⟩

/-- Only a request to aptly reaches aptly or the log, and only a commit the database. -/
theorem perform_frame {op : Op} {event : Event} {world after : World}
    {outcome : Except Exn op.Ret} (performed : op.perform event world = some (outcome, after)) :
    op.Frame world after := by
  have read : ∀ {α : Type} {session : Session} {value : α} {outcome : Except Exn α},
      world.query session value event = some (outcome, after) → op.Frame world after := by
    intro α session value outcome asked
    rcases query_frame asked with rfl | rfl
    · exact .refl _ _
    · exact .of_broken _ _
  cases op with
  | aptly request =>
      rcases perform_aptly performed with ⟨_, _, -, -, rfl⟩ | ⟨_, _, _, -, -, -, rfl⟩ |
        ⟨_, _, -, -, rfl⟩
      all_goals exact ⟨nofun, nofun, fun _ => rfl, fun _ => rfl, fun _ => rfl, rfl, rfl⟩
  | commit session writes =>
      obtain ⟨db, broken, rfl⟩ := commit_frame performed
      exact ⟨fun _ => rfl, fun _ => rfl, nofun, fun _ => rfl, fun _ => rfl, rfl, rfl⟩
  | getJob session id => exact read performed
  | getMirrorSet session id => exact read performed
  | getSnapshotSet session id => exact read performed
  | mirrorSetNamed name => exact read performed
  | loadSets => exact read performed
  | snapshotSetsOf session id => exact read performed
  | runningSteps id => exact read performed
  | fetchRelease publicUrl distribution =>
      cases event <;> simp [perform] at performed
      · obtain ⟨-, -, rfl⟩ := performed
        exact .refl _ _
      · obtain ⟨-, rfl⟩ := performed
        exact .refl _ _
      · obtain ⟨-, rfl⟩ := performed
        exact .refl _ _
  | readCache =>
      cases event <;> simp [perform] at performed
      obtain ⟨-, rfl⟩ := performed
      exact .refl _ _
  | sleep =>
      cases event <;> simp [perform] at performed
      · obtain ⟨-, rfl⟩ := performed
        exact .refl _ _
      · obtain ⟨-, rfl⟩ := performed
        exact .refl _ _
  | now =>
      cases event <;> simp [perform] at performed
      obtain ⟨-, rfl⟩ := performed
      exact .refl _ _
  | beginJob id =>
      cases event <;> simp [perform] at performed
      obtain ⟨-, rfl⟩ := performed
      exact ⟨fun _ => rfl, fun _ => rfl, fun _ => rfl, fun _ => rfl, nofun, rfl, rfl⟩
  | nextPosition =>
      cases event <;> simp [perform] at performed
      obtain ⟨-, rfl⟩ := performed
      exact ⟨fun _ => rfl, fun _ => rfl, fun _ => rfl, fun _ => rfl, fun _ => rfl, rfl, rfl⟩
  | put id =>
      cases event <;> simp [perform] at performed
      obtain ⟨-, rfl⟩ := performed
      exact ⟨fun _ => rfl, fun _ => rfl, fun _ => rfl, nofun, fun _ => rfl, rfl, rfl⟩

/-- Every request is recorded under the job that runs. -/
theorem log_of_perform {op : Op} {event : Event} {world after : World}
    {outcome : Except Exn op.Ret} (performed : op.perform event world = some (outcome, after)) :
    after.log = world.log ∨
      ∃ entry, after.log = entry :: world.log ∧ entry.job = world.currentJob := by
  cases op with
  | aptly request =>
      obtain ⟨entry, grown, sender, -⟩ := log_of_aptly performed
      exact .inr ⟨entry, grown, sender⟩
  | _ => exact .inl ((perform_frame performed).log rfl)

theorem mem_log_of_perform {op : Op} {event : Event} {world after : World}
    {outcome : Except Exn op.Ret} (performed : op.perform event world = some (outcome, after))
    {entry : Entry} (sent : entry ∈ world.log) : entry ∈ after.log := by
  rcases log_of_perform performed with same | ⟨newest, grown, -⟩
  · rw [same]
    exact sent
  · rw [grown]
    exact List.mem_cons_of_mem newest sent

theorem sender_of_perform {op : Op} {event : Event} {world after : World}
    {outcome : Except Exn op.Ret} (performed : op.perform event world = some (outcome, after))
    {entry : Entry} (sent : entry ∈ after.log) :
    entry ∈ world.log ∨ entry.job = world.currentJob := by
  rcases log_of_perform performed with same | ⟨newest, grown, sender⟩
  · rw [same] at sent
    exact .inl sent
  · rw [grown] at sent
    rcases List.mem_cons.mp sent with rfl | old
    · exact .inr sender
    · exact .inl old

/-- A request to aptly, a read in the job's session, or waiting. -/
def calm : Op → Bool
  | aptly _ | fetchRelease _ _ | sleep | now | nextPosition => true
  | getJob .job _ | getMirrorSet .job _ | getSnapshotSet .job _ | snapshotSetsOf .job _ => true
  | runningSteps _ => true
  | _ => false

theorem parse_error {request : Request} {body : Reply} {error : Exn}
    (refused : request.parse body = .error error) : error.isException = true := by
  cases request <;> cases body <;> cases refused <;> rfl

/-- Such an operation breaks the session only when it is cancelled, and what it raises otherwise
is an ordinary exception. -/
theorem perform_calm {op : Op} (quiet : op.calm = true) {event : Event} {world after : World}
    {outcome : Except Exn op.Ret} (performed : op.perform event world = some (outcome, after)) :
    (∃ applied reached, event = .cancel applied reached ∧ outcome = .error .cancelled) ∨
      after.sessionBroken = world.sessionBroken ∧
        ∀ error, outcome = .error error → error.isException = true := by
  have read : ∀ {α : Type} {value : α} {outcome : Except Exn α},
      world.query .job value event = some (outcome, after) →
      (∃ applied reached, event = .cancel applied reached ∧ outcome = .error .cancelled) ∨
        after.sessionBroken = world.sessionBroken ∧
          ∀ error, outcome = .error error → error.isException = true := by
    intro α value outcome asked
    rcases query_job asked with ⟨-, -, rfl, rfl⟩ | ⟨-, -, rfl, rfl⟩ | ⟨applied, reached, rfl, rfl, -⟩
    · exact .inr ⟨rfl, nofun⟩
    · refine .inr ⟨rfl, fun error same => ?_⟩
      cases same
      rfl
    · exact .inl ⟨applied, reached, rfl, rfl⟩
  cases op with
  | aptly request =>
      rcases perform_aptly performed with ⟨body, _, -, rfl, rfl⟩ | ⟨error, _, _, -, caught, rfl, rfl⟩ |
        ⟨applied, reached, rfl, rfl, -⟩
      · exact .inr ⟨rfl, fun error => parse_error⟩
      · refine .inr ⟨rfl, fun error' same => ?_⟩
        cases same
        exact caught
      · exact .inl ⟨applied, reached, rfl, rfl⟩
  | fetchRelease publicUrl distribution =>
      cases event with
      | checked check =>
          cases performed
          exact .inr ⟨rfl, nofun⟩
      | fault error carriedOut reached =>
          simp only [perform] at performed
          split at performed
          · rename_i caught
            cases performed
            refine .inr ⟨rfl, fun error' same => ?_⟩
            cases same
            exact caught
          · cases performed
      | cancel applied reached =>
          cases performed
          exact .inl ⟨applied, reached, rfl, rfl⟩
      | proceed => cases performed
      | reply body reached => cases performed
      | cached state => cases performed
  | sleep =>
      cases event with
      | proceed =>
          cases performed
          exact .inr ⟨rfl, nofun⟩
      | cancel applied reached =>
          cases performed
          exact .inl ⟨applied, reached, rfl, rfl⟩
      | _ => cases performed
  | now =>
      cases event <;> cases performed
      exact .inr ⟨rfl, nofun⟩
  | nextPosition =>
      cases event <;> cases performed
      exact .inr ⟨rfl, nofun⟩
  | getJob session id =>
      cases session with
      | job => exact read performed
      | request => cases quiet
  | getMirrorSet session id =>
      cases session with
      | job => exact read performed
      | request => cases quiet
  | getSnapshotSet session id =>
      cases session with
      | job => exact read performed
      | request => cases quiet
  | snapshotSetsOf session id =>
      cases session with
      | job => exact read performed
      | request => cases quiet
  | runningSteps id => exact read performed
  | _ => cases quiet

end Op

end AptlyGui
