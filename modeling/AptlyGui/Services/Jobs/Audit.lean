import AptlyGui.Services.Jobs.Queue
import AptlyGui.Services.Jobs.Raises
import AptlyGui.Rules

/-!
# The audit trail of jobs

The commit that stores how a job ended also adds the entry about it, so the
entries about jobs and the jobs that have come to their end are the same list
up to order.  A job gets no entry if the process ends while it is under way, if
its session refuses a commit, or if the worker is cancelled after its start;
then its entry, if there is one, says `running`.
-/

namespace AptlyGui

open Coroutine (Contract Safe SafeNow Settles Uses)

/-- The entry is about a job. -/
def AuditEntry.ofJob (entry : AuditEntry) : Bool := startsWith entry.action "job."

/-- Who did what, and with which result. -/
def AuditEntry.account (entry : AuditEntry) : String × String × String :=
  (entry.actor, entry.action, entry.result)

def Job.account (job : Job) : String × String × String :=
  (job.author, s!"job.{job.type.value}", job.state.value)

theorem ofJob_of_type (type : JobType) : startsWith s!"job.{type.value}" "job." = true := by
  cases type <;> decide

/-- The job was started and has come to its end. -/
def Job.concluded (job : Job) : Bool :=
  job.startedAt.isSome && job.finishedAt.isSome &&
    (decide (job.state = .succeeded) || decide (job.state = .failed))

theorem Job.concluded_iff {job : Job} : job.concluded = true ↔ job.startedAt.isSome = true ∧
    job.finishedAt.isSome = true ∧ (job.state = .succeeded ∨ job.state = .failed) := by
  simp [concluded, and_assoc]

theorem Job.concluded_of_unstarted {job : Job} (unstarted : job.startedAt = none) :
    job.concluded = false := by
  simp [concluded, unstarted]

theorem Job.concluded_of_unfinished {job : Job} (unfinished : job.finishedAt = none) :
    job.concluded = false := by
  simp [concluded, unfinished]

namespace Database

/-- The entries about jobs are those of the jobs that have come to their end. -/
structure Accounted (db : Database) : Prop where
  entries : ((db.audit.filter AuditEntry.ofJob).map AuditEntry.account).Perm
    ((db.jobs.rows.filter Job.concluded).map Job.account)
  unended : ∀ row ∈ db.jobs.rows, row.finishedAt.isSome = true →
    row.state ≠ .queued ∧ row.state ≠ .running

/-- Every job that was started, but this one, has come to its end. -/
def ConcludedBut (db : Database) (jobId : Option Nat) : Prop :=
  ∀ row ∈ db.jobs.rows, row.startedAt.isSome = true → jobId ≠ some row.id → row.concluded = true

variable {db after : Database} {id : Nat} {row : Job}

/-! ## Changes of one job -/

theorem mem_rows_of_update {change : Job → Job} (found : db.jobs.get? id = some row)
    (jobs : after.jobs = db.jobs.update id change) {other : Job} (listed : other ∈ after.jobs.rows) :
    other = Keyed.withId id (change row) ∨ other ∈ db.jobs.rows ∧ other.id ≠ id := by
  have known : after.jobs.get? other.id = some other := Table.mem_rows_iff.mp listed
  rw [jobs, Table.get?_update] at known
  split at known
  · rw [found] at known
    exact .inl (Option.some.inj known).symm
  · rename_i apart
    exact .inr ⟨Table.mem_rows_iff.mpr known, apart⟩

/-- A change of a job that has not come to its end, and does not do so now. -/
theorem Accounted.changed {change : Job → Job} (accounted : db.Accounted)
    (found : db.jobs.get? id = some row) (jobs : after.jobs = db.jobs.update id change)
    (audit : after.audit = db.audit) (was : row.concluded = false)
    (unfinished : (Keyed.withId id (change row)).finishedAt = none) : after.Accounted := by
  constructor
  · have still : (Keyed.withId id (change row)).concluded = false :=
      Job.concluded_of_unfinished unfinished
    have before := ((Table.rows_perm found).filter Job.concluded).map Job.account
    have later := ((Table.rows_update_perm change found).filter Job.concluded).map Job.account
    rw [← jobs] at later
    rw [List.filter_cons, if_neg (by simp [was])] at before
    rw [List.filter_cons, if_neg (by simp [still])] at later
    rw [audit]
    exact accounted.entries.trans (before.trans later.symm)
  · intro other listed finished
    rcases mem_rows_of_update found jobs listed with rfl | ⟨known, -⟩
    · rw [unfinished] at finished
      cases finished
    · exact accounted.unended other known finished

/-- The commit in which a job comes to its end. -/
theorem Accounted.concluded {change : Job → Job} {entry : AuditEntry} (accounted : db.Accounted)
    (found : db.jobs.get? id = some row) (jobs : after.jobs = db.jobs.update id change)
    (audit : after.audit = db.audit ++ [entry]) (was : row.concluded = false)
    (concludes : (Keyed.withId id (change row)).concluded = true) (about : entry.ofJob = true)
    (same : entry.account = (Keyed.withId id (change row)).account) : after.Accounted := by
  constructor
  · have before := ((Table.rows_perm found).filter Job.concluded).map Job.account
    have later := ((Table.rows_update_perm change found).filter Job.concluded).map Job.account
    rw [← jobs] at later
    rw [List.filter_cons, if_neg (by simp [was])] at before
    rw [List.filter_cons, if_pos concludes, List.map_cons, ← same] at later
    rw [audit, List.filter_append, List.map_append, List.filter_cons, if_pos about]
    exact List.perm_append_comm.trans
      (((accounted.entries.trans before).cons entry.account).trans later.symm)
  · intro other listed finished
    rcases mem_rows_of_update found jobs listed with rfl | ⟨known, -⟩
    · obtain ⟨-, -, state | state⟩ := Job.concluded_iff.mp concludes <;> simp [state]
    · exact accounted.unended other known finished

theorem ConcludedBut.changed {change : Job → Job} (concluded : db.ConcludedBut (some id))
    (found : db.jobs.get? id = some row) (jobs : after.jobs = db.jobs.update id change) :
    after.ConcludedBut (some id) := by
  intro other listed started apart
  rcases mem_rows_of_update found jobs listed with rfl | ⟨known, -⟩
  · exact absurd rfl apart
  · exact concluded other known started apart

theorem ConcludedBut.but (concluded : db.ConcludedBut none) (jobId : Option Nat) :
    db.ConcludedBut jobId :=
  fun row listed started _ => concluded row listed started nofun

/-- Every job that was started has come to its end, this one included. -/
theorem ConcludedBut.all (concluded : db.ConcludedBut (some id)) (found : db.jobs.get? id = some row)
    (ended : row.startedAt.isSome = true → row.concluded = true) : db.ConcludedBut none := by
  intro other listed started _
  by_cases same : other.id = id
  · have known : db.jobs.get? id = some other := Table.get?_eq_some_iff.mpr ⟨listed, same⟩
    obtain rfl := Option.some.inj (found.symm.trans known)
    exact ended started
  · exact concluded other listed started fun claimed => same (Option.some.inj claimed).symm

/-- A job in the queue has not been started. -/
theorem ConcludedBut.unstarted (concluded : db.ConcludedBut none) (found : db.jobs.get? id = some row)
    (queued : row.state = .queued) : row.startedAt = none := by
  cases started : row.startedAt with
  | none => rfl
  | some time =>
      have ended := concluded row (Table.get?_eq_some_iff.mp found).1 (by simp [started]) nofun
      obtain ⟨-, -, state | state⟩ := Job.concluded_iff.mp ended
      · simp [state] at queued
      · simp [state] at queued

theorem Accounted.unfinished (accounted : db.Accounted) (found : db.jobs.get? id = some row)
    (going : row.state = .queued ∨ row.state = .running) : row.finishedAt = none := by
  cases finished : row.finishedAt with
  | none => rfl
  | some time =>
      obtain ⟨queued, running⟩ :=
        accounted.unended row (Table.get?_eq_some_iff.mp found).1 (by simp [finished])
      exact (going.elim queued running).elim

end Database

/-! ## What requests add -/

/-- The actions of a user whose entries are written without an actor. -/
def unsignedActions : List String := ["set.create", "set.adopt", "settings.language"]

/-- The entry is not about a job, and names the user unless it is written without an actor. -/
def AuditEntry.signs (user : String) (entry : AuditEntry) : Prop :=
  entry.ofJob = false ∧
    (entry.actor = user ∨ entry.actor = "anonymous" ∧ entry.action ∈ unsignedActions)

/-- Entries carry the user's name, and so do jobs, which are stored unstarted. -/
def Write.signs (user : String) : Write → Prop
  | .addJob job => job.author = user ∧ job.startedAt = none ∧ job.finishedAt = none
  | .addAudit entry => entry.signs user
  | .setJob _ _ => False
  | _ => True

def Op.signs (user : String) : Op → Prop
  | .commit _ writes => ∀ change ∈ writes, change.signs user
  | _ => True

/-- The change touches neither the jobs that were started nor the entries about jobs. -/
def Write.aside : Write → Prop
  | .addJob job => job.startedAt = none ∧ job.finishedAt = none
  | .addAudit entry => entry.ofJob = false
  | .setJob _ _ => False
  | _ => True

def Op.aside : Op → Prop
  | .commit _ writes => ∀ change ∈ writes, change.aside
  | _ => True

theorem Op.aside_of_signs {user : String} {op : Op} (signs : op.signs user) : op.aside := by
  cases op with
  | commit session writes =>
      intro change listed
      have signed := signs change listed
      cases change with
      | addJob job => exact signed.2
      | addAudit entry => exact signed.1
      | setJob id edit => exact signed
      | _ => trivial
  | _ => trivial

/-- On whose behalf the request runs, where the handler asks. -/
def WebRequest.author : WebRequest → Option String
  | .discardSubmit author _ | .discardSetSubmit author _ _ | .newSetSubmit author _ => some author
  | .adoptSubmit _ => none
  | .setDelete author _ _ | .mirrorDelete author _ => some author
  | .setCreateMissing author _ | .setUpdate author _ | .setSwitch author _ _ => some author

theorem enqueued_signs (type : JobType) (mirrorSetId : Option Nat) (user : String)
    (params : JobParams) : (enqueued type mirrorSetId user params).Uses (Op.signs user) := by
  refine Uses.bind (Uses.bind (uses_op ?_) fun inserted => ?_) fun _ => trivial
  · simp [Op.signs, Write.signs]
  · exact Uses.bind (uses_op trivial) fun _ => trivial

theorem WebRequest.handler_signs {request : WebRequest} {user : String}
    (orders : ∀ author ∈ request.author, author = user) :
    request.handler.Uses (Op.signs user) := by
  cases request with
  | discardSubmit author name =>
      obtain rfl := orders author rfl
      refine Uses.bind (uses_op trivial) fun cached => Uses.bind (uses_op trivial) fun sets => ?_
      split
      · trivial
      · split
        · trivial
        · exact enqueued_signs _ _ _ _
  | discardSetSubmit author setId snapshotSetId =>
      obtain rfl := orders author rfl
      refine Uses.bind (uses_op trivial) fun found => ?_
      split
      · trivial
      · split
        · trivial
        · refine Uses.bind (uses_op trivial) fun cached => ?_
          dsimp only
          split
          · trivial
          · exact enqueued_signs _ _ _ _
  | newSetSubmit author form =>
      obtain rfl := orders author rfl
      refine Uses.bind (uses_op trivial) fun found => ?_
      split
      · exact Uses.bind (uses_op trivial) fun _ => trivial
      · refine Uses.bind (uses_op ?_) fun inserted => enqueued_signs _ _ _ _
        have apart : startsWith "set.create" "job." = false := by decide
        simp [Op.signs, Write.signs, AuditEntry.signs, AuditEntry.ofJob, apart, unsignedActions]
  | adoptSubmit form =>
      refine Uses.bind (uses_op ?_) fun inserted => trivial
      have apart : startsWith "set.adopt" "job." = false := by decide
      simp [Op.signs, Write.signs, AuditEntry.signs, AuditEntry.ofJob, apart, unsignedActions]
  | setDelete author setId mirrors =>
      obtain rfl := orders author rfl
      refine Uses.bind (uses_op trivial) fun found => ?_
      split
      · trivial
      · split
        · refine Uses.bind (uses_op trivial) fun owned => ?_
          refine Uses.bind (uses_op fun change listed => ?_) fun _ => trivial
          simp only [List.cons_append, List.mem_cons, List.mem_append, List.mem_map,
            List.not_mem_nil, or_false] at listed
          rcases listed with rfl | ⟨row, -, rfl⟩ | rfl
          · have apart : startsWith "set.forget" "job." = false := by decide
            exact ⟨apart, .inl rfl⟩
          · trivial
          · trivial
        · refine Uses.bind (uses_op trivial) fun cached => ?_
          dsimp only
          split
          · trivial
          · exact enqueued_signs _ _ _ _
  | mirrorDelete author name =>
      obtain rfl := orders author rfl
      refine Uses.bind (uses_op trivial) fun cached => Uses.bind (uses_op trivial) fun sets => ?_
      split
      · trivial
      · exact enqueued_signs _ _ _ _
  | setCreateMissing author setId =>
      obtain rfl := orders author rfl
      exact enqueued_signs _ _ _ _
  | setUpdate author setId =>
      obtain rfl := orders author rfl
      exact enqueued_signs _ _ _ _
  | setSwitch author setId snapshotSetId =>
      obtain rfl := orders author rfl
      exact enqueued_signs _ _ _ _

theorem Arrival.program_aside (arrival : Arrival) : arrival.program.Uses Op.aside := by
  cases arrival with
  | web request =>
      refine (@WebRequest.handler_signs request (request.author.getD "") ?_).mono
        fun _ => Op.aside_of_signs
      rintro author ordered
      rw [Option.mem_def.mp ordered]
      rfl
  | direct type mirrorSetId author params =>
      exact (enqueued_signs type mirrorSetId author params).mono fun _ => Op.aside_of_signs

/-- What a request does to the jobs and to the entries about them: jobs are added, unstarted. -/
structure Database.Beside (before after : Database) : Prop where
  entries : after.audit.filter AuditEntry.ofJob = before.audit.filter AuditEntry.ofJob
  jobs : ∃ added, after.jobs.rows = before.jobs.rows ++ added ∧
    ∀ row ∈ added, row.startedAt = none ∧ row.finishedAt = none

namespace Database

variable {before after : Database}

theorem Beside.refl (db : Database) : db.Beside db := ⟨rfl, [], by simp, by simp⟩

theorem Beside.trans {first second third : Database} (before : first.Beside second)
    (after : second.Beside third) : first.Beside third := by
  obtain ⟨added, rows, fresh⟩ := before.jobs
  obtain ⟨more, others, unstarted⟩ := after.jobs
  refine ⟨after.entries.trans before.entries, added ++ more, ?_, ?_⟩
  · rw [others, rows, List.append_assoc]
  · exact List.forall_mem_append.mpr ⟨fresh, unstarted⟩

theorem Beside.of_write {now : Time} {change : Write} (aside : change.aside)
    {inserted keys : Inserted} (wrote : before.write now inserted change = .ok (after, keys)) :
    before.Beside after := by
  have jobs := (write_tables wrote).1
  cases change with
  | addJob job =>
      cases wrote
      refine ⟨rfl, [_], rfl, ?_⟩
      intro row listed
      rw [List.mem_singleton.mp listed]
      exact aside
  | addAudit entry =>
      cases wrote
      refine ⟨?_, [], by simp, by simp⟩
      simp only [Write.aside] at aside
      simp [aside]
  | setJob id edit => exact aside.elim
  | _ =>
      refine ⟨?_, [], ?_, by simp⟩
      · simp only [write] at wrote
        first
          | split at wrote <;> cases wrote; rfl
          | cases wrote; rfl
      · rw [jobs]
        simp [Write.onJobs]

theorem Beside.concluded (beside : before.Beside after) :
    after.jobs.rows.filter Job.concluded = before.jobs.rows.filter Job.concluded := by
  obtain ⟨added, rows, fresh⟩ := beside.jobs
  have none' : added.filter Job.concluded = [] := by
    apply List.filter_eq_nil_iff.mpr
    intro row listed
    simp [Job.concluded_of_unstarted (fresh row listed).1]
  rw [rows, List.filter_append, none', List.append_nil]

theorem Accounted.beside (accounted : before.Accounted) (beside : before.Beside after) :
    after.Accounted := by
  constructor
  · rw [beside.entries, beside.concluded]
    exact accounted.entries
  · obtain ⟨added, rows, fresh⟩ := beside.jobs
    intro row listed finished
    rw [rows] at listed
    rcases List.mem_append.mp listed with known | new
    · exact accounted.unended row known finished
    · simp [(fresh row new).2] at finished

theorem ConcludedBut.beside {jobId : Option Nat} (concluded : before.ConcludedBut jobId)
    (beside : before.Beside after) : after.ConcludedBut jobId := by
  obtain ⟨added, rows, fresh⟩ := beside.jobs
  intro row listed started apart
  rw [rows] at listed
  rcases List.mem_append.mp listed with known | new
  · exact concluded row known started apart
  · simp [(fresh row new).1] at started

end Database

theorem Op.beside_of_perform {op : Op} (aside : op.aside) {event : Event} {world after : World}
    {outcome : Except Exn op.Ret} (performed : op.perform event world = some (outcome, after)) :
    world.db.Beside after.db := by
  refine @Op.keeps_db (fun db => world.db.Beside db) op event world after outcome ?_ performed
    (.refl _)
  rintro session writes rfl change listed db inserted later keys wrote beside
  exact beside.trans (.of_write (aside change listed) wrote)

theorem System.beside_of_external {self : JobRunner} {before after : System} {label : Label}
    (uses : ∀ request ∈ before.requests, request.Uses Op.aside) (external : label.external)
    (stepped : before.step self label = some after) : before.world.db.Beside after.world.db := by
  rcases System.db_of_external external stepped with
    same | ⟨index, event, op, resume, outcome, -, found, performed⟩
  · rw [same]
    exact .refl _
  · exact Op.beside_of_perform (uses _ (List.mem_of_getElem? found)).1 performed

/-! ## The condition -/

def Op.audits : Op → Bool
  | .commit _ writes => writes.any fun
    | .addAudit _ => true
    | _ => false
  | _ => false

/-- The running job has been started. -/
def World.started (world : World) : Bool :=
  (world.currentJob.bind world.db.jobs.get?).any fun job => job.startedAt.isSome

/-- No commit of the job is refused, and the worker is cancelled only before the job is started or
in the very commit that stores its end. -/
def World.concludes (world : World) (op : Op) : Event → Bool
  | .cancel applied _ =>
      if world.started then applied && op.audits && (world.stored op).isSome
      else !(applied && op.commits)
  | _ => !op.commits || (world.stored op).isSome

/-- Every job that is started comes to its end: besides, the process does not end while one is
under way. -/
def System.concludes (system : System) : Label → Bool
  | .work event => system.worker.awaits.all fun op => system.world.concludes op event
  | .crash => system.world.db.jobs.rows.all fun job => job.startedAt.isNone || job.concluded
  | _ => true

/-! ## The job's own operations -/

/-- The change leaves alone when the job started and ended, whose it is, and the audit log. -/
def Write.tends (jobId : Nat) : Write → Prop
  | .setJob id change => id = jobId ∧ ∀ (now : Time) (row : Job),
      (change now row).startedAt = row.startedAt ∧ (change now row).finishedAt = row.finishedAt ∧
        (change now row).author = row.author ∧ (change now row).type = row.type
  | .addJob _ | .addAudit _ => False
  | _ => True

/-- An operation between a job's start and its end. -/
def Op.tends (jobId : Nat) : Op → Prop
  | .commit .job writes => ∀ change ∈ writes, change.tends jobId
  | .commit .request _ | .put _ | .beginJob _ => False
  | _ => True

theorem Op.tends_of_work {jobId : Nat} {op : Op} (used : JobRunner.OfWork jobId op) :
    op.tends jobId := by
  cases used with
  | bookkeeping reads =>
      cases op with
      | commit session writes =>
          cases session with
          | request => exact reads.elim
          | job =>
              intro change listed
              have steps := reads change listed
              cases change <;> first | exact steps.elim | trivial
      | put id => exact reads.elim
      | beginJob id => exact reads.elim
      | _ => trivial
  | aptly => trivial
  | store sets =>
      intro change listed
      have ofSets := sets change listed
      cases change <;> first | exact ofSets.elim | trivial
  | forget =>
      intro change listed
      rcases JobRunner.mem_forget listed with rfl | ⟨row, -, rfl⟩ | rfl
      · exact ⟨rfl, fun _ _ => ⟨rfl, rfl, rfl, rfl⟩⟩
      · trivial
      · trivial

theorem failRunningSteps_tends (jobId : Nat) (error : String) :
    (failRunningSteps jobId error).Uses (Op.tends jobId) := by
  refine Uses.bind (uses_op trivial) fun running => Uses.bind (uses_op fun change listed => ?_)
    fun _ => trivial
  rcases List.mem_cons.mp listed with rfl | listed
  · exact ⟨rfl, fun _ _ => ⟨rfl, rfl, rfl, rfl⟩⟩
  · obtain ⟨step, -, rfl⟩ := List.mem_map.mp listed
    trivial

theorem Op.audits_of_tends {jobId : Nat} {op : Op} (tends : op.tends jobId) : op.audits = false := by
  cases op with
  | commit session writes =>
      cases session with
      | request => exact tends.elim
      | job =>
          apply List.any_eq_false.mpr
          intro change listed
          have tended := tends change listed
          cases change <;> first | exact tended.elim | simp
  | _ => rfl

/-- A commit of a working session that can be stored is stored, unless the worker is cancelled
before it reaches the database. -/
theorem Op.perform_commit_stored {writes : List Write} {event : Event} {world after : World}
    {outcome : Except Exn Inserted} {db : Database} (whole : world.sessionBroken = false)
    (stored : world.stored (.commit .job writes) = some db)
    (performed : (commit .job writes).perform event world = some (outcome, after)) :
    (∃ inserted, event = .proceed ∧ outcome = .ok inserted ∧ after = { world with db := db }) ∨
      ∃ applied reached, event = .cancel applied reached ∧ outcome = .error .cancelled ∧
        after.db = if applied then db else world.db := by
  simp only [World.stored] at stored
  split at stored
  · rename_i reached inserted committed
    cases stored
    cases event with
    | proceed =>
        simp only [perform, World.commit, World.broken, whole, committed] at performed
        cases performed
        exact .inl ⟨inserted, rfl, rfl, by rw [whole]⟩
    | cancel applied later =>
        refine .inr ⟨applied, later, rfl, ?_⟩
        cases applied with
        | true =>
            simp only [perform, World.commit, whole, committed] at performed
            cases performed
            exact ⟨rfl, rfl⟩
        | false =>
            simp only [perform, World.commit] at performed
            cases performed
            exact ⟨rfl, rfl⟩
    | reply body reached => cases performed
    | fault error carriedOut reached => cases performed
    | checked check => cases performed
    | cached state => cases performed
  · cases stored

/-- Between a job's start and its end an operation leaves the session working and raises only what
`except Exception` catches, unless the worker is cancelled or the commit is refused. -/
theorem Op.ordinary_of_tends {jobId : Nat} {op : Op} (tends : op.tends jobId) {event : Event}
    {world after : World} {outcome : Except Exn op.Ret} (whole : world.sessionBroken = false)
    (started : world.started = true) (permitted : world.concludes op event = true)
    (performed : op.perform event world = some (outcome, after)) :
    after.sessionBroken = false ∧ ∀ error, outcome = .error error → error.isException = true := by
  have uncancelled : ∀ applied reached, event ≠ .cancel applied reached := by
    rintro applied reached rfl
    simp [World.concludes, started, Op.audits_of_tends tends] at permitted
  have request : ∀ {α : Type} {value : α} {outcome : Except Exn α},
      world.query .request value event = some (outcome, after) →
      after.sessionBroken = false ∧ ∀ error, outcome = .error error → error.isException = true := by
    intro α value outcome asked
    cases event <;> simp [World.query, World.broken] at asked
    obtain ⟨rfl, rfl⟩ := asked
    exact ⟨whole, by simp⟩
  have calm : op.calm = true → after.sessionBroken = false ∧
      ∀ error, outcome = .error error → error.isException = true := by
    intro quiet
    rcases Op.perform_calm quiet performed with ⟨applied, reached, cancelled, -⟩ | ⟨same, only⟩
    · exact absurd cancelled (uncancelled applied reached)
    · exact ⟨same.trans whole, only⟩
  cases op with
  | commit session writes =>
      cases session with
      | request => exact tends.elim
      | job =>
          have stored : (world.stored (.commit .job writes)).isSome = true := by
            cases event with
            | cancel applied reached => exact absurd rfl (uncancelled applied reached)
            | _ => simpa [World.concludes, Op.commits] using permitted
          obtain ⟨db, stored⟩ := Option.isSome_iff_exists.mp stored
          rcases Op.perform_commit_stored whole stored performed with
            ⟨inserted, -, rfl, rfl⟩ | ⟨applied, reached, cancelled, -⟩
          · exact ⟨whole, by simp⟩
          · exact absurd cancelled (uncancelled applied reached)
  | put id => exact tends.elim
  | beginJob id => exact tends.elim
  | readCache =>
      cases event <;> simp [perform] at performed
      obtain ⟨rfl, rfl⟩ := performed
      exact ⟨whole, by simp⟩
  | mirrorSetNamed name => exact request performed
  | loadSets => exact request performed
  | getJob session id =>
      cases session with
      | job => exact calm rfl
      | request => exact request performed
  | getMirrorSet session id =>
      cases session with
      | job => exact calm rfl
      | request => exact request performed
  | getSnapshotSet session id =>
      cases session with
      | job => exact calm rfl
      | request => exact request performed
  | snapshotSetsOf session id =>
      cases session with
      | job => exact calm rfl
      | request => exact request performed
  | _ => exact calm rfl

/-! ## A job from the queue to its end -/

namespace Auditing

def contract : Contract semantics where
  allowed world op event := world.concludes op event = true
  rely before after := before.Others after ∧ before.db.Beside after.db
  guarantee _ after := after.db.Accounted
  rely_refl world := ⟨.refl world, .refl world.db⟩
  rely_trans before after := ⟨before.1.trans after.1, before.2.trans after.2⟩

/-- Every job that was started has come to its end and has its entry. -/
structure Ended (db : Database) : Prop where
  accounted : db.Accounted
  concluded : db.ConcludedBut none

/-- The worker has turned to the job and not yet started it. -/
structure Begun (jobId : Nat) (job : Job) (world : World) : Prop extends Ended world.db where
  current : world.currentJob = some jobId
  whole : world.sessionBroken = false
  found : world.db.jobs.get? jobId = some job
  queued : job.state = .queued

/-- The job has been started and has not come to its end. -/
structure Running (jobId : Nat) (job : Job) (db : Database) : Prop where
  accounted : db.Accounted
  others : db.ConcludedBut (some jobId)
  row : ∃ row, db.jobs.get? jobId = some row ∧ row.startedAt.isSome = true ∧
    row.finishedAt = none ∧ row.author = job.author ∧ row.type = job.type

structure Going (jobId : Nat) (job : Job) (world : World) : Prop where
  current : world.currentJob = some jobId
  whole : world.sessionBroken = false
  running : Running jobId job world.db

variable {jobId : Nat} {job : Job} {world after : World} {db later : Database}

theorem Ended.beside (ended : Ended db) (beside : db.Beside later) : Ended later :=
  ⟨ended.accounted.beside beside, ended.concluded.beside beside⟩

theorem Begun.passed (begun : Begun jobId job world) (passed : contract.rely world after) :
    Begun jobId job after :=
  ⟨begun.toEnded.beside passed.2, passed.1.currentJob.trans begun.current,
    passed.1.sessionBroken.trans begun.whole, passed.1.db.jobs jobId job begun.found, begun.queued⟩

theorem Going.passed (going : Going jobId job world) (passed : contract.rely world after) :
    Going jobId job after := by
  obtain ⟨row, found, known⟩ := going.running.row
  exact ⟨passed.1.currentJob.trans going.current, passed.1.sessionBroken.trans going.whole,
    going.running.accounted.beside passed.2, going.running.others.beside passed.2,
    row, passed.1.db.jobs jobId row found, known⟩

theorem Begun.unstarted (begun : Begun jobId job world) : world.started = false := by
  have unstarted := begun.concluded.unstarted begun.found begun.queued
  simp [World.started, begun.current, begun.found, unstarted]

theorem Going.started (going : Going jobId job world) : world.started = true := by
  obtain ⟨row, found, started, -⟩ := going.running.row
  simp [World.started, going.current, found, started]

theorem Running.written {now : Time} {change : Write} (tends : change.tends jobId)
    {inserted keys : Inserted} (wrote : db.write now inserted change = .ok (later, keys))
    (running : Running jobId job db) : Running jobId job later := by
  have jobs := (Database.write_tables wrote).1
  obtain ⟨row, found, started, unfinished, author, type⟩ := running.row
  have same : later.jobs = db.jobs → later.audit = db.audit → Running jobId job later := by
    intro sameJobs sameAudit
    refine ⟨⟨?_, ?_⟩, ?_, row, ?_, started, unfinished, author, type⟩
    · rw [sameJobs, sameAudit]
      exact running.accounted.entries
    · rw [sameJobs]
      exact running.accounted.unended
    · unfold Database.ConcludedBut
      rw [sameJobs]
      exact running.others
    · rw [sameJobs]
      exact found
  cases change with
  | setJob id edit =>
      obtain ⟨rfl, keeps⟩ := tends
      have audit : later.audit = db.audit := by
        simp only [Database.write] at wrote
        split at wrote
        · cases wrote
        · cases wrote
          rfl
      obtain ⟨begins, ends, whose, what⟩ := keeps now row
      refine ⟨running.accounted.changed found jobs audit (Job.concluded_of_unfinished unfinished)
        (ends.trans unfinished), running.others.changed found jobs, Keyed.withId id (edit now row), ?_,
        ?_, ends.trans unfinished, whose.trans author, what.trans type⟩
      · rw [jobs, Write.onJobs, Table.get?_update, if_pos rfl, found, Option.map_some]
      · exact (congrArg Option.isSome begins).trans started
  | addJob row => exact tends.elim
  | addAudit entry => exact tends.elim
  | _ =>
      apply same
      · exact jobs
      · simp only [Database.write] at wrote
        first
          | split at wrote <;> cases wrote; rfl
          | cases wrote; rfl

theorem Going.performed {op : Op} (tends : op.tends jobId) {event : Event}
    {outcome : Except Exn op.Ret} (going : Going jobId job world)
    (permitted : world.concludes op event = true)
    (performed : op.perform event world = some (outcome, after)) :
    Going jobId job after ∧ ∀ error, outcome = .error error → error.isException = true := by
  obtain ⟨whole, ordinary⟩ :=
    Op.ordinary_of_tends tends going.whole going.started permitted performed
  have begins : op.begins = false := by
    cases op <;> first | rfl | exact tends.elim
  refine ⟨⟨((Op.perform_frame performed).currentJob begins).trans going.current, whole, ?_⟩, ordinary⟩
  refine @Op.keeps_db (Running jobId job) op event world after outcome ?_ performed going.running
  rintro session writes rfl change listed db inserted later keys wrote
  cases session with
  | request => exact tends.elim
  | job => exact Running.written (tends change listed) wrote

/-- Work in the session of a job that has been started. -/
theorem safe_working {α : Type} {program : Program α} (uses : program.Uses (Op.tends jobId))
    (ordinary : Ordinary program) (going : Going jobId job world) :
    Safe contract (fun _ => Going jobId job)
      (fun error after => error.isException = true ∧ Going jobId job after) program world := by
  refine Safe.of_raises (Going jobId job) uses ordinary going
    (fun _ _ going passed => going.passed passed) ?_
  rintro op state outcome after tends going ⟨event, permitted, performed⟩
  obtain ⟨next, only⟩ := going.performed tends permitted performed
  exact ⟨next.running.accounted, next, only⟩

theorem settle_at {loaded : Option MirrorSet} {state : JobState} {error : Option String}
    (ends : state = .succeeded ∨ state = .failed) (going : Going jobId job world) :
    Safe contract (fun _ after => Ended after.db) (fun _ after => Ended after.db)
      (JobRunner.settle jobId job loaded state error) world := by
  obtain ⟨row, found, started, unfinished, author, type⟩ := going.running.row
  let change (row : Job) : Job :=
    { row with state := state, error := error, finishedAt := some world.clock }
  let entry : AuditEntry :=
    { actor := job.author
      action := s!"job.{job.type.value}"
      target := (loaded.map MirrorSet.name).getD "snapshots"
      result := state.value
      detail := error }
  let db : Database :=
    { world.db with
      jobs := world.db.jobs.update jobId change
      audit := world.db.audit ++ [entry] }
  have changed : (Keyed.withId jobId (change row)).concluded = true :=
    Job.concluded_iff.mpr ⟨started, rfl, ends⟩
  have same : entry.account = (Keyed.withId jobId (change row)).account := by
    simp [entry, change, AuditEntry.account, Job.account, Keyed.withId, author, type]
  have found' : db.jobs.get? jobId = some (Keyed.withId jobId (change row)) := by
    rw [Table.get?_update, if_pos rfl, found, Option.map_some]
  have ended : Ended db :=
    ⟨going.running.accounted.concluded found rfl rfl (Job.concluded_of_unfinished unfinished)
      changed (ofJob_of_type job.type) same,
      (going.running.others.changed found rfl).all found' fun _ => changed⟩
  refine Safe.bind (safe_op fun event outcome after permitted performed => ?_) fun _ _ ended => ended
  have stored : world.stored (.commit .job [.setJob jobId fun now row =>
      { row with state := state, error := error, finishedAt := some now }, .addAudit entry]) =
      some db := by
    simp [World.stored, Database.commit, Database.writeAll, Database.write, found, db, change]
  rcases Op.perform_commit_stored going.whole stored performed with
    ⟨inserted, -, rfl, rfl⟩ | ⟨applied, reached, rfl, rfl, reaches⟩
  · exact .ok ended.accounted fun later passed => ended.beside passed.2
  · change world.concludes _ _ = true at permitted
    simp only [World.concludes, going.started, if_true, Bool.and_eq_true] at permitted
    rw [permitted.1.1, if_pos rfl] at reaches
    rw [← reaches] at ended
    exact .error ended.accounted fun later passed => ended.beside passed.2

/-- The commit that starts the job. -/
theorem start_at {loaded : Option MirrorSet} (begun : Begun jobId job world) :
    Safe contract (fun _ => Going jobId job) (fun _ after => Ended after.db)
      (commit .job [.setJob jobId fun now row =>
        { row with
          state := .running
          startedAt := some now
          expectedSteps := some (JobRunner.announcedSteps job loaded) }]) world := by
  have unfinished := begun.accounted.unfinished begun.found (.inl begun.queued)
  have unstarted := begun.concluded.unstarted begun.found begun.queued
  let change (row : Job) : Job :=
    { row with
      state := .running
      startedAt := some world.clock
      expectedSteps := some (JobRunner.announcedSteps job loaded) }
  let db : Database := { world.db with jobs := world.db.jobs.update jobId change }
  have found : db.jobs.get? jobId = some (Keyed.withId jobId (change job)) := by
    rw [Table.get?_update, if_pos rfl, begun.found, Option.map_some]
  have running : Running jobId job db :=
    ⟨begun.accounted.changed begun.found rfl rfl (Job.concluded_of_unstarted unstarted) unfinished,
      (begun.concluded.but _).changed begun.found rfl, _, found, rfl, unfinished, rfl, rfl⟩
  have stored : world.stored (.commit .job [.setJob jobId fun now row =>
      { row with
        state := .running
        startedAt := some now
        expectedSteps := some (JobRunner.announcedSteps job loaded) }]) = some db := by
    simp [World.stored, Database.commit, Database.writeAll, Database.write, begun.found, db, change]
  refine safe_op fun event outcome after permitted performed => ?_
  rcases Op.perform_commit_stored begun.whole stored performed with
    ⟨inserted, -, rfl, rfl⟩ | ⟨applied, reached, rfl, rfl, reaches⟩
  · have going : Going jobId job { world with db := db } := ⟨begun.current, begun.whole, running⟩
    exact .ok running.accounted fun later passed => going.passed passed
  · change world.concludes _ _ = true at permitted
    simp only [World.concludes, begun.unstarted, Op.commits] at permitted
    have unapplied : applied = false := by simpa using permitted
    rw [unapplied, if_neg Bool.false_ne_true] at reaches
    have ended : Ended after.db := reaches ▸ begun.toEnded
    exact .error ended.accounted fun later passed => ended.beside passed.2

theorem supervise_at {loaded : Option MirrorSet} {work : Program Unit}
    (uses : work.Uses (Op.tends jobId)) (ordinary : Ordinary work) (going : Going jobId job world) :
    Safe contract (fun _ after => Ended after.db) (fun _ after => Ended after.db)
      (JobRunner.supervise jobId job loaded work) world := by
  refine safe_supervise (Going jobId job)
    (fun error after => error.isException = true ∧ Going jobId job after)
    (safe_working uses ordinary going) ?_ ?_ ?_
  · intro after going
    exact settle_at (.inl rfl) going
  · rintro error after _ ⟨-, going⟩
    have failing : Ordinary (failRunningSteps jobId error.text) :=
      Coroutine.Raises.bind (ordinary_op _) fun running =>
        Coroutine.Raises.bind (ordinary_op _) fun _ => trivial
    have settled : ∀ recorded : Except Exn Unit, ∀ after, Going jobId job after →
        Safe contract (fun _ after => Ended after.db) (fun _ after => Ended after.db)
          (do
            JobRunner.settle jobId job loaded .failed (some error.text)
            Coroutine.ofExcept recorded) after := by
      intro recorded after going
      refine Safe.bind (settle_at (.inr rfl) going) fun _ after ended => ?_
      cases recorded with
      | ok value => exact ended
      | error error => exact ended
    refine Coroutine.safe_bind.mpr (Coroutine.safe_attempt.mpr ?_)
    exact (safe_working (failRunningSteps_tends jobId error.text) failing going).mono
      (fun _ after going => settled _ after going) fun _ after going => settled _ after going.2
  · rintro error after stopped ⟨ordinary, -⟩
    rw [ordinary] at stopped
    cases stopped

theorem runLoaded_at {self : JobRunner} {loaded : Option MirrorSet} (begun : Begun jobId job world) :
    Safe contract (fun _ after => Ended after.db) (fun _ after => Ended after.db)
      (self.runLoaded jobId job loaded) world := by
  unfold JobRunner.runLoaded
  split
  · exact begun.toEnded
  · apply Safe.bind (start_at begun)
    intro inserted started going
    apply supervise_at _ (self.ordinary_execute jobId job loaded) going
    exact (self.execute_uses_work jobId job loaded).mono fun _ => Op.tends_of_work

theorem runJob_at {self : JobRunner} (ended : Ended world.db)
    (found : world.db.jobs.get? jobId = some job) (queued : job.state = .queued) :
    Safe contract (fun _ after => Ended after.db) (fun _ after => Ended after.db)
      (self.runJob jobId) world := by
  have begins : Safe contract (fun (_ : Unit) => Begun jobId job) (fun _ after => Ended after.db)
      (beginJob jobId) world := by
    apply safe_beginJob
    have begun : Begun jobId job { world with
        currentJob := some jobId, nextPosition := 0, sessionBroken := false } :=
      ⟨ended, rfl, rfl, found, queued⟩
    exact .ok ended.accounted fun later passed => begun.passed passed
  have reads : ∀ {before : World} (op : Op) (value : op.Ret), Begun jobId job before →
      (∀ event, op.perform event before = before.query .job value event) →
      Safe contract (fun found after => found = value ∧ Begun jobId job after)
        (fun _ after => Ended after.db) (perform op) before := by
    intro before op value begun asked
    refine safe_query op (fun _ => value) asked ?_ ?_ ?_
    · intro _ _
      exact .ok begun.accounted fun later passed => ⟨rfl, begun.passed passed⟩
    · intro _ broken
      rw [begun.whole] at broken
      cases broken
    · intro _ _ _
      exact .error begun.accounted fun later passed => begun.toEnded.beside passed.2
  refine Safe.bind begins fun _ before begun => ?_
  refine Safe.bind (reads (.getJob .job jobId) (some job) begun fun _ => ?_) ?_
  · rw [← begun.found]
    rfl
  · rintro _ middle ⟨rfl, begun⟩
    cases named : job.mirrorSetId with
    | none =>
        simp only [named]
        exact runLoaded_at begun
    | some id =>
        simp only [named]
        refine Safe.bind (reads (.getMirrorSet .job id) _ begun fun _ => rfl) ?_
        rintro _ last ⟨rfl, begun⟩
        exact runLoaded_at begun

/-! ### The service -/

/-- `_recover_orphans` on one row. -/
def recover (time : Time) (row : Job) : Job :=
  if row.state = .running ∨ row.state = .queued then
    { row with
      state := .interrupted
      finishedAt := some time
      error := some "Interrupted by a restart of aptly-gui" }
  else row

theorem recover_cases (time : Time) (row : Job) : recover time row = row ∨
    (row.state = .running ∨ row.state = .queued) ∧ (recover time row).state = .interrupted ∧
      (recover time row).startedAt = row.startedAt := by
  unfold recover
  split
  · rename_i active
    exact .inr ⟨active, rfl, rfl⟩
  · exact .inl rfl

theorem concluded_recover (time : Time) (row : Job) :
    (recover time row).concluded = row.concluded := by
  rcases recover_cases time row with same | ⟨active, interrupted, -⟩
  · rw [same]
  · have before : row.concluded = false := by
      rcases active with state | state <;> simp [Job.concluded, state]
    rw [before]
    simp [Job.concluded, interrupted]

theorem account_recover {time : Time} {row : Job} (concluded : row.concluded = true) :
    (recover time row).account = row.account := by
  rcases recover_cases time row with same | ⟨active, -⟩
  · rw [same]
  · rcases active with state | state <;> simp [Job.concluded, state] at concluded

theorem rows_recovered (world : World) :
    world.recovered.db.jobs.rows = world.db.jobs.rows.map (recover world.clock) := by
  apply List.map_congr_left
  intro row _
  by_cases active : row.state = .running ∨ row.state = .queued
  · simp only [recover, if_pos active]
    rfl
  · simp only [recover, if_neg active]
    rfl

theorem mem_recovered {row : Job} (listed : row ∈ world.recovered.db.jobs.rows) :
    ∃ old ∈ world.db.jobs.rows, row = recover world.clock old := by
  rw [rows_recovered] at listed
  obtain ⟨old, known, rfl⟩ := List.mem_map.mp listed
  exact ⟨old, known, rfl⟩

theorem accounted_recovered (accounted : world.db.Accounted) : world.recovered.db.Accounted := by
  constructor
  · have same : (world.db.jobs.rows.map (recover world.clock)).filter Job.concluded =
        (world.db.jobs.rows.filter Job.concluded).map (recover world.clock) := by
      rw [List.filter_map]
      congr 1
      exact List.filter_congr fun row _ => concluded_recover world.clock row
    rw [rows_recovered, same, List.map_map]
    have accounts : (world.db.jobs.rows.filter Job.concluded).map
        (Job.account ∘ recover world.clock) =
        (world.db.jobs.rows.filter Job.concluded).map Job.account :=
      List.map_congr_left fun row listed => account_recover (List.mem_filter.mp listed).2
    rw [accounts]
    exact accounted.entries
  · intro row listed finished
    obtain ⟨old, known, rfl⟩ := mem_recovered listed
    rcases recover_cases world.clock old with same | ⟨-, interrupted, -⟩
    · rw [same] at finished ⊢
      exact accounted.unended old known finished
    · simp [interrupted]

theorem Ended.recovered (ended : Ended world.db) : Ended world.recovered.db := by
  refine ⟨accounted_recovered ended.accounted, fun row listed started _ => ?_⟩
  obtain ⟨old, known, rfl⟩ := mem_recovered listed
  rw [concluded_recover]
  apply ended.concluded old known _ nofun
  rcases recover_cases world.clock old with same | ⟨-, -, same⟩
  · rwa [same] at started
  · rwa [same] at started

variable {self : JobRunner} {start system : System}

def outline (fresh : start.Fresh) (ended : Ended start.world.db) :
    Outline self (fun system label => system.concludes label) start where
  contract := contract
  always world := world.db.Accounted
  rest _ world := Ended world.db
  requests := fresh.requests_use
  entry := ended.accounted
  begins := .fresh fresh ended
  relies accounted passed := accounted.beside passed.2
  guarantees _ kept := kept
  unmoved accounted same _ _ _ := by
    rw [same]
    exact accounted
  recovers := accounted_recovered
  stays ended passed := ended.beside passed.2
  others reached _ external stepped := by
    have aside := reached.uses Arrival.program_aside (by simp [fresh.requests])
    exact ⟨System.others_of_external (reached.requests_use fresh.requests_use) external stepped,
      System.beside_of_external aside external stepped⟩
  allows _ permitted running := by
    simp only [System.concludes, running, Worker.awaits, Option.all_some] at permitted
    exact permitted
  takes := by
    intro system jobId waiting reached _ idle queued _ ended later passed
    obtain ⟨job, found, unstarted⟩ :=
      (reached.queued fresh).unstarted jobId (by simp [System.waiting, queued])
    have found' : later.db.jobs.get? jobId = some job := passed.1.db.jobs jobId job found
    refine (runJob_at (ended.beside passed.2) found' unstarted).mono ?_ ?_
    · intro _ world ended
      rw [World.released_db]
      exact ended
    · intro error world ended
      rw [World.released_db]
      exact ended
  crashes _ permitted accounted _ := by
    refine ⟨accounted, fun row listed started _ => ?_⟩
    have ended := List.all_eq_true.mp permitted row listed
    simpa [Option.isSome_iff_ne_none.mp started] using ended
  starts _ ended := ended.recovered

end Auditing

/-- The worker is running this job. -/
def System.Runs (system : System) (jobId : Nat) : Prop :=
  (∃ program, system.worker = .running program) ∧ system.world.taken.head? = some jobId

namespace Auditing

variable {self : JobRunner} {start system before after : System}

/-- Every job that was started has come to its end or is being run. -/
def Followed (system : System) : Prop :=
  ∀ row ∈ system.world.db.jobs.rows, row.startedAt.isSome = true →
    row.concluded = true ∨ system.Runs row.id

theorem followed_of_external {label : Label}
    (uses : ∀ request ∈ before.requests, request.Uses Op.forRequest)
    (asides : ∀ request ∈ before.requests, request.Uses Op.aside) (external : label.external)
    (stepped : before.step self label = some after) (followed : Followed before) :
    Followed after := by
  have taken := (System.others_of_external uses external stepped).taken
  have worker := System.worker_of_external external stepped
  obtain ⟨added, rows, fresh⟩ := (System.beside_of_external asides external stepped).jobs
  intro row listed started
  rw [rows] at listed
  rcases List.mem_append.mp listed with known | new
  · refine (followed row known started).imp_right fun runs => ?_
    rw [System.Runs, worker, taken]
    exact runs
  · simp [(fresh row new).1] at started

/-- One operation of the worker concerns the row of the job it runs. -/
theorem followed_of_work {event : Event} (queued : before.Queued)
    (stepped : before.step self (.work event) = some after)
    (running : ∃ program, after.worker = .running program) (followed : Followed before) :
    Followed after := by
  obtain ⟨program, next, world, worker, progressed, rfl⟩ := System.step_work stepped
  obtain ⟨current, -, -, uses, -, last⟩ := queued.working program worker
  obtain ⟨-, op, outcome, own, performed⟩ := uses.step progressed
  obtain ⟨rows, -, -⟩ := Op.jobFrame own performed
  have taken : (world.released (.resume next)).taken.head? = some current := by
    rw [World.released_taken, (Op.perform_frame performed).taken]
    exact last
  intro row listed started
  by_cases same : row.id = current
  · exact .inr ⟨running, same ▸ taken⟩
  · rw [World.released_db] at listed
    have found : world.db.jobs.get? row.id = some row := Table.mem_rows_iff.mp listed
    rw [rows.others row.id same] at found
    refine .inl ((followed row (Table.get?_eq_some_iff.mp found).1 started).resolve_right ?_)
    rintro ⟨-, head⟩
    exact same (Option.some.inj (head.symm.trans last))

theorem followed (fresh : start.Fresh) (ended : Ended start.world.db)
    (reached : System.Reachable self (fun system label => system.concludes label) start system) :
    Followed system := by
  induction reached with
  | refl => exact fun row listed started => .inl (ended.concluded row listed started nofun)
  | @step before after label earlier permitted stepped inductionHypothesis =>
      have later : System.Reachable self (fun system label => system.concludes label) start after :=
        .step earlier permitted stepped
      have uses := earlier.requests_use fresh.requests_use
      have asides := earlier.uses Arrival.program_aside (by simp [fresh.requests])
      by_cases external : label.external = true
      · exact followed_of_external uses asides external stepped inductionHypothesis
      by_cases running : ∃ program, after.worker = .running program
      · cases label with
        | work event => exact followed_of_work (earlier.queued fresh) stepped running inductionHypothesis
        | take =>
            obtain ⟨jobId, waiting, idle, queue, rfl⟩ := System.step_take stepped
            have resting : ∀ program, before.worker ≠ .running program := by simp [idle]
            have ended := ((outline fresh ended).holds earlier).worker.rests resting
            exact fun row listed started => .inl (ended.concluded row listed started nofun)
        | crash =>
            obtain ⟨program, running⟩ := running
            cases stepped
            cases running
        | start =>
            obtain ⟨program, running⟩ := running
            obtain ⟨-, rfl⟩ := System.step_start stepped
            cases running
        | arrive arrival => exact absurd rfl external
        | serve index event => exact absurd rfl external
        | drift reached => exact absurd rfl external
        | tick elapsed => exact absurd rfl external
      · have ended := ((outline fresh ended).holds later).worker.rests
          fun program worker => running ⟨program, worker⟩
        exact fun row listed started => .inl (ended.concluded row listed started nofun)

end Auditing

end AptlyGui
