import AptlyGui.Services.Jobs.Uses
import AptlyGui.Operations
import AptlyGui.Web.Frame

/-!
# What a job leaves alone

A job changes no other job's row and never what its own row says it is, and
most of its operations leave the mirror sets and snapshot sets alone.
-/

namespace AptlyGui

open Coroutine (Uses)

/-! ## Jobs -/

/-- A job of this type does nothing without a mirror set. -/
def Job.needsSet (job : Job) : Bool :=
  match job.type with
  | .discard | .remove => false
  | _ => true

/-- The mirror set whose id the job holds. -/
def Job.mirrorSetIn (job : Job) (db : Database) : Option MirrorSet :=
  job.mirrorSetId.bind db.mirrorSets.get?

/-- The snapshot set whose id the job holds. -/
def Job.targetIn (job : Job) (db : Database) : Option SnapshotSet :=
  job.params.snapshotSetId.bind db.snapshotSets.get?

theorem Job.Advances.refl (row : Job) : row.Advances row := ⟨rfl, rfl, fun queued => queued⟩

theorem Job.Advances.trans {first second third : Job} (before : first.Advances second)
    (after : second.Advances third) : first.Advances third :=
  ⟨after.1.trans before.1, after.2.1.trans before.2.1, fun queued => before.2.2 (after.2.2 queued)⟩

/-- Only the row of the job itself is changed, and not what the job is. -/
structure Database.JobFrame (jobId : Nat) (before after : Database) : Prop where
  others : ∀ id, id ≠ jobId → after.jobs.get? id = before.jobs.get? id
  own : ∀ row, before.jobs.get? jobId = some row → ∃ changed,
    after.jobs.get? jobId = some changed ∧ row.Advances changed

theorem Database.JobFrame.refl (jobId : Nat) (db : Database) : JobFrame jobId db db :=
  ⟨fun _ _ => rfl, fun row found => ⟨row, found, .refl row⟩⟩

theorem Database.JobFrame.trans {jobId : Nat} {first second third : Database}
    (before : JobFrame jobId first second) (after : JobFrame jobId second third) :
    JobFrame jobId first third := by
  refine ⟨fun id other => (after.others id other).trans (before.others id other), ?_⟩
  intro row found
  obtain ⟨middle, known, earlier⟩ := before.own row found
  obtain ⟨last, found, later⟩ := after.own middle known
  exact ⟨last, found, earlier.trans later⟩

theorem Database.JobFrame.of_same {jobId : Nat} {before after : Database}
    (same : after.jobs = before.jobs) : JobFrame jobId before after := by
  refine ⟨fun _ _ => ?_, fun row found => ⟨row, ?_, .refl row⟩⟩
  · rw [same]
  · rw [same]
    exact found

theorem Database.JobFrame.isSome {jobId id : Nat} {before after : Database}
    (rows : JobFrame jobId before after) (stored : (before.jobs.get? id).isSome = true) :
    (after.jobs.get? id).isSome = true := by
  by_cases own : id = jobId
  · subst own
    obtain ⟨row, found⟩ := Option.isSome_iff_exists.mp stored
    obtain ⟨changed, found, -⟩ := rows.own row found
    exact Option.isSome_of_eq_some found
  · rw [rows.others id own]
    exact stored

theorem Database.jobFrame_of_write {jobId : Nat} {now : Time} {change : Write}
    (own : change.ofJob jobId) {db after : Database} {inserted keys : Inserted}
    (wrote : db.write now inserted change = .ok (after, keys)) : JobFrame jobId db after := by
  have jobs := (write_tables wrote).1
  cases change with
  | setJob id edit =>
      obtain ⟨rfl, same⟩ := own
      refine ⟨fun other different => by simp [jobs, Write.onJobs, different], fun row found => ?_⟩
      exact ⟨Keyed.withId id (edit now row), by simp [jobs, Write.onJobs, found], same now row⟩
  | addJob job => exact own.elim
  | _ => exact .of_same jobs

theorem Database.jobFrame_of_commit {jobId : Nat} {now : Time} {writes : List Write}
    (own : ∀ change ∈ writes, change.ofJob jobId) {db after : Database} {inserted : Inserted}
    (committed : db.commit now writes = .ok (after, inserted)) : JobFrame jobId db after :=
  writeAll_induction (.refl jobId) .trans
    (fun change membership _ _ _ _ wrote => jobFrame_of_write (own change membership) wrote)
    committed

theorem Op.jobFrame {jobId : Nat} {op : Op} (own : op.ofJob jobId) {event : Event}
    {world after : World} {outcome : Except Exn op.Ret}
    (performed : op.perform event world = some (outcome, after)) :
    world.db.JobFrame jobId after.db ∧ after.queue = world.queue ∧
      (after.currentJob = world.currentJob ∨ after.currentJob = some jobId) := by
  have frame := Op.perform_frame performed
  cases op with
  | commit session writes =>
      cases session with
      | request => exact own.elim
      | job =>
          refine ⟨?_, frame.queue rfl, .inl (frame.currentJob rfl)⟩
          rcases Op.perform_commit performed with ⟨db, inserted, -, -, committed, -, rfl⟩ |
            ⟨_, -, -, -, -, rfl⟩ | ⟨-, -, -, rfl⟩ |
            ⟨_, _, -, -, rfl | ⟨db, inserted, -, committed, rfl⟩⟩
          · exact Database.jobFrame_of_commit own committed
          · exact .refl _ _
          · exact .refl _ _
          · exact .refl _ _
          · exact Database.jobFrame_of_commit own committed
  | beginJob id =>
      obtain rfl : id = jobId := own
      cases event <;> cases performed
      exact ⟨.refl _ _, rfl, .inr rfl⟩
  | put id => exact own.elim
  | _ =>
      have same := frame.db rfl
      refine ⟨?_, frame.queue rfl, .inl (frame.currentJob rfl)⟩
      rw [same]
      exact .refl _ _

/-- A job that runs is still the one that runs. -/
theorem Op.current_of_perform {jobId : Nat} {op : Op} (own : op.ofJob jobId) {event : Event}
    {world after : World} {outcome : Except Exn op.Ret}
    (performed : op.perform event world = some (outcome, after))
    (current : world.currentJob = some jobId) : after.currentJob = some jobId := by
  obtain ⟨-, -, unchanged | started⟩ := jobFrame own performed
  · exact unchanged.trans current
  · exact started

/-- Another job does not make this one run. -/
theorem Op.idle_of_perform {jobId other : Nat} {op : Op} (own : op.ofJob other)
    (different : other ≠ jobId) {event : Event} {world after : World}
    {outcome : Except Exn op.Ret} (performed : op.perform event world = some (outcome, after))
    (idle : world.currentJob ≠ some jobId) : after.currentJob ≠ some jobId := by
  obtain ⟨-, -, unchanged | started⟩ := jobFrame own performed
  · rw [unchanged]
    exact idle
  · rw [started]
    exact fun same => different (Option.some.inj same)

/-- The change makes no job SUCCEEDED. -/
def Write.leavesOpen : Write → Prop
  | .addJob job => job.state ≠ .succeeded
  | .setJob _ change => ∀ (now : Time) (row : Job), row.state ≠ .succeeded →
      (change now row).state ≠ .succeeded
  | _ => True

def Op.leavesOpen : Op → Prop
  | .commit _ writes => ∀ change ∈ writes, change.leavesOpen
  | _ => True

theorem Op.leavesOpen_of_bookkeeping {op : Op} (bookkeeping : op.bookkeeping) : op.leavesOpen := by
  cases op with
  | commit session writes =>
      cases session with
      | request => exact bookkeeping.elim
      | job =>
          intro change listed
          have steps := bookkeeping change listed
          cases change <;> first | exact steps.elim | trivial
  | _ => trivial

theorem Database.open_of_write {now : Time} {change : Write} (leaves : change.leavesOpen)
    {db after : Database} {inserted keys : Inserted}
    (wrote : db.write now inserted change = .ok (after, keys)) {id : Nat}
    (unended : ∀ row, db.jobs.get? id = some row → row.state ≠ .succeeded) :
    ∀ row, after.jobs.get? id = some row → row.state ≠ .succeeded := by
  rw [(write_tables wrote).1]
  intro row found
  cases change with
  | addJob job =>
      simp only [Write.onJobs, Table.get?_insert] at found
      split at found
      · cases found
        exact leaves
      · exact unended row found
  | setJob other edit =>
      simp only [Write.onJobs, Table.get?_update] at found
      split at found
      · rename_i same
        subst same
        obtain ⟨old, known, rfl⟩ := Option.map_eq_some_iff.mp found
        exact leaves now old (unended old known)
      · exact unended row found
  | _ => exact unended row found

/-! ## Sets -/

/-- A change of the jobs, the step log or the audit log. -/
def Write.sparesSets : Write → Prop
  | .addJob _ | .addStep _ | .addAudit _ | .setJob _ _ | .setStep _ _ => True
  | _ => False

/-- A commit of such changes, or no commit at all. -/
def Op.sparesSets : Op → Prop
  | .commit _ writes => ∀ change ∈ writes, change.sparesSets
  | _ => True

theorem Op.sparesSets_of_bookkeeping {op : Op} (bookkeeping : op.bookkeeping) : op.sparesSets := by
  cases op with
  | commit session writes =>
      cases session with
      | request => exact bookkeeping.elim
      | job =>
          intro change membership
          have steps := bookkeeping change membership
          cases change <;> trivial
  | _ => trivial

theorem Op.sparesSets_of_closes {jobId : Nat} {op : Op} (closes : op.closes jobId) :
    op.sparesSets := by
  cases op with
  | commit session writes =>
      cases session with
      | request => exact closes.elim
      | job =>
          intro change membership
          have ends := closes change membership
          cases change <;> trivial
  | _ => trivial

/-- The database once the awaited commit is stored, if it is a commit that can be. -/
def World.stored (world : World) : Op → Option Database
  | .commit _ writes =>
      match world.db.commit world.clock writes with
      | .ok (db, _) => some db
      | .error _ => none
  | _ => none

/-- An operation stores its commit or leaves the database as it is. -/
theorem Op.db_of_perform {op : Op} {event : Event} {world after : World}
    {outcome : Except Exn op.Ret} (performed : op.perform event world = some (outcome, after)) :
    after.db = world.db ∨ world.stored op = some after.db := by
  cases op with
  | commit session writes =>
      cases session with
      | job =>
          rcases Op.perform_commit performed with ⟨db, inserted, -, -, committed, -, rfl⟩ |
            ⟨_, -, -, -, -, rfl⟩ | ⟨-, -, -, rfl⟩ |
            ⟨_, _, -, -, rfl | ⟨db, inserted, -, committed, rfl⟩⟩
          · exact .inr (by simp [World.stored, committed])
          · exact .inl rfl
          · exact .inl rfl
          · exact .inl rfl
          · exact .inr (by simp [World.stored, committed])
      | request =>
          rcases World.commit_request performed with
            ⟨error, -, rfl⟩ | ⟨db, inserted, committed, -, rfl⟩
          · exact .inl rfl
          · exact .inr (by simp [World.stored, committed])
  | _ => exact .inl ((Op.perform_frame performed).db rfl)

/-- What every change of a commit keeps holds after an operation that held before it. -/
theorem Op.keeps_db {property : Database → Prop} {op : Op} {event : Event} {world after : World}
    {outcome : Except Exn op.Ret}
    (single : ∀ session writes, op = .commit session writes → ∀ change ∈ writes,
      ∀ db inserted later keys, db.write world.clock inserted change = .ok (later, keys) →
      property db → property later)
    (performed : op.perform event world = some (outcome, after)) (held : property world.db) :
    property after.db := by
  rcases Op.db_of_perform performed with same | stored
  · rw [same]
    exact held
  · cases op with
    | commit session writes =>
        simp only [World.stored] at stored
        split at stored
        · rename_i db inserted committed
          cases stored
          exact @Database.writeAll_induction world.clock (fun db later => property db → property later)
            (fun _ => id) (fun first second held => second (first held)) writes world.db after.db {}
            inserted (single session writes rfl) committed held
        · cases stored
    | _ => cases stored

theorem Op.open_of_perform {op : Op} (leaves : op.leavesOpen) {event : Event} {world after : World}
    {outcome : Except Exn op.Ret} (performed : op.perform event world = some (outcome, after))
    {id : Nat} (unended : ∀ row, world.db.jobs.get? id = some row → row.state ≠ .succeeded) :
    ∀ row, after.db.jobs.get? id = some row → row.state ≠ .succeeded := by
  refine @Op.keeps_db (fun db => ∀ row, db.jobs.get? id = some row → row.state ≠ .succeeded) op
    event world after outcome ?_ performed unended
  rintro session writes rfl change listed db inserted later keys wrote
  exact Database.open_of_write (leaves change listed) wrote

/-- The change puts no row into the snapshot sets, and changes none. -/
def Write.recordsNothing : Write → Prop
  | .addSnapshotSet _ | .setSnapshotSet _ _ => False
  | _ => True

def Op.recordsNothing : Op → Prop
  | .commit _ writes => ∀ change ∈ writes, change.recordsNothing
  | _ => True

theorem Op.recordsNothing_of_spares {op : Op} (spares : op.sparesSets) : op.recordsNothing := by
  cases op with
  | commit session writes =>
      intro change listed
      have spared := spares change listed
      cases change <;> first | exact spared | trivial
  | _ => trivial

/-- The snapshot sets that are there afterwards were there before. -/
theorem Op.snapshotSet_of_perform {op : Op} (nothing : op.recordsNothing) {event : Event}
    {world after : World} {outcome : Except Exn op.Ret}
    (performed : op.perform event world = some (outcome, after)) {id : Nat} {row : SnapshotSet}
    (found : after.db.snapshotSets.get? id = some row) :
    world.db.snapshotSets.get? id = some row := by
  have absent : ∀ other, world.db.snapshotSets.get? id ≠ some other →
      after.db.snapshotSets.get? id ≠ some other := by
    intro other missing
    refine @Op.keeps_db (fun db => db.snapshotSets.get? id ≠ some other) op event world after outcome
      ?_ performed missing
    rintro session writes rfl change listed db inserted later keys wrote missing
    rw [(Database.write_tables wrote).2.2.2]
    have spared := nothing change listed
    cases change with
    | addSnapshotSet row => exact spared.elim
    | setSnapshotSet id edit => exact spared.elim
    | deleteSnapshotSet gone =>
        simp only [Write.onSnapshotSets, Table.get?_delete]
        split
        · simp
        · exact missing
    | _ => exact missing
  by_contra missing
  exact absent row missing found

/-- The two tables of sets are the same. -/
structure Database.SameSets (before after : Database) : Prop where
  mirrorSets : after.mirrorSets = before.mirrorSets
  snapshotSets : after.snapshotSets = before.snapshotSets

theorem Database.sameSets_of_write {now : Time} {change : Write} (spares : change.sparesSets)
    {db after : Database} {inserted keys : Inserted}
    (wrote : db.write now inserted change = .ok (after, keys)) : SameSets db after := by
  obtain ⟨-, -, mirrorSets, snapshotSets⟩ := write_tables wrote
  cases change with
  | addMirrorSet row => exact spares.elim
  | addSnapshotSet row => exact spares.elim
  | setSnapshotSet id edit => exact spares.elim
  | deleteMirrorSet id => exact spares.elim
  | deleteSnapshotSet id => exact spares.elim
  | _ => exact ⟨mirrorSets, snapshotSets⟩

theorem Op.sameSets {op : Op} (spares : op.sparesSets) {event : Event} {world after : World}
    {outcome : Except Exn op.Ret} (performed : op.perform event world = some (outcome, after)) :
    world.db.SameSets after.db := by
  rcases Op.db_of_perform performed with same | stored
  · rw [same]
    exact ⟨rfl, rfl⟩
  · cases op with
    | commit session writes =>
        simp only [World.stored] at stored
        split at stored
        · rename_i db inserted committed
          cases stored
          exact Database.writeAll_induction (fun _ => ⟨rfl, rfl⟩)
            (fun first second => ⟨second.mirrorSets.trans first.mirrorSets,
              second.snapshotSets.trans first.snapshotSets⟩)
            (fun change membership _ _ _ _ wrote =>
              Database.sameSets_of_write (spares change membership) wrote) committed
        · cases stored
    | _ => cases stored

/-! ## Steps of the service -/

/-- A step leaves the database as it is, interrupts what was unfinished, or stores one commit. -/
theorem System.db_of_step {self : JobRunner} {check : World → Op → Event → Bool}
    {before after : System} {label : Label} (permitted : before.checked check label = true)
    (stepped : before.step self label = some after) :
    after.world.db = before.world.db ∨ after.world.db = before.world.recovered.db ∨
      ∃ op event, check before.world op event = true ∧
        before.world.stored op = some after.world.db := by
  cases label with
  | arrive arrival =>
      obtain ⟨-, rfl⟩ := System.step_arrive stepped
      exact .inl rfl
  | serve index event =>
      obtain ⟨op, resume, outcome, world, found, performed, rfl⟩ := System.step_serve stepped
      rw [checked_serve found] at permitted
      rcases Op.db_of_perform performed with same | stored
      · exact .inl same
      · exact .inr (.inr ⟨op, event, permitted, stored⟩)
  | take =>
      obtain ⟨_, _, -, -, rfl⟩ := System.step_take stepped
      exact .inl rfl
  | work event =>
      obtain ⟨program, next, world, running, progressed, rfl⟩ := System.step_work stepped
      obtain ⟨op, resume, outcome, rfl, performed, rfl⟩ := Coroutine.step_eq_some progressed
      rw [checked_work running] at permitted
      rw [World.released_db]
      rcases Op.db_of_perform performed with same | stored
      · exact .inl same
      · exact .inr (.inr ⟨op, event, permitted, stored⟩)
  | drift reached =>
      cases stepped
      exact .inl rfl
  | tick elapsed =>
      cases stepped
      exact .inl rfl
  | crash =>
      cases stepped
      exact .inl rfl
  | start =>
      obtain ⟨-, rfl⟩ := System.step_start stepped
      exact .inr (.inl rfl)

/-- What a restart and every commit that passes the check keep holds in every state. -/
theorem System.Reachable.keeps_db {self : JobRunner} {check : World → Op → Event → Bool}
    {start system : System} (property : Database → Prop)
    (reached : Reachable self (fun system label => system.checked check label) start system)
    (recovers : ∀ world : World, property world.db → property world.recovered.db)
    (commits : ∀ world op event db, check world op event = true → world.stored op = some db →
      property world.db → property db)
    (entry : property start.world.db) : property system.world.db := by
  induction reached with
  | refl => exact entry
  | step _ permitted stepped inductionHypothesis =>
      rcases db_of_step permitted stepped with same | recovered | ⟨op, event, passed, stored⟩
      · rw [same]
        exact inductionHypothesis
      · rw [recovered]
        exact recovers _ inductionHypothesis
      · exact commits _ op event _ passed stored inductionHypothesis

end AptlyGui
