import AptlyGui.Services.Jobs.Queue
import AptlyGui.Services.Owners
import AptlyGui.Outline
import AptlyGui.Rules

/-!
# Whose mirrors a removal deletes

A REMOVE job deletes the names that were listed when it was asked for.  As long
as no request commits a state in which a waiting or running removal lists a
mirror of another set, the job takes no other set's mirror.
-/

namespace AptlyGui

open Coroutine (Contract Safe SafeNow Uses)

/-- The job waits or runs. -/
def Job.unfinished (job : Job) : Bool :=
  decide (job.state = .queued) || decide (job.state = .running)

/-- No name on the job's list is a mirror of a set other than the one it removes. -/
def Job.sparesIn (job : Job) (db : Database) : Bool :=
  (job.params.mirrors.getD []).all fun name => db.mirrorSets.rows.all fun mirrorSet =>
    decide (name ∉ mirrorSet.expectedMirrors) ||
      decide (job.params.mirrorSetId = some mirrorSet.id)

def Database.sparesOthers (db : Database) : Bool :=
  db.jobs.rows.all fun job =>
    decide (job.type ≠ .remove) || !job.unfinished || job.sparesIn db

/-- A request stores nothing that makes an unfinished removal list another set's mirror. -/
def World.sparesOthers (world : World) (op : Op) (_ : Event) : Bool :=
  match op with
  | .commit .request writes =>
      (world.stored (.commit .request writes)).all Database.sparesOthers
  | _ => true

/-- The mirror is one that the running removal may take. -/
structure World.MayDelete (world : World) (name : String) (jobId : Nat) (job : Job) : Prop where
  current : world.currentJob = some jobId
  stored : world.db.jobs.get? jobId = some job
  type : job.type = .remove
  own : ∀ mirrorSet ∈ world.db.mirrorSets.rows, name ∈ mirrorSet.expectedMirrors →
    job.params.mirrorSetId = some mirrorSet.id

namespace Job

theorem sparesIn_iff {job : Job} {db : Database} : job.sparesIn db = true ↔
    ∀ name ∈ job.params.mirrors.getD [], ∀ mirrorSet ∈ db.mirrorSets.rows,
      name ∈ mirrorSet.expectedMirrors → job.params.mirrorSetId = some mirrorSet.id := by
  simp only [sparesIn, List.all_eq_true, Bool.or_eq_true, decide_eq_true_eq,
    ← Decidable.imp_iff_not_or]

theorem sparesIn_of_fewer {job changed : Job} {before after : Database}
    (spares : job.sparesIn before = true) (params : changed.params = job.params)
    (fewer : ∀ mirrorSet ∈ after.mirrorSets.rows, mirrorSet ∈ before.mirrorSets.rows) :
    changed.sparesIn after = true := by
  rw [sparesIn_iff] at spares ⊢
  rw [params]
  exact fun name listed mirrorSet stored => spares name listed mirrorSet (fewer mirrorSet stored)

end Job

theorem Database.sparesOthers_iff {db : Database} : db.sparesOthers = true ↔
    ∀ id job, db.jobs.get? id = some job → job.type = .remove → job.unfinished = true →
      job.sparesIn db = true := by
  simp only [sparesOthers, List.all_eq_true, Bool.or_eq_true, decide_eq_true_eq,
    Bool.not_eq_true', ← Bool.not_eq_true, or_assoc]
  constructor
  · intro every id job found type unfinished
    have cases := every job (Table.get?_eq_some_iff.mp found).1
    tauto
  · intro every job listed
    have found := every job.id job (Table.mem_rows_iff.mp listed)
    tauto

/-! ## What a running job does -/

/-- The change leaves the job's row unfinished, if it was. -/
def Write.staysUnfinished : Write → Prop
  | .setJob _ change => ∀ (now : Time) (row : Job),
      (change now row).state = row.state ∨ (change now row).state = .running
  | _ => True

/-- The change leaves the job's row finished. -/
def Write.finishes : Write → Prop
  | .setJob _ change => ∀ (now : Time) (row : Job), (change now row).unfinished = false
  | _ => True

/-- An operation of the job's work: it ends nothing and deletes only mirrors the job lists. -/
def Op.ofWork (job : Job) : Op → Prop
  | .commit _ writes => ∀ change ∈ writes, change.staysUnfinished
  | .aptly (.deleteMirror name) => job.type = .remove ∧ name ∈ job.params.mirrors.getD []
  | _ => True

/-- An operation that ends the job. -/
def Op.ofEnd : Op → Prop
  | .commit _ writes => ∀ change ∈ writes, change.finishes
  | op => op.asksAptly = false

theorem Op.ofWork_of_bookkeeping {job : Job} {op : Op} (bookkeeping : op.bookkeeping) :
    op.ofWork job := by
  cases op with
  | aptly request =>
      cases request with
      | deleteMirror name => cases bookkeeping
      | _ => trivial
  | commit session writes =>
      cases session with
      | request => exact bookkeeping.elim
      | job =>
          intro change listed
          have steps := bookkeeping change listed
          cases change <;> first | exact steps.elim | trivial
  | _ => trivial

namespace JobRunner

variable (self : JobRunner) (jobId : Nat)

theorem execute_works (job : Job) (loaded : Option MirrorSet) :
    (self.execute jobId job loaded).Uses (Op.ofWork job) := by
  unfold execute
  split
  · refine (self.discard_uses jobId job.params).mono fun op used => ?_
    cases used with
    | bookkeeping reads => exact Op.ofWork_of_bookkeeping reads
    | deleteSnapshot _ => trivial
    | dbCleanup => trivial
    | deleteSet => simp [Op.ofWork, Write.staysUnfinished]
  · rename_i type
    refine (self.remove_uses jobId job.params _).mono fun op used => ?_
    cases used with
    | bookkeeping reads => exact Op.ofWork_of_bookkeeping reads
    | deleteMirror listed => exact ⟨type, listed⟩
    | dbCleanup => trivial
    | forget =>
        intro change membership
        simp only [List.cons_append, List.mem_cons, List.mem_append, List.mem_map,
          List.not_mem_nil, or_false] at membership
        rcases membership with rfl | ⟨row, -, rfl⟩ | rfl
        · exact fun _ _ => .inl rfl
        · trivial
        · trivial
  · trivial
  · refine (create_uses jobId _).mono fun op used => ?_
    cases used with
    | bookkeeping reads => exact Op.ofWork_of_bookkeeping reads
    | createMirror _ _ => trivial
  · refine (self.update_uses jobId _).mono fun op used => ?_
    cases used with
    | bookkeeping reads => exact Op.ofWork_of_bookkeeping reads
    | updateMirror _ _ => trivial
    | createSnapshot _ _ => trivial
    | addSet => simp [Op.ofWork, Write.staysUnfinished]
    | recordSnapshot => simp [Op.ofWork, Write.staysUnfinished, endStep]
    | complete => simp [Op.ofWork, Write.staysUnfinished]
  · unfold switch
    split
    · trivial
    · refine Uses.bind (uses_op trivial) fun found => ?_
      split
      · trivial
      · split
        · trivial
        · split
          · trivial
          · refine (self.publishSuites_uses jobId _ _).mono fun op used => ?_
            cases used with
            | bookkeeping reads => exact Op.ofWork_of_bookkeeping reads
            | switchPublished _ _ => trivial
            | publishSnapshots _ _ => trivial
  · trivial

theorem settle_ends (job : Job) (mirrorSet : Option MirrorSet) {state : JobState}
    (error : Option String) (ended : state ≠ .queued ∧ state ≠ .running) :
    (settle jobId job mirrorSet state error).Uses Op.ofEnd := by
  refine Uses.bind (uses_op ?_) fun _ => trivial
  simp [Op.ofEnd, Write.finishes, Job.unfinished, ended]

theorem failRunningSteps_ends (error : String) :
    (failRunningSteps jobId error).Uses Op.ofEnd := by
  refine Uses.bind (uses_op rfl) fun running => Uses.bind (uses_op ?_) fun _ => trivial
  simp [Op.ofEnd, Write.finishes, Job.unfinished]

end JobRunner

/-! ## The contract of a run -/

namespace Removal

/-- The row of the job that runs. -/
def Live (jobId : Nat) (job : Job) (db : Database) : Prop :=
  ∃ row, db.jobs.get? jobId = some row ∧ row.type = job.type ∧ row.params = job.params ∧
    row.unfinished = true

structure Held (jobId : Nat) (job : Job) (db : Database) : Prop where
  spares : db.sparesOthers = true
  live : Live jobId job db

def contract : Contract semantics where
  allowed _ _ _ := True
  rely before after := before.Others after ∧
    (before.db.sparesOthers = true → after.db.sparesOthers = true)
  guarantee before after :=
    (before.db.sparesOthers = true → after.db.sparesOthers = true) ∧
      ∀ entry name, after.log = entry :: before.log → entry.request = .deleteMirror name →
        ∃ jobId job, before.MayDelete name jobId job
  rely_refl world := ⟨.refl world, id⟩
  rely_trans before after := ⟨before.1.trans after.1, after.2 ∘ before.2⟩

variable {jobId : Nat} {job : Job} {db : Database} {world after : World}

theorem Live.kept (live : Live jobId job db) {later : Database} (kept : db.Kept later) :
    Live jobId job later := by
  obtain ⟨row, found, same⟩ := live
  exact ⟨row, kept.jobs jobId row found, same⟩

/-- Where the rows come from that are there after a change a job makes. -/
theorem row_of_write {now : Time} {change : Write} (own : change.ofJob jobId) {later : Database}
    {inserted keys : Inserted} (wrote : db.write now inserted change = .ok (later, keys)) {id : Nat}
    {row : Job} (found : later.jobs.get? id = some row) :
    ∃ old, db.jobs.get? id = some old ∧ row.type = old.type ∧ row.params = old.params ∧
      (row = old ∨ id = jobId ∧ (change.finishes → row.unfinished = false)) := by
  rw [(Database.write_tables wrote).1] at found
  cases change with
  | addJob job => exact own.elim
  | setJob changed edit =>
      obtain ⟨rfl, advances⟩ := own
      simp only [Write.onJobs, Table.get?_update] at found
      split at found
      · rename_i same
        obtain ⟨old, known, rfl⟩ := Option.map_eq_some_iff.mp found
        have advanced := advances now old
        exact ⟨old, same ▸ known, advanced.1, advanced.2.1, .inr ⟨same, fun ends => ends now old⟩⟩
      · exact ⟨row, found, rfl, rfl, .inl rfl⟩
  | _ => exact ⟨row, found, rfl, rfl, .inl rfl⟩

/-- A change that a job makes gives no removal more to answer for. -/
theorem sparesOthers_of_write {now : Time} {change : Write} (own : change.ofJob jobId)
    {later : Database} {inserted keys : Inserted}
    (wrote : db.write now inserted change = .ok (later, keys))
    (active : change.finishes ∨ ∀ row, db.jobs.get? jobId = some row → row.unfinished = true)
    (spares : db.sparesOthers = true) : later.sparesOthers = true := by
  have fewer : ∀ mirrorSet ∈ later.mirrorSets.rows, mirrorSet ∈ db.mirrorSets.rows := by
    intro mirrorSet stored
    rw [(Database.write_tables wrote).2.2.1] at stored
    cases change with
    | addMirrorSet row => exact own.elim
    | deleteMirrorSet id => exact List.mem_of_mem_filter stored
    | _ => exact stored
  rw [Database.sparesOthers_iff] at spares ⊢
  intro id row found type unfinished
  obtain ⟨old, known, sameType, params, origin⟩ := row_of_write own wrote found
  have before : old.unfinished = true := by
    rcases origin with rfl | ⟨rfl, ends⟩
    · exact unfinished
    · rcases active with finishes | active
      · rw [ends finishes] at unfinished
        cases unfinished
      · exact active old known
  exact Job.sparesIn_of_fewer (spares id old known (sameType ▸ type) before) params fewer

theorem Held.of_write {now : Time} {change : Write} (own : change.ofJob jobId)
    (stays : change.staysUnfinished) {later : Database} {inserted keys : Inserted}
    (wrote : db.write now inserted change = .ok (later, keys)) (held : Held jobId job db) :
    Held jobId job later := by
  obtain ⟨row, found, type, params, unfinished⟩ := held.live
  refine ⟨sparesOthers_of_write own wrote (.inr fun other known => ?_) held.spares, ?_⟩
  · obtain rfl := Option.some.inj (found.symm.trans known)
    exact unfinished
  · have jobs := (Database.write_tables wrote).1
    cases change with
    | addJob job => exact own.elim
    | setJob changed edit =>
        obtain ⟨rfl, advances⟩ := own
        have advanced := advances now row
        refine ⟨Keyed.withId changed (edit now row), by simp [jobs, Write.onJobs, found],
          advanced.1.trans type, advanced.2.1.trans params, ?_⟩
        change (edit now row).unfinished = true
        rcases stays now row with same | running
        · rw [Job.unfinished, same]
          exact unfinished
        · simp [Job.unfinished, running]
    | _ => exact ⟨row, jobs ▸ found, type, params, unfinished⟩

/-! ### The worker -/

/-- The job runs and has not ended. -/
structure Working (jobId : Nat) (job : Job) (world : World) : Prop where
  held : Held jobId job world.db
  current : world.currentJob = some jobId

theorem guarantee_of_same (db : after.db = world.db) (log : after.log = world.log) :
    contract.guarantee world after := by
  refine ⟨fun spares => ?_, fun entry name sent => ?_⟩
  · rw [db]
    exact spares
  · rw [log] at sent
    exact absurd sent.symm (List.cons_ne_self _ _)

theorem Working.passed (working : Working jobId job world) (passed : contract.rely world after) :
    Working jobId job after :=
  ⟨⟨passed.2 working.held.spares, working.held.live.kept passed.1.db⟩,
    passed.1.currentJob.trans working.current⟩

theorem Working.of_perform {op : Op} {event : Event} {outcome : Except Exn op.Ret}
    (own : op.ofJob jobId) (works : op.ofWork job)
    (performed : op.perform event world = some (outcome, after))
    (working : Working jobId job world) :
    contract.guarantee world after ∧ Working jobId job after := by
  have held : Held jobId job after.db := by
    refine Op.keeps_db ?_ performed working.held
    rintro session writes rfl change listed db inserted later keys wrote held
    cases session with
    | request => exact own.elim
    | job => exact held.of_write (own change listed) (works change listed) wrote
  refine ⟨⟨fun _ => held.spares, fun entry name sent asked => ?_⟩,
    held, Op.current_of_perform own performed working.current⟩
  cases op with
  | aptly request =>
      obtain ⟨row, found, type, params, unfinished⟩ := working.held.live
      have own : request = .deleteMirror name := by
        obtain ⟨newest, grown, -, rfl⟩ := Op.log_of_aptly performed
        rw [grown] at sent
        obtain ⟨rfl, -⟩ := List.cons.inj sent
        exact asked
      subst own
      obtain ⟨removes, listed⟩ := works
      have spares := Database.sparesOthers_iff.mp working.held.spares jobId row found
        (type.trans removes) unfinished
      exact ⟨jobId, row, working.current, found, type.trans removes,
        Job.sparesIn_iff.mp spares name (params ▸ listed)⟩
  | _ =>
      rw [(Op.perform_frame performed).log rfl] at sent
      exact absurd sent.symm (List.cons_ne_self _ _)

/-- Work is safe operation by operation. -/
theorem safe_work {α : Type} {program : Program α} (own : program.Uses (Op.ofJob jobId))
    (works : program.Uses (Op.ofWork job)) (working : Working jobId job world) :
    Safe contract (fun _ => Working jobId job) (fun _ => Working jobId job) program world := by
  refine Safe.of_uses (Working jobId job) (own.and works) working ?_ ?_
  · exact fun before later working passed => working.passed passed
  · rintro op before outcome after ⟨own, works⟩ working ⟨event, -, performed⟩
    exact working.of_perform own works performed

/-- So is what ends a job. -/
theorem safe_end {α : Type} {program : Program α} (own : program.Uses (Op.ofJob jobId))
    (ends : program.Uses Op.ofEnd) (spares : world.db.sparesOthers = true) :
    Safe contract (fun _ _ => True) (fun _ _ => True) program world := by
  refine (Safe.of_uses (fun world => world.db.sparesOthers = true) (own.and ends) spares ?_ ?_).mono
    (fun _ _ _ => trivial) fun _ _ _ => trivial
  · exact fun before later spares passed => passed.2 spares
  · rintro op before outcome after ⟨own, ends⟩ spares ⟨event, -, performed⟩
    have kept : after.db.sparesOthers = true := by
      refine @Op.keeps_db (fun db => db.sparesOthers = true) op event before after outcome ?_
        performed spares
      rintro session writes rfl change listed db inserted later keys wrote spares
      cases session with
      | request => exact own.elim
      | job => exact sparesOthers_of_write (own change listed) wrote (.inl (ends change listed)) spares
    have silent : op.asksAptly = false := by
      cases op with
      | commit session writes => rfl
      | _ => exact ends
    refine ⟨⟨fun _ => kept, fun entry name sent => ?_⟩, kept⟩
    rw [(Op.perform_frame performed).log silent] at sent
    exact absurd sent.symm (List.cons_ne_self _ _)

theorem runLoaded_safe {self : JobRunner} {loaded : Option MirrorSet}
    (working : Working jobId job world) :
    Safe contract (fun _ _ => True) (fun _ _ => True) (self.runLoaded jobId job loaded) world := by
  unfold JobRunner.runLoaded
  split
  · trivial
  · have begins : (commit .job [.setJob jobId fun now row =>
        { row with
          state := .running
          startedAt := some now
          expectedSteps := some (JobRunner.announcedSteps job loaded) }]).Uses (Op.ofWork job) :=
      uses_op (by simp [Op.ofWork, Write.staysUnfinished])
    refine Coroutine.safe_bind.mpr ((safe_work (uses_op ?_) begins working).mono
      (fun _ _ started => ?_) fun _ _ _ => trivial)
    · simp [Op.ofJob, Write.ofJob, Job.Advances]
    · refine safe_supervise (Working jobId job) (fun _ => Working jobId job)
        (safe_work (self.execute_uses jobId job loaded) (self.execute_works jobId job loaded) started)
        ?_ ?_ ?_
      · intro after done
        exact safe_end ((JobRunner.settle_uses jobId job loaded _ (by decide)).mono
          fun _ => Op.ofJob_of_closes) (JobRunner.settle_ends jobId job loaded _ (by decide))
          done.held.spares
      · intro error after _ gaveUp
        refine safe_end
          (Uses.bind ((JobRunner.failRunningSteps_uses jobId _).mono
            fun _ => Op.ofJob_of_closes).attempt fun recorded => ?_)
          (Uses.bind (JobRunner.failRunningSteps_ends jobId _).attempt fun recorded => ?_)
          gaveUp.held.spares
        · exact Uses.bind ((JobRunner.settle_uses jobId job loaded _ (by decide)).mono
            fun _ => Op.ofJob_of_closes) fun _ => Coroutine.uses_ofExcept _
        · exact Uses.bind (JobRunner.settle_ends jobId job loaded _ (by decide))
            fun _ => Coroutine.uses_ofExcept _
      · intro error after _ gaveUp
        have stopping : (JobRunner.settle jobId job loaded .running job.error).Uses
            (Op.ofWork job) :=
          Uses.bind (uses_op (by simp [Op.ofWork, Write.staysUnfinished])) fun _ => trivial
        refine Coroutine.safe_bind.mpr ((safe_work ?_ stopping gaveUp).mono
          (fun _ _ _ => trivial) fun _ _ _ => trivial)
        exact (JobRunner.settle_uses jobId job loaded _ (by decide)).mono
          fun _ => Op.ofJob_of_closes

theorem runJob_safe {self : JobRunner} (spares : world.db.sparesOthers = true)
    (unstarted : System.Unstarted world.db jobId) :
    Safe contract (fun _ _ => True) (fun _ _ => True) (self.runJob jobId) world := by
  obtain ⟨job, found, queued⟩ := unstarted
  have beginning : Safe contract (fun (_ : Unit) => Working jobId job) (fun _ _ => True)
      (beginJob jobId) world := by
    apply safe_beginJob
    have working : Working jobId job
        { world with currentJob := some jobId, nextPosition := 0, sessionBroken := false } :=
      ⟨⟨spares, job, found, rfl, rfl, by simp [Job.unfinished, queued]⟩, rfl⟩
    exact .ok (guarantee_of_same rfl rfl) fun later passed => working.passed passed
  refine Safe.bind beginning ?_
  intro _ ready working
  have loading : Safe contract
      (fun (found : Option Job) after => ∃ row, found = some row ∧ Working jobId row after)
      (fun _ _ => True) (getJob jobId) ready := by
    refine safe_query (.getJob .job jobId) (fun world => world.db.jobs.get? jobId)
      (fun _ => rfl) ?_ ?_ ?_
    · intro _ _
      obtain ⟨row, found, -, -, unfinished⟩ := working.held.live
      have own : Working jobId row ready :=
        ⟨⟨working.held.spares, row, found, rfl, rfl, unfinished⟩, working.current⟩
      exact .ok (guarantee_of_same rfl rfl) fun later passed => ⟨row, found, own.passed passed⟩
    · exact fun _ _ => .error (guarantee_of_same rfl rfl) fun _ _ => trivial
    · exact fun _ _ _ => .error (guarantee_of_same rfl rfl) fun _ _ => trivial
  refine Safe.bind loading ?_
  rintro _ after ⟨row, rfl, working⟩
  dsimp only
  split
  · exact runLoaded_safe working
  · rename_i mirrorSetId named
    have reading : Safe contract (fun _ => Working jobId row) (fun _ => Working jobId row)
        (getMirrorSet .job mirrorSetId) after :=
      safe_work (uses_op trivial) (uses_op trivial) working
    refine Safe.bind (reading.mono (fun _ _ kept => kept) fun _ _ _ => trivial) ?_
    exact fun mirrorSet later working => runLoaded_safe working

/-! ### The service -/

theorem spares_of_external {self : JobRunner} {before after : System} {label : Label}
    (uses : ∀ request ∈ before.requests, request.Uses Op.forRequest)
    (permitted : before.checked World.sparesOthers label = true) (external : label.external)
    (stepped : before.step self label = some after)
    (spares : before.world.db.sparesOthers = true) : after.world.db.sparesOthers = true := by
  rcases System.db_of_external external stepped with
    same | ⟨index, event, op, resume, outcome, rfl, found, performed⟩
  · rw [same]
    exact spares
  · have harmless := (uses _ (List.mem_of_getElem? found)).1
    rw [System.checked_serve found] at permitted
    rcases op.request_cases harmless performed with
      same | ⟨id, rfl, same⟩ | ⟨writes, db, inserted, rfl, committed, same⟩
    · rw [same]
      exact spares
    · rw [same]
      exact spares
    · rw [same]
      simpa [World.sparesOthers, World.stored, committed] using permitted

/-- After a restart no removal is unfinished. -/
theorem spares_of_recovered (world : World) : world.recovered.db.sparesOthers = true := by
  refine Database.sparesOthers_iff.mpr fun id row found _ unfinished => ?_
  rw [World.recovered_jobs] at found
  obtain ⟨old, -, rfl⟩ := Option.map_eq_some_iff.mp found
  by_cases active : old.state = .running ∨ old.state = .queued
  · simp [active, Job.unfinished, Keyed.withId] at unfinished
  · rw [if_neg active] at unfinished
    rw [not_or] at active
    simp [Job.unfinished, Keyed.withId, active] at unfinished

def outline {self : JobRunner} {start : System} (fresh : start.Fresh)
    (spares : start.world.db.sparesOthers = true) :
    Outline self (fun system label => system.checked World.sparesOthers label) start where
  contract := contract
  always world := world.db.sparesOthers = true
  rest _ _ := True
  requests := fresh.requests_use
  entry := spares
  begins := .fresh fresh trivial
  relies spares passed := passed.2 spares
  guarantees spares kept := kept.1 spares
  unmoved spares db _ _ _ := by
    rw [db]
    exact spares
  recovers _ := spares_of_recovered _
  stays _ _ := trivial
  others reached permitted external stepped :=
    ⟨System.others_of_external (reached.requests_use fresh.requests_use) external stepped,
      spares_of_external (reached.requests_use fresh.requests_use) permitted external stepped⟩
  allows _ _ _ := trivial
  takes := by
    intro system jobId waiting reached _ idle queue spares _ later passed
    have unstarted := (reached.queued fresh).unstarted jobId (by simp [System.waiting, queue])
    exact runJob_safe (passed.2 spares) (unstarted.kept passed.1.db)
  crashes _ _ _ _ := trivial
  starts _ _ := trivial

end Removal

/-- A removal asks aptly to delete only mirrors that no other stored set expects, in every run in
which no request stores a job or a set that makes an unfinished removal list another set's
mirror. -/
theorem removal_spares_other_sets {self : JobRunner} {start system : System} {name : String}
    (fresh : start.Fresh) (spares : start.world.db.sparesOthers = true)
    (reached : System.Reachable self
      (fun system label => system.checked World.sparesOthers label) start system)
    (sends : system.worker.awaits = some (.aptly (.deleteMirror name))) :
    ∃ jobId job, system.world.MayDelete name jobId job := by
  have held := ((Removal.outline fresh spares).holds reached).worker
  obtain ⟨program, running, asks⟩ : ∃ program, system.worker = .running program ∧
      program.awaits = some (.aptly (.deleteMirror name)) := by
    cases worker : system.worker with
    | running program =>
        refine ⟨program, rfl, ?_⟩
        rw [worker] at sends
        cases program <;> exact sends
    | _ =>
        rw [worker] at sends
        cases sends
  rw [HoldsAt, running] at held
  cases program with
  | await op resume =>
      obtain rfl := Option.some.inj asks
      have kept := held.now _ _ ⟨.reply .nothing system.world.aptly, trivial, rfl⟩
      exact kept.1.2 _ name rfl rfl
  | _ => cases asks

namespace Removal

/-- A set is adopted, the first set is deleted with its mirrors, and the job gets as far as its
first deletion. -/
def deleted (adopted : SetForm) : List Label :=
  [.start, .arrive (.web (.adoptSubmit adopted)), .serve 0 .proceed,
    .arrive (.web (.setDelete "operator" 1 "delete")), .serve 1 .proceed,
    .serve 1 (.cached ⟨Sample.mirrored.mirrors, [], []⟩), .serve 1 .proceed, .serve 1 .proceed,
    .take] ++ List.replicate 6 (.work .proceed)

/-- The mirror that the job is about to delete. -/
def deleting (worker : Worker) : Option String :=
  worker.awaits.bind fun op =>
    match op with
    | .aptly (.deleteMirror name) => some name
    | _ => none

theorem awaits_of_deleting {worker : Worker} {name : String}
    (deletes : deleting worker = some name) :
    worker.awaits = some (.aptly (.deleteMirror name)) := by
  obtain ⟨op, awaits, asks⟩ := Option.bind_eq_some_iff.mp deletes
  split at asks
  · cases asks
    exact awaits
  · cases asks

end Removal

theorem not_removal_spares_other_sets : ¬ ∀ (self : JobRunner) (start system : System)
    (labels : List Label) (name : String), start.Fresh → start.world.db.sparesOthers = true →
    start.run self labels = some system →
    system.worker.awaits = some (.aptly (.deleteMirror name)) →
    ∃ jobId job, system.world.MayDelete name jobId job := by
  intro claimed
  have runs : (Sample.service.run Sample.runner
      (Removal.deleted (Sample.form "debian-copy" "stable"))).any (fun system =>
        decide (Removal.deleting system.worker = some "stable-main") &&
        decide (system.world.currentJob = some 1) &&
        (system.world.db.jobs.get? 1).any (fun job => decide (job.params.mirrorSetId = some 1)) &&
        system.world.db.mirrorSets.rows.any fun mirrorSet =>
          decide (mirrorSet.id = 2) && decide ("stable-main" ∈ mirrorSet.expectedMirrors)) =
      true := by
    decide
  obtain ⟨system, ran, runs⟩ := (Option.any_eq_true _ _).mp runs
  simp only [Bool.and_eq_true, Option.any_eq_true, List.any_eq_true, decide_eq_true_eq] at runs
  obtain ⟨⟨⟨asks, current⟩, job, stored, target⟩, mirrorSet, listed, other, expected⟩ := runs
  obtain ⟨jobId, found, may⟩ := claimed _ _ _ _ _ (System.blank_fresh _ _) rfl ran
    (Removal.awaits_of_deleting asks)
  obtain rfl := Option.some.inj (current.symm.trans may.current)
  obtain rfl := Option.some.inj (stored.symm.trans may.stored)
  have own := may.own mirrorSet listed expected
  rw [target, other] at own
  exact absurd own (by decide)

/-- The other set has another suite. -/
theorem removal_spares_other_sets_debian : ∃ system : System,
    system.worker.awaits = some (.aptly (.deleteMirror "stable-main")) ∧
      system.world.db.mirrorNames = ["stable-main", "testing-main"] ∧
      ∃ jobId job, system.world.MayDelete "stable-main" jobId job := by
  have runs : (Sample.service.runUnder Sample.runner
      (fun system label => system.checked World.sparesOthers label)
      (Removal.deleted (Sample.form "debian-testing" "testing"))).any (fun system =>
        decide (Removal.deleting system.worker = some "stable-main") &&
        decide (system.world.db.mirrorNames = ["stable-main", "testing-main"])) = true := by
    decide
  obtain ⟨system, ran, runs⟩ := (Option.any_eq_true _ _).mp runs
  simp only [Bool.and_eq_true, decide_eq_true_eq] at runs
  obtain ⟨asks, names⟩ := runs
  have sends := Removal.awaits_of_deleting asks
  exact ⟨system, sends, names,
    removal_spares_other_sets (System.blank_fresh _ _) rfl (.of_runUnder ran) sends⟩

end AptlyGui
