import AptlyGui.Services.Jobs.Queue
import AptlyGui.Services.Jobs.Sources
import AptlyGui.Rules

/-!
# A job acts on what the operator chose

A waiting job holds bare ids.  It acts on the rows these ids name when the
worker gets to it, and those are the rows they named while it waited unless a
row was put under such an id, or changed, in between.
-/

namespace AptlyGui

open Coroutine (Contract Safe Uses)

/-! ## What an id names -/

namespace Job

/-- The ids of the job name afterwards what they named before, or nothing.  A CREATE, UPDATE or
SWITCH job has a mirror set, and a SWITCH job publishes what its target records. -/
def NamesKept (job : Job) (before after : Database) : Prop :=
  (job.needsSet = true →
    job.mirrorSetIn after = none ∨ job.mirrorSetIn after = job.mirrorSetIn before) ∧
  (job.type = .switch → job.targetIn after = none ∨
    (job.targetIn after).map SnapshotSet.snapshots = (job.targetIn before).map SnapshotSet.snapshots)

instance (job : Job) (before after : Database) : Decidable (job.NamesKept before after) :=
  inferInstanceAs (Decidable (_ ∧ _))

variable {job : Job} {first second third : Database}

theorem NamesKept.refl (job : Job) (db : Database) : job.NamesKept db db :=
  ⟨fun _ => .inr rfl, fun _ => .inr rfl⟩

theorem NamesKept.trans (before : job.NamesKept first second) (after : job.NamesKept second third) :
    job.NamesKept first third := by
  constructor
  · intro needed
    rcases after.1 needed with gone | same
    · exact .inl gone
    · rw [same]
      exact before.1 needed
  · intro switches
    rcases after.2 switches with gone | same
    · exact .inl gone
    · rw [same]
      rcases before.2 switches with gone | same
      · left
        simpa [gone] using same
      · exact .inr same

end Job

/-! ## The condition -/

/-- The commit puts no row under an id that a queued job names, and changes none that is there. -/
def World.keepsChoices (world : World) (op : Op) : Bool :=
  (world.stored op).all fun after => world.db.jobs.rows.all fun job =>
    decide (job.state = .queued → job.NamesKept world.db after)

def System.keepsChoices (system : System) : Label → Bool
  | .serve index _ =>
      ((system.requests[index]?).bind Coroutine.awaits).all system.world.keepsChoices
  | .work _ => system.worker.awaits.all system.world.keepsChoices
  | _ => true

/-! ## Requests about a choice -/

/-- A job of this type acts on this mirror set with the request, and what it publishes is recorded
in the target. -/
inductive ActsOn (mirrorSet : MirrorSet) (target : Option SnapshotSet) : JobType → Request → Prop where
  | createMirror {suite component : String} : suite ∈ mirrorSet.suites →
      component ∈ mirrorSet.components →
      ActsOn mirrorSet target .create (.createMirror (specFor mirrorSet suite component))
  | updateMirror {suite component : String} : suite ∈ mirrorSet.suites →
      component ∈ mirrorSet.components →
      ActsOn mirrorSet target .update (.updateMirror (specFor mirrorSet suite component))
  | createSnapshot {suite component name description : String} : suite ∈ mirrorSet.suites →
      component ∈ mirrorSet.components →
      ActsOn mirrorSet target .update
        (.createSnapshotFromMirror (mirrorSet.mirrorName suite component) name description)
  | switchPublished {suite : String} {sources : Dict String String} {row : SnapshotSet} :
      suite ∈ mirrorSet.suites → target = some row →
      (∀ name ∈ sources.values, name ∈ row.snapshots.values) →
      ActsOn mirrorSet target .switch
        (.switchPublished mirrorSet.publishTarget suite sources ⟨mirrorSet.signingKey⟩)
  | publishSnapshots {suite : String} {sources : Dict String String} {row : SnapshotSet} :
      suite ∈ mirrorSet.suites → target = some row →
      (∀ name ∈ sources.values, name ∈ row.snapshots.values) →
      ActsOn mirrorSet target .switch (.publishSnapshots mirrorSet.publishTarget suite sources
        mirrorSet.architectures ⟨mirrorSet.signingKey⟩)

/-- A CREATE, UPDATE or SWITCH job may send this request if its ids name these rows. -/
def Job.MaySend (job : Job) (db : Database) (request : Request) : Prop :=
  job.needsSet = true → ∃ mirrorSet, job.mirrorSetIn db = some mirrorSet ∧
    ActsOn mirrorSet (job.targetIn db) job.type request

/-- Every request the job has sent that changes aptly is one it may send. -/
def SentAsChosen (jobId : Nat) (job : Job) (db : Database) (world : World) : Prop :=
  ∀ entry ∈ world.log, entry.job = some jobId → entry.request.writes = true →
    job.MaySend db entry.request

namespace Choice

/-- The job's row is as it was, and so is what its ids name. -/
structure Waits (jobId : Nat) (job : Job) (first : Database) (world : World) : Prop where
  row : world.db.jobs.get? jobId = some job
  queued : job.state = .queued
  names : job.NamesKept first world.db

structure Steady (jobId : Nat) (job : Job) (first : Database) (world : World) : Prop where
  sent : SentAsChosen jobId job first world
  stored : (world.db.jobs.get? jobId).isSome = true

structure Rests (jobId : Nat) (job : Job) (first : Database) (world : World) : Prop
    extends Steady jobId job first world where
  waits : jobId ∉ world.taken → ∀ row, world.db.jobs.get? jobId = some row → row.state = .queued →
    Waits jobId job first world

/-- No queued job loses what its ids name. -/
def Protects (before after : Database) : Prop :=
  ∀ id row, before.jobs.get? id = some row → row.state = .queued → row.NamesKept before after

def contract (jobId : Nat) (job : Job) (first : Database) : Contract semantics where
  allowed world op _ := world.keepsChoices op = true
  rely before after := before.Others after ∧ Protects before.db after.db
  guarantee before after := Steady jobId job first before → Steady jobId job first after
  rely_refl world := ⟨.refl world, fun _ row _ _ => .refl row world.db⟩
  rely_trans before after := by
    refine ⟨before.1.trans after.1, fun id row found queued => ?_⟩
    exact (before.2 id row found queued).trans
      (after.2 id row (before.1.db.jobs id row found) queued)

theorem protects_of_perform {op : Op} {event : Event} {world after : World}
    {outcome : Except Exn op.Ret} (permitted : world.keepsChoices op = true)
    (performed : op.perform event world = some (outcome, after)) : Protects world.db after.db := by
  intro id row found queued
  rcases Op.db_of_perform performed with same | stored
  · rw [same]
    exact .refl row _
  · simp only [World.keepsChoices, stored, Option.all_some, List.all_eq_true,
      decide_eq_true_eq] at permitted
    exact permitted row (Table.get?_eq_some_iff.mp found).1 queued

variable {jobId : Nat} {job : Job} {first : Database} {self : JobRunner} {world after : World}

theorem SentAsChosen.of_log (sent : SentAsChosen jobId job first world)
    (same : after.log = world.log) : SentAsChosen jobId job first after := by
  intro entry listed
  rw [same] at listed
  exact sent entry listed

/-- A request that another job sends, or that this job may send. -/
theorem sent_of_perform {op : Op} {event : Event} {outcome : Except Exn op.Ret}
    (performed : op.perform event world = some (outcome, after))
    (chosen : world.currentJob = some jobId → ∀ request, op = .aptly request →
      request.writes = true → job.MaySend first request)
    (sent : SentAsChosen jobId job first world) : SentAsChosen jobId job first after := by
  by_cases asks : op.asksAptly = true
  · cases op with
    | aptly request =>
        obtain ⟨newest, grown, sender, asked⟩ := Op.log_of_aptly performed
        intro entry listed own writes
        rw [grown] at listed
        rcases List.mem_cons.mp listed with rfl | old
        · rw [asked] at writes ⊢
          exact chosen (sender.symm.trans own) request rfl writes
        · exact sent entry old own writes
    | _ => cases asks
  · exact SentAsChosen.of_log sent ((Op.perform_frame performed).log (by simpa using asks))

/-! ### Other jobs -/

theorem Steady.passed (steady : Steady jobId job first world)
    (passed : (contract jobId job first).rely world after) : Steady jobId job first after := by
  obtain ⟨row, found⟩ := Option.isSome_iff_exists.mp steady.stored
  exact ⟨SentAsChosen.of_log steady.sent passed.1.log,
    Option.isSome_of_eq_some (passed.1.db.jobs jobId row found)⟩

theorem Rests.passed (rests : Rests jobId job first world)
    (passed : (contract jobId job first).rely world after) : Rests jobId job first after := by
  obtain ⟨row, found⟩ := Option.isSome_iff_exists.mp rests.stored
  have still := passed.1.db.jobs jobId row found
  refine ⟨rests.toSteady.passed passed, ?_⟩
  intro waiting other found' queued
  rw [still] at found'
  cases found'
  rw [passed.1.taken] at waiting
  have waits := rests.waits waiting row found queued
  have same : row = job := Option.some.inj (found.symm.trans waits.row)
  subst same
  exact ⟨still, waits.queued, waits.names.trans (passed.2 jobId row found queued)⟩

/-- A job other than this one leaves it alone. -/
theorem others_rest {other : Nat} {program : Program Unit} (uses : program.Uses (Op.ofJob other))
    (different : other ≠ jobId) (idle : world.currentJob ≠ some jobId)
    (rests : Rests jobId job first world) :
    Safe (contract jobId job first) (fun _ => Rests jobId job first)
      (fun _ => Rests jobId job first) program world := by
  refine (Safe.of_uses (fun after => Rests jobId job first after ∧ after.currentJob ≠ some jobId)
    uses ⟨rests, idle⟩ ?_ ?_).mono (fun _ _ kept => kept.1) fun _ _ kept => kept.1
  · rintro before after ⟨rests, idle⟩ passed
    exact ⟨rests.passed passed, by rw [passed.1.currentJob]; exact idle⟩
  · rintro op before outcome after own ⟨rests, idle⟩ ⟨event, permitted, performed⟩
    obtain ⟨rows, -, -⟩ := Op.jobFrame own performed
    have same := rows.others jobId different.symm
    have steady : Steady jobId job first before → Steady jobId job first after := by
      intro steady
      refine ⟨sent_of_perform performed (fun running => absurd running idle) steady.sent, ?_⟩
      rw [same]
      exact steady.stored
    refine ⟨steady, ⟨steady rests.toSteady, fun waiting row found queued => ?_⟩,
      Op.idle_of_perform own different performed idle⟩
    rw [same] at found
    rw [(Op.perform_frame performed).taken] at waiting
    have waits := rests.waits waiting row found queued
    have kept := protects_of_perform permitted performed jobId job waits.row waits.queued
    exact ⟨same.trans waits.row, waits.queued, waits.names.trans kept⟩

/-! ### The job itself -/

/-- The job runs. -/
structure Acts (jobId : Nat) (job : Job) (first : Database) (world : World) : Prop
    extends Steady jobId job first world where
  current : world.currentJob = some jobId
  taken : jobId ∈ world.taken

/-- What the target of a switch records is recorded in what the id named. -/
def TargetKept (job : Job) (first db : Database) : Prop :=
  job.type = .switch → ∀ row, job.targetIn db = some row → ∃ old, job.targetIn first = some old ∧
    row.snapshots = old.snapshots

theorem Acts.rests (acts : Acts jobId job first world) : Rests jobId job first world :=
  ⟨acts.toSteady, fun waiting => absurd acts.taken waiting⟩

theorem Acts.passed (acts : Acts jobId job first world)
    (passed : (contract jobId job first).rely world after) : Acts jobId job first after := by
  refine ⟨acts.toSteady.passed passed, passed.1.currentJob.trans acts.current, ?_⟩
  rw [passed.1.taken]
  exact acts.taken

theorem Waits.passed (waits : Waits jobId job first world)
    (passed : (contract jobId job first).rely world after) : Waits jobId job first after :=
  ⟨passed.1.db.jobs jobId job waits.row, waits.queued,
    waits.names.trans (passed.2 jobId job waits.row waits.queued)⟩

theorem Waits.target (waits : Waits jobId job first world) : TargetKept job first world.db := by
  intro switches row found
  rcases waits.names.2 switches with gone | same
  · rw [found] at gone
    cases gone
  · rw [found] at same
    obtain ⟨old, known, recorded⟩ := Option.map_eq_some_iff.mp same.symm
    exact ⟨old, known, recorded.symm⟩

/-- A running switch loses its target to a request, and never gets another one. -/
theorem TargetKept.kept {db later : Database} (target : TargetKept job first db)
    (kept : db.Kept later) : TargetKept job first later := by
  intro switches row found
  obtain ⟨id, named, found⟩ := Option.bind_eq_some_iff.mp found
  exact target switches row (Option.bind_eq_some_iff.mpr ⟨id, named, kept.snapshotSets id row found⟩)

/-- Such an operation changes the rows of its own job at most, and asks aptly only for what the
job may send. -/
def Harmless (jobId : Nat) (job : Job) (first : Database) (op : Op) : Prop :=
  op.ofJob jobId ∧ ∀ request, op = .aptly request → request.writes = true →
    job.MaySend first request

theorem Harmless.of_bookkeeping {op : Op} (bookkeeping : op.bookkeeping) :
    Harmless jobId job first op := by
  refine ⟨Op.ofJob_of_bookkeeping bookkeeping, ?_⟩
  rintro request rfl writes
  have reads : request.writes = false := bookkeeping
  rw [reads] at writes
  cases writes

theorem Harmless.of_closes {op : Op} (closes : op.closes jobId) : Harmless jobId job first op := by
  refine ⟨Op.ofJob_of_closes closes, ?_⟩
  rintro request rfl
  exact closes.elim

theorem steady_of_perform {op : Op} {event : Event} {outcome : Except Exn op.Ret}
    (harmless : Harmless jobId job first op)
    (performed : op.perform event world = some (outcome, after))
    (steady : Steady jobId job first world) : Steady jobId job first after := by
  obtain ⟨rows, -, -⟩ := Op.jobFrame harmless.1 performed
  exact ⟨sent_of_perform performed (fun _ => harmless.2) steady.sent, rows.isSome steady.stored⟩

theorem acts_of_perform {op : Op} {event : Event} {outcome : Except Exn op.Ret}
    (harmless : Harmless jobId job first op)
    (performed : op.perform event world = some (outcome, after))
    (acts : Acts jobId job first world) : Acts jobId job first after := by
  refine ⟨steady_of_perform harmless performed acts.toSteady,
    Op.current_of_perform harmless.1 performed acts.current, ?_⟩
  rw [(Op.perform_frame performed).taken]
  exact acts.taken

theorem acts_of_uses {α : Type} {program : Program α}
    (uses : program.Uses (Harmless jobId job first)) (acts : Acts jobId job first world) :
    Safe (contract jobId job first) (fun _ => Acts jobId job first)
      (fun _ => Acts jobId job first) program world := by
  refine Safe.of_uses (Acts jobId job first) uses acts (fun _ _ acts passed => acts.passed passed) ?_
  rintro op before outcome after harmless acts ⟨event, -, performed⟩
  exact ⟨steady_of_perform harmless performed, acts_of_perform harmless performed acts⟩

/-- A commit that leaves the sets alone keeps the target too. -/
theorem acts_of_commit {writes : List Write}
    (own : ∀ change ∈ writes, change.ofJob jobId ∧ change.sparesSets)
    (acts : Acts jobId job first world) (target : TargetKept job first world.db) :
    Safe (contract jobId job first)
      (fun _ after => Acts jobId job first after ∧ TargetKept job first after.db)
      (fun _ => Acts jobId job first) (commit .job writes) world := by
  have harmless : Harmless jobId job first (.commit .job writes) :=
    ⟨fun change listed => (own change listed).1, fun _ same => by cases same⟩
  refine safe_op fun event outcome after _ performed => ?_
  have done := acts_of_perform harmless performed acts
  have spares : (Op.commit .job writes).sparesSets := fun change listed => (own change listed).2
  have same := Op.sameSets spares performed
  refine ⟨steady_of_perform harmless performed, fun later passed => ?_⟩
  cases outcome with
  | error error => exact done.passed passed
  | ok inserted =>
      refine ⟨done.passed passed, TargetKept.kept ?_ passed.1.db⟩
      intro switches row found
      rw [Job.targetIn, same.snapshotSets] at found
      exact target switches row found

/-- A read in the job's session. -/
theorem acts_query (op : Op) (value : World → op.Ret) (returned : op.Ret → World → Prop)
    (reads : ∀ event world, op.perform event world = world.query .job (value world) event)
    (acts : Acts jobId job first world)
    (found : ∀ later, (contract jobId job first).rely world later → Acts jobId job first later →
      returned (value world) later) :
    Safe (contract jobId job first) returned (fun _ => Acts jobId job first) (perform op) world := by
  refine safe_query op value (fun event => reads event world) ?_ ?_ ?_
  · exact fun _ _ => .ok id fun later passed => found later passed (acts.passed passed)
  · exact fun _ _ => .error id fun later passed => acts.passed passed
  · intro applied reached _
    have broke : Acts jobId job first { world with sessionBroken := true } :=
      ⟨⟨acts.sent, acts.stored⟩, acts.current, acts.taken⟩
    exact .error (fun steady => ⟨steady.sent, steady.stored⟩) fun later passed => broke.passed passed

theorem create_harmless {mirrorSet : MirrorSet} (type : job.type = .create)
    (named : job.mirrorSetIn first = some mirrorSet) {op : Op}
    (used : JobRunner.OfCreate mirrorSet op) : Harmless jobId job first op := by
  cases used with
  | bookkeeping reads => exact .of_bookkeeping reads
  | createMirror suite component =>
      refine ⟨trivial, fun request same _ _ => ?_⟩
      cases same
      exact ⟨mirrorSet, named, type ▸ .createMirror suite component⟩

theorem update_harmless {mirrorSet : MirrorSet} (named : job.mirrorSetIn first = some mirrorSet)
    (type : job.type = .update) {op : Op} (used : JobRunner.OfUpdate jobId mirrorSet op) : Harmless jobId job first op := by
  cases used with
  | bookkeeping reads => exact .of_bookkeeping reads
  | updateMirror suite component =>
      refine ⟨trivial, fun request same _ _ => ?_⟩
      cases same
      exact ⟨mirrorSet, named, type ▸ .updateMirror suite component⟩
  | createSnapshot suite component =>
      refine ⟨trivial, fun request same _ _ => ?_⟩
      cases same
      exact ⟨mirrorSet, named, type ▸ .createSnapshot suite component⟩
  | addSet => exact ⟨by simp [Op.ofJob, Write.ofJob], fun _ same => by cases same⟩
  | recordSnapshot => exact ⟨by simp [Op.ofJob, Write.ofJob, endStep], fun _ same => by cases same⟩
  | complete => exact ⟨by simp [Op.ofJob, Write.ofJob], fun _ same => by cases same⟩

/-- What a switch publishes is recorded in the target it has loaded. -/
theorem switch_harmless {mirrorSet : MirrorSet} {target old : SnapshotSet}
    (named : job.mirrorSetIn first = some mirrorSet) (chosen : job.targetIn first = some old)
    (recorded : target.snapshots = old.snapshots) (type : job.type = .switch) {op : Op}
    (used : JobRunner.OfSwitch mirrorSet target op) : Harmless jobId job first op := by
  cases used with
  | bookkeeping reads => exact .of_bookkeeping reads
  | switchPublished suite sources =>
      refine ⟨trivial, fun request same _ _ => ?_⟩
      cases same
      refine ⟨mirrorSet, named, type ▸ .switchPublished suite chosen fun name listed => ?_⟩
      rw [← recorded]
      exact JobRunner.sourcesFor_values sources listed
  | publishSnapshots suite sources =>
      refine ⟨trivial, fun request same _ _ => ?_⟩
      cases same
      refine ⟨mirrorSet, named, type ▸ .publishSnapshots suite chosen fun name listed => ?_⟩
      rw [← recorded]
      exact JobRunner.sourcesFor_values sources listed

theorem switch_acts {mirrorSet : MirrorSet} (switches : job.type = .switch)
    (named : job.mirrorSetIn first = some mirrorSet) (acts : Acts jobId job first world)
    (target : TargetKept job first world.db) :
    Safe (contract jobId job first) (fun _ => Acts jobId job first)
      (fun _ => Acts jobId job first) (self.switch jobId job.params mirrorSet) world := by
  unfold JobRunner.switch
  split
  · exact acts
  · rename_i targetId chosen
    refine Safe.bind (acts_query (.getSnapshotSet .job targetId)
      (fun world => world.db.snapshotSets.get? targetId)
      (fun found after => found = world.db.snapshotSets.get? targetId ∧ Acts jobId job first after)
      (fun _ _ => rfl) acts fun later passed acts => ⟨rfl, acts⟩) ?_
    rintro found after ⟨rfl, acts⟩
    dsimp only
    split
    · exact acts
    · rename_i row loaded
      have known : job.targetIn world.db = some row := by
        rw [Job.targetIn, chosen]
        exact loaded
      obtain ⟨old, originally, recorded⟩ := target switches row known
      split
      · exact acts
      · split
        · exact acts
        · refine acts_of_uses ((self.publishSuites_uses jobId mirrorSet row).mono fun op used => ?_) acts
          exact switch_harmless named originally recorded switches used

theorem execute_acts {loaded : Option MirrorSet}
    (named : job.needsSet = true → ∀ mirrorSet, loaded = some mirrorSet →
      job.mirrorSetIn first = some mirrorSet)
    (acts : Acts jobId job first world) (target : TargetKept job first world.db) :
    Safe (contract jobId job first) (fun _ => Acts jobId job first)
      (fun _ => Acts jobId job first) (self.execute jobId job loaded) world := by
  by_cases needed : job.needsSet = true
  · unfold JobRunner.execute
    split
    · rename_i type
      simp [Job.needsSet, type] at needed
    · rename_i type
      simp [Job.needsSet, type] at needed
    · exact acts
    · exact acts_of_uses ((JobRunner.create_uses jobId _).mono
        fun op => create_harmless (by assumption) (named needed _ rfl)) acts
    · exact acts_of_uses ((self.update_uses jobId _).mono
        fun op => update_harmless (named needed _ rfl) (by assumption)) acts
    · exact switch_acts (by assumption) (named needed _ rfl) acts target
    · exact acts
  · refine acts_of_uses ((self.execute_uses jobId job loaded).mono fun op own => ⟨own, ?_⟩) acts
    exact fun _ _ _ needs => absurd needs needed

theorem runLoaded_acts {loaded : Option MirrorSet}
    (named : job.needsSet = true → ∀ mirrorSet, loaded = some mirrorSet →
      job.mirrorSetIn first = some mirrorSet)
    (acts : Acts jobId job first world) (target : TargetKept job first world.db) :
    Safe (contract jobId job first) (fun _ => Acts jobId job first)
      (fun _ => Acts jobId job first) (self.runLoaded jobId job loaded) world := by
  have closing : ∀ {α : Type} {program : Program α} {world : World}, program.Uses (Op.closes jobId) →
      Acts jobId job first world → Safe (contract jobId job first) (fun _ => Acts jobId job first)
        (fun _ => Acts jobId job first) program world :=
    fun uses acts => acts_of_uses (uses.mono fun _ => .of_closes) acts
  unfold JobRunner.runLoaded
  split
  · exact acts
  · refine Safe.bind (acts_of_commit ?_ acts target) fun _ _ begun => ?_
    · simp [Write.ofJob, Write.sparesSets, Job.Advances]
    · have settling : ∀ state error, state ≠ .queued →
          (JobRunner.settle jobId job loaded state error).Uses (Op.closes jobId) :=
        fun _ error ended => JobRunner.settle_uses jobId job loaded error ended
      refine safe_supervise (Acts jobId job first) (fun _ => Acts jobId job first)
        (execute_acts named begun.1 begun.2) ?_ ?_ ?_
      · exact fun after acts => closing (settling _ _ (by decide)) acts
      · intro error after _ acts
        refine closing (Uses.bind (JobRunner.failRunningSteps_uses jobId _).attempt fun recorded => ?_)
          acts
        exact Uses.bind (settling _ _ (by decide)) fun _ => Coroutine.uses_ofExcept _
      · exact fun error after _ acts => closing (Uses.bind (settling _ _ (by decide)) fun _ => trivial) acts

/-- The job acts on what its ids named when its run began. -/
theorem runJob_acts (taken : jobId ∈ world.taken) (sent : SentAsChosen jobId job first world)
    (waits : Waits jobId job first world) :
    Safe (contract jobId job first) (fun _ => Acts jobId job first)
      (fun _ => Acts jobId job first) (self.runJob jobId) world := by
  have begun : Safe (contract jobId job first)
      (fun (_ : Unit) after => Acts jobId job first after ∧ Waits jobId job first after)
      (fun _ => Acts jobId job first) (beginJob jobId) world := by
    apply safe_beginJob
    refine .ok (fun steady => ⟨steady.sent, steady.stored⟩) fun later passed => ?_
    have acts : Acts jobId job first { world with
        currentJob := some jobId, nextPosition := 0, sessionBroken := false } :=
      ⟨⟨sent, Option.isSome_of_eq_some waits.row⟩, rfl, taken⟩
    have ready : Waits jobId job first { world with
        currentJob := some jobId, nextPosition := 0, sessionBroken := false } :=
      ⟨waits.row, waits.queued, waits.names⟩
    exact ⟨acts.passed passed, ready.passed passed⟩
  refine Safe.bind begun ?_
  rintro _ ready ⟨acts, waits⟩
  refine Safe.bind (acts_query (.getJob .job jobId) (fun world => world.db.jobs.get? jobId)
    (fun found after => found = some job ∧ Acts jobId job first after ∧ Waits jobId job first after)
    (fun _ _ => rfl) acts fun later passed acts => ⟨waits.row, acts, waits.passed passed⟩) ?_
  rintro _ before ⟨rfl, acts, still⟩
  dsimp only
  split
  · exact runLoaded_acts (fun _ _ none => by cases none) acts still.target
  · rename_i mirrorSetId named
    refine Safe.bind (acts_query (.getMirrorSet .job mirrorSetId)
      (fun world => world.db.mirrorSets.get? mirrorSetId)
      (fun found after => found = before.db.mirrorSets.get? mirrorSetId ∧
        Acts jobId job first after ∧ Waits jobId job first after)
      (fun _ _ => rfl) acts fun later passed acts => ⟨rfl, acts, still.passed passed⟩) ?_
    rintro _ after ⟨rfl, acts, later⟩
    refine runLoaded_acts (fun needed mirrorSet found => ?_) acts later.target
    have known : job.mirrorSetIn before.db = some mirrorSet := by
      rw [Job.mirrorSetIn, named]
      exact found
    rcases still.names.1 needed with gone | same
    · rw [known] at gone
      cases gone
    · rw [← same]
      exact known

/-! ### The service -/

variable {start system : System}

theorem Steady.same (steady : Steady jobId job first world) (db : after.db = world.db)
    (log : after.log = world.log) : Steady jobId job first after := by
  refine ⟨SentAsChosen.of_log steady.sent log, ?_⟩
  rw [db]
  exact steady.stored

theorem Waits.same (waits : Waits jobId job first world) (db : after.db = world.db) :
    Waits jobId job first after := by
  refine ⟨?_, waits.queued, ?_⟩
  · rw [db]
    exact waits.row
  · rw [db]
    exact waits.names

/-- Only the database, the log and the jobs taken matter. -/
theorem Rests.same (rests : Rests jobId job first world) (db : after.db = world.db)
    (log : after.log = world.log) (taken : jobId ∉ after.taken → jobId ∉ world.taken) :
    Rests jobId job first after := by
  refine ⟨rests.toSteady.same db log, fun waiting row found queued => ?_⟩
  rw [db] at found
  exact (rests.waits (taken waiting) row found queued).same db

theorem Rests.released (rests : Rests jobId job first world) (worker : Worker) :
    Rests jobId job first (world.released worker) :=
  rests.same (World.released_db _ _) (World.released_log _ _) (by simp)

theorem rests_of_waiting (queued : start.Queued) (waiting : jobId ∈ start.waiting)
    (named : start.world.db.jobs.get? jobId = some job) :
    Rests jobId job start.world.db start.world := by
  refine ⟨⟨fun entry sent own => absurd own (queued.silent jobId waiting entry sent), ?_⟩, ?_⟩
  · exact Option.isSome_of_eq_some named
  · intro _ row found unstarted
    rw [named] at found
    cases found
    exact ⟨named, unstarted, .refl job _⟩

theorem protects_of_external {before after : System} {label : Label}
    (external : label.external = true) (permitted : before.keepsChoices label = true)
    (stepped : before.step self label = some after) : Protects before.world.db after.world.db := by
  have same : ∀ db : Database, Protects db db := fun db id row _ _ => .refl row db
  cases label with
  | arrive arrival =>
      obtain ⟨-, rfl⟩ := System.step_arrive stepped
      exact same _
  | serve index event =>
      obtain ⟨op, resume, outcome, world, found, performed, rfl⟩ := System.step_serve stepped
      simp only [System.keepsChoices, found, Option.bind_some, Coroutine.awaits,
        Option.all_some] at permitted
      exact protects_of_perform permitted performed
  | drift reached =>
      cases stepped
      exact same _
  | tick elapsed =>
      cases stepped
      exact same _
  | take => cases external
  | work event => cases external
  | crash => cases external
  | start => cases external

/-- From a state in which the job waits, nothing but its own run uses what its ids name. -/
def outline (queued : start.Queued) (uses : ∀ request ∈ start.requests, request.Uses Op.forRequest)
    (waiting : jobId ∈ start.waiting) (named : start.world.db.jobs.get? jobId = some job) :
    Outline self (fun system label => system.keepsChoices label) start where
  contract := contract jobId job start.world.db
  always := Steady jobId job start.world.db
  rest worker world := worker ≠ .down → Rests jobId job start.world.db world
  requests := uses
  entry := (rests_of_waiting queued waiting named).toSteady
  begins := by
    have rests := rests_of_waiting queued waiting named
    rw [HoldsAt]
    split
    · rename_i program running
      obtain ⟨other, idle, -, uses, current, -⟩ := queued.working program running
      have different : other ≠ jobId := by
        rintro rfl
        exact idle waiting
      have elsewhere : start.world.currentJob ≠ some jobId := by
        rcases current with none | own
        · simp [none]
        · simpa [own] using different
      intro later passed
      refine (others_rest uses different (by rw [passed.1.currentJob]; exact elsewhere)
        (rests.passed passed)).mono (fun _ world rests _ => ?_) fun error world rests _ => ?_
      · exact rests.released _
      · exact rests.released _
    · exact fun _ => rests
  relies steady passed := steady.passed passed
  guarantees steady kept := kept steady
  unmoved steady db log _ _ := steady.same db log
  recovers steady := by
    refine ⟨steady.sent, ?_⟩
    rw [World.recovered_jobs, Option.isSome_map]
    exact steady.stored
  stays rests passed up := (rests up).passed passed
  others reached permitted external stepped :=
    ⟨System.others_of_external (reached.requests_use uses) external stepped,
      protects_of_external external permitted stepped⟩
  allows _ permitted running := by
    simp only [System.keepsChoices, running, Worker.awaits, Option.all_some] at permitted
    exact permitted
  takes := by
    intro system other rest reached _ idle queue _ rests later passed
    have standing := reached.keeps_queued queued uses
    have resting := standing.resting (by simp [idle])
    have present : other ∈ system.waiting := by simp [System.waiting, queue]
    by_cases own : other = jobId
    · subst own
      have waits := (rests (by simp)).waits (standing.untaken other present)
      obtain ⟨row, found, unstarted⟩ := standing.unstarted other present
      have waits := waits row found unstarted
      have taken : other ∈ later.taken := by
        rw [passed.1.taken]
        exact List.mem_cons_self
      have sent := SentAsChosen.of_log (rests (by simp)).sent passed.1.log
      have still : Waits other job start.world.db (system.world.take other rest) :=
        ⟨waits.row, waits.queued, waits.names⟩
      refine (runJob_acts taken sent (still.passed passed)).mono
        (fun _ world acts _ => ?_) fun error world acts _ => ?_
      · exact acts.rests.released _
      · exact acts.rests.released _
    · have begun : Rests jobId job start.world.db (system.world.take other rest) :=
        (rests (by simp)).same rfl rfl fun untaken present =>
          untaken (List.mem_cons_of_mem _ present)
      have elsewhere : later.currentJob ≠ some jobId := by
        rw [passed.1.currentJob]
        change system.world.currentJob ≠ some jobId
        simp [resting]
      refine (others_rest (self.runJob_uses other) own elsewhere (begun.passed passed)).mono
        (fun _ world rests _ => ?_) fun error world rests _ => ?_
      · exact rests.released _
      · exact rests.released _
  crashes _ _ _ _ := fun up => absurd rfl up
  starts steady _ _ := by
    refine ⟨⟨steady.sent, ?_⟩, fun _ row found queued => ?_⟩
    · rw [World.recovered_jobs, Option.isSome_map]
      exact steady.stored
    · rw [World.recovered_jobs] at found
      obtain ⟨old, -, rfl⟩ := Option.map_eq_some_iff.mp found
      by_cases active : old.state = .running ∨ old.state = .queued
      · rw [if_pos active] at queued
        cases queued
      · rw [if_neg active] at queued
        exact absurd (.inr queued) active

/-- A waiting job acts on what its ids name now. -/
theorem sent_of_waiting {later : System} (queued : start.Queued)
    (uses : ∀ request ∈ start.requests, request.Uses Op.forRequest)
    (waiting : jobId ∈ start.waiting) (named : start.world.db.jobs.get? jobId = some job)
    (followed : System.Reachable self (fun system label => system.keepsChoices label) start later) :
    SentAsChosen jobId job start.world.db later.world :=
  ((outline queued uses waiting named).holds followed).always.sent

end Choice

/-- A row that the job needs is gone. -/
def Job.Orphaned (job : Job) (db : Database) : Prop :=
  job.needsSet = true ∧
    (job.mirrorSetIn db = none ∨ job.type = .switch ∧ job.targetIn db = none)

/-- A job acts on the rows its ids named when it was stored, and changes nothing in aptly when one
of them is deleted while it waits, in every run in which no commit puts a row under an id that a
queued job names or changes the one that is there. -/
theorem job_acts_on_choice {self : JobRunner} {start before chosen later : System} {label : Label}
    {jobId : Nat} {job : Job} (fresh : start.Fresh)
    (reached : System.Reachable self (fun _ _ => True) start before)
    (stepped : before.step self label = some chosen)
    (absent : before.world.db.jobs.get? jobId = none)
    (stored : chosen.world.db.jobs.get? jobId = some job)
    (followed : System.Reachable self (fun system label => system.keepsChoices label) chosen later) :
    SentAsChosen jobId job chosen.world.db later.world ∧
      ∀ meanwhile,
        System.Reachable self (fun system label => system.keepsChoices label) chosen meanwhile →
        System.Reachable self (fun system label => system.keepsChoices label) meanwhile later →
        jobId ∈ meanwhile.waiting → job.Orphaned meanwhile.world.db →
        ∀ entry ∈ later.world.log, entry.job = some jobId → entry.request.writes = false := by
  have standing := reached.queued fresh
  have served := reached.requests_use fresh.requests_use
  have queued := standing.step served stepped
  have uses := System.requests_use_of_step served stepped
  have known := Option.isSome_of_eq_some stored
  have waiting := standing.waiting_of_stored served stepped absent known
  refine ⟨Choice.sent_of_waiting queued uses waiting stored followed, ?_⟩
  intro meanwhile passed rest waits orphaned entry sent own
  have row := passed.row_of_waiting queued uses known waits
  have chosen := Choice.sent_of_waiting (passed.keeps_queued queued uses) (passed.requests_use uses)
    waits (row.trans stored) rest entry sent own
  by_contra writes
  obtain ⟨mirrorSet, named, acts⟩ := chosen (by simpa using writes) orphaned.1
  rcases orphaned.2 with gone | ⟨switches, gone⟩
  · rw [named] at gone
    cases gone
  · rw [switches, gone] at acts
    generalize entry.request = request at acts
    cases acts with
    | switchPublished _ target _ => cases target
    | publishSnapshots _ target _ => cases target

namespace Choice

/-! ### An id that names another set -/

def bare : Aptly := ⟨[], [], []⟩

/-- A set is adopted, and the operator asks for its missing mirrors. -/
def asked (suites : String) : List Label :=
  [.start, .arrive (.web (.adoptSubmit (Sample.form "first" suites))), .serve 0 .proceed,
    .arrive (.web (.setCreateMissing "operator" 1))]

/-- The set is forgotten and another one adopted while the job waits. -/
def replaced : List Label :=
  [.serve 1 .proceed, .arrive (.web (.setDelete "operator" 1 "keep")), .serve 2 .proceed,
    .serve 2 .proceed, .serve 2 .proceed,
    .arrive (.web (.adoptSubmit (Sample.form "second" "stable"))), .serve 3 .proceed]

/-- The worker takes the job and creates one mirror. -/
def created : List Label :=
  .take :: List.replicate 4 (.work .proceed) ++ [.work (.reply (.mirrors []) bare), .work .proceed,
    .work .proceed, .work (.reply (.mirror ⟨"stable-main", "", "", [], [], none⟩) bare)]

end Choice

theorem not_job_acts_on_choice : ¬ ∀ (self : JobRunner) (start before chosen later : System)
    (label : Label) (earlier labels : List Label) (jobId : Nat) (job : Job), start.Fresh →
    start.run self earlier = some before → before.step self label = some chosen →
    before.world.db.jobs.get? jobId = none → chosen.world.db.jobs.get? jobId = some job →
    chosen.run self labels = some later → SentAsChosen jobId job chosen.world.db later.world := by
  intro claimed
  have strayed : ((System.blank .empty Choice.bare).run Sample.runner (Choice.asked ",")).any
      (fun before => (before.step Sample.runner (.serve 1 .proceed)).any fun chosen =>
        (chosen.run Sample.runner (Choice.replaced ++ Choice.created)).any fun later =>
          (before.world.db.jobs.get? 1).isNone &&
          (chosen.world.db.jobs.get? 1).any (fun job => decide (job.type = .create) &&
            (job.mirrorSetIn chosen.world.db).all fun mirrorSet => mirrorSet.suites.isEmpty) &&
          later.world.log.any fun entry =>
            decide (entry.job = some 1) && entry.request.writes) = true := by
    decide
  obtain ⟨before, first, strayed⟩ := (Option.any_eq_true _ _).mp strayed
  obtain ⟨chosen, stepped, strayed⟩ := (Option.any_eq_true _ _).mp strayed
  obtain ⟨later, rest, strayed⟩ := (Option.any_eq_true _ _).mp strayed
  simp only [Bool.and_eq_true, Option.isNone_iff_eq_none, Option.any_eq_true, Option.all_eq_true,
    decide_eq_true_eq, List.any_eq_true, List.isEmpty_iff] at strayed
  obtain ⟨⟨absent, job, stored, type, empty⟩, entry, sent, own, writes⟩ := strayed
  obtain ⟨mirrorSet, named, acts⟩ := claimed _ _ _ _ _ _ _ _ 1 job (System.blank_fresh _ _) first
    stepped absent stored rest entry sent own writes (by simp [Job.needsSet, type])
  rw [type] at acts
  generalize entry.request = request at acts
  cases acts with
  | createMirror suite _ => simp [empty mirrorSet named] at suite

theorem job_acts_on_choice_create : ∃ chosen later : System, ∃ job,
    chosen.world.db.jobs.get? 1 = some job ∧
    (∃ entry ∈ later.world.log, entry.job = some 1 ∧ entry.request.writes = true) ∧
    SentAsChosen 1 job chosen.world.db later.world := by
  have runs : ((System.blank .empty Choice.bare).runUnder Sample.runner (fun _ _ => true)
      (Choice.asked "stable")).any
      (fun before => (before.step Sample.runner (.serve 1 .proceed)).any fun chosen =>
        (chosen.runUnder Sample.runner (fun system label => system.keepsChoices label)
          (.serve 1 .proceed :: Choice.created)).any fun later =>
          (before.world.db.jobs.get? 1).isNone && (chosen.world.db.jobs.get? 1).isSome &&
          later.world.log.any fun entry =>
            decide (entry.job = some 1) && entry.request.writes) = true := by
    decide
  obtain ⟨before, first, runs⟩ := (Option.any_eq_true _ _).mp runs
  obtain ⟨chosen, stepped, runs⟩ := (Option.any_eq_true _ _).mp runs
  obtain ⟨later, rest, runs⟩ := (Option.any_eq_true _ _).mp runs
  simp only [Bool.and_eq_true, Option.isNone_iff_eq_none, Option.isSome_iff_exists,
    List.any_eq_true, decide_eq_true_eq] at runs
  obtain ⟨⟨absent, job, stored⟩, entry, sent, own, writes⟩ := runs
  have reached := (System.Reachable.of_runUnder first).mono fun _ _ _ => trivial
  exact ⟨chosen, later, job, stored, ⟨entry, sent, own, writes⟩,
    (job_acts_on_choice (System.blank_fresh _ _) reached stepped absent stored
      (.of_runUnder rest)).1⟩

end AptlyGui
