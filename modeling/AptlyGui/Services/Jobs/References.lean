import AptlyGui.Services.Jobs.Alone
import AptlyGui.Services.Jobs.Queue
import AptlyGui.Database.References
import AptlyGui.Outline
import AptlyGui.Rules

/-!
# Declared references along runs

Jobs and steps are never deleted, and a job stores rows only for itself and its
mirror set.  So references dangle only where a mirror set is deleted although
something still names it, or a job is asked for on a set that is gone.
-/

namespace AptlyGui

open Coroutine (Contract Safe Uses forEach foldEach)

/-- A mirror set is deleted only when nothing else names it, and a job is stored only for a set
that is there. -/
def World.keepsReferences (world : World) (op : Op) (_ : Event) : Bool :=
  match op with
  | .commit session writes => writes.all fun
      | .addJob job => job.mirrorSetId.all fun id =>
          (world.db.mirrorSets.get? id).isSome &&
            writes.all fun other => decide (other.forgets ≠ some id)
      | .deleteMirrorSet id =>
          (world.db.jobs.rows.all fun job => decide (job.mirrorSetId ≠ some id) ||
            decide (session = .job ∧ world.currentJob = some job.id)) &&
          world.db.snapshotSets.rows.all fun row => decide (row.mirrorSetId ≠ id) ||
            writes.any fun other => decide (other.discards = some row.id)
      | _ => true
  | _ => true

/-! ## What a job stores -/

/-- A change by a job whose row keeps its mirror set if it is tied to one. -/
def Write.refers (jobId : Nat) (tied : Option MirrorSet) : Write → Prop
  | .addStep step => ∀ now, (step now).jobId = jobId
  | .setStep _ change => ∀ (now : Time) (row : JobStep), (change now row).jobId = row.jobId
  | .addSnapshotSet row => row.jobId = some jobId ∧
      tied.map MirrorSet.id = some row.mirrorSetId
  | .setSnapshotSet _ change => ∀ row,
      (change row).mirrorSetId = row.mirrorSetId ∧ (change row).jobId = row.jobId
  | .setJob id change => id = jobId ∧
      ((∀ (now : Time) (row : Job), (change now row).mirrorSetId = row.mirrorSetId) ∨
        tied = none ∧ ∀ (now : Time) (row : Job), (change now row).mirrorSetId = none)
  | .addJob _ | .addMirrorSet _ => False
  | _ => True

/-- The job's own reference goes together with the mirror set. -/
def Op.refers (jobId : Nat) (tied : Option MirrorSet) : Op → Prop
  | .commit .job writes => (∀ change ∈ writes, change.refers jobId tied) ∧
      ∀ id, Write.deleteMirrorSet id ∈ writes → Write.Clears jobId writes
  | .commit .request _ => False
  | _ => True

section Uses

variable (self : JobRunner) (jobId : Nat) (mirrorSet : MirrorSet) {tied : Option MirrorSet}

theorem addStep_refers (description : String) :
    (addStep jobId description).Uses (Op.refers jobId tied) := by
  refine Uses.bind (uses_op trivial) fun position => Uses.bind (uses_op ?_) fun _ => trivial
  simp [Op.refers, Write.refers]

/-- A commit that changes one step. -/
theorem setStep_refers (step : Nat) {change : Time → JobStep → JobStep}
    (same : ∀ now row, (change now row).jobId = row.jobId) :
    (commit .job [.setStep step change]).Uses (Op.refers jobId tied) :=
  uses_op (by simpa [Op.refers, Write.refers] using same)

theorem finishStep_refers (step : Nat) (state : StepState) (output : String) :
    (finishStep step state output).Uses (Op.refers jobId tied) :=
  Uses.bind (setStep_refers jobId step fun _ _ => rfl) fun _ => trivial

namespace JobRunner

theorem guardDisk_refers (remainingBytes : Int) :
    (self.guardDisk remainingBytes).Uses (Op.refers jobId tied) := by
  refine Uses.bind (uses_op trivial) fun storage => ?_
  dsimp only
  split <;> trivial

theorem pollTask_refers (step : Nat) (taskId : Int) (polls : Nat) (reported : Bool) :
    (self.pollTask step taskId polls reported).Uses (Op.refers jobId tied) := by
  induction polls generalizing reported with
  | zero => trivial
  | succ polls inductionHypothesis =>
      refine Uses.bind (uses_op trivial) fun task => ?_
      split
      · refine Uses.bind (uses_op trivial) fun output => ?_
        split
        · trivial
        · split
          · exact Uses.bind (setStep_refers jobId step fun _ _ => rfl) fun _ => trivial
          · trivial
      · refine Uses.bind (uses_op trivial) fun progress => ?_
        split
        · exact Uses.bind (uses_op trivial) fun _ => inductionHypothesis reported
        · refine Uses.bind (setStep_refers jobId step fun _ _ => rfl) fun _ => ?_
          refine Uses.bind (self.guardDisk_refers jobId _) fun _ => ?_
          exact Uses.bind (uses_op trivial) fun _ => inductionHypothesis true

theorem followTask_refers (step : Nat) (task : Task) :
    (self.followTask step task).Uses (Op.refers jobId tied) := by
  refine Uses.bind (setStep_refers jobId step fun _ _ => rfl) fun _ => ?_
  exact Uses.bind (self.pollTask_refers jobId step task.id self.polls false)
    fun output => finishStep_refers jobId step .succeeded output

theorem failStep_refers {α : Type} (step : Nat) (error : Exn) :
    (failStep step error : Program α).Uses (Op.refers jobId tied) := by
  unfold failStep
  split
  · exact Uses.bind (finishStep_refers jobId step .failed error.str) fun _ => trivial
  · trivial

theorem create_refers : (create jobId mirrorSet).Uses (Op.refers jobId tied) := by
  refine Uses.bind (uses_op trivial) fun mirrors => ?_
  refine Uses.forEach fun suite _ => Uses.forEach fun component _ => ?_
  refine Uses.bind (addStep_refers jobId _) fun step => ?_
  split
  · exact finishStep_refers jobId step .skipped _
  · exact Uses.bind (uses_op trivial) fun _ => finishStep_refers jobId step .succeeded _

theorem preflight_refers : (self.preflight jobId mirrorSet).Uses (Op.refers jobId tied) := by
  refine Uses.bind (addStep_refers jobId _) fun step => ?_
  refine Uses.bind (uses_op trivial) fun mirrors => ?_
  dsimp only
  split
  · exact Uses.bind (finishStep_refers jobId step .failed _) fun _ => trivial
  · refine Uses.bind (uses_op trivial) fun storage => ?_
    split
    · exact finishStep_refers jobId step .succeeded _
    · exact Uses.bind (finishStep_refers jobId step .failed _) fun _ => trivial

theorem sync_refers : (self.sync jobId mirrorSet).Uses (Op.refers jobId tied) := by
  refine Uses.forEach fun suite _ => Uses.forEach fun component _ => ?_
  refine Uses.bind (addStep_refers jobId _) fun step => ?_
  exact Uses.bind (uses_op trivial) fun task => self.followTask_refers jobId step task

theorem takeSnapshots_refers (stamp : String) (snapshotSet : Nat) :
    (takeSnapshots jobId mirrorSet stamp snapshotSet).Uses (Op.refers jobId tied) := by
  refine Uses.foldEach fun suite _ taken => Uses.foldEach fun component _ taken => ?_
  refine Uses.bind (addStep_refers jobId _) fun step => Uses.bind (uses_op trivial) fun _ => ?_
  refine Uses.bind (uses_op ?_) fun _ => trivial
  simp [Op.refers, Write.refers, endStep]

/-- An update stores a snapshot set of the job's own mirror set. -/
theorem update_refers :
    (self.update jobId mirrorSet).Uses (Op.refers jobId (some mirrorSet)) := by
  refine Uses.bind (self.preflight_refers jobId mirrorSet) fun _ => ?_
  refine Uses.bind (uses_op trivial) fun moment => ?_
  refine Uses.bind (uses_op ?_) fun inserted => ?_
  · simp [Op.refers, Write.refers]
  · refine Uses.bind (self.sync_refers jobId mirrorSet) fun _ => ?_
    refine Uses.bind (takeSnapshots_refers jobId mirrorSet _ _) fun _ => ?_
    refine Uses.bind (uses_op ?_) fun _ => trivial
    simp [Op.refers, Write.refers]

theorem reclaimSpace_refers : (self.reclaimSpace jobId).Uses (Op.refers jobId tied) := by
  refine Uses.bind (addStep_refers jobId _) fun step => ?_
  exact Uses.bind (uses_op trivial) fun task => self.followTask_refers jobId step task

theorem discard_refers (params : JobParams) :
    (self.discard jobId params).Uses (Op.refers jobId tied) := by
  refine Uses.bind (Uses.forEach fun name _ => ?_) fun _ => ?_
  · refine Uses.bind (addStep_refers jobId _) fun step => ?_
    refine Uses.bind (Uses.catching (uses_op trivial) (failStep_refers jobId step)) fun _ => ?_
    exact finishStep_refers jobId step .succeeded ""
  · refine Uses.bind (self.reclaimSpace_refers jobId) fun _ => ?_
    split
    · trivial
    · refine Uses.bind (uses_op trivial) fun found => ?_
      split
      · trivial
      · refine Uses.bind (uses_op ?_) fun _ => trivial
        simp [Op.refers, Write.refers]

/-- A removal takes the job's own reference with the mirror set. -/
theorem remove_refers (params : JobParams) (loaded : Option MirrorSet) :
    (self.remove jobId params loaded).Uses (Op.refers jobId none) := by
  refine Uses.bind (Uses.forEach fun name _ => ?_) fun _ => ?_
  · refine Uses.bind (addStep_refers jobId _) fun step => ?_
    refine Uses.bind (Uses.catching (uses_op trivial) (failStep_refers jobId step)) fun task => ?_
    exact self.followTask_refers jobId step task
  · refine Uses.bind (self.reclaimSpace_refers jobId) fun _ => ?_
    split
    · trivial
    · refine Uses.bind ?_ fun found => ?_
      · unfold getLoaded
        split
        · split
          · trivial
          · exact uses_op trivial
        · exact uses_op trivial
      · split
        · trivial
        · refine Uses.bind (uses_op trivial) fun owned => Uses.bind (uses_op ⟨?_, ?_⟩) fun _ => trivial
          · intro change listed
            simp only [List.cons_append, List.mem_cons, List.mem_append, List.mem_map,
              List.not_mem_nil, or_false] at listed
            rcases listed with rfl | ⟨row, -, rfl⟩ | rfl
            · exact ⟨rfl, .inr ⟨rfl, fun _ _ => rfl⟩⟩
            · trivial
            · trivial
          · exact fun _ _ => ⟨_, List.mem_cons_self, fun _ _ => rfl⟩

theorem verify_refers (target : SnapshotSet) :
    (verify jobId mirrorSet target).Uses (Op.refers jobId tied) := by
  refine Uses.bind (addStep_refers jobId _) fun step => Uses.bind (uses_op trivial) fun actual => ?_
  refine Uses.bind (Coroutine.uses_ofExcept _) fun problems => ?_
  split
  · exact Uses.bind (finishStep_refers jobId step .failed _) fun _ => trivial
  · exact finishStep_refers jobId step .succeeded ""

theorem checkAsClient_refers (publicUrl : String) :
    (checkAsClient jobId mirrorSet publicUrl).Uses (Op.refers jobId tied) := by
  refine Uses.bind (addStep_refers jobId _) fun step => ?_
  refine Uses.bind (Uses.foldEach fun suite _ checks => ?_) fun checks => ?_
  · exact Uses.bind (uses_op trivial) fun _ => trivial
  · dsimp only
    split
    · exact Uses.bind (finishStep_refers jobId step .failed _) fun _ => trivial
    · exact finishStep_refers jobId step .succeeded _

theorem publishSuites_refers (target : SnapshotSet) :
    (self.publishSuites jobId mirrorSet target).Uses (Op.refers jobId tied) := by
  refine Uses.bind (uses_op trivial) fun published => ?_
  refine Uses.bind (Uses.forEach fun suite _ => ?_) fun _ => ?_
  · refine Uses.bind (Coroutine.uses_ofExcept _) fun sources => ?_
    refine Uses.bind (addStep_refers jobId _) fun step => ?_
    dsimp only
    split
    · exact Uses.bind (uses_op trivial) fun task => self.followTask_refers jobId step task
    · exact Uses.bind (uses_op trivial) fun task => self.followTask_refers jobId step task
  · refine Uses.bind (verify_refers jobId mirrorSet target) fun _ => ?_
    split
    · trivial
    · split
      · trivial
      · exact checkAsClient_refers jobId mirrorSet _

/-- A removal is tied to no set, any other job to the one it has loaded. -/
def tiedTo (job : Job) (loaded : Option MirrorSet) : Option MirrorSet :=
  if job.type = .remove then none else loaded

theorem execute_refers (job : Job) (loaded : Option MirrorSet) :
    (self.execute jobId job loaded).Uses (Op.refers jobId (tiedTo job loaded)) := by
  unfold execute
  split
  · exact self.discard_refers jobId job.params
  · rename_i type
    rw [tiedTo, if_pos type]
    exact self.remove_refers jobId job.params _
  · trivial
  · exact create_refers jobId _
  · rename_i type
    rw [tiedTo, if_neg (by simp [type])]
    exact self.update_refers jobId _
  · unfold switch
    split
    · trivial
    · refine Uses.bind (uses_op trivial) fun found => ?_
      split
      · trivial
      · split
        · trivial
        · split
          · trivial
          · exact self.publishSuites_refers jobId _ _
  · trivial

theorem settle_refers (job : Job) (loaded : Option MirrorSet) (state : JobState)
    (error : Option String) :
    (settle jobId job loaded state error).Uses (Op.refers jobId tied) := by
  refine Uses.bind (uses_op ?_) fun _ => trivial
  simp [Op.refers, Write.refers]

theorem failRunningSteps_refers (error : String) :
    (failRunningSteps jobId error).Uses (Op.refers jobId tied) := by
  refine Uses.bind (uses_op trivial) fun running => Uses.bind (uses_op ?_) fun _ => trivial
  simp [Op.refers, Write.refers]

theorem runLoaded_refers (job : Job) (loaded : Option MirrorSet) :
    (self.runLoaded jobId job loaded).Uses (Op.refers jobId (tiedTo job loaded)) := by
  unfold runLoaded
  split
  · trivial
  · refine Uses.bind (uses_op (by simp [Op.refers, Write.refers])) fun _ => ?_
    refine Uses.bind (self.execute_refers jobId job loaded).attempt fun ended => ?_
    split
    · exact settle_refers jobId job loaded _ _
    · split
      · refine Uses.bind (failRunningSteps_refers jobId _).attempt fun recorded => ?_
        exact Uses.bind (settle_refers jobId job loaded _ _) fun _ => Coroutine.uses_ofExcept _
      · exact Uses.bind (settle_refers jobId job loaded _ _) fun _ => trivial

end JobRunner

end Uses

/-! ## Commits -/

namespace World

variable {world : World} {session : Session} {writes : List Write} {event : Event}

theorem discards_iff {change : Write} {id : Nat} :
    change.discards = some id ↔ change = .deleteSnapshotSet id := by
  cases change <;> simp [Write.discards]

theorem accepts_addJob (permitted : world.keepsReferences (.commit session writes) event = true)
    {job : Job} (listed : .addJob job ∈ writes) : world.db.Accepts writes (.addJob job) := by
  simp only [keepsReferences, List.all_eq_true] at permitted
  have known := permitted _ listed
  simp only [Option.all_eq_true, Bool.and_eq_true, List.all_eq_true, decide_eq_true_eq] at known
  intro key named
  obtain ⟨stored, kept⟩ := known key named
  exact ⟨stored, fun deleted => kept _ deleted rfl⟩

/-- A commit that passes the check leaves no reference dangling. -/
theorem linked_of_commit (permitted : world.keepsReferences (.commit session writes) event = true)
    (linked : world.db.Linked) (accepts : ∀ change ∈ writes, world.db.Accepts writes change)
    (clears : session = .job → ∀ jobId, world.currentJob = some jobId →
      ∀ id, Write.deleteMirrorSet id ∈ writes → Write.Clears jobId writes)
    {db : Database} {inserted : Inserted}
    (committed : world.db.commit world.clock writes = .ok (db, inserted)) : db.Linked := by
  simp only [keepsReferences, List.all_eq_true] at permitted
  have nothing : ∀ gone, Write.deleteMirrorSet gone ∈ writes →
      (∀ job ∈ world.db.jobs.rows, job.mirrorSetId ≠ some gone ∨
        session = .job ∧ world.currentJob = some job.id) ∧
      ∀ row ∈ world.db.snapshotSets.rows, row.mirrorSetId ≠ gone ∨
        ∃ other ∈ writes, other.discards = some row.id := by
    intro gone listed
    simpa using permitted _ listed
  refine Database.linked_of_writeAll (linked.but ?_ ?_) accepts committed
  · intro gone listed id job found named
    obtain ⟨stored, rfl⟩ := Table.get?_eq_some_iff.mp found
    rcases (nothing gone listed).1 job stored with other | ⟨own, current⟩
    · exact absurd named other
    · exact clears own _ current gone listed
  · intro gone listed id row found named
    obtain ⟨stored, rfl⟩ := Table.get?_eq_some_iff.mp found
    rcases (nothing gone listed).2 row stored with other | ⟨change, among, discards⟩
    · exact absurd named other
    · rw [discards_iff.mp discards] at among
      exact among

/-- A request stores rows that refer to nothing but what the check looks at. -/
theorem linked_of_request {op : Op} {outcome : Except Exn op.Ret} {after : World}
    (permitted : world.keepsReferences op event = true) (harmless : op.forRequest)
    (performed : op.perform event world = some (outcome, after)) (linked : world.db.Linked) :
    after.db.Linked := by
  rcases op.request_cases harmless performed with
    rfl | ⟨id, rfl, rfl⟩ | ⟨writes, db, inserted, rfl, committed, rfl⟩
  · exact linked
  · exact linked
  · refine linked_of_commit permitted linked (fun change listed => ?_) nofun committed
    have request := harmless change listed
    cases change with
    | addJob job => exact accepts_addJob permitted listed
    | addStep step => exact request.elim
    | addSnapshotSet row => exact request.elim
    | setJob id change => exact request.elim
    | setStep id change => exact request.elim
    | setSnapshotSet id change => exact request.elim
    | _ => trivial

end World

/-! ## A running job -/

namespace References

/-- The job runs, and its row still names the mirror set it is tied to. -/
structure Tied (jobId : Nat) (tied : Option MirrorSet) (world : World) : Prop where
  linked : world.db.Linked
  row : ∃ row, world.db.jobs.get? jobId = some row ∧
    ∀ mirrorSet, tied = some mirrorSet → row.mirrorSetId = some mirrorSet.id
  current : world.currentJob = some jobId

def contract : Contract semantics where
  allowed world op event := world.keepsReferences op event = true
  rely before after := before.Others after ∧ (before.db.Linked → after.db.Linked)
  guarantee before after := before.db.Linked → after.db.Linked
  rely_refl world := ⟨.refl world, id⟩
  rely_trans before after := ⟨before.1.trans after.1, after.2 ∘ before.2⟩

variable {jobId : Nat} {tied : Option MirrorSet} {world after : World} {self : JobRunner}

theorem Tied.passed (bound : Tied jobId tied world) (passed : contract.rely world after) :
    Tied jobId tied after := by
  obtain ⟨row, found, named⟩ := bound.row
  exact ⟨passed.2 bound.linked, ⟨row, passed.1.db.jobs jobId row found, named⟩,
    passed.1.currentJob.trans bound.current⟩

/-- What the job stores refers to the job itself and to the set it is tied to. -/
theorem Tied.accepts (bound : Tied jobId tied world) {writes : List Write}
    (refers : (Op.commit .job writes).refers jobId tied) {change : Write} (listed : change ∈ writes) :
    world.db.Accepts writes change := by
  obtain ⟨row, found, named⟩ := bound.row
  have stored : (world.db.jobs.get? jobId).isSome = true := Option.isSome_of_eq_some found
  have own := refers.1 change listed
  cases change with
  | addJob job => exact own.elim
  | addStep step =>
      intro now
      rw [own now]
      exact stored
  | addSnapshotSet added =>
      obtain ⟨job, set⟩ := own
      obtain ⟨mirrorSet, rfl, same⟩ := Option.map_eq_some_iff.mp set
      have names := named mirrorSet rfl
      refine ⟨⟨?_, fun deleted => ?_⟩, fun key asked => ?_⟩
      · rw [← same]
        exact bound.linked.setsOfJobs jobId row _ found names
      · obtain ⟨edit, among, clears⟩ := refers.2 _ deleted
        rcases (refers.1 _ among).2 with keeps | ⟨absurd, -⟩
        · have cleared := (keeps 0 row).symm.trans (clears 0 row)
          rw [names] at cleared
          cases cleared
        · cases absurd
      · rw [job] at asked
        cases asked
        exact stored
  | setJob id edit => exact own.2.imp_right fun cleared => cleared.2
  | setStep id edit => exact own
  | setSnapshotSet id edit => exact own
  | _ => trivial

theorem Tied.of_perform {op : Op} {event : Event} {outcome : Except Exn op.Ret}
    (own : op.ofJob jobId) (refers : op.refers jobId tied)
    (permitted : world.keepsReferences op event = true)
    (performed : op.perform event world = some (outcome, after)) (bound : Tied jobId tied world) :
    Tied jobId tied after := by
  obtain ⟨row, found, named⟩ := bound.row
  refine ⟨?_, ?_, Op.current_of_perform own performed bound.current⟩
  · rcases Op.db_of_perform performed with same | stored
    · rw [same]
      exact bound.linked
    · cases op with
      | commit session writes =>
          cases session with
          | request => exact refers.elim
          | job =>
              simp only [World.stored] at stored
              split at stored
              · rename_i committed
                cases stored
                refine World.linked_of_commit permitted bound.linked
                  (fun change listed => bound.accepts refers listed) ?_ committed
                intro _ other running
                obtain rfl := Option.some.inj (bound.current.symm.trans running)
                exact refers.2
              · cases stored
      | _ => cases stored
  · refine @Op.keeps_db (fun db => ∃ row, db.jobs.get? jobId = some row ∧
      ∀ mirrorSet, tied = some mirrorSet → row.mirrorSetId = some mirrorSet.id) op event world
      after outcome ?_ performed bound.row
    rintro session writes rfl change listed db inserted later keys wrote ⟨old, known, names⟩
    cases session with
    | request => exact refers.elim
    | job =>
        have kept := refers.1 change listed
        have jobs := (Database.write_tables wrote).1
        cases change with
        | addJob job => exact kept.elim
        | setJob id edit =>
            obtain ⟨rfl, keeps⟩ := kept
            refine ⟨Keyed.withId id (edit world.clock old), by simp [jobs, Write.onJobs, known],
              fun mirrorSet tie => ?_⟩
            rcases keeps with same | ⟨free, -⟩
            · exact (same world.clock old).trans (names mirrorSet tie)
            · rw [free] at tie
              cases tie
        | _ => exact ⟨old, jobs ▸ known, names⟩

theorem safe_run {α : Type} {program : Program α} (own : program.Uses (Op.ofJob jobId))
    (refers : program.Uses (Op.refers jobId tied)) (bound : Tied jobId tied world) :
    Safe contract (fun _ => Tied jobId tied) (fun _ => Tied jobId tied) program world := by
  refine Safe.of_uses (Tied jobId tied) (own.and refers) bound ?_ ?_
  · exact fun before later bound passed => bound.passed passed
  · rintro op before outcome after ⟨own, refers⟩ bound ⟨event, permitted, performed⟩
    have kept := bound.of_perform own refers permitted performed
    exact ⟨fun _ => kept.linked, kept⟩

theorem Tied.loosened {job : Job} {loaded : Option MirrorSet} (bound : Tied jobId loaded world) :
    Tied jobId (JobRunner.tiedTo job loaded) world := by
  unfold JobRunner.tiedTo
  split
  · obtain ⟨row, found, -⟩ := bound.row
    exact ⟨bound.linked, ⟨row, found, nofun⟩, bound.current⟩
  · exact bound

theorem runLoaded_safe {job : Job} {loaded : Option MirrorSet} (bound : Tied jobId loaded world) :
    Safe contract (fun _ _ => True) (fun _ _ => True) (self.runLoaded jobId job loaded) world :=
  (safe_run (self.runLoaded_uses jobId job loaded) (self.runLoaded_refers jobId job loaded)
    bound.loosened).mono (fun _ _ _ => trivial) fun _ _ _ => trivial

theorem runJob_safe (linked : world.db.Linked)
    (stored : (world.db.jobs.get? jobId).isSome = true) :
    Safe contract (fun _ _ => True) (fun _ _ => True) (self.runJob jobId) world := by
  have beginning : Safe contract (fun (_ : Unit) => Tied jobId none) (fun _ _ => True)
      (beginJob jobId) world := by
    apply safe_beginJob
    obtain ⟨row, found⟩ := Option.isSome_iff_exists.mp stored
    have bound : Tied jobId none
        { world with currentJob := some jobId, nextPosition := 0, sessionBroken := false } :=
      ⟨linked, ⟨row, found, nofun⟩, rfl⟩
    exact .ok id fun later passed => bound.passed passed
  refine Safe.bind beginning ?_
  intro _ ready bound
  have loading : Safe contract
      (fun (found : Option Job) after => ∃ row, found = some row ∧ Tied jobId none after ∧
        after.db.jobs.get? jobId = some row)
      (fun _ _ => True) (getJob jobId) ready := by
    refine safe_query (.getJob .job jobId) (fun world => world.db.jobs.get? jobId)
      (fun _ => rfl) ?_ ?_ ?_
    · intro _ _
      obtain ⟨row, found, -⟩ := bound.row
      exact .ok id fun later passed =>
        ⟨row, found, bound.passed passed, passed.1.db.jobs jobId row found⟩
    · exact fun _ _ => .error id fun _ _ => trivial
    · exact fun _ _ _ => .error id fun _ _ => trivial
  refine Safe.bind loading ?_
  rintro _ after ⟨row, rfl, bound, found⟩
  dsimp only
  split
  · exact runLoaded_safe bound
  · rename_i mirrorSetId named
    have reading : Safe contract
        (fun (loaded : Option MirrorSet) after => Tied jobId loaded after) (fun _ _ => True)
        (getMirrorSet .job mirrorSetId) after := by
      refine safe_query (.getMirrorSet .job mirrorSetId)
        (fun world => world.db.mirrorSets.get? mirrorSetId) (fun _ => rfl) ?_ ?_ ?_
      · intro _ _
        have own : Tied jobId (after.db.mirrorSets.get? mirrorSetId) after := by
          refine ⟨bound.linked, ⟨row, found, fun mirrorSet known => ?_⟩, bound.current⟩
          have same : mirrorSet.id = mirrorSetId := Table.id_of_get? known
          rw [same]
          exact named
        exact .ok id fun later passed => own.passed passed
      · exact fun _ _ => .error id fun _ _ => trivial
      · exact fun _ _ _ => .error id fun _ _ => trivial
    exact Safe.bind reading fun loaded later bound => runLoaded_safe bound

/-! ## The service -/

theorem linked_of_recovered {world : World} (linked : world.db.Linked) :
    world.recovered.db.Linked := by
  have stored : ∀ id, (world.db.jobs.get? id).isSome = true →
      (world.recovered.db.jobs.get? id).isSome = true := by
    intro id known
    rw [World.recovered_jobs, Option.isSome_map]
    exact known
  refine ⟨fun id job key found named => ?_, linked.setsOfSnapshotSets,
    fun id row key found named => stored key (linked.jobsOfSnapshotSets id row key found named),
    fun id row found => stored _ (linked.jobsOfSteps id row found)⟩
  rw [World.recovered_jobs] at found
  obtain ⟨old, known, rfl⟩ := Option.map_eq_some_iff.mp found
  refine linked.setsOfJobs id old key known ?_
  split at named
  · exact named
  · exact named

theorem linked_of_external {before after : System} {label : Label}
    (uses : ∀ request ∈ before.requests, request.Uses Op.forRequest)
    (permitted : before.checked World.keepsReferences label = true) (external : label.external)
    (stepped : before.step self label = some after) (linked : before.world.db.Linked) :
    after.world.db.Linked := by
  rcases System.db_of_external external stepped with
    same | ⟨index, event, op, resume, outcome, rfl, found, performed⟩
  · rw [same]
    exact linked
  · rw [System.checked_serve found] at permitted
    exact World.linked_of_request permitted (uses _ (List.mem_of_getElem? found)).1 performed linked

def outline {start : System} (fresh : start.Fresh) (linked : start.world.db.Linked) :
    Outline self (fun system label => system.checked World.keepsReferences label) start where
  contract := contract
  always world := world.db.Linked
  rest _ _ := True
  requests := fresh.requests_use
  entry := linked
  begins := .fresh fresh trivial
  relies linked passed := passed.2 linked
  guarantees linked kept := kept linked
  unmoved linked db _ _ _ := by
    rw [db]
    exact linked
  recovers := linked_of_recovered
  stays _ _ := trivial
  others reached permitted external stepped :=
    ⟨System.others_of_external (reached.requests_use fresh.requests_use) external stepped,
      linked_of_external (reached.requests_use fresh.requests_use) permitted external stepped⟩
  allows _ permitted running := by
    rw [System.checked_work running] at permitted
    exact permitted
  takes := by
    intro system jobId waiting reached _ idle queue linked _ later passed
    have unstarted := (reached.queued fresh).unstarted jobId (by simp [System.waiting, queue])
    obtain ⟨row, found, -⟩ := unstarted.kept passed.1.db
    exact runJob_safe (passed.2 linked) (Option.isSome_of_eq_some found)
  crashes _ _ _ _ := trivial
  starts _ _ := trivial

end References

/-- Declared references hold in every state of every run in which a mirror set is deleted only
when no other job and no snapshot set that stays names it, and a job is stored only for a set that
is there. -/
theorem declared_references_hold {self : JobRunner} {start system : System} (fresh : start.Fresh)
    (linked : start.world.db.Linked)
    (reached : System.Reachable self
      (fun system label => system.checked World.keepsReferences label) start system) :
    system.world.db.Linked :=
  ((References.outline fresh linked).holds reached).always

namespace References

/-- An operator creates a set. -/
def created : List Label :=
  [.start, .arrive (.web (.newSetSubmit "operator" (Sample.form "debian" "stable"))),
    .serve 0 .proceed, .serve 0 .proceed, .serve 0 .proceed, .serve 0 .proceed]

/-- The set is forgotten. -/
def forgotten (index : Nat) : List Label :=
  [.arrive (.web (.setDelete "operator" 1 "keep")), .serve index .proceed, .serve index .proceed,
    .serve index .proceed]

end References

theorem not_declared_references_hold : ¬ ∀ (self : JobRunner) (aptly : Aptly)
    (labels : List Label) (system : System),
    (System.blank .empty aptly).run self labels = some system → system.world.db.Linked := by
  intro claimed
  have runs : ((System.blank .empty Sample.mirrored).run Sample.runner
      (References.created ++ References.forgotten 1)).any (fun system =>
        (system.world.db.jobs.get? 1).any (fun job => decide (job.mirrorSetId = some 1)) &&
        (system.world.db.mirrorSets.get? 1).isNone) = true := by
    decide
  obtain ⟨system, ran, runs⟩ := (Option.any_eq_true _ _).mp runs
  simp only [Bool.and_eq_true, Option.any_eq_true, decide_eq_true_eq,
    Option.isNone_iff_eq_none] at runs
  obtain ⟨⟨job, stored, named⟩, gone⟩ := runs
  have linked := (claimed _ _ _ _ ran).setsOfJobs 1 job 1 stored named
  rw [gone] at linked
  cases linked

/-- The job and the snapshot set name the mirror set, and the snapshot set and three steps the
job. -/
theorem declared_references_hold_update : ∃ system : System,
    system.world.db.jobs.rows.map Job.mirrorSetId = [some 1] ∧
      system.world.db.snapshotSets.rows.map (fun row => (row.mirrorSetId, row.jobId)) =
        [(1, some 1)] ∧
      system.world.db.steps.rows.map JobStep.jobId = [1, 1, 1] ∧ system.world.db.Linked := by
  have runs : (Sample.service.runUnder Sample.runner
      (fun system label => system.checked World.keepsReferences label)
      (Sample.synced Sample.updated)).any (fun system =>
        decide (system.world.db.jobs.rows.map Job.mirrorSetId = [some 1]) &&
        decide (system.world.db.snapshotSets.rows.map (fun row => (row.mirrorSetId, row.jobId)) =
          [(1, some 1)]) &&
        decide (system.world.db.steps.rows.map JobStep.jobId = [1, 1, 1])) = true := by
    decide +kernel
  obtain ⟨system, ran, runs⟩ := (Option.any_eq_true _ _).mp runs
  simp only [Bool.and_eq_true, decide_eq_true_eq] at runs
  have linked : Sample.service.world.db.Linked := by
    constructor <;> intros <;> contradiction
  exact ⟨system, runs.1.1, runs.1.2, runs.2,
    declared_references_hold (System.blank_fresh _ _) linked (.of_runUnder ran)⟩

end AptlyGui
