import AptlyGui.Library.Solo
import AptlyGui.Services.Jobs.Whole

/-!
# A discard that is repeated

What is left of a snapshot set can be thrown away: the operator discards it
once more.  The repeated job asks for every deletion again, and gives up at the
first snapshot that aptly does not have any more.
-/

namespace AptlyGui

open Coroutine (Completes Ends Ensures Meets)

/-! ## aptly obliges -/

/-- aptly deletes the snapshots that it has and answers 404 for the others, and a clean-up, which
downloads nothing, goes through. -/
def Aptly.obliges (before : Aptly) (request : Request) : Event → Bool
  | .reply body after =>
      sameSnapshots after.snapshots (request.snapshotsAfter true before.snapshots) &&
        match request, body with
        | .deleteSnapshot name, _ => decide (name ∈ before.snapshots)
        | .dbCleanup, .task _ => true
        | .getTask _, .task task => decide (task.state ≠ .failed)
        | .taskOutput _, .output _ => true
        | .taskProgress _, .progress none => true
        | _, _ => false
  | .fault (.aptlyError _) false after =>
      sameSnapshots after.snapshots before.snapshots &&
        request.deletes.any fun name => decide (name ∉ before.snapshots)
  | _ => false

/-- Nothing is in the way of a discard of these snapshots but what aptly lacks: aptly obliges, the
database works, no one is seen to publish them. -/
def World.obliges (names : List String) (world : World) : Op → Event → Bool
  | .aptly request, event => world.aptly.obliges request event
  | .readCache, .cached state => names.all fun name => decide (name ∉ state.publishedSnapshotNames)
  | _, .proceed => true
  | _, _ => false

def obliging (names : List String) : Semantics Async World Event :=
  semantics.only fun world op event => world.obliges names op event

/-! ## The second time -/

/-- The operator submits the discard, and the worker runs the job. -/
def JobRunner.discardAgain (self : JobRunner) (author : String) (setId snapshotSetId jobId : Nat) :
    Program Unit := do
  let _ ← discardSetSubmit author setId snapshotSetId
  self.runJob jobId

/-- The discard has succeeded, and the snapshots and the row of the set are gone. -/
structure World.Discarded (world : World) (jobId : Nat) (row : SnapshotSet) : Prop where
  succeeded : ∃ job, world.db.jobs.get? jobId = some job ∧ job.state = .succeeded
  gone : ∀ name ∈ row.snapshots.values, name ∉ world.aptly.snapshots
  forgotten : world.db.snapshotSets.get? row.id = none

/-- The set can be discarded now, however obliging the answers are. -/
def World.Repeatable (self : JobRunner) (author : String) (row : SnapshotSet) (world : World) : Prop :=
  Completes (obliging row.snapshots.values)
    (fun _ after => after.Discarded world.db.jobs.nextId row) (fun _ _ => False)
    (self.discardAgain author row.mirrorSetId row.id world.db.jobs.nextId) world

namespace Repeat

variable {names : List String} {world : World} {raised : Exn → World → Prop}

/-! ### Operations -/

theorem completes_op {op : Op} {returned : op.Ret → World → Prop}
    (answered : ∃ event outcome after, world.obliges names op event = true ∧
      op.perform event world = some (outcome, after))
    (good : ∀ event outcome after, world.obliges names op event = true →
      op.perform event world = some (outcome, after) → Meets returned raised outcome after) :
    Completes (obliging names) returned raised (perform op) world := by
  refine Coroutine.completes_perform ?_ fun event outcome after performed => ?_
  · obtain ⟨event, outcome, after, permitted, performed⟩ := answered
    exact ⟨event, outcome, after, Semantics.perform_only.mpr ⟨permitted, performed⟩⟩
  · obtain ⟨permitted, performed⟩ := Semantics.perform_only.mp performed
    exact good event outcome after permitted performed

/-- The operation has one obliging answer: it goes on. -/
def proceeds : Op → Bool
  | .aptly _ | .readCache => false
  | _ => true

theorem obliges_proceed {op : Op} {event : Event} (proceeds : proceeds op = true) :
    world.obliges names op event = true ↔ event = .proceed := by
  constructor
  · intro permitted
    cases op with
    | aptly request => cases proceeds
    | readCache => cases proceeds
    | _ =>
        cases event with
        | proceed => rfl
        | _ => cases permitted
  · rintro rfl
    cases op with
    | aptly request => cases proceeds
    | readCache => cases proceeds
    | _ => rfl

theorem completes_proceed {op : Op} {value : op.Ret} {after : World}
    {returned : op.Ret → World → Prop} (goes : proceeds op = true)
    (performed : op.perform .proceed world = some (.ok value, after)) (holds : returned value after) :
    Completes (obliging names) returned raised (perform op) world := by
  apply completes_op
  · exact ⟨.proceed, .ok value, after, (obliges_proceed goes).mpr rfl, performed⟩
  · intro event outcome reached permitted answered
    have same := (obliges_proceed goes).mp permitted
    rw [same, performed] at answered
    cases answered
    exact holds

/-- A read of the database in a session that works. -/
theorem completes_query {op : Op} {session : Session} {value : op.Ret}
    {returned : op.Ret → World → Prop} (whole : world.broken session = false)
    (goes : proceeds op = true)
    (reads : op.perform .proceed world = world.query session value .proceed)
    (holds : returned value world) :
    Completes (obliging names) returned raised (perform op) world := by
  apply completes_proceed goes ?_ holds
  rw [reads]
  simp only [World.query, whole, Bool.false_eq_true, if_false]

theorem completes_store {session : Session} {writes : List Write} {db : Database}
    {inserted : Inserted} {returned : Inserted → World → Prop}
    (whole : world.broken session = false)
    (committed : world.db.commit world.clock writes = .ok (db, inserted))
    (holds : returned inserted { world with db := db }) :
    Completes (obliging names) returned raised (commit session writes) world := by
  have goes : (Op.commit session writes).perform .proceed world =
      some (.ok inserted, { world with db := db }) := by
    change world.commit session writes .proceed = _
    simp only [World.commit, whole, committed, Bool.false_eq_true, if_false]
    rfl
  exact completes_proceed rfl goes holds

theorem completes_commit {writes : List Write} {db : Database} {inserted : Inserted}
    {returned : Inserted → World → Prop} (whole : world.sessionBroken = false)
    (committed : world.db.commit world.clock writes = .ok (db, inserted))
    (holds : returned inserted { world with db := db }) :
    Completes (obliging names) returned raised (commit .job writes) world :=
  completes_store whole committed holds

theorem ends_reply {request : Request} {body : Reply}
    (permitted : world.aptly.obliges request (.reply body world.aptly) = true) :
    Ends (obliging names) (perform (.aptly request)) world (request.parse body)
      (world.record request (.ok body) true world.aptly) := by
  refine Coroutine.ends_perform.mpr ⟨.reply body world.aptly, ?_⟩
  exact Semantics.perform_only.mpr ⟨permitted, rfl⟩

/-- A request that deletes nothing is answered. -/
theorem completes_aptly {request : Request} {body : Reply} {returned : request.Ret → World → Prop}
    (harmless : request.deletes = none)
    (answered : world.aptly.obliges request (.reply body world.aptly) = true)
    (replied : ∀ body after, world.aptly.obliges request (.reply body after) = true →
      Meets returned raised (request.parse body) (world.record request (.ok body) true after)) :
    Completes (obliging names) returned raised (perform (.aptly request)) world := by
  apply @completes_op names world raised (.aptly request) returned
  · exact ⟨.reply body world.aptly, _, _, answered, rfl⟩
  · intro event outcome after permitted performed
    rcases Op.perform_aptly performed with ⟨body, reached, rfl, rfl, rfl⟩ |
      ⟨error, carriedOut, reached, rfl, -, rfl, rfl⟩ | ⟨applied, reached, rfl, rfl, rfl⟩
    · exact replied body reached permitted
    · change world.aptly.obliges request (.fault error carriedOut reached) = true at permitted
      cases error <;> cases carriedOut <;> simp [Aptly.obliges, harmless] at permitted
    · cases permitted

/-! ### The job -/

/-- The job and its session are in order, and this is what is left of the set: its row, if that is
still stored, and the snapshots that aptly has. -/
structure Left (jobId setId : Nat) (row : Option SnapshotSet) (held : Set String) (world : World) :
    Prop where
  whole : world.sessionBroken = false
  job : (world.db.jobs.get? jobId).isSome = true
  recorded : world.db.snapshotSets.get? setId = row
  held : ∀ name, name ∈ world.aptly.snapshots ↔ name ∈ held

variable {self : JobRunner} {jobId setId step : Nat} {row : Option SnapshotSet} {held : Set String}

/-- The step is stored, too. -/
def LeftAt (jobId setId : Nat) (row : Option SnapshotSet) (held : Set String) (step : Nat)
    (world : World) : Prop :=
  Left jobId setId row held world ∧ (world.db.steps.get? step).isSome = true

theorem Left.kept (left : Left jobId setId row held world) {after : World}
    (whole : after.sessionBroken = world.sessionBroken) (jobs : after.db.jobs = world.db.jobs)
    (sets : after.db.snapshotSets = world.db.snapshotSets) (aptly : after.aptly = world.aptly) :
    Left jobId setId row held after := by
  constructor
  · rw [whole, left.whole]
  · rw [jobs, left.job]
  · rw [sets, left.recorded]
  · rw [aptly]
    exact left.held

theorem Left.asked (left : Left jobId setId row held world) {request : Request}
    {outcome : Except Exn Reply} {carriedOut : Bool} {after : Aptly} {rest : Set String}
    (same : ∀ name, name ∈ after.snapshots ↔ name ∈ rest) :
    Left jobId setId row rest (world.record request outcome carriedOut after) :=
  ⟨left.whole, left.job, left.recorded, same⟩

theorem addStep_left (left : Left jobId setId row held world) (description : String) :
    Completes (obliging names) (fun step => LeftAt jobId setId row held step) raised
      (addStep jobId description) world := by
  have counted : Completes (obliging names) (fun _ => Left jobId setId row held) raised
      advancePosition world := by
    have still : Left jobId setId row held { world with nextPosition := world.nextPosition + 1 } :=
      left.kept rfl rfl rfl rfl
    exact @completes_proceed names world raised .nextPosition _ _ _ rfl rfl still
  refine counted.bind fun position before left => ?_
  apply Completes.bind (completes_commit left.whole (Database.commit_addStep _) ?_)
  · exact fun inserted _ kept => Coroutine.completes_done kept
  · exact ⟨left.kept rfl rfl rfl rfl, by simp⟩

theorem setStep_left {change : Time → JobStep → JobStep}
    (left : LeftAt jobId setId row held step world) :
    Completes (obliging names) (fun _ => LeftAt jobId setId row held step) raised
      (commit .job [.setStep step change]) world := by
  apply completes_commit left.1.whole (Database.commit_setStep change left.2)
  refine ⟨left.1.kept rfl rfl rfl rfl, ?_⟩
  simpa using left.2

theorem finishStep_left {state : StepState} {output : String}
    (left : LeftAt jobId setId row held step world) :
    Completes (obliging names) (fun _ => Left jobId setId row held) raised
      (finishStep step state output) world :=
  (setStep_left left).bind fun _ _ kept => Coroutine.completes_done kept.1

/-! ### Deletions -/

theorem deleteSnapshot_held {name : String} (left : LeftAt jobId setId row held step world)
    (known : name ∈ held) :
    Completes (obliging names) (fun _ => LeftAt jobId setId row (held \ {name}) step) raised
      (Client.deleteSnapshot name) world := by
  have listed := (left.1.held name).mpr known
  apply @completes_op names world raised (.aptly (.deleteSnapshot name))
  · refine ⟨.reply .nothing { world.aptly with
      snapshots := world.aptly.snapshots.filter (· ≠ name) }, _, _, ?_, rfl⟩
    simp [World.obliges, Aptly.obliges, Request.snapshotsAfter, sameSnapshots_iff, listed]
  · intro event outcome after permitted performed
    rcases Op.perform_aptly performed with ⟨body, reached, rfl, rfl, rfl⟩ |
      ⟨error, carriedOut, reached, rfl, -, rfl, rfl⟩ | ⟨applied, reached, rfl, rfl, rfl⟩
    · change world.aptly.obliges _ (.reply body reached) = true at permitted
      simp only [Aptly.obliges, Bool.and_eq_true, sameSnapshots_iff] at permitted
      refine ⟨left.1.asked fun other => ?_, left.2⟩
      rw [permitted.1 other]
      simp [Request.snapshotsAfter, left.1.held]
    · change world.aptly.obliges _ (.fault error carriedOut reached) = true at permitted
      cases error <;> cases carriedOut <;>
        simp [Aptly.obliges, Request.deletes, listed] at permitted
    · cases permitted

/-- aptly answers 404. -/
theorem deleteSnapshot_missing {name : String} (left : LeftAt jobId setId row held step world)
    (unknown : name ∉ held) :
    Completes (obliging names) (fun _ _ => False)
      (fun error after => error.isAptlyError = true ∧ LeftAt jobId setId row held step after)
      (Client.deleteSnapshot name) world := by
  have unlisted : name ∉ world.aptly.snapshots := fun listed => unknown ((left.1.held name).mp listed)
  apply @completes_op names world _ (.aptly (.deleteSnapshot name))
  · refine ⟨.fault (.aptlyError "not found") false world.aptly, _, _, ?_, rfl⟩
    simp [World.obliges, Aptly.obliges, Request.deletes, sameSnapshots_iff, unlisted]
  · intro event outcome after permitted performed
    rcases Op.perform_aptly performed with ⟨body, reached, rfl, rfl, rfl⟩ |
      ⟨error, carriedOut, reached, rfl, -, rfl, rfl⟩ | ⟨applied, reached, rfl, rfl, rfl⟩
    · change world.aptly.obliges _ (.reply body reached) = true at permitted
      simp [Aptly.obliges, unlisted] at permitted
    · change world.aptly.obliges _ (.fault error carriedOut reached) = true at permitted
      cases carriedOut with
      | true => cases error <;> simp [Aptly.obliges] at permitted
      | false =>
          cases error with
          | aptlyError message =>
              simp only [Aptly.obliges, Bool.and_eq_true, sameSnapshots_iff] at permitted
              refine ⟨rfl, left.1.asked fun other => ?_, left.2⟩
              rw [permitted.1 other, left.1.held]
          | _ => simp [Aptly.obliges] at permitted
    · cases permitted

theorem deleteSnapshotEach_held {name : String} (left : Left jobId setId row held world)
    (known : name ∈ held) :
    Completes (obliging names) (fun _ => Left jobId setId row (held \ {name})) raised
      (JobRunner.deleteSnapshotEach jobId name) world := by
  refine (addStep_left left _).bind fun step before left => ?_
  have deleted : Completes (obliging names) (fun _ => LeftAt jobId setId row (held \ {name}) step)
      raised ((Client.deleteSnapshot name).catching (JobRunner.failStep step)) before :=
    Completes.catching (deleteSnapshot_held left known)
  exact deleted.bind fun _ _ left => finishStep_left left

/-- The step fails with aptly's message, and the exception ends the job's work. -/
theorem deleteSnapshotEach_missing {name : String} (left : Left jobId setId row held world)
    (unknown : name ∉ held) :
    Completes (obliging names) (fun _ _ => False)
      (fun error after => error.isAptlyError = true ∧ Left jobId setId row held after)
      (JobRunner.deleteSnapshotEach jobId name) world := by
  refine (addStep_left left _).bind fun step before left => ?_
  have refused : Completes (obliging names) (fun _ _ => False)
      (fun error after => error.isAptlyError = true ∧ Left jobId setId row held after)
      ((Client.deleteSnapshot name).catching (JobRunner.failStep step)) before := by
    apply Completes.catching
    refine (deleteSnapshot_missing left unknown).mono (fun _ _ impossible => impossible) ?_
    rintro error after ⟨caught, left⟩
    unfold JobRunner.failStep
    rw [if_pos caught]
    exact (finishStep_left left).bind fun _ _ left => Coroutine.completes_raised ⟨caught, left⟩
  exact refused.bind fun _ _ impossible => impossible.elim

/-- Distinct snapshots that aptly all has are deleted one after the other. -/
theorem deletions_held {listed : List String} (left : Left jobId setId row held world)
    (distinct : listed.Nodup) (known : ∀ name ∈ listed, name ∈ held) :
    Completes (obliging names)
      (fun _ => Left jobId setId row (held \ {name | name ∈ listed})) raised
      (Coroutine.forEach listed (JobRunner.deleteSnapshotEach jobId)) world := by
  induction listed generalizing held world with
  | nil => exact Coroutine.completes_done (by simpa using left)
  | cons name rest inductionHypothesis =>
      obtain ⟨fresh, distinct⟩ := List.nodup_cons.mp distinct
      refine (deleteSnapshotEach_held left (known name (by simp))).bind fun _ after left => ?_
      have others : ∀ other ∈ rest, other ∈ held \ {name} := by
        intro other later
        refine ⟨known other (by simp [later]), fun same => fresh ?_⟩
        rw [← Set.mem_singleton_iff.mp same]
        exact later
      refine (inductionHypothesis left distinct others).mono (fun _ after left => ?_) fun _ _ => id
      have same : (held \ {name}) \ {other | other ∈ rest} =
          held \ {other | other ∈ name :: rest} := by
        ext other
        simp [and_assoc]
      rw [← same]
      exact left

/-- One deletion is asked for a snapshot that aptly does not have, or not any more. -/
theorem deletions_missing {listed : List String} (left : Left jobId setId row held world)
    (lacking : ¬ (listed.Nodup ∧ ∀ name ∈ listed, name ∈ held)) :
    Completes (obliging names) (fun _ _ => False)
      (fun error after => error.isAptlyError = true ∧ ∃ rest, Left jobId setId row rest after)
      (Coroutine.forEach listed (JobRunner.deleteSnapshotEach jobId)) world := by
  induction listed generalizing held world with
  | nil => exact (lacking (by simp)).elim
  | cons name rest inductionHypothesis =>
      by_cases known : name ∈ held
      · refine (deleteSnapshotEach_held left known).bind fun _ after left => ?_
        apply inductionHypothesis left
        rintro ⟨distinct, others⟩
        refine lacking ⟨List.nodup_cons.mpr ⟨fun later => (others name later).2 rfl, distinct⟩, ?_⟩
        intro other listed
        rcases List.mem_cons.mp listed with rfl | later
        · exact known
        · exact (others other later).1
      · have refused : Completes (obliging names) (fun _ _ => False)
            (fun error after => error.isAptlyError = true ∧ ∃ rest, Left jobId setId row rest after)
            (JobRunner.deleteSnapshotEach jobId name) world :=
          (deleteSnapshotEach_missing left known).mono (fun _ _ impossible => impossible)
            fun _ _ failed => ⟨failed.1, held, failed.2⟩
        exact refused.bind fun _ _ impossible => impossible.elim

/-! ### The clean-up -/

theorem LeftAt.asked (left : LeftAt jobId setId row held step world) {request : Request}
    {body : Reply} {after : Aptly} (kept : request.snapshotsAfter true world.aptly.snapshots =
      world.aptly.snapshots)
    (permitted : world.aptly.obliges request (.reply body after) = true) :
    LeftAt jobId setId row held step (world.record request (.ok body) true after) := by
  simp only [Aptly.obliges, Bool.and_eq_true, sameSnapshots_iff, kept] at permitted
  exact ⟨left.1.asked fun name => (permitted.1 name).trans (left.1.held name), left.2⟩

theorem getTask_left (taskId : Int) (left : LeftAt jobId setId row held step world) :
    Completes (obliging names)
      (fun task after => task.state ≠ .failed ∧ LeftAt jobId setId row held step after) raised
      (Client.getTask taskId) world := by
  apply @completes_aptly names world raised (.getTask taskId) (.task ⟨taskId, "", .succeeded⟩) _ rfl
  · simp [Aptly.obliges, Request.snapshotsAfter, sameSnapshots_iff]
  · intro body after permitted
    have left := left.asked rfl permitted
    cases body <;> simp [Aptly.obliges] at permitted
    exact ⟨permitted.2, left⟩

theorem taskOutput_left (taskId : Int) (left : LeftAt jobId setId row held step world) :
    Completes (obliging names) (fun _ => LeftAt jobId setId row held step) raised
      (Client.taskOutput taskId) world := by
  apply @completes_aptly names world raised (.taskOutput taskId) (.output "") _ rfl
  · simp [Aptly.obliges, Request.snapshotsAfter, sameSnapshots_iff]
  · intro body after permitted
    have left := left.asked rfl permitted
    cases body <;> simp [Aptly.obliges] at permitted
    exact left

theorem taskProgress_left (taskId : Int) (left : LeftAt jobId setId row held step world) :
    Completes (obliging names)
      (fun progress after => progress = none ∧ LeftAt jobId setId row held step after) raised
      (Client.taskProgress taskId) world := by
  apply @completes_aptly names world raised (.taskProgress taskId) (.progress none) _ rfl
  · simp [Aptly.obliges, Request.snapshotsAfter, sameSnapshots_iff]
  · intro body after permitted
    have left := left.asked rfl permitted
    cases body with
    | progress progress => cases progress <;> simp [Aptly.obliges] at permitted; exact ⟨rfl, left⟩
    | _ => simp [Aptly.obliges] at permitted

theorem dbCleanup_left (left : LeftAt jobId setId row held step world) :
    Completes (obliging names) (fun _ => LeftAt jobId setId row held step) raised
      Client.dbCleanup world := by
  apply @completes_aptly names world raised .dbCleanup (.task ⟨0, "", .queued⟩) _ rfl
  · simp [Aptly.obliges, Request.snapshotsAfter, sameSnapshots_iff]
  · intro body after permitted
    have left := left.asked rfl permitted
    cases body <;> simp [Aptly.obliges] at permitted
    exact left

/-- However long the task takes, it ends well. -/
theorem pollTask_ensures (polls : Nat) (taskId : Int)
    (left : LeftAt jobId setId row held step world) :
    Ensures (obliging names) (fun _ => LeftAt jobId setId row held step) raised
      (self.pollTask step taskId polls false) world := by
  induction polls generalizing world with
  | zero => exact Coroutine.ensures_stalled
  | succ polls inductionHypothesis =>
      refine (getTask_left taskId left).ensures.bind ?_
      rintro task seen ⟨well, left⟩
      by_cases finished : task.state.finished = true
      · rw [if_pos finished]
        refine (taskOutput_left taskId left).ensures.bind fun text read left => ?_
        rw [if_neg well]
        exact Coroutine.ensures_done left
      · rw [if_neg finished]
        refine (taskProgress_left taskId left).ensures.bind ?_
        rintro progress read ⟨rfl, left⟩
        have slept : Completes (obliging names) (fun _ => LeftAt jobId setId row held step) raised
            sleep read := @completes_proceed names read raised .sleep _ _ _ rfl rfl left
        exact slept.ensures.bind fun _ _ left => inductionHypothesis left

theorem awaitTask_left (patient : 0 < self.polls) (taskId : Int)
    (left : LeftAt jobId setId row held step world) :
    Completes (obliging names) (fun _ => LeftAt jobId setId row held step) raised
      (self.awaitTask step taskId) world := by
  refine ⟨?_, pollTask_ensures self.polls taskId left⟩
  obtain ⟨polls, enough⟩ := Nat.exists_eq_succ_of_ne_zero patient.ne'
  rw [JobRunner.awaitTask, enough]
  have seen := @ends_reply names world (.getTask taskId) (.task ⟨taskId, "", .succeeded⟩)
    (by simp [Aptly.obliges, Request.snapshotsAfter, sameSnapshots_iff])
  let known : World := world.record (.getTask taskId) (.ok (.task ⟨taskId, "", .succeeded⟩)) true
    world.aptly
  have read := @ends_reply names known (.taskOutput taskId) (.output "")
    (by simp [Aptly.obliges, Request.snapshotsAfter, sameSnapshots_iff])
  let heard : World := known.record (.taskOutput taskId) (.ok (.output "")) true known.aptly
  have waited : Ends (obliging names) (self.pollTask step taskId (polls + 1) false) world (.ok "")
      heard := by
    refine Coroutine.ends_bind_ok.mpr ⟨_, known, seen, ?_⟩
    exact Coroutine.ends_bind_ok.mpr ⟨"", heard, read, Coroutine.ends_done.mpr ⟨rfl, rfl⟩⟩
  exact ⟨.ok "", heard, waited⟩

theorem followTask_left (patient : 0 < self.polls) (task : Task)
    (left : LeftAt jobId setId row held step world) :
    Completes (obliging names) (fun _ => Left jobId setId row held) raised
      (self.followTask step task) world := by
  refine (setStep_left left).bind fun _ noted left => ?_
  refine (awaitTask_left patient task.id left).bind fun output waited left => ?_
  exact finishStep_left left

theorem reclaimSpace_left (patient : 0 < self.polls) (left : Left jobId setId row held world) :
    Completes (obliging names) (fun _ => Left jobId setId row held) raised
      (self.reclaimSpace jobId) world := by
  refine (addStep_left left _).bind fun step added left => ?_
  exact (dbCleanup_left left).bind fun task asked left => followTask_left patient task left

/-! ### The end of the job -/

/-- The row of the set is found, and deleted. -/
theorem discard_left {recorded : SnapshotSet} {listed : List String} (patient : 0 < self.polls)
    (left : Left jobId recorded.id (some recorded) held world) (distinct : listed.Nodup)
    (known : ∀ name ∈ listed, name ∈ held) :
    Completes (obliging names)
      (fun _ => Left jobId recorded.id none (held \ {name | name ∈ listed})) raised
      (self.discard jobId { snapshots := some listed, snapshotSetId := some recorded.id }) world := by
  refine (deletions_held left distinct known).bind fun _ deleted left => ?_
  refine (reclaimSpace_left patient left).bind fun _ cleaned left => ?_
  have asked : Completes (obliging names)
      (fun found after => found = some recorded ∧
        Left jobId recorded.id (some recorded) (held \ {name | name ∈ listed}) after) raised
      (getSnapshotSet .job recorded.id) cleaned :=
    @completes_query names cleaned raised (.getSnapshotSet .job recorded.id) .job _ _ left.whole rfl
      rfl ⟨left.recorded, left⟩
  refine asked.bind ?_
  rintro found after ⟨rfl, left⟩
  have forgotten : Completes (obliging names)
      (fun _ => Left jobId recorded.id none (held \ {name | name ∈ listed})) raised
      (commit .job [.deleteSnapshotSet recorded.id]) after :=
    completes_commit left.whole (Database.commit_deleteSnapshotSet _)
      ⟨left.whole, left.job, by simp, left.held⟩
  exact forgotten.bind fun _ _ left => Coroutine.completes_done left

theorem discard_missing {params : JobParams} {listed : List String} (named : params.snapshots = some listed)
    (left : Left jobId setId row held world)
    (lacking : ¬ (listed.Nodup ∧ ∀ name ∈ listed, name ∈ held)) :
    Completes (obliging names) (fun _ _ => False)
      (fun error after => error.isAptlyError = true ∧ ∃ rest, Left jobId setId row rest after)
      (self.discard jobId params) world := by
  unfold JobRunner.discard
  rw [named]
  exact (deletions_missing left lacking).bind fun _ _ impossible => impossible.elim

theorem settle_left {job : Job} {loaded : Option MirrorSet} {state : JobState}
    {error : Option String} (left : Left jobId setId row held world) :
    Completes (obliging names)
      (fun _ after => Left jobId setId row held after ∧
        ∃ ended, after.db.jobs.get? jobId = some ended ∧ ended.state = state) raised
      (JobRunner.settle jobId job loaded state error) world := by
  obtain ⟨stored, known⟩ := Option.isSome_iff_exists.mp left.job
  apply Completes.bind (completes_commit left.whole ((Database.commit_setJob _ _ left.job).trans rfl) ?_)
  · exact fun inserted _ kept => Coroutine.completes_done kept
  · refine ⟨⟨left.whole, by simp [known], left.recorded, left.held⟩, ?_⟩
    simp [known, Keyed.withId]

theorem failRunningSteps_left {error : String} (left : Left jobId setId row held world) :
    Completes (obliging names) (fun _ => Left jobId setId row held) raised
      (failRunningSteps jobId error) world := by
  let running := world.db.steps.rows.filter fun row => row.jobId = jobId ∧ row.state = .running
  have asked : Completes (obliging names) (fun found after => found = running ∧ after = world) raised
      (runningSteps jobId) world :=
    @completes_query names world raised (.runningSteps jobId) .job _ _ left.whole rfl rfl ⟨rfl, rfl⟩
  refine asked.bind ?_
  rintro _ _ ⟨rfl, rfl⟩
  obtain ⟨stored, known⟩ := Option.isSome_iff_exists.mp left.job
  refine Completes.bind (?_ : Completes (obliging names) (fun _ => Left jobId setId row held) raised
    _ _) fun _ _ left => Coroutine.completes_done left
  exact completes_commit left.whole (Database.commit_closeRunning _ _ left.job)
    ⟨left.whole, by simp [known], left.recorded, left.held⟩

/-- The job has ended in this state. -/
def Over (jobId setId : Nat) (row : Option SnapshotSet) (state : JobState) (held : Set String)
    (world : World) : Prop :=
  Left jobId setId row held world ∧
    ∃ job, world.db.jobs.get? jobId = some job ∧ job.state = state

theorem supervise_succeeds {job : Job} {loaded : Option MirrorSet} {work : Program Unit}
    (working : Completes (obliging names) (fun _ => Left jobId setId row held) (fun _ _ => False)
      work world) :
    Completes (obliging names) (fun _ => Over jobId setId row .succeeded held) (fun _ _ => False)
      (JobRunner.supervise jobId job loaded work) world := by
  have worked : Completes (obliging names)
      (fun outcome after => outcome = .ok () ∧ Left jobId setId row held after) (fun _ _ => False)
      work.attempt world := by
    apply Completes.attempt
    exact working.mono (fun _ _ left => ⟨rfl, left⟩) fun _ _ impossible => impossible.elim
  refine worked.bind ?_
  rintro _ after ⟨rfl, left⟩
  exact settle_left left

theorem supervise_fails {job : Job} {loaded : Option MirrorSet} {work : Program Unit}
    (working : Completes (obliging names) (fun _ _ => False)
      (fun error after => error.isAptlyError = true ∧ ∃ rest, Left jobId setId row rest after)
      work world) :
    Completes (obliging names) (fun _ after => ∃ rest, Over jobId setId row .failed rest after)
      (fun _ _ => False) (JobRunner.supervise jobId job loaded work) world := by
  have worked : Completes (obliging names)
      (fun outcome after => ∃ error rest, outcome = .error error ∧ error.isException = true ∧
        Left jobId setId row rest after) (fun _ _ => False) work.attempt world := by
    apply Completes.attempt
    refine working.mono (fun _ _ impossible => impossible.elim) ?_
    rintro error after ⟨refused, rest, left⟩
    refine ⟨error, rest, rfl, ?_, left⟩
    cases error with
    | cancelled => cases refused
    | _ => rfl
  refine worked.bind ?_
  rintro _ after ⟨error, rest, rfl, caught, left⟩
  dsimp only
  rw [if_pos caught]
  have closed : Completes (obliging names)
      (fun outcome after => outcome = .ok () ∧ Left jobId setId row rest after) (fun _ _ => False)
      (failRunningSteps jobId error.text).attempt after := by
    apply Completes.attempt
    exact (failRunningSteps_left left).mono (fun _ _ left => ⟨rfl, left⟩) fun _ _ => id
  refine closed.bind ?_
  rintro _ closed ⟨rfl, left⟩
  exact (settle_left left).bind fun _ _ ended => Coroutine.completes_done ⟨rest, ended⟩

/-- From the queue to the work of the job. -/
theorem runJob_left {job : Job} {returned : Unit → World → Prop}
    (stored : world.db.jobs.get? jobId = some job) (discards : job.type = .discard)
    (recorded : world.db.snapshotSets.get? setId = row)
    (same : ∀ name, name ∈ world.aptly.snapshots ↔ name ∈ held)
    (supervised : ∀ loaded after, Left jobId setId row held after →
      Completes (obliging names) returned raised
        (JobRunner.supervise jobId job loaded (self.discard jobId job.params)) after) :
    Completes (obliging names) returned raised (self.runJob jobId) world := by
  have begun : Completes (obliging names) (fun _ after =>
      Left jobId setId row held after ∧ after.db.jobs.get? jobId = some job) raised (beginJob jobId)
      world := by
    refine @completes_proceed names world raised (.beginJob jobId) _ _ _ rfl rfl ⟨?_, stored⟩
    exact ⟨rfl, Option.isSome_of_eq_some stored, recorded, same⟩
  refine begun.bind ?_
  rintro _ begun ⟨left, stored⟩
  have loaded : Completes (obliging names) (fun found after =>
      found = some job ∧ Left jobId setId row held after) raised (getJob jobId) begun :=
    @completes_query names begun raised (.getJob .job jobId) .job _ _ left.whole rfl rfl ⟨stored, left⟩
  have rest : ∀ loaded after, Left jobId setId row held after →
      Completes (obliging names) returned raised (self.runLoaded jobId job loaded) after := by
    intro loaded after left
    obtain ⟨known, found⟩ := Option.isSome_iff_exists.mp left.job
    unfold JobRunner.runLoaded
    rw [if_neg (by simp [discards])]
    refine Completes.bind (?_ : Completes (obliging names) (fun _ => Left jobId setId row held)
      raised _ _) fun _ after left => ?_
    · exact completes_commit left.whole ((Database.commit_setJob _ _ left.job).trans rfl)
        ⟨left.whole, by simp [found], left.recorded, left.held⟩
    · have works : self.execute jobId job loaded = self.discard jobId job.params := by
        simp [JobRunner.execute, discards]
      rw [works]
      exact supervised loaded after left
  refine loaded.bind ?_
  rintro _ ready ⟨rfl, left⟩
  dsimp only
  cases job.mirrorSetId with
  | none => exact rest none ready left
  | some mirrorSetId =>
      have described : Completes (obliging names) (fun _ => Left jobId setId row held) raised
          (getMirrorSet .job mirrorSetId) ready :=
        @completes_query names ready raised (.getMirrorSet .job mirrorSetId) .job _ _ left.whole rfl
          rfl left
      exact described.bind fun found _ left => rest found _ left

/-! ### Both times -/

/-- The job asks for what the row records. -/
def enqueuedFor (author : String) (recorded : SnapshotSet) : Job where
  type := .discard
  mirrorSetId := some recorded.mirrorSetId
  author := author
  params :=
    { snapshots := some (sortedNames recorded.snapshots.values)
      snapshotSetId := some recorded.id }

theorem discardSetSubmit_left {recorded : SnapshotSet} {author : String}
    (stored : world.db.snapshotSets.get? recorded.id = some recorded) :
    Completes (obliging recorded.snapshots.values)
      (fun _ after => after.aptly = world.aptly ∧ after.db = { world.db with
        jobs := world.db.jobs.insert (enqueuedFor author recorded) }) raised
      (discardSetSubmit author recorded.mirrorSetId recorded.id) world := by
  have found : Completes (obliging recorded.snapshots.values)
      (fun found after => found = some recorded ∧ after = world) raised
      (getSnapshotSet .request recorded.id) world :=
    @completes_query _ world raised (.getSnapshotSet .request recorded.id) .request _ _ rfl rfl rfl
      ⟨stored, rfl⟩
  refine found.bind ?_
  rintro _ world ⟨rfl, rfl⟩
  dsimp only
  rw [if_neg (by simp)]
  have unpublished : Completes (obliging recorded.snapshots.values)
      (fun (cached : AptlyState) after => after = world ∧
        ∀ name ∈ recorded.snapshots.values, name ∉ cached.publishedSnapshotNames) raised readCache
      world := by
    apply @completes_op _ world raised .readCache
    · refine ⟨.cached ⟨[], [], []⟩, _, _, ?_, rfl⟩
      simp [World.obliges, AptlyState.publishedSnapshotNames]
    · intro event outcome after permitted performed
      cases event with
      | cached state =>
          cases performed
          simp only [World.obliges, List.all_eq_true, decide_eq_true_eq] at permitted
          exact ⟨rfl, permitted⟩
      | _ => cases performed
  refine unpublished.bind ?_
  rintro cached world ⟨rfl, unseen⟩
  have clear : ¬ ∃ name ∈ sortedNames recorded.snapshots.values,
      name ∈ cached.publishedSnapshotNames := by
    rintro ⟨name, listed, published⟩
    exact unseen name ((List.mem_insertionSort _).mp listed) published
  rw [if_neg clear]
  have stored : Completes (obliging recorded.snapshots.values)
      (fun _ after => after.aptly = world.aptly ∧ after.db = { world.db with
        jobs := world.db.jobs.insert (enqueuedFor author recorded) }) raised
      (commit .request [.addJob (enqueuedFor author recorded)]) world :=
    completes_store rfl rfl ⟨rfl, rfl⟩
  refine Completes.bind (stored.bind fun inserted after kept => ?_) fun _ _ kept =>
    Coroutine.completes_done kept
  refine Completes.bind (?_ : Completes (obliging recorded.snapshots.values) (fun _ later =>
    later.aptly = after.aptly ∧ later.db = after.db) raised (put inserted.job) after) ?_
  · exact @completes_proceed _ after raised (.put inserted.job) _ _ _ rfl rfl ⟨rfl, rfl⟩
  · rintro _ later ⟨aptly, db⟩
    exact Coroutine.completes_done ⟨aptly.trans kept.1, db.trans kept.2⟩

variable {author : String} {recorded : SnapshotSet}

theorem sortedNames_iff {listed : List String} {held : Set String} :
    ((sortedNames listed).Nodup ∧ ∀ name ∈ sortedNames listed, name ∈ held) ↔
      listed.Nodup ∧ ∀ name ∈ listed, name ∈ held := by
  have sorted := List.perm_insertionSort (· ≤ ·) listed
  rw [sortedNames, sorted.nodup_iff]
  simp only [sorted.mem_iff]

theorem again_left {returned : Unit → World → Prop}
    (stored : world.db.snapshotSets.get? recorded.id = some recorded)
    (supervised : ∀ loaded after, Left world.db.jobs.nextId recorded.id (some recorded)
        {name | name ∈ world.aptly.snapshots} after →
      Completes (obliging recorded.snapshots.values) returned raised
        (JobRunner.supervise world.db.jobs.nextId
          (Keyed.withId world.db.jobs.nextId (enqueuedFor author recorded)) loaded
          (self.discard world.db.jobs.nextId (enqueuedFor author recorded).params)) after) :
    Completes (obliging recorded.snapshots.values) returned raised
      (self.discardAgain author recorded.mirrorSetId recorded.id world.db.jobs.nextId) world := by
  refine (discardSetSubmit_left stored).bind ?_
  rintro _ after ⟨aptly, db⟩
  apply runJob_left (by rw [db]; simp) rfl (by rw [db]; exact stored) (by simp [aptly]) supervised

/-- The discard goes through if aptly has all of the set. -/
theorem repeatable_of_held (patient : 0 < self.polls)
    (stored : world.db.snapshotSets.get? recorded.id = some recorded)
    (distinct : recorded.snapshots.values.Nodup)
    (known : ∀ name ∈ recorded.snapshots.values, name ∈ world.aptly.snapshots) :
    world.Repeatable self author recorded := by
  obtain ⟨distinct, known⟩ := (@sortedNames_iff _ {name | name ∈ world.aptly.snapshots}).mpr
    ⟨distinct, known⟩
  apply again_left stored
  intro loaded after left
  refine (supervise_succeeds (discard_left patient left distinct known)).mono ?_ fun _ _ => id
  rintro _ final ⟨left, succeeded⟩
  refine ⟨succeeded, fun name listed still => ?_, left.recorded⟩
  exact ((left.held name).mp still).2 ((List.mem_insertionSort _).mpr listed)

/-- Otherwise the job ends FAILED. -/
theorem fails_of_missing
    (stored : world.db.snapshotSets.get? recorded.id = some recorded)
    (lacking : ¬ (recorded.snapshots.values.Nodup ∧
      ∀ name ∈ recorded.snapshots.values, name ∈ world.aptly.snapshots)) :
    Completes (obliging recorded.snapshots.values)
      (fun _ after => ∃ job, after.db.jobs.get? world.db.jobs.nextId = some job ∧ job.state = .failed)
      (fun _ _ => False)
      (self.discardAgain author recorded.mirrorSetId recorded.id world.db.jobs.nextId) world := by
  have lacking := (not_congr (@sortedNames_iff _ {name | name ∈ world.aptly.snapshots})).mpr lacking
  apply again_left stored
  intro loaded after left
  refine (supervise_fails (discard_missing rfl left lacking)).mono ?_ fun _ _ => id
  rintro _ final ⟨rest, -, failed⟩
  exact failed

theorem not_repeatable_of_missing
    (stored : world.db.snapshotSets.get? recorded.id = some recorded)
    (lacking : ¬ (recorded.snapshots.values.Nodup ∧
      ∀ name ∈ recorded.snapshots.values, name ∈ world.aptly.snapshots)) :
    ¬ world.Repeatable self author recorded := by
  intro repeatable
  have fails := @fails_of_missing world self author recorded stored lacking
  obtain ⟨outcome, after, ended⟩ := fails.ends
  have failed := fails.ensures outcome after ended
  have succeeded := repeatable.ensures outcome after ended
  cases outcome with
  | error error => exact failed
  | ok value =>
      obtain ⟨job, known, failed⟩ := failed
      obtain ⟨same, found, succeeded⟩ := succeeded.succeeded
      rw [known] at found
      cases found
      rw [failed] at succeeded
      cases succeeded

end Repeat

/-- However the discard of a snapshot set has failed before: with obliging answers, the set can be
discarded again if and only if aptly still has all of its snapshots, and none is recorded twice. -/
theorem repeatable_iff_all_held {self : JobRunner} {author : String} {row : SnapshotSet}
    {world : World} (patient : 0 < self.polls)
    (stored : world.db.snapshotSets.get? row.id = some row) :
    world.Repeatable self author row ↔
      row.snapshots.values.Nodup ∧ ∀ name ∈ row.snapshots.values, name ∈ world.aptly.snapshots := by
  constructor
  · intro repeatable
    by_contra lacking
    exact Repeat.not_repeatable_of_missing stored lacking repeatable
  · rintro ⟨distinct, known⟩
    exact Repeat.repeatable_of_held patient stored distinct known

namespace Repeat

/-- The set of two snapshots as it is stored. -/
def stored : SnapshotSet := { Whole.taken with id := 1 }

/-- The operator discards the set, aptly refuses the first deletion, and the job ends FAILED. -/
def refused : List Label :=
  Whole.halfway.take 13 ++ .work (.fault (.aptlyError "connection reset") false
    (Whole.held Whole.taken.snapshots.values)) :: List.replicate 4 (.work .proceed)

/-- The discard of the set has failed, and only its row is certain to be there. -/
def hasFailed (system : System) : Bool :=
  system.worker.isIdle && decide (system.world.db.snapshotSets.get? 1 = some stored) &&
    (system.world.db.jobs.get? 1).any fun job =>
      decide (job.type = .discard ∧ job.params.snapshotSetId = some 1 ∧ job.state = .failed)

end Repeat

theorem repeatable_iff_all_held_refused : ∃ system,
    Whole.service.run Sample.runner Repeat.refused = some system ∧ Repeat.hasFailed system = true ∧
      system.world.Repeatable Sample.runner "operator" Repeat.stored := by
  have runs : (Whole.service.run Sample.runner Repeat.refused).any (fun system =>
      Repeat.hasFailed system && decide (system.world.db.snapshotSets.get? 1 = some Repeat.stored) &&
        decide (∀ name ∈ Repeat.stored.snapshots.values, name ∈ system.world.aptly.snapshots)) =
      true := by
    decide
  obtain ⟨system, ran, facts⟩ := (Option.any_eq_true _ _).mp runs
  simp only [Bool.and_eq_true, decide_eq_true_eq] at facts
  refine ⟨system, ran, facts.1.1, ?_⟩
  exact (repeatable_iff_all_held (by decide) facts.1.2).mpr ⟨by decide, facts.2⟩

/-- A failed discard cannot be repeated in general: aptly has deleted the first of two snapshots
and not answered the second deletion. -/
theorem not_failed_discards_repeatable : ¬ ∀ (self : JobRunner) (start system : System)
    (labels : List Label) (author : String) (row : SnapshotSet) (jobId : Nat) (job : Job),
    0 < self.polls → start.Fresh →
    start.runUnder self (fun system label => system.alone label && System.uninterrupted label) labels =
      some system →
    system.worker.isIdle = true → system.world.db.snapshotSets.get? row.id = some row →
    system.world.db.jobs.get? jobId = some job → job.type = .discard →
    job.params.snapshotSetId = some row.id → job.state = .failed →
    (∀ name ∈ row.snapshots.values, system.world.aptly.publishes name = false) →
    system.world.Repeatable self author row := by
  intro claimed
  have cut : (Whole.service.runUnder Sample.runner
      (fun system label => system.alone label && System.uninterrupted label) Whole.cutShort).any
      (fun system => Repeat.hasFailed system &&
        decide (¬ ∀ name ∈ Repeat.stored.snapshots.values, name ∈ system.world.aptly.snapshots) &&
        decide (∀ name ∈ Repeat.stored.snapshots.values,
          system.world.aptly.publishes name = false)) = true := by
    decide
  obtain ⟨system, ran, facts⟩ := (Option.any_eq_true _ _).mp cut
  simp only [Repeat.hasFailed, Bool.and_eq_true, decide_eq_true_eq, Option.any_eq_true] at facts
  obtain ⟨⟨⟨⟨idle, stored⟩, job, found, discards, named, failed⟩, lacking⟩, unpublished⟩ := facts
  have repeatable : system.world.Repeatable Sample.runner "operator" Repeat.stored :=
    claimed Sample.runner Whole.service system Whole.cutShort "operator" Repeat.stored 1 job
      (by decide) (System.blank_fresh _ _) ran idle stored found discards named failed unpublished
  exact Repeat.not_repeatable_of_missing stored (fun held => lacking held.2) repeatable

end AptlyGui
