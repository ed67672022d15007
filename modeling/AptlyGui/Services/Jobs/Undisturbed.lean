import AptlyGui.Database.Commit
import AptlyGui.Library.Solo
import AptlyGui.Rules

/-!
# A job that nobody disturbs

What a job comes to when it runs alone and its surroundings do their part: the
database works, clients reach what is published, and aptly answers as `answers`
says.  What the job keeps in the step log is the same for every job; the rules
below leave to each job what it asks of aptly and what it stores besides.
-/

namespace AptlyGui

open Coroutine (Completes Ends Ensures Meets)

/-- What aptly may answer to a request, and what it may hold afterwards. -/
abbrev Answering := World → Request → Reply → Aptly → Bool

/-- The surroundings do their part. -/
def World.grants (answers : Answering) (world : World) : Op → Event → Bool
  | .aptly request, .reply body after => answers world request body after
  | .fetchRelease _ _, .checked check => check.ok
  | .aptly _, _ | .fetchRelease _ _, _ | .readCache, _ => false
  | _, .proceed => true
  | _, _ => false

def granting (answers : Answering) : Semantics Async World Event :=
  semantics.only fun world op event => world.grants answers op event

/-- The program can end, and however the surroundings choose, it ends as expected. -/
abbrev Goes {α : Type} (answers : Answering) (returned : α → World → Prop) (program : Program α)
    (world : World) : Prop :=
  Completes (granting answers) returned (fun _ _ => False) program world

/-- Nothing differs but the steps, the audit log and the position of the next step. -/
structure World.Alike (before after : World) : Prop where
  sessionBroken : after.sessionBroken = before.sessionBroken
  jobs : after.db.jobs = before.db.jobs
  mirrorSets : after.db.mirrorSets = before.db.mirrorSets
  snapshotSets : after.db.snapshotSets = before.db.snapshotSets
  aptly : after.aptly = before.aptly
  log : after.log = before.log
  clock : after.clock = before.clock

theorem World.Alike.of_steps (world : World) (steps : Table JobStep) :
    world.Alike { world with db := { world.db with steps := steps } } :=
  ⟨rfl, rfl, rfl, rfl, rfl, rfl, rfl⟩

/-- The job is stored and may commit, and its bookkeeping is of no consequence. -/
structure Steadfast (jobId : Nat) (holds : World → Prop) : Prop where
  whole : ∀ world, holds world → world.sessionBroken = false
  stored : ∀ world, holds world → (world.db.jobs.get? jobId).isSome = true
  alike : ∀ before after, holds before → before.Alike after → holds after

theorem Steadfast.withSteps {jobId : Nat} {holds : World → Prop} {world : World}
    (steady : Steadfast jobId holds) (held : holds world) (steps : Table JobStep) :
    holds { world with db := { world.db with steps := steps } } :=
  steady.alike _ _ held (.of_steps _ _)

/-- The step is stored, too. -/
def WithStep (step : Nat) (holds : World → Prop) (world : World) : Prop :=
  holds world ∧ (world.db.steps.get? step).isSome = true

namespace Undisturbed

variable {answers : Answering} {world : World}

/-! ## Operations -/

/-- The operation is the program's own affair: it goes on. -/
def proceeds : Op → Bool
  | .aptly _ | .fetchRelease _ _ | .readCache => false
  | _ => true

theorem grants_proceed {op : Op} {event : Event} (own : proceeds op = true) :
    world.grants answers op event = true ↔ event = .proceed := by
  constructor
  · intro granted
    cases op with
    | aptly request => cases own
    | fetchRelease publicUrl distribution => cases own
    | readCache => cases own
    | _ =>
        cases event with
        | proceed => rfl
        | _ => cases granted
  · rintro rfl
    cases op with
    | aptly request => cases own
    | fetchRelease publicUrl distribution => cases own
    | readCache => cases own
    | _ => rfl

theorem goes_op {op : Op} {returned : op.Ret → World → Prop}
    (answered : ∃ event outcome after, world.grants answers op event = true ∧
      op.perform event world = some (outcome, after))
    (good : ∀ event outcome after, world.grants answers op event = true →
      op.perform event world = some (outcome, after) →
      Meets returned (fun _ _ => False) outcome after) :
    Goes answers returned (perform op) world := by
  refine Coroutine.completes_perform ?_ fun event outcome after performed => ?_
  · obtain ⟨event, outcome, after, granted, performed⟩ := answered
    exact ⟨event, outcome, after, Semantics.perform_only.mpr ⟨granted, performed⟩⟩
  · obtain ⟨granted, performed⟩ := Semantics.perform_only.mp performed
    exact good event outcome after granted performed

theorem goes_proceed {op : Op} {value : op.Ret} {after : World} {returned : op.Ret → World → Prop}
    (own : proceeds op = true) (performed : op.perform .proceed world = some (.ok value, after))
    (holds : returned value after) : Goes answers returned (perform op) world := by
  apply goes_op
  · exact ⟨.proceed, .ok value, after, (grants_proceed own).mpr rfl, performed⟩
  · intro event outcome reached granted other
    rw [(grants_proceed own).mp granted] at other
    obtain ⟨rfl, rfl⟩ := Prod.mk.inj (Option.some.inj (performed.symm.trans other))
    exact holds

theorem goes_query {op : Op} {session : Session} {value : op.Ret}
    {returned : op.Ret → World → Prop} (whole : world.broken session = false)
    (own : proceeds op = true)
    (reads : op.perform .proceed world = world.query session value .proceed)
    (holds : returned value world) : Goes answers returned (perform op) world := by
  apply goes_proceed own ?_ holds
  rw [reads]
  simp only [World.query, whole, Bool.false_eq_true, if_false]

theorem goes_commit {writes : List Write} {db : Database} {inserted : Inserted}
    {returned : Inserted → World → Prop} (whole : world.sessionBroken = false)
    (committed : world.db.commit world.clock writes = .ok (db, inserted))
    (holds : returned inserted { world with db := db }) :
    Goes answers returned (commit .job writes) world := by
  have goes : (Op.commit .job writes).perform .proceed world =
      some (.ok inserted, { world with db := db }) := by
    change world.commit .job writes .proceed = _
    simp only [World.commit, World.broken, whole, committed, Bool.false_eq_true, if_false]
    rfl
  exact goes_proceed rfl goes holds

/-- Every answer of aptly is one that the client can read. -/
theorem ensures_aptly {request : Request} {returned : request.Ret → World → Prop}
    (read : ∀ body after, answers world request body after = true →
      ∃ value, request.parse body = .ok value ∧
        returned value (world.record request (.ok body) true after)) :
    Ensures (granting answers) returned (fun _ _ => False) (perform (.aptly request)) world := by
  intro outcome after ended
  obtain ⟨event, answered⟩ := Coroutine.ends_perform.mp ended
  obtain ⟨granted, performed⟩ := Semantics.perform_only.mp answered
  cases event with
  | reply body reached =>
      obtain ⟨value, parsed, holds⟩ := read body reached granted
      obtain ⟨rfl, rfl⟩ := Prod.mk.inj (Option.some.inj performed)
      rw [parsed]
      exact holds
  | _ => cases granted

theorem ends_aptly {request : Request} {body : Reply} {after : Aptly} {value : request.Ret}
    (granted : answers world request body after = true) (parsed : request.parse body = .ok value) :
    Ends (granting answers) (perform (.aptly request)) world (.ok value)
      (world.record request (.ok body) true after) := by
  refine Coroutine.ends_perform.mpr ⟨.reply body after, Semantics.perform_only.mpr ⟨granted, ?_⟩⟩
  change some (request.parse body, _) = _
  rw [parsed]
  rfl

/-- aptly has an answer, and every answer is one that the client can read. -/
theorem goes_aptly {request : Request} {returned : request.Ret → World → Prop}
    (answered : ∃ body after, answers world request body after = true)
    (read : ∀ body after, answers world request body after = true →
      ∃ value, request.parse body = .ok value ∧
        returned value (world.record request (.ok body) true after)) :
    Goes answers returned (perform (.aptly request)) world := by
  refine ⟨?_, ensures_aptly read⟩
  obtain ⟨body, after, granted⟩ := answered
  obtain ⟨value, parsed, -⟩ := read body after granted
  exact ⟨.ok value, _, ends_aptly granted parsed⟩

/-- A client that fetches a Release gets a signed one. -/
theorem goes_fetchRelease {publicUrl distribution : String} {holds : World → Prop}
    (held : holds world) :
    Goes answers (fun check after => check.ok = true ∧ holds after)
      (fetchRelease publicUrl distribution) world := by
  apply @goes_op answers world (.fetchRelease publicUrl distribution)
  · exact ⟨.checked ⟨"", some 200, true, none⟩, _, _, rfl, rfl⟩
  · intro event outcome after granted performed
    cases event with
    | checked check =>
        obtain ⟨rfl, rfl⟩ := Prod.mk.inj (Option.some.inj performed)
        exact ⟨granted, held⟩
    | _ => cases granted

/-! ## Steps -/

section Steps

variable {jobId step : Nat} {holds : World → Prop}

theorem addStep_goes (steady : Steadfast jobId holds) (held : holds world) (description : String) :
    Goes answers (fun step => WithStep step holds) (addStep jobId description) world := by
  have counted : Goes answers (fun _ => holds) advancePosition world := by
    have still : holds { world with nextPosition := world.nextPosition + 1 } :=
      steady.alike _ _ held ⟨rfl, rfl, rfl, rfl, rfl, rfl, rfl⟩
    exact @goes_proceed _ _ .nextPosition _ _ _ rfl rfl still
  refine counted.bind fun position before held => ?_
  apply Completes.bind (goes_commit (steady.whole _ held) (Database.commit_addStep _) ?_)
  · exact fun inserted _ kept => Coroutine.completes_done kept
  · exact ⟨steady.withSteps held _, by simp⟩

theorem setStep_goes (steady : Steadfast jobId holds) {change : Time → JobStep → JobStep}
    (held : WithStep step holds world) :
    Goes answers (fun _ => WithStep step holds) (commit .job [.setStep step change]) world := by
  apply goes_commit (steady.whole _ held.1) (Database.commit_setStep change held.2)
  refine ⟨steady.withSteps held.1 _, ?_⟩
  simpa using held.2

theorem finishStep_goes (steady : Steadfast jobId holds) {state : StepState} {output : String}
    (held : WithStep step holds world) :
    Goes answers (fun _ => holds) (finishStep step state output) world :=
  (setStep_goes steady held).bind fun _ _ kept => Coroutine.completes_done kept.1

end Steps

/-! ## Tasks -/

section Tasks

variable {self : JobRunner} {jobId step : Nat} {pending finished : World → Prop} {taskId : Int}

/-- How a task goes: it is `pending` until it is seen to have succeeded, and what it still has to
download fits on the disk. -/
structure Runs (answers : Answering) (margin : Margin) (jobId : Nat) (taskId : Int)
    (pending finished : World → Prop) : Prop where
  waits : Steadfast jobId pending
  rests : Steadfast jobId finished
  sees : ∀ world body after, pending world → answers world (.getTask taskId) body after = true →
    ∃ task, body = .task task ∧
      if task.state.finished then
        task.state = .succeeded ∧ finished (world.record (.getTask taskId) (.ok body) true after)
      else pending (world.record (.getTask taskId) (.ok body) true after)
  ends : ∀ world, pending world → ∃ task after, task.state = .succeeded ∧
    answers world (.getTask taskId) (.task task) after = true
  reads : ∀ world body after, finished world →
    answers world (.taskOutput taskId) body after = true →
    ∃ text, body = .output text ∧
      finished (world.record (.taskOutput taskId) (.ok body) true after)
  written : ∀ world, finished world →
    ∃ text after, answers world (.taskOutput taskId) (.output text) after = true
  measures : ∀ world body after, pending world →
    answers world (.taskProgress taskId) body after = true →
    ∃ progress, body = .progress progress ∧
      let reached := world.record (.taskProgress taskId) (.ok body) true after
      pending reached ∧ ∀ numbers ∈ progress, ∀ later, reached.Alike later →
        ∀ body after, answers later .storage body after = true →
          ∃ reading, body = .storage reading ∧
            (checkSpace reading margin (some (numbers.remainingBytes / (1024 * 1024)))).ok = true ∧
            pending (later.record .storage (.ok body) true after)

theorem guardDisk_ensures {numbers : TaskProgress} {later : World}
    (roomy : ∀ body after, answers later .storage body after = true →
      ∃ reading, body = .storage reading ∧
        (checkSpace reading self.margin (some (numbers.remainingBytes / (1024 * 1024)))).ok = true ∧
        pending (later.record .storage (.ok body) true after)) (held : WithStep step pending later) :
    Ensures (granting answers) (fun _ => WithStep step pending) (fun _ _ => False)
      (self.guardDisk numbers.remainingBytes) later := by
  have asked : Ensures (granting answers) (fun reading after =>
      (checkSpace reading self.margin (some (numbers.remainingBytes / (1024 * 1024)))).ok = true ∧
        WithStep step pending after) (fun _ _ => False) Client.storage later := by
    refine @ensures_aptly answers later .storage _ fun body after granted => ?_
    obtain ⟨reading, rfl, enough, kept⟩ := roomy body after granted
    exact ⟨reading, rfl, enough, kept, held.2⟩
  refine asked.bind ?_
  rintro reading after ⟨enough, kept⟩
  dsimp only
  rw [if_pos enough]
  exact Coroutine.ensures_done kept

variable (runs : Runs answers self.margin jobId taskId pending finished)

include runs

/-- However long the task takes, it is finished in the end. -/
theorem pollTask_ensures (polls : Nat) (reported : Bool) (held : WithStep step pending world) :
    Ensures (granting answers) (fun _ => WithStep step finished) (fun _ _ => False)
      (self.pollTask step taskId polls reported) world := by
  induction polls generalizing world reported with
  | zero => exact Coroutine.ensures_stalled
  | succ polls inductionHypothesis =>
      have seen : Ensures (granting answers) (fun task after =>
          if task.state.finished then task.state = .succeeded ∧ WithStep step finished after
          else WithStep step pending after) (fun _ _ => False) (Client.getTask taskId) world := by
        refine @ensures_aptly answers world (.getTask taskId) _ fun body after granted => ?_
        obtain ⟨task, rfl, state⟩ := runs.sees world body after held.1 granted
        refine ⟨task, rfl, ?_⟩
        split
        · rename_i settled
          rw [if_pos settled] at state
          exact ⟨state.1, state.2, held.2⟩
        · rename_i going
          rw [if_neg going] at state
          exact ⟨state, held.2⟩
      refine seen.bind fun task reached state => ?_
      by_cases settled : task.state.finished = true
      · rw [if_pos settled] at state ⊢
        obtain ⟨succeeded, held⟩ := state
        have read : Ensures (granting answers) (fun _ => WithStep step finished) (fun _ _ => False)
            (Client.taskOutput taskId) reached := by
          refine @ensures_aptly answers reached (.taskOutput taskId) _ fun body after granted => ?_
          obtain ⟨text, rfl, kept⟩ := runs.reads reached body after held.1 granted
          exact ⟨text, rfl, kept, held.2⟩
        refine read.bind fun output heard held => ?_
        rw [if_neg (by simp [succeeded])]
        split
        · exact (setStep_goes runs.rests held).ensures.bind fun _ _ kept =>
            Coroutine.ensures_done kept
        · exact Coroutine.ensures_done held
      · rw [if_neg settled] at state ⊢
        have measured : Ensures (granting answers) (fun progress after =>
            WithStep step pending after ∧ ∀ numbers ∈ progress, ∀ later, after.Alike later →
              ∀ body later', answers later .storage body later' = true →
                ∃ reading, body = .storage reading ∧
                  (checkSpace reading self.margin
                    (some (numbers.remainingBytes / (1024 * 1024)))).ok = true ∧
                  pending (later.record .storage (.ok body) true later')) (fun _ _ => False)
            (Client.taskProgress taskId) reached := by
          refine @ensures_aptly answers reached (.taskProgress taskId) _ fun body after granted => ?_
          obtain ⟨progress, rfl, kept, roomy⟩ := runs.measures reached body after state.1 granted
          exact ⟨progress, rfl, ⟨kept, state.2⟩, roomy⟩
        have slept : ∀ {world : World}, WithStep step pending world →
            Goes answers (fun _ => WithStep step pending) sleep world := fun held =>
          @goes_proceed _ _ .sleep _ _ _ rfl rfl held
        refine measured.bind ?_
        rintro progress known ⟨held, roomy⟩
        cases progress with
        | none =>
            exact (slept held).ensures.bind fun _ _ held => inductionHypothesis reported held
        | some numbers =>
            have noted : Goes answers (fun _ after => WithStep step pending after ∧
                known.Alike after) (commit .job [.setStep step fun _ row =>
                  { row with
                    totalBytes := some numbers.totalBytes
                    remainingBytes := some numbers.remainingBytes
                    totalPackages := some numbers.totalPackages
                    remainingPackages := some numbers.remainingPackages }]) known := by
              apply goes_commit (runs.waits.whole _ held.1) (Database.commit_setStep _ held.2)
              exact ⟨⟨runs.waits.withSteps held.1 _, by simpa using held.2⟩, .of_steps _ _⟩
            refine noted.ensures.bind ?_
            rintro _ stored ⟨held, alike⟩
            refine (guardDisk_ensures (roomy numbers rfl stored alike) held).bind
              fun _ guarded held => ?_
            exact (slept held).ensures.bind fun _ _ held => inductionHypothesis true held

/-- The task can be over at the first look. -/
theorem awaitTask_goes (patient : 0 < self.polls) (held : WithStep step pending world) :
    Goes answers (fun _ => WithStep step finished) (self.awaitTask step taskId) world := by
  refine ⟨?_, pollTask_ensures runs self.polls false held⟩
  obtain ⟨polls, enough⟩ := Nat.exists_eq_succ_of_ne_zero patient.ne'
  rw [JobRunner.awaitTask, enough]
  obtain ⟨task, seen, succeeded, granted⟩ := runs.ends world held.1
  obtain ⟨same, parsed, state⟩ := runs.sees world _ seen held.1 granted
  obtain rfl := Reply.task.inj parsed
  have settled : task.state.finished = true := by rw [succeeded]; rfl
  rw [if_pos settled] at state
  obtain ⟨text, read, written⟩ := runs.written _ state.2
  let known : World := world.record (.getTask taskId) (.ok (.task task)) true seen
  have looked := @ends_aptly answers world (.getTask taskId) (.task task) seen task granted rfl
  have heard := @ends_aptly answers known (.taskOutput taskId) (.output text) read text written rfl
  refine ⟨.ok text, known.record (.taskOutput taskId) (.ok (.output text)) true read, ?_⟩
  refine Coroutine.ends_bind_ok.mpr ⟨task, known, looked, ?_⟩
  rw [if_pos settled]
  refine Coroutine.ends_bind_ok.mpr ⟨text, _, heard, ?_⟩
  rw [if_neg (by simp [succeeded])]
  exact Coroutine.ends_done.mpr ⟨rfl, rfl⟩

theorem followTask_goes {name : String} {state : TaskState} (patient : 0 < self.polls)
    (held : WithStep step pending world) :
    Goes answers (fun _ => finished) (self.followTask step ⟨taskId, name, state⟩) world := by
  refine (setStep_goes runs.waits held).bind fun _ noted held => ?_
  refine (awaitTask_goes runs patient held).bind fun output waited held => ?_
  exact finishStep_goes runs.rests held

end Tasks

/-! ## The frame of a job -/

section Frame

variable {self : JobRunner} {jobId : Nat} {job : Job} {mirrorSet : MirrorSet}
  {start : World} {holds final : World → Prop}

/-- The frame of the job touches its own row, the step log and the audit log. -/
structure Beside (jobId : Nat) (before after : World) : Prop where
  jobs : ∀ id ≠ jobId, after.db.jobs.get? id = before.db.jobs.get? id
  mirrorSets : after.db.mirrorSets = before.db.mirrorSets
  snapshotSets : after.db.snapshotSets = before.db.snapshotSets
  aptly : after.aptly = before.aptly
  clock : after.clock = before.clock

/-- The job has SUCCEEDED, with its work done as `final` says. -/
def EndsWell (jobId : Nat) (final : World → Prop) (after : World) : Prop :=
  (∃ row, after.db.jobs.get? jobId = some row ∧ row.state = .succeeded) ∧
    ∃ before, final before ∧ Beside jobId before after

theorem settle_goes {loaded : Option MirrorSet} {error : Option String}
    (steady : Steadfast jobId final) (held : final world) :
    Goes answers (fun _ => EndsWell jobId final)
      (JobRunner.settle jobId job loaded .succeeded error) world := by
  obtain ⟨row, known⟩ := Option.isSome_iff_exists.mp (steady.stored _ held)
  refine Completes.bind (@goes_commit _ _ _ _ _ (fun _ => EndsWell jobId final)
    (steady.whole _ held) ((Database.commit_setJob _ _ (steady.stored _ held)).trans rfl) ?_)
    fun _ _ kept => Coroutine.completes_done kept
  refine ⟨⟨_, Table.get?_updated _ known, rfl⟩, world, held, fun id other => ?_, rfl, rfl, rfl, rfl⟩
  simp [other]

theorem supervise_goes {loaded : Option MirrorSet} {work : Program Unit}
    (steady : Steadfast jobId final) (working : Goes answers (fun _ => final) work world) :
    Goes answers (fun _ => EndsWell jobId final) (JobRunner.supervise jobId job loaded work)
      world := by
  have worked : Goes answers (fun outcome after => outcome = .ok () ∧ final after) work.attempt
      world := by
    apply Completes.attempt
    exact working.mono (fun _ _ held => ⟨rfl, held⟩) fun _ _ impossible => impossible.elim
  refine worked.bind ?_
  rintro _ after ⟨rfl, held⟩
  exact settle_goes steady held

/-- From the queue over the work to the end of a job that has a mirror set. -/
theorem runJob_goes (stored : world.db.jobs.get? jobId = some job)
    (names : job.mirrorSetId = some mirrorSet.id)
    (described : world.db.mirrorSets.get? mirrorSet.id = some mirrorSet)
    (steady : Steadfast jobId final)
    (works : ∀ after, after.sessionBroken = false → (after.db.jobs.get? jobId).isSome = true →
      Beside jobId world after →
      Goes answers (fun _ => final) (self.execute jobId job (some mirrorSet)) after) :
    Goes answers (fun _ => EndsWell jobId final) (self.runJob jobId) world := by
  let ready (after : World) : Prop :=
    after.sessionBroken = false ∧ after.db = world.db ∧ after.aptly = world.aptly ∧
      after.clock = world.clock
  have begun : Goes answers (fun _ => ready) (beginJob jobId) world :=
    @goes_proceed _ _ (.beginJob jobId) _ _ _ rfl rfl ⟨rfl, rfl, rfl, rfl⟩
  refine begun.bind fun _ begun held => ?_
  have loaded : Goes answers (fun found after => found = some job ∧ ready after) (getJob jobId)
      begun := by
    refine @goes_query _ _ (.getJob .job jobId) .job _ _ held.1 rfl rfl ⟨?_, held⟩
    rw [held.2.1]
    exact stored
  refine loaded.bind ?_
  rintro _ known ⟨rfl, held⟩
  dsimp only
  rw [names]
  have found : Goes answers (fun found after => found = some mirrorSet ∧ ready after)
      (getMirrorSet .job mirrorSet.id) known := by
    refine @goes_query _ _ (.getMirrorSet .job mirrorSet.id) .job _ _ held.1 rfl rfl ⟨?_, held⟩
    rw [held.2.1]
    exact described
  refine found.bind ?_
  rintro _ reached ⟨rfl, whole, db, aptly, clock⟩
  unfold JobRunner.runLoaded
  rw [if_neg (by simp)]
  have present : (reached.db.jobs.get? jobId).isSome = true := by
    rw [db, stored]
    rfl
  refine Completes.bind (@goes_commit _ _ _ _ _ (fun _ after => after.sessionBroken = false ∧
      (after.db.jobs.get? jobId).isSome = true ∧ Beside jobId world after) whole
    ((Database.commit_setJob _ _ present).trans rfl) ?_) ?_
  · refine ⟨whole, ?_, fun id other => ?_, ?_, ?_, aptly, clock⟩
    · simpa using present
    · simp [other, db]
    · change reached.db.mirrorSets = world.db.mirrorSets
      rw [db]
    · change reached.db.snapshotSets = world.db.snapshotSets
      rw [db]
  · rintro _ after ⟨whole, present, beside⟩
    exact supervise_goes steady (works after whole present beside)

end Frame

end Undisturbed

end AptlyGui
