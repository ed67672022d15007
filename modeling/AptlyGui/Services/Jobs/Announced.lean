import AptlyGui.Services.Jobs.Alone
import AptlyGui.Services.Jobs.StepLog

/-!
# As many steps as announced

From the commit that starts a job, and with it announces how many steps there
will be, to the one that ends it, which closes the steps still open in the
commit that stores a failure.  In every state of the service the step log of
each job is as it should be.
-/

namespace AptlyGui

open Coroutine (Contract Safe)

namespace StepLog

variable {contract : Contract semantics} {given : Assignment} {heard : List Entry} {left : Nat}
  {closed : List StepState} {doing : Option Nat} {world after : World} {db : Database}

/-! ## The end of a job -/

section Epilogue

variable (terms : Terms contract given)

include terms

/-- A commit at the end of a job.  Nothing is stored any more once the session is broken. -/
theorem store_at {writes : List Write} (held : Over given world)
    (stored : world.sessionBroken = false → ∀ db inserted,
      world.db.commit world.clock writes = .ok (db, inserted) → Over given { world with db := db }) :
    Safe contract (fun _ => Over given) (fun _ => Over given) (commit .job writes) world := by
  have lost : Over given { world with sessionBroken := true } :=
    ⟨held.frame, held.logs, held.result⟩
  cases broken : world.sessionBroken with
  | true =>
      apply safe_op
      intro event outcome after _ performed
      obtain ⟨⟨error, rfl⟩, rfl⟩ := Op.perform_commit_broken broken performed
      exact .error (terms.keeps held) fun later passed => held.passed terms passed
  | false =>
      refine safe_commit ?_ ?_ ?_ ?_
      · intro db inserted _ _ committed
        have kept := stored broken db inserted committed
        exact .ok (terms.keeps kept) fun later passed => kept.passed terms passed
      · intro error _ _ _
        exact .error (terms.keeps lost) fun later passed => lost.passed terms passed
      · intro _ _
        exact .error (terms.keeps held) fun later passed => held.passed terms passed
      · intro applied reached _
        constructor
        · exact .error (terms.keeps lost) fun later passed => lost.passed terms passed
        · intro db inserted _ committed
          obtain ⟨frame, logs, result⟩ := stored broken db inserted committed
          have kept : Over given { world with db := db, sessionBroken := true } :=
            ⟨frame, logs, result⟩
          exact .error (terms.keeps kept) fun later passed => kept.passed terms passed

/-- The job's row says in the end what its steps allow. -/
theorem settle_at {job : Job} {loaded : Option MirrorSet} {state : JobState} {error : Option String}
    (held : Over given world)
    (allows : world.sessionBroken = false → ∀ row, world.db.jobs.get? given.jobId = some row →
      Logged { row with state := state } (world.db.stepsOf given.jobId) ∧
        (state = .succeeded → given.result world.log (statesOf given world))) :
    Safe contract (fun _ => Over given) (fun _ => Over given)
      (JobRunner.settle given.jobId job loaded state error) world := by
  refine Safe.bind (store_at terms held fun whole db inserted committed => ?_) fun _ _ held => held
  obtain ⟨jobs, steps, -, -⟩ := Database.writeAll_tables committed
  have same : ∀ id, db.stepsOf id = world.db.stepsOf id := by
    intro id
    rw [Database.stepsOf, steps]
    rfl
  have rows : ∀ id, db.jobs.get? id = if id = given.jobId then
      (world.db.jobs.get? given.jobId).map fun row => Keyed.withId given.jobId
        { row with state := state, error := error, finishedAt := some world.clock }
      else world.db.jobs.get? id := by
    intro id
    rw [jobs]
    exact Table.get?_update _ _ _ _
  refine ⟨terms.worked held.frame fun id other => ⟨?_, same id⟩, ⟨fun row found => ?_, fun absent => ?_⟩,
    fun row found succeeded => ?_⟩
  · rw [rows, if_neg other]
  · change db.jobs.get? given.jobId = some row at found
    rw [rows, if_pos rfl] at found
    obtain ⟨old, known, rfl⟩ := Option.map_eq_some_iff.mp found
    obtain ⟨logged, -⟩ := allows whole old known
    change Logged _ (db.stepsOf given.jobId)
    rw [same]
    exact ⟨logged.positions, logged.announced, logged.waits, logged.closed, logged.earlier,
      logged.passed⟩
  · change db.jobs.get? given.jobId = none at absent
    rw [rows, if_pos rfl] at absent
    change db.stepsOf given.jobId = []
    rw [same]
    exact held.logs.2 (Option.map_eq_none_iff.mp absent)
  · change db.jobs.get? given.jobId = some row at found
    rw [rows, if_pos rfl] at found
    obtain ⟨old, known, rfl⟩ := Option.map_eq_some_iff.mp found
    change given.result world.log ((db.stepsOf given.jobId).map JobStep.state)
    rw [same]
    exact (allows whole old known).2 succeeded

/-- The job has failed, unless its session can store nothing any more. -/
structure Failing (given : Assignment) (world : World) : Prop extends Over given world where
  failed : world.sessionBroken = true ∨
    ∃ row, world.db.jobs.get? given.jobId = some row ∧ row.state = .failed

omit terms in
/-- The states once the running steps are closed. -/
theorem logged_failed {row : Job} {olds steps : List JobStep} (failed : row.state = .failed)
    (announced : olds.length ≤ row.expectedSteps.getD 0)
    (positions : olds.map JobStep.position = List.range' 1 olds.length)
    (begun : ∀ state ∈ olds.map JobStep.state, state ≠ .pending)
    (earlier : ∀ state ∈ (olds.map JobStep.state).dropLast, state.passed = true)
    (closed : steps.map (fun step => (step.position, step.state)) =
      olds.map fun step => (step.position, if step.state = .running then .failed else step.state)) :
    Logged row steps := by
  have length : steps.length = olds.length := by simpa using congrArg List.length closed
  have places : steps.map JobStep.position = olds.map JobStep.position := by
    simpa [Function.comp_def] using congrArg (List.map Prod.fst) closed
  have states : steps.map JobStep.state = (olds.map JobStep.state).map fun state =>
      if state = .running then .failed else state := by
    simpa [Function.comp_def] using congrArg (List.map Prod.snd) closed
  refine ⟨?_, ?_, by simp [failed], fun _ state listed => ?_, fun _ state listed => ?_,
    by simp [failed]⟩
  · rw [places, length]
    exact positions
  · rw [length]
    exact announced
  · rw [states] at listed
    obtain ⟨old, among, rfl⟩ := List.mem_map.mp listed
    have known := begun old among
    cases old <;> simp_all [StepState.unfinished]
  · rw [states, ← List.map_dropLast] at listed
    obtain ⟨old, among, rfl⟩ := List.mem_map.mp listed
    have passed := earlier old among
    cases old <;> simp_all [StepState.passed]

theorem Failing.passed (failing : Failing given world) (passed : contract.rely world after) :
    Failing given after := by
  have others := terms.others passed
  refine ⟨failing.toOver.passed terms passed, failing.failed.imp (fun broken => ?_) ?_⟩
  · exact others.sessionBroken.trans broken
  · rintro ⟨row, found, failed⟩
    exact ⟨row, others.db.jobs _ row found, failed⟩

omit terms in
theorem Underway.broken (underway : Underway given world) :
    Failing given { world with sessionBroken := true } := by
  obtain ⟨frame, logs, result⟩ := underway.held
  exact ⟨⟨frame, logs, result⟩, .inl rfl⟩

/-- The commit that stores the failure also closes the steps that are still running. -/
theorem Underway.failing {change : Time → Job → Job} {ending : Time → JobStep → JobStep}
    {inserted : Inserted}
    (ends : ∀ now row, (change now row).state = .failed ∧
      (change now row).expectedSteps = row.expectedSteps)
    (same : ∀ now row, (ending now row).jobId = row.jobId ∧
      (ending now row).position = row.position ∧ (ending now row).state = .failed)
    (underway : Underway given world)
    (committed : world.db.commit world.clock (.setJob given.jobId change ::
      (world.db.steps.rows.filter fun row => row.jobId = given.jobId ∧ row.state = .running).map
        fun step => .setStep step.id ending) = .ok (db, inserted)) (broken : Bool) :
    Failing given { world with db := db, sessionBroken := broken } := by
  obtain ⟨row, found, -, announced⟩ := underway.job
  let running := world.db.steps.rows.filter fun row => row.jobId = given.jobId ∧ row.state = .running
  have recorded : ∀ step ∈ running, world.db.steps.get? step.id = some step := fun step listed =>
    Table.mem_rows_iff.mp (List.mem_of_mem_filter listed)
  have stored := (Database.commit_setJob change _ (Option.isSome_of_eq_some found)).trans
    (@Database.commit_setSteps
      { world.db with jobs := world.db.jobs.update given.jobId (change world.clock) } world.clock
      running ending fun step listed => Option.isSome_of_eq_some (recorded step listed))
  rw [stored] at committed
  cases committed
  have closed := @Database.rows_close_running given.jobId world.db.steps _ (ending world.clock)
    (fun row => (row.position, row.state)) (fun shown => (shown.1, .failed))
    (fun row => (same _ row).1) (fun _ row => Prod.ext (same _ row).2.1 (same _ row).2.2) fun _ => rfl
  have foreign : ∀ id, id ≠ given.jobId → ∀ step ∈ running, ∀ row,
      world.db.steps.get? step.id = some row → row.jobId ≠ id := by
    intro id other step listed row known
    rw [recorded step listed] at known
    cases known
    have owner := (List.mem_filter.mp listed).2
    simp only [decide_eq_true_eq] at owner
    rw [owner.1]
    exact Ne.symm other
  have known : (world.db.jobs.update given.jobId (change world.clock)).get? given.jobId =
      some (Keyed.withId given.jobId (change world.clock row)) := by
    rw [Table.get?_update, if_pos rfl, found]
    rfl
  have failed : (Keyed.withId given.jobId (change world.clock row)).state = .failed :=
    (ends world.clock row).1
  refine ⟨⟨?_, ⟨fun ended same => ?_, fun absent => ?_⟩, fun ended same succeeded => ?_⟩, .inr ?_⟩
  · apply terms.worked underway.frame
    intro id other
    refine ⟨?_, Database.rows_foldl_update_other (fun row => (same _ row).1) running (foreign id other)⟩
    rw [Table.get?_update, if_neg other]
  · rw [known] at same
    cases same
    apply logged_failed failed ?_ underway.positions underway.begun underway.earlier
    · rw [Database.stepsOf, closed]
      refine List.map_congr_left fun row _ => ?_
      by_cases open' : row.state = .running
      · simp [open']
      · simp [open']
    · change _ ≤ (change world.clock row).expectedSteps.getD 0
      rw [(ends world.clock row).2]
      exact announced
  · rw [known] at absent
    cases absent
  · rw [known] at same
    cases same
    rw [failed] at succeeded
    cases succeeded
  · exact ⟨_, known, failed⟩

theorem closeRunning_at {change : Time → Job → Job} {ending : Time → JobStep → JobStep}
    (ends : ∀ now row, (change now row).state = .failed ∧
      (change now row).expectedSteps = row.expectedSteps)
    (same : ∀ now row, (ending now row).jobId = row.jobId ∧
      (ending now row).position = row.position ∧ (ending now row).state = .failed)
    (underway : Underway given world) :
    Safe contract (fun _ => Failing given) (fun _ => Failing given)
      (commit .job (.setJob given.jobId change ::
        (world.db.steps.rows.filter fun row => row.jobId = given.jobId ∧ row.state = .running).map
          fun step => .setStep step.id ending)) world := by
  refine safe_commit ?_ ?_ ?_ ?_
  · intro db inserted _ _ committed
    have failing := underway.failing terms ends same committed world.sessionBroken
    exact .ok (terms.keeps failing.toOver) fun later passed => failing.passed terms passed
  · intro _ _ _ _
    have failing := underway.broken
    exact .error (terms.keeps failing.toOver) fun later passed => failing.passed terms passed
  · intro _ lost
    have failing : Failing given world := ⟨underway.held, .inl lost⟩
    exact .error (terms.keeps failing.toOver) fun later passed => failing.passed terms passed
  · intro _ _ _
    constructor
    · have failing := underway.broken
      exact .error (terms.keeps failing.toOver) fun later passed => failing.passed terms passed
    · intro db inserted _ committed
      have failing := underway.failing terms ends same committed true
      exact .error (terms.keeps failing.toOver) fun later passed => failing.passed terms passed

theorem failRunningSteps_at {error : String} (underway : Underway given world) :
    Safe contract (fun _ => Failing given) (fun _ => Failing given)
      (failRunningSteps given.jobId error) world := by
  have asked : Safe contract (fun (running : List JobStep) after => Underway given after ∧
      running = after.db.steps.rows.filter fun row =>
        row.jobId = given.jobId ∧ row.state = .running) (fun _ => Failing given)
      (runningSteps given.jobId) world := by
    apply safe_query (.runningSteps given.jobId) (fun world => world.db.steps.rows.filter fun row =>
      row.jobId = given.jobId ∧ row.state = .running) (fun _ => rfl)
    · intro _ _
      refine .ok (terms.keeps underway.held) fun later passed => ⟨underway.passed terms passed, ?_⟩
      rw [(terms.others passed).db.steps]
    · intro _ lost
      have failing : Failing given world := ⟨underway.held, .inl lost⟩
      exact .error (terms.keeps underway.held) fun later passed => failing.passed terms passed
    · intro applied reached _
      have failing := underway.broken
      exact .error (terms.keeps failing.toOver) fun later passed => failing.passed terms passed
  refine Safe.bind asked ?_
  rintro running before ⟨underway, rfl⟩
  refine Safe.bind (closeRunning_at terms ?_ ?_ underway) fun _ _ failing => failing
  · exact fun _ _ => ⟨rfl, rfl⟩
  · exact fun _ _ => ⟨rfl, rfl, rfl⟩

/-- Around a job's work, whichever way it ends. -/
theorem supervise_at {job : Job} {loaded : Option MirrorSet} {work : Program Unit}
    (ends : ∀ log closed, Outcome given.jobId job loaded log closed → given.result log closed)
    (working : Safe contract
      (fun _ after => ∃ heard closed, Going given heard 0 closed none after ∧
        Outcome given.jobId job loaded heard closed) (fun _ => Underway given) work world) :
    Safe contract (fun _ => Over given) (fun _ => Over given)
      (JobRunner.supervise given.jobId job loaded work) world := by
  refine safe_supervise (fun after => ∃ heard closed, Going given heard 0 closed none after ∧
    Outcome given.jobId job loaded heard closed) (fun _ => Underway given) working ?_ ?_ ?_
  · rintro after ⟨heard, closed, going, outcome⟩
    apply settle_at terms going.underway.held
    intro _ row found
    obtain ⟨known, same, -, announced⟩ := going.job
    rw [found] at same
    cases same
    have states : (after.db.stepsOf given.jobId).map JobStep.state = closed := by
      simpa [statesOf] using going.states
    refine ⟨⟨going.underway.positions, ?_, by simp, fun _ state listed => ?_, fun _ state listed => ?_,
      fun _ => ⟨fun state listed => ?_, ?_⟩⟩, fun _ => ?_⟩
    · rw [going.length]
      simp [announced]
    · rw [states] at listed
      exact (StepState.passed_spec (going.clean state listed)).1
    · rw [states] at listed
      exact (StepState.passed_spec (going.clean state (List.dropLast_subset _ listed))).2.1
    · rw [states] at listed
      exact going.clean state listed
    · rw [going.length]
      exact announced
    · rw [statesOf, states]
      exact ends _ _ (outcome.mono going.heard)
  · intro error after _ underway
    have failed : Safe contract (fun _ => Failing given) (fun _ => Failing given)
        (failRunningSteps given.jobId error.text) after := failRunningSteps_at terms underway
    have settled : ∀ recorded : Except Exn Unit, ∀ after, Failing given after →
        Safe contract (fun _ => Over given) (fun _ => Over given)
          (do
            JobRunner.settle given.jobId job loaded .failed (some error.text)
            Coroutine.ofExcept recorded) after := by
      intro recorded after failing
      refine Safe.bind (settle_at terms failing.toOver fun whole row found => ?_) fun _ _ held => ?_
      · rcases failing.failed with broken | ⟨other, known, failed⟩
        · rw [whole] at broken
          cases broken
        · rw [found] at known
          cases known
          have logged := failing.logs.1 row found
          rw [← failed]
          exact ⟨logged, fun succeeded => failing.result row found succeeded⟩
      · cases recorded with
        | ok value => exact held
        | error error => exact held
    refine Coroutine.safe_bind.mpr (Coroutine.safe_attempt.mpr ?_)
    exact failed.mono (fun _ after failing => settled _ after failing)
      fun _ after failing => settled _ after failing
  · intro error after _ underway
    refine Safe.bind (settle_at terms underway.held fun _ row found => ?_) fun _ _ held => held
    obtain ⟨other, known, running, -⟩ := underway.job
    rw [found] at known
    cases known
    rw [← running]
    exact ⟨underway.held.logs.1 row found, fun succeeded => underway.held.result row found succeeded⟩

/-! ## The start of a job -/

omit terms in
/-- The job is still in the queue, and has no steps. -/
structure Ready (given : Assignment) (world : World) : Prop where
  frame : given.frame world.db
  origin : given.origin world.db
  steps : world.db.stepsOf given.jobId = []
  job : ∃ row, world.db.jobs.get? given.jobId = some row ∧ row.state = .queued

omit terms in
/-- The worker has turned to the job. -/
structure Begun (given : Assignment) (world : World) : Prop extends Ready given world where
  current : world.currentJob = some given.jobId
  whole : world.sessionBroken = false
  counted : world.nextPosition = 0

omit terms in
theorem Ready.held (ready : Ready given world) : Over given world := by
  obtain ⟨row, found, queued⟩ := ready.job
  refine ⟨ready.frame, ⟨fun other known => ?_, fun _ => ready.steps⟩, fun other known succeeded => ?_⟩
  · rw [found] at known
    cases known
    rw [ready.steps]
    apply Logged.blank
    simp [queued]
  · rw [found] at known
    cases known
    rw [queued] at succeeded
    cases succeeded

theorem Ready.passed (ready : Ready given world) (passed : contract.rely world after) :
    Ready given after := by
  have kept := (terms.others passed).db
  obtain ⟨row, found, queued⟩ := ready.job
  refine ⟨terms.passed ready.frame passed, terms.stays ready.origin passed, ?_,
    ⟨row, kept.jobs _ row found, queued⟩⟩
  rw [Database.stepsOf, kept.steps]
  exact ready.steps

theorem Begun.passed (begun : Begun given world) (passed : contract.rely world after) :
    Begun given after := by
  have others := terms.others passed
  exact ⟨begun.toReady.passed terms passed, others.currentJob.trans begun.current,
    others.sessionBroken.trans begun.whole, others.nextPosition.trans begun.counted⟩

/-- The number of steps is announced in the commit that starts the job. -/
theorem runLoaded_at {self : JobRunner} {job : Job} {loaded : Option MirrorSet}
    (ends : ∀ log closed, Outcome given.jobId job loaded log closed → given.result log closed)
    (begun : Begun given world) :
    Safe contract (fun _ => Over given) (fun _ => Over given)
      (self.runLoaded given.jobId job loaded) world := by
  unfold JobRunner.runLoaded
  split
  · exact begun.held
  · obtain ⟨row, found, -⟩ := begun.job
    have started : ∀ db inserted, world.db.commit world.clock [.setJob given.jobId fun now row =>
        { row with
          state := .running
          startedAt := some now
          expectedSteps := some (JobRunner.announcedSteps job loaded) }] = .ok (db, inserted) →
        Going given [] (JobRunner.announcedSteps job loaded) [] none { world with db := db } := by
      intro db inserted committed
      rw [Database.commit_setJob _ _ (Option.isSome_of_eq_some found)] at committed
      cases committed
      refine ⟨⟨begun.current, begun.whole, by simp, ?_, ?_, ?_, ?_, by simp, nofun⟩, begun.counted⟩
      · apply terms.worked begun.frame
        intro id other
        refine ⟨?_, rfl⟩
        rw [Table.get?_update, if_neg other]
      · simp only [Table.get?_update, found, Option.map_some]
        exact ⟨_, rfl, rfl, by simp [Keyed.withId]⟩
      · exact congrArg (List.map JobStep.position) begun.steps
      · exact congrArg (List.map JobStep.state) begun.steps
    have lost : Over given { world with sessionBroken := true } :=
      ⟨begun.held.frame, begun.held.logs, begun.held.result⟩
    have starting : Safe contract (fun (_ : Inserted) =>
        Going given [] (JobRunner.announcedSteps job loaded) [] none) (fun _ => Over given)
        (commit .job [.setJob given.jobId fun now row =>
          { row with
            state := .running
            startedAt := some now
            expectedSteps := some (JobRunner.announcedSteps job loaded) }]) world := by
      refine safe_commit ?_ ?_ ?_ ?_
      · intro db inserted _ _ committed
        have going := started db inserted committed
        exact .ok (terms.keeps going.underway.held) fun later passed => going.passed terms passed
      · intro error _ _ _
        exact .error (terms.keeps lost) fun later passed => lost.passed terms passed
      · intro _ broken
        rw [begun.whole] at broken
        cases broken
      · intro applied reached _
        constructor
        · exact .error (terms.keeps lost) fun later passed => lost.passed terms passed
        · intro db inserted _ committed
          have kept : Underway given { world with db := db, sessionBroken := true } :=
            (started db inserted committed).underway.moved rfl
          exact .error (terms.keeps kept.held) fun later passed => kept.held.passed terms passed
    exact Safe.bind starting fun _ after going => supervise_at terms ends (execute_at terms going)

/-- A job from the queue to its end. -/
theorem runJob_at {self : JobRunner} (ready : Ready given world) :
    Safe contract (fun _ => Over given) (fun _ => Over given) (self.runJob given.jobId) world := by
  have begins : Safe contract (fun (_ : Unit) => Begun given) (fun _ => Over given)
      (beginJob given.jobId) world := by
    apply safe_op
    intro event outcome after _ performed
    cases event <;> cases performed
    have begun : Begun given { world with
        currentJob := some given.jobId, nextPosition := 0, sessionBroken := false } :=
      ⟨⟨ready.frame, ready.origin, ready.steps, ready.job⟩, rfl, rfl, rfl⟩
    exact .ok (terms.keeps begun.held) fun later passed => begun.passed terms passed
  have reads : ∀ {before : World} (op : Op) (value : op.Ret), Begun given before →
      (∀ event, op.perform event before = before.query .job value event) →
      Safe contract (fun found after => found = value ∧ Begun given after) (fun _ => Over given)
        (perform op) before := by
    intro before op value begun asked
    have lost : Over given { before with sessionBroken := true } :=
      ⟨begun.held.frame, begun.held.logs, begun.held.result⟩
    refine safe_query op (fun _ => value) asked ?_ ?_ ?_
    · intro _ _
      exact .ok (terms.keeps begun.held) fun later passed => ⟨rfl, begun.passed terms passed⟩
    · intro _ _
      exact .error (terms.keeps begun.held) fun later passed => begun.held.passed terms passed
    · intro _ _ _
      exact .error (terms.keeps lost) fun later passed => lost.passed terms passed
  refine Safe.bind begins fun _ before begun => ?_
  refine Safe.bind (reads (.getJob .job given.jobId) _ begun fun _ => rfl) ?_
  rintro _ middle ⟨rfl, begun'⟩
  obtain ⟨job, found, -⟩ := begun.job
  rw [found]
  cases named : job.mirrorSetId with
  | none =>
      simp only [named]
      apply runLoaded_at terms _ begun'
      intro log closed outcome
      exact terms.ends begun.origin found begun.origin (by simp [Job.mirrorSetIn, named]) outcome
  | some id =>
      simp only [named]
      refine Safe.bind (reads (.getMirrorSet .job id) _ begun' fun _ => rfl) ?_
      rintro _ last ⟨rfl, begun''⟩
      apply runLoaded_at terms _ begun''
      intro log closed outcome
      exact terms.ends begun.origin found begun'.origin (by simp [Job.mirrorSetIn, named]) outcome

end Epilogue

/-! ## The service -/

end StepLog

namespace Announcing

open StepLog (Assignment Terms Over Ready runJob_at)

/-- The step log of every job is as it should be after each operation of a job. -/
def contract : Contract semantics where
  allowed _ _ _ := True
  rely := World.Others
  guarantee _ after := ∀ jobId, after.db.Logs jobId
  rely_refl := World.Others.refl
  rely_trans := World.Others.trans

def assignment (jobId : Nat) : Assignment where
  jobId := jobId
  frame db := ∀ id, id ≠ jobId → db.Logs id
  origin _ := True
  result _ _ := True

theorem terms (jobId : Nat) : Terms contract (assignment jobId) where
  others passed := passed
  keeps held := by
    intro id
    by_cases own : id = jobId
    · rw [own]
      exact held.logs
    · exact held.frame id own
  passed framed passed := fun id other => (framed id other).kept passed.db
  worked framed same := fun id other => (framed id other).of_same (same id other).1 (same id other).2
  stays _ _ := trivial
  ends _ _ _ _ _ := trivial

variable {self : JobRunner} {start system : System}

def outline (fresh : start.Fresh) (logs : ∀ jobId, start.world.db.Logs jobId) :
    Outline self (fun _ _ => True) start where
  contract := contract
  always world := ∀ jobId, world.db.Logs jobId
  rest _ _ := True
  requests := fresh.requests_use
  entry := logs
  begins := .fresh fresh trivial
  relies logs passed := fun jobId => (logs jobId).kept passed.db
  guarantees _ logs := logs
  unmoved logs same _ _ _ := by
    rw [same]
    exact logs
  recovers logs := fun jobId => (logs jobId).recovered
  stays _ _ := trivial
  others reached _ external stepped :=
    System.others_of_external (reached.requests_use fresh.requests_use) external stepped
  allows _ _ _ := trivial
  takes := by
    intro system jobId waiting reached _ idle queued logs _ later passed
    obtain ⟨job, found, unstarted⟩ :=
      (reached.queued fresh).unstarted jobId (by simp [System.waiting, queued])
    have ready : Ready (assignment jobId) (system.world.take jobId waiting) :=
      ⟨fun id _ => logs id, trivial, ((logs jobId).1 job found).waits unstarted, job, found, unstarted⟩
    have runs : Safe contract (fun _ => Over (assignment jobId)) (fun _ => Over (assignment jobId))
        (self.runJob jobId) later := runJob_at (terms jobId) (ready.passed (terms jobId) passed)
    exact runs.mono (fun _ _ _ => trivial) fun _ _ _ => trivial
  crashes _ _ _ _ := trivial
  starts _ _ := trivial

end Announcing

/-- The steps of a job number no more than it announced; once it has succeeded or failed they are
numbered without gaps, all closed, and only the last may have failed; once it has succeeded each of
them has gone well or was skipped, and there are as many as announced. -/
theorem step_log_well_formed {self : JobRunner} {start system : System} (fresh : start.Fresh)
    (noJobs : start.world.db.jobs = .empty) (noSteps : start.world.db.steps = .empty)
    (reached : System.Reachable self (fun _ _ => True) start system) (jobId : Nat) (row : Job)
    (found : system.world.db.jobs.get? jobId = some row) :
    (system.world.db.stepsOf jobId).length ≤ row.expectedSteps.getD 0 ∧
      (row.state = .succeeded ∨ row.state = .failed →
        (system.world.db.stepsOf jobId).map JobStep.position =
            List.range' 1 (system.world.db.stepsOf jobId).length ∧
          (∀ step ∈ system.world.db.stepsOf jobId, step.state ≠ .running ∧ step.state ≠ .pending) ∧
          ∀ step ∈ (system.world.db.stepsOf jobId).dropLast, step.state ≠ .failed) ∧
      (row.state = .succeeded →
        (∀ step ∈ system.world.db.stepsOf jobId, step.state = .succeeded ∨ step.state = .skipped) ∧
          row.expectedSteps = some (system.world.db.stepsOf jobId).length) := by
  have blank : ∀ jobId, start.world.db.Logs jobId := by
    intro jobId
    constructor
    · intro row found
      rw [noJobs, Table.get?_empty] at found
      cases found
    · intro _
      rw [Database.stepsOf, noSteps]
      rfl
  have logged := ((Announcing.outline fresh blank).holds reached).always jobId
  obtain ⟨positions, announced, -, closed, earlier, passed⟩ := logged.1 row found
  refine ⟨announced, fun ended => ⟨positions, fun step listed => ?_, fun step listed => ?_⟩,
    fun succeeded => ⟨fun step listed => ?_, (passed succeeded).2⟩⟩
  · have finished := closed ended step.state (List.mem_map_of_mem listed)
    constructor
    · intro running
      rw [running] at finished
      cases finished
    · intro pending
      rw [pending] at finished
      cases finished
  · apply earlier ended
    rw [← List.map_dropLast]
    exact List.mem_map_of_mem listed
  · have well := (passed succeeded).1 step.state (List.mem_map_of_mem listed)
    cases state : step.state <;> simp_all [StepState.passed]

/-- The update of four mirrors has nine steps. -/
theorem step_log_well_formed_wide : ∃ system,
    Sample.wideService.runUnder Sample.runner (fun _ _ => true) (Sample.synced Sample.wideUpdated) =
      some system ∧
    (system.world.db.jobs.get? 1).any (fun row => decide (row.state = .succeeded)) = true ∧
    (system.world.db.stepsOf 1).length = 9 ∧
    ∀ row, system.world.db.jobs.get? 1 = some row →
      (system.world.db.stepsOf 1).map JobStep.position = List.range' 1 9 ∧
        row.expectedSteps = some 9 := by
  have runs : (Sample.wideService.runUnder Sample.runner (fun _ _ => true)
      (Sample.synced Sample.wideUpdated)).any (fun system =>
        (system.world.db.jobs.get? 1).any (fun row => decide (row.state = .succeeded)) &&
          decide ((system.world.db.stepsOf 1).length = 9)) = true := by
    decide +kernel
  obtain ⟨system, ran, runs⟩ := (Option.any_eq_true _ _).mp runs
  simp only [Bool.and_eq_true, decide_eq_true_eq] at runs
  obtain ⟨ended, nine⟩ := runs
  refine ⟨system, ran, ended, nine, fun row found => ?_⟩
  have reached : System.Reachable Sample.runner (fun _ _ => True) Sample.wideService system :=
    (System.Reachable.of_runUnder ran).mono fun _ _ _ => trivial
  have logged := step_log_well_formed (System.blank_fresh _ _) rfl rfl reached 1 row found
  rw [found] at ended
  have succeeded : row.state = .succeeded := by simpa using ended
  rw [nine] at logged
  exact ⟨(logged.2.1 (.inl succeeded)).1, (logged.2.2 succeeded).2⟩

end AptlyGui
