import AptlyGui.Services.Jobs.Queue
import AptlyGui.Rules

/-!
# What holds of one job

A job is stored, waits while other jobs run and requests are served, runs, and
may be cut off by a restart.  A `Watch` says what holds all along, and under
which contract the worker's jobs then run.
-/

namespace AptlyGui

open Coroutine (Contract Safe Uses)

structure Watch (runner : JobRunner) (condition : System → Label → Prop) (jobId : Nat) where
  contract : Contract semantics
  /-- what holds in every state -/
  steady : World → Prop
  relies : ∀ {before after}, steady before → contract.rely before after → steady after
  guarantees : ∀ {before after}, steady before → contract.guarantee before after → steady after
  unmoved : ∀ {before after : World}, steady before → after.db = before.db →
    after.log = before.log → after.aptly = before.aptly →
    (after.currentJob = some jobId → before.currentJob = some jobId) → steady after
  recovers : ∀ {world}, steady world → steady world.recovered
  passes : ∀ {before after}, contract.rely before after → before.Others after
  external : ∀ {before after label}, (∀ request ∈ before.requests, request.Uses Op.forRequest) →
    condition before label → label.external → before.step runner label = some after →
    contract.rely before.world after.world
  allows : ∀ {system event op resume}, condition system (.work event) →
    system.worker = .running (.await op resume) → contract.allowed system.world op event
  others : ∀ {other op event before after outcome}, other ≠ jobId → op.ofJob other →
    before.currentJob ≠ some jobId → contract.allowed before op event →
    op.perform event before = some (outcome, after) → steady before →
    contract.guarantee before after
  runs : ∀ {world}, steady world → System.Unstarted world.db jobId →
    Safe contract (fun _ _ => True) (fun _ _ => True) (runner.runJob jobId) world

namespace Watch

variable {runner : JobRunner} {condition : System → Label → Prop} {jobId : Nat}
  {start later after : System}

/-- A job other than this one leaves it alone. -/
theorem safe_others (watch : Watch runner condition jobId) {other : Nat} {program : Program Unit}
    (uses : program.Uses (Op.ofJob other)) (different : other ≠ jobId) {world : World}
    (idle : world.currentJob ≠ some jobId) (steady : watch.steady world) :
    Safe watch.contract (fun _ _ => True) (fun _ _ => True) program world := by
  refine (Safe.of_uses (fun after => watch.steady after ∧ after.currentJob ≠ some jobId)
    uses ⟨steady, idle⟩ ?_ ?_).mono (fun _ _ _ => trivial) fun _ _ _ => trivial
  · rintro before after ⟨steady, idle⟩ passed
    exact ⟨watch.relies steady passed, by rw [(watch.passes passed).currentJob]; exact idle⟩
  · rintro op before outcome after own ⟨steady, idle⟩ ⟨event, permitted, performed⟩
    have kept := watch.others different own idle permitted performed steady
    exact ⟨kept, watch.guarantees steady kept, Op.idle_of_perform own different performed idle⟩

/-- The watch begins while the job waits. -/
def outline (watch : Watch runner condition jobId) (queued : start.Queued)
    (uses : ∀ request ∈ start.requests, request.Uses Op.forRequest)
    (waiting : jobId ∈ start.waiting) (entry : watch.steady start.world) :
    Outline runner condition start where
  contract := watch.contract
  always := watch.steady
  rest _ _ := True
  requests := uses
  entry := entry
  begins := by
    rw [HoldsAt]
    split
    · rename_i program running
      obtain ⟨other, idle, -, uses, current, -⟩ := queued.working program running
      have different : other ≠ jobId := by
        rintro rfl
        exact idle waiting
      have elsewhere : start.world.currentJob ≠ some jobId := by
        rcases current with none | own
        · simp [none]
        · simpa [own] using different
      intro later passed
      refine watch.safe_others uses different ?_ (watch.relies entry passed)
      rw [(watch.passes passed).currentJob]
      exact elsewhere
    · trivial
  relies := watch.relies
  guarantees := watch.guarantees
  unmoved steady db log aptly current := watch.unmoved steady db log aptly (current jobId)
  recovers := watch.recovers
  stays _ _ := trivial
  others reached permitted external stepped :=
    watch.external (reached.requests_use uses) permitted external stepped
  allows _ permitted running := watch.allows permitted running
  takes := by
    intro system other rest reached _ idle queue steady _ later passed
    have standing := reached.keeps_queued queued uses
    have present : other ∈ system.waiting := by simp [System.waiting, queue]
    have begun : watch.steady (system.world.take other rest) :=
      watch.unmoved steady rfl rfl rfl id
    have steady := watch.relies begun passed
    by_cases own : other = jobId
    · subst own
      exact watch.runs steady ((standing.unstarted other present).kept (watch.passes passed).db)
    · refine watch.safe_others (runner.runJob_uses other) own ?_ steady
      rw [(watch.passes passed).currentJob]
      change system.world.currentJob ≠ some jobId
      simp [standing.resting (by simp [idle])]
  crashes _ _ _ _ := trivial
  starts _ _ := trivial

/-- From a state in which the job waits, `steady` holds in every state. -/
theorem holds (watch : Watch runner condition jobId) (queued : start.Queued)
    (uses : ∀ request ∈ start.requests, request.Uses Op.forRequest)
    (waiting : jobId ∈ start.waiting) (entry : watch.steady start.world)
    (followed : System.Reachable runner condition start later) : watch.steady later.world :=
  ((watch.outline queued uses waiting entry).holds followed).always

/-- A step of the worker keeps to the guarantee. -/
theorem worked (watch : Watch runner condition jobId) (queued : start.Queued)
    (uses : ∀ request ∈ start.requests, request.Uses Op.forRequest)
    (waiting : jobId ∈ start.waiting) (entry : watch.steady start.world) {event : Event}
    (followed : System.Reachable runner condition start later)
    (permitted : condition later (.work event))
    (stepped : later.step runner (.work event) = some after) :
    ∃ world, watch.contract.guarantee later.world world ∧ after.world.db = world.db ∧
      after.world.aptly = world.aptly := by
  let outline := watch.outline queued uses waiting entry
  exact outline.guaranteed followed permitted stepped (outline.holds followed)

end Watch

/-! ## A running job -/

/-- The job's row is there, however far it has got. -/
def Database.Stores (db : Database) (jobId : Nat) (job : Job) : Prop :=
  ∃ row, db.jobs.get? jobId = some row ∧ row.type = job.type ∧ row.params = job.params

namespace Database.Stores

variable {before after : Database} {jobId : Nat} {job : Job}

theorem kept (stores : before.Stores jobId job) (kept : before.Kept after) :
    after.Stores jobId job := by
  obtain ⟨row, found, same⟩ := stores
  exact ⟨row, kept.jobs jobId row found, same⟩

theorem of_own (stores : before.Stores jobId job) (frame : before.JobFrame jobId after) :
    after.Stores jobId job := by
  obtain ⟨row, found, type, params⟩ := stores
  obtain ⟨changed, found, advanced⟩ := frame.own row found
  exact ⟨changed, found, advanced.1.trans type, advanced.2.1.trans params⟩

theorem of_other {other : Nat} (stores : before.Stores jobId job) (different : other ≠ jobId)
    (frame : before.JobFrame other after) : after.Stores jobId job := by
  rw [Stores, frame.others jobId different.symm]
  exact stores

theorem recovered {world : World} (stores : world.db.Stores jobId job) :
    world.recovered.db.Stores jobId job := by
  obtain ⟨row, found, type, params⟩ := stores
  have known := World.recovered_jobs world jobId
  rw [found, Option.map_some] at known
  refine ⟨_, known, ?_⟩
  split
  · exact ⟨type, params⟩
  · exact ⟨type, params⟩

end Database.Stores

/-- A restart leaves no job in the queue, and none that has just ended SUCCEEDED. -/
theorem World.recovered_unended {world : World} {jobId : Nat} {row : Job}
    (found : world.recovered.db.jobs.get? jobId = some row) :
    row.state ≠ .queued ∧ (row.state = .succeeded → ∃ old, world.db.jobs.get? jobId = some old ∧
      old.state = .succeeded) := by
  rw [World.recovered_jobs] at found
  obtain ⟨old, known, rfl⟩ := Option.map_eq_some_iff.mp found
  by_cases active : old.state = .running ∨ old.state = .queued
  · rw [if_pos active]
    refine ⟨fun queued => ?_, fun succeeded => ?_⟩
    · cases queued
    · cases succeeded
  · rw [if_neg active]
    exact ⟨fun queued => active (.inr queued), fun succeeded => ⟨old, known, succeeded⟩⟩

/-- Only the worker ends a job. -/
theorem System.succeeded_of_step {self : JobRunner} {before after : System} {label : Label}
    (uses : ∀ request ∈ before.requests, request.Uses Op.forRequest)
    (stepped : before.step self label = some after) (others : ∀ event, label ≠ .work event)
    {jobId : Nat} {row : Job} (found : after.world.db.jobs.get? jobId = some row)
    (succeeded : row.state = .succeeded) :
    ∃ old, before.world.db.jobs.get? jobId = some old ∧ old.state = .succeeded := by
  by_cases external : label.external = true
  · have passed := others_of_external uses external stepped
    rcases passed.db.newJobs jobId row found with kept | ⟨-, queued⟩
    · exact ⟨row, kept, succeeded⟩
    · rw [queued] at succeeded
      cases succeeded
  · cases label with
    | take =>
        obtain ⟨_, _, -, -, rfl⟩ := System.step_take stepped
        exact ⟨row, found, succeeded⟩
    | crash =>
        cases stepped
        exact ⟨row, found, succeeded⟩
    | start =>
        obtain ⟨-, rfl⟩ := System.step_start stepped
        exact (World.recovered_unended found).2 succeeded
    | work event => exact absurd rfl (others event)
    | arrive arrival => exact absurd rfl external
    | serve index event => exact absurd rfl external
    | drift reached => exact absurd rfl external
    | tick elapsed => exact absurd rfl external

/-- The job runs, and has not ended SUCCEEDED. -/
structure Begun (jobId : Nat) (job : Job) (world : World) : Prop where
  stored : world.db.Stores jobId job
  unended : ∀ row, world.db.jobs.get? jobId = some row → row.state ≠ .succeeded
  current : world.currentJob = some jobId

namespace Begun

variable {jobId : Nat} {job : Job} {world after : World}

theorem passed (begun : Begun jobId job world) (others : world.Others after) :
    Begun jobId job after := by
  obtain ⟨row, found, -⟩ := begun.stored
  have still := others.db.jobs jobId row found
  refine ⟨begun.stored.kept others.db, fun other same => ?_, others.currentJob.trans begun.current⟩
  rw [still] at same
  cases same
  exact begun.unended row found

theorem of_perform {op : Op} {event : Event} {outcome : Except Exn op.Ret} (own : op.ofJob jobId)
    (leaves : op.leavesOpen) (performed : op.perform event world = some (outcome, after))
    (begun : Begun jobId job world) : Begun jobId job after := by
  obtain ⟨rows, -, -⟩ := Op.jobFrame own performed
  exact ⟨begun.stored.of_own rows, Op.open_of_perform leaves performed begun.unended,
    Op.current_of_perform own performed begun.current⟩

/-- The first operation of a run. -/
theorem of_unstarted (stored : world.db.Stores jobId job)
    (unstarted : System.Unstarted world.db jobId) :
    Begun jobId job { world with
      currentJob := some jobId, nextPosition := 0, sessionBroken := false } := by
  refine ⟨stored, fun row found => ?_, rfl⟩
  obtain ⟨other, same, queued⟩ := unstarted
  obtain rfl := Option.some.inj (found.symm.trans same)
  simp [queued]

end Begun

/-- Until the job has ended it keeps `working`, and with that to the contract. -/
structure Works (contract : Contract semantics) (jobId : Nat) (job : Job) (working : World → Prop) :
    Prop where
  passes : ∀ {before after}, contract.rely before after → before.Others after
  passed : ∀ {before after}, Begun jobId job before → working before →
    contract.rely before after → working after
  unmoved : ∀ {before after : World}, working before → after.log = before.log →
    after.aptly = before.aptly → before.db.SameSets after.db → working after
  keeps : ∀ {before after}, Begun jobId job after → working after → contract.guarantee before after

/-- An operation around the job's work. -/
def Op.routine (jobId : Nat) (op : Op) : Prop :=
  op.ofJob jobId ∧ op.leavesOpen ∧ op.sparesSets ∧ op.asksAptly = false

theorem Op.routine_of_closes {jobId : Nat} {op : Op} (closes : op.closes jobId)
    (leaves : op.leavesOpen) : op.routine jobId := by
  refine ⟨Op.ofJob_of_closes closes, leaves, Op.sparesSets_of_closes closes, ?_⟩
  cases op with
  | aptly request => exact closes.elim
  | _ => rfl

namespace JobRunner

theorem settle_leavesOpen (jobId : Nat) (job : Job) (loaded : Option MirrorSet) {state : JobState}
    (error : Option String) (ended : state ≠ .succeeded) :
    (settle jobId job loaded state error).Uses Op.leavesOpen := by
  refine Uses.bind (uses_op ?_) fun _ => trivial
  simp [Op.leavesOpen, Write.leavesOpen, ended]

theorem failRunningSteps_leavesOpen (jobId : Nat) (error : String) :
    (failRunningSteps jobId error).Uses Op.leavesOpen := by
  refine Uses.bind (uses_op trivial) fun running => Uses.bind (uses_op ?_) fun _ => trivial
  simp [Op.leavesOpen, Write.leavesOpen]

end JobRunner

/-- The last commit changes the job's own row and leaves the sets, aptly and the log alone. -/
theorem safe_settle {contract : Contract semantics} {jobId : Nat} {job : Job}
    {loaded : Option MirrorSet} {state : JobState} {error : Option String} {world : World}
    (ended : state ≠ .queued)
    (kept : ∀ after, world.db.JobFrame jobId after.db → world.db.SameSets after.db →
      after.log = world.log → after.aptly = world.aptly → after.currentJob = world.currentJob →
      contract.guarantee world after) :
    Safe contract (fun _ _ => True) (fun _ _ => True)
      (JobRunner.settle jobId job loaded state error) world := by
  have uses := JobRunner.settle_uses jobId job loaded error ended
  refine Safe.bind (?_ : Safe contract (fun (_ : Inserted) _ => True) (fun _ _ => True) _ world)
    fun _ _ _ => trivial
  refine safe_op fun event outcome after _ performed => ⟨?_, fun _ _ => by cases outcome <;> trivial⟩
  obtain ⟨rows, -, -⟩ := Op.jobFrame (Op.ofJob_of_closes uses.1) performed
  have frame := Op.perform_frame performed
  exact kept after rows (Op.sameSets (Op.sparesSets_of_closes uses.1) performed) (frame.log rfl)
    (frame.aptly rfl) (frame.currentJob rfl)

/-- `going` lasts while the task is under way, and once aptly has called it succeeded `done` lasts
through the rest of the loop. -/
theorem safe_pollTask_lasting {contract : Contract semantics} {self : JobRunner}
    (going : World → Prop) {done failing : World → Prop} {step : Nat} {taskId : Int}
    (looks : ∀ {world}, going world → Safe contract
      (fun (task : Task) after => if task.state = .succeeded then done after else going after)
      (fun _ => failing) (Client.getTask taskId) world)
    (waits : ∀ {α : Type} {program : Program α} {world : World}, program.Uses Op.bookkeeping →
      going world → Safe contract (fun _ => going) (fun _ => failing) program world)
    (ends : ∀ {α : Type} {program : Program α} {world : World}, program.Uses Op.bookkeeping →
      done world → Safe contract (fun _ => done) (fun _ => failing) program world)
    (fails : ∀ {world}, going world → failing world)
    (polls : Nat) (reported : Bool) {world : World} (held : going world) :
    Safe contract (fun _ => done) (fun _ => failing) (self.pollTask step taskId polls reported)
      world := by
  apply safe_pollTask going
    (fun task after => if task.state = .succeeded then done after else going after) fun _ => going
  case looks =>
    intro world held
    refine (looks held).mono (fun task after seen => ?_) fun _ _ failed => failed
    split
    · exact seen
    · rename_i unfinished
      rwa [if_neg fun succeeded => unfinished (by rw [succeeded]; rfl)] at seen
  case reads =>
    intro task world seen
    by_cases succeeded : task.state = .succeeded
    · simp only [if_pos succeeded] at seen ⊢
      exact ends (uses_op rfl) seen
    · simp only [if_neg succeeded] at seen ⊢
      exact waits (uses_op rfl) seen
  case fails =>
    intro task output world failed seen
    rw [failed, if_neg (by decide)] at seen
    exact fails seen
  case succeeds =>
    intro task world succeeded seen
    rwa [if_pos succeeded] at seen
  case zeroes =>
    intro task world succeeded seen
    rw [if_pos succeeded] at seen
    exact (ends (uses_steps (by simp [Write.ofSteps])) seen).mono (fun _ _ held => held)
      fun _ _ failed => failed
  case asks => exact waits (uses_op rfl)
  case rests => exact fun held => held
  case notes => exact waits (uses_steps (by simp [Write.ofSteps]))
  case guards => exact waits (self.guardDisk_uses _)
  case sleeps => exact waits (uses_op trivial)
  case held => exact held

/-- The job's run, as far as it is routine: whatever happens meanwhile, `holds` stays. -/
structure Course (contract : Contract semantics) (jobId : Nat) (job : Job) (holds : World → Prop) :
    Prop where
  passes : ∀ {before after}, contract.rely before after → before.Others after
  passed : ∀ {before after}, Begun jobId job before → holds before →
    contract.rely before after → holds after
  routine : ∀ {op : Op} {event : Event} {before after : World} {outcome : Except Exn op.Ret},
    op.routine jobId → op.perform event before = some (outcome, after) →
    Begun jobId job after → holds before → contract.guarantee before after ∧ holds after

namespace Course

variable {contract : Contract semantics} {jobId : Nat} {job : Job} {holds : World → Prop}
  {self : JobRunner} {world : World} {α : Type}

theorem safe_routine (course : Course contract jobId job holds) {program : Program α}
    (uses : program.Uses (Op.routine jobId)) (begun : Begun jobId job world) (held : holds world) :
    Safe contract (fun _ after => Begun jobId job after ∧ holds after)
      (fun _ after => Begun jobId job after ∧ holds after) program world := by
  refine Safe.of_uses (fun after => Begun jobId job after ∧ holds after) uses ⟨begun, held⟩ ?_ ?_
  · rintro before after ⟨begun, held⟩ passed
    exact ⟨begun.passed (course.passes passed), course.passed begun held passed⟩
  · rintro op before outcome after routine ⟨begun, held⟩ ⟨event, -, performed⟩
    have still := begun.of_perform routine.1 routine.2.1 performed
    obtain ⟨kept, held⟩ := course.routine routine performed still held
    exact ⟨kept, still, held⟩

theorem safe_closes (course : Course contract jobId job holds) {program : Program α}
    (closes : program.Uses (Op.closes jobId)) (leaves : program.Uses Op.leavesOpen)
    (begun : Begun jobId job world) (held : holds world) :
    Safe contract (fun _ _ => True) (fun _ _ => True) program world :=
  (course.safe_routine ((closes.and leaves).mono fun _ uses => Op.routine_of_closes uses.1 uses.2)
    begun held).mono (fun _ _ _ => trivial) fun _ _ _ => trivial

/-- A read in the job's session. -/
theorem safe_read (course : Course contract jobId job holds) (op : Op) (value : World → op.Ret)
    (reads : ∀ event world, op.perform event world = world.query .job (value world) event)
    (routine : op.routine jobId) (begun : Begun jobId job world) (held : holds world) :
    Safe contract (fun found after => found = value world ∧ Begun jobId job after ∧ holds after)
      (fun _ _ => True) (perform op) world := by
  refine safe_op fun event outcome after permitted performed => ?_
  have still := begun.of_perform routine.1 routine.2.1 performed
  obtain ⟨kept, held⟩ := course.routine routine performed still held
  refine ⟨kept, fun later passed => ?_⟩
  rw [reads] at performed
  rcases Op.query_job performed with ⟨-, -, rfl, -⟩ | ⟨-, -, rfl, -⟩ | ⟨_, _, -, rfl, -⟩
  · exact ⟨rfl, still.passed (course.passes passed), course.passed still held passed⟩
  · trivial
  · trivial

/-- A job that fails, or is stopped, is closed without ending SUCCEEDED. -/
theorem safe_supervised (course : Course contract jobId job holds) {finished : World → Prop}
    {row : Job} {loaded : Option MirrorSet} {work : Program Unit}
    (working : Safe contract (fun _ => finished) (fun _ after => Begun jobId job after ∧ holds after)
      work world)
    (ends : ∀ {world}, finished world → Safe contract (fun _ _ => True) (fun _ _ => True)
      (JobRunner.settle jobId row loaded .succeeded row.error) world) :
    Safe contract (fun _ _ => True) (fun _ _ => True) (JobRunner.supervise jobId row loaded work)
      world := by
  refine safe_supervise finished (fun _ after => Begun jobId job after ∧ holds after) working
    (fun after done => ends done) ?_ ?_
  · rintro error after - ⟨begun, held⟩
    refine course.safe_closes (Uses.bind (JobRunner.failRunningSteps_uses jobId _).attempt ?_)
      (Uses.bind (JobRunner.failRunningSteps_leavesOpen jobId _).attempt ?_) begun held
    · exact fun recorded => Uses.bind (JobRunner.settle_uses jobId row loaded _ (by decide))
        fun _ => Coroutine.uses_ofExcept _
    · exact fun recorded => Uses.bind (JobRunner.settle_leavesOpen jobId row loaded _ (by decide))
        fun _ => Coroutine.uses_ofExcept _
  · rintro error after - ⟨begun, held⟩
    exact course.safe_closes
      (Uses.bind (JobRunner.settle_uses jobId row loaded _ (by decide)) fun _ => trivial)
      (Uses.bind (JobRunner.settle_leavesOpen jobId row loaded _ (by decide)) fun _ => trivial)
      begun held

/-- The commit that makes the job RUNNING. -/
theorem safe_started (course : Course contract jobId job holds) (steps : Nat)
    (begun : Begun jobId job world) (held : holds world) :
    Safe contract (fun _ after => Begun jobId job after ∧ holds after) (fun _ _ => True)
      (commit .job [.setJob jobId fun now row =>
        { row with state := .running, startedAt := some now, expectedSteps := some steps }]) world := by
  refine (course.safe_routine (uses_op ⟨?_, ?_, ?_, rfl⟩) begun held).mono
    (fun _ _ started => started) fun _ _ _ => trivial
  · simp [Op.ofJob, Write.ofJob, Job.Advances]
  · simp [Op.leavesOpen, Write.leavesOpen]
  · simp [Op.sparesSets, Write.sparesSets]

/-- A run is safe when its work is, and when it ends well once the work is done. -/
theorem safe_runLoaded (course : Course contract jobId job holds) {finished : World → Prop}
    {row : Job} {loaded : Option MirrorSet}
    (work : ∀ {world}, Begun jobId job world → holds world →
      Safe contract (fun _ => finished) (fun _ after => Begun jobId job after ∧ holds after)
        (self.execute jobId row loaded) world)
    (ends : ∀ {world}, finished world → Safe contract (fun _ _ => True) (fun _ _ => True)
      (JobRunner.settle jobId row loaded .succeeded row.error) world)
    (begun : Begun jobId job world) (held : holds world) :
    Safe contract (fun _ _ => True) (fun _ _ => True) (self.runLoaded jobId row loaded) world := by
  unfold JobRunner.runLoaded
  split
  · trivial
  · refine Safe.bind (course.safe_started _ begun held) ?_
    rintro _ after ⟨begun, held⟩
    exact course.safe_supervised (work begun held) ends

theorem safe_runJob (course : Course contract jobId job holds) {finished : World → Prop}
    (work : ∀ {row loaded world}, row.type = job.type → row.params = job.params →
      Begun jobId job world → holds world →
      Safe contract (fun _ => finished) (fun _ after => Begun jobId job after ∧ holds after)
        (self.execute jobId row loaded) world)
    (ends : ∀ {row loaded error world}, finished world →
      Safe contract (fun _ _ => True) (fun _ _ => True)
        (JobRunner.settle jobId row loaded .succeeded error) world)
    (begins : ∀ {after}, after = { world with
        currentJob := some jobId, nextPosition := 0, sessionBroken := false } →
      contract.guarantee world after ∧ Begun jobId job after ∧ holds after) :
    Safe contract (fun _ _ => True) (fun _ _ => True) (self.runJob jobId) world := by
  have beginning : Safe contract
      (fun (_ : Unit) after => Begun jobId job after ∧ holds after) (fun _ _ => True)
      (beginJob jobId) world := by
    apply safe_beginJob
    obtain ⟨kept, begun, held⟩ := begins rfl
    exact .ok kept fun later passed =>
      ⟨begun.passed (course.passes passed), course.passed begun held passed⟩
  refine Safe.bind beginning ?_
  rintro _ ready ⟨begun, held⟩
  have loads : ∀ {row loaded world}, row.type = job.type → row.params = job.params →
      Begun jobId job world → holds world →
      Safe contract (fun _ _ => True) (fun _ _ => True) (self.runLoaded jobId row loaded) world :=
    fun type params begun held => course.safe_runLoaded (work type params) ends begun held
  refine Safe.bind (course.safe_read (.getJob .job jobId) (fun world => world.db.jobs.get? jobId)
    (fun _ _ => rfl) ⟨trivial, trivial, trivial, rfl⟩ begun held) ?_
  rintro _ after ⟨rfl, still, held⟩
  obtain ⟨row, found, type, params⟩ := begun.stored
  simp only [found]
  split
  · exact loads type params still held
  · rename_i mirrorSetId named
    refine Safe.bind (course.safe_read (.getMirrorSet .job mirrorSetId)
      (fun world => world.db.mirrorSets.get? mirrorSetId) (fun _ _ => rfl)
      ⟨trivial, trivial, trivial, rfl⟩ still held) ?_
    rintro _ later ⟨-, still, held⟩
    exact loads type params still held

end Course

namespace Works

variable {contract : Contract semantics} {jobId : Nat} {job : Job} {working : World → Prop}
  {self : JobRunner} {world : World} {α : Type}

theorem course (works : Works contract jobId job working) : Course contract jobId job working where
  passes := works.passes
  passed := works.passed
  routine := by
    rintro op event before after outcome ⟨-, -, spares, quiet⟩ performed begun holds
    have frame := Op.perform_frame performed
    have holds := works.unmoved holds (frame.log quiet) (frame.aptly quiet)
      (Op.sameSets spares performed)
    exact ⟨works.keeps begun holds, holds⟩

/-- Operations that each keep `working` keep it together. -/
theorem safe_uses (works : Works contract jobId job working) {allowed : Op → Prop}
    {program : Program α} (uses : program.Uses allowed)
    (own : ∀ op, allowed op → op.ofJob jobId ∧ op.leavesOpen)
    (kept : ∀ op before outcome after, allowed op → Begun jobId job before → working before →
      contract.Commits before op outcome after → working after)
    (begun : Begun jobId job world) (holds : working world) :
    Safe contract (fun _ after => Begun jobId job after ∧ working after)
      (fun _ after => Begun jobId job after ∧ working after) program world := by
  refine Safe.of_uses (fun after => Begun jobId job after ∧ working after) uses ⟨begun, holds⟩ ?_ ?_
  · rintro before after ⟨begun, holds⟩ passed
    exact ⟨begun.passed (works.passes passed), works.passed begun holds passed⟩
  · rintro op before outcome after permitted ⟨begun, holds⟩ committed
    obtain ⟨event, -, performed⟩ := id committed
    have still := begun.of_perform (own op permitted).1 (own op permitted).2 performed
    have holds := kept op before outcome after permitted begun holds committed
    exact ⟨works.keeps still holds, still, holds⟩

theorem safe_runJob (works : Works contract jobId job working) {finished : World → Prop}
    (work : ∀ {row loaded world}, row.type = job.type → row.params = job.params →
      Begun jobId job world → working world →
      Safe contract (fun _ => finished) (fun _ after => Begun jobId job after ∧ working after)
        (self.execute jobId row loaded) world)
    (ends : ∀ {row loaded error world}, finished world →
      Safe contract (fun _ _ => True) (fun _ _ => True)
        (JobRunner.settle jobId row loaded .succeeded error) world)
    (begins : ∀ {after}, after = { world with
        currentJob := some jobId, nextPosition := 0, sessionBroken := false } →
      contract.guarantee world after ∧ Begun jobId job after ∧ working after) :
    Safe contract (fun _ _ => True) (fun _ _ => True) (self.runJob jobId) world :=
  works.course.safe_runJob work ends begins

end Works

end AptlyGui
