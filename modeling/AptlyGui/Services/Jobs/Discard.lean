import AptlyGui.Services.Jobs.Watch

/-!
# What a discard leaves behind

A DISCARD job deletes the names it was given when it was asked for, then the
snapshot set, whatever that records by then.  Nothing is orphaned as long as
the list has every name the set records.
-/

namespace AptlyGui

open Coroutine (Contract Safe Uses)

/-- The job's list has every name recorded in the snapshot set that the job names. -/
def Job.covers (job : Job) (db : Database) : Bool :=
  (job.targetIn db).all fun row =>
    row.snapshots.values.all fun name => decide (name ∈ job.params.snapshots.getD [])

theorem Job.covers_congr {first second : Job} (same : first.params = second.params)
    (db : Database) : first.covers db = second.covers db := by
  simp only [covers, targetIn, same]

theorem Job.covers_of_sets {job : Job} {before after : Database} (covered : job.covers before = true)
    (kept : ∀ id row, after.snapshotSets.get? id = some row →
      before.snapshotSets.get? id = some row) : job.covers after = true := by
  simp only [covers, targetIn, Option.all_eq_true, Option.bind_eq_some_iff] at covered ⊢
  rintro row ⟨id, named, found⟩
  exact covered row ⟨id, named, kept id row found⟩

/-- The commit does not leave the job in the queue with a list that lacks a recorded name. -/
def World.keepsCovered (jobId : Nat) (world : World) (op : Op) (_ : Event) : Bool :=
  (world.stored op).all fun after =>
    (after.jobs.get? jobId).all fun job => decide (job.state ≠ .queued) || job.covers after

/-- aptly has answered the job's request to delete the snapshot. -/
def DeletedBy (jobId : Nat) (world : World) (name : String) : Prop :=
  ∃ entry ∈ world.log, entry.job = some jobId ∧ entry.request = .deleteSnapshot name ∧
    entry.carriedOut = true ∧ ∃ body, entry.outcome = .ok body

theorem DeletedBy.of_log {jobId : Nat} {before after : World} {name : String}
    (deleted : DeletedBy jobId before name) (kept : ∀ entry ∈ before.log, entry ∈ after.log) :
    DeletedBy jobId after name := by
  obtain ⟨entry, listed, sent⟩ := deleted
  exact ⟨entry, kept entry listed, sent⟩

namespace Discard

structure Steady (jobId : Nat) (job : Job) (world : World) : Prop where
  stored : world.db.Stores jobId job
  covered : System.Unstarted world.db jobId ∨ world.currentJob = some jobId →
    job.covers world.db = true
  ended : ∀ row, world.db.jobs.get? jobId = some row → row.state = .succeeded →
    ∀ name ∈ job.params.snapshots.getD [], DeletedBy jobId world name

structure Working (jobId : Nat) (job : Job) (done : List String) (world : World) : Prop where
  covered : job.covers world.db = true
  deleted : ∀ name ∈ done, DeletedBy jobId world name

def contract (jobId : Nat) (job : Job) : Contract semantics where
  allowed world op event := world.keepsCovered jobId op event = true
  rely before after := before.Others after ∧ (Steady jobId job before → Steady jobId job after)
  guarantee before after := Steady jobId job before → Steady jobId job after
  rely_refl world := ⟨.refl world, id⟩
  rely_trans before after := ⟨before.1.trans after.1, fun holds => after.2 (before.2 holds)⟩

variable {jobId : Nat} {job : Job} {done : List String} {world after : World} {self : JobRunner}

theorem Steady.unmoved (steady : Steady jobId job world) (db : after.db = world.db)
    (log : after.log = world.log)
    (current : after.currentJob = some jobId → world.currentJob = some jobId) :
    Steady jobId job after := by
  obtain ⟨stored, covered, ended⟩ := steady
  refine ⟨?_, fun active => ?_, fun row found succeeded name listed => ?_⟩
  · rw [db]
    exact stored
  · rw [db] at active ⊢
    exact covered (active.imp_right current)
  · rw [db] at found
    refine (ended row found succeeded name listed).of_log ?_
    rw [log]
    exact fun _ => id

theorem Steady.recovered (steady : Steady jobId job world) : Steady jobId job world.recovered := by
  refine ⟨steady.stored.recovered, ?_, fun row found succeeded => ?_⟩
  · rintro (⟨row, found, queued⟩ | current)
    · exact absurd queued (World.recovered_unended found).1
    · exact steady.covered (.inr current)
  · obtain ⟨old, known, ended⟩ := (World.recovered_unended found).2 succeeded
    exact steady.ended old known ended

/-- While the job is queued, the list has every recorded name after each commit. -/
theorem covered_of_perform {op : Op} {event : Event} {outcome : Except Exn op.Ret}
    (permitted : world.keepsCovered jobId op event = true)
    (performed : op.perform event world = some (outcome, after))
    (stored : after.db.Stores jobId job) (steady : Steady jobId job world) (unstarted : System.Unstarted after.db jobId) :
    job.covers after.db = true := by
  rcases Op.db_of_perform performed with same | committed
  · rw [same] at unstarted ⊢
    exact steady.covered (.inl unstarted)
  · obtain ⟨row, found, -, params⟩ := stored
    obtain ⟨other, same, queued⟩ := unstarted
    rw [found] at same
    cases same
    simp only [World.keepsCovered, committed, Option.all_some, found, queued, ne_eq,
      not_true_eq_false, decide_false, Bool.false_or] at permitted
    rw [← Job.covers_congr params]
    exact permitted

theorem Steady.of_request {op : Op} {event : Event} {outcome : Except Exn op.Ret}
    (permitted : world.keepsCovered jobId op event = true) (harmless : op.forRequest)
    (performed : op.perform event world = some (outcome, after))
    (steady : Steady jobId job world) : Steady jobId job after := by
  have others := Op.others_of_request harmless performed
  have stored := steady.stored.kept others.db
  obtain ⟨row, found, -⟩ := steady.stored
  have still := others.db.jobs jobId row found
  refine ⟨stored, ?_, fun other same succeeded name listed => ?_⟩
  · rintro (unstarted | current)
    · exact covered_of_perform permitted performed stored steady unstarted
    · rw [others.currentJob] at current
      exact Job.covers_of_sets (steady.covered (.inr current)) others.db.snapshotSets
  · rw [still] at same
    cases same
    refine (steady.ended row found succeeded name listed).of_log ?_
    rw [others.log]
    exact fun _ => id

/-- An operation of another job. -/
theorem Steady.of_other {op : Op} {event : Event} {outcome : Except Exn op.Ret} {other : Nat}
    (different : other ≠ jobId) (own : op.ofJob other) (idle : world.currentJob ≠ some jobId)
    (permitted : world.keepsCovered jobId op event = true)
    (performed : op.perform event world = some (outcome, after))
    (steady : Steady jobId job world) : Steady jobId job after := by
  obtain ⟨rows, -, -⟩ := Op.jobFrame own performed
  have same := rows.others jobId different.symm
  have stored := steady.stored.of_other different rows
  refine ⟨stored, ?_, fun row found succeeded name listed => ?_⟩
  · rintro (unstarted | running)
    · exact covered_of_perform permitted performed stored steady unstarted
    · exact absurd running (Op.idle_of_perform own different performed idle)
  · rw [same] at found
    exact (steady.ended row found succeeded name listed).of_log fun _ sent =>
      Op.mem_log_of_perform performed sent

/-! ### The job's own run -/

theorem Working.steady (begun : Begun jobId job world) (working : Working jobId job done world) :
    Steady jobId job world :=
  ⟨begun.stored, fun _ => working.covered,
    fun row found succeeded => absurd succeeded (begun.unended row found)⟩

theorem works (done : List String) :
    Works (contract jobId job) jobId job (Working jobId job done) where
  passes passed := passed.1
  passed _ working passed := by
    refine ⟨Job.covers_of_sets working.covered passed.1.db.snapshotSets, fun name listed => ?_⟩
    refine (working.deleted name listed).of_log ?_
    rw [passed.1.log]
    exact fun _ => id
  unmoved working log _ same := by
    refine ⟨Job.covers_of_sets working.covered fun id row found => ?_, fun name listed => ?_⟩
    · rw [same.snapshotSets] at found
      exact found
    · refine (working.deleted name listed).of_log ?_
      rw [log]
      exact fun _ => id
  keeps begun working _ := working.steady begun

/-- The work keeps to the job's own row, ends no job and records nothing. -/
theorem own_of_discard (jobId : Nat) {params : JobParams} {op : Op}
    (used : JobRunner.OfDiscard params op) : op.ofJob jobId ∧ op.leavesOpen ∧ op.recordsNothing := by
  cases used with
  | bookkeeping reads =>
      exact ⟨Op.ofJob_of_bookkeeping reads, Op.leavesOpen_of_bookkeeping reads,
        Op.recordsNothing_of_spares (Op.sparesSets_of_bookkeeping reads)⟩
  | deleteSnapshot listed => exact ⟨trivial, trivial, trivial⟩
  | dbCleanup => exact ⟨trivial, trivial, trivial⟩
  | deleteSet => simp [Op.ofJob, Op.leavesOpen, Op.recordsNothing, Write.ofJob, Write.leavesOpen,
      Write.recordsNothing]

theorem working_of_perform {params : JobParams} {op : Op} {event : Event}
    {outcome : Except Exn op.Ret} (used : JobRunner.OfDiscard params op)
    (performed : op.perform event world = some (outcome, after))
    (working : Working jobId job done world) : Working jobId job done after := by
  refine ⟨Job.covers_of_sets working.covered fun id row found =>
    Op.snapshotSet_of_perform (own_of_discard jobId used).2.2 performed found, fun name listed => ?_⟩
  exact (working.deleted name listed).of_log fun _ sent => Op.mem_log_of_perform performed sent

theorem safe_discard {α : Type} {program : Program α} {params : JobParams}
    (uses : program.Uses (JobRunner.OfDiscard params)) (begun : Begun jobId job world)
    (working : Working jobId job done world) :
    Safe (contract jobId job) (fun _ after => Begun jobId job after ∧ Working jobId job done after)
      (fun _ after => Begun jobId job after ∧ Working jobId job done after) program world := by
  refine (works done).safe_uses uses (fun op used => ?_) ?_ begun working
  · exact ⟨(own_of_discard jobId used).1, (own_of_discard jobId used).2.1⟩
  · rintro op before outcome after used - working ⟨event, -, performed⟩
    exact working_of_perform used performed working

theorem deleteSnapshotEach_safe {name : String} (listed : name ∈ job.params.snapshots.getD [])
    (begun : Begun jobId job world) (working : Working jobId job done world) :
    Safe (contract jobId job)
      (fun _ after => Begun jobId job after ∧ Working jobId job (name :: done) after)
      (fun _ after => Begun jobId job after ∧ Working jobId job done after)
      (JobRunner.deleteSnapshotEach jobId name) world := by
  have noted : ∀ {α : Type} {program : Program α}, program.Uses Op.bookkeeping →
      program.Uses (JobRunner.OfDiscard job.params) :=
    fun uses => uses.mono fun _ => .bookkeeping
  refine Safe.bind (safe_discard (noted (addStep_uses jobId _)) begun working) ?_
  rintro step before ⟨begun, working⟩
  have deleting : Safe (contract jobId job)
      (fun _ after => Begun jobId job after ∧ Working jobId job (name :: done) after)
      (fun _ after => Begun jobId job after ∧ Working jobId job done after)
      ((Client.deleteSnapshot name).catching (JobRunner.failStep step)) before := by
    refine Coroutine.safe_catching.mpr (safe_op fun event outcome after _ performed => ?_)
    have own := own_of_discard jobId (.deleteSnapshot listed)
    have still := begun.of_perform own.1 own.2.1 performed
    have kept := working_of_perform (.deleteSnapshot listed) performed working
    refine ⟨(works done).keeps still kept, fun later passed => ?_⟩
    have kept := (works done).passed still kept passed
    have still := still.passed passed.1
    cases outcome with
    | ok value =>
        refine ⟨still, kept.covered, fun other among => ?_⟩
        rcases List.mem_cons.mp among with rfl | earlier
        · obtain ⟨body, reached, -, -, rfl⟩ := Op.replied_of_ok performed
          refine ⟨⟨before.currentJob, .deleteSnapshot other, .ok body, true⟩, ?_, begun.current,
            rfl, rfl, body, rfl⟩
          simp [passed.1.log]
        · exact kept.deleted other earlier
    | error error =>
        refine safe_failStep (fun _ => ?_) fun _ => ⟨still, kept⟩
        exact safe_discard (noted (finishStep_uses step .failed _)) still kept
  refine Safe.bind deleting ?_
  rintro _ after ⟨begun, working⟩
  refine (safe_discard (noted (finishStep_uses step .succeeded "")) begun working).mono
    (fun _ _ kept => kept) fun _ later kept => ⟨kept.1, kept.2.covered, fun other listed => ?_⟩
  exact kept.2.deleted other (List.mem_cons_of_mem _ listed)

/-- The job has deleted every name on its list. -/
def Finished (jobId : Nat) (job : Job) (world : World) : Prop :=
  Begun jobId job world ∧ Working jobId job (job.params.snapshots.getD []) world

theorem discard_safe (begun : Begun jobId job world) (working : Working jobId job [] world) :
    Safe (contract jobId job) (fun _ => Finished jobId job)
      (fun _ after => Begun jobId job after ∧ Working jobId job [] after)
      (self.discard jobId job.params) world := by
  have weaken : ∀ {done world}, Working jobId job done world → Working jobId job [] world :=
    fun working => ⟨working.covered, by simp⟩
  have deleting : Safe (contract jobId job) (fun _ => Finished jobId job)
      (fun _ after => Begun jobId job after ∧ Working jobId job [] after)
      (Coroutine.forEach (job.params.snapshots.getD []) (JobRunner.deleteSnapshotEach jobId)) world := by
    refine (Safe.forEach_done (fun done after => Begun jobId job after ∧ Working jobId job done after)
      ⟨begun, working⟩ ?_).mono ?_ fun _ _ kept => kept
    · rintro name listed done before ⟨begun, working⟩
      exact (deleteSnapshotEach_safe listed begun working).mono (fun _ _ kept => kept)
        fun _ _ kept => ⟨kept.1, weaken kept.2⟩
    · rintro _ after ⟨begun, working⟩
      exact ⟨begun, working.covered, fun name listed =>
        working.deleted name (List.mem_reverse.mpr listed)⟩
  refine Safe.bind deleting ?_
  rintro _ after ⟨begun, working⟩
  exact (safe_discard (self.discardRest_uses jobId job.params) begun working).mono
    (fun _ _ kept => kept) fun _ _ kept => ⟨kept.1, weaken kept.2⟩

theorem settle_safe {loaded : Option MirrorSet} {row : Job} {error : Option String}
    (finished : Finished jobId job world) :
    Safe (contract jobId job) (fun _ _ => True) (fun _ _ => True)
      (JobRunner.settle jobId row loaded .succeeded error) world := by
  obtain ⟨begun, working⟩ := finished
  refine safe_settle (by decide) fun after rows same log aptly _ => ?_
  have kept := (works (job.params.snapshots.getD [])).unmoved working log aptly same
  exact fun _ => ⟨begun.stored.of_own rows, fun _ => kept.covered, fun _ _ _ => kept.deleted⟩

/-- From the moment the job is stored, as long as its list has what its set records. -/
def watch (self : JobRunner) (type : job.type = .discard) :
    Watch self (fun system label => system.checked (World.keepsCovered jobId) label) jobId where
  contract := contract jobId job
  steady := Steady jobId job
  relies steady passed := passed.2 steady
  guarantees steady kept := kept steady
  unmoved steady db log _ current := steady.unmoved db log current
  recovers := Steady.recovered
  passes passed := passed.1
  external := by
    intro before after label uses permitted external stepped
    refine ⟨System.others_of_external uses external stepped, fun steady => ?_⟩
    rcases System.external_cases external stepped with
      same | ⟨reached, -, same⟩ | ⟨elapsed, same⟩ |
      ⟨index, event, op, resume, outcome, rfl, found, performed⟩
    · rw [same]
      exact steady
    · rw [same]
      exact steady.unmoved rfl rfl id
    · rw [same]
      exact steady.unmoved rfl rfl id
    · rw [System.checked_serve found] at permitted
      exact steady.of_request permitted (uses _ (List.mem_of_getElem? found)).1 performed
  allows permitted running := by
    rw [System.checked_work running] at permitted
    exact permitted
  others different own idle permitted performed _ :=
    fun steady => steady.of_other different own idle permitted performed
  runs := by
    intro world steady unstarted
    have covered := steady.covered (.inl unstarted)
    refine (works []).safe_runJob (fun {row loaded world} same params begun working => ?_)
      settle_safe ?_
    · simp only [JobRunner.execute, same, type, params]
      exact discard_safe begun working
    · rintro after rfl
      have begun := Begun.of_unstarted steady.stored unstarted
      have working : Working jobId job [] { world with
          currentJob := some jobId, nextPosition := 0, sessionBroken := false } :=
        ⟨covered, by simp⟩
      exact ⟨fun _ => working.steady begun, begun, working⟩

end Discard

/-- The job waits or runs. -/
def System.Pending (system : System) (jobId : Nat) : Prop :=
  System.Unstarted system.world.db jobId ∨ system.world.currentJob = some jobId

/-- A DISCARD job that ends SUCCEEDED has deleted every snapshot its set recorded at any moment
while the job waited or ran, so also at the moment the set was deleted, in every run in which the
job's list has what the set records when the job is stored and after each commit made while it
is queued. -/
theorem discard_leaves_no_orphans {self : JobRunner} {start before chosen moment later : System}
    {label : Label} {jobId : Nat} {job ended : Job} {row : SnapshotSet} (fresh : start.Fresh)
    (reached : System.Reachable self (fun _ _ => True) start before)
    (stepped : before.step self label = some chosen)
    (absent : before.world.db.jobs.get? jobId = none)
    (stored : chosen.world.db.jobs.get? jobId = some job) (type : job.type = .discard)
    (covered : job.covers chosen.world.db = true)
    (followed : System.Reachable self
      (fun system label => system.checked (World.keepsCovered jobId) label) chosen moment)
    (pending : moment.Pending jobId) (recorded : job.targetIn moment.world.db = some row)
    (rest : System.Reachable self
      (fun system label => system.checked (World.keepsCovered jobId) label) moment later)
    (found : later.world.db.jobs.get? jobId = some ended) (succeeded : ended.state = .succeeded) :
    ∀ name ∈ row.snapshots.values, DeletedBy jobId later.world name := by
  have standing := reached.queued fresh
  have served := reached.requests_use fresh.requests_use
  have queued := standing.step served stepped
  have uses := System.requests_use_of_step served stepped
  have waiting := standing.waiting_of_stored served stepped absent (Option.isSome_of_eq_some stored)
  have unstarted : job.state = .queued := by
    obtain ⟨other, same, state⟩ := queued.unstarted jobId waiting
    rw [stored] at same
    cases same
    exact state
  have entry : Discard.Steady jobId job chosen.world := by
    refine ⟨⟨job, stored, rfl, rfl⟩, fun _ => covered, fun other same succeeded => ?_⟩
    rw [stored] at same
    cases same
    rw [unstarted] at succeeded
    cases succeeded
  have between := (Discard.watch self type).holds queued uses waiting entry followed
  have last := (Discard.watch self type).holds queued uses waiting entry (followed.trans rest)
  intro name listed
  have covers := between.covered pending
  simp only [Job.covers, recorded, Option.all_some, List.all_eq_true, decide_eq_true_eq] at covers
  exact last.ended ended found succeeded name (covers name listed)

namespace Discard

/-! ### A discard asked for too early -/

/-- The operator asks for an update, and the worker gets as far as storing the new set. -/
def updating : List Label :=
  [.start, .arrive (.web (.setUpdate "operator" 1)), .serve 0 .proceed, .serve 0 .proceed, .take] ++
    List.replicate 6 (.work .proceed) ++
    [.work (.reply (.mirrors Sample.mirrored.mirrors) Sample.mirrored),
      .work (.reply (.storage ⟨100000, 90000⟩) Sample.mirrored)] ++
    List.replicate 3 (.work .proceed)

/-- The update takes its snapshot and ends. -/
def updated : List Label :=
  List.replicate 2 (.work .proceed) ++ Sample.task 1 ++ List.replicate 2 (.work .proceed) ++
    .work (.reply (.snapshot ⟨"stable-main-19700101T0000Z"⟩) Sample.mirrored) ::
    List.replicate 3 (.work .proceed)

/-- The operator asks to discard the set; the next step stores the job. -/
def asked : List Label :=
  [.arrive (.web (.discardSetSubmit "operator" 1 1)), .serve 1 .proceed,
    .serve 1 (.cached ⟨[], [], []⟩)]

/-- The discard deletes so many snapshots, cleans up, and is about to delete the row. -/
def discarding (names : Nat) : List Label :=
  .take :: List.replicate 4 (.work .proceed) ++
    (List.replicate names [Label.work .proceed, .work .proceed, .work (.reply .nothing Sample.mirrored),
      .work .proceed]).flatten ++
    List.replicate 2 (.work .proceed) ++ Sample.task 2 ++ [.work .proceed]

end Discard

theorem not_discard_leaves_no_orphans : ¬ ∀ (self : JobRunner)
    (start before chosen moment later : System) (label : Label) (first second third : List Label)
    (jobId : Nat) (job ended : Job) (row : SnapshotSet), start.Fresh →
    start.run self first = some before → before.step self label = some chosen →
    before.world.db.jobs.get? jobId = none → chosen.world.db.jobs.get? jobId = some job →
    job.type = .discard → chosen.run self second = some moment → moment.Pending jobId →
    job.targetIn moment.world.db = some row → moment.run self third = some later →
    job.targetIn later.world.db = none → later.world.db.jobs.get? jobId = some ended →
    ended.state = .succeeded → ∀ name ∈ row.snapshots.values, DeletedBy jobId later.world name := by
  intro claimed
  have orphaned : (Sample.service.run Sample.runner (Discard.updating ++ Discard.asked)).any
      (fun before => (before.step Sample.runner (.serve 1 .proceed)).any fun chosen =>
        (chosen.run Sample.runner
          (.serve 1 .proceed :: Discard.updated ++ Discard.discarding 0)).any fun moment =>
        (moment.run Sample.runner [.work .proceed, .work .proceed]).any fun later =>
          (before.world.db.jobs.get? 2).isNone &&
          decide (moment.world.currentJob = some 2) &&
          (chosen.world.db.jobs.get? 2).any (fun job => decide (job.type = .discard) &&
            (job.targetIn moment.world.db).any (fun row => !row.snapshots.values.isEmpty) &&
            (job.targetIn later.world.db).isNone) &&
          (later.world.db.jobs.get? 2).any (fun ended => decide (ended.state = .succeeded)) &&
          later.world.log.all fun entry => match entry.request with
            | .deleteSnapshot _ => false
            | _ => true) = true := by
    decide
  obtain ⟨before, first, orphaned⟩ := (Option.any_eq_true _ _).mp orphaned
  obtain ⟨chosen, stepped, orphaned⟩ := (Option.any_eq_true _ _).mp orphaned
  obtain ⟨moment, second, orphaned⟩ := (Option.any_eq_true _ _).mp orphaned
  obtain ⟨later, third, orphaned⟩ := (Option.any_eq_true _ _).mp orphaned
  simp only [Bool.and_eq_true, Option.isNone_iff_eq_none, Option.any_eq_true, decide_eq_true_eq,
    Bool.not_eq_true', List.isEmpty_eq_false_iff_exists_mem] at orphaned
  obtain ⟨⟨⟨⟨absent, running⟩, job, stored, ⟨type, row, recorded, name, listed⟩, gone⟩, ended,
    found, succeeded⟩, silent⟩ := orphaned
  obtain ⟨entry, sent, -, asked, -⟩ := claimed _ _ _ _ _ _ _ _ _ _ 2 job ended row
    (System.blank_fresh _ _) first stepped absent stored type second (.inr running) recorded third
    gone found succeeded name listed
  have kept := List.all_eq_true.mp silent entry sent
  rw [asked] at kept
  cases kept

/-- The discard is asked for when the update has ended. -/
theorem discard_leaves_no_orphans_update : ∃ moment later : System, ∃ row,
    moment.world.db.snapshotSets.get? 1 = some row ∧ row.snapshots.values ≠ [] ∧
    later.world.db.snapshotSets.get? 1 = none ∧
    ∀ name ∈ row.snapshots.values, DeletedBy 2 later.world name := by
  have runs : (Sample.service.runUnder Sample.runner (fun _ _ => true)
      (Discard.updating ++ Discard.updated ++ Discard.asked)).any
      (fun before => (before.step Sample.runner (.serve 1 .proceed)).any fun chosen =>
        (chosen.runUnder Sample.runner
          (fun system label => system.checked (World.keepsCovered 2) label)
          (.serve 1 .proceed :: Discard.discarding 1)).any fun moment =>
        (moment.runUnder Sample.runner
          (fun system label => system.checked (World.keepsCovered 2) label)
          [.work .proceed, .work .proceed]).any fun later =>
          (before.world.db.jobs.get? 2).isNone &&
          decide (moment.world.currentJob = some 2) &&
          (chosen.world.db.jobs.get? 2).any (fun job => decide (job.type = .discard) &&
            job.covers chosen.world.db && decide (job.params.snapshotSetId = some 1)) &&
          (moment.world.db.snapshotSets.get? 1).any (fun row => !row.snapshots.values.isEmpty) &&
          (later.world.db.snapshotSets.get? 1).isNone &&
          (later.world.db.jobs.get? 2).any fun ended => decide (ended.state = .succeeded)) = true := by
    decide
  obtain ⟨before, first, runs⟩ := (Option.any_eq_true _ _).mp runs
  obtain ⟨chosen, stepped, runs⟩ := (Option.any_eq_true _ _).mp runs
  obtain ⟨moment, second, runs⟩ := (Option.any_eq_true _ _).mp runs
  obtain ⟨later, third, runs⟩ := (Option.any_eq_true _ _).mp runs
  simp only [Bool.and_eq_true, Option.isNone_iff_eq_none, Option.any_eq_true, decide_eq_true_eq,
    Bool.not_eq_true', List.isEmpty_eq_false_iff] at runs
  obtain ⟨⟨⟨⟨⟨absent, running⟩, job, stored, ⟨type, covered⟩, named⟩, row, recorded, filled⟩, gone⟩,
    ended, found, succeeded⟩ := runs
  have reached := (System.Reachable.of_runUnder first).mono fun _ _ _ => trivial
  have target : job.targetIn moment.world.db = some row := by
    rw [Job.targetIn, named]
    exact recorded
  exact ⟨moment, later, row, recorded, filled, gone,
    discard_leaves_no_orphans (System.blank_fresh _ _) reached stepped absent stored type covered
      (.of_runUnder second) (.inr running) target (.of_runUnder third) found succeeded⟩

end AptlyGui
