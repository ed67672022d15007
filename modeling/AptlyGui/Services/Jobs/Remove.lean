import AptlyGui.Services.Jobs.Watch

/-!
# What a removal leaves behind

A REMOVE job deletes the mirrors it was given when it was asked for.  A mirror
of the set that was not on the list, because the cache did not show it or
because a job ahead in the queue has created it since, outlives its set.
-/

namespace AptlyGui

open Coroutine (Contract Safe Uses)

/-! ## What aptly does -/

/-- What aptly holds afterwards, where the answer says so. -/
def Event.reached : Event → Option Aptly
  | .reply _ after | .fault _ _ after | .cancel _ after => some after
  | _ => none

def Request.creates (name : String) : Request → Bool
  | .createMirror spec => decide (spec.name = name)
  | _ => false

namespace World

/-- The newest request that has started a task. -/
def lastStart (world : World) : Option Entry :=
  world.log.find? fun entry => entry.request.startsTask

/-- A mirror comes into aptly only by being created. -/
def addsCreated (world : World) (request : Request) (after : Aptly) : Bool :=
  after.mirrorNames.all fun name => decide (name ∈ world.aptly.mirrorNames) || request.creates name

/-- The mirror is gone once the task that deletes it is reported to have succeeded. -/
def removesDeleted (world : World) : Request → Event → Bool
  | .getTask id, .reply (.task task) after =>
      world.lastStart.all fun entry =>
        match entry.request, entry.outcome with
        | .deleteMirror name, .ok (.task started) =>
            decide (started.id = id → task.state = .succeeded → name ∉ after.mirrorNames)
        | _, _ => true
  | _, _ => true

def honest (world : World) : Op → Event → Bool
  | .aptly request, event =>
      event.reached.all (world.addsCreated request) && world.removesDeleted request event
  | _, _ => true

end World

/-- aptly does what it is asked and reports, and nobody else creates mirrors. -/
def System.honest (system : System) : Label → Bool
  | .drift after => after.mirrorNames.all fun name => decide (name ∈ system.world.aptly.mirrorNames)
  | label => system.checked World.honest label

/-! ## The condition -/

/-- Every mirror of the set that aptly holds is on the job's list. -/
def Job.lists (job : Job) (mirrorSet : MirrorSet) (aptly : Aptly) : Bool :=
  mirrorSet.expectedMirrors.all fun name =>
    decide (name ∈ aptly.mirrorNames → name ∈ job.params.mirrors.getD [])

/-- While the job is queued, nobody creates a mirror of the set that is not on its list. -/
def World.createsListed (jobId : Nat) (mirrorSet : MirrorSet) (world : World) : Op → Event → Bool
  | .aptly (.createMirror spec), event =>
      (world.db.jobs.get? jobId).all fun job => event.reached.all fun after =>
        decide (job.state = .queued → spec.name ∈ mirrorSet.expectedMirrors →
          spec.name ∈ after.mirrorNames → spec.name ∈ job.params.mirrors.getD [])
  | _, _ => true

/-- The steps of a run that keep the job's list complete. -/
def System.keepsListed (jobId : Nat) (mirrorSet : MirrorSet) (system : System) (label : Label) :
    Bool :=
  system.honest label && system.checked (World.createsListed jobId mirrorSet) label

namespace Remove

structure Steady (jobId : Nat) (job : Job) (mirrorSet : MirrorSet) (world : World) : Prop where
  stored : world.db.Stores jobId job
  listed : System.Unstarted world.db jobId ∨ world.currentJob = some jobId →
    job.lists mirrorSet world.aptly = true

/-- In the step in which the job ends SUCCEEDED aptly holds no mirror of the set. -/
def Ends (jobId : Nat) (mirrorSet : MirrorSet) (before after : World) : Prop :=
  ∀ ended, after.db.jobs.get? jobId = some ended → ended.state = .succeeded →
    (∀ old, before.db.jobs.get? jobId = some old → old.state ≠ .succeeded) →
    ∀ name ∈ mirrorSet.expectedMirrors, name ∉ after.aptly.mirrorNames

structure Working (job : Job) (mirrorSet : MirrorSet) (done : List String) (world : World) : Prop where
  listed : job.lists mirrorSet world.aptly = true
  gone : ∀ name ∈ done, name ∉ world.aptly.mirrorNames

def contract (jobId : Nat) (job : Job) (mirrorSet : MirrorSet) : Contract semantics where
  allowed world op event :=
    world.honest op event = true ∧ world.createsListed jobId mirrorSet op event = true
  rely before after :=
    before.Others after ∧ ∀ name ∈ after.aptly.mirrorNames, name ∈ before.aptly.mirrorNames
  guarantee before after :=
    (Steady jobId job mirrorSet before → Steady jobId job mirrorSet after) ∧
      Ends jobId mirrorSet before after
  rely_refl world := ⟨.refl world, fun _ => id⟩
  rely_trans before after :=
    ⟨before.1.trans after.1, fun name held => before.2 name (after.2 name held)⟩

variable {jobId : Nat} {job : Job} {mirrorSet : MirrorSet} {done : List String}
  {world after : World} {self : JobRunner}

theorem lists_of_fewer {before after : Aptly} (listed : job.lists mirrorSet before = true)
    (fewer : ∀ name ∈ after.mirrorNames, name ∈ before.mirrorNames) :
    job.lists mirrorSet after = true := by
  simp only [Job.lists, List.all_eq_true, decide_eq_true_eq] at listed ⊢
  exact fun name expected held => listed name expected (fewer name held)

theorem Steady.passed (steady : Steady jobId job mirrorSet world)
    (passed : (contract jobId job mirrorSet).rely world after) :
    Steady jobId job mirrorSet after := by
  refine ⟨steady.stored.kept passed.1.db, fun active => lists_of_fewer (steady.listed ?_) passed.2⟩
  rcases active with ⟨row, found, queued⟩ | current
  · obtain ⟨old, known, -⟩ := steady.stored
    have same := passed.1.db.jobs jobId old known
    rw [found] at same
    cases same
    exact .inl ⟨row, known, queued⟩
  · exact .inr (passed.1.currentJob.symm.trans current)

theorem Steady.unmoved (steady : Steady jobId job mirrorSet world) (db : after.db = world.db)
    (aptly : after.aptly = world.aptly)
    (current : after.currentJob = some jobId → world.currentJob = some jobId) :
    Steady jobId job mirrorSet after := by
  refine ⟨?_, fun active => ?_⟩
  · rw [db]
    exact steady.stored
  · rw [db] at active
    rw [aptly]
    exact steady.listed (active.imp_right current)

theorem Steady.recovered (steady : Steady jobId job mirrorSet world) :
    Steady jobId job mirrorSet world.recovered := by
  refine ⟨steady.stored.recovered, ?_⟩
  rintro (⟨row, found, queued⟩ | current)
  · exact absurd queued (World.recovered_unended found).1
  · exact steady.listed (.inr current)

/-- What an operation leaves in aptly was there before, or is a mirror it was asked to create. -/
theorem mirrors_of_perform {op : Op} {event : Event} {outcome : Except Exn op.Ret}
    (honest : world.honest op event = true)
    (performed : op.perform event world = some (outcome, after)) {name : String}
    (held : name ∈ after.aptly.mirrorNames) :
    name ∈ world.aptly.mirrorNames ∨
      ∃ request, op = .aptly request ∧ request.creates name = true ∧
        event.reached = some after.aptly := by
  by_cases asks : op.asksAptly = true
  · cases op with
    | aptly request =>
        have reached : event.reached = some after.aptly := by
          rcases Op.perform_aptly performed with ⟨_, _, rfl, -, rfl⟩ |
            ⟨_, _, _, rfl, -, -, rfl⟩ | ⟨_, _, rfl, -, rfl⟩
          all_goals rfl
        simp only [World.honest, reached, Option.all_some, Bool.and_eq_true] at honest
        have added := List.all_eq_true.mp honest.1 name held
        simp only [Bool.or_eq_true, decide_eq_true_eq] at added
        exact added.imp_right fun created => ⟨request, rfl, created, reached⟩
    | _ => cases asks
  · rw [(Op.perform_frame performed).aptly (by simpa using asks)] at held
    exact .inl held

/-- An operation of another job. -/
theorem Steady.of_other {op : Op} {event : Event} {outcome : Except Exn op.Ret} {other : Nat}
    (different : other ≠ jobId) (own : op.ofJob other) (idle : world.currentJob ≠ some jobId)
    (permitted : (contract jobId job mirrorSet).allowed world op event)
    (performed : op.perform event world = some (outcome, after))
    (steady : Steady jobId job mirrorSet world) : Steady jobId job mirrorSet after := by
  obtain ⟨rows, -, -⟩ := Op.jobFrame own performed
  refine ⟨steady.stored.of_other different rows, ?_⟩
  rintro (⟨row, found, queued⟩ | running)
  · rw [rows.others jobId different.symm] at found
    have listed := steady.listed (.inl ⟨row, found, queued⟩)
    simp only [Job.lists, List.all_eq_true, decide_eq_true_eq] at listed ⊢
    intro name expected held
    rcases mirrors_of_perform permitted.1 performed held with kept | ⟨request, rfl, created, reached⟩
    · exact listed name expected kept
    · obtain ⟨old, known, -, params⟩ := steady.stored
      rw [found] at known
      cases known
      cases request with
      | createMirror spec =>
          simp only [Request.creates, decide_eq_true_eq] at created
          subst created
          have checked := permitted.2
          simp only [World.createsListed, found, reached, Option.all_some, decide_eq_true_eq]
            at checked
          rw [← params]
          exact checked queued expected held
      | _ => cases created
  · exact absurd running (Op.idle_of_perform own different performed idle)

/-! ### The job's own run -/

theorem Working.steady (begun : Begun jobId job world) (working : Working job mirrorSet done world) :
    Steady jobId job mirrorSet world :=
  ⟨begun.stored, fun _ => working.listed⟩

theorem Working.fewer (working : Working job mirrorSet done world)
    (fewer : ∀ name ∈ after.aptly.mirrorNames, name ∈ world.aptly.mirrorNames) :
    Working job mirrorSet done after :=
  ⟨lists_of_fewer working.listed fewer,
    fun name deleted held => working.gone name deleted (fewer name held)⟩

theorem kept_of_begun (begun : Begun jobId job after) (working : Working job mirrorSet done after) :
    (contract jobId job mirrorSet).guarantee world after :=
  ⟨fun _ => working.steady begun,
    fun ended found succeeded => absurd succeeded (begun.unended ended found)⟩

theorem works (done : List String) :
    Works (contract jobId job mirrorSet) jobId job (Working job mirrorSet done) where
  passes passed := passed.1
  passed _ working passed := working.fewer passed.2
  unmoved working _ aptly _ := by
    refine working.fewer fun name held => ?_
    rw [aptly] at held
    exact held
  keeps := kept_of_begun

/-- A deletion of the mirror has been started, and nothing else since. -/
structure Following (job : Job) (mirrorSet : MirrorSet) (done : List String) (name : String)
    (task : Task) (world : World) : Prop extends Working job mirrorSet done world where
  started : ∃ entry, world.lastStart = some entry ∧ entry.request = .deleteMirror name ∧
    entry.outcome = .ok (.task task)

theorem works_following (done : List String) (name : String) (task : Task) :
    Works (contract jobId job mirrorSet) jobId job (Following job mirrorSet done name task) where
  passes passed := passed.1
  passed _ following passed := by
    refine ⟨following.toWorking.fewer passed.2, ?_⟩
    rw [World.lastStart, passed.1.log]
    exact following.started
  unmoved following log aptly _ := by
    refine ⟨following.toWorking.fewer fun name held => ?_, ?_⟩
    · rw [aptly] at held
      exact held
    · rw [World.lastStart, log]
      exact following.started
  keeps begun following := kept_of_begun begun following.toWorking

/-- The work keeps to the job's own row, ends no job and creates no mirror. -/
theorem own_of_remove {params : JobParams} {op : Op} (used : JobRunner.OfRemove jobId params op) :
    op.ofJob jobId ∧ op.leavesOpen ∧
      ∀ request name, op = .aptly request → request.creates name = false := by
  cases used with
  | bookkeeping reads =>
      refine ⟨Op.ofJob_of_bookkeeping reads, Op.leavesOpen_of_bookkeeping reads, ?_⟩
      rintro request name rfl
      cases request with
      | createMirror spec => cases reads
      | _ => rfl
  | deleteMirror listed =>
      refine ⟨trivial, trivial, ?_⟩
      rintro request name same
      cases same
      rfl
  | dbCleanup =>
      refine ⟨trivial, trivial, ?_⟩
      rintro request name same
      cases same
      rfl
  | forget =>
      refine ⟨?_, ?_, fun request name same => by cases same⟩
      · intro change listed
        simp only [List.cons_append, List.mem_cons, List.mem_append, List.mem_map,
          List.not_mem_nil, or_false] at listed
        rcases listed with rfl | ⟨row, -, rfl⟩ | rfl
        · exact ⟨rfl, fun _ _ => ⟨rfl, rfl, id⟩⟩
        · trivial
        · trivial
      · intro change listed
        simp only [List.cons_append, List.mem_cons, List.mem_append, List.mem_map,
          List.not_mem_nil, or_false] at listed
        rcases listed with rfl | ⟨row, -, rfl⟩ | rfl
        · exact fun _ _ => id
        · trivial
        · trivial

theorem working_of_perform {params : JobParams} {op : Op} {event : Event}
    {outcome : Except Exn op.Ret} (used : JobRunner.OfRemove jobId params op)
    (honest : world.honest op event = true)
    (performed : op.perform event world = some (outcome, after))
    (working : Working job mirrorSet done world) : Working job mirrorSet done after := by
  refine working.fewer fun name held => ?_
  rcases mirrors_of_perform honest performed held with kept | ⟨request, same, created, -⟩
  · exact kept
  · rw [(own_of_remove used).2.2 request name same] at created
    cases created

theorem safe_remove {α : Type} {program : Program α} {params : JobParams}
    (uses : program.Uses (JobRunner.OfRemove jobId params)) (begun : Begun jobId job world)
    (working : Working job mirrorSet done world) :
    Safe (contract jobId job mirrorSet)
      (fun _ after => Begun jobId job after ∧ Working job mirrorSet done after)
      (fun _ after => Begun jobId job after ∧ Working job mirrorSet done after) program world := by
  refine (works done).safe_uses uses (fun op used => ?_) ?_ begun working
  · exact ⟨(own_of_remove used).1, (own_of_remove used).2.1⟩
  · rintro op before outcome after used - working ⟨event, permitted, performed⟩
    exact working_of_perform used permitted.1 performed working

theorem lastStart_of_bookkeeping {op : Op} {event : Event} {outcome : Except Exn op.Ret}
    (reads : op.bookkeeping) (performed : op.perform event world = some (outcome, after)) :
    after.lastStart = world.lastStart := by
  have unchanged : after.log = world.log → after.lastStart = world.lastStart := by
    intro same
    rw [World.lastStart, World.lastStart, same]
  cases op with
  | aptly request =>
      have silent : request.startsTask = false := by
        cases request with
        | updateMirror spec => cases reads
        | deleteMirror name => cases reads
        | publishSnapshots target distribution sources architectures signing => cases reads
        | switchPublished target distribution sources signing => cases reads
        | dbCleanup => cases reads
        | _ => rfl
      obtain ⟨newest, grown, -, asked⟩ := Op.log_of_aptly performed
      simp [World.lastStart, grown, asked, silent]
  | _ => exact unchanged ((Op.perform_frame performed).log rfl)

theorem safe_following {α : Type} {program : Program α} {name : String} {task : Task}
    (uses : program.Uses Op.bookkeeping) (begun : Begun jobId job world)
    (following : Following job mirrorSet done name task world) :
    Safe (contract jobId job mirrorSet)
      (fun _ after => Begun jobId job after ∧ Following job mirrorSet done name task after)
      (fun _ after => Begun jobId job after ∧ Following job mirrorSet done name task after)
      program world := by
  refine (works_following done name task).safe_uses uses (fun op reads => ?_) ?_ begun following
  · exact ⟨Op.ofJob_of_bookkeeping reads, Op.leavesOpen_of_bookkeeping reads⟩
  · rintro op before outcome after reads - following ⟨event, permitted, performed⟩
    refine ⟨working_of_perform (@JobRunner.OfRemove.bookkeeping jobId job.params op reads)
      permitted.1 performed following.toWorking, ?_⟩
    rw [lastStart_of_bookkeeping reads performed]
    exact following.started

/-- aptly says how the deletion is going; when it has succeeded the mirror is gone. -/
theorem getTask_safe {name : String} {task : Task} (begun : Begun jobId job world)
    (following : Following job mirrorSet done name task world) :
    Safe (contract jobId job mirrorSet)
      (fun (found : Task) after => Begun jobId job after ∧
        Following job mirrorSet done name task after ∧
        (found.state = .succeeded → name ∉ after.aptly.mirrorNames))
      (fun _ after => Begun jobId job after ∧ Working job mirrorSet done after)
      (Client.getTask task.id) world := by
  refine safe_op fun event outcome after permitted performed => ?_
  have reads : (Op.aptly (.getTask task.id)).bookkeeping := rfl
  have still := begun.of_perform (Op.ofJob_of_bookkeeping reads) (Op.leavesOpen_of_bookkeeping reads)
    performed
  have kept : Following job mirrorSet done name task after := by
    refine ⟨working_of_perform (@JobRunner.OfRemove.bookkeeping jobId job.params _ reads)
      permitted.1 performed following.toWorking, ?_⟩
    rw [lastStart_of_bookkeeping reads performed]
    exact following.started
  refine ⟨kept_of_begun still kept.toWorking, fun later passed => ?_⟩
  have working := (works done).passed still kept.toWorking passed
  have followed := (works_following done name task).passed still kept passed
  cases outcome with
  | error error => exact ⟨still.passed passed.1, working⟩
  | ok found =>
      refine ⟨still.passed passed.1, followed, fun succeeded held => ?_⟩
      obtain ⟨body, reached, rfl, parsed, rfl⟩ := Op.replied_of_ok performed
      cases body with
      | task reported =>
          cases parsed
          obtain ⟨entry, newest, request, answer⟩ := following.started
          have honest := permitted.1
          simp only [World.honest, World.removesDeleted, newest, request, answer, Option.all_some,
            Bool.and_eq_true, decide_eq_true_eq] at honest
          exact honest.2 trivial succeeded (passed.2 name held)
      | _ => cases parsed

theorem pollTask_safe {name : String} {task : Task} (step polls : Nat) (reported : Bool)
    (begun : Begun jobId job world) (following : Following job mirrorSet done name task world) :
    Safe (contract jobId job mirrorSet)
      (fun _ after => Begun jobId job after ∧ Working job mirrorSet (name :: done) after)
      (fun _ after => Begun jobId job after ∧ Working job mirrorSet done after)
      (self.pollTask step task.id polls reported) world := by
  apply safe_pollTask_lasting (fun after => Begun jobId job after ∧
    Following job mirrorSet done name task after) _ _ _ _ polls reported ⟨begun, following⟩
  · rintro before ⟨begun, following⟩
    refine (getTask_safe begun following).mono ?_ fun _ _ kept => kept
    rintro found after ⟨begun, following, deleted⟩
    split
    · rename_i succeeded
      refine ⟨begun, following.listed, fun other among => ?_⟩
      rcases List.mem_cons.mp among with rfl | earlier
      · exact deleted succeeded
      · exact following.gone other earlier
    · exact ⟨begun, following⟩
  · rintro α program before uses ⟨begun, following⟩
    exact (safe_following uses begun following).mono (fun _ _ kept => kept)
      fun _ _ kept => ⟨kept.1, kept.2.toWorking⟩
  · rintro α program before uses ⟨begun, gone⟩
    have noted := uses.mono fun _ => @JobRunner.OfRemove.bookkeeping jobId job.params _
    exact (safe_remove noted begun gone).mono (fun _ _ kept => kept)
      fun _ _ kept => ⟨kept.1, kept.2.listed, fun other earlier =>
        kept.2.gone other (List.mem_cons_of_mem _ earlier)⟩
  · rintro before ⟨begun, following⟩
    exact ⟨begun, following.toWorking⟩

theorem followTask_safe {name : String} {task : Task} (step : Nat) (begun : Begun jobId job world)
    (following : Following job mirrorSet done name task world) :
    Safe (contract jobId job mirrorSet)
      (fun _ after => Begun jobId job after ∧ Working job mirrorSet (name :: done) after)
      (fun _ after => Begun jobId job after ∧ Working job mirrorSet done after)
      (self.followTask step task) world := by
  have recording : Uses Op.bookkeeping (commit .job [.setStep step fun _ row =>
      { row with aptlyTaskId := some task.id }]) := uses_steps (by simp [Write.ofSteps])
  refine Safe.bind ((safe_following recording begun following).mono (fun _ _ kept => kept)
    fun _ _ kept => ⟨kept.1, kept.2.toWorking⟩) ?_
  rintro _ recorded ⟨begun, following⟩
  refine Safe.bind (pollTask_safe step self.polls false begun following) ?_
  rintro output after ⟨begun, working⟩
  have ending := (finishStep_uses step .succeeded output).mono
    fun _ => @JobRunner.OfRemove.bookkeeping jobId job.params _
  exact (safe_remove ending begun working).mono (fun _ _ kept => kept)
    fun _ _ kept => ⟨kept.1, kept.2.listed, fun other earlier =>
      kept.2.gone other (List.mem_cons_of_mem _ earlier)⟩

theorem deleteMirrorEach_safe {name : String} (listed : name ∈ job.params.mirrors.getD [])
    (begun : Begun jobId job world) (working : Working job mirrorSet done world) :
    Safe (contract jobId job mirrorSet)
      (fun _ after => Begun jobId job after ∧ Working job mirrorSet (name :: done) after)
      (fun _ after => Begun jobId job after ∧ Working job mirrorSet done after)
      (self.deleteMirrorEach jobId name) world := by
  have noted : ∀ {α : Type} {program : Program α}, program.Uses Op.bookkeeping →
      program.Uses (JobRunner.OfRemove jobId job.params) :=
    fun uses => uses.mono fun _ => .bookkeeping
  refine Safe.bind (safe_remove (noted (addStep_uses jobId _)) begun working) ?_
  rintro step before ⟨begun, working⟩
  have deleting : Safe (contract jobId job mirrorSet)
      (fun task after => Begun jobId job after ∧ Following job mirrorSet done name task after)
      (fun _ after => Begun jobId job after ∧ Working job mirrorSet done after)
      ((Client.deleteMirror name).catching (JobRunner.failStep step)) before := by
    refine Coroutine.safe_catching.mpr (safe_op fun event outcome after permitted performed => ?_)
    have used : JobRunner.OfRemove jobId job.params (.aptly (.deleteMirror name)) :=
      .deleteMirror listed
    have still := begun.of_perform (own_of_remove used).1 (own_of_remove used).2.1 performed
    have kept := working_of_perform used permitted.1 performed working
    refine ⟨kept_of_begun still kept, fun later passed => ?_⟩
    have working := (works done).passed still kept passed
    cases outcome with
    | ok task =>
        refine ⟨still.passed passed.1, working, ?_⟩
        obtain ⟨body, reached, -, parsed, rfl⟩ := Op.replied_of_ok performed
        cases body with
        | task started =>
            cases parsed
            rw [World.lastStart, passed.1.log]
            exact ⟨_, rfl, rfl, rfl⟩
        | _ => cases parsed
    | error error =>
        refine safe_failStep (fun _ => ?_) fun _ => ⟨still.passed passed.1, working⟩
        exact safe_remove (noted (finishStep_uses step .failed _)) (still.passed passed.1) working
  refine Safe.bind deleting ?_
  rintro task after ⟨begun, following⟩
  exact followTask_safe step begun following

/-- The job has deleted every mirror on its list. -/
def Finished (jobId : Nat) (job : Job) (mirrorSet : MirrorSet) (world : World) : Prop :=
  Begun jobId job world ∧ Working job mirrorSet (job.params.mirrors.getD []) world

theorem remove_safe {loaded : Option MirrorSet} (begun : Begun jobId job world)
    (working : Working job mirrorSet [] world) :
    Safe (contract jobId job mirrorSet) (fun _ => Finished jobId job mirrorSet)
      (fun _ after => Begun jobId job after ∧ Working job mirrorSet [] after)
      (self.remove jobId job.params loaded) world := by
  have weaken : ∀ {done world}, Working job mirrorSet done world → Working job mirrorSet [] world :=
    fun working => ⟨working.listed, by simp⟩
  have deleting : Safe (contract jobId job mirrorSet) (fun _ => Finished jobId job mirrorSet)
      (fun _ after => Begun jobId job after ∧ Working job mirrorSet [] after)
      (Coroutine.forEach (job.params.mirrors.getD []) (self.deleteMirrorEach jobId)) world := by
    refine (Safe.forEach_done
      (fun done after => Begun jobId job after ∧ Working job mirrorSet done after)
      ⟨begun, working⟩ ?_).mono ?_ fun _ _ kept => kept
    · rintro name listed done before ⟨begun, working⟩
      exact (deleteMirrorEach_safe listed begun working).mono (fun _ _ kept => kept)
        fun _ _ kept => ⟨kept.1, weaken kept.2⟩
    · rintro _ after ⟨begun, working⟩
      exact ⟨begun, working.listed, fun name listed =>
        working.gone name (List.mem_reverse.mpr listed)⟩
  refine Safe.bind deleting ?_
  rintro _ after ⟨begun, working⟩
  exact (safe_remove (self.removeRest_uses jobId job.params loaded) begun working).mono
    (fun _ _ kept => kept) fun _ _ kept => ⟨kept.1, weaken kept.2⟩

theorem Finished.none (finished : Finished jobId job mirrorSet world) :
    ∀ name ∈ mirrorSet.expectedMirrors, name ∉ world.aptly.mirrorNames := by
  intro name expected held
  have listed := finished.2.listed
  simp only [Job.lists, List.all_eq_true, decide_eq_true_eq] at listed
  exact finished.2.gone name (listed name expected held) held

theorem settle_safe {loaded : Option MirrorSet} {row : Job} {error : Option String}
    (finished : Finished jobId job mirrorSet world) :
    Safe (contract jobId job mirrorSet) (fun _ _ => True) (fun _ _ => True)
      (JobRunner.settle jobId row loaded .succeeded error) world := by
  refine safe_settle (by decide) fun after rows _ _ aptly _ => ⟨fun _ => ?_, ?_⟩
  · refine ⟨finished.1.stored.of_own rows, fun _ => ?_⟩
    rw [aptly]
    exact finished.2.listed
  · rintro ended - - -
    rw [aptly]
    exact finished.none

/-- From the moment the job is stored, as long as its list has the mirrors of the set. -/
def watch (self : JobRunner) (type : job.type = .remove) :
    Watch self (fun system label => system.keepsListed jobId mirrorSet label) jobId where
  contract := contract jobId job mirrorSet
  steady := Steady jobId job mirrorSet
  relies steady passed := steady.passed passed
  guarantees steady kept := kept.1 steady
  unmoved steady db _ aptly current := steady.unmoved db aptly current
  recovers := Steady.recovered
  passes passed := passed.1
  external := by
    intro before after label uses permitted external stepped
    simp only [System.keepsListed, Bool.and_eq_true] at permitted
    refine ⟨System.others_of_external uses external stepped, fun name held => ?_⟩
    rcases System.aptly_of_external uses external stepped with rfl | same
    · simp only [System.honest, List.all_eq_true, decide_eq_true_eq] at permitted
      exact permitted.1 name held
    · rw [same] at held
      exact held
  allows := by
    intro system event op resume permitted running
    simp only [System.keepsListed, Bool.and_eq_true] at permitted
    have honest : system.checked World.honest (.work event) = true := permitted.1
    rw [System.checked_work running] at honest permitted
    exact ⟨honest, permitted.2⟩
  others := by
    intro other op event before after outcome different own idle permitted performed _
    obtain ⟨rows, -, -⟩ := Op.jobFrame own performed
    refine ⟨fun steady => steady.of_other different own idle permitted performed, ?_⟩
    intro ended found succeeded unended
    rw [rows.others jobId different.symm] at found
    exact absurd succeeded (unended ended found)
  runs := by
    intro world steady unstarted
    have listed := steady.listed (.inl unstarted)
    refine (works []).safe_runJob (fun {row loaded world} same params begun working => ?_)
      settle_safe ?_
    · simp only [JobRunner.execute, same, type, params]
      exact remove_safe begun working
    · rintro after rfl
      have begun := Begun.of_unstarted steady.stored unstarted
      have working : Working job mirrorSet [] { world with
          currentJob := some jobId, nextPosition := 0, sessionBroken := false } :=
        ⟨listed, by simp⟩
      exact ⟨kept_of_begun begun working, begun, working⟩

end Remove

/-- When a REMOVE job ends SUCCEEDED aptly holds no mirror of the set, in every run in which aptly
is honest, the job's list has every mirror of the set that aptly holds when the job is stored, and
nobody creates one that is not on the list while the job is queued. -/
theorem removal_leaves_no_mirror {self : JobRunner} {start before chosen last later : System}
    {label final : Label} {jobId : Nat} {job ended : Job} {mirrorSet : MirrorSet}
    (fresh : start.Fresh) (reached : System.Reachable self (fun _ _ => True) start before)
    (stepped : before.step self label = some chosen)
    (absent : before.world.db.jobs.get? jobId = none)
    (stored : chosen.world.db.jobs.get? jobId = some job) (type : job.type = .remove)
    (listed : job.lists mirrorSet chosen.world.aptly = true)
    (followed : System.Reachable self
      (fun system label => system.keepsListed jobId mirrorSet label) chosen last)
    (permitted : last.keepsListed jobId mirrorSet final = true)
    (ends : last.step self final = some later)
    (unended : ∀ old, last.world.db.jobs.get? jobId = some old → old.state ≠ .succeeded)
    (found : later.world.db.jobs.get? jobId = some ended) (succeeded : ended.state = .succeeded) :
    ∀ name ∈ mirrorSet.expectedMirrors, name ∉ later.world.aptly.mirrorNames := by
  have standing := reached.queued fresh
  have served := reached.requests_use fresh.requests_use
  have queued := standing.step served stepped
  have uses := System.requests_use_of_step served stepped
  have waiting := standing.waiting_of_stored served stepped absent (Option.isSome_of_eq_some stored)
  have entry : Remove.Steady jobId job mirrorSet chosen.world :=
    ⟨⟨job, stored, rfl, rfl⟩, fun _ => listed⟩
  by_cases worked : ∃ event, final = .work event
  · obtain ⟨event, rfl⟩ := worked
    obtain ⟨world, kept, db, aptly⟩ :=
      (Remove.watch self type).worked queued uses waiting entry followed permitted ends
    rw [db] at found
    rw [aptly]
    exact kept.2 ended found succeeded unended
  · obtain ⟨old, known, before⟩ := System.succeeded_of_step (followed.requests_use uses) ends
      (fun event same => worked ⟨event, same⟩) found succeeded
    exact absurd before (unended old known)

namespace Remove

/-! ### A cache that shows nothing -/

/-- The operator deletes the set with its mirrors; the next step stores the job. -/
def asked (shown : List Mirror) : List Label :=
  [.start, .arrive (.web (.setDelete "operator" 1 "delete")), .serve 0 .proceed,
    .serve 0 (.cached ⟨shown, [], []⟩)]

/-- The worker takes the job, cleans up, and is about to store that it succeeded. -/
def cleaned : List Label :=
  .serve 0 .proceed :: .take :: List.replicate 6 (.work .proceed) ++ Sample.task 1 ++
    List.replicate 2 (.work .proceed)

/-- The mirror is deleted before the cleanup. -/
def deleted : List Label :=
  .serve 0 .proceed :: .take :: List.replicate 6 (.work .proceed) ++
    [.work (.reply (.task ⟨1, "Delete mirror", .queued⟩) Sample.mirrored), .work .proceed,
      .work (.reply (.task ⟨1, "Delete mirror", .succeeded⟩) ⟨[], [], []⟩),
      .work (.reply (.output "") ⟨[], [], []⟩), .work .proceed, .work .proceed, .work .proceed,
      .work (.reply (.task ⟨2, "Cleanup", .queued⟩) ⟨[], [], []⟩), .work .proceed,
      .work (.reply (.task ⟨2, "Cleanup", .succeeded⟩) ⟨[], [], []⟩),
      .work (.reply (.output "") ⟨[], [], []⟩)] ++ List.replicate 3 (.work .proceed)

end Remove

theorem not_removal_leaves_no_mirror : ¬ ∀ (self : JobRunner)
    (start before chosen last later : System) (label final : Label) (first second : List Label)
    (jobId : Nat) (job ended : Job) (mirrorSet : MirrorSet), start.Fresh →
    start.runUnder self System.honest first = some before →
    before.step self label = some chosen → before.world.db.jobs.get? jobId = none →
    chosen.world.db.jobs.get? jobId = some job → job.type = .remove →
    job.params.mirrorSetId = some mirrorSet.id →
    chosen.world.db.mirrorSets.get? mirrorSet.id = some mirrorSet →
    chosen.runUnder self System.honest second = some last → last.honest final = true →
    last.step self final = some later → later.world.db.jobs.get? jobId = some ended →
    ended.state = .succeeded → later.world.db.mirrorSets.get? mirrorSet.id = none →
    ∀ name ∈ mirrorSet.expectedMirrors, name ∉ later.world.aptly.mirrorNames := by
  intro claimed
  have forgotten : (Sample.service.runUnder Sample.runner System.honest (Remove.asked [])).any
      (fun before => (before.step Sample.runner (.serve 0 .proceed)).any fun chosen =>
        (chosen.runUnder Sample.runner System.honest Remove.cleaned).any fun last =>
        last.honest (.work .proceed) && (last.step Sample.runner (.work .proceed)).any fun later =>
          (before.world.db.jobs.get? 1).isNone &&
          (chosen.world.db.jobs.get? 1).any (fun job => decide (job.type = .remove) &&
            decide (job.params.mirrorSetId = some 1)) &&
          (chosen.world.db.mirrorSets.get? 1).any (fun mirrorSet => decide (mirrorSet.id = 1) &&
            mirrorSet.expectedMirrors.any fun name => decide (name ∈ later.world.aptly.mirrorNames)) &&
          (later.world.db.jobs.get? 1).any (fun ended => decide (ended.state = .succeeded)) &&
          (later.world.db.mirrorSets.get? 1).isNone) = true := by
    decide
  obtain ⟨before, first, forgotten⟩ := (Option.any_eq_true _ _).mp forgotten
  obtain ⟨chosen, stepped, forgotten⟩ := (Option.any_eq_true _ _).mp forgotten
  obtain ⟨last, second, forgotten⟩ := (Option.any_eq_true _ _).mp forgotten
  obtain ⟨honest, forgotten⟩ := Bool.and_eq_true_iff.mp forgotten
  obtain ⟨later, ends, forgotten⟩ := (Option.any_eq_true _ _).mp forgotten
  simp only [Bool.and_eq_true, Option.isNone_iff_eq_none, Option.any_eq_true, List.any_eq_true,
    decide_eq_true_eq] at forgotten
  obtain ⟨⟨⟨⟨absent, job, stored, type, named⟩, mirrorSet, described, id, name, expected, held⟩,
    ended, found, succeeded⟩, gone⟩ := forgotten
  rw [← id] at named described gone
  exact claimed _ _ _ _ _ _ _ _ _ _ 1 job ended mirrorSet (System.blank_fresh _ _) first stepped
    absent stored type named described second honest ends found succeeded gone name expected held

/-- The cache shows the mirror when the operator asks. -/
theorem removal_leaves_no_mirror_debian : ∃ chosen later : System, ∃ mirrorSet,
    chosen.world.db.mirrorSets.get? 1 = some mirrorSet ∧
    (∃ name ∈ mirrorSet.expectedMirrors, name ∈ chosen.world.aptly.mirrorNames) ∧
    later.world.db.mirrorSets.get? 1 = none ∧
    ∀ name ∈ mirrorSet.expectedMirrors, name ∉ later.world.aptly.mirrorNames := by
  have runs : (Sample.service.runUnder Sample.runner (fun _ _ => true)
      (Remove.asked Sample.mirrored.mirrors)).any
      (fun before => (before.step Sample.runner (.serve 0 .proceed)).any fun chosen =>
        (chosen.world.db.mirrorSets.get? 1).any fun mirrorSet =>
        (chosen.runUnder Sample.runner (fun system label => system.keepsListed 1 mirrorSet label)
          Remove.deleted).any fun last =>
        last.keepsListed 1 mirrorSet (.work .proceed) &&
        (last.step Sample.runner (.work .proceed)).any fun later =>
          (before.world.db.jobs.get? 1).isNone &&
          (chosen.world.db.jobs.get? 1).any (fun job => decide (job.type = .remove) &&
            job.lists mirrorSet chosen.world.aptly) &&
          (mirrorSet.expectedMirrors.any fun name => decide (name ∈ chosen.world.aptly.mirrorNames)) &&
          decide (∀ old, last.world.db.jobs.get? 1 = some old → old.state ≠ .succeeded) &&
          (later.world.db.jobs.get? 1).any (fun ended => decide (ended.state = .succeeded)) &&
          (later.world.db.mirrorSets.get? 1).isNone) = true := by
    decide
  obtain ⟨before, first, runs⟩ := (Option.any_eq_true _ _).mp runs
  obtain ⟨chosen, stepped, runs⟩ := (Option.any_eq_true _ _).mp runs
  obtain ⟨mirrorSet, described, runs⟩ := (Option.any_eq_true _ _).mp runs
  obtain ⟨last, second, runs⟩ := (Option.any_eq_true _ _).mp runs
  obtain ⟨permitted, runs⟩ := Bool.and_eq_true_iff.mp runs
  obtain ⟨later, ends, runs⟩ := (Option.any_eq_true _ _).mp runs
  simp only [Bool.and_eq_true, Option.isNone_iff_eq_none, Option.any_eq_true, List.any_eq_true,
    decide_eq_true_eq] at runs
  obtain ⟨⟨⟨⟨⟨absent, job, stored, type, listed⟩, held⟩, unended⟩, ended, found, succeeded⟩, gone⟩ :=
    runs
  have reached := (System.Reachable.of_runUnder first).mono fun _ _ _ => trivial
  exact ⟨chosen, later, mirrorSet, described, held, gone,
    removal_leaves_no_mirror (System.blank_fresh _ _) reached stepped absent stored type listed
      (.of_runUnder second) permitted ends unended found succeeded⟩

end AptlyGui
