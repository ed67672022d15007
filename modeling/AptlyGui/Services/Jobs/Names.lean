import AptlyGui.Services.Stamp
import AptlyGui.Outline
import AptlyGui.Services.Jobs.Alone

/-!
# The names of snapshots

An UPDATE job names all its snapshots after the mirror and the minute in which
it read the clock, between its preflight and its first download.  Two jobs that
read the clock in different minutes never ask aptly for the same name; two that
do so in one minute ask for the same names.
-/

namespace AptlyGui

open Coroutine (Contract Safe Uses)

/-- The mirror and the name of the snapshot that the call asks for. -/
def Request.takesSnapshot : Request → Option (String × String)
  | .createSnapshotFromMirror mirror name _ => some (mirror, name)
  | _ => none

def Op.takesSnapshot : Op → Option (String × String)
  | .aptly request => request.takesSnapshot
  | _ => none

/-- The job has asked aptly for a snapshot of this mirror with this name. -/
def World.Requests (world : World) (jobId : Nat) (mirror name : String) : Prop :=
  ∃ entry ∈ world.log, entry.job = some jobId ∧ entry.request.takesSnapshot = some (mirror, name)

instance (world : World) (jobId : Nat) (mirror name : String) :
    Decidable (world.Requests jobId mirror name) :=
  inferInstanceAs (Decidable (∃ entry ∈ world.log,
    entry.job = some jobId ∧ entry.request.takesSnapshot = some (mirror, name)))

namespace System

/-- The running job reads the clock. -/
def reading (system : System) : Label → Option (Nat × Time)
  | .work _ =>
      match system.worker.awaits, system.world.currentJob with
      | some .now, some jobId => some (jobId, system.world.clock)
      | _, _ => none
  | _ => none

/-- Which job reads the clock when in a run. -/
def readings (self : JobRunner) (system : System) : List Label → List (Nat × Time)
  | [] => []
  | label :: rest =>
      (system.reading label).toList ++
        ((system.step self label).map fun next => next.readings self rest).getD []

/-- Jobs read the clock only at these times. -/
def ReadsAt (read : Nat → Time → Prop) (system : System) (label : Label) : Prop :=
  ∀ jobId time, system.reading label = some (jobId, time) → read jobId time

end System

/-- A job has read the clock before it asks for a snapshot, whose name has the stamp of that time. -/
def World.Stamped (read : Nat → Time → Prop) (world : World) : Prop :=
  ∀ entry ∈ world.log, ∀ mirror name, entry.request.takesSnapshot = some (mirror, name) →
    ∃ jobId time, entry.job = some jobId ∧ read jobId time ∧
      name = s!"{mirror}-{snapshotStamp time}"

namespace Names

/-- The clock is read only at these times. -/
def contract (read : Nat → Time → Prop) : Contract semantics where
  allowed world op _ := op = .now → ∀ jobId, world.currentJob = some jobId → read jobId world.clock
  rely before after := before.Others after
  guarantee before after := before.Stamped read → after.Stamped read
  rely_refl := .refl
  rely_trans before after := before.trans after

/-- The job's operation asks for no snapshot, or for one with the stamp of a time it has read. -/
def Named (read : Nat → Time → Prop) (jobId : Nat) (op : Op) : Prop :=
  op.ofJob jobId ∧ ∀ mirror name, op.takesSnapshot = some (mirror, name) →
    ∃ time, read jobId time ∧ name = s!"{mirror}-{snapshotStamp time}"

variable {read : Nat → Time → Prop} {self : JobRunner} {jobId : Nat} {mirrorSet : MirrorSet}
  {world : World} {α : Type}

theorem Named.of_quiet {op : Op} (own : op.ofJob jobId) (quiet : op.takesSnapshot = none) :
    Named read jobId op := by
  refine ⟨own, fun mirror name created => ?_⟩
  rw [quiet] at created
  cases created

theorem Named.of_bookkeeping {op : Op} (bookkeeping : op.bookkeeping) : Named read jobId op := by
  refine .of_quiet (Op.ofJob_of_bookkeeping bookkeeping) ?_
  cases op with
  | aptly request => cases request <;> first | rfl | cases bookkeeping
  | _ => rfl

theorem Named.of_closes {op : Op} (closes : op.closes jobId) : Named read jobId op := by
  refine .of_quiet (Op.ofJob_of_closes closes) ?_
  cases op with
  | aptly request => exact closes.elim
  | _ => rfl

theorem stamped_of_perform {op : Op} {event : Event} {before after : World}
    {outcome : Except Exn op.Ret} (named : Named read jobId op)
    (current : before.currentJob = some jobId)
    (performed : op.perform event before = some (outcome, after)) (stamped : before.Stamped read) :
    after.Stamped read := by
  cases op with
  | aptly request =>
      obtain ⟨newest, grown, sender, rfl⟩ := Op.log_of_aptly performed
      intro entry listed mirror name created
      rw [grown] at listed
      rcases List.mem_cons.mp listed with rfl | old
      · obtain ⟨time, known, named⟩ := named.2 mirror name created
        exact ⟨jobId, time, sender.trans current, known, named⟩
      · exact stamped entry old mirror name created
  | _ =>
      intro entry listed
      rw [(Op.perform_frame performed).log rfl] at listed
      exact stamped entry listed

theorem safe_named {program : Program α} (uses : program.Uses (Named read jobId))
    (current : world.currentJob = some jobId) :
    Safe (contract read) (fun _ after => after.currentJob = some jobId)
      (fun _ after => after.currentJob = some jobId) program world := by
  refine Safe.of_uses (fun (after : World) => after.currentJob = some jobId) uses current ?_ ?_
  · exact fun before after current passed => passed.currentJob.trans current
  · rintro op before outcome after named current ⟨event, -, performed⟩
    exact ⟨stamped_of_perform named current performed,
      Op.current_of_perform named.1 performed current⟩

/-! ### The work -/

theorem sync_named : (self.sync jobId mirrorSet).Uses (Named read jobId) := by
  refine Uses.forEach fun suite _ => Uses.forEach fun component _ => ?_
  refine Uses.bind ((addStep_uses jobId _).mono fun _ => .of_bookkeeping) fun step => ?_
  refine Uses.bind (uses_op (.of_quiet trivial rfl)) fun task => ?_
  exact (self.followTask_uses step task).mono fun _ => .of_bookkeeping

theorem takeSnapshots_named {moment : Time} {snapshotSet : Nat} (known : read jobId moment) :
    (JobRunner.takeSnapshots jobId mirrorSet (snapshotStamp moment) snapshotSet).Uses
      (Named read jobId) := by
  refine Uses.foldEach fun suite _ taken => Uses.foldEach fun component _ taken => ?_
  refine Uses.bind ((addStep_uses jobId _).mono fun _ => .of_bookkeeping) fun step => ?_
  refine Uses.bind (uses_op ⟨trivial, ?_⟩) fun _ => ?_
  · rintro mirror name ⟨⟩
    exact ⟨moment, known, rfl⟩
  · refine Uses.bind (uses_op (.of_quiet ?_ rfl)) fun _ => trivial
    simp [Op.ofJob, Write.ofJob, endStep]

/-- The one reading of the clock comes before all snapshots. -/
theorem update_safe (current : world.currentJob = some jobId) :
    Safe (contract read) (fun _ after => after.currentJob = some jobId)
      (fun _ after => after.currentJob = some jobId) (self.update jobId mirrorSet) world := by
  refine Safe.bind (safe_named ((self.preflight_uses jobId mirrorSet).mono
    fun _ => .of_bookkeeping) current) fun _ checked current => ?_
  have reads : Safe (contract read)
      (fun moment after => read jobId moment ∧ after.currentJob = some jobId)
      (fun _ after => after.currentJob = some jobId) currentTime checked := by
    refine safe_op fun event outcome after permitted performed => ?_
    cases event <;> cases performed
    refine .ok id fun later passed => ⟨permitted rfl jobId current, ?_⟩
    exact passed.currentJob.trans current
  refine Safe.bind reads ?_
  rintro moment read ⟨known, current⟩
  apply safe_named _ current
  refine Uses.bind (uses_op (.of_quiet ?_ rfl)) fun inserted => ?_
  · simp [Op.ofJob, Write.ofJob]
  · refine Uses.bind sync_named fun _ => Uses.bind (takeSnapshots_named known) fun _ => ?_
    refine Uses.bind (uses_op (.of_quiet ?_ rfl)) fun _ => trivial
    simp [Op.ofJob, Write.ofJob]

/-- Every other job asks for no snapshot. -/
theorem discard_named {params : JobParams} :
    (self.discard jobId params).Uses (Named read jobId) := by
  refine (self.discard_uses jobId params).mono fun op used => ?_
  cases used with
  | bookkeeping reads => exact .of_bookkeeping reads
  | deleteSnapshot _ => exact .of_quiet trivial rfl
  | dbCleanup => exact .of_quiet trivial rfl
  | deleteSet => exact .of_quiet (by simp [Op.ofJob, Write.ofJob]) rfl

theorem remove_named {params : JobParams} {loaded : Option MirrorSet} :
    (self.remove jobId params loaded).Uses (Named read jobId) := by
  refine (self.remove_uses jobId params loaded).mono fun op used => ?_
  cases used with
  | bookkeeping reads => exact .of_bookkeeping reads
  | deleteMirror _ => exact .of_quiet trivial rfl
  | dbCleanup => exact .of_quiet trivial rfl
  | forget => exact .of_quiet (JobRunner.ofJob_of_work .forget) rfl

theorem create_named : (JobRunner.create jobId mirrorSet).Uses (Named read jobId) := by
  refine (JobRunner.create_uses jobId mirrorSet).mono fun op used => ?_
  cases used with
  | bookkeeping reads => exact .of_bookkeeping reads
  | createMirror _ _ => exact .of_quiet trivial rfl

theorem switch_named {params : JobParams} :
    (self.switch jobId params mirrorSet).Uses (Named read jobId) := by
  unfold JobRunner.switch
  split
  · trivial
  · refine Uses.bind (uses_op (.of_quiet trivial rfl)) fun found => ?_
    split
    · trivial
    · split
      · trivial
      · split
        · trivial
        · refine (self.publishSuites_uses jobId mirrorSet _).mono fun op used => ?_
          cases used with
          | bookkeeping reads => exact .of_bookkeeping reads
          | switchPublished _ _ => exact .of_quiet trivial rfl
          | publishSnapshots _ _ => exact .of_quiet trivial rfl

theorem execute_safe {job : Job} {loaded : Option MirrorSet}
    (current : world.currentJob = some jobId) :
    Safe (contract read) (fun _ after => after.currentJob = some jobId)
      (fun _ after => after.currentJob = some jobId) (self.execute jobId job loaded) world := by
  unfold JobRunner.execute
  split
  · exact safe_named discard_named current
  · exact safe_named remove_named current
  · exact current
  · exact safe_named create_named current
  · exact update_safe current
  · exact safe_named switch_named current
  · exact current

/-- Around the work there are only the job's own row and the closing operations. -/
theorem runLoaded_safe {job : Job} {loaded : Option MirrorSet}
    (current : world.currentJob = some jobId) :
    Safe (contract read) (fun _ _ => True) (fun _ _ => True) (self.runLoaded jobId job loaded)
      world := by
  have closing : ∀ {program : Program Unit} {world : World}, program.Uses (Op.closes jobId) →
      world.currentJob = some jobId →
      Safe (contract read) (fun _ _ => True) (fun _ _ => True) program world :=
    fun closes current => (safe_named (closes.mono fun _ => .of_closes) current).mono
      (fun _ _ _ => trivial) fun _ _ _ => trivial
  have settles : ∀ state error, state ≠ .queued →
      (JobRunner.settle jobId job loaded state error).Uses (Op.closes jobId) :=
    fun state error ended => JobRunner.settle_uses jobId job loaded error ended
  unfold JobRunner.runLoaded
  split
  · trivial
  · have starts : Named read jobId (.commit .job [.setJob jobId fun now row =>
        { row with
          state := .running
          startedAt := some now
          expectedSteps := some (JobRunner.announcedSteps job loaded) }]) :=
      .of_quiet (by simp [Op.ofJob, Write.ofJob, Job.Advances]) rfl
    have started := (safe_named (uses_op starts) current).mono
      (fun _ _ current => current) fun _ _ _ => trivial
    refine Safe.bind started fun _ begun current => ?_
    refine safe_supervise (fun after => after.currentJob = some jobId)
      (fun _ after => after.currentJob = some jobId) (execute_safe current) ?_ ?_ ?_
    · exact fun after current => closing (settles _ _ (by decide)) current
    · intro error after _ current
      refine closing (Uses.bind (JobRunner.failRunningSteps_uses jobId _).attempt fun recorded => ?_)
        current
      exact Uses.bind (settles _ _ (by decide)) fun _ => Coroutine.uses_ofExcept _
    · exact fun error after _ current =>
        closing (Uses.bind (settles _ _ (by decide)) fun _ => trivial) current

theorem runJob_safe :
    Safe (contract read) (fun _ _ => True) (fun _ _ => True) (self.runJob jobId) world := by
  have begins : Safe (contract read) (fun (_ : Unit) after => after.currentJob = some jobId)
      (fun _ _ => True) (beginJob jobId) world := by
    apply safe_beginJob
    exact .ok id fun later passed => passed.currentJob
  refine Safe.bind begins fun _ begun current => ?_
  have reading : ∀ {op : Op} {world : World}, op.takesSnapshot = none → op.ofJob jobId →
      world.currentJob = some jobId → Safe (contract read)
        (fun (_ : op.Ret) after => after.currentJob = some jobId) (fun _ _ => True) (perform op) world :=
    fun quiet own current => (safe_named (uses_op (.of_quiet own quiet)) current).mono
      (fun _ _ current => current) fun _ _ _ => trivial
  refine Safe.bind (@reading (.getJob .job jobId) begun rfl trivial current) fun found known current => ?_
  split
  · trivial
  · split
    · exact runLoaded_safe current
    · rename_i mirrorSetId _
      exact Safe.bind (@reading (.getMirrorSet .job mirrorSetId) known rfl trivial current)
        fun mirrorSet _ current => runLoaded_safe current

/-! ### The service -/

theorem Stamped.of_log {before after : World} (stamped : before.Stamped read)
    (log : after.log = before.log) : after.Stamped read := by
  intro entry listed
  rw [log] at listed
  exact stamped entry listed

def outline {start : System} (fresh : start.Fresh) :
    Outline self (System.ReadsAt read) start where
  contract := contract read
  always := World.Stamped read
  rest _ _ := True
  requests := fresh.requests_use
  entry := by simp [World.Stamped, fresh.log]
  begins := .fresh fresh trivial
  relies stamped passed := Stamped.of_log stamped passed.log
  guarantees stamped kept := kept stamped
  unmoved stamped _ log _ _ := Stamped.of_log stamped log
  recovers stamped := stamped
  stays _ _ := trivial
  others reached _ external stepped :=
    System.others_of_external (reached.requests_use fresh.requests_use) external stepped
  allows := by
    rintro system event op resume _ permitted running rfl jobId current
    exact permitted jobId system.world.clock (by simp [System.reading, running, Worker.awaits, current])
  takes _ _ _ _ _ _ := fun _ _ => runJob_safe
  crashes _ _ _ _ := trivial
  starts _ _ := trivial

/-- Along a run, jobs read the clock when they do. -/
theorem reachable_of_run {start system : System} {labels : List Label}
    (ran : start.run self labels = some system) :
    System.Reachable self (System.ReadsAt fun jobId time => (jobId, time) ∈ start.readings self labels)
      start system := by
  induction labels generalizing start with
  | nil =>
      cases ran
      exact .refl
  | cons label rest inductionHypothesis =>
      obtain ⟨next, stepped, ran⟩ := Option.bind_eq_some_iff.mp ran
      have whole : start.readings self (label :: rest) =
          (start.reading label).toList ++ next.readings self rest := by
        simp [System.readings, stepped]
      have first : System.ReadsAt (fun jobId time =>
          (jobId, time) ∈ start.readings self (label :: rest)) start label := by
        intro jobId time reads
        simp [whole, reads]
      refine System.Reachable.trans (.step .refl first stepped) ?_
      refine (inductionHypothesis ran).mono fun system label reads jobId time now => ?_
      rw [whole]
      exact List.mem_append_right _ (reads jobId time now)

end Names

/-- The name that a job has requested has the stamp of a time at which it has read the clock. -/
theorem World.Requests.stamped {self : JobRunner} {start system : System}
    {read : Nat → Time → Prop} {jobId : Nat} {mirror name : String} (fresh : start.Fresh)
    (reached : System.Reachable self (System.ReadsAt read) start system)
    (requested : system.world.Requests jobId mirror name) :
    ∃ time, read jobId time ∧ name = s!"{mirror}-{snapshotStamp time}" := by
  obtain ⟨entry, listed, sender, created⟩ := requested
  obtain ⟨sent, time, same, known, named⟩ :=
    ((Names.outline fresh).holds reached).always entry listed mirror name created
  rw [sender] at same
  cases same
  exact ⟨time, known, named⟩

/-- Jobs that have read the clock each in one minute have requested the same name for a mirror if
and only if it was the same minute. -/
theorem same_name_iff {self : JobRunner} {start system : System} {minute : Nat → Nat}
    (fresh : start.Fresh)
    (reached : System.Reachable self
      (System.ReadsAt fun jobId time => minuteOf time = minute jobId) start system)
    {first second : Nat} {mirror other name name' : String}
    (requested : system.world.Requests first mirror name)
    (requested' : system.world.Requests second other name') :
    name = name' ↔ mirror = other ∧ minute first = minute second := by
  obtain ⟨time, inMinute, rfl⟩ := requested.stamped fresh reached
  obtain ⟨time', inMinute', rfl⟩ := requested'.stamped fresh reached
  rw [stamped_inj, inMinute, inMinute']

/-- Two jobs never request the same name in a run in which they do not read the clock in the same
minute. -/
theorem names_apart {self : JobRunner} {start system : System} {labels : List Label}
    (fresh : start.Fresh) (ran : start.run self labels = some system) {first second : Nat}
    (apart : ∀ time time', (first, time) ∈ start.readings self labels →
      (second, time') ∈ start.readings self labels → minuteOf time ≠ minuteOf time')
    {mirror other name : String} (requested : system.world.Requests first mirror name) :
    ¬ system.world.Requests second other name := by
  intro again
  obtain ⟨time, read, rfl⟩ := requested.stamped fresh (Names.reachable_of_run ran)
  obtain ⟨time', read', same⟩ := again.stamped fresh (Names.reachable_of_run ran)
  exact apart time time' read read' (stamped_inj.mp same).2

namespace Names

/-- The operator has the set synced twice, and the first job goes through. -/
def first : List Label :=
  [.start, .arrive (.web (.setUpdate "operator" 1)), .arrive (.web (.setUpdate "operator" 1)),
    .serve 0 .proceed, .serve 0 .proceed, .serve 1 .proceed, .serve 1 .proceed, .take] ++
    Sample.updated.map .work

/-- The second job starts this much later, and gets as far as its snapshot. -/
def second (elapsed : Nat) : List Label :=
  [.tick elapsed, .take] ++ (Sample.updated.take 20).map .work ++
    [.work (.fault (.aptlyError "snapshot already exists") false Sample.mirrored)]

/-- Two UPDATE jobs of the one mirror set. -/
def updatesTwice (system : System) : Bool :=
  [1, 2].all fun jobId => (system.world.db.jobs.get? jobId).any fun job =>
    decide (job.type = .update ∧ job.mirrorSetId = some 1)

end Names

theorem names_apart_minutes : ∃ system,
    Sample.service.run Sample.runner (Names.first ++ Names.second 60000000) = some system ∧
      system.world.Requests 1 "stable-main" "stable-main-19700101T0000Z" ∧
      ¬ system.world.Requests 2 "stable-main" "stable-main-19700101T0000Z" := by
  have runs : (Sample.service.run Sample.runner (Names.first ++ Names.second 60000000)).any
      (fun system =>
        decide (system.world.Requests 1 "stable-main" "stable-main-19700101T0000Z")) = true := by
    decide +kernel
  have read : Sample.service.readings Sample.runner (Names.first ++ Names.second 60000000) =
      [(1, 0), (2, 60000000)] := by
    decide +kernel
  obtain ⟨system, ran, requested⟩ := (Option.any_eq_true _ _).mp runs
  have requested := of_decide_eq_true requested
  have fresh : Sample.service.Fresh := System.blank_fresh _ _
  refine ⟨system, ran, requested, names_apart fresh ran ?_ requested⟩
  intro time time' first second
  rw [read] at first second
  simp only [List.mem_cons, Prod.mk.injEq, List.not_mem_nil, or_false] at first second
  obtain ⟨-, rfl⟩ | ⟨impossible, -⟩ := first
  · obtain ⟨impossible, -⟩ | ⟨-, rfl⟩ := second
    · cases impossible
    · decide
  · cases impossible

/-- With nothing to download, two jobs are through within one minute, and both ask for the same
name. -/
theorem not_names_apart : ¬ ∀ (self : JobRunner) (start system : System) (labels : List Label)
    (first second setId : Nat) (job job' : Job), start.Fresh →
    start.run self labels = some system → first ≠ second →
    system.world.db.jobs.get? first = some job → job.type = .update →
    job.mirrorSetId = some setId →
    system.world.db.jobs.get? second = some job' → job'.type = .update →
    job'.mirrorSetId = some setId →
    ∀ mirror other name, system.world.Requests first mirror name →
      ¬ system.world.Requests second other name := by
  intro claimed
  have runs : (Sample.service.run Sample.runner (Names.first ++ Names.second 5000000)).any
      (fun system => Names.updatesTwice system &&
        decide (system.world.Requests 1 "stable-main" "stable-main-19700101T0000Z" ∧
          system.world.Requests 2 "stable-main" "stable-main-19700101T0000Z")) = true := by
    decide +kernel
  obtain ⟨system, ran, facts⟩ := (Option.any_eq_true _ _).mp runs
  simp only [Names.updatesTwice, Bool.and_eq_true, List.all_cons, List.all_nil, Option.any_eq_true,
    decide_eq_true_eq, and_true] at facts
  obtain ⟨⟨⟨job, found, update, ofSet⟩, job', found', update', ofSet'⟩, requested, again⟩ := facts
  exact claimed Sample.runner Sample.service system (Names.first ++ Names.second 5000000) 1 2 1 job
    job' (System.blank_fresh _ _) ran (by decide) found update ofSet found' update' ofSet' _ _ _
    requested again

end AptlyGui
