import AptlyGui.Services.Jobs.Uses
import AptlyGui.Rules
import AptlyGui.Outline

/-!
# One writer at a time

The worker is meant to be the only writer into aptly's database.  The request
log says which tasks the runner has started and not yet seen finished; the law
is that it writes only when there are none.
-/

namespace AptlyGui

open Coroutine (Contract Safe SafeNow Settles Uses forEach)

/-! ## Tasks in flight -/

/-- The task this request started, if it started one; `some none` is a task whose id the runner
never learnt. -/
def Entry.started (entry : Entry) : Option (Option Int) :=
  if entry.request.startsTask then
    match entry.outcome with
    | .ok (.task task) => some (some task.id)
    | _ => if entry.carriedOut then some none else none
  else none

/-- The task this request has shown to be finished. -/
def Entry.finished (entry : Entry) : Option Int :=
  match entry.request, entry.outcome with
  | .getTask taskId, .ok (.task task) => if task.state.finished then some taskId else none
  | _, _ => none

/-- The tasks that were started and never seen finished. -/
def outstanding : List Entry → List (Option Int)
  | [] => []
  | entry :: earlier =>
      match entry.started, entry.finished with
      | some task, _ => task :: outstanding earlier
      | none, some taskId => (outstanding earlier).filter fun task => task ≠ some taskId
      | none, none => outstanding earlier

/-- Whenever a request was sent that changes aptly, no task was outstanding. -/
def SingleWriter : List Entry → Prop
  | [] => True
  | entry :: earlier =>
      (entry.request.writes = true → outstanding earlier = []) ∧ SingleWriter earlier

instance SingleWriter.decidable : (log : List Entry) → Decidable (SingleWriter log)
  | [] => .isTrue trivial
  | entry :: earlier =>
      have := SingleWriter.decidable earlier
      inferInstanceAs (Decidable ((entry.request.writes = true → outstanding earlier = []) ∧
        SingleWriter earlier))

theorem outstanding_of_silent {entry : Entry} {earlier : List Entry}
    (started : entry.started = none) (finished : entry.finished = none) :
    outstanding (entry :: earlier) = outstanding earlier := by
  simp [outstanding, started, finished]

theorem outstanding_of_not_started {entry : Entry} {earlier : List Entry}
    (started : entry.started = none) (quiet : outstanding earlier = []) :
    outstanding (entry :: earlier) = [] := by
  cases finished : entry.finished <;> simp [outstanding, started, finished, quiet]

theorem Entry.started_eq_none {entry : Entry} (starts : entry.request.startsTask = false) :
    entry.started = none := by
  simp [started, starts]

/-- The progress the runner has just been told, if that is the last thing it asked for. -/
def latestProgress : List Entry → Option TaskProgress
  | ⟨_, .taskProgress _, .ok (.progress progress), _⟩ :: _ => progress
  | _ => none

namespace JobRunner

/-- The disk guard does not trip on this storage reading. -/
def guardPasses (self : JobRunner) (log : List Entry) : Reply → Bool
  | .storage storage =>
      match latestProgress log with
      | some progress =>
          (checkSpace storage self.margin (some (progress.remainingBytes / (1024 * 1024)))).ok
      | none => true
  | _ => true

/-- While a task is in flight no call fails and the disk guard does not trip, and a call that
starts a task either fails without starting it or returns it. -/
def steady (self : JobRunner) (log : List Entry) (request : Request) : Event → Bool
  | .reply body _ =>
      if outstanding log = [] then !request.startsTask || (request.parse body).isOk
      else (request.parse body).isOk && self.guardPasses log body
  | .fault _ carriedOut _ => decide (outstanding log = []) && !(request.startsTask && carriedOut)
  | _ => true

end JobRunner

/-- The service is not stopped, and no job gives up while a task is in flight. -/
def System.steady (self : JobRunner) (system : System) (label : Label) : Bool :=
  uninterrupted label &&
    match label, system.worker.awaits with
    | .work event, some (.aptly request) => self.steady system.world.log request event
    | _, _ => true

/-! ## Jobs -/

namespace SingleWriter

def Quiet (world : World) : Prop := outstanding world.log = []

def contract (self : JobRunner) : Contract semantics where
  allowed world op event :=
    System.uninterrupted (.work event) = true ∧
      ∀ request, op = .aptly request → self.steady world.log request event = true
  rely := World.Others
  guarantee before after := SingleWriter before.log → SingleWriter after.log
  rely_refl := .refl
  rely_trans := .trans

theorem Quiet.passed {before after : World} (quiet : Quiet before) (passed : before.Others after) :
    Quiet after := by
  unfold Quiet
  rw [passed.log]
  exact quiet

/-- An operation that starts no task. -/
def Calm : Op → Prop
  | .aptly request => request.startsTask = false
  | _ => True

theorem Calm.of_bookkeeping {op : Op} (bookkeeping : op.bookkeeping) : Calm op := by
  cases op with
  | aptly request =>
      cases request <;> first | rfl | cases bookkeeping
  | _ => trivial

variable {self : JobRunner}

/-- Operations that start no task keep the runner quiet. -/
theorem quiet_of_calm {α : Type} {program : Program α} {world : World} (uses : program.Uses Calm)
    (quiet : Quiet world) :
    Safe (contract self) (fun _ => Quiet) (fun _ => Quiet) program world := by
  refine Safe.of_uses Quiet uses quiet (fun _ _ => Quiet.passed) ?_
  intro op before outcome after calm quiet committed
  obtain ⟨event, -, performed⟩ := committed
  cases asks : op.asksAptly with
  | false =>
      have same : after.log = before.log := (Op.perform_frame performed).log asks
      have silent : (contract self).guarantee before after := by
        intro single
        rw [same]
        exact single
      refine ⟨silent, ?_⟩
      unfold Quiet
      rw [same]
      exact quiet
  | true =>
      cases op with
      | aptly request =>
          obtain ⟨entry, grown, -, rfl⟩ := Op.log_of_aptly performed
          have started := entry.started_eq_none calm
          refine ⟨fun single => ?_, ?_⟩
          · rw [grown]
            exact ⟨fun _ => quiet, single⟩
          · unfold Quiet
            rw [grown]
            exact outstanding_of_not_started started quiet
      | _ => cases asks

theorem quiet_of_bookkeeping {α : Type} {program : Program α} {world : World}
    (uses : program.Uses Op.bookkeeping) (quiet : Quiet world) :
    Safe (contract self) (fun _ => Quiet) (fun _ => Quiet) program world :=
  quiet_of_calm (uses.mono fun _ => Calm.of_bookkeeping) quiet

/-! ### A task in flight -/

/-- Between two tasks, with a step of the job on record. -/
structure Ready (step : Nat) (world : World) : Prop where
  quiet : Quiet world
  whole : world.sessionBroken = false
  recorded : (world.db.steps.get? step).isSome

/-- The one task in flight, and the step that follows it. -/
structure Flying (step : Nat) (taskId : Int) (world : World) : Prop where
  flying : outstanding world.log = [some taskId]
  whole : world.sessionBroken = false
  recorded : (world.db.steps.get? step).isSome

theorem Ready.passed {step : Nat} {before after : World} (ready : Ready step before)
    (passed : before.Others after) : Ready step after where
  quiet := ready.quiet.passed passed
  whole := passed.sessionBroken.trans ready.whole
  recorded := by
    rw [passed.db.steps]
    exact ready.recorded

theorem Flying.passed {step : Nat} {taskId : Int} {before after : World}
    (flying : Flying step taskId before) (passed : before.Others after) :
    Flying step taskId after where
  flying := by
    rw [passed.log]
    exact flying.flying
  whole := passed.sessionBroken.trans flying.whole
  recorded := by
    rw [passed.db.steps]
    exact flying.recorded

/-- A new step is on record once its commit has returned. -/
theorem addStep_ready (jobId : Nat) (description : String) {world : World} (quiet : Quiet world) :
    Safe (contract self) Ready (fun _ => Quiet) (addStep jobId description) world := by
  refine Safe.bind (quiet_of_bookkeeping (uses_op trivial) quiet) fun position before quiet => ?_
  have still : ∀ broken, Quiet { before with sessionBroken := broken } := fun _ => quiet
  have ready : Safe (contract self) (fun (inserted : Inserted) => Ready inserted.step)
      (fun _ => Quiet) (commit .job [.addStep fun now =>
        { jobId, position, description, state := .running, startedAt := some now }]) before := by
    refine safe_commit ?_ ?_ ?_ ?_
    · intro db inserted _ whole committed
      cases committed
      have recorded : ∀ row, Ready before.db.steps.nextId { before with
          db := { before.db with steps := before.db.steps.insert row } } :=
        fun row => ⟨quiet, whole, by simp⟩
      exact .ok id fun later passed => (recorded _).passed passed
    · exact fun error _ _ _ => .error id fun later passed => (still true).passed passed
    · exact fun _ _ => .error id fun later passed => quiet.passed passed
    · intro applied reached permitted
      simp [contract, System.uninterrupted] at permitted
  exact Safe.bind ready fun inserted after ready => ready

theorem isOk_iff {ε α : Type} {outcome : Except ε α} :
    outcome.isOk = true ↔ ∃ value, outcome = .ok value := by
  cases outcome <;> simp [Except.isOk, Except.toBool]

/-- The id of the task that a call has started. -/
def taskId : (request : Request) → request.Ret → Option Int
  | .updateMirror _, task => some task.id
  | .deleteMirror _, task => some task.id
  | .publishSnapshots _ _ _ _ _, task => some task.id
  | .switchPublished _ _ _ _, task => some task.id
  | .dbCleanup, task => some task.id
  | _, _ => none

theorem parse_started {request : Request} (starts : request.startsTask = true) {body : Reply}
    {value : request.Ret} (parsed : request.parse body = .ok value) :
    ∃ task, body = .task task ∧ taskId request value = some task.id := by
  cases request <;> simp only [Request.startsTask, Bool.false_eq_true] at starts <;>
    cases body <;> cases parsed <;> exact ⟨_, rfl, rfl⟩

/-- A call that starts a task, sent while nothing is in flight. -/
theorem submit {request : Request} (starts : request.startsTask = true) {step : Nat}
    {world : World} (ready : Ready step world) :
    Safe (contract self)
      (fun value after => ∃ id, taskId request value = some id ∧ Flying step id after)
      (fun _ => Quiet) (perform (.aptly request)) world := by
  have quiet : outstanding world.log = [] := ready.quiet
  have single : ∀ outcome carriedOut reached, (contract self).guarantee world
      (world.record request outcome carriedOut reached) :=
    fun outcome carriedOut reached single => ⟨fun _ => quiet, single⟩
  refine safe_aptly ?_ ?_ ?_
  · intro body reached permitted
    have steady := permitted.2 request rfl
    simp only [JobRunner.steady, quiet, starts, if_true, Bool.not_true, Bool.false_or] at steady
    obtain ⟨value, parsed⟩ := isOk_iff.mp steady
    obtain ⟨task, rfl, named⟩ := parse_started starts parsed
    have flying : Flying step task.id (world.record request (.ok (.task task)) true reached) := by
      refine ⟨?_, ready.whole, ready.recorded⟩
      simp [outstanding, Entry.started, starts, quiet]
    rw [parsed]
    exact .ok (single _ _ _) fun later passed => ⟨task.id, named, flying.passed passed⟩
  · intro error carriedOut reached _ permitted
    have steady := permitted.2 request rfl
    have lost : carriedOut = false := by
      simpa [JobRunner.steady, quiet, starts] using steady
    have still : Quiet (world.record request (.error error) carriedOut reached) := by
      refine outstanding_of_not_started ?_ quiet
      simp [Entry.started, lost]
    exact .error (single _ _ _) fun later passed => still.passed passed
  · intro applied reached permitted
    simp [contract, System.uninterrupted] at permitted

/-- A commit of a step's row while a task is in flight. -/
theorem commit_flying {step : Nat} {id : Int} {change : Time → JobStep → JobStep} {world : World}
    {told : Option TaskProgress} (flying : Flying step id world)
    (latest : latestProgress world.log = told) :
    Safe (contract self) (fun _ after => Flying step id after ∧ latestProgress after.log = told)
      (fun _ => Quiet) (commit .job [.setStep step change]) world := by
  obtain ⟨row, found⟩ := Option.isSome_iff_exists.mp flying.recorded
  have stored : world.db.commit world.clock [.setStep step change] =
      .ok ({ world.db with steps := world.db.steps.update step (change world.clock) }, {}) := by
    simp [Database.commit, Database.writeAll, Database.write, found]
  apply safe_commit_stored flying.whole fun _ _ => stored
  · intro _
    have after : Flying step id { world with
        db := { world.db with steps := world.db.steps.update step (change world.clock) } } :=
      ⟨flying.flying, flying.whole, by simp [found]⟩
    refine .ok (fun single => single) fun later passed => ⟨after.passed passed, ?_⟩
    rw [passed.log]
    exact latest
  · intro applied reached permitted
    simp [contract, System.uninterrupted] at permitted

/-- While a task is in flight every question is answered. -/
theorem ask_flying {request : Request} (reads : request.writes = false) {step : Nat} {id : Int}
    {world : World} {returned : request.Ret → World → Prop} (flying : Flying step id world)
    (answered : ∀ body value reached later, request.parse body = .ok value →
      self.guardPasses world.log body = true →
      (world.record request (.ok body) true reached).Others later → returned value later) :
    Safe (contract self) returned (fun _ => Quiet) (perform (.aptly request)) world := by
  have busy : outstanding world.log ≠ [] := by simp [flying.flying]
  refine safe_aptly ?_ ?_ ?_
  · intro body reached permitted
    have steady := permitted.2 request rfl
    simp only [JobRunner.steady, if_neg busy, Bool.and_eq_true] at steady
    obtain ⟨value, parsed⟩ := isOk_iff.mp steady.1
    rw [parsed]
    refine .ok (fun single => ⟨fun writes => ?_, single⟩) fun later passed => ?_
    · simp [reads] at writes
    · exact answered body value reached later parsed steady.2 passed
  · intro error carriedOut reached _ permitted
    have steady := permitted.2 request rfl
    simp [JobRunner.steady, busy] at steady
  · intro applied reached permitted
    simp [contract, System.uninterrupted] at permitted

theorem Flying.asked {step : Nat} {id : Int} {world : World} (flying : Flying step id world)
    (entry : Entry) (reached : Aptly) (started : entry.started = none)
    (finished : entry.finished = none) :
    Flying step id { world with aptly := reached, log := entry :: world.log } where
  flying := by
    rw [outstanding_of_silent started finished]
    exact flying.flying
  whole := flying.whole
  recorded := flying.recorded

/-- The guard reads the storage right after the progress it is about. -/
theorem guardDisk_flying {step : Nat} {id : Int} {progress : TaskProgress} {world : World}
    (flying : Flying step id world) (told : latestProgress world.log = some progress) :
    Safe (contract self) (fun _ => Flying step id) (fun _ => Quiet)
      (self.guardDisk progress.remainingBytes) world := by
  have ok : Safe (contract self)
      (fun (storage : Storage) after => Flying step id after ∧ (checkSpace storage self.margin
        (some (progress.remainingBytes / (1024 * 1024)))).ok = true)
      (fun _ => Quiet) (perform (.aptly .storage)) world := by
    refine ask_flying rfl flying fun body value reached later parsed passes passed => ?_
    cases body <;> cases parsed
    have asked := flying.asked ⟨world.currentJob, .storage, .ok (.storage value), true⟩ reached
      rfl rfl
    refine ⟨asked.passed passed, ?_⟩
    simpa [JobRunner.guardPasses, told] using passes
  refine Safe.bind ok fun storage after room => ?_
  dsimp only
  rw [if_pos room.2]
  exact room.1

/-- The polling loop ends with nothing in flight. -/
theorem pollTask_quiet {step : Nat} {id : Int} (polls : Nat) (reported : Bool) {world : World}
    (flying : Flying step id world) :
    Safe (contract self) (fun _ => Quiet) (fun _ => Quiet)
      (self.pollTask step id polls reported) world := by
  apply safe_pollTask (Flying step id) (fun _ => Quiet)
    fun progress after => Flying step id after ∧ latestProgress after.log = progress
  case looks =>
    intro world flying
    refine ask_flying rfl flying fun body value reached later parsed _ passed => ?_
    cases body <;> cases parsed
    by_cases finished : value.state.finished = true
    · have quiet : Quiet (world.record (.getTask id) (.ok (.task value)) true reached) := by
        simp [Quiet, outstanding, Entry.started, Request.startsTask, Entry.finished, finished,
          flying.flying]
      rw [if_pos finished]
      exact quiet.passed passed
    · have asked := flying.asked ⟨world.currentJob, .getTask id, .ok (.task value), true⟩ reached
        rfl (by simp [Entry.finished, finished])
      rw [if_neg finished]
      exact asked.passed passed
  case reads => exact quiet_of_bookkeeping (uses_op rfl)
  case fails => exact fun _ quiet => quiet
  case succeeds => exact fun _ quiet => quiet
  case zeroes => exact fun _ => quiet_of_bookkeeping (uses_steps (by simp [Write.ofSteps]))
  case asks =>
    intro world flying
    refine ask_flying rfl flying fun body value reached later parsed _ passed => ?_
    cases body <;> cases parsed
    have asked := flying.asked
      ⟨world.currentJob, .taskProgress id, .ok (.progress value), true⟩ reached rfl rfl
    refine ⟨asked.passed passed, ?_⟩
    rw [passed.log]
    rfl
  case rests => exact fun known => known.1
  case notes => exact fun known => commit_flying known.1 known.2
  case guards => exact fun known => guardDisk_flying known.1 known.2
  case sleeps =>
    intro world flying
    refine safe_op fun event outcome after permitted performed => ?_
    cases event <;> cases performed
    · exact .ok (fun single => single) fun later passed => flying.passed passed
    · simp [contract, System.uninterrupted] at permitted
  case held => exact flying

theorem followTask_quiet {step : Nat} {task : Task} {world : World}
    (flying : Flying step task.id world) :
    Safe (contract self) (fun _ => Quiet) (fun _ => Quiet) (self.followTask step task) world := by
  refine Safe.bind (commit_flying flying rfl) fun _ after stored => ?_
  refine Safe.bind (pollTask_quiet self.polls false stored.1) fun output later quiet => ?_
  exact quiet_of_bookkeeping (finishStep_uses step .succeeded output) quiet

/-! ### Jobs -/

variable {jobId : Nat} {mirrorSet : MirrorSet} {world : World}

theorem sync_quiet (quiet : Quiet world) :
    Safe (contract self) (fun _ => Quiet) (fun _ => Quiet) (self.sync jobId mirrorSet) world := by
  refine Safe.forEach (fun _ => Quiet) quiet fun suite _ before quiet => ?_
  refine Safe.forEach (fun _ => Quiet) quiet fun component _ before quiet => ?_
  refine Safe.bind (addStep_ready jobId _ quiet) fun step ready begun => ?_
  refine Safe.bind (submit rfl begun) ?_
  rintro task after ⟨id, named, flying⟩
  cases named
  exact followTask_quiet flying

theorem update_quiet (quiet : Quiet world) :
    Safe (contract self) (fun _ => Quiet) (fun _ => Quiet) (self.update jobId mirrorSet) world := by
  have calm : ∀ op, JobRunner.OfUpdate jobId mirrorSet op → (∀ request, op ≠ .aptly request) →
      Calm op := by
    intro op _ silent
    cases op with
    | aptly request => exact absurd rfl (silent request)
    | _ => trivial
  refine Safe.bind (quiet_of_bookkeeping (self.preflight_uses jobId mirrorSet) quiet)
    fun _ _ quiet => ?_
  refine Safe.bind (quiet_of_calm (uses_op trivial) quiet) fun moment _ quiet => ?_
  refine Safe.bind (quiet_of_calm (uses_op trivial) quiet) fun inserted _ quiet => ?_
  refine Safe.bind (sync_quiet quiet) fun _ _ quiet => ?_
  refine Safe.bind ?_ fun _ _ quiet => quiet_of_calm (Uses.bind (uses_op trivial) fun _ => trivial) quiet
  refine Safe.foldEach (fun _ _ => Quiet) quiet fun suite _ _ _ quiet => ?_
  refine Safe.foldEach (fun _ _ => Quiet) quiet fun component _ _ _ quiet => ?_
  refine quiet_of_calm ?_ quiet
  refine Uses.bind ((addStep_uses jobId _).mono fun _ => Calm.of_bookkeeping) fun step => ?_
  refine Uses.bind (uses_op rfl) fun _ => Uses.bind (uses_op trivial) fun _ => trivial

theorem create_quiet (quiet : Quiet world) :
    Safe (contract self) (fun _ => Quiet) (fun _ => Quiet)
      (JobRunner.create jobId mirrorSet) world := by
  refine quiet_of_calm ((JobRunner.create_uses jobId mirrorSet).mono fun op used => ?_) quiet
  cases used with
  | bookkeeping reads => exact Calm.of_bookkeeping reads
  | createMirror _ _ => rfl

theorem reclaimSpace_quiet (quiet : Quiet world) :
    Safe (contract self) (fun _ => Quiet) (fun _ => Quiet) (self.reclaimSpace jobId) world := by
  refine Safe.bind (addStep_ready jobId _ quiet) fun step ready begun => ?_
  refine Safe.bind (submit rfl begun) ?_
  rintro task after ⟨id, named, flying⟩
  cases named
  exact followTask_quiet flying

theorem discard_quiet {params : JobParams} (quiet : Quiet world) :
    Safe (contract self) (fun _ => Quiet) (fun _ => Quiet) (self.discard jobId params) world := by
  refine Safe.bind (Safe.forEach (fun _ => Quiet) quiet fun name _ before quiet => ?_)
    fun _ _ quiet => ?_
  · refine quiet_of_calm ?_ quiet
    refine Uses.bind ((addStep_uses jobId _).mono fun _ => Calm.of_bookkeeping) fun step => ?_
    refine Uses.bind (Uses.catching (uses_op rfl) fun error => ?_) fun _ => ?_
    · exact (JobRunner.failStep_uses step error).mono fun _ => Calm.of_bookkeeping
    · exact (finishStep_uses step .succeeded _).mono fun _ => Calm.of_bookkeeping
  · refine Safe.bind (reclaimSpace_quiet quiet) fun _ _ quiet => quiet_of_calm ?_ quiet
    split
    · trivial
    · refine Uses.bind (uses_op trivial) fun found => ?_
      split
      · trivial
      · exact Uses.bind (uses_op trivial) fun _ => trivial

theorem remove_quiet {params : JobParams} {loaded : Option MirrorSet} (quiet : Quiet world) :
    Safe (contract self) (fun _ => Quiet) (fun _ => Quiet)
      (self.remove jobId params loaded) world := by
  refine Safe.bind (Safe.forEach (fun _ => Quiet) quiet fun name _ before quiet => ?_)
    fun _ _ quiet => ?_
  · refine Safe.bind (addStep_ready jobId _ quiet) fun step ready begun => ?_
    have deleted : Safe (contract self) (fun (task : Task) => Flying step task.id) (fun _ => Quiet)
        ((Client.deleteMirror name).catching (JobRunner.failStep step)) ready := by
      refine Coroutine.safe_catching.mpr ((submit rfl begun).mono ?_ fun error after quiet => ?_)
      · rintro task after ⟨id, named, flying⟩
        cases named
        exact flying
      · exact safe_failStep (fun _ =>
          quiet_of_bookkeeping (finishStep_uses step .failed error.str) quiet) fun _ => quiet
    exact Safe.bind deleted fun task after flying => followTask_quiet flying
  · refine Safe.bind (reclaimSpace_quiet quiet) fun _ _ quiet => quiet_of_calm ?_ quiet
    split
    · trivial
    · refine Uses.bind ?_ fun found => ?_
      · unfold JobRunner.getLoaded
        split
        · split
          · trivial
          · exact uses_op trivial
        · exact uses_op trivial
      · split
        · trivial
        · refine Uses.bind (uses_op trivial) fun owned => ?_
          exact Uses.bind (uses_op trivial) fun _ => trivial

theorem publishEach_quiet {target : SnapshotSet} {published : Dict (String × String) Published}
    {suite : String} (quiet : Quiet world) :
    Safe (contract self) (fun _ => Quiet) (fun _ => Quiet)
      (self.publishEach jobId mirrorSet target published suite) world := by
  unfold JobRunner.publishEach
  cases JobRunner.sourcesFor mirrorSet target suite with
  | error error => exact quiet
  | ok sources =>
      change Safe _ _ _ (Coroutine.bind (addStep jobId _) _) _
      refine Safe.bind (addStep_ready jobId _ quiet) fun step ready begun => ?_
      dsimp only
      split
      · refine Safe.bind (submit rfl begun) ?_
        rintro task after ⟨id, named, flying⟩
        cases named
        exact followTask_quiet flying
      · refine Safe.bind (submit rfl begun) ?_
        rintro task after ⟨id, named, flying⟩
        cases named
        exact followTask_quiet flying

theorem switch_quiet {params : JobParams} (quiet : Quiet world) :
    Safe (contract self) (fun _ => Quiet) (fun _ => Quiet)
      (self.switch jobId params mirrorSet) world := by
  unfold JobRunner.switch
  split
  · exact quiet
  · refine Safe.bind (quiet_of_calm (uses_op trivial) quiet) fun found _ quiet => ?_
    split
    · exact quiet
    · split
      · exact quiet
      · split
        · exact quiet
        · refine Safe.bind (quiet_of_calm (uses_op rfl) quiet) fun published _ quiet => ?_
          refine Safe.bind (Safe.forEach (fun _ => Quiet) quiet fun suite _ before quiet =>
            publishEach_quiet quiet) fun _ _ quiet => ?_
          refine Safe.bind (quiet_of_bookkeeping (JobRunner.verify_uses jobId mirrorSet _) quiet)
            fun _ _ quiet => ?_
          split
          · exact quiet
          · split
            · exact quiet
            · exact quiet_of_bookkeeping (JobRunner.checkAsClient_uses jobId mirrorSet _) quiet

theorem execute_quiet {job : Job} {loaded : Option MirrorSet} (quiet : Quiet world) :
    Safe (contract self) (fun _ => Quiet) (fun _ => Quiet)
      (self.execute jobId job loaded) world := by
  unfold JobRunner.execute
  split
  · exact discard_quiet quiet
  · exact remove_quiet quiet
  · exact quiet
  · exact create_quiet quiet
  · exact update_quiet quiet
  · exact switch_quiet quiet
  · exact quiet

theorem runLoaded_quiet {job : Job} {loaded : Option MirrorSet} (quiet : Quiet world) :
    Safe (contract self) (fun _ => Quiet) (fun _ => Quiet)
      (self.runLoaded jobId job loaded) world := by
  have settling : ∀ state error, (JobRunner.settle jobId job loaded state error).Uses Calm :=
    fun state error => Uses.bind (uses_op trivial) fun _ => trivial
  unfold JobRunner.runLoaded
  split
  · exact quiet
  · refine Safe.bind (quiet_of_calm (uses_op trivial) quiet) fun _ _ quiet => ?_
    refine safe_supervise Quiet (fun _ => Quiet) (execute_quiet quiet) ?_ ?_ ?_
    · exact fun after quiet => quiet_of_calm (settling _ _) quiet
    · intro error after _ quiet
      refine quiet_of_calm (Uses.bind (Uses.attempt ?_) fun recorded => ?_) quiet
      · exact Uses.bind (uses_op trivial) fun running => Uses.bind (uses_op trivial) fun _ => trivial
      · exact Uses.bind (settling _ _) fun _ => Coroutine.uses_ofExcept _
    · exact fun error after _ quiet => quiet_of_calm (Uses.bind (settling _ _) fun _ => trivial) quiet

theorem runJob_quiet (quiet : Quiet world) :
    Safe (contract self) (fun _ => Quiet) (fun _ => Quiet) (self.runJob jobId) world := by
  refine Safe.bind (quiet_of_calm (uses_op trivial) quiet) fun _ _ quiet => ?_
  refine Safe.bind (quiet_of_calm (uses_op trivial) quiet) fun found _ quiet => ?_
  split
  · exact quiet
  · split
    · exact runLoaded_quiet quiet
    · refine Safe.bind (quiet_of_calm (uses_op trivial) quiet) fun mirrorSet _ quiet => ?_
      exact runLoaded_quiet quiet

/-! ### The service -/

def outline {start : System} (fresh : start.Fresh) : Outline self (fun system label => system.steady self label) start where
  contract := contract self
  always world := SingleWriter world.log
  rest _ := Quiet
  requests := fresh.requests_use
  entry := by simp [fresh.log, SingleWriter]
  begins := .fresh fresh (by simp [Quiet, fresh.log, outstanding])
  relies single passed := by
    rw [World.Others.log passed]
    exact single
  guarantees single kept := kept single
  unmoved single _ log _ _ := by
    rw [log]
    exact single
  recovers single := single
  stays quiet passed := quiet.passed passed
  others reached _ external stepped :=
    System.others_of_external (reached.requests_use fresh.requests_use) external stepped
  allows := by
    intro system event op resume _ permitted running
    simp only [System.steady, Bool.and_eq_true] at permitted
    refine ⟨permitted.1, ?_⟩
    rintro request rfl
    simpa [running, Worker.awaits] using permitted.2
  takes := by
    intro system jobId waiting _ _ _ _ _ quiet later passed
    have taken : Quiet (system.world.take jobId waiting) := quiet
    have begun := taken.passed passed
    refine (runJob_quiet begun).mono (fun _ _ quiet => quiet) fun error after quiet => ?_
    rw [Quiet, World.released_log]
    exact quiet
  crashes _ permitted _ _ := by simp [System.steady, System.uninterrupted] at permitted
  starts _ quiet := quiet

end SingleWriter

/-- Every state-changing request is sent with no task in flight, in every run in which no job
gives up on a task that is still in flight. -/
theorem single_writer {self : JobRunner} {start system : System} (fresh : start.Fresh)
    (reached : System.Reachable self (fun system label => system.steady self label) start system) :
    SingleWriter system.world.log :=
  ((SingleWriter.outline fresh).holds reached).always

namespace SingleWriter

/-! ### Two removals -/

def unmanaged (name : String) : Mirror :=
  ⟨name, "http://deb.example.org/debian", "stable", ["main"], ["amd64"], none⟩

def held : Aptly := ⟨[unmanaged "a", unmanaged "b"], [], []⟩

/-- The operator deletes an unmanaged mirror. -/
def requestRemoval (index : Nat) (name : String) : List Label :=
  [.arrive (.web (.mirrorDelete "operator" name)), .serve index (.cached ⟨held.mirrors, [], []⟩),
    .serve index .proceed, .serve index .proceed, .serve index .proceed]

/-- The worker takes the job and starts aptly's task. -/
def startRemoval (taskId : Int) : List Label :=
  .take :: List.replicate 5 (.work .proceed) ++
    [.work (.reply (.task ⟨taskId, "Delete mirror", .queued⟩) held), .work .proceed]

/-- A poll fails while the first deletion runs in aptly; its job gives up, and the next one
starts another deletion. -/
def lostPoll : List Label :=
  .start :: requestRemoval 0 "a" ++ requestRemoval 1 "b" ++ startRemoval 7 ++
    [.work (.fault (.aptlyError "connection reset") false held), .work .proceed, .work .proceed,
      .work .proceed] ++ startRemoval 8

/-- The deletion is seen to finish before the job asks for the cleanup. -/
def removal : List Label :=
  .start :: requestRemoval 0 "a" ++ startRemoval 7 ++
    [.work (.reply (.task ⟨7, "Delete mirror", .succeeded⟩) held), .work (.reply (.output "") held),
      .work .proceed, .work .proceed, .work .proceed,
      .work (.reply (.task ⟨8, "Cleanup", .queued⟩) held)]

end SingleWriter

theorem not_single_writer : ¬ ∀ (self : JobRunner) (start system : System) (labels : List Label),
    start.Fresh → (∀ label ∈ labels, System.uninterrupted label = true) →
    start.run self labels = some system → SingleWriter system.world.log := by
  intro claimed
  have broken : ((System.blank .empty SingleWriter.held).run Sample.runner
      SingleWriter.lostPoll).any (fun system => !decide (SingleWriter system.world.log)) = true := by
    decide
  obtain ⟨system, ran, violated⟩ := (Option.any_eq_true _ _).mp broken
  simp only [Bool.not_eq_true', decide_eq_false_iff_not] at violated
  exact violated (claimed _ _ _ _ (System.blank_fresh _ _) (by decide) ran)

theorem single_writer_removal : ∃ system,
    (System.blank .empty SingleWriter.held).runUnder Sample.runner
      (fun system label => system.steady Sample.runner label) SingleWriter.removal =
        some system ∧ SingleWriter system.world.log := by
  obtain ⟨system, ran⟩ := Option.isSome_iff_exists.mp (by decide :
    ((System.blank .empty SingleWriter.held).runUnder Sample.runner
      (fun system label => system.steady Sample.runner label)
      SingleWriter.removal).isSome = true)
  exact ⟨system, ran, single_writer (System.blank_fresh _ _) (.of_runUnder ran)⟩

end AptlyGui
