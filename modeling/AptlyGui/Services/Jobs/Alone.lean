import AptlyGui.Services.Jobs.Frame
import AptlyGui.Rules

/-!
# A job that nothing interferes with

What one job writes into its step log, asks aptly to publish and reads of
aptly's publications is its trace.  The rules of this module follow the trace
through the program of a job that runs alone and is not cancelled.
-/

namespace AptlyGui

open Coroutine (Contract Safe Settles Uses)

/-! ## Traces -/

/-- One request and what came of it. -/
structure Exchange where
  request : Request
  outcome : Except Exn Reply

/-- The request belongs to the waiting for a task. -/
def Request.polls : Request → Bool
  | .getTask _ | .taskOutput _ | .taskProgress _ | .storage => true
  | _ => false

structure Trace where
  /-- description and state of each step -/
  steps : List (String × StepState)
  sent : List Exchange
  snapshotSets : Table SnapshotSet

namespace Trace

def step (trace : Trace) (description : String) (state : StepState) : Trace :=
  { trace with steps := trace.steps ++ [(description, state)] }

def saw (trace : Trace) (more : List Exchange) : Trace := { trace with sent := trace.sent ++ more }

/-- The steps still open have become failed ones. -/
def failed (trace : Trace) : Trace :=
  { trace with
    steps := trace.steps.map fun step =>
      (step.1, if step.2 = .running then .failed else step.2) }

theorem saw_nil (trace : Trace) : trace.saw [] = trace := by
  simp [saw]

theorem saw_saw (trace : Trace) (first second : List Exchange) :
    (trace.saw first).saw second = trace.saw (first ++ second) := by
  simp [saw]

end Trace

def Database.stepsOf (db : Database) (jobId : Nat) : List JobStep :=
  db.steps.rows.filter fun row => row.jobId = jobId

/-- The requests of the job, oldest first. -/
def World.sentBy (world : World) (jobId : Nat) : List Exchange :=
  ((world.log.filter fun entry => entry.job = some jobId).map
    fun entry => ⟨entry.request, entry.outcome⟩).reverse

def World.traceOf (world : World) (jobId : Nat) : Trace where
  steps := (world.db.stepsOf jobId).map fun row => (row.description, row.state)
  sent := world.sentBy jobId
  snapshotSets := world.db.snapshotSets

theorem World.traceOf_record {world : World} {jobId : Nat} (current : world.currentJob = some jobId)
    (request : Request) (outcome : Except Exn Reply) (carriedOut : Bool) (after : Aptly) :
    (world.record request outcome carriedOut after).traceOf jobId =
      (world.traceOf jobId).saw [⟨request, outcome⟩] := by
  simp [traceOf, Trace.saw, sentBy, current]

theorem World.traceOf_of_same {before after : World} {jobId : Nat} (db : after.db = before.db)
    (log : after.log = before.log) : after.traceOf jobId = before.traceOf jobId := by
  simp only [traceOf, sentBy, db, log]

namespace Database

variable {jobId : Nat} {table : Table JobStep}

theorem rows_update {step : Nat} {change : JobStep → JobStep}
    (same : ∀ row, (change row).jobId = row.jobId) :
    ((table.update step change).rows.filter fun row => row.jobId = jobId) =
      (table.rows.filter fun row => row.jobId = jobId).map fun row =>
        if row.id = step then { change row with id := step } else row := by
  have kept : ∀ row : JobStep,
      (if row.id = step then { change row with id := step } else row).jobId = row.jobId := by
    intro row
    split
    · exact same row
    · rfl
  simp only [Table.update, List.filter_map]
  congr 1
  refine List.filter_congr fun row _ => ?_
  exact congrArg (fun owner => decide (owner = jobId)) (kept row)

/-- The change of the newest step of a job. -/
theorem rows_update_last {step : Nat} {change : JobStep → JobStep} {olds : List JobStep}
    {last : JobStep} (same : ∀ row, (change row).jobId = row.jobId)
    (rows : (table.rows.filter fun row => row.jobId = jobId) = olds ++ [last])
    (newest : last.id = step) :
    ((table.update step change).rows.filter fun row => row.jobId = jobId) =
      olds ++ [{ change last with id := step }] := by
  have distinct : ((olds ++ [last]).map JobStep.id).Nodup := by
    rw [← rows]
    exact table.distinct.sublist (List.filter_sublist.map _)
  have others : ∀ row ∈ olds, row.id ≠ step := by
    intro row listed equal
    simp only [List.map_append, List.map_cons, List.map_nil] at distinct
    have apart := (List.nodup_append.mp distinct).2.2
    exact apart row.id (List.mem_map_of_mem listed) last.id (by simp) (equal.trans newest.symm)
  rw [rows_update same, rows, List.map_append]
  simp only [List.map_cons, List.map_nil, newest, if_true]
  congr 1
  refine (List.map_congr_left fun row listed => ?_).trans (List.map_id _)
  simp [others row listed]

/-- The same change of several steps, in what `view` shows of them. -/
theorem rows_foldl_update {α : Type} {change : JobStep → JobStep} {view : JobStep → α}
    {ended : α → α} (owner : ∀ row, (change row).jobId = row.jobId)
    (same : ∀ key row, view { change row with id := key } = ended (view row))
    (once : ∀ row, ended (ended (view row)) = ended (view row)) (steps : List JobStep) :
    ((steps.foldl (fun table step => table.update step.id change) table).rows.filter
        fun row => row.jobId = jobId).map view =
      (table.rows.filter fun row => row.jobId = jobId).map fun row =>
        if row.id ∈ steps.map JobStep.id then ended (view row) else view row := by
  induction steps generalizing table with
  | nil => simp
  | cons step rest inductionHypothesis =>
      rw [List.foldl_cons, inductionHypothesis, rows_update owner, List.map_map]
      refine List.map_congr_left fun row _ => ?_
      by_cases here : row.id = step.id
      · simp [here, same, once]
      · simp [here]

/-- Closing the steps of a job that are still running. -/
theorem rows_close_running {α : Type} {change : JobStep → JobStep} {view : JobStep → α}
    {ended : α → α} (owner : ∀ row, (change row).jobId = row.jobId)
    (same : ∀ key row, view { change row with id := key } = ended (view row))
    (once : ∀ row, ended (ended (view row)) = ended (view row)) :
    (((table.rows.filter fun row => row.jobId = jobId ∧ row.state = .running).foldl
        (fun table step => table.update step.id change) table).rows.filter
        fun row => row.jobId = jobId).map view =
      (table.rows.filter fun row => row.jobId = jobId).map fun row =>
        if row.state = .running then ended (view row) else view row := by
  rw [rows_foldl_update owner same once]
  refine List.map_congr_left fun row listed => ?_
  obtain ⟨stored, owned⟩ := List.mem_filter.mp listed
  have chosen : row.id ∈ (table.rows.filter fun row =>
      row.jobId = jobId ∧ row.state = .running).map JobStep.id ↔ row.state = .running := by
    constructor
    · intro present
      obtain ⟨other, among, same⟩ := List.mem_map.mp present
      obtain ⟨known, running⟩ := List.mem_filter.mp among
      have found := Table.mem_rows_iff.mp known
      have mine := Table.mem_rows_iff.mp stored
      change table.get? other.id = some other at found
      change table.get? row.id = some row at mine
      rw [same, mine] at found
      cases found
      simpa [owned] using running
    · intro running
      exact List.mem_map_of_mem (List.mem_filter.mpr ⟨stored, by simpa [running] using owned⟩)
  exact if_congr chosen rfl rfl

end Database

/-! ## The contract -/

def Event.cancels : Event → Bool
  | .cancel _ _ => true
  | _ => false

/-- What is to hold of a job's requests and of the snapshot sets at every moment, of its trace
once it has failed, and of its trace once it has succeeded. -/
structure Report where
  during : List Exchange → Table SnapshotSet → Prop
  failed : Trace → Prop
  succeeded : Trace → Prop
  /-- Waiting for a task that has been asked for changes nothing. -/
  waits : ∀ {sent sets request outcome}, sent ≠ [] → request.polls = true → during sent sets →
    during (sent ++ [⟨request, outcome⟩]) sets

structure Reports (report : Report) (jobId : Nat) (world : World) : Prop where
  during : report.during (world.sentBy jobId) world.db.snapshotSets
  failed : ∀ row, world.db.jobs.get? jobId = some row → row.state = .failed →
    report.failed (world.traceOf jobId)
  succeeded : ∀ row, world.db.jobs.get? jobId = some row → row.state = .succeeded →
    report.succeeded (world.traceOf jobId)

namespace Alone

/-- Nobody else moves, and the worker is not cancelled. -/
def contract (report : Report) (jobId : Nat) : Contract semantics where
  allowed _ _ event := event.cancels = false
  rely before after := after = before
  guarantee _ after := Reports report jobId after
  rely_refl _ := rfl
  rely_trans before after := after.trans before

/-- The job runs with this trace; `doing` is its newest step, if that is still open. -/
structure At (report : Report) (jobId : Nat) (trace : Trace) (doing : Option Nat) (world : World) :
    Prop where
  current : world.currentJob = some jobId
  whole : world.sessionBroken = false
  job : ∃ row, world.db.jobs.get? jobId = some row ∧ row.state = .running
  traced : world.traceOf jobId = trace
  during : report.during trace.sent trace.snapshotSets
  doing : ∀ step ∈ doing, ∃ olds last, world.db.stepsOf jobId = olds ++ [last] ∧ last.id = step

/-- The database refused a commit, and refuses every later one of the job. -/
structure Stuck (report : Report) (jobId : Nat) (world : World) : Prop extends
    Reports report jobId world where
  broken : world.sessionBroken = true

/-- The job raises an ordinary exception with this trace. -/
def Raised (report : Report) (jobId : Nat) (trace : Trace) (doing : Option Nat) (error : Exn)
    (world : World) : Prop :=
  error.isException = true ∧ At report jobId trace doing world

/-- How the work of a job raises. -/
def Raises (report : Report) (jobId : Nat) (fails : Trace → Prop) (error : Exn) (world : World) :
    Prop :=
  error.isException = true ∧
    ((∃ trace, At report jobId trace none world ∧ fails trace) ∨ Stuck report jobId world)

variable {report : Report} {jobId : Nat} {trace : Trace} {doing : Option Nat}
  {fails : Trace → Prop} {world after : World}

theorem At.reports (working : At report jobId trace doing world) : Reports report jobId world := by
  obtain ⟨row, found, running⟩ := working.job
  have during := working.during
  rw [← working.traced] at during
  refine ⟨during, fun other same ended => ?_, fun other same ended => ?_⟩
  · rw [found] at same
    cases same
    rw [running] at ended
    cases ended
  · rw [found] at same
    cases same
    rw [running] at ended
    cases ended

theorem At.settles {α : Type} {returned : α → World → Prop} {raised : Exn → World → Prop}
    {before : World} {value : α} (working : At report jobId trace doing after)
    (holds : returned value after) :
    Settles (contract report jobId) returned raised before (.ok value) after := by
  refine .ok working.reports fun later same => ?_
  rw [same]
  exact holds

theorem At.forget (working : At report jobId trace doing world) : At report jobId trace none world :=
  { working with doing := nofun }

theorem Raised.raises {error : Exn} (gave : Raised report jobId trace doing error world)
    (holds : fails trace) : Raises report jobId fails error world :=
  ⟨gave.1, .inl ⟨trace, gave.2.forget, holds⟩⟩

/-- Nothing the trace is read from has changed. -/
theorem At.moved (working : At report jobId trace doing world) (db : after.db = world.db)
    (log : after.log = world.log) (current : after.currentJob = world.currentJob)
    (whole : after.sessionBroken = world.sessionBroken) : At report jobId trace doing after where
  current := current.trans working.current
  whole := whole.trans working.whole
  job := by
    rw [db]
    exact working.job
  traced := (World.traceOf_of_same db log).trans working.traced
  during := working.during
  doing := by
    rw [db]
    exact working.doing

/-! ## Operations -/

section Operations

variable {raised : Exn → World → Prop}

/-- Reading, waiting, and what does not concern aptly leave the job where it is. -/
theorem calm_at {op : Op} (calm : op.calm = true) (silent : op.asksAptly = false)
    (working : At report jobId trace doing world) :
    Safe (contract report jobId) (fun _ => At report jobId trace doing)
      (Raised report jobId trace doing) (perform op) world := by
  refine safe_op fun event outcome after permitted performed => ?_
  have kept := Op.perform_frame performed
  have db : after.db = world.db := kept.db (by cases op <;> first | rfl | cases calm)
  have current : after.currentJob = world.currentJob :=
    kept.currentJob (by cases op <;> first | rfl | cases calm)
  rcases Op.perform_calm calm performed with ⟨applied, reached, rfl, -⟩ | ⟨whole, ordinary⟩
  · cases permitted
  · have still := working.moved db (kept.log silent) current whole
    cases outcome with
    | ok value => exact still.settles still
    | error error =>
        refine .error still.reports fun later same => ?_
        rw [same]
        exact ⟨ordinary error rfl, still⟩

theorem ask_at {request : Request} (working : At report jobId trace doing world)
    (during : ∀ outcome, report.during (trace.sent ++ [⟨request, outcome⟩]) trace.snapshotSets) :
    Safe (contract report jobId)
      (fun value after => ∃ body, request.parse body = .ok value ∧
        At report jobId (trace.saw [⟨request, .ok body⟩]) doing after)
      (fun error after => error.isException = true ∧ ∃ outcome,
        (∀ body, outcome = .ok body → request.parse body = .error error) ∧
        At report jobId (trace.saw [⟨request, outcome⟩]) doing after)
      (perform (.aptly request)) world := by
  have asked : ∀ outcome carriedOut reached, At report jobId (trace.saw [⟨request, outcome⟩]) doing
      (world.record request outcome carriedOut reached) := by
    intro outcome carriedOut reached
    refine ⟨working.current, working.whole, working.job, ?_, during outcome, working.doing⟩
    rw [World.traceOf_record working.current, working.traced]
  refine safe_aptly ?_ ?_ ?_
  · intro body reached _
    have still := asked (.ok body) true reached
    cases parsed : request.parse body with
    | ok value => exact still.settles ⟨body, parsed, still⟩
    | error error =>
        refine .error still.reports fun later same => ?_
        rw [same]
        refine ⟨Op.parse_error parsed, _, ?_, still⟩
        rintro other ⟨⟩
        exact parsed
  · intro error carriedOut reached caught _
    have still := asked (.error error) carriedOut reached
    refine .error still.reports fun later same => ?_
    rw [same]
    exact ⟨caught, _, by simp, still⟩
  · intro applied reached permitted
    cases permitted

/-- The same while a step is open, which stays the newest one. -/
theorem askStep_at {request : Request} {description : String} {state : StepState}
    (working : At report jobId (trace.step description state) doing world)
    (during : ∀ outcome, report.during (trace.sent ++ [⟨request, outcome⟩]) trace.snapshotSets) :
    Safe (contract report jobId)
      (fun value after => ∃ body, request.parse body = .ok value ∧
        At report jobId ((trace.saw [⟨request, .ok body⟩]).step description state) doing after)
      (fun error after => error.isException = true ∧ ∃ outcome,
        (∀ body, outcome = .ok body → request.parse body = .error error) ∧
        At report jobId ((trace.saw [⟨request, outcome⟩]).step description state) doing after)
      (perform (.aptly request)) world :=
  ask_at working during

/-- A commit that the database accepts. -/
theorem commit_at {writes : List Write} {db : Database} {inserted : Inserted} {next : Trace}
    {open' : Option Nat} (working : At report jobId trace doing world)
    (stored : world.db.commit world.clock writes = .ok (db, inserted))
    (good : At report jobId next open' { world with db := db }) :
    Safe (contract report jobId)
      (fun keys after => keys = inserted ∧ At report jobId next open' after) raised
      (commit .job writes) world := by
  refine safe_commit_stored working.whole (fun _ _ => stored) (fun _ => ?_) nofun
  exact good.settles ⟨rfl, good⟩

/-- A commit that leaves the jobs alone. -/
theorem At.stored {db : Database} {next : Trace} {open' : Option Nat}
    (working : At report jobId trace doing world) (jobs : db.jobs = world.db.jobs)
    (steps : (db.stepsOf jobId).map (fun row => (row.description, row.state)) = next.steps)
    (sent : next.sent = trace.sent) (sets : next.snapshotSets = db.snapshotSets)
    (during : report.during trace.sent db.snapshotSets)
    (newest : ∀ step ∈ open', ∃ olds last, db.stepsOf jobId = olds ++ [last] ∧ last.id = step) :
    At report jobId next open' { world with db := db } := by
  refine ⟨working.current, working.whole, ?_, ?_, ?_, newest⟩
  · change ∃ row, db.jobs.get? jobId = some row ∧ row.state = .running
    rw [jobs]
    exact working.job
  · have before := congrArg Trace.sent working.traced
    cases next
    simp_all [World.traceOf, World.sentBy]
  · rw [sent, sets]
    exact during

theorem At.sets (working : At report jobId trace doing world) :
    world.db.snapshotSets = trace.snapshotSets :=
  congrArg Trace.snapshotSets working.traced

theorem At.sentBy (working : At report jobId trace doing world) :
    world.sentBy jobId = trace.sent :=
  congrArg Trace.sent working.traced

theorem addStep_at (description : String) (working : At report jobId trace none world) :
    Safe (contract report jobId)
      (fun step => At report jobId (trace.step description .running) (some step)) raised
      (addStep jobId description) world := by
  have counted : Safe (contract report jobId) (fun _ => At report jobId trace none) raised
      advancePosition world := by
    refine safe_op fun event outcome after permitted performed => ?_
    cases event <;> cases performed
    have still : At report jobId trace none
        { world with nextPosition := world.nextPosition + 1 } := working.moved rfl rfl rfl rfl
    exact still.settles still
  refine Safe.bind counted fun position before working => ?_
  have steps := congrArg Trace.steps working.traced
  let opened (now : Time) : JobStep :=
    { jobId, position, description, state := .running, startedAt := some now }
  have rows : ((before.db.steps.insert (opened before.clock)).rows.filter
      fun row => row.jobId = jobId) =
      before.db.stepsOf jobId ++ [{ opened before.clock with id := before.db.steps.nextId }] := by
    simp [Table.insert, Database.stepsOf, Keyed.withId, opened]
  have good : At report jobId (trace.step description .running)
      (some before.db.steps.nextId) { before with db := { before.db with
        steps := before.db.steps.insert (opened before.clock) } } := by
    refine working.stored rfl ?_ rfl working.sets.symm ?_ ?_
    · rw [Database.stepsOf, rows]
      simpa [World.traceOf, Trace.step, opened] using steps
    · rw [working.sets]
      exact working.during
    · rintro step ⟨⟩
      exact ⟨_, _, rows, rfl⟩
  refine Safe.bind (commit_at working (Database.commit_addStep _) good) ?_
  rintro inserted after ⟨rfl, begun⟩
  exact begun

/-- The newest step is there, in this state. -/
theorem At.newest {step : Nat} {description : String} {state : StepState}
    (working : At report jobId (trace.step description state) (some step) world) :
    ∃ olds last, world.db.stepsOf jobId = olds ++ [last] ∧ last.id = step ∧
      olds.map (fun row => (row.description, row.state)) = trace.steps ∧
      last.description = description ∧ last.state = state ∧
      (world.db.steps.get? step).isSome = true := by
  obtain ⟨olds, last, rows, rfl⟩ := working.doing step rfl
  have steps := congrArg Trace.steps working.traced
  simp only [World.traceOf, rows, Trace.step, List.map_append, List.map_cons, List.map_nil] at steps
  obtain ⟨earlier, now⟩ := List.append_inj' steps rfl
  simp only [List.cons.injEq, Prod.mk.injEq, and_true] at now
  have listed : last ∈ world.db.stepsOf jobId := by simp [rows]
  exact ⟨olds, last, rows, rfl, earlier, now.1, now.2,
    Option.isSome_of_eq_some (Table.mem_rows_iff.mp (List.mem_of_mem_filter listed))⟩

/-- A change of the newest step, and perhaps of the snapshot sets. -/
theorem At.changed {step : Nat} {description : String} {state ended : StepState}
    {open' : Option Nat} {change : JobStep → JobStep} {sets : Table SnapshotSet}
    (working : At report jobId (trace.step description state) (some step) world)
    (same : ∀ row, (change row).jobId = row.jobId ∧ (change row).description = row.description)
    (becomes : ∀ row, row.state = state → (change row).state = ended)
    (newest : ∀ other ∈ open', other = step) (during : report.during trace.sent sets) :
    At report jobId (Trace.step { trace with snapshotSets := sets } description ended) open'
      { world with db := { world.db with
        steps := world.db.steps.update step change, snapshotSets := sets } } := by
  obtain ⟨olds, last, rows, rfl, earlier, described, was, -⟩ := working.newest
  have changed := Database.rows_update_last (fun row => (same row).1) rows rfl
  refine working.stored rfl ?_ rfl rfl during ?_
  · rw [Database.stepsOf, changed]
    simp [Trace.step, earlier, (same last).2, described, becomes last was]
  · rintro other among
    exact ⟨olds, _, changed, (newest other among).symm⟩

theorem setStep_at {step : Nat} {description : String} {state ended : StepState} {open' : Option Nat}
    {change : Time → JobStep → JobStep}
    (working : At report jobId (trace.step description state) (some step) world)
    (same : ∀ now row, (change now row).jobId = row.jobId ∧
      (change now row).description = row.description)
    (becomes : ∀ now row, row.state = state → (change now row).state = ended)
    (newest : ∀ other ∈ open', other = step) :
    Safe (contract report jobId)
      (fun _ => At report jobId (trace.step description ended) open') raised
      (commit .job [.setStep step change]) world := by
  obtain ⟨-, -, -, -, -, -, -, recorded⟩ := working.newest
  have during : report.during trace.sent world.db.snapshotSets := by
    rw [working.sets]
    exact working.during
  have kept : ({ trace with snapshotSets := world.db.snapshotSets } : Trace) = trace := by
    rw [working.sets]
    rfl
  have good := working.changed (same world.clock) (becomes world.clock) newest during
  rw [kept] at good
  exact (commit_at working (Database.commit_setStep _ recorded) good).mono
    (fun _ _ reached => reached.2) fun _ _ failed => failed

theorem noteStep_at {step : Nat} {description : String} {change : Time → JobStep → JobStep}
    (working : At report jobId (trace.step description .running) (some step) world)
    (same : ∀ now row, (change now row).jobId = row.jobId ∧
      (change now row).description = row.description ∧ (change now row).state = row.state) :
    Safe (contract report jobId)
      (fun _ => At report jobId (trace.step description .running) (some step)) raised
      (commit .job [.setStep step change]) world :=
  setStep_at working (fun now row => ⟨(same now row).1, (same now row).2.1⟩)
    (fun now row running => ((same now row).2.2).trans running) (by simp)

theorem finishStep_at {step : Nat} {description : String} {state : StepState} (output : String)
    (working : At report jobId (trace.step description .running) (some step) world) :
    Safe (contract report jobId)
      (fun _ => At report jobId (trace.step description state) none) raised
      (finishStep step state output) world :=
  Safe.bind (setStep_at working (fun _ _ => ⟨rfl, rfl⟩) (fun _ _ _ => rfl) (by simp))
    fun _ _ finished => finished

end Operations

/-! ## Tasks -/

section Tasks

variable {step : Nat} {description : String} {self : JobRunner} {known : List Exchange}
  (asked : trace.sent ≠ [])

/-- The job has asked about its task and nothing else since; `known` is what it has learnt. -/
def Polling (report : Report) (jobId : Nat) (trace : Trace) (description : String) (step : Nat)
    (known : List Exchange) (world : World) : Prop :=
  ∃ more, (∀ exchange ∈ more, exchange.request.polls = true) ∧ known ⊆ more ∧
    At report jobId ((trace.saw more).step description .running) (some step) world

/-- The job raises while it waits for its task. -/
def Waited (report : Report) (jobId : Nat) (trace : Trace) (description : String) (step : Nat)
    (error : Exn) (world : World) : Prop :=
  error.isException = true ∧ Polling report jobId trace description step [] world

theorem Polling.forget (polling : Polling report jobId trace description step known world) :
    Polling report jobId trace description step [] world := by
  obtain ⟨more, polls, -, working⟩ := polling
  exact ⟨more, polls, by simp, working⟩

include asked

theorem poll_at {request : Request} (polls : request.polls = true)
    (polling : Polling report jobId trace description step known world) :
    Safe (contract report jobId)
      (fun value after => ∃ body, request.parse body = .ok value ∧
        Polling report jobId trace description step (⟨request, .ok body⟩ :: known) after)
      (Waited report jobId trace description step) (perform (.aptly request)) world := by
  obtain ⟨more, polled, learnt, working⟩ := polling
  have longer : ∀ outcome, ∀ exchange ∈ more ++ [⟨request, outcome⟩],
      exchange.request.polls = true := by
    intro outcome exchange listed
    rcases List.mem_append.mp listed with earlier | last
    · exact polled exchange earlier
    · rw [List.mem_singleton.mp last]
      exact polls
  have begun : trace.sent ++ more ≠ [] := List.append_ne_nil_of_left_ne_nil asked more
  refine (ask_at working fun outcome => report.waits begun polls working.during).mono ?_ ?_
  · rintro value after ⟨body, parsed, working⟩
    refine ⟨body, parsed, more ++ [⟨request, .ok body⟩], longer _, ?_, ?_⟩
    · intro exchange among
      rcases List.mem_cons.mp among with rfl | earlier
      · simp
      · exact List.mem_append_left _ (learnt earlier)
    · rw [← Trace.saw_saw]
      exact working
  · rintro error after ⟨caught, outcome, -, working⟩
    refine ⟨caught, more ++ [⟨request, outcome⟩], longer _, by simp, ?_⟩
    rw [← Trace.saw_saw]
    exact working

omit asked in
theorem Polling.noteStep {change : Time → JobStep → JobStep}
    (polling : Polling report jobId trace description step known world)
    (same : ∀ now row, (change now row).jobId = row.jobId ∧
      (change now row).description = row.description ∧ (change now row).state = row.state) :
    Safe (contract report jobId) (fun _ => Polling report jobId trace description step known)
      (Waited report jobId trace description step) (commit .job [.setStep step change]) world := by
  obtain ⟨more, polled, learnt, working⟩ := polling
  exact (noteStep_at working same).mono (fun _ _ working => ⟨more, polled, learnt, working⟩)
    fun _ _ failed => failed

omit asked in
theorem Polling.sleep (polling : Polling report jobId trace description step known world) :
    Safe (contract report jobId) (fun _ => Polling report jobId trace description step known)
      (Waited report jobId trace description step) AptlyGui.sleep world := by
  obtain ⟨more, polled, learnt, working⟩ := polling
  refine (calm_at rfl rfl working).mono (fun _ _ working => ⟨more, polled, learnt, working⟩) ?_
  rintro error after ⟨caught, working⟩
  exact ⟨caught, more, polled, by simp, working⟩

theorem guardDisk_at (remainingBytes : Int)
    (polling : Polling report jobId trace description step known world) :
    Safe (contract report jobId) (fun _ => Polling report jobId trace description step [])
      (Waited report jobId trace description step) (self.guardDisk remainingBytes) world := by
  refine Safe.bind (poll_at asked rfl polling) ?_
  rintro storage after ⟨body, -, polling⟩
  dsimp only
  split
  · exact polling.forget
  · exact ⟨rfl, polling.forget⟩

/-- The polling ends with an answer that says the task has succeeded, or raises. -/
theorem pollTask_at (taskId : Int) (polls : Nat) (reported : Bool)
    (polling : Polling report jobId trace description step [] world) :
    Safe (contract report jobId)
      (fun _ after => ∃ done, done.state = .succeeded ∧
        Polling report jobId trace description step [⟨.getTask taskId, .ok (.task done)⟩] after)
      (Waited report jobId trace description step)
      (self.pollTask step taskId polls reported) world := by
  apply safe_pollTask (Polling report jobId trace description step [])
    (fun task => Polling report jobId trace description step [⟨.getTask taskId, .ok (.task task)⟩])
    fun _ => Polling report jobId trace description step []
  case looks =>
    intro world polling
    refine (poll_at asked rfl polling).mono ?_ fun _ _ waited => waited
    rintro task after ⟨body, parsed, polling⟩
    obtain rfl : body = .task task := by
      cases body <;> cases parsed
      rfl
    split
    · exact polling
    · exact polling.forget
  case reads =>
    intro task world polling
    refine (poll_at asked rfl polling).mono ?_ fun _ _ waited => waited
    rintro output after ⟨body, -, more, polled, learnt, working⟩
    exact ⟨more, polled, fun exchange among => learnt (List.mem_cons_of_mem _ among), working⟩
  case fails => exact fun _ polling => ⟨rfl, polling.forget⟩
  case succeeds => exact fun succeeded polling => ⟨_, succeeded, polling⟩
  case zeroes =>
    intro task world succeeded polling
    refine Safe.mono (polling.noteStep fun _ _ => ⟨rfl, rfl, rfl⟩) ?_ fun _ _ waited => waited
    exact fun _ after polling => ⟨task, succeeded, polling⟩
  case asks =>
    intro world polling
    refine (poll_at asked rfl polling).mono ?_ fun _ _ waited => waited
    rintro progress after ⟨body, -, polling⟩
    exact polling.forget
  case rests => exact fun polling => polling
  case notes => exact fun polling => polling.noteStep fun _ _ => ⟨rfl, rfl, rfl⟩
  case guards => exact guardDisk_at asked _
  case sleeps => exact fun polling => polling.sleep
  case held => exact polling

/-- A task that is followed to its end ends its step. -/
theorem followTask_at (task : Task)
    (working : At report jobId (trace.step description .running) (some step) world) :
    Safe (contract report jobId)
      (fun _ after => ∃ more done, (∀ exchange ∈ more, exchange.request.polls = true) ∧
        ⟨.getTask task.id, .ok (.task done)⟩ ∈ more ∧ done.state = .succeeded ∧
        At report jobId ((trace.saw more).step description .succeeded) none after)
      (Waited report jobId trace description step) (self.followTask step task) world := by
  have polling : Polling report jobId trace description step [] world :=
    ⟨[], by simp, by simp, by rw [Trace.saw_nil]; exact working⟩
  refine Safe.bind (polling.noteStep fun _ _ => ⟨rfl, rfl, rfl⟩) fun _ _ polling => ?_
  refine Safe.bind (pollTask_at asked task.id self.polls false polling) ?_
  rintro output after ⟨done, succeeded, more, polled, learnt, working⟩
  refine (finishStep_at output working).mono (fun _ _ working => ?_) fun _ _ failed => failed
  exact ⟨more, done, polled, learnt (by simp), succeeded, working⟩

end Tasks

/-! ## The end of a job -/

section Epilogue

variable {raised : Exn → World → Prop}

/-- The job's row says that it has failed. -/
structure Failed (report : Report) (jobId : Nat) (world : World) : Prop extends
    Reports report jobId world where
  current : world.currentJob = some jobId
  whole : world.sessionBroken = false
  job : (world.db.jobs.get? jobId).isSome = true
  trace : report.failed (world.traceOf jobId)

/-- The commit that stores the failure also closes the steps that are still running. -/
theorem closeRunning_at {change : Time → Job → Job} {ending : Time → JobStep → JobStep}
    (ends : ∀ now row, (change now row).state = .failed)
    (same : ∀ now row, (ending now row).jobId = row.jobId ∧
      (ending now row).description = row.description ∧ (ending now row).state = .failed)
    (working : At report jobId trace none world) (fails : report.failed trace.failed) :
    Safe (contract report jobId) (fun _ => Failed report jobId) raised
      (commit .job (.setJob jobId change ::
        (world.db.steps.rows.filter fun row => row.jobId = jobId ∧ row.state = .running).map
          fun step => .setStep step.id ending)) world := by
  obtain ⟨row, found, -⟩ := working.job
  have stored := @Database.commit_closeRunning world.db world.clock jobId change ending
    (Option.isSome_of_eq_some found)
  refine safe_commit_stored working.whole (fun _ _ => stored) (fun _ => ?_) nofun
  let after : World := { world with
    db := { world.db with
      jobs := world.db.jobs.update jobId (change world.clock)
      steps := (world.db.steps.rows.filter fun row => row.jobId = jobId ∧ row.state = .running).foldl
        (fun table step => table.update step.id (ending world.clock)) world.db.steps } }
  have steps := @Database.rows_close_running jobId world.db.steps _ (ending world.clock)
    (fun row => (row.description, row.state)) (fun shown => (shown.1, .failed))
    (fun row => (same _ row).1)
    (fun _ row => Prod.ext (same _ row).2.1 (same _ row).2.2) (fun _ => rfl)
  have trace' : after.traceOf jobId = trace.failed := by
    rw [← working.traced, World.traceOf, Database.stepsOf, steps]
    simp only [World.traceOf, Trace.failed, Database.stepsOf, List.map_map]
    congr 1
    refine List.map_congr_left fun row _ => ?_
    by_cases running : row.state = .running
    · simp [running]
    · simp [running]
  have known : after.db.jobs.get? jobId = some (Keyed.withId jobId (change world.clock row)) := by
    simp [after, found]
  have failed : Failed report jobId after := by
    refine ⟨⟨?_, fun _ _ _ => ?_, fun ended same succeeded => ?_⟩, working.current, working.whole,
      Option.isSome_of_eq_some known, ?_⟩
    · have during := working.during
      rw [← working.sentBy, ← working.sets] at during
      exact during
    · rw [trace']
      exact fails
    · rw [known] at same
      cases same
      exact absurd ((ends world.clock row).symm.trans succeeded) (by decide)
    · rw [trace']
      exact fails
  refine .ok failed.toReports fun later same => ?_
  rw [same]
  exact failed

theorem failRunningSteps_at {error : String} (working : At report jobId trace none world)
    (fails : report.failed trace.failed) :
    Safe (contract report jobId) (fun _ => Failed report jobId) raised
      (failRunningSteps jobId error) world := by
  have asked : Safe (contract report jobId) (fun (running : List JobStep) after =>
      At report jobId trace none after ∧
        running = after.db.steps.rows.filter fun row => row.jobId = jobId ∧ row.state = .running)
      raised (runningSteps jobId) world := by
    refine safe_query (.runningSteps jobId) (fun world => world.db.steps.rows.filter fun row =>
      row.jobId = jobId ∧ row.state = .running) (fun _ => rfl) ?_ ?_ ?_
    · exact fun _ _ => working.settles ⟨working, rfl⟩
    · intro _ broken
      rw [working.whole] at broken
      cases broken
    · intro applied reached permitted
      cases permitted
  refine Safe.bind asked ?_
  rintro running before ⟨working, rfl⟩
  exact Safe.bind (closeRunning_at (fun _ _ => rfl) (fun _ _ => ⟨rfl, rfl, rfl⟩) working fails)
    fun _ _ failed => failed

/-- The `finally` block of a job whose trace already says how it ended. -/
theorem settle_at {job : Job} {loaded : Option MirrorSet} {state : JobState} {error : Option String}
    (whole : world.sessionBroken = false) (stored : (world.db.jobs.get? jobId).isSome = true)
    (during : report.during (world.sentBy jobId) world.db.snapshotSets)
    (failed : state = .failed → report.failed (world.traceOf jobId))
    (succeeded : state = .succeeded → report.succeeded (world.traceOf jobId)) :
    Safe (contract report jobId) (fun _ _ => True) raised
      (JobRunner.settle jobId job loaded state error) world := by
  have committed := @Database.commit_setJob world.db world.clock jobId (fun now row =>
    { row with state := state, error := error, finishedAt := some now })
    [.addAudit
      { actor := job.author
        action := s!"job.{job.type.value}"
        target := (loaded.map MirrorSet.name).getD "snapshots"
        result := state.value
        detail := error }] stored
  refine Safe.bind (?_ : Safe (contract report jobId) (fun (_ : Inserted) _ => True) raised _ _)
    fun _ _ _ => trivial
  refine safe_commit_stored whole (fun _ _ => committed) (fun _ => ?_) nofun
  obtain ⟨row, found⟩ := Option.isSome_iff_exists.mp stored
  refine .ok ⟨during, fun ended known => ?_, fun ended known => ?_⟩ fun _ _ => trivial
  · have rows : (world.db.jobs.update jobId _).get? jobId = some ended := known
    simp only [Table.get?_update, if_true, found, Option.map_some, Option.some.injEq] at rows
    subst rows
    exact failed
  · have rows : (world.db.jobs.update jobId _).get? jobId = some ended := known
    simp only [Table.get?_update, if_true, found, Option.map_some, Option.some.injEq] at rows
    subst rows
    exact succeeded

/-- Nothing of a stuck job reaches the database any more. -/
theorem Stuck.refuses {op : Op} (stuck : Stuck report jobId world)
    (unread : ∀ event outcome after, event.cancels = false →
      op.perform event world = some (outcome, after) →
      outcome = .error .pendingRollback ∧ after = world) {returned : op.Ret → World → Prop} :
    Safe (contract report jobId) returned
      (fun error after => error = .pendingRollback ∧ Stuck report jobId after) (perform op) world := by
  refine safe_op fun event outcome after permitted performed => ?_
  obtain ⟨rfl, rfl⟩ := unread event outcome after permitted performed
  refine .error stuck.toReports fun later same => ⟨rfl, ?_⟩
  rw [same]
  exact stuck

theorem Stuck.commits {writes : List Write} {returned : Inserted → World → Prop}
    (stuck : Stuck report jobId world) : Safe (contract report jobId) returned
      (fun error after => error = .pendingRollback ∧ Stuck report jobId after)
      (commit .job writes) world := by
  refine stuck.refuses fun event outcome after alone performed => ?_
  rcases Op.perform_commit performed with ⟨_, _, -, whole, -⟩ | ⟨_, -, whole, -⟩ |
    ⟨-, -, rfl, rfl⟩ | ⟨_, _, rfl, -⟩
  · rw [stuck.broken] at whole
    cases whole
  · rw [stuck.broken] at whole
    cases whole
  · exact ⟨rfl, rfl⟩
  · cases alone

theorem Stuck.gives_up {job : Job} {loaded : Option MirrorSet} {error : String}
    (stuck : Stuck report jobId world) :
    Safe (contract report jobId) (fun _ _ => True) (fun _ _ => True)
      (do
        let recorded ← (failRunningSteps jobId error).attempt
        JobRunner.settle jobId job loaded .failed (some error)
        Coroutine.ofExcept recorded) world := by
  have asked : Safe (contract report jobId) (fun _ _ => False)
      (fun error after => error = .pendingRollback ∧ Stuck report jobId after)
      (runningSteps jobId) world := by
    refine stuck.refuses fun event outcome after alone performed => ?_
    rcases Op.query_job performed with ⟨-, whole, -⟩ | ⟨-, -, rfl, rfl⟩ | ⟨_, _, rfl, -⟩
    · rw [stuck.broken] at whole
      cases whole
    · exact ⟨rfl, rfl⟩
    · cases alone
  refine Coroutine.safe_bind.mpr (Coroutine.safe_attempt.mpr ?_)
  refine (Safe.bind asked fun _ _ impossible => impossible.elim).mono
    (fun _ _ (impossible : False) => impossible.elim) ?_
  rintro _ after ⟨rfl, stuck⟩
  have unsettled : Safe (contract report jobId) (fun _ _ => False)
      (fun error after => error = .pendingRollback ∧ Stuck report jobId after)
      (JobRunner.settle jobId job loaded .failed (some error)) after :=
    Safe.bind stuck.commits fun _ _ (impossible : False) => impossible
  exact Safe.bind (unsettled.mono (fun _ _ impossible => impossible) fun _ _ _ => trivial)
    fun _ _ impossible => impossible.elim

/-- A job's work between the commit that starts it and the one that ends it. -/
theorem supervise_at {job : Job} {loaded : Option MirrorSet} {work : Program Unit}
    (working : Safe (contract report jobId)
      (fun _ after => ∃ trace, At report jobId trace none after ∧ report.succeeded trace)
      (Raises report jobId fun trace => report.failed trace.failed) work world) :
    Safe (contract report jobId) (fun _ _ => True) (fun _ _ => True)
      (JobRunner.supervise jobId job loaded work) world := by
  refine safe_supervise (fun after => ∃ trace, At report jobId trace none after ∧
      report.succeeded trace)
    (Raises report jobId fun trace => report.failed trace.failed) working ?_ ?_ ?_
  · rintro after ⟨trace, working, succeeded⟩
    obtain ⟨row, found, -⟩ := working.job
    refine settle_at working.whole (Option.isSome_of_eq_some found) working.reports.during (by simp)
      fun _ => ?_
    rw [working.traced]
    exact succeeded
  · rintro error after - ⟨-, ⟨trace, working, fails⟩ | stuck⟩
    · have closed : Safe (contract report jobId) (fun _ => Failed report jobId) (fun _ _ => False)
          (failRunningSteps jobId error.text) after := failRunningSteps_at working fails
      refine Coroutine.safe_bind.mpr (Coroutine.safe_attempt.mpr ?_)
      refine closed.mono (fun _ after failed => ?_) fun _ _ impossible => impossible.elim
      exact Safe.bind (settle_at failed.whole failed.job failed.during (fun _ => failed.trace)
        (by simp)) fun _ _ _ => trivial
    · exact stuck.gives_up
  · rintro error after uncaught ⟨caught, -⟩
    rw [uncaught] at caught
    cases caught

/-- A job on a stored mirror set, from the queue to its end. -/
theorem runJob_at {self : JobRunner} {job : Job} {mirrorSet : MirrorSet}
    (stored : world.db.jobs.get? jobId = some job)
    (described : job.mirrorSetIn world.db = some mirrorSet) (reports : Reports report jobId world)
    (working : ∀ after, At report jobId (world.traceOf jobId) none after →
      Safe (contract report jobId)
        (fun _ after => ∃ trace, At report jobId trace none after ∧ report.succeeded trace)
        (Raises report jobId fun trace => report.failed trace.failed)
        (self.execute jobId job (some mirrorSet)) after) :
    Safe (contract report jobId) (fun _ _ => True) (fun _ _ => True) (self.runJob jobId) world := by
  let begun : World := { world with currentJob := some jobId, nextPosition := 0, sessionBroken := false }
  have ready : Reports report jobId begun := ⟨reports.during, reports.failed, reports.succeeded⟩
  have begins : Safe (contract report jobId) (fun _ after => after = begun) (fun _ _ => True)
      (beginJob jobId) world := by
    apply safe_beginJob
    exact .ok ready fun later same => same
  have reads : ∀ (op : Op) (value : op.Ret) (_ : ∀ event, op.perform event begun =
      begun.query .job value event), Safe (contract report jobId)
        (fun found after => found = value ∧ after = begun) (fun _ _ => True) (perform op) begun := by
    intro op value asked
    apply safe_query op (fun _ => value) asked
    · exact fun _ _ => .ok ready fun later same => ⟨rfl, same⟩
    · intro _ broken
      cases broken
    · intro _ _ permitted
      cases permitted
  refine Safe.bind begins ?_
  rintro _ _ rfl
  refine Safe.bind (reads (.getJob .job jobId) (some job) fun event => ?_) ?_
  · change begun.query .job (begun.db.jobs.get? jobId) event = _
    rw [show begun.db.jobs.get? jobId = some job from stored]
    rfl
  · rintro _ _ ⟨rfl, rfl⟩
    obtain ⟨mirrorSetId, named, known⟩ := Option.bind_eq_some_iff.mp described
    simp only [named]
    refine Safe.bind (reads (.getMirrorSet .job mirrorSetId) (some mirrorSet) fun event => ?_) ?_
    · change begun.query .job (begun.db.mirrorSets.get? mirrorSetId) event = _
      rw [show begun.db.mirrorSets.get? mirrorSetId = some mirrorSet from known]
      rfl
    · rintro _ _ ⟨rfl, rfl⟩
      unfold JobRunner.runLoaded
      rw [if_neg (by simp)]
      have starting := @Database.commit_setJob begun.db begun.clock jobId (fun now row =>
        { row with
          state := .running
          startedAt := some now
          expectedSteps := some (JobRunner.announcedSteps job (some mirrorSet)) }) []
        (Option.isSome_of_eq_some stored)
      refine Safe.bind (?_ : Safe (contract report jobId)
        (fun (_ : Inserted) => At report jobId (world.traceOf jobId) none) (fun _ _ => True) _ _)
        fun _ after started => supervise_at (working after started)
      have good : At report jobId (world.traceOf jobId) none { begun with
          db := { begun.db with jobs := begun.db.jobs.update jobId fun row =>
            { row with
              state := .running
              startedAt := some begun.clock
              expectedSteps := some (JobRunner.announcedSteps job (some mirrorSet)) } } } := by
        refine ⟨rfl, rfl, ?_, rfl, reports.during, nofun⟩
        have found := Table.get?_update world.db.jobs jobId jobId fun row =>
          { row with
            state := .running
            startedAt := some world.clock
            expectedSteps := some (JobRunner.announcedSteps job (some mirrorSet)) }
        rw [if_pos rfl, stored] at found
        exact ⟨_, found, rfl⟩
      exact safe_commit_stored rfl (fun _ _ => starting) (fun _ => good.settles good) nofun

end Epilogue

/-- What a job that runs alone keeps to holds at every moment of its run. -/
theorem reports_of_run {self : JobRunner} {events : List Event} {rest : Program Unit} {final : World}
    (reports : Reports report jobId world)
    (safe : Safe (contract report jobId) (fun _ _ => True) (fun _ _ => True) (self.runJob jobId) world)
    (alone : ∀ event ∈ events, event.cancels = false)
    (ran : (self.runJob jobId).run semantics events world = some (rest, final)) :
    Reports report jobId final := by
  obtain ⟨path, -⟩ := safe.run (fun event listed _ _ => alone event listed) ran
  cases path with
  | refl => exact reports
  | tail _ last => exact last

end Alone

/-- The job has not run before: there is no step and no request of it. -/
structure World.Untouched (world : World) (jobId : Nat) : Prop where
  steps : ∀ row ∈ world.db.steps.rows, row.jobId ≠ jobId
  log : ∀ entry ∈ world.log, entry.job ≠ some jobId

theorem World.Untouched.sentBy {world : World} {jobId : Nat} (untouched : world.Untouched jobId) :
    world.sentBy jobId = [] := by
  simpa [World.sentBy, List.filter_eq_nil_iff] using untouched.log

theorem World.Untouched.traceOf {world : World} {jobId : Nat} (untouched : world.Untouched jobId) :
    world.traceOf jobId = ⟨[], [], world.db.snapshotSets⟩ := by
  have steps : world.db.stepsOf jobId = [] := by
    simpa [Database.stepsOf, List.filter_eq_nil_iff] using untouched.steps
  simp [World.traceOf, steps, untouched.sentBy]

/-- A queued job that has not run yet satisfies every report that allows for it. -/
theorem World.Untouched.reports {report : Report} {world : World} {jobId : Nat} {job : Job}
    (untouched : world.Untouched jobId) (stored : world.db.jobs.get? jobId = some job)
    (queued : job.state = .queued) (during : report.during [] world.db.snapshotSets) :
    Reports report jobId world := by
  refine ⟨?_, fun row found failed => ?_, fun row found succeeded => ?_⟩
  · rw [untouched.sentBy]
    exact during
  · rw [stored] at found
    cases found
    rw [queued] at failed
    cases failed
  · rw [stored] at found
    cases found
    rw [queued] at succeeded
    cases succeeded

/-! ## Single jobs of the small service -/

namespace Sample

def stored : MirrorSet := { debian with id := 1 }

def job (id : Nat) (type : JobType) (snapshotSetId : Option Nat) : Job :=
  { id, type, mirrorSetId := some 1, author := "operator", params := { snapshotSetId } }

/-- The service with one more job in the queue. -/
def waiting (type : JobType) (snapshotSetId : Option Nat) (world : World) : World :=
  { world with db := { world.db with jobs := world.db.jobs.insert (job 0 type snapshotSetId) } }

/-- aptly gives these answers and is as it says here afterwards. -/
def replies (aptly : Aptly) (replies : List Reply) : List Event :=
  replies.map fun reply => .reply reply aptly

/-- A job is taken up, its mirror set is loaded, and its start is stored. -/
def taken : List Event := List.replicate 4 .proceed

/-- The task a call has started is seen to have succeeded. -/
def followed (aptly : Aptly) (id : Int) : List Event :=
  replies aptly [.task ⟨id, "task", .queued⟩] ++ [.proceed] ++
    replies aptly [.task ⟨id, "task", .succeeded⟩, .output ""] ++ [.proceed]

/-- Every mirror is there, and there is room. -/
def passed (aptly : Aptly) : List Event :=
  [.proceed, .proceed] ++ replies aptly [.mirrors aptly.mirrors, .storage ⟨1000000, 900000⟩] ++
    [.proceed]

/-- An update of one mirror. -/
def updated : List Event :=
  taken ++ passed mirrored ++ List.replicate 4 .proceed ++ followed mirrored 1 ++
    [.proceed, .proceed] ++ replies mirrored [.snapshot ⟨"stable-main-19700101T0000Z"⟩] ++
    List.replicate 3 .proceed

/-- An operator has the set synced, and the worker runs the job. -/
def synced (work : List Event) : List Label :=
  [.start, .arrive (.web (.setUpdate "operator" 1)), .serve 0 .proceed, .serve 0 .proceed, .take] ++
    work.map .work

/-! ### Two suites of two components -/

def wide : MirrorSet :=
  { stored with suites := ["stable", "stable-updates"], components := ["main", "contrib"] }

/-- aptly with the mirrors of the wide set, this many snapshots of them and these publications. -/
def wideAptly (taken : Nat) (published : List Publication) : Aptly where
  mirrors := wide.suites.flatMap fun suite => wide.components.map fun component =>
    ⟨wide.mirrorName suite component, wide.archiveUrl, suite, [component], wide.architectures, none⟩
  snapshots := (wide.expectedMirrors.take taken).map fun name => s!"{name}-19700101T0000Z"
  published := published

def wideService : System :=
  .blank { Database.empty with mirrorSets := Database.empty.mirrorSets.insert wide }
    (wideAptly 0 [])

/-- An update of the four mirrors. -/
def wideUpdated : List Event :=
  taken ++ passed (wideAptly 0 []) ++ [.proceed, .proceed] ++
    (wide.expectedMirrors.zipIdx 1).flatMap (fun (_, place) =>
      [.proceed, .proceed] ++ followed (wideAptly 0 []) place) ++
    (wide.expectedMirrors.zipIdx 1).flatMap (fun (name, place) =>
      [.proceed, .proceed] ++
        replies (wideAptly place []) [.snapshot ⟨s!"{name}-19700101T0000Z"⟩] ++ [.proceed]) ++
    [.proceed, .proceed]

end Sample

end AptlyGui
