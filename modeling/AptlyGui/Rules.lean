import AptlyGui.Operations
import AptlyGui.Services.Jobs.Runner

/-!
# Proof rules for the operations

One rule for each kind of operation, over any contract: what has to hold
beforehand so that the operation keeps to the guarantee and its outcome
satisfies the postcondition after whatever the other parties do next.
-/

namespace AptlyGui

open Coroutine (Contract Safe Settles)

variable {contract : Contract semantics} {raised : Exn → World → Prop} {world : World}

theorem safe_op {op : Op} {returned : op.Ret → World → Prop}
    (settles : ∀ event outcome after, contract.allowed world op event →
      op.perform event world = some (outcome, after) →
      Settles contract returned raised world outcome after) :
    Safe contract returned raised (perform op) world := by
  refine Coroutine.safe_perform.mpr ?_
  rintro outcome after ⟨event, permitted, performed⟩
  exact settles event outcome after permitted performed

theorem safe_aptly {request : Request} {returned : request.Ret → World → Prop}
    (replied : ∀ body reached, contract.allowed world (.aptly request) (.reply body reached) →
      Settles contract returned raised world (request.parse body)
        (world.record request (.ok body) true reached))
    (failed : ∀ error carriedOut reached, error.isException = true →
      contract.allowed world (.aptly request) (.fault error carriedOut reached) →
      Settles contract returned raised world (.error error)
        (world.record request (.error error) carriedOut reached))
    (cancelled : ∀ applied reached,
      contract.allowed world (.aptly request) (.cancel applied reached) →
      Settles contract returned raised world (.error .cancelled)
        (world.record request (.error .cancelled) applied reached)) :
    Safe contract returned raised (perform (.aptly request)) world := by
  refine safe_op fun event outcome after permitted performed => ?_
  rcases Op.perform_aptly performed with ⟨body, reached, rfl, rfl, rfl⟩ |
    ⟨error, carriedOut, reached, rfl, caught, rfl, rfl⟩ | ⟨applied, reached, rfl, rfl, rfl⟩
  · exact replied body reached permitted
  · exact failed error carriedOut reached caught permitted
  · exact cancelled applied reached permitted

theorem safe_commit {writes : List Write} {returned : Inserted → World → Prop}
    (stored : ∀ db inserted, contract.allowed world (.commit .job writes) .proceed →
      world.sessionBroken = false → world.db.commit world.clock writes = .ok (db, inserted) →
      Settles contract returned raised world (.ok inserted) { world with db := db })
    (refused : ∀ error, contract.allowed world (.commit .job writes) .proceed →
      world.sessionBroken = false → world.db.commit world.clock writes = .error error →
      Settles contract returned raised world (.error error) { world with sessionBroken := true })
    (lost : contract.allowed world (.commit .job writes) .proceed → world.sessionBroken = true →
      Settles contract returned raised world (.error .pendingRollback) world)
    (cancelled : ∀ applied reached,
      contract.allowed world (.commit .job writes) (.cancel applied reached) →
      Settles contract returned raised world (.error .cancelled) { world with sessionBroken := true } ∧
        ∀ db inserted, applied = true → world.db.commit world.clock writes = .ok (db, inserted) →
          Settles contract returned raised world (.error .cancelled)
            { world with db := db, sessionBroken := true }) :
    Safe contract returned raised (commit .job writes) world := by
  refine safe_op fun event outcome after permitted performed => ?_
  rcases Op.perform_commit performed with ⟨db, inserted, rfl, whole, committed, rfl, rfl⟩ |
    ⟨error, rfl, whole, committed, rfl, rfl⟩ | ⟨rfl, broken, rfl, rfl⟩ |
    ⟨applied, reached, rfl, rfl, rfl | ⟨db, inserted, applies, committed, rfl⟩⟩
  · exact stored db inserted permitted whole committed
  · exact refused error permitted whole committed
  · exact lost permitted broken
  · exact (cancelled applied reached permitted).1
  · exact (cancelled applied reached permitted).2 db inserted applies committed

/-- A commit that the database accepts, in a session that is whole, is stored unless it is
cancelled. -/
theorem safe_commit_stored {writes : List Write} {db : Database} {inserted : Inserted}
    {returned : Inserted → World → Prop} (whole : world.sessionBroken = false)
    (accepted : ∀ event, contract.allowed world (.commit .job writes) event →
      world.db.commit world.clock writes = .ok (db, inserted))
    (stored : contract.allowed world (.commit .job writes) .proceed →
      Settles contract returned raised world (.ok inserted) { world with db := db })
    (cancelled : ∀ applied reached,
      contract.allowed world (.commit .job writes) (.cancel applied reached) →
      Settles contract returned raised world (.error .cancelled) { world with sessionBroken := true } ∧
        (applied = true → Settles contract returned raised world (.error .cancelled)
          { world with db := db, sessionBroken := true })) :
    Safe contract returned raised (commit .job writes) world := by
  apply safe_commit
  · intro other keys permitted _ committed
    rw [accepted _ permitted] at committed
    cases committed
    exact stored permitted
  · intro error permitted _ refused
    rw [accepted _ permitted] at refused
    cases refused
  · intro _ broken
    rw [whole] at broken
    cases broken
  · intro applied reached permitted
    refine ⟨(cancelled applied reached permitted).1, fun other keys applies committed => ?_⟩
    rw [accepted _ permitted] at committed
    cases committed
    exact (cancelled applied reached permitted).2 applies

/-- A read of the database in the job's session. -/
theorem safe_query (op : Op) (value : World → op.Ret) {returned : op.Ret → World → Prop}
    (reads : ∀ event, op.perform event world = world.query .job (value world) event)
    (found : contract.allowed world op .proceed → world.sessionBroken = false →
      Settles contract returned raised world (.ok (value world)) world)
    (lost : contract.allowed world op .proceed → world.sessionBroken = true →
      Settles contract returned raised world (.error .pendingRollback) world)
    (cancelled : ∀ applied reached, contract.allowed world op (.cancel applied reached) →
      Settles contract returned raised world (.error .cancelled)
        { world with sessionBroken := true }) :
    Safe contract returned raised (perform op) world := by
  refine safe_op fun event outcome after permitted performed => ?_
  rw [reads event] at performed
  rcases Op.query_job performed with ⟨rfl, whole, rfl, rfl⟩ | ⟨rfl, broken, rfl, rfl⟩ |
    ⟨applied, reached, rfl, rfl, rfl⟩
  · exact found permitted whole
  · exact lost permitted broken
  · exact cancelled applied reached permitted

/-- The first operation of a run. -/
theorem safe_beginJob {jobId : Nat} {returned : Unit → World → Prop}
    (begun : Settles contract returned raised world (.ok ())
      { world with currentJob := some jobId, nextPosition := 0, sessionBroken := false }) :
    Safe contract returned raised (beginJob jobId) world := by
  refine safe_op fun event outcome after _ performed => ?_
  cases event <;> cases performed
  exact begun

/-- The handler of a failed call never returns: it raises again what it was given, or what its
own commit raises. -/
theorem safe_failStep {α : Type} {step : Nat} {error : Exn} {returned : α → World → Prop}
    (noted : error.isAptlyError = true →
      Safe contract (fun _ => raised error) raised (finishStep step .failed error.str) world)
    (passed : error.isAptlyError = false → raised error world) :
    Safe contract returned raised (JobRunner.failStep step error : Program α) world := by
  unfold JobRunner.failStep
  by_cases refused : error.isAptlyError = true
  · rw [if_pos refused]
    exact Safe.bind (noted refused) fun _ _ failed => failed
  · rw [if_neg refused]
    exact passed (by simpa using refused)

/-- The polling loop, by induction on how often it looks.  `going` is known before each look,
`ended` once aptly has called the task finished, and `told` once it has said how far it is. -/
theorem safe_pollTask {self : JobRunner} {step : Nat} {taskId : Int} (going : World → Prop)
    (ended : Task → World → Prop) (told : Option TaskProgress → World → Prop) {done : World → Prop}
    (looks : ∀ {world}, going world → Safe contract
      (fun task after => if task.state.finished = true then ended task after else going after) raised
      (Client.getTask taskId) world)
    (reads : ∀ {task world}, ended task world →
      Safe contract (fun _ => ended task) raised (Client.taskOutput taskId) world)
    (fails : ∀ {task output world}, task.state = .failed → ended task world →
      raised (.taskFailed task output) world)
    (succeeds : ∀ {task world}, task.state = .succeeded → ended task world → done world)
    (zeroes : ∀ {task world}, task.state = .succeeded → ended task world →
      Safe contract (fun _ => done) raised (commit .job [.setStep step fun _ row =>
        { row with remainingBytes := some 0, remainingPackages := some 0 }]) world)
    (asks : ∀ {world}, going world →
      Safe contract told raised (Client.taskProgress taskId) world)
    (rests : ∀ {world}, told none world → going world)
    (notes : ∀ {progress world}, told (some progress) world →
      Safe contract (fun _ => told (some progress)) raised (commit .job [.setStep step fun _ row =>
        { row with
          totalBytes := some progress.totalBytes
          remainingBytes := some progress.remainingBytes
          totalPackages := some progress.totalPackages
          remainingPackages := some progress.remainingPackages }]) world)
    (guards : ∀ {progress world}, told (some progress) world →
      Safe contract (fun _ => going) raised (self.guardDisk progress.remainingBytes) world)
    (sleeps : ∀ {world}, going world → Safe contract (fun _ => going) raised sleep world)
    (polls : Nat) (reported : Bool) (held : going world) :
    Safe contract (fun _ => done) raised (self.pollTask step taskId polls reported) world := by
  induction polls generalizing reported world with
  | zero => trivial
  | succ polls inductionHypothesis =>
      refine Safe.bind (looks held) fun task after seen => ?_
      by_cases finished : task.state.finished = true
      · rw [if_pos finished] at seen
        rw [if_pos finished]
        refine Safe.bind (reads seen) fun output later known => ?_
        by_cases failed : task.state = .failed
        · rw [if_pos failed]
          exact fails failed known
        · rw [if_neg failed]
          have succeeded := TaskState.eq_of_finished finished failed
          split
          · exact Safe.bind (zeroes succeeded known) fun _ _ held => held
          · exact succeeds succeeded known
      · rw [if_neg finished] at seen
        rw [if_neg finished]
        refine Safe.bind (asks seen) fun progress later known => ?_
        cases progress with
        | none =>
            exact Safe.bind (sleeps (rests known)) fun _ _ held => inductionHypothesis reported held
        | some progress =>
            refine Safe.bind (notes known) fun _ _ known => ?_
            refine Safe.bind (guards known) fun _ _ held => ?_
            exact Safe.bind (sleeps held) fun _ _ held => inductionHypothesis true held

/-- A job's work ends in one of three ways, and each has its own epilogue. -/
theorem safe_supervise {jobId : Nat} {job : Job} {mirrorSet : Option MirrorSet}
    {work : Program Unit} (worked : World → Prop) (gaveUp : Exn → World → Prop)
    {returned : Unit → World → Prop}
    (working : Safe contract (fun _ => worked) gaveUp work world)
    (succeeded : ∀ after, worked after → Safe contract returned raised
      (JobRunner.settle jobId job mirrorSet .succeeded job.error) after)
    (failed : ∀ error after, error.isException = true → gaveUp error after →
      Safe contract returned raised
        (do
          let recorded ← (failRunningSteps jobId error.text).attempt
          JobRunner.settle jobId job mirrorSet .failed (some error.text)
          Coroutine.ofExcept recorded) after)
    (stopped : ∀ error after, error.isException = false → gaveUp error after →
      Safe contract returned raised
        (do
          JobRunner.settle jobId job mirrorSet .running job.error
          Coroutine.raised error) after) :
    Safe contract returned raised (JobRunner.supervise jobId job mirrorSet work) world := by
  refine Coroutine.safe_bind.mpr (Coroutine.safe_attempt.mpr ?_)
  refine working.mono (fun _ after done => succeeded after done) fun error after gave => ?_
  by_cases caught : error.isException = true
  · dsimp only
    rw [if_pos caught]
    exact failed error after caught gave
  · dsimp only
    rw [if_neg caught]
    exact stopped error after (by simpa using caught) gave

end AptlyGui
