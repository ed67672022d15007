import AptlyGui.Services.Jobs.Runner

/-!
# What each job may ask for

The operations a job can ever await, read off its program text: the requests to
aptly with their arguments, and the rows a commit may touch.  Everything else
is bookkeeping, which changes nothing but the job's own steps.
-/

namespace AptlyGui

open Coroutine (Uses forEach foldEach)

/-- Changes of the step log. -/
def Write.ofSteps : Write → Prop
  | .addStep _ | .setStep _ _ => True
  | _ => False

/-- Reads, waiting, and the job's own steps. -/
def Op.bookkeeping : Op → Prop
  | .aptly request => request.writes = false
  | .fetchRelease _ _ | .sleep | .now | .nextPosition => True
  | .getMirrorSet _ _ | .getSnapshotSet _ _ | .snapshotSetsOf _ _ => True
  | .commit .job writes => ∀ change ∈ writes, change.ofSteps
  | _ => False

/-- Adds a step to the log, or looks at what clients get. -/
def Op.visits : Op → Bool
  | .commit _ writes => writes.any fun | .addStep _ => true | _ => false
  | .fetchRelease _ _ => true
  | _ => false

/-- The bookkeeping between two visits. -/
def Op.waits (op : Op) : Prop := op.bookkeeping ∧ op.visits = false

theorem uses_steps {writes : List Write} (steps : ∀ change ∈ writes, change.ofSteps) :
    (commit .job writes).Uses Op.bookkeeping :=
  uses_op steps

theorem setStep_waits (step : Nat) (change : Time → JobStep → JobStep) :
    (commit .job [.setStep step change]).Uses Op.waits :=
  uses_op ⟨by simp [Op.bookkeeping, Write.ofSteps], rfl⟩

theorem addStep_uses (jobId : Nat) (description : String) :
    (addStep jobId description).Uses Op.bookkeeping := by
  refine Uses.bind (uses_op trivial) fun position => Uses.bind (uses_steps ?_) fun _ => trivial
  simp [Write.ofSteps]

theorem finishStep_waits (step : Nat) (state : StepState) (output : String) :
    (finishStep step state output).Uses Op.waits :=
  Uses.bind (setStep_waits step _) fun _ => trivial

theorem finishStep_uses (step : Nat) (state : StepState) (output : String) :
    (finishStep step state output).Uses Op.bookkeeping :=
  (finishStep_waits step state output).mono fun _ => And.left

namespace JobRunner

variable (self : JobRunner) (jobId : Nat) (mirrorSet : MirrorSet)

theorem guardDisk_waits (remainingBytes : Int) :
    (self.guardDisk remainingBytes).Uses Op.waits := by
  refine Uses.bind (uses_op ⟨rfl, rfl⟩) fun storage => ?_
  dsimp only
  split <;> trivial

theorem guardDisk_uses (remainingBytes : Int) :
    (self.guardDisk remainingBytes).Uses Op.bookkeeping :=
  (self.guardDisk_waits remainingBytes).mono fun _ => And.left

theorem pollTask_waits (step : Nat) (taskId : Int) (polls : Nat) (reported : Bool) :
    (self.pollTask step taskId polls reported).Uses Op.waits := by
  induction polls generalizing reported with
  | zero => trivial
  | succ polls inductionHypothesis =>
      refine Uses.bind (uses_op ⟨rfl, rfl⟩) fun task => ?_
      split
      · refine Uses.bind (uses_op ⟨rfl, rfl⟩) fun output => ?_
        split
        · trivial
        · split
          · exact Uses.bind (setStep_waits step _) fun _ => trivial
          · trivial
      · refine Uses.bind (uses_op ⟨rfl, rfl⟩) fun progress => ?_
        split
        · exact Uses.bind (uses_op ⟨trivial, rfl⟩) fun _ => inductionHypothesis reported
        · refine Uses.bind (setStep_waits step _) fun _ => ?_
          refine Uses.bind (self.guardDisk_waits _) fun _ => ?_
          exact Uses.bind (uses_op ⟨trivial, rfl⟩) fun _ => inductionHypothesis true

theorem followTask_waits (step : Nat) (task : Task) :
    (self.followTask step task).Uses Op.waits := by
  refine Uses.bind (setStep_waits step _) fun _ => ?_
  exact Uses.bind (self.pollTask_waits step task.id self.polls false)
    fun output => finishStep_waits step .succeeded output

theorem followTask_uses (step : Nat) (task : Task) :
    (self.followTask step task).Uses Op.bookkeeping :=
  (self.followTask_waits step task).mono fun _ => And.left

theorem failStep_uses {α : Type} (step : Nat) (error : Exn) :
    (failStep step error : Program α).Uses Op.bookkeeping := by
  unfold failStep
  split
  · exact Uses.bind (finishStep_uses step .failed error.str) fun _ => trivial
  · trivial

/-! ## Jobs on a mirror set -/

/-- The operations of a CREATE job. -/
inductive OfCreate : Op → Prop where
  | bookkeeping {op : Op} : op.bookkeeping → OfCreate op
  | createMirror {suite component : String} : suite ∈ mirrorSet.suites →
      component ∈ mirrorSet.components →
      OfCreate (.aptly (.createMirror (specFor mirrorSet suite component)))

theorem create_uses : (create jobId mirrorSet).Uses (OfCreate mirrorSet) := by
  refine Uses.bind (uses_op (.bookkeeping rfl)) fun mirrors => ?_
  refine Uses.forEach fun suite suiteListed => Uses.forEach fun component componentListed => ?_
  refine Uses.bind ((addStep_uses jobId _).mono fun _ => .bookkeeping) fun step => ?_
  split
  · exact (finishStep_uses step .skipped _).mono fun _ => .bookkeeping
  · refine Uses.bind (uses_op ?_) fun _ => (finishStep_uses step .succeeded _).mono fun _ => .bookkeeping
    exact .createMirror (mem_orderSuites.mp suiteListed) componentListed

/-- The operations of an UPDATE job. -/
inductive OfUpdate : Op → Prop where
  | bookkeeping {op : Op} : op.bookkeeping → OfUpdate op
  | updateMirror {suite component : String} : suite ∈ mirrorSet.suites →
      component ∈ mirrorSet.components →
      OfUpdate (.aptly (.updateMirror (specFor mirrorSet suite component)))
  | createSnapshot {suite component stamp : String} : suite ∈ mirrorSet.suites →
      component ∈ mirrorSet.components →
      OfUpdate (.aptly (.createSnapshotFromMirror (mirrorSet.mirrorName suite component)
        s!"{mirrorSet.mirrorName suite component}-{stamp}" s!"aptly-gui job {jobId}"))
  | addSet : OfUpdate (.commit .job [.addSnapshotSet
      { mirrorSetId := mirrorSet.id, jobId := some jobId, state := .incomplete
        snapshots := Dict.empty }])
  | recordSnapshot {snapshotSet step : Nat} {taken : Dict String String} :
      OfUpdate (.commit .job [.setSnapshotSet snapshotSet fun row => { row with snapshots := taken },
        endStep step .succeeded ""])
  | complete {snapshotSet : Nat} :
      OfUpdate (.commit .job [.setSnapshotSet snapshotSet fun row => { row with state := .complete }])

theorem preflight_uses : (self.preflight jobId mirrorSet).Uses Op.bookkeeping := by
  refine Uses.bind (addStep_uses jobId _) fun step => ?_
  refine Uses.bind (uses_op rfl) fun mirrors => ?_
  dsimp only
  split
  · exact Uses.bind (finishStep_uses step .failed _) fun _ => trivial
  · refine Uses.bind (uses_op rfl) fun storage => ?_
    split
    · exact finishStep_uses step .succeeded _
    · exact Uses.bind (finishStep_uses step .failed _) fun _ => trivial

theorem sync_uses : (self.sync jobId mirrorSet).Uses (OfUpdate jobId mirrorSet) := by
  refine Uses.forEach fun suite suiteListed => Uses.forEach fun component componentListed => ?_
  refine Uses.bind ((addStep_uses jobId _).mono fun _ => .bookkeeping) fun step => ?_
  refine Uses.bind (uses_op (.updateMirror (mem_orderSuites.mp suiteListed) componentListed))
    fun task => (self.followTask_uses step task).mono fun _ => .bookkeeping

theorem takeSnapshots_uses (stamp : String) (snapshotSet : Nat) :
    (takeSnapshots jobId mirrorSet stamp snapshotSet).Uses (OfUpdate jobId mirrorSet) := by
  refine Uses.foldEach fun suite suiteListed _ => Uses.foldEach fun component componentListed _ => ?_
  refine Uses.bind ((addStep_uses jobId _).mono fun _ => .bookkeeping) fun step => ?_
  refine Uses.bind (uses_op (.createSnapshot (mem_orderSuites.mp suiteListed) componentListed))
    fun _ => ?_
  exact Uses.bind (uses_op .recordSnapshot) fun _ => trivial

theorem update_uses : (self.update jobId mirrorSet).Uses (OfUpdate jobId mirrorSet) := by
  refine Uses.bind ((self.preflight_uses jobId mirrorSet).mono fun _ => .bookkeeping) fun _ => ?_
  refine Uses.bind (uses_op (.bookkeeping trivial)) fun moment => ?_
  refine Uses.bind (uses_op .addSet) fun inserted => ?_
  refine Uses.bind (self.sync_uses jobId mirrorSet) fun _ => ?_
  refine Uses.bind (takeSnapshots_uses jobId mirrorSet _ _) fun _ => ?_
  exact Uses.bind (uses_op .complete) fun _ => trivial

/-- The operations of a SWITCH job once its target is loaded. -/
inductive OfSwitch (target : SnapshotSet) : Op → Prop where
  | bookkeeping {op : Op} : op.bookkeeping → OfSwitch target op
  | switchPublished {suite : String} {sources : Dict String String} : suite ∈ mirrorSet.suites →
      sourcesFor mirrorSet target suite = .ok sources →
      OfSwitch target (.aptly (.switchPublished mirrorSet.publishTarget suite sources
        ⟨mirrorSet.signingKey⟩))
  | publishSnapshots {suite : String} {sources : Dict String String} : suite ∈ mirrorSet.suites →
      sourcesFor mirrorSet target suite = .ok sources →
      OfSwitch target (.aptly (.publishSnapshots mirrorSet.publishTarget suite sources
        mirrorSet.architectures ⟨mirrorSet.signingKey⟩))

theorem publishEach_uses {target : SnapshotSet} {published : Dict (String × String) Published}
    {suite : String} (suiteListed : suite ∈ mirrorSet.suites) :
    (self.publishEach jobId mirrorSet target published suite).Uses (OfSwitch mirrorSet target) := by
  unfold publishEach
  cases found : sourcesFor mirrorSet target suite with
  | error error => trivial
  | ok sources =>
      change Uses _ (Coroutine.bind (addStep jobId _) _)
      refine Uses.bind ((addStep_uses jobId _).mono fun _ => .bookkeeping) fun step => ?_
      have following : ∀ task, (self.followTask step task).Uses (OfSwitch mirrorSet target) :=
        fun task => (self.followTask_uses step task).mono fun _ => .bookkeeping
      dsimp only
      split
      · exact Uses.bind (uses_op (.switchPublished suiteListed found)) following
      · exact Uses.bind (uses_op (.publishSnapshots suiteListed found)) following

theorem verify_uses (target : SnapshotSet) :
    (verify jobId mirrorSet target).Uses Op.bookkeeping := by
  refine Uses.bind (addStep_uses jobId _) fun step => ?_
  refine Uses.bind (uses_op rfl) fun actual => ?_
  refine Uses.bind (Coroutine.uses_ofExcept _) fun problems => ?_
  split
  · exact Uses.bind (finishStep_uses step .failed _) fun _ => trivial
  · exact finishStep_uses step .succeeded _

theorem checkAsClient_uses (publicUrl : String) :
    (checkAsClient jobId mirrorSet publicUrl).Uses Op.bookkeeping := by
  refine Uses.bind (addStep_uses jobId _) fun step => ?_
  refine Uses.bind (Uses.foldEach fun suite _ checks => ?_) fun checks => ?_
  · exact Uses.bind (uses_op trivial) fun check => trivial
  · dsimp only
    split
    · exact Uses.bind (finishStep_uses step .failed _) fun _ => trivial
    · exact finishStep_uses step .succeeded _

theorem publishSuites_uses (target : SnapshotSet) :
    (self.publishSuites jobId mirrorSet target).Uses (OfSwitch mirrorSet target) := by
  refine Uses.bind (uses_op (.bookkeeping rfl)) fun published => ?_
  refine Uses.bind (Uses.forEach fun suite suiteListed =>
    self.publishEach_uses jobId mirrorSet (mem_orderSuites.mp suiteListed)) fun _ => ?_
  refine Uses.bind ((verify_uses jobId mirrorSet target).mono fun _ => .bookkeeping) fun _ => ?_
  split
  · trivial
  · split
    · trivial
    · exact (checkAsClient_uses jobId mirrorSet _).mono fun _ => .bookkeeping

/-! ## Jobs on names -/

theorem reclaimSpace_uses {allowed : Op → Prop} (noted : ∀ op : Op, op.bookkeeping → allowed op)
    (cleans : allowed (.aptly .dbCleanup)) : (self.reclaimSpace jobId).Uses allowed := by
  refine Uses.bind ((addStep_uses jobId _).mono noted) fun step => ?_
  exact Uses.bind (uses_op cleans) fun task => (self.followTask_uses step task).mono noted

/-- The operations of a DISCARD job. -/
inductive OfDiscard (params : JobParams) : Op → Prop where
  | bookkeeping {op : Op} : op.bookkeeping → OfDiscard params op
  | deleteSnapshot {name : String} : name ∈ params.snapshots.getD [] →
      OfDiscard params (.aptly (.deleteSnapshot name))
  | dbCleanup : OfDiscard params (.aptly .dbCleanup)
  | deleteSet {id : Nat} : OfDiscard params (.commit .job [.deleteSnapshotSet id])

theorem deleteSnapshotEach_uses {params : JobParams} {name : String}
    (listed : name ∈ params.snapshots.getD []) :
    (deleteSnapshotEach jobId name).Uses (OfDiscard params) := by
  refine Uses.bind ((addStep_uses jobId _).mono fun _ => .bookkeeping) fun step => ?_
  refine Uses.bind (Uses.catching (uses_op (.deleteSnapshot listed)) fun error => ?_) fun _ => ?_
  · exact (failStep_uses step error).mono fun _ => .bookkeeping
  · exact (finishStep_uses step .succeeded _).mono fun _ => .bookkeeping

/-- What follows the deletions. -/
theorem discardRest_uses (params : JobParams) :
    (do
      self.reclaimSpace jobId
      match params.snapshotSetId with
      | none => return
      | some setId =>
          match ← getSnapshotSet .job setId with
          | none => return
          | some snapshotSet =>
              let _ ← commit .job [.deleteSnapshotSet snapshotSet.id] : Program Unit).Uses
      (OfDiscard params) := by
  refine Uses.bind (self.reclaimSpace_uses jobId (fun _ => .bookkeeping) .dbCleanup) fun _ => ?_
  split
  · trivial
  · refine Uses.bind (uses_op (.bookkeeping trivial)) fun found => ?_
    split
    · trivial
    · exact Uses.bind (uses_op .deleteSet) fun _ => trivial

theorem discard_uses (params : JobParams) :
    (self.discard jobId params).Uses (OfDiscard params) := by
  refine Uses.bind (Uses.forEach fun name listed => deleteSnapshotEach_uses jobId listed)
    fun _ => ?_
  exact self.discardRest_uses jobId params

/-- The operations of a REMOVE job. -/
inductive OfRemove (params : JobParams) : Op → Prop where
  | bookkeeping {op : Op} : op.bookkeeping → OfRemove params op
  | deleteMirror {name : String} : name ∈ params.mirrors.getD [] →
      OfRemove params (.aptly (.deleteMirror name))
  | dbCleanup : OfRemove params (.aptly .dbCleanup)
  | forget {owned : List SnapshotSet} {id : Nat} : OfRemove params
      (.commit .job (.setJob jobId (fun _ job => { job with mirrorSetId := none })
        :: owned.map (fun row => .deleteSnapshotSet row.id) ++ [.deleteMirrorSet id]))

theorem deleteMirrorEach_uses {params : JobParams} {name : String}
    (listed : name ∈ params.mirrors.getD []) :
    (self.deleteMirrorEach jobId name).Uses (OfRemove jobId params) := by
  refine Uses.bind ((addStep_uses jobId _).mono fun _ => .bookkeeping) fun step => ?_
  refine Uses.bind (Uses.catching (uses_op (.deleteMirror listed)) fun error => ?_) fun task => ?_
  · exact (failStep_uses step error).mono fun _ => .bookkeeping
  · exact (self.followTask_uses step task).mono fun _ => .bookkeeping

/-- What follows the deletions. -/
theorem removeRest_uses (params : JobParams) (loaded : Option MirrorSet) :
    (do
      self.reclaimSpace jobId
      match params.mirrorSetId with
      | none => return
      | some setId =>
          match ← getLoaded loaded setId with
          | none => return
          | some mirrorSet =>
              let owned ← snapshotSetsOf .job mirrorSet.id
              let _ ← commit .job (.setJob jobId (fun _ job => { job with mirrorSetId := none })
                :: owned.map (fun row => .deleteSnapshotSet row.id) ++
                  [.deleteMirrorSet mirrorSet.id]) : Program Unit).Uses
      (OfRemove jobId params) := by
  refine Uses.bind (self.reclaimSpace_uses jobId (fun _ => .bookkeeping) .dbCleanup) fun _ => ?_
  split
  · trivial
  · refine Uses.bind ?_ fun found => ?_
    · unfold getLoaded
      split
      · split
        · trivial
        · exact uses_op (.bookkeeping trivial)
      · exact uses_op (.bookkeeping trivial)
    · split
      · trivial
      · refine Uses.bind (uses_op (.bookkeeping trivial)) fun owned => ?_
        exact Uses.bind (uses_op .forget) fun _ => trivial

theorem remove_uses (params : JobParams) (loaded : Option MirrorSet) :
    (self.remove jobId params loaded).Uses (OfRemove jobId params) := by
  refine Uses.bind (Uses.forEach fun name listed => self.deleteMirrorEach_uses jobId listed)
    fun _ => ?_
  exact self.removeRest_uses jobId params loaded

end JobRunner

/-! ## Any job -/

/-- What a job may do to its own row: it keeps the type and the parameters, and never goes back to
the queue. -/
def Job.Advances (before after : Job) : Prop :=
  after.type = before.type ∧ after.params = before.params ∧
    (after.state = .queued → before.state = .queued)

/-- A change of the database that a job with this id may make. -/
def Write.ofJob (jobId : Nat) : Write → Prop
  | .setJob id change => id = jobId ∧ ∀ (now : Time) (row : Job), row.Advances (change now row)
  | .addJob _ | .addMirrorSet _ => False
  | _ => True

/-- An operation that a job with this id may await. -/
def Op.ofJob (jobId : Nat) : Op → Prop
  | .beginJob id => id = jobId
  | .commit .job writes => ∀ change ∈ writes, change.ofJob jobId
  | .commit .request _ | .put _ => False
  | _ => True

/-- A change made when a job ends: its own row, its steps, and the audit log. -/
def Write.closes (jobId : Nat) : Write → Prop
  | .setJob id change => id = jobId ∧ ∀ (now : Time) (row : Job), row.Advances (change now row)
  | .setStep _ _ | .addAudit _ => True
  | _ => False

def Op.closes (jobId : Nat) : Op → Prop
  | .runningSteps _ => True
  | .commit .job writes => ∀ change ∈ writes, change.closes jobId
  | _ => False

theorem Op.ofJob_of_closes {jobId : Nat} {op : Op} (closes : op.closes jobId) : op.ofJob jobId := by
  cases op with
  | runningSteps id => trivial
  | commit session writes =>
      cases session with
      | request => exact closes.elim
      | job =>
          intro change membership
          have ends := closes change membership
          cases change <;> first | exact ends | trivial
  | _ => exact closes.elim

theorem Op.ofJob_of_bookkeeping {jobId : Nat} {op : Op} (bookkeeping : op.bookkeeping) :
    op.ofJob jobId := by
  cases op with
  | commit session writes =>
      cases session with
      | request => exact bookkeeping.elim
      | job =>
          intro change membership
          have steps := bookkeeping change membership
          cases change <;> trivial
  | beginJob id => exact bookkeeping.elim
  | put id => exact bookkeeping.elim
  | _ => trivial

/-- Changes of the step log and of the snapshot sets. -/
def Write.ofSets : Write → Prop
  | .addStep _ | .setStep _ _ => True
  | .addSnapshotSet _ | .setSnapshotSet _ _ | .deleteSnapshotSet _ => True
  | _ => False

namespace JobRunner

/-- The operations of the work of any job. -/
inductive OfWork (jobId : Nat) : Op → Prop where
  | bookkeeping {op : Op} : op.bookkeeping → OfWork jobId op
  | aptly {request : Request} : OfWork jobId (.aptly request)
  | store {writes : List Write} : (∀ change ∈ writes, change.ofSets) →
      OfWork jobId (.commit .job writes)
  | forget {owned : List SnapshotSet} {id : Nat} : OfWork jobId
      (.commit .job (.setJob jobId (fun _ job => { job with mirrorSetId := none })
        :: owned.map (fun row => .deleteSnapshotSet row.id) ++ [.deleteMirrorSet id]))

/-- The changes with which a set is forgotten. -/
theorem mem_forget {jobId id : Nat} {owned : List SnapshotSet} {change : Write}
    (listed : change ∈ .setJob jobId (fun _ job => { job with mirrorSetId := none })
      :: owned.map (fun row => .deleteSnapshotSet row.id) ++ [.deleteMirrorSet id]) :
    change = .setJob jobId (fun _ job => { job with mirrorSetId := none }) ∨
      (∃ row ∈ owned, change = .deleteSnapshotSet row.id) ∨ change = .deleteMirrorSet id := by
  simp only [List.cons_append, List.mem_cons, List.mem_append, List.mem_map, List.not_mem_nil,
    or_false] at listed
  rcases listed with rfl | ⟨row, owns, rfl⟩ | rfl
  · exact .inl rfl
  · exact .inr (.inl ⟨row, owns, rfl⟩)
  · exact .inr (.inr rfl)

theorem ofJob_of_work {jobId : Nat} {op : Op} (used : OfWork jobId op) : op.ofJob jobId := by
  cases used with
  | bookkeeping reads => exact Op.ofJob_of_bookkeeping reads
  | aptly => trivial
  | store sets =>
      intro change listed
      have ofSets := sets change listed
      cases change <;> first | exact ofSets.elim | trivial
  | forget =>
      intro change listed
      rcases mem_forget listed with rfl | ⟨row, -, rfl⟩ | rfl
      · exact ⟨rfl, fun _ _ => ⟨rfl, rfl, id⟩⟩
      · trivial
      · trivial

variable (self : JobRunner) (jobId : Nat)

theorem execute_uses_work (job : Job) (loaded : Option MirrorSet) :
    (self.execute jobId job loaded).Uses (OfWork jobId) := by
  unfold execute
  split
  · refine (self.discard_uses jobId job.params).mono fun op used => ?_
    cases used with
    | bookkeeping reads => exact .bookkeeping reads
    | deleteSnapshot _ => exact .aptly
    | dbCleanup => exact .aptly
    | deleteSet => exact .store (by simp [Write.ofSets])
  · refine (self.remove_uses jobId job.params _).mono fun op used => ?_
    cases used with
    | bookkeeping reads => exact .bookkeeping reads
    | deleteMirror _ => exact .aptly
    | dbCleanup => exact .aptly
    | forget => exact .forget
  · trivial
  · refine (create_uses jobId _).mono fun op used => ?_
    cases used with
    | bookkeeping reads => exact .bookkeeping reads
    | createMirror _ _ => exact .aptly
  · refine (self.update_uses jobId _).mono fun op used => ?_
    cases used with
    | bookkeeping reads => exact .bookkeeping reads
    | updateMirror _ _ => exact .aptly
    | createSnapshot _ _ => exact .aptly
    | addSet => exact .store (by simp [Write.ofSets])
    | recordSnapshot => exact .store (by simp [Write.ofSets, endStep])
    | complete => exact .store (by simp [Write.ofSets])
  · unfold switch
    split
    · trivial
    · refine Uses.bind (uses_op (.bookkeeping trivial)) fun found => ?_
      split
      · trivial
      · split
        · trivial
        · split
          · trivial
          · refine (self.publishSuites_uses jobId _ _).mono fun op used => ?_
            cases used with
            | bookkeeping reads => exact .bookkeeping reads
            | switchPublished _ _ => exact .aptly
            | publishSnapshots _ _ => exact .aptly
  · trivial

theorem execute_uses (job : Job) (loaded : Option MirrorSet) :
    (self.execute jobId job loaded).Uses (Op.ofJob jobId) :=
  (self.execute_uses_work jobId job loaded).mono fun _ => ofJob_of_work

theorem settle_uses (job : Job) (mirrorSet : Option MirrorSet) {state : JobState}
    (error : Option String) (ended : state ≠ .queued) :
    (settle jobId job mirrorSet state error).Uses (Op.closes jobId) := by
  refine Uses.bind (uses_op ?_) fun _ => trivial
  simp [Op.closes, Write.closes, Job.Advances, ended]

theorem failRunningSteps_uses (error : String) :
    (failRunningSteps jobId error).Uses (Op.closes jobId) := by
  refine Uses.bind (uses_op trivial) fun running => Uses.bind (uses_op ?_) fun _ => trivial
  simp [Op.closes, Write.closes, Job.Advances]

/-- Around a job's work there are only the operations that close it. -/
theorem supervise_uses {allowed : Op → Prop} {job : Job} {loaded : Option MirrorSet}
    {work : Program Unit} (uses : work.Uses allowed) (closing : ∀ op, op.closes jobId → allowed op) :
    (supervise jobId job loaded work).Uses allowed := by
  have settling : ∀ state error, state ≠ .queued →
      (settle jobId job loaded state error).Uses allowed :=
    fun state error ended => (settle_uses jobId job loaded error ended).mono closing
  refine Uses.bind uses.attempt fun ended => ?_
  split
  · exact settling _ _ nofun
  · split
    · refine Uses.bind ((failRunningSteps_uses jobId _).mono closing).attempt fun recorded => ?_
      exact Uses.bind (settling _ _ nofun) fun _ => Coroutine.uses_ofExcept _
    · exact Uses.bind (settling _ _ nofun) fun _ => trivial

theorem runLoaded_uses (job : Job) (mirrorSet : Option MirrorSet) :
    (self.runLoaded jobId job mirrorSet).Uses (Op.ofJob jobId) := by
  unfold runLoaded
  split
  · trivial
  · refine Uses.bind (uses_op ?_) fun _ =>
      supervise_uses jobId (self.execute_uses jobId job mirrorSet) fun _ => Op.ofJob_of_closes
    simp [Op.ofJob, Write.ofJob, Job.Advances]

theorem runJob_uses : (self.runJob jobId).Uses (Op.ofJob jobId) := by
  refine Uses.bind (uses_op rfl) fun _ => Uses.bind (uses_op trivial) fun found => ?_
  split
  · trivial
  · split
    · exact self.runLoaded_uses jobId _ none
    · exact Uses.bind (uses_op trivial) fun mirrorSet => self.runLoaded_uses jobId _ mirrorSet

end JobRunner

end AptlyGui
