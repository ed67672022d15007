import AptlyGui.Services.Jobs.Records
import AptlyGui.Services.Jobs.Watch

/-!
# What a CREATE job delivers

A CREATE job makes the mirrors that its set describes and aptly does not have.
It knows a mirror by its name: one that is there already is left as it is,
whatever it was made from.
-/

namespace AptlyGui

open Coroutine (Contract Safe Uses)

/-! ## What aptly does -/

/-- aptly made the mirror as it was asked; `root` is how aptly spells the URL of an archive. -/
def Mirror.MadeFrom (root : String → String) (spec : MirrorSpec) (mirror : Mirror) : Prop :=
  mirror.name = spec.name ∧ mirror.archiveUrl = root spec.archiveUrl ∧
    mirror.distribution = spec.distribution ∧ mirror.components = spec.components

instance (root : String → String) (spec : MirrorSpec) (mirror : Mirror) :
    Decidable (mirror.MadeFrom root spec) :=
  inferInstanceAs (Decidable (_ ∧ _))

/-- aptly lists the mirrors it holds, and one that it says it has made joins them. -/
def World.makesMirrors (root : String → String) (world : World) : Op → Event → Bool
  | .aptly .listMirrors, .reply (.mirrors listed) after =>
      decide (listed = world.aptly.mirrors) && decide (after.mirrors = world.aptly.mirrors)
  | .aptly (.createMirror spec), .reply (.mirror made) after =>
      decide (made.MadeFrom root spec ∧ made ∈ after.mirrors ∧
        ∀ mirror ∈ world.aptly.mirrors, mirror ∈ after.mirrors)
  | _, _ => true

/-- aptly does what it is asked, and nobody else touches its mirrors. -/
def System.makesMirrors (root : String → String) (system : System) : Label → Bool
  | .drift after => decide (after.mirrors = system.world.aptly.mirrors)
  | label => system.checked (World.makesMirrors root) label

/-! ## What the set describes -/

/-- A step that makes one mirror, or finds it there. -/
def JobStep.Creates (jobId : Nat) (name : String) (state : StepState) (output : Option String)
    (step : JobStep) : Prop :=
  step.jobId = jobId ∧ step.description = s!"Create {name}" ∧ step.state = state ∧
    step.outputTail = output

def Database.Reports (db : Database) (jobId : Nat) (name : String) (state : StepState)
    (output : Option String) : Prop :=
  ∃ id step, db.steps.get? id = some step ∧ step.Creates jobId name state output

/-- There is a mirror for this suite and component.  It is the one that was held before if there
was one of this name, which the job has skipped, and otherwise it is made from the set. -/
def MirrorSet.Delivered (root : String → String) (mirrorSet : MirrorSet) (jobId : Nat)
    (held : List Mirror) (world : World) (suite component : String) : Prop :=
  let name := mirrorSet.mirrorName suite component
  if name ∈ held.map Mirror.name then
    (∃ mirror ∈ held, mirror.name = name ∧ mirror ∈ world.aptly.mirrors) ∧
      world.db.Reports jobId name .skipped (some "already exists in aptly")
  else
    (∃ mirror ∈ world.aptly.mirrors, mirror.MadeFrom root (specFor mirrorSet suite component)) ∧
      world.db.Reports jobId name .succeeded none

/-- In its next operation the worker loads the mirror set of its job, and finds this one. -/
def System.Loads (job : Job) (mirrorSet : MirrorSet) (system : System) : Prop :=
  ∃ id resume, system.worker = .running (.await (.getMirrorSet .job id) resume) ∧
    job.mirrorSetId = some id ∧ system.world.db.mirrorSets.get? id = some mirrorSet

/-- No mirror is gone, and no step that has ended is changed. -/
structure World.Grows (before after : World) : Prop where
  mirrors : ∀ mirror ∈ before.aptly.mirrors, mirror ∈ after.aptly.mirrors
  steps : ∀ id step, before.db.steps.get? id = some step → step.state ≠ .running →
    after.db.steps.get? id = some step

namespace World.Grows

variable {before after : World}

theorem of_same (mirrors : after.aptly.mirrors = before.aptly.mirrors)
    (steps : after.db.steps = before.db.steps) : before.Grows after := by
  constructor
  · rw [mirrors]
    exact fun mirror listed => listed
  · rw [steps]
    exact fun id step found _ => found

theorem of_insert {row : JobStep} (mirrors : after.aptly.mirrors = before.aptly.mirrors)
    (steps : after.db.steps = before.db.steps.insert row) : before.Grows after := by
  constructor
  · rw [mirrors]
    exact fun mirror listed => listed
  · intro id step found _
    have old : id ≠ before.db.steps.nextId := by
      rintro rfl
      rw [Table.get?_nextId] at found
      cases found
    rw [steps, Table.get?_insert, if_neg old]
    exact found

theorem of_update {step : Nat} {row : JobStep} {change : JobStep → JobStep}
    (mirrors : after.aptly.mirrors = before.aptly.mirrors)
    (steps : after.db.steps = before.db.steps.update step change)
    (found : before.db.steps.get? step = some row) (running : row.state = .running) :
    before.Grows after := by
  constructor
  · rw [mirrors]
    exact fun mirror listed => listed
  · intro id other known ended
    have different : id ≠ step := by
      rintro rfl
      obtain rfl := Option.some.inj (found.symm.trans known)
      exact ended running
    rw [steps, Table.get?_update, if_neg different]
    exact known

end World.Grows

theorem Database.Reports.grown {jobId : Nat} {name : String} {state : StepState}
    {output : Option String} {world after : World} (reports : world.db.Reports jobId name state output)
    (ended : state ≠ .running) (grows : world.Grows after) :
    after.db.Reports jobId name state output := by
  obtain ⟨id, step, found, own, described, same, shown⟩ := reports
  exact ⟨id, step, grows.steps id step found (same ▸ ended), own, described, same, shown⟩

namespace MirrorSet.Delivered

variable {root : String → String} {mirrorSet : MirrorSet} {jobId : Nat} {held : List Mirror}
  {world after : World} {suite component : String}

theorem of_held {mirror : Mirror} (listed : mirror ∈ held)
    (named : mirror.name = mirrorSet.mirrorName suite component)
    (there : mirror ∈ world.aptly.mirrors)
    (reports : world.db.Reports jobId (mirrorSet.mirrorName suite component) .skipped
      (some "already exists in aptly")) :
    mirrorSet.Delivered root jobId held world suite component := by
  have present : mirrorSet.mirrorName suite component ∈ held.map Mirror.name :=
    List.mem_map.mpr ⟨mirror, listed, named⟩
  rw [Delivered, if_pos present]
  exact ⟨⟨mirror, listed, named, there⟩, reports⟩

theorem of_made (absent : mirrorSet.mirrorName suite component ∉ held.map Mirror.name)
    (made : ∃ mirror ∈ world.aptly.mirrors, mirror.MadeFrom root (specFor mirrorSet suite component))
    (reports : world.db.Reports jobId (mirrorSet.mirrorName suite component) .succeeded none) :
    mirrorSet.Delivered root jobId held world suite component := by
  rw [Delivered, if_neg absent]
  exact ⟨made, reports⟩

theorem grown (delivered : mirrorSet.Delivered root jobId held world suite component)
    (grows : world.Grows after) : mirrorSet.Delivered root jobId held after suite component := by
  simp only [Delivered] at delivered
  split at delivered
  · obtain ⟨⟨mirror, listed, named, there⟩, reports⟩ := delivered
    exact .of_held listed named (grows.mirrors mirror there) (reports.grown (by decide) grows)
  · rename_i absent
    obtain ⟨⟨mirror, there, made⟩, reports⟩ := delivered
    exact .of_made absent ⟨mirror, grows.mirrors mirror there, made⟩
      (reports.grown (by decide) grows)

end MirrorSet.Delivered

namespace Create

/-- The mirrors that were held are there, and one for each pair that is done. -/
structure Working (root : String → String) (jobId : Nat) (mirrorSet : MirrorSet)
    (held : List Mirror) (done : List (String × String)) (world : World) : Prop where
  kept : ∀ mirror ∈ held, mirror ∈ world.aptly.mirrors
  made : ∀ pair ∈ done, mirrorSet.Delivered root jobId held world pair.1 pair.2

def Finished (root : String → String) (jobId : Nat) (described : MirrorSet → Prop)
    (held : List Mirror) (world : World) : Prop :=
  ∃ mirrorSet, described mirrorSet ∧ Working root jobId mirrorSet held mirrorSet.pairs world

/-- In the step in which the job ends SUCCEEDED it is finished. -/
def Ends (jobId : Nat) (finished : World → Prop) (before after : World) : Prop :=
  ∀ ended, after.db.jobs.get? jobId = some ended → ended.state = .succeeded →
    (∀ old, before.db.jobs.get? jobId = some old → old.state ≠ .succeeded) → finished after

/-- The set that the job loads is described. -/
def contract (root : String → String) (jobId : Nat) (job : Job) (described : MirrorSet → Prop)
    (held : List Mirror) : Contract semantics where
  allowed world op event := world.makesMirrors root op event = true ∧
    ∀ id mirrorSet, op = .getMirrorSet .job id → event = .proceed → job.mirrorSetId = some id →
      world.db.mirrorSets.get? id = some mirrorSet → described mirrorSet
  rely before after := before.Others after ∧ after.aptly.mirrors = before.aptly.mirrors
  guarantee := Ends jobId (Finished root jobId described held)
  rely_refl world := ⟨.refl world, rfl⟩
  rely_trans before after := ⟨before.1.trans after.1, after.2.trans before.2⟩

variable {root : String → String} {jobId : Nat} {job : Job} {described : MirrorSet → Prop}
  {held mirrors : List Mirror} {mirrorSet : MirrorSet} {done : List (String × String)}
  {name : String} {world after : World} {self : JobRunner}

theorem Working.grown (working : Working root jobId mirrorSet held done world)
    (grows : world.Grows after) : Working root jobId mirrorSet held done after := by
  constructor
  · intro mirror listed
    exact grows.mirrors mirror (working.kept mirror listed)
  · intro pair among
    exact (working.made pair among).grown grows

theorem Working.next (working : Working root jobId mirrorSet held done world)
    {suite component : String}
    (delivered : mirrorSet.Delivered root jobId held world suite component) :
    Working root jobId mirrorSet held ((suite, component) :: done) world := by
  refine ⟨working.kept, fun pair among => ?_⟩
  rcases List.mem_cons.mp among with rfl | earlier
  · exact delivered
  · exact working.made pair earlier

theorem grows_of_rely (passed : (contract root jobId job described held).rely world after) :
    world.Grows after :=
  .of_same passed.2 passed.1.db.steps

theorem ends_of_begun (begun : Begun jobId job after) :
    (contract root jobId job described held).guarantee world after :=
  fun ended found succeeded => absurd succeeded (begun.unended ended found)

/-- What is known once the job has returned from an operation of its own. -/
theorem own_safe {op : Op} {known : op.Ret → World → Prop} (own : op.ofJob jobId)
    (leaves : op.leavesOpen) (begun : Begun jobId job world)
    (lasts : ∀ value before after, known value before →
      (contract root jobId job described held).rely before after → known value after)
    (gains : ∀ event value after,
      (contract root jobId job described held).allowed world op event →
      op.perform event world = some (.ok value, after) → known value after) :
    Safe (contract root jobId job described held)
      (fun value after => Begun jobId job after ∧ known value after) (fun _ => Begun jobId job)
      (perform op) world := by
  refine safe_op fun event outcome after permitted performed => ?_
  have still := begun.of_perform own leaves performed
  refine ⟨ends_of_begun still, fun later passed => ?_⟩
  have lasting := still.passed passed.1
  cases outcome with
  | error error => exact lasting
  | ok value => exact ⟨lasting, lasts value _ _ (gains event value after permitted performed) passed⟩

/-- Whatever is known of the mirrors stays known around the calls to aptly. -/
theorem course (holds : List Mirror → Prop) :
    Course (contract root jobId job described held) jobId job fun world => holds world.aptly.mirrors where
  passes passed := passed.1
  passed _ known passed := by
    rw [passed.2]
    exact known
  routine := by
    rintro op event before after outcome ⟨-, -, -, quiet⟩ performed begun known
    refine ⟨ends_of_begun begun, ?_⟩
    rw [(Op.perform_frame performed).aptly quiet]
    exact known

/-- A commit of the job that returns is stored. -/
theorem commit_safe {writes : List Write} {known : Inserted → World → Prop}
    (own : (Op.commit .job writes).ofJob jobId) (leaves : (Op.commit .job writes).leavesOpen)
    (begun : Begun jobId job world)
    (lasts : ∀ value before after, known value before →
      (contract root jobId job described held).rely before after → known value after)
    (stored : ∀ db inserted, world.db.commit world.clock writes = .ok (db, inserted) →
      known inserted { world with db := db }) :
    Safe (contract root jobId job described held)
      (fun value after => Begun jobId job after ∧ known value after) (fun _ => Begun jobId job)
      (commit .job writes) world := by
  refine own_safe own leaves begun lasts fun event value after _ performed => ?_
  rcases Op.perform_commit performed with ⟨db, inserted, -, -, committed, same, rfl⟩ |
    ⟨_, -, -, -, refused, -⟩ | ⟨-, -, refused, -⟩ | ⟨_, _, -, refused, -⟩
  · cases same
    exact stored db value committed
  · cases refused
  · cases refused
  · cases refused

/-! ### One mirror -/

/-- This step of the job is under way. -/
def Opened (jobId : Nat) (name : String) (step : Nat) (world : World) : Prop :=
  ∃ row, world.db.steps.get? step = some row ∧ row.Creates jobId name .running none

theorem Opened.of_same {step : Nat} (opened : Opened jobId name step world)
    (steps : after.db.steps = world.db.steps) : Opened jobId name step after := by
  rw [Opened, steps]
  exact opened

section Steps

variable {holds : World → Prop}
  (grown : ∀ {before after : World}, holds before → before.Grows after → holds after)

include grown

theorem addStep_safe (begun : Begun jobId job world) (held : holds world) :
    Safe (contract root jobId job described mirrors)
      (fun step after => Begun jobId job after ∧ holds after ∧ Opened jobId name step after)
      (fun _ => Begun jobId job) (addStep jobId s!"Create {name}") world := by
  have counted : Safe (contract root jobId job described mirrors)
      (fun (_ : Nat) after => Begun jobId job after ∧ holds after)
      (fun _ => Begun jobId job) advancePosition world := by
    refine own_safe ?_ ?_ begun (fun _ _ _ held passed => grown held (grows_of_rely passed)) ?_
    · trivial
    · trivial
    · intro event value after _ performed
      cases event <;> cases performed
      exact grown held (.of_same rfl rfl)
  have added : ∀ position before, Begun jobId job before → holds before →
      Safe (contract root jobId job described mirrors)
        (fun (inserted : Inserted) after => Begun jobId job after ∧ holds after ∧
          Opened jobId name inserted.step after)
        (fun _ => Begun jobId job)
        (commit .job [.addStep fun now =>
          { jobId := jobId, position := position, description := s!"Create {name}"
            state := .running, startedAt := some now }]) before := by
    intro position before begun held
    refine commit_safe ?_ ?_ begun ?_ ?_
    · simp [Op.ofJob, Write.ofJob]
    · simp [Op.leavesOpen, Write.leavesOpen]
    · rintro inserted first second ⟨held, opened⟩ passed
      exact ⟨grown held (grows_of_rely passed), opened.of_same passed.1.db.steps⟩
    · intro db inserted committed
      rw [Database.commit_addStep] at committed
      cases committed
      exact ⟨grown held (.of_insert rfl rfl), _, (Table.get?_insert _ _ _).trans (if_pos rfl),
        rfl, rfl, rfl, rfl⟩
  refine Safe.bind counted ?_
  rintro position before ⟨begun, held⟩
  exact Safe.bind (added position before begun held) fun inserted after known => known

/-- The step that is under way ends, and no other one changes. -/
theorem finishStep_safe {step : Nat} {state : StepState} {text : String} {output : Option String}
    (shown : (if text = "" then none else some (lastOutput text)) = output)
    (ended : state ≠ .running) (begun : Begun jobId job world) (held : holds world)
    (opened : Opened jobId name step world) :
    Safe (contract root jobId job described mirrors)
      (fun _ after => Begun jobId job after ∧ holds after ∧
        after.db.Reports jobId name state output)
      (fun _ => Begun jobId job) (finishStep step state text) world := by
  have stored : Safe (contract root jobId job described mirrors)
      (fun (_ : Inserted) after => Begun jobId job after ∧ holds after ∧
        after.db.Reports jobId name state output)
      (fun _ => Begun jobId job) (commit .job [endStep step state text]) world := by
    refine commit_safe ?_ ?_ begun ?_ ?_
    · simp [Op.ofJob, Write.ofJob, endStep]
    · simp [Op.leavesOpen, Write.leavesOpen, endStep]
    · rintro inserted first second ⟨held, reports⟩ passed
      exact ⟨grown held (grows_of_rely passed), reports.grown ended (grows_of_rely passed)⟩
    · intro db inserted committed
      obtain ⟨row, found, own, described, running, empty⟩ := opened
      rw [endStep, Database.commit_setStep _ (Option.isSome_of_eq_some found)] at committed
      cases committed
      refine ⟨grown held (.of_update rfl rfl found running), step, _,
        Table.get?_updated _ found, own, described, rfl, ?_⟩
      rw [← shown, ← empty]
      rfl
  exact Safe.bind stored fun _ _ known => known

theorem createMirror_safe {spec : MirrorSpec} {step : Nat} (begun : Begun jobId job world)
    (held : holds world) (opened : Opened jobId name step world) :
    Safe (contract root jobId job described mirrors)
      (fun _ after => Begun jobId job after ∧ (holds after ∧
        ∃ mirror ∈ after.aptly.mirrors, mirror.MadeFrom root spec) ∧ Opened jobId name step after)
      (fun _ => Begun jobId job) (Client.createMirror spec) world := by
  refine own_safe ?_ ?_ begun ?_ ?_
  · trivial
  · trivial
  · rintro made before after ⟨⟨held, mirror, listed, faithful⟩, opened⟩ passed
    have grows := grows_of_rely passed
    exact ⟨⟨grown held grows, mirror, grows.mirrors mirror listed, faithful⟩,
      opened.of_same passed.1.db.steps⟩
  · intro event made after permitted performed
    obtain ⟨body, reached, rfl, parsed, rfl⟩ := Op.replied_of_ok performed
    cases body with
    | mirror answer =>
        cases parsed
        have honest := permitted.1
        simp only [World.makesMirrors, decide_eq_true_eq] at honest
        obtain ⟨faithful, added, kept⟩ := honest
        exact ⟨⟨grown held ⟨kept, fun _ _ found _ => found⟩, made, added, faithful⟩, opened⟩
    | _ => cases parsed

end Steps

theorem listMirrors_safe (begun : Begun jobId job world) (same : world.aptly.mirrors = held) :
    Safe (contract root jobId job described held)
      (fun listed after => Begun jobId job after ∧ listed = held ∧ after.aptly.mirrors = held)
      (fun _ => Begun jobId job) Client.listMirrors world := by
  refine own_safe ?_ ?_ begun ?_ ?_
  · trivial
  · trivial
  · exact fun listed before after known passed => ⟨known.1, passed.2.trans known.2⟩
  · intro event listed after permitted performed
    obtain ⟨body, reached, rfl, parsed, rfl⟩ := Op.replied_of_ok performed
    cases body with
    | mirrors answer =>
        cases parsed
        have honest := permitted.1
        simp only [World.makesMirrors, Bool.and_eq_true, decide_eq_true_eq] at honest
        exact ⟨honest.1.trans same, honest.2.trans same⟩
    | _ => cases parsed

theorem createEach_safe {suite component : String} (begun : Begun jobId job world)
    (working : Working root jobId mirrorSet held done world) :
    Safe (contract root jobId job described held)
      (fun _ after => Begun jobId job after ∧
        Working root jobId mirrorSet held ((suite, component) :: done) after)
      (fun _ => Begun jobId job)
      (JobRunner.createEach jobId mirrorSet (held.map Mirror.name) suite component) world := by
  unfold JobRunner.createEach
  refine Safe.bind (addStep_safe Working.grown begun working) ?_
  rintro step before ⟨begun, working, opened⟩
  by_cases present : (specFor mirrorSet suite component).name ∈ held.map Mirror.name
  · rw [if_pos present]
    refine (finishStep_safe Working.grown (by rfl) (by decide) begun working opened).mono ?_
      fun _ _ begun => begun
    rintro _ after ⟨begun, working, reports⟩
    obtain ⟨mirror, listed, named⟩ := List.mem_map.mp present
    exact ⟨begun, working.next (.of_held listed named (working.kept mirror listed) reports)⟩
  · rw [if_neg present]
    refine Safe.bind (createMirror_safe Working.grown begun working opened) ?_
    rintro _ made ⟨begun, known, opened⟩
    have grown : ∀ {before after : World}, (Working root jobId mirrorSet held done before ∧
        ∃ mirror ∈ before.aptly.mirrors, mirror.MadeFrom root (specFor mirrorSet suite component)) →
        before.Grows after → Working root jobId mirrorSet held done after ∧
          ∃ mirror ∈ after.aptly.mirrors,
            mirror.MadeFrom root (specFor mirrorSet suite component) := by
      rintro before after ⟨working, mirror, listed, faithful⟩ grows
      exact ⟨working.grown grows, mirror, grows.mirrors mirror listed, faithful⟩
    refine (finishStep_safe grown (by rfl) (by decide) begun known opened).mono ?_
      fun _ _ begun => begun
    rintro _ after ⟨begun, ⟨working, faithful⟩, reports⟩
    exact ⟨begun, working.next (.of_made present faithful reports)⟩

theorem create_safe (chosen : described mirrorSet) (begun : Begun jobId job world)
    (same : world.aptly.mirrors = held) :
    Safe (contract root jobId job described held)
      (fun _ after => Finished root jobId described held after) (fun _ => Begun jobId job)
      (JobRunner.create jobId mirrorSet) world := by
  refine Safe.bind (listMirrors_safe begun same) ?_
  rintro listed after ⟨begun, rfl, same⟩
  rw [JobRunner.createAll_eq]
  refine (Safe.forEach_done (fun done after => Begun jobId job after ∧
    Working root jobId mirrorSet listed done after) ⟨begun, ?_, by simp⟩ ?_).mono ?_
    fun _ _ begun => begun
  · intro mirror held
    rw [same]
    exact held
  · rintro pair - done before ⟨begun, working⟩
    exact createEach_safe begun working
  · rintro _ last ⟨-, working⟩
    refine ⟨mirrorSet, chosen, working.kept, fun pair among => ?_⟩
    exact working.made pair (List.mem_reverse.mpr among)

/-! ### The job's run -/

/-- Nothing has come of the job yet. -/
structure Taken (jobId : Nat) (job : Job) (held : List Mirror) (world : World) : Prop where
  row : world.db.jobs.get? jobId = some job
  queued : job.state = .queued
  current : world.currentJob = some jobId
  mirrors : world.aptly.mirrors = held

theorem Taken.begun (taken : Taken jobId job held world) : Begun jobId job world := by
  refine ⟨⟨job, taken.row, rfl, rfl⟩, fun row found => ?_, taken.current⟩
  obtain rfl := Option.some.inj (found.symm.trans taken.row)
  rw [taken.queued]
  decide

theorem Taken.passed (taken : Taken jobId job held world)
    (passed : (contract root jobId job described held).rely world after) :
    Taken jobId job held after :=
  ⟨passed.1.db.jobs jobId job taken.row, taken.queued, passed.1.currentJob.trans taken.current,
    passed.2.trans taken.mirrors⟩

/-- A read in the job's session, before the job has done anything. -/
theorem query_safe (op : Op) (value : World → op.Ret)
    (reads : ∀ event world, op.perform event world = world.query .job (value world) event)
    (taken : Taken jobId job held world) :
    Safe (contract root jobId job described held)
      (fun found after => found = value world ∧
        (∀ id mirrorSet, op = .getMirrorSet .job id → job.mirrorSetId = some id →
          world.db.mirrorSets.get? id = some mirrorSet → described mirrorSet) ∧
        Taken jobId job held after)
      (fun _ _ => True) (perform op) world := by
  refine safe_query op value (fun event => reads event world) ?_ ?_ ?_
  · intro permitted _
    refine .ok (ends_of_begun taken.begun) fun later passed => ?_
    refine ⟨rfl, fun id mirrorSet loads named found => ?_, taken.passed passed⟩
    exact permitted.2 id mirrorSet loads rfl named found
  · exact fun _ _ => .error (ends_of_begun taken.begun) fun _ _ => trivial
  · intro applied reached _
    have broke : Taken jobId job held { world with sessionBroken := true } :=
      ⟨taken.row, taken.queued, taken.current, taken.mirrors⟩
    exact .error (ends_of_begun broke.begun) fun _ _ => trivial

theorem settle_safe {loaded : Option MirrorSet} {row : Job} {error : Option String}
    (finished : Finished root jobId described held world) :
    Safe (contract root jobId job described held) (fun _ _ => True) (fun _ _ => True)
      (JobRunner.settle jobId row loaded .succeeded error) world := by
  refine Safe.bind (?_ : Safe _ (fun (_ : Inserted) _ => True) (fun _ _ => True) _ world)
    fun _ _ _ => trivial
  refine safe_op fun event outcome after _ performed => ⟨?_, fun _ _ => by cases outcome <;> trivial⟩
  -- The commit that ends the job writes to its row and to the audit, not to its steps.
  have steps : after.db.steps = world.db.steps := by
    rcases Op.db_of_perform performed with same | stored
    · rw [same]
    · simp only [World.stored] at stored
      split at stored
      · rename_i db inserted committed
        cases stored
        exact (Database.writeAll_tables committed).2.1
      · cases stored
  obtain ⟨mirrorSet, chosen, working⟩ := finished
  have aptly := (Op.perform_frame performed).aptly rfl
  rintro ended - - -
  exact ⟨mirrorSet, chosen, working.grown (.of_same (by rw [aptly]) steps)⟩

theorem runLoaded_safe {loaded : Option MirrorSet} (type : job.type = .create)
    (chosen : ∀ mirrorSet, loaded = some mirrorSet → described mirrorSet)
    (taken : Taken jobId job held world) :
    Safe (contract root jobId job described held) (fun _ _ => True) (fun _ _ => True)
      (self.runLoaded jobId job loaded) world := by
  unfold JobRunner.runLoaded
  split
  · trivial
  · refine Safe.bind ((course (· = held)).safe_started _ taken.begun taken.mirrors) ?_
    rintro _ after ⟨begun, same⟩
    refine (course fun _ => True).safe_supervised ?_ settle_safe
    cases loaded with
    | none =>
        simp only [JobRunner.execute, type]
        exact ⟨begun, trivial⟩
    | some mirrorSet =>
        simp only [JobRunner.execute, type]
        exact (create_safe (chosen mirrorSet rfl) begun same).mono (fun _ _ finished => finished)
          fun _ _ begun => ⟨begun, trivial⟩

theorem runJob_safe (stored : world.db.jobs.get? jobId = some job) (queued : job.state = .queued)
    (type : job.type = .create) (same : world.aptly.mirrors = held) :
    Safe (contract root jobId job described held) (fun _ _ => True) (fun _ _ => True)
      (self.runJob jobId) world := by
  have begins : Safe (contract root jobId job described held)
      (fun (_ : Unit) after => Taken jobId job held after) (fun _ _ => True) (beginJob jobId)
      world := by
    apply safe_beginJob
    have taken : Taken jobId job held { world with
        currentJob := some jobId, nextPosition := 0, sessionBroken := false } :=
      ⟨stored, queued, rfl, same⟩
    exact .ok (ends_of_begun taken.begun) fun later passed => taken.passed passed
  refine Safe.bind begins ?_
  rintro _ ready taken
  refine Safe.bind (query_safe (.getJob .job jobId) (fun world => world.db.jobs.get? jobId)
    (fun _ _ => rfl) taken) ?_
  rintro _ before ⟨rfl, -, still⟩
  simp only [taken.row]
  split
  · exact runLoaded_safe type (by simp) still
  · rename_i mirrorSetId named
    refine Safe.bind (query_safe (.getMirrorSet .job mirrorSetId)
      (fun world => world.db.mirrorSets.get? mirrorSetId) (fun _ _ => rfl) still) ?_
    rintro _ later ⟨rfl, chosen, taken⟩
    exact runLoaded_safe type (fun mirrorSet found => chosen mirrorSetId mirrorSet rfl named found)
      taken

/-! ### The service -/

variable {start later : System}

/-- A job other than this one does not end it. -/
theorem others_safe {other : Nat} {program : Program Unit} (uses : program.Uses (Op.ofJob other))
    (different : other ≠ jobId) :
    Safe (contract root jobId job described held) (fun _ _ => True) (fun _ _ => True) program
      world := by
  refine Safe.of_uses (fun _ => True) uses trivial (fun _ _ _ _ => trivial) ?_
  rintro op before outcome after own - ⟨event, -, performed⟩
  obtain ⟨rows, -, -⟩ := Op.jobFrame own performed
  refine ⟨fun ended found succeeded unended => ?_, trivial⟩
  rw [rows.others jobId different.symm] at found
  exact absurd succeeded (unended ended found)

theorem passed_of_external {before after : System} {label : Label}
    (uses : ∀ request ∈ before.requests, request.Uses Op.forRequest)
    (permitted : before.makesMirrors root label = true) (external : label.external)
    (stepped : before.step self label = some after) :
    (contract root jobId job described held).rely before.world after.world := by
  refine ⟨System.others_of_external uses external stepped, ?_⟩
  rcases System.aptly_of_external uses external stepped with rfl | same
  · simpa [System.makesMirrors] using permitted
  · rw [same]

/-- From the state in which the worker has taken the job. -/
def outline (queued : start.Queued) (uses : ∀ request ∈ start.requests, request.Uses Op.forRequest)
    (running : start.worker = .running (self.runJob jobId)) (taken : jobId ∉ start.waiting)
    (stored : start.world.db.jobs.get? jobId = some job) (unstarted : job.state = .queued)
    (type : job.type = .create) :
    Outline self (fun system label => system.makesMirrors root label = true ∧
      ∀ mirrorSet, label = .work .proceed → system.Loads job mirrorSet → described mirrorSet)
      start where
  contract := contract root jobId job described start.world.aptly.mirrors
  always _ := True
  rest _ _ := True
  requests := uses
  entry := trivial
  begins := by
    rw [HoldsAt, running]
    intro later passed
    exact runJob_safe (passed.1.db.jobs jobId job stored) unstarted type passed.2
  relies _ _ := trivial
  guarantees _ _ := trivial
  unmoved _ _ _ _ _ := trivial
  recovers _ := trivial
  stays _ _ := trivial
  others reached permitted external stepped :=
    passed_of_external (reached.requests_use uses) permitted.1 external stepped
  allows := by
    rintro system event op resume - ⟨honest, named⟩ running
    have honest : system.checked (World.makesMirrors root) (.work event) = true := honest
    rw [System.checked_work running] at honest
    refine ⟨honest, ?_⟩
    rintro id mirrorSet rfl rfl chosen found
    exact named mirrorSet rfl ⟨id, resume, running, chosen, found⟩
  takes := by
    intro system other rest reached _ idle queue _ _ later passed
    have present : other ∈ system.waiting := by simp [System.waiting, queue]
    have different : other ≠ jobId := by
      rintro rfl
      exact taken (reached.waited_of_waiting queued uses (Option.isSome_of_eq_some stored) present)
    exact others_safe (self.runJob_uses other) different
  crashes _ _ _ _ := trivial
  starts _ _ := trivial

/-- The worker takes the first job of the queue. -/
theorem begun_of_take {before taken : System} (next : before.world.queue.head? = some jobId)
    (stepped : before.step self .take = some taken) :
    taken.worker = .running (self.runJob jobId) ∧ jobId ∈ taken.world.taken ∧
      jobId ∈ before.waiting ∧ taken.world.db = before.world.db := by
  obtain ⟨first, rest, -, queue, rfl⟩ := System.step_take stepped
  rw [queue] at next
  obtain rfl : first = jobId := Option.some.inj next
  refine ⟨rfl, List.mem_cons_self, ?_, rfl⟩
  simp [System.waiting, queue]

end Create

/-- When a CREATE job ends SUCCEEDED, every mirror that aptly held when the worker took the job is
there as it was, and aptly holds one for each suite and component of the set that the worker found
when it loaded the job.  Where there was one before the job has skipped it, saying so in its step,
and every other one is made from the set. -/
theorem creation_delivers {self : JobRunner} {root : String → String}
    {start before taken last later : System} {final : Label} {jobId : Nat} {job ended : Job}
    (fresh : start.Fresh) (reached : System.Reachable self (fun _ _ => True) start before)
    (next : before.world.queue.head? = some jobId) (stepped : before.step self .take = some taken)
    (stored : taken.world.db.jobs.get? jobId = some job) (type : job.type = .create)
    (followed : System.Reachable self (fun system label => system.makesMirrors root label) taken last)
    (permitted : last.makesMirrors root final = true) (ends : last.step self final = some later)
    (unended : ∀ old, last.world.db.jobs.get? jobId = some old → old.state ≠ .succeeded)
    (found : later.world.db.jobs.get? jobId = some ended) (succeeded : ended.state = .succeeded) :
    (∀ mirror ∈ taken.world.aptly.mirrors, mirror ∈ later.world.aptly.mirrors) ∧
      ∃ loading loaded mirrorSet,
        System.Reachable self (fun system label => system.makesMirrors root label) taken loading ∧
        loading.Loads job mirrorSet ∧ loading.step self (.work .proceed) = some loaded ∧
        System.Reachable self (fun system label => system.makesMirrors root label) loaded later ∧
        ∀ suite ∈ mirrorSet.suites, ∀ component ∈ mirrorSet.components, mirrorSet.Delivered root
          jobId taken.world.aptly.mirrors later.world suite component := by
  have standing := reached.queued fresh
  have served := reached.requests_use fresh.requests_use
  have queued := standing.step served stepped
  have uses := System.requests_use_of_step served stepped
  obtain ⟨running, listed, waited, same⟩ := Create.begun_of_take next stepped
  obtain ⟨row, known, unstarted⟩ := standing.unstarted jobId waited
  have chosen : row = job := by
    rw [same, known] at stored
    exact Option.some.inj stored
  subst chosen
  -- The sets described are those that are loaded in some step of this run.
  let described : MirrorSet → Prop := fun mirrorSet => ∃ loading loaded,
    System.Reachable self (fun system label => system.makesMirrors root label) taken loading ∧
    loading.Loads row mirrorSet ∧ loading.step self (.work .proceed) = some loaded ∧
    System.Reachable self (fun system label => system.makesMirrors root label) loaded later
  let outline := @Create.outline root jobId row described self taken queued uses running
    (fun waits => queued.untaken jobId waits listed) stored unstarted type
  have along : System.Reachable self (fun system label => system.makesMirrors root label = true ∧
      ∀ mirrorSet, label = .work .proceed → system.Loads row mirrorSet → described mirrorSet)
      taken last := by
    refine (followed.along (.step .refl permitted ends)).mono ?_
    rintro system label ⟨honest, earlier, next, stepped, rest⟩
    refine ⟨honest, ?_⟩
    rintro mirrorSet rfl loads
    exact ⟨system, next, earlier, loads, stepped, rest⟩
  have named : ∀ mirrorSet, final = .work .proceed → last.Loads row mirrorSet →
      described mirrorSet := by
    rintro mirrorSet rfl loads
    exact ⟨last, later, followed, loads, ends, .refl⟩
  by_cases worked : ∃ event, final = .work event
  · obtain ⟨event, rfl⟩ := worked
    obtain ⟨world, kept, db, aptly⟩ := outline.guaranteed along ⟨permitted, named⟩ ends
      (outline.holds along)
    rw [db] at found
    obtain ⟨mirrorSet, ⟨loading, loaded, before, loads, read, after⟩, working⟩ :=
      kept ended found succeeded unended
    have working := working.grown (World.Grows.of_same (by rw [aptly])
      (congrArg Database.steps db))
    refine ⟨working.kept, loading, loaded, mirrorSet, before, loads, read, after, ?_⟩
    intro suite inSuites component inComponents
    exact working.made (suite, component) (MirrorSet.mem_pairs.mpr ⟨inSuites, inComponents⟩)
  · obtain ⟨old, known, before⟩ := System.succeeded_of_step (followed.requests_use uses) ends
      (fun event same => worked ⟨event, same⟩) found succeeded
    exact absurd before (unended old known)

namespace Create

/-! ### A mirror of another archive -/

/-- A mirror of the name that the set describes, made by somebody else. -/
def foreign : Aptly :=
  ⟨[⟨"stable-main", "http://archive.example.org/ubuntu", "noble", ["main", "universe"], ["amd64"],
    none⟩], [], []⟩

/-- The set with these components, over this content of aptly. -/
def service (components : List String) (aptly : Aptly) : System :=
  .blank { Database.empty with
    mirrorSets := Database.empty.mirrorSets.insert { Sample.debian with components } } aptly

/-- The operator asks for the missing mirrors of the set. -/
def asked : List Label :=
  [.start, .arrive (.web (.setCreateMissing "operator" 1)), .serve 0 .proceed, .serve 0 .proceed]

/-- The worker has taken the job, and skips the mirror that is there. -/
def skipped : List Label :=
  List.replicate 4 (.work .proceed) ++ [.work (.reply (.mirrors foreign.mirrors) foreign)] ++
    List.replicate 3 (.work .proceed)

/-- Then it makes another one. -/
def created : List Label :=
  let made : Mirror := ⟨"stable-contrib", "http://deb.example.org/debian", "stable", ["contrib"],
    ["amd64"], none⟩
  let after : Aptly := { foreign with mirrors := foreign.mirrors ++ [made] }
  List.replicate 2 (.work .proceed) ++ [.work (.reply (.mirror made) after), .work .proceed]

end Create

theorem not_creation_delivers : ¬ ∀ (self : JobRunner) (root : String → String)
    (start before taken last later : System) (final : Label) (first second : List Label)
    (jobId : Nat) (job ended : Job) (mirrorSet : MirrorSet), start.Fresh →
    start.run self first = some before → before.world.queue.head? = some jobId →
    before.step self .take = some taken → taken.world.db.jobs.get? jobId = some job →
    job.type = .create → job.mirrorSetIn taken.world.db = some mirrorSet →
    taken.runUnder self (fun system label => system.makesMirrors root label) second = some last →
    last.makesMirrors root final = true → last.step self final = some later →
    later.world.db.jobs.get? jobId = some ended → ended.state = .succeeded →
    job.mirrorSetIn later.world.db = some mirrorSet →
    ∀ suite ∈ mirrorSet.suites, ∀ component ∈ mirrorSet.components,
      ∃ mirror ∈ later.world.aptly.mirrors,
        mirror.MadeFrom root (specFor mirrorSet suite component) := by
  intro claimed
  have skipped : ((Create.service ["main"] Create.foreign).run Sample.runner Create.asked).any (fun before =>
      decide (before.world.queue.head? = some 1) &&
      (before.step Sample.runner .take).any fun taken =>
        (taken.runUnder Sample.runner (fun system label => system.makesMirrors id label)
          Create.skipped).any fun last =>
        last.makesMirrors id (.work .proceed) &&
        (last.step Sample.runner (.work .proceed)).any fun later =>
          (taken.world.db.jobs.get? 1).any (fun job => decide (job.type = .create) &&
            (taken.world.db.mirrorSets.get? 1).any fun mirrorSet =>
              decide (job.mirrorSetIn taken.world.db = some mirrorSet) &&
              decide (job.mirrorSetIn later.world.db = some mirrorSet) &&
              decide ("stable" ∈ mirrorSet.suites) && decide ("main" ∈ mirrorSet.components) &&
              later.world.aptly.mirrors.all fun mirror =>
                decide (¬ mirror.MadeFrom id (specFor mirrorSet "stable" "main"))) &&
          (later.world.db.jobs.get? 1).any fun ended => decide (ended.state = .succeeded)) = true := by
    decide
  obtain ⟨before, first, skipped⟩ := (Option.any_eq_true _ _).mp skipped
  obtain ⟨next, skipped⟩ := Bool.and_eq_true_iff.mp skipped
  obtain ⟨taken, stepped, skipped⟩ := (Option.any_eq_true _ _).mp skipped
  obtain ⟨last, second, skipped⟩ := (Option.any_eq_true _ _).mp skipped
  obtain ⟨permitted, skipped⟩ := Bool.and_eq_true_iff.mp skipped
  obtain ⟨later, ends, skipped⟩ := (Option.any_eq_true _ _).mp skipped
  simp only [Bool.and_eq_true, Option.any_eq_true, List.all_eq_true, decide_eq_true_eq] at next skipped
  obtain ⟨⟨job, stored, type, mirrorSet, -, ⟨⟨⟨named, still⟩, suite⟩, component⟩, strange⟩, ended,
    found, succeeded⟩ := skipped
  obtain ⟨mirror, listed, made⟩ := claimed _ id _ _ _ _ _ _ _ _ 1 job ended mirrorSet
    (System.blank_fresh _ _) first next stepped stored type named second permitted ends found succeeded
    still "stable" suite "main" component
  exact strange mirror listed made

/-- One mirror is skipped and the other one made. -/
theorem creation_delivers_debian : ∃ taken later loading : System, ∃ job ended : Job,
    ∃ mirrorSet : MirrorSet,
    taken.world.db.jobs.get? 1 = some job ∧ taken.world.aptly = Create.foreign ∧
    later.world.db.jobs.get? 1 = some ended ∧ ended.state = .succeeded ∧
    later.world.db.steps.rows.map JobStep.state = [.skipped, .succeeded] ∧
    (∀ mirror ∈ taken.world.aptly.mirrors, mirror ∈ later.world.aptly.mirrors) ∧
    loading.Loads job mirrorSet ∧
    ∀ suite ∈ mirrorSet.suites, ∀ component ∈ mirrorSet.components,
      mirrorSet.Delivered id 1 taken.world.aptly.mirrors later.world suite component := by
  have runs : ((Create.service ["main", "contrib"] Create.foreign).runUnder Sample.runner
      (fun _ _ => true) Create.asked).any (fun before => decide (before.world.queue.head? = some 1) &&
        (before.step Sample.runner .take).any fun taken =>
        (taken.runUnder Sample.runner (fun system label => system.makesMirrors id label)
          (Create.skipped ++ Create.created)).any fun last =>
        last.makesMirrors id (.work .proceed) &&
        (last.step Sample.runner (.work .proceed)).any fun later =>
          decide (taken.world.aptly = Create.foreign) &&
          decide (later.world.db.steps.rows.map JobStep.state = [.skipped, .succeeded]) &&
          (taken.world.db.jobs.get? 1).any (fun job => decide (job.type = .create)) &&
          decide (∀ old, last.world.db.jobs.get? 1 = some old → old.state ≠ .succeeded) &&
          (later.world.db.jobs.get? 1).any fun ended => decide (ended.state = .succeeded)) = true := by
    decide
  obtain ⟨before, first, runs⟩ := (Option.any_eq_true _ _).mp runs
  obtain ⟨next, runs⟩ := Bool.and_eq_true_iff.mp runs
  obtain ⟨taken, stepped, runs⟩ := (Option.any_eq_true _ _).mp runs
  obtain ⟨last, second, runs⟩ := (Option.any_eq_true _ _).mp runs
  obtain ⟨permitted, runs⟩ := Bool.and_eq_true_iff.mp runs
  obtain ⟨later, ends, runs⟩ := (Option.any_eq_true _ _).mp runs
  simp only [Bool.and_eq_true, Option.any_eq_true, decide_eq_true_eq] at next runs
  obtain ⟨⟨⟨⟨content, steps⟩, job, stored, type⟩, unended⟩, ended, found, succeeded⟩ := runs
  have reached := (System.Reachable.of_runUnder first).mono fun _ _ _ => trivial
  obtain ⟨kept, loading, loaded, mirrorSet, -, loads, -, -, delivered⟩ :=
    creation_delivers (System.blank_fresh _ _) reached next stepped stored type
      (.of_runUnder second) permitted ends unended found succeeded
  exact ⟨taken, later, loading, job, ended, mirrorSet, stored, content, found, succeeded, steps,
    kept, loads, delivered⟩

end AptlyGui
