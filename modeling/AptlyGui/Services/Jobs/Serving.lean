import AptlyGui.Aptly.Published
import AptlyGui.Services.Jobs.Remove
import AptlyGui.Services.Jobs.Undisturbed

/-!
# aptly at work

An aptly that does what it is asked, as long as it can: it creates a mirror or a
snapshot whose name is free, syncs a mirror it has, publishes where nothing is
published and switches a publication that has the components.  A task may take
its time, and its effect may show before it is reported to be over.  A snapshot is
deleted unless something publishes it.
-/

namespace AptlyGui

/-- What the request asks to be published. -/
def Request.pointing : Request → Option Pointing
  | .publishSnapshots target distribution sources _ _ | .switchPublished target distribution sources _ =>
      some ⟨addressedBy target, distribution, sources⟩
  | _ => none

namespace Aptly

/-- The same apart from the order of the listings. -/
structure Same (first second : Aptly) : Prop where
  mirrors : first.mirrors.Perm second.mirrors
  snapshots : first.snapshots.Perm second.snapshots
  published : first.published.Perm second.published

instance (first second : Aptly) : Decidable (first.Same second) :=
  decidable_of_iff (first.mirrors.Perm second.mirrors ∧ first.snapshots.Perm second.snapshots ∧
    first.published.Perm second.published)
    ⟨fun ⟨mirrors, snapshots, published⟩ => ⟨mirrors, snapshots, published⟩,
      fun same => ⟨same.mirrors, same.snapshots, same.published⟩⟩

theorem Same.refl (aptly : Aptly) : aptly.Same aptly := ⟨.refl _, .refl _, .refl _⟩

theorem Same.trans {first second third : Aptly} (earlier : first.Same second)
    (later : second.Same third) : first.Same third :=
  ⟨earlier.mirrors.trans later.mirrors, earlier.snapshots.trans later.snapshots,
    earlier.published.trans later.published⟩

theorem Same.mirrorNames {first second : Aptly} (same : first.Same second) {name : String} :
    name ∈ first.mirrorNames ↔ name ∈ second.mirrorNames :=
  (same.mirrors.map Mirror.name).mem_iff

/-- All snapshots are there, and there is at least one. -/
def publishable (aptly : Aptly) (sources : Dict String String) : Bool :=
  !sources.keys.isEmpty && sources.values.all fun name => decide (name ∈ aptly.snapshots)

/-- The snapshot is there, and nothing publishes it. -/
def droppable (aptly : Aptly) (name : String) : Bool :=
  decide (name ∈ aptly.snapshots) && aptly.published.all fun publication =>
    publication.sources.all fun source => decide (source.name ≠ name)

/-- Only what is not published yet is published, and only what is published is switched. -/
def accepts (aptly : Aptly) : Request → Bool
  | .publishSnapshots target distribution sources _ _ =>
      (aptly.publicationAt (addressedBy target) distribution).isNone && aptly.publishable sources
  | .switchPublished target distribution sources _ =>
      (aptly.publicationAt (addressedBy target) distribution).any (fun publication =>
        sources.keys.all fun component => publication.sources.any fun source =>
          decide (source.component = component)) && aptly.publishable sources
  | _ => true

/-- A publishing call has had its effect. -/
def pointed (aptly : Aptly) : Option Pointing → Aptly
  | none => aptly
  | some pointing => { aptly with published := pointing.publishedAfter aptly }

end Aptly

namespace World

/-- What the newest task was started to publish. -/
def pointing (world : World) : Option Pointing :=
  world.lastStart.bind fun entry => entry.request.pointing

/-- The download in MiB that aptly has just reported. -/
def measured (world : World) : Option Int :=
  match world.log with
  | ⟨_, .taskProgress _, .ok (.progress (some numbers)), _⟩ :: _ =>
      some (numbers.remainingBytes / (1024 * 1024))
  | _ => none

end World

/-- What aptly may answer when it does what it is asked, and what it then holds. -/
def serves (margin : Margin) : Answering := fun world request body after =>
  let aptly := world.aptly
  match request, body with
  | .storage, .storage reading =>
      (checkSpace reading margin world.measured).ok && decide (after.Same aptly)
  | .getTask _, .task task =>
      if task.state.finished then
        decide (task.state = .succeeded) && decide (after.Same (aptly.pointed world.pointing))
      else decide (after.Same aptly ∨ after.Same (aptly.pointed world.pointing))
  | .taskOutput _, .output _ => decide (after.Same aptly)
  | .taskProgress _, .progress _ =>
      decide (after.Same aptly ∨ after.Same (aptly.pointed world.pointing))
  | .listMirrors, .mirrors mirrors => decide (mirrors = after.mirrors) && decide (after.Same aptly)
  | .createMirror spec, .mirror mirror =>
      decide (spec.name ∉ aptly.mirrorNames) && decide (mirror.name = spec.name) &&
        decide (after.Same { aptly with mirrors := mirror :: aptly.mirrors })
  | .updateMirror spec, .task _ =>
      decide (spec.name ∈ aptly.mirrorNames) && decide (after.Same aptly)
  | .createSnapshotFromMirror mirror name _, .snapshot snapshot =>
      decide (mirror ∈ aptly.mirrorNames) && decide (name ∉ aptly.snapshots) &&
        decide (snapshot.name = name) &&
        decide (after.Same { aptly with snapshots := name :: aptly.snapshots })
  | .deleteSnapshot name, .nothing =>
      aptly.droppable name &&
        decide (after.Same { aptly with snapshots := aptly.snapshots.filter (· ≠ name) })
  | .dbCleanup, .task _ => decide (after.Same aptly)
  | .listPublished, .published publications =>
      decide (publications = after.published) && decide (after.Same aptly)
  | .publishSnapshots _ _ _ _ _, .task _ | .switchPublished _ _ _ _, .task _ =>
      aptly.accepts request &&
        decide (after.Same aptly ∨ after.Same (aptly.pointed request.pointing))
  | _, _ => false

/-- An aptly that does what it is asked, as long as it can. -/
structure Server (margin : Margin) where
  answers : Answering
  /-- it answers only what is in order -/
  sound : ∀ {world request body after}, answers world request body after = true →
    serves margin world request body after = true
  /-- it has an answer wherever there is one that is in order -/
  replies : ∀ {world request body after}, serves margin world request body after = true →
    ∃ body after, answers world request body after = true
  /-- a task can be over whenever it is asked for -/
  finishes : ∀ world taskId, ∃ task after, task.state.finished = true ∧
    answers world (.getTask taskId) (.task task) after = true

/-- What an aptly does that has room on its disk and is over with a task before it is asked again. -/
def World.respond (world : World) (margin : Margin) : Request → Option (Reply × Aptly)
  | .storage =>
      some (.storage ⟨0, margin.requiredFreeMb 0 + world.measured.getD 0⟩, world.aptly)
  | .getTask taskId =>
      some (.task ⟨taskId, "", .succeeded⟩, world.aptly.pointed world.pointing)
  | .taskOutput _ => some (.output "", world.aptly)
  | .taskProgress _ => some (.progress none, world.aptly)
  | .listMirrors => some (.mirrors world.aptly.mirrors, world.aptly)
  | .createMirror spec =>
      let mirror : Mirror := ⟨spec.name, spec.archiveUrl, spec.distribution, spec.components,
        spec.architectures, spec.filter⟩
      if spec.name ∈ world.aptly.mirrorNames then none
      else some (.mirror mirror, { world.aptly with mirrors := mirror :: world.aptly.mirrors })
  | .updateMirror spec =>
      if spec.name ∈ world.aptly.mirrorNames then some (.task ⟨1, "", .queued⟩, world.aptly) else none
  | .createSnapshotFromMirror mirror name _ =>
      if mirror ∈ world.aptly.mirrorNames ∧ name ∉ world.aptly.snapshots then
        some (.snapshot ⟨name⟩,
          { world.aptly with snapshots := name :: world.aptly.snapshots })
      else none
  | .deleteSnapshot name =>
      if world.aptly.droppable name then
        some (.nothing, { world.aptly with snapshots := world.aptly.snapshots.filter (· ≠ name) })
      else none
  | .listPublished => some (.published world.aptly.published, world.aptly)
  | .publishSnapshots target distribution sources architectures signing =>
      if world.aptly.accepts (.publishSnapshots target distribution sources architectures signing) then
        some (.task ⟨1, "", .queued⟩, world.aptly)
      else none
  | .switchPublished target distribution sources signing =>
      if world.aptly.accepts (.switchPublished target distribution sources signing) then
        some (.task ⟨1, "", .queued⟩, world.aptly)
      else none
  | .dbCleanup => some (.task ⟨1, "", .queued⟩, world.aptly)
  | .deleteMirror _ | .listSnapshots => none

theorem World.serves_of_respond {margin : Margin} {world : World} {request : Request} {body : Reply}
    {after : Aptly} (responds : world.respond margin request = some (body, after)) :
    serves margin world request body after = true := by
  cases request <;> simp only [respond, reduceCtorEq, Option.ite_none_right_eq_some,
    Option.ite_none_left_eq_some, Option.some.injEq, Prod.mk.injEq] at responds
  case storage =>
    obtain ⟨rfl, rfl⟩ := responds
    simp [serves, checkSpace, Aptly.Same.refl]
  case createMirror spec =>
    obtain ⟨free, rfl, rfl⟩ := responds
    simp [serves, free, Aptly.Same.refl]
  case updateMirror spec =>
    obtain ⟨there, rfl, rfl⟩ := responds
    simp [serves, there, Aptly.Same.refl]
  case createSnapshotFromMirror mirror name description =>
    obtain ⟨⟨there, free⟩, rfl, rfl⟩ := responds
    simp [serves, there, free, Aptly.Same.refl]
  case deleteSnapshot name =>
    obtain ⟨droppable, rfl, rfl⟩ := responds
    simp [serves, droppable, Aptly.Same.refl]
  case publishSnapshots target distribution sources architectures signing =>
    obtain ⟨accepted, rfl, rfl⟩ := responds
    simp [serves, accepted, Aptly.Same.refl]
  case switchPublished target distribution sources signing =>
    obtain ⟨accepted, rfl, rfl⟩ := responds
    simp [serves, accepted, Aptly.Same.refl]
  all_goals
    obtain ⟨rfl, rfl⟩ := responds
    simp [serves, TaskState.finished, Aptly.Same.refl]

theorem World.responds_of_serves {margin : Margin} {world : World} {request : Request} {body : Reply}
    {after : Aptly} (granted : serves margin world request body after = true) :
    (world.respond margin request).isSome = true := by
  cases request
  case createMirror spec =>
    cases body <;> simp only [serves, Bool.false_eq_true, Bool.and_eq_true, decide_eq_true_eq] at granted
    simp [respond, granted.1.1]
  case updateMirror spec =>
    cases body <;> simp only [serves, Bool.false_eq_true, Bool.and_eq_true, decide_eq_true_eq] at granted
    simp [respond, granted.1]
  case createSnapshotFromMirror mirror name description =>
    cases body <;> simp only [serves, Bool.false_eq_true, Bool.and_eq_true, decide_eq_true_eq] at granted
    simp [respond, granted.1.1]
  case deleteSnapshot name =>
    cases body <;> simp only [serves, Bool.false_eq_true, Bool.and_eq_true] at granted
    simp [respond, granted.1]
  case publishSnapshots target distribution sources architectures signing =>
    cases body <;> simp only [serves, Bool.false_eq_true, Bool.and_eq_true] at granted
    simp [respond, granted.1]
  case switchPublished target distribution sources signing =>
    cases body <;> simp only [serves, Bool.false_eq_true, Bool.and_eq_true] at granted
    simp [respond, granted.1]
  case deleteMirror name => cases body <;> cases granted
  case listSnapshots => cases body <;> cases granted
  all_goals rfl

def Server.prompt (margin : Margin) : Server margin where
  answers world request body after := decide (world.respond margin request = some (body, after))
  sound granted := World.serves_of_respond (of_decide_eq_true granted)
  replies granted := by
    obtain ⟨⟨body, after⟩, responds⟩ := Option.isSome_iff_exists.mp (World.responds_of_serves granted)
    exact ⟨body, after, decide_eq_true responds⟩
  finishes world taskId :=
    ⟨⟨taskId, "", .succeeded⟩, world.aptly.pointed world.pointing, rfl, decide_eq_true rfl⟩

/-- The job is at work: `about` tells how far the snapshot sets, aptly and its newest task are. -/
structure Doing (jobId : Nat) (origin : World)
    (about : Table SnapshotSet → Aptly → Option Pointing → Prop) (world : World) : Prop where
  whole : world.sessionBroken = false
  stored : (world.db.jobs.get? jobId).isSome = true
  others : ∀ id ≠ jobId, world.db.jobs.get? id = origin.db.jobs.get? id
  mirrorSets : world.db.mirrorSets = origin.db.mirrorSets
  clock : world.clock = origin.clock
  about : about world.db.snapshotSets world.aptly world.pointing

/-- The job has not changed anything yet. -/
def Unmoved (origin : World) (sets : Table SnapshotSet) (aptly : Aptly) (_ : Option Pointing) :
    Prop :=
  sets = origin.db.snapshotSets ∧ aptly.Same origin.aptly

theorem Unmoved.same {origin : World} {sets : Table SnapshotSet} {aptly after : Aptly}
    {pointing : Option Pointing} (unmoved : Unmoved origin sets aptly pointing)
    (same : after.Same aptly) : Unmoved origin sets after pointing :=
  ⟨unmoved.1, same.trans unmoved.2⟩

/-- The job has SUCCEEDED, and nothing but its work shows. -/
structure Over (jobId : Nat) (origin : World)
    (about : Table SnapshotSet → Aptly → Option Pointing → Prop) (final : World) : Prop where
  succeeded : ∃ job, final.db.jobs.get? jobId = some job ∧ job.state = .succeeded
  others : ∀ id ≠ jobId, final.db.jobs.get? id = origin.db.jobs.get? id
  mirrorSets : final.db.mirrorSets = origin.db.mirrorSets
  clock : final.clock = origin.clock
  about : ∃ pointing, about final.db.snapshotSets final.aptly pointing

namespace Serving

open Undisturbed

variable {margin : Margin} {server : Server margin} {jobId : Nat} {origin world : World}
  {about pending finished : Table SnapshotSet → Aptly → Option Pointing → Prop}

theorem steadfast (jobId : Nat) (origin : World)
    (about : Table SnapshotSet → Aptly → Option Pointing → Prop) :
    Steadfast jobId (Doing jobId origin about) where
  whole _ doing := doing.whole
  stored _ doing := doing.stored
  alike before after doing alike := by
    have same : after.pointing = before.pointing := by
      rw [World.pointing, World.pointing, World.lastStart, World.lastStart, alike.log]
    refine ⟨alike.sessionBroken.trans doing.whole, ?_, fun id other => ?_,
      alike.mirrorSets.trans doing.mirrorSets, alike.clock.trans doing.clock, ?_⟩
    · rw [alike.jobs]
      exact doing.stored
    · rw [alike.jobs]
      exact doing.others id other
    · rw [alike.snapshotSets, alike.aptly, same]
      exact doing.about

theorem Doing.mono {other : Table SnapshotSet → Aptly → Option Pointing → Prop}
    (doing : Doing jobId origin about world)
    (weaker : ∀ sets aptly pointing, about sets aptly pointing → other sets aptly pointing) :
    Doing jobId origin other world :=
  ⟨doing.whole, doing.stored, doing.others, doing.mirrorSets, doing.clock,
    weaker _ _ _ doing.about⟩

theorem over_of_endsWell {final : World}
    (succeeded : EndsWell jobId (Doing jobId origin about) final) :
    Over jobId origin about final := by
  obtain ⟨ended, before, doing, beside⟩ := succeeded
  refine ⟨ended, fun id other => (beside.jobs id other).trans (doing.others id other),
    beside.mirrorSets.trans doing.mirrorSets, beside.clock.trans doing.clock, before.pointing, ?_⟩
  rw [beside.snapshotSets, beside.aptly]
  exact doing.about

/-- An answer of aptly changes aptly, and perhaps the newest task. -/
theorem Doing.record {other : Table SnapshotSet → Aptly → Option Pointing → Prop}
    (doing : Doing jobId origin about world) {request : Request} {body : Reply} {after : Aptly}
    (kept : other world.db.snapshotSets after
      (if request.startsTask then request.pointing else world.pointing)) :
    Doing jobId origin other (world.record request (.ok body) true after) := by
  refine ⟨doing.whole, doing.stored, doing.others, doing.mirrorSets, doing.clock, ?_⟩
  have newest : (world.record request (.ok body) true after).pointing =
      if request.startsTask then request.pointing else world.pointing := by
    rw [World.pointing, World.lastStart, World.record_log, List.find?_cons]
    cases starts : request.startsTask with
    | true => simp
    | false => simp [World.pointing, World.lastStart]
  rw [newest]
  exact kept

/-- How a task goes whose effect is a publication, or none. -/
theorem runs {taskId : Int}
    (waits : ∀ sets aptly pointing after, pending sets aptly pointing → after.Same aptly →
      pending sets after pointing)
    (works : ∀ sets aptly pointing after, pending sets aptly pointing →
      after.Same (aptly.pointed pointing) →
      pending sets after pointing ∧ finished sets after pointing)
    (rests : ∀ sets aptly pointing after, finished sets aptly pointing → after.Same aptly →
      finished sets after pointing) :
    Runs server.answers margin jobId taskId (Doing jobId origin pending)
      (Doing jobId origin finished) where
  waits := steadfast _ _ _
  rests := steadfast _ _ _
  sees := by
    intro world body after doing granted
    replace granted := server.sound granted
    cases body <;> simp only [serves, Bool.false_eq_true] at granted
    rename_i task
    refine ⟨task, rfl, ?_⟩
    split
    · rename_i settled
      simp only [settled, if_true, Bool.and_eq_true, decide_eq_true_eq] at granted
      exact ⟨granted.1, Doing.record doing (works _ _ _ _ doing.about granted.2).2⟩
    · rename_i going
      simp only [going, if_false, Bool.false_eq_true, decide_eq_true_eq] at granted
      rcases granted with same | effective
      · exact Doing.record doing (waits _ _ _ _ doing.about same)
      · exact Doing.record doing (works _ _ _ _ doing.about effective).1
  ends := by
    intro world doing
    obtain ⟨task, after, finished, granted⟩ := server.finishes world taskId
    have settled := server.sound granted
    simp only [serves, finished, if_true, Bool.and_eq_true, decide_eq_true_eq] at settled
    exact ⟨task, after, settled.1, granted⟩
  reads := by
    intro world body after doing granted
    replace granted := server.sound granted
    cases body <;> simp only [serves, Bool.false_eq_true, decide_eq_true_eq] at granted
    exact ⟨_, rfl, Doing.record doing (rests _ _ _ _ doing.about granted)⟩
  written := by
    intro world doing
    have silent : serves margin world (.taskOutput taskId) (.output "") world.aptly = true := by
      simp [serves, Aptly.Same.refl]
    obtain ⟨body, after, granted⟩ := server.replies silent
    have written := server.sound granted
    cases body <;> simp only [serves, Bool.false_eq_true] at written
    exact ⟨_, after, granted⟩
  measures := by
    intro world body after doing granted
    replace granted := server.sound granted
    cases body <;> simp only [serves, Bool.false_eq_true, decide_eq_true_eq] at granted
    rename_i progress
    refine ⟨progress, rfl, ?_⟩
    have still : Doing jobId origin pending
        (world.record (.taskProgress taskId) (.ok (.progress progress)) true after) := by
      rcases granted with same | effective
      · exact Doing.record doing (waits _ _ _ _ doing.about same)
      · exact Doing.record doing (works _ _ _ _ doing.about effective).1
    refine ⟨still, ?_⟩
    rintro numbers ⟨⟩ later alike body reached granted
    replace granted := server.sound granted
    have doing := (steadfast jobId origin pending).alike _ _ still alike
    have measured : later.measured = some (numbers.remainingBytes / (1024 * 1024)) := by
      rw [World.measured, alike.log, World.record_log]
    cases body <;> simp only [serves, Bool.false_eq_true, Bool.and_eq_true, decide_eq_true_eq]
      at granted
    rename_i reading
    rw [measured] at granted
    exact ⟨reading, rfl, granted.1, Doing.record doing (waits _ _ _ _ doing.about granted.2)⟩

end Serving

end AptlyGui
