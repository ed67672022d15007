import AptlyGui.Services.Jobs.FromScratch
import AptlyGui.Services.Jobs.Repeat

/-!
# Trying a set

An operator takes a new set of snapshots, switches to it and to whatever other
sets there are, goes back to where he was and discards the new one.  Nobody
disturbing him, this leaves no trace: clients, aptly and the recorded sets are
as if he had done nothing but switch to the set he came from.
-/

namespace Dict

variable {κ α : Type} [DecidableEq κ]

theorem nodup_values {dict : Dict κ α}
    (injective : ∀ first second value, dict.get? first = some value →
      dict.get? second = some value → first = second) : dict.values.Nodup := by
  have entries : dict.entries.Nodup := .of_map Prod.fst dict.distinct
  refine entries.map_on fun first one second two same => ?_
  have keys := injective first.1 second.1 first.2 (get?_eq_some_iff.mpr one)
    (same ▸ get?_eq_some_iff.mpr two)
  exact Prod.ext keys same

end Dict

namespace AptlyGui

open Coroutine (Completes)

namespace Trial

open Undisturbed Serving Rollback FromScratch

variable {mirrorSet : MirrorSet} {aptly after : Aptly} {sets : Table SnapshotSet}
  {pointing : Option Pointing} {names done rest : List String} {name : String}
  {origin world : World} {jobId : Nat} {margin : Margin} {self : JobRunner}
  {server : Server self.margin}

/-! ## Discarding -/

/-- These snapshots are gone, and nothing else has changed. -/
structure Dropped (origin : World) (gone : List String) (sets : Table SnapshotSet) (aptly : Aptly)
    (_ : Option Pointing) : Prop where
  sets : sets = origin.db.snapshotSets
  mirrors : aptly.mirrors.Perm origin.aptly.mirrors
  published : aptly.published.Perm origin.aptly.published
  snapshots : ∀ name, name ∈ aptly.snapshots ↔ name ∈ origin.aptly.snapshots ∧ name ∉ gone

theorem Dropped.same {later : Option Pointing} (dropped : Dropped origin done sets aptly pointing)
    (same : after.Same aptly) : Dropped origin done sets after later where
  sets := dropped.sets
  mirrors := same.mirrors.trans dropped.mirrors
  published := same.published.trans dropped.published
  snapshots name := same.snapshots.mem_iff.trans (dropped.snapshots name)

theorem Dropped.drop {later : Option Pointing} (dropped : Dropped origin done sets aptly pointing)
    (effective : after.Same { aptly with snapshots := aptly.snapshots.filter (· ≠ name) }) :
    Dropped origin (done ++ [name]) sets after later where
  sets := dropped.sets
  mirrors := effective.mirrors.trans dropped.mirrors
  published := effective.published.trans dropped.published
  snapshots other := by
    rw [effective.snapshots.mem_iff]
    simp [dropped.snapshots, and_assoc]

/-- What can be required of snapshots for aptly to delete them one after the other. -/
structure Droppable (origin : World) (names : List String) : Prop where
  distinct : names.Nodup
  held : ∀ name ∈ names, name ∈ origin.aptly.snapshots
  unnamed : ∀ name ∈ names, ∀ place distribution component,
    ¬ origin.aptly.Names place distribution component name

theorem droppable_iff : aptly.droppable name = true ↔
    name ∈ aptly.snapshots ∧
      ∀ place distribution component, ¬ aptly.Names place distribution component name := by
  simp only [Aptly.droppable, Bool.and_eq_true, decide_eq_true_eq, List.all_eq_true]
  refine and_congr_right fun _ => ⟨?_, fun unnamed publication listed source shown same => ?_⟩
  · rintro unnamed place distribution component ⟨publication, listed, -, -, shown⟩
    exact unnamed publication listed _ shown rfl
  · subst same
    exact unnamed _ _ _ ⟨publication, listed, rfl, rfl, shown⟩

theorem serves_deleteSnapshot {body : Reply} :
    serves margin world (.deleteSnapshot name) body after = true ↔
      body = .nothing ∧ world.aptly.droppable name = true ∧
        after.Same { world.aptly with snapshots := world.aptly.snapshots.filter (· ≠ name) } := by
  cases body <;>
    simp only [serves, Bool.and_eq_true, decide_eq_true_eq, Bool.false_eq_true, reduceCtorEq,
      false_and, true_and]

theorem deleteSnapshotEach_goes (droppable : Droppable origin names)
    (order : names = done ++ name :: rest)
    (doing : Doing jobId origin (Dropped origin done) world) :
    Goes server.answers (fun _ => Doing jobId origin (Dropped origin (done ++ [name])))
      (JobRunner.deleteSnapshotEach jobId name) world := by
  refine (addStep_goes (steadfast _ _ _) doing _).bind fun step before begun => ?_
  obtain ⟨doing, present⟩ := begun
  have among : name ∈ names := by simp [order]
  have later : name ∉ done := by
    have distinct := droppable.distinct
    rw [order] at distinct
    exact fun earlier => (List.nodup_append.mp distinct).2.2 name earlier name (by simp) rfl
  have may : before.aptly.droppable name = true := by
    refine droppable_iff.mpr ⟨?_, fun place distribution component named => ?_⟩
    · exact (doing.about.snapshots name).mpr ⟨droppable.held name among, later⟩
    · exact droppable.unnamed name among place distribution component
        ((Aptly.names_perm doing.about.published).mp named)
  have deleted : Goes server.answers
      (fun _ => WithStep step (Doing jobId origin (Dropped origin (done ++ [name]))))
      (Client.deleteSnapshot name) before := by
    refine @goes_aptly _ _ (.deleteSnapshot name) _ ?_ ?_
    · exact server.replies (serves_deleteSnapshot.mpr ⟨rfl, may, .refl _⟩)
    · intro body after granted
      obtain ⟨rfl, -, effective⟩ := serves_deleteSnapshot.mp (server.sound granted)
      exact ⟨(), rfl, Doing.record doing (doing.about.drop effective), present⟩
  have caught : Goes server.answers
      (fun _ => WithStep step (Doing jobId origin (Dropped origin (done ++ [name]))))
      ((Client.deleteSnapshot name).catching (JobRunner.failStep step)) before := by
    apply Completes.catching
    exact deleted.mono (fun _ _ held => held) fun _ _ no => no.elim
  exact caught.bind fun _ _ held => finishStep_goes (steadfast _ _ _) held

theorem deletions_go (droppable : Droppable origin names)
    (doing : Doing jobId origin (Dropped origin []) world) :
    Goes server.answers (fun _ => Doing jobId origin (Dropped origin names))
      (Coroutine.forEach names (JobRunner.deleteSnapshotEach jobId)) world := by
  let between (rest : List String) (after : World) : Prop :=
    ∃ done, names = done ++ rest ∧ Doing jobId origin (Dropped origin done) after
  have each : Goes server.answers (fun _ => between [])
      (Coroutine.forEach names (JobRunner.deleteSnapshotEach jobId)) world := by
    apply Completes.forEach between
    · exact ⟨[], rfl, doing⟩
    · rintro name rest after ⟨done, order, doing⟩
      refine (deleteSnapshotEach_goes droppable order doing).mono ?_ fun _ _ no => no
      intro _ last doing
      exact ⟨done ++ [name], by simp [order], doing⟩
  refine each.mono ?_ fun _ _ no => no
  rintro _ after ⟨done, order, doing⟩
  rw [List.append_nil] at order
  rw [order]
  exact doing

theorem serves_dbCleanup {body : Reply} : serves margin world .dbCleanup body after = true ↔
    ∃ task, body = .task task ∧ after.Same world.aptly := by
  cases body <;>
    simp only [serves, decide_eq_true_eq, Bool.false_eq_true, reduceCtorEq, false_and,
      exists_false, Reply.task.injEq, exists_eq_left']

/-- A clean-up changes nothing that could be seen. -/
theorem reclaimSpace_goes {about : Table SnapshotSet → Aptly → Option Pointing → Prop}
    (patient : 0 < self.polls)
    (still : ∀ sets aptly pointing after later, about sets aptly pointing → after.Same aptly →
      about sets after later) (doing : Doing jobId origin about world) :
    Goes server.answers (fun _ => Doing jobId origin about) (self.reclaimSpace jobId) world := by
  let cleaning (sets : Table SnapshotSet) (aptly : Aptly) (pointing : Option Pointing) : Prop :=
    pointing = none ∧ about sets aptly pointing
  have quiet : ∀ sets aptly pointing after, cleaning sets aptly pointing → after.Same aptly →
      cleaning sets after pointing :=
    fun sets aptly pointing after held same => ⟨held.1, still sets aptly pointing after _ held.2 same⟩
  have runs : ∀ taskId, Runs server.answers self.margin jobId taskId
      (Doing jobId origin cleaning) (Doing jobId origin cleaning) := by
    intro taskId
    apply Serving.runs quiet ?_ quiet
    rintro sets aptly pointing after ⟨rfl, held⟩ effective
    have cleaned := quiet sets aptly none after ⟨rfl, held⟩ effective
    exact ⟨cleaned, cleaned⟩
  refine (addStep_goes (steadfast _ _ _) doing _).bind fun step before begun => ?_
  obtain ⟨doing, present⟩ := begun
  refine Completes.bind (@goes_aptly _ _ .dbCleanup
    (fun _ => WithStep step (Doing jobId origin cleaning)) ?_ ?_) ?_
  · exact server.replies (serves_dbCleanup.mpr ⟨⟨0, "", .queued⟩, rfl, .refl before.aptly⟩)
  · intro body after granted
    obtain ⟨task, rfl, same⟩ := serves_dbCleanup.mp (server.sound granted)
    exact ⟨task, rfl, Doing.record doing ⟨rfl, still _ _ _ _ _ doing.about same⟩, present⟩
  · intro task after held
    refine (followTask_goes (runs task.id) patient held).mono ?_ fun _ _ no => no
    exact fun _ last doing => Doing.mono doing fun _ _ _ held => held.2

/-- The snapshots are gone, and the row is forgotten. -/
structure Discarded (origin : World) (names : List String) (setId : Nat)
    (sets : Table SnapshotSet) (aptly : Aptly) (_ : Option Pointing) : Prop where
  sets : sets = origin.db.snapshotSets.delete setId
  mirrors : aptly.mirrors.Perm origin.aptly.mirrors
  published : aptly.published.Perm origin.aptly.published
  snapshots : ∀ name, name ∈ aptly.snapshots ↔ name ∈ origin.aptly.snapshots ∧ name ∉ names

theorem discard_goes {params : JobParams} {setId : Nat} {row : SnapshotSet}
    (patient : 0 < self.polls) (droppable : Droppable origin names)
    (asked : params.snapshots = some names) (chosen : params.snapshotSetId = some setId)
    (found : origin.db.snapshotSets.get? setId = some row)
    (doing : Doing jobId origin (Unmoved origin) world) :
    Goes server.answers (fun _ => Doing jobId origin (Discarded origin names setId))
      (self.discard jobId params) world := by
  unfold JobRunner.discard
  rw [asked, chosen]
  have begun : Doing jobId origin (Dropped origin []) world :=
    Doing.mono doing fun sets aptly _ unmoved => ⟨unmoved.1, unmoved.2.mirrors, unmoved.2.published,
      fun name => by simpa using unmoved.2.snapshots.mem_iff⟩
  refine (deletions_go droppable begun).bind fun _ deleted doing => ?_
  refine (reclaimSpace_goes patient (fun _ _ _ _ _ dropped same => dropped.same same) doing).bind
    fun _ cleaned doing => ?_
  have loaded : Goes server.answers (fun found after => found = some row ∧
      Doing jobId origin (Dropped origin names) after) (getSnapshotSet .job setId) cleaned := by
    refine @goes_query _ _ (.getSnapshotSet .job setId) .job _ _ doing.whole rfl rfl ⟨?_, doing⟩
    rw [doing.about.sets, found]
  refine loaded.bind ?_
  rintro _ last ⟨rfl, doing⟩
  have keyed : row.id = setId := Table.id_of_get? found
  have forgotten : Goes server.answers
      (fun _ => Doing jobId origin (Discarded origin names setId))
      (commit .job [.deleteSnapshotSet row.id]) last := by
    apply goes_commit doing.whole (Database.commit_deleteSnapshotSet _)
    refine ⟨doing.whole, doing.stored, doing.others, doing.mirrorSets, doing.clock, ?_,
      doing.about.mirrors, doing.about.published, doing.about.snapshots⟩
    change last.db.snapshotSets.delete row.id = _
    rw [keyed, doing.about.sets]
  exact forgotten.bind fun _ _ doing => Coroutine.completes_done doing

/-! ## Going elsewhere and back -/

/-- The snapshot set can be chosen for a switch that succeeds. -/
def MayShow (mirrorSet : MirrorSet) (world : World) (setId : Nat) : Prop :=
  ∃ target, world.db.snapshotSets.get? setId = some target ∧ target.mirrorSetId = mirrorSet.id ∧
    target.state = .complete ∧ target.HeldBy mirrorSet world.aptly

/-- These jobs are done, and what they have changed is what the mirror set shows. -/
structure Visited (base : World) (mirrorSet : MirrorSet) (jobs : List Nat) (world : World) :
    Prop where
  succeeded : ∀ id ∈ jobs, ∃ job, world.db.jobs.get? id = some job ∧ job.state = .succeeded
  mirrorSets : world.db.mirrorSets = base.db.mirrorSets
  sets : world.db.snapshotSets = base.db.snapshotSets
  fits : mirrorSet.Fits world.aptly
  mirrors : world.aptly.mirrors.Perm base.aptly.mirrors
  snapshots : world.aptly.snapshots.Perm base.aptly.snapshots
  view : ∀ target, world.aptly.view.pointedAt mirrorSet target mirrorSet.suites =
    base.aptly.view.pointedAt mirrorSet target mirrorSet.suites
  named : ∀ place distribution component name,
    world.aptly.Names place distribution component name →
      (place = mirrorSet.place ∧ distribution ∈ mirrorSet.suites ∧
          component ∈ mirrorSet.components) ∨
        base.aptly.Names place distribution component name

variable {base : World} {jobs : List Nat} {target : SnapshotSet}

theorem Visited.next {final : World} (visited : Visited base mirrorSet jobs world)
    (unknown : world.db.jobs.get? jobId = none)
    (ended : Over jobId world (Shows world mirrorSet target) final) :
    Visited base mirrorSet (jobs ++ [jobId]) final := by
  obtain ⟨pointing, shows⟩ := ended.about
  refine ⟨fun id listed => ?_, ended.mirrorSets.trans visited.mirrorSets,
    shows.sets.trans visited.sets, shows.fits, shows.mirrors.trans visited.mirrors,
    shows.snapshots.trans visited.snapshots, fun other => ?_,
    fun place distribution component name named => ?_⟩
  · rcases List.mem_append.mp listed with earlier | here
    · exact succeeded_of_over ended unknown (visited.succeeded id earlier)
    · obtain rfl := List.mem_singleton.mp here
      exact ended.succeeded
  · rw [shows.shown.view, pointedAt_pointedAt]
    exact visited.view other
  · rcases shows.shown.named place distribution component name named with
      ⟨here, among, wanted, -⟩ | ⟨-, before⟩
    · exact .inl ⟨here, among, wanted⟩
    · exact visited.named place distribution component name before

theorem Visited.mayShow {setId : Nat} (visited : Visited base mirrorSet jobs world)
    (may : MayShow mirrorSet base setId) : MayShow mirrorSet world setId := by
  obtain ⟨target, found, owned, complete, held⟩ := may
  refine ⟨target, ?_, owned, complete, fun suite listed component among => ?_⟩
  · rw [visited.sets]
    exact found
  · obtain ⟨name, known, recorded⟩ := held suite listed component among
    exact ⟨name, visited.snapshots.mem_iff.mpr known, recorded⟩

end Trial

/-- One more switch. -/
def JobRunner.switchOnce (self : JobRunner) (mirrorSet : MirrorSet) (author : String)
    (jobs : List Nat) (setId : Nat) : Program (List Nat) := do
  let jobId ← self.ask .switch mirrorSet author { snapshotSetId := some setId }
  return jobs ++ [jobId]

/-- What an operator asks for who takes a set, looks at it and at others, goes back and discards
it.  The names are those that the form for discarding lists. -/
def JobRunner.tryOut (self : JobRunner) (mirrorSet : MirrorSet) (author : String) (tried : Nat)
    (visits : List Nat) (previous : Nat) : Program (List Nat) := do
  let updated ← self.ask .update mirrorSet author {}
  let jobs ← Coroutine.foldEach visits [updated] (self.switchOnce mirrorSet author)
  let jobs ← self.switchOnce mirrorSet author jobs previous
  match ← getSnapshotSet .request tried with
  | none => return jobs
  | some row =>
      let discarded ← self.ask .discard mirrorSet author
        { snapshots := some (sortedNames row.snapshots.values), snapshotSetId := some tried }
      return jobs ++ [discarded]

namespace Trial

open Undisturbed Serving Rollback FromScratch

variable {mirrorSet : MirrorSet} {origin world base : World} {self : JobRunner}
  {server : Server self.margin} {author : String}
  {jobs visits : List Nat} {setId : Nat} {names : List String} {stamp : String}

theorem switchOnce_goes (patient : 0 < self.polls) (publishable : Publishable mirrorSet)
    (described : base.db.mirrorSets.get? mirrorSet.id = some mirrorSet)
    (visited : Visited base mirrorSet jobs world) (may : MayShow mirrorSet base setId) :
    Goes server.answers
      (fun done final => Visited base mirrorSet done final ∧ ∃ jobId target,
        done = jobs ++ [jobId] ∧ base.db.snapshotSets.get? setId = some target ∧
          target.HeldBy mirrorSet base.aptly ∧ Over jobId world (Shows world mirrorSet target) final)
      (self.switchOnce mirrorSet author jobs setId) world := by
  obtain ⟨target, found, owned, complete, held⟩ := visited.mayShow may
  have there : world.db.mirrorSets.get? mirrorSet.id = some mirrorSet := by
    rw [visited.mirrorSets]
    exact described
  refine (askSwitch_goes there patient publishable visited.fits found owned complete held).bind ?_
  rintro jobId final ⟨unknown, ended⟩
  obtain ⟨same, known, -, -, kept⟩ := may
  rw [visited.sets, known] at found
  cases found
  exact Coroutine.completes_done
    ⟨visited.next unknown ended, jobId, target, rfl, known, kept, ended⟩

theorem visits_go (patient : 0 < self.polls) (publishable : Publishable mirrorSet)
    (described : base.db.mirrorSets.get? mirrorSet.id = some mirrorSet)
    (may : ∀ id ∈ visits, MayShow mirrorSet base id) (visited : Visited base mirrorSet jobs world) :
    Goes server.answers (fun done => Visited base mirrorSet done)
      (Coroutine.foldEach visits jobs (self.switchOnce mirrorSet author)) world := by
  let between (rest done : List Nat) (after : World) : Prop :=
    (∀ id ∈ rest, id ∈ visits) ∧ Visited base mirrorSet done after
  have each : Goes server.answers (between [])
      (Coroutine.foldEach visits jobs (self.switchOnce mirrorSet author)) world := by
    apply Completes.foldEach between
    · exact ⟨fun _ listed => listed, visited⟩
    · rintro id rest done after ⟨listed, visited⟩
      refine (switchOnce_goes patient publishable described visited
        (may id (listed id List.mem_cons_self))).mono ?_ fun _ _ no => no
      exact fun _ last held => ⟨fun other later => listed other (List.mem_cons_of_mem _ later), held.1⟩
  exact each.mono (fun _ _ held => held.2) fun _ _ no => no

theorem askDiscard_goes {row : SnapshotSet}
    (described : world.db.mirrorSets.get? mirrorSet.id = some mirrorSet)
    (patient : 0 < self.polls) (droppable : Droppable world names)
    (found : world.db.snapshotSets.get? setId = some row) :
    Goes server.answers (fun jobId final => world.db.jobs.get? jobId = none ∧
      Over jobId world (Discarded world names setId) final)
      (self.ask .discard mirrorSet author { snapshots := some names, snapshotSetId := some setId })
      world := by
  apply ask_goes described
  intro jobId job after type asked doing
  simp only [JobRunner.execute, type]
  refine discard_goes patient droppable ?_ ?_ found doing
  · rw [asked]
  · rw [asked]

/-- The form for discarding lists what the update has taken. -/
theorem mem_names_of_recorded {row : SnapshotSet} {name : String}
    (recorded : ∀ mirror name, row.snapshots.get? mirror = some name ↔ ∃ pair ∈ mirrorSet.pairs,
      mirrorSet.mirrorOf pair = mirror ∧ mirrorSet.snapshotName stamp pair = name) :
    name ∈ sortedNames row.snapshots.values ↔
      ∃ pair ∈ mirrorSet.pairs, mirrorSet.snapshotName stamp pair = name := by
  rw [sortedNames, (List.perm_insertionSort (· ≤ ·) row.snapshots.values).mem_iff,
    Dict.mem_values_iff]
  constructor
  · rintro ⟨mirror, known⟩
    obtain ⟨pair, among, -, called⟩ := (recorded mirror name).mp known
    exact ⟨pair, among, called⟩
  · rintro ⟨pair, among, called⟩
    exact ⟨_, (recorded _ _).mpr ⟨pair, among, rfl, called⟩⟩

/-- aptly deletes what an update has taken, as long as nothing publishes it. -/
theorem droppable_of_recorded {row : SnapshotSet}
    (recorded : ∀ mirror name, row.snapshots.get? mirror = some name ↔ ∃ pair ∈ mirrorSet.pairs,
      mirrorSet.mirrorOf pair = mirror ∧ mirrorSet.snapshotName stamp pair = name)
    (held : ∀ pair ∈ mirrorSet.pairs, mirrorSet.snapshotName stamp pair ∈ world.aptly.snapshots)
    (unnamed : ∀ pair ∈ mirrorSet.pairs, ∀ place distribution component,
      ¬ world.aptly.Names place distribution component (mirrorSet.snapshotName stamp pair)) :
    Droppable world (sortedNames row.snapshots.values) := by
  have distinct : row.snapshots.values.Nodup := by
    apply Dict.nodup_values
    intro first second name one two
    obtain ⟨pair, -, rfl, called⟩ := (recorded first name).mp one
    obtain ⟨other, -, rfl, same⟩ := (recorded second name).mp two
    exact MirrorSet.snapshotName_injective (called.trans same.symm)
  refine ⟨(List.perm_insertionSort (· ≤ ·) row.snapshots.values).nodup_iff.mpr distinct,
    fun name listed => ?_, fun name listed => ?_⟩
  · obtain ⟨pair, among, rfl⟩ := (mem_names_of_recorded recorded).mp listed
    exact held pair among
  · obtain ⟨pair, among, rfl⟩ := (mem_names_of_recorded recorded).mp listed
    exact unnamed pair among

/-! ## The trial -/

/-- The new set has been taken, and nothing else has changed. -/
structure Tried (world : World) (mirrorSet : MirrorSet) (row : SnapshotSet) (base : World) : Prop where
  taken : base.db.snapshotSets.get? world.db.snapshotSets.nextId = some row
  owned : row.mirrorSetId = mirrorSet.id
  complete : row.state = .complete
  recorded : ∀ mirror name, row.snapshots.get? mirror = some name ↔ ∃ pair ∈ mirrorSet.pairs,
    mirrorSet.mirrorOf pair = mirror ∧
      mirrorSet.snapshotName (snapshotStamp world.clock) pair = name
  others : ∀ id ≠ world.db.snapshotSets.nextId,
    base.db.snapshotSets.get? id = world.db.snapshotSets.get? id
  mirrorSets : base.db.mirrorSets = world.db.mirrorSets
  mirrors : base.aptly.mirrors.Perm world.aptly.mirrors
  published : base.aptly.published.Perm world.aptly.published
  snapshots : ∀ name, name ∈ base.aptly.snapshots ↔ name ∈ world.aptly.snapshots ∨
    ∃ pair ∈ mirrorSet.pairs, mirrorSet.snapshotName (snapshotStamp world.clock) pair = name

theorem tried_of_delivered {updatedId : Nat}
    (updated : Over updatedId world (Delivered world mirrorSet (snapshotStamp world.clock)) base) :
    ∃ row, Tried world mirrorSet row base := by
  obtain ⟨_, delivered⟩ := updated.about
  obtain ⟨⟨row, taken, owned, complete, recorded⟩, others, mirrors, published, snapshots⟩ := delivered
  exact ⟨row, taken, owned, complete, recorded, others, updated.mirrorSets, mirrors, published,
    snapshots⟩

section Tried

variable {row previous : SnapshotSet} {middle returned : World}

/-- A set that was there has another id than the new one. -/
theorem Tried.stored {target : SnapshotSet} (tried : Tried world mirrorSet row base)
    (found : world.db.snapshotSets.get? setId = some target) :
    base.db.snapshotSets.get? setId = some target := by
  rw [tried.others setId, found]
  rintro rfl
  rw [Table.get?_nextId] at found
  cases found

theorem Tried.mayShow (tried : Tried world mirrorSet row base)
    (known : setId = world.db.snapshotSets.nextId ∨ MayShow mirrorSet world setId) :
    MayShow mirrorSet base setId := by
  rcases known with rfl | ⟨target, stored, owned, complete, held⟩
  · exact ⟨row, tried.taken, tried.owned, tried.complete,
      held_of_delivered tried.snapshots tried.recorded⟩
  · refine ⟨target, tried.stored stored, owned, complete, fun suite listed component among => ?_⟩
    obtain ⟨name, present, noted⟩ := held suite listed component among
    exact ⟨name, (tried.snapshots name).mpr (.inl present), noted⟩

theorem Tried.begun (tried : Tried world mirrorSet row base) (fits : mirrorSet.Fits world.aptly)
    {updatedId : Nat}
    (succeeded : ∃ job, base.db.jobs.get? updatedId = some job ∧ job.state = .succeeded) :
    Visited base mirrorSet [updatedId] base := by
  refine ⟨fun id listed => ?_, rfl, rfl, Fits.perm fits tried.published, .refl _, .refl _,
    fun _ => rfl, fun _ _ _ _ named => .inr named⟩
  obtain rfl := List.mem_singleton.mp listed
  exact succeeded

/-- After the switch back, only what aptly has had all along is named. -/
theorem Tried.named (tried : Tried world mirrorSet row base)
    (sound : ∀ place distribution component name,
      world.aptly.Names place distribution component name → name ∈ world.aptly.snapshots)
    (held : previous.HeldBy mirrorSet world.aptly) (wandered : Visited base mirrorSet jobs middle)
    (shown : middle.aptly.ShownAs mirrorSet previous mirrorSet.suites returned.aptly)
    {place : Place} {distribution component name : String}
    (named : returned.aptly.Names place distribution component name) :
    name ∈ world.aptly.snapshots := by
  rcases shown.named place distribution component name named with
    ⟨-, among, wanted, pointed⟩ | ⟨elsewhere, before⟩
  · obtain ⟨other, present, noted⟩ := held distribution among component wanted
    rw [pointed] at noted
    cases noted
    exact present
  · rcases wandered.named place distribution component name before with here | before
    · exact absurd here elsewhere
    · exact sound _ _ _ _ ((Aptly.names_perm tried.published).mp before)

theorem Tried.droppable (tried : Tried world mirrorSet row base)
    (fresh : ∀ pair ∈ mirrorSet.pairs,
      mirrorSet.snapshotName (snapshotStamp world.clock) pair ∉ world.aptly.snapshots)
    (visited : Visited base mirrorSet jobs returned)
    (old : ∀ place distribution component name,
      returned.aptly.Names place distribution component name → name ∈ world.aptly.snapshots) :
    Droppable returned (sortedNames row.snapshots.values) := by
  apply droppable_of_recorded tried.recorded
  · intro pair among
    exact visited.snapshots.mem_iff.mpr ((tried.snapshots _).mpr (.inr ⟨pair, among, rfl⟩))
  · intro pair among place distribution component named
    exact fresh pair among (old _ _ _ _ named)

/-- What the update has taken is what discarding it has removed. -/
theorem Tried.snapshots_of_discarded (tried : Tried world mirrorSet row base)
    (fresh : ∀ pair ∈ mirrorSet.pairs,
      mirrorSet.snapshotName (snapshotStamp world.clock) pair ∉ world.aptly.snapshots)
    (visited : Visited base mirrorSet jobs returned) {sets : Table SnapshotSet} {aptly : Aptly}
    {pointing : Option Pointing} (discarded : Discarded returned (sortedNames row.snapshots.values)
      world.db.snapshotSets.nextId sets aptly pointing) {name : String} :
    name ∈ aptly.snapshots ↔ name ∈ world.aptly.snapshots := by
  rw [discarded.snapshots, visited.snapshots.mem_iff, tried.snapshots,
    mem_names_of_recorded tried.recorded]
  constructor
  · rintro ⟨old | new, kept⟩
    · exact old
    · exact absurd new kept
  · intro old
    refine ⟨.inl old, ?_⟩
    rintro ⟨pair, among, rfl⟩
    exact fresh pair among old

theorem Tried.sets_of_discarded (tried : Tried world mirrorSet row base)
    (visited : Visited base mirrorSet jobs returned) {sets : Table SnapshotSet} {aptly : Aptly}
    {pointing : Option Pointing}
    (discarded : Discarded returned names world.db.snapshotSets.nextId sets aptly pointing)
    (id : Nat) : sets.get? id = world.db.snapshotSets.get? id := by
  rw [discarded.sets, Table.get?_delete]
  split
  · rename_i used
    rw [used, Table.get?_nextId]
  · rename_i other
    rw [visited.sets, tried.others id other]

end Tried

end Trial

open Undisturbed Trial FromScratch Rollback in
/-- Whatever sets are looked at in between, in the end all jobs have succeeded, and everything is as
if the only job had been a switch to the set to go back to. -/
theorem trial_leaves_no_trace {self : JobRunner} {server : Server self.margin} {world : World}
    {mirrorSet : MirrorSet} {author : String} {visits : List Nat} {previous : SnapshotSet}
    (patient : 0 < self.polls) (publishable : Publishable mirrorSet)
    (described : world.db.mirrorSets.get? mirrorSet.id = some mirrorSet)
    (fits : mirrorSet.Fits world.aptly)
    (updatable : Updatable world mirrorSet (snapshotStamp world.clock))
    (sound : ∀ place distribution component name,
      world.aptly.Names place distribution component name → name ∈ world.aptly.snapshots)
    (known : ∀ id ∈ visits, id = world.db.snapshotSets.nextId ∨ MayShow mirrorSet world id)
    (found : world.db.snapshotSets.get? previous.id = some previous)
    (may : MayShow mirrorSet world previous.id) :
    Goes server.answers (fun jobs after =>
      (∀ jobId ∈ jobs, ∃ job, after.db.jobs.get? jobId = some job ∧ job.state = .succeeded) ∧
      after.aptly.view = world.aptly.view.pointedAt mirrorSet previous mirrorSet.suites ∧
      after.aptly.mirrors.Perm world.aptly.mirrors ∧
      (∀ name, name ∈ after.aptly.snapshots ↔ name ∈ world.aptly.snapshots) ∧
      after.db.mirrorSets = world.db.mirrorSets ∧
      ∀ id, after.db.snapshotSets.get? id = world.db.snapshotSets.get? id)
      (self.tryOut mirrorSet author world.db.snapshotSets.nextId visits previous.id) world := by
  refine (askUpdate_goes described patient updatable).bind ?_
  rintro updatedId base ⟨-, updated⟩
  obtain ⟨row, tried⟩ := tried_of_delivered updated
  have there : base.db.mirrorSets.get? mirrorSet.id = some mirrorSet := by
    rw [tried.mirrorSets]
    exact described
  refine (visits_go patient publishable there (fun id listed => tried.mayShow (known id listed))
    (tried.begun fits updated.succeeded)).bind fun jobs middle wandered => ?_
  refine (switchOnce_goes patient publishable there wandered (tried.mayShow (.inr may))).bind ?_
  rintro jobs returned ⟨visited, jobId, target, -, chosen, -, ended⟩
  obtain ⟨_, shows⟩ := ended.about
  obtain ⟨same, again, -, -, held⟩ := may
  rw [tried.stored found] at chosen
  rw [found] at again
  cases chosen
  cases again
  have describedStill : returned.db.mirrorSets.get? mirrorSet.id = some mirrorSet := by
    rw [visited.mirrorSets]
    exact there
  have stored : returned.db.snapshotSets.get? world.db.snapshotSets.nextId = some row := by
    rw [visited.sets]
    exact tried.taken
  have loaded : Goes server.answers (fun found after => found = some row ∧ returned = after)
      (getSnapshotSet .request world.db.snapshotSets.nextId) returned :=
    @goes_query _ _ (.getSnapshotSet .request world.db.snapshotSets.nextId) .request _ _ rfl rfl rfl
      ⟨stored, rfl⟩
  refine loaded.bind ?_
  rintro _ _ ⟨rfl, rfl⟩
  have droppable := tried.droppable updatable.fresh visited
    fun _ _ _ _ named => tried.named sound held wandered shows.shown named
  refine (askDiscard_goes describedStill patient droppable stored).bind ?_
  rintro discardedId final ⟨unknown, emptied⟩
  obtain ⟨_, discarded⟩ := emptied.about
  refine Coroutine.completes_done ⟨fun id listed => ?_, ?_,
    discarded.mirrors.trans (visited.mirrors.trans tried.mirrors),
    fun name => tried.snapshots_of_discarded updatable.fresh visited discarded,
    emptied.mirrorSets.trans (visited.mirrorSets.trans tried.mirrorSets),
    tried.sets_of_discarded visited discarded⟩
  · rcases List.mem_append.mp listed with earlier | here
    · exact succeeded_of_over emptied unknown (visited.succeeded id earlier)
    · obtain rfl := List.mem_singleton.mp here
      exact emptied.succeeded
  · rw [Aptly.view_perm visited.fits.distinct discarded.published, shows.shown.view,
      wandered.view, Aptly.view_perm fits.distinct tried.published]

open Trial Rollback in
/-- A new set is taken and shown, then the newer one of those that were there, and then the older. -/
theorem trial_leaves_no_trace_debian : Goes (Server.prompt Sample.runner.margin).answers
    (fun _ after => after.aptly.view ⟨"", "debian"⟩ "stable" "main" = some "old-main" ∧
      "stable-main-19700101T0000Z" ∉ after.aptly.snapshots)
    (Sample.runner.tryOut Sample.stored "operator" 3 [3, 2] 1) { Rollback.world with clock := 1 } := by
  have may : ∀ id ∈ [2, 1], MayShow Sample.stored { Rollback.world with clock := 1 } id := by
    intro id listed
    simp only [List.mem_cons, List.not_mem_nil, or_false] at listed
    rcases listed with rfl | rfl
    · refine ⟨taken 2 "new-main", by decide, rfl, rfl, ?_⟩
      rw [SnapshotSet.HeldBy]
      decide
    · refine ⟨taken 1 "old-main", by decide, rfl, rfl, ?_⟩
      rw [SnapshotSet.HeldBy]
      decide
  have fits : Sample.stored.Fits Rollback.world.aptly := by
    refine ⟨?_, ?_, ?_⟩
    · rw [Aptly.Distinct]
      decide
    · simp only [MirrorSet.Shown]
      decide
    · simp only [MirrorSet.Addresses]
      decide
  have sound : ∀ place distribution component name,
      Rollback.world.aptly.Names place distribution component name →
        name ∈ Rollback.world.aptly.snapshots := by
    rintro place distribution component name ⟨publication, listed, -, -, shown⟩
    simp only [Rollback.world, List.mem_singleton] at listed
    subst listed
    cases List.mem_singleton.mp shown
    decide
  refine (@trial_leaves_no_trace _ _ { Rollback.world with clock := 1 } _ "operator" [3, 2]
    (taken 1 "old-main") (by decide) ⟨by decide, by decide, by decide⟩ (by decide) fits
    ⟨by decide, by decide, by decide, by decide⟩ sound ?_ (by decide) (may 1 (by decide))).mono ?_
    fun _ _ no => no
  · intro id listed
    simp only [List.mem_cons, List.not_mem_nil, or_false] at listed
    rcases listed with rfl | rfl
    · exact .inl rfl
    · exact .inr (may 2 (by decide))
  · rintro _ after ⟨-, view, -, snapshots, -, -⟩
    refine ⟨?_, ?_⟩
    · rw [view]
      decide
    · rw [snapshots]
      decide

end AptlyGui
