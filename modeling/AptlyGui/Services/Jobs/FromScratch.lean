import AptlyGui.Services.Jobs.Rollback
import AptlyGui.Services.Jobs.Update

/-!
# From a description to a published tree

A mirror set that has just been described becomes a published tree by three jobs:
one creates its mirrors, one fills them and takes the snapshots, one publishes
these.  Nothing else is needed of aptly than that it does what it is asked, and
of the moment than that no snapshot bears its stamp yet.
-/

namespace AptlyGui

open Coroutine (Completes)

namespace MirrorSet

variable (mirrorSet : MirrorSet)

def mirrorOf (pair : String × String) : String := mirrorSet.mirrorName pair.1 pair.2

variable {mirrorSet : MirrorSet} {stamp : String} {first second : String × String}

theorem mirrors_perm : (mirrorSet.pairs.map mirrorSet.mirrorOf).Perm mirrorSet.expectedMirrors := by
  rw [pairs, List.map_flatMap, expectedMirrors]
  refine (orderSuites_perm mirrorSet.suites).flatMap fun suite _ => ?_
  rw [List.map_map]
  exact .refl _

theorem snapshotName_injective
    (same : mirrorSet.snapshotName stamp first = mirrorSet.snapshotName stamp second) :
    mirrorSet.mirrorOf first = mirrorSet.mirrorOf second := by
  have chars := congrArg String.toList same
  simp only [snapshotName, toString, String.toList_append] at chars
  exact String.toList_inj.mp (by simpa [mirrorOf] using chars)

/-- The pair that comes next has a mirror of its own. -/
theorem mirrorOf_fresh (named : mirrorSet.expectedMirrors.Nodup)
    {done rest : List (String × String)} {pair : String × String}
    (order : mirrorSet.pairs = done ++ pair :: rest) :
    ∀ other ∈ done, mirrorSet.mirrorOf other ≠ mirrorSet.mirrorOf pair := by
  intro other earlier same
  have distinct := mirrors_perm.nodup_iff.mpr named
  rw [order, List.map_append, List.map_cons] at distinct
  refine (List.nodup_append.mp distinct).2.2 _ (List.mem_map_of_mem earlier) _ ?_ same
  exact List.mem_cons_self

end MirrorSet

namespace FromScratch

open Undisturbed Serving Rollback

variable {mirrorSet : MirrorSet} {aptly after : Aptly} {sets : Table SnapshotSet}
  {pointing : Option Pointing} {done rest : List (String × String)} {pair : String × String}
  {origin world : World} {jobId : Nat} {margin : Margin} {self : JobRunner}
  {server : Server self.margin}

/-! ## Creating -/

/-- The mirrors of these pairs are there, and nothing else is new. -/
structure Created (origin : World) (mirrorSet : MirrorSet) (done : List (String × String))
    (sets : Table SnapshotSet) (aptly : Aptly) (_ : Option Pointing) : Prop where
  sets : sets = origin.db.snapshotSets
  snapshots : aptly.snapshots.Perm origin.aptly.snapshots
  published : aptly.published.Perm origin.aptly.published
  mirrors : ∀ name, name ∈ aptly.mirrorNames ↔
    name ∈ origin.aptly.mirrorNames ∨ ∃ pair ∈ done, mirrorSet.mirrorOf pair = name

theorem Created.same (created : Created origin mirrorSet done sets aptly pointing)
    (same : after.Same aptly) : Created origin mirrorSet done sets after pointing where
  sets := created.sets
  snapshots := same.snapshots.trans created.snapshots
  published := same.published.trans created.published
  mirrors name := same.mirrorNames.trans (created.mirrors name)

/-- A mirror that was there all along counts as created. -/
theorem Created.skip (created : Created origin mirrorSet done sets aptly pointing)
    (there : mirrorSet.mirrorOf pair ∈ origin.aptly.mirrorNames) :
    Created origin mirrorSet (done ++ [pair]) sets aptly pointing where
  sets := created.sets
  snapshots := created.snapshots
  published := created.published
  mirrors name := by
    rw [created.mirrors]
    constructor
    · rintro (old | ⟨other, earlier, named⟩)
      · exact .inl old
      · exact .inr ⟨other, by simp [earlier], named⟩
    · rintro (old | ⟨other, listed, named⟩)
      · exact .inl old
      · rcases List.mem_append.mp listed with earlier | here
        · exact .inr ⟨other, earlier, named⟩
        · obtain rfl := List.mem_singleton.mp here
          exact .inl (named ▸ there)

theorem Created.add {mirror : Mirror} (created : Created origin mirrorSet done sets aptly pointing)
    (named : mirror.name = mirrorSet.mirrorOf pair)
    (effective : after.Same { aptly with mirrors := mirror :: aptly.mirrors }) :
    Created origin mirrorSet (done ++ [pair]) sets after pointing where
  sets := created.sets
  snapshots := effective.snapshots.trans created.snapshots
  published := effective.published.trans created.published
  mirrors name := by
    rw [effective.mirrorNames, Aptly.mirrorNames, List.map_cons, List.mem_cons, named]
    have before := created.mirrors name
    rw [Aptly.mirrorNames] at before
    rw [before]
    constructor
    · rintro (rfl | old | ⟨other, earlier, called⟩)
      · exact .inr ⟨pair, by simp, rfl⟩
      · exact .inl old
      · exact .inr ⟨other, by simp [earlier], called⟩
    · rintro (old | ⟨other, listed, called⟩)
      · exact .inr (.inl old)
      · rcases List.mem_append.mp listed with earlier | here
        · exact .inr (.inr ⟨other, earlier, called⟩)
        · obtain rfl := List.mem_singleton.mp here
          exact .inl called.symm

theorem serves_listMirrors {body : Reply} :
    serves margin world .listMirrors body after = true ↔
      body = .mirrors after.mirrors ∧ after.Same world.aptly := by
  cases body <;>
    simp only [serves, Bool.and_eq_true, decide_eq_true_eq, Bool.false_eq_true, reduceCtorEq,
      false_and, Reply.mirrors.injEq]

theorem serves_createMirror {spec : MirrorSpec} {body : Reply} :
    serves margin world (.createMirror spec) body after = true ↔
      ∃ mirror, body = .mirror mirror ∧ spec.name ∉ world.aptly.mirrorNames ∧
        mirror.name = spec.name ∧
        after.Same { world.aptly with mirrors := mirror :: world.aptly.mirrors } := by
  cases body <;>
    simp only [serves, Bool.and_eq_true, decide_eq_true_eq, Bool.false_eq_true, reduceCtorEq,
      false_and, exists_false, Reply.mirror.injEq, exists_eq_left', and_assoc]

theorem listMirrors_goes {about : Table SnapshotSet → Aptly → Option Pointing → Prop}
    (still : ∀ sets aptly pointing after, about sets aptly pointing → after.Same aptly →
      about sets after pointing) (doing : Doing jobId origin about world) :
    Goes server.answers (fun mirrors after => Doing jobId origin about after ∧
      after.db.steps = world.db.steps ∧ after.measured = none ∧ mirrors = after.aptly.mirrors)
      Client.listMirrors world := by
  refine @goes_aptly _ _ .listMirrors _ ?_ ?_
  · exact server.replies (serves_listMirrors.mpr ⟨rfl, .refl world.aptly⟩)
  · intro body after granted
    obtain ⟨rfl, same⟩ := serves_listMirrors.mp (server.sound granted)
    exact ⟨_, rfl, Doing.record doing (still _ _ _ _ doing.about same), rfl, rfl, rfl⟩

theorem createEach_goes {existing : List String} (named : mirrorSet.expectedMirrors.Nodup)
    (order : mirrorSet.pairs = done ++ pair :: rest)
    (known : ∀ name, name ∈ existing ↔ name ∈ origin.aptly.mirrorNames)
    (doing : Doing jobId origin (Created origin mirrorSet done) world) :
    Goes server.answers (fun _ => Doing jobId origin (Created origin mirrorSet (done ++ [pair])))
      (JobRunner.createEach jobId mirrorSet existing pair.1 pair.2) world := by
  unfold JobRunner.createEach
  refine (addStep_goes (steadfast _ _ _) doing _).bind fun step before begun => ?_
  obtain ⟨doing, present⟩ := begun
  dsimp only
  split
  · rename_i there
    refine finishStep_goes (steadfast _ _ _) ⟨?_, present⟩
    exact Doing.mono doing fun _ _ _ created => created.skip ((known _).mp there)
  · rename_i absent
    -- Neither was it there at the beginning, nor has it been created since.
    have missing : mirrorSet.mirrorOf pair ∉ before.aptly.mirrorNames := by
      rw [doing.about.mirrors]
      rintro (old | ⟨other, earlier, same⟩)
      · exact absent ((known _).mpr old)
      · exact MirrorSet.mirrorOf_fresh named order other earlier same
    refine Completes.bind (@goes_aptly _ _ (.createMirror (specFor mirrorSet pair.1 pair.2))
      (fun _ => WithStep step (Doing jobId origin (Created origin mirrorSet (done ++ [pair])))) ?_ ?_)
      fun _ after held => finishStep_goes (steadfast _ _ _) held
    · exact server.replies (serves_createMirror.mpr
        ⟨⟨mirrorSet.mirrorOf pair, "", "", [], [], none⟩, rfl, missing, rfl, .refl _⟩)
    · intro body after granted
      obtain ⟨mirror, rfl, -, called, effective⟩ := serves_createMirror.mp (server.sound granted)
      exact ⟨mirror, rfl, Doing.record doing (doing.about.add called effective), present⟩

theorem create_goes (named : mirrorSet.expectedMirrors.Nodup)
    (doing : Doing jobId origin (Created origin mirrorSet []) world) :
    Goes server.answers (fun _ => Doing jobId origin (Created origin mirrorSet mirrorSet.pairs))
      (JobRunner.create jobId mirrorSet) world := by
  refine (listMirrors_goes (fun _ _ _ _ created same => created.same same) doing).bind ?_
  rintro mirrors before ⟨doing, -, -, rfl⟩
  have known : ∀ name, name ∈ before.aptly.mirrors.map Mirror.name ↔
      name ∈ origin.aptly.mirrorNames := by
    intro name
    refine (doing.about.mirrors name).trans ⟨?_, .inl⟩
    rintro (old | ⟨other, nowhere, -⟩)
    · exact old
    · cases nowhere
  rw [JobRunner.createAll_eq]
  let between (rest : List (String × String)) (after : World) : Prop :=
    ∃ done, mirrorSet.pairs = done ++ rest ∧ Doing jobId origin (Created origin mirrorSet done) after
  have each : Goes server.answers (fun _ => between []) (Coroutine.forEach mirrorSet.pairs fun pair =>
      JobRunner.createEach jobId mirrorSet (before.aptly.mirrors.map Mirror.name) pair.1 pair.2)
      before := by
    apply Completes.forEach between
    · exact ⟨[], rfl, doing⟩
    · rintro pair rest after ⟨done, order, doing⟩
      refine (createEach_goes named order known doing).mono ?_ fun _ _ no => no
      intro _ last doing
      exact ⟨done ++ [pair], by simp [order], doing⟩
  refine each.mono ?_ fun _ _ no => no
  rintro _ after ⟨done, order, doing⟩
  rw [List.append_nil] at order
  rw [order]
  exact doing

/-! ## Updating -/

/-- The set has this row, which records a snapshot of each of these pairs, and aptly has them. -/
structure Taken (origin : World) (mirrorSet : MirrorSet) (jobId : Nat) (stamp : String)
    (taken : Dict String String) (done : List (String × String)) (sets : Table SnapshotSet)
    (aptly : Aptly) (_ : Option Pointing) : Prop where
  row : ∃ row, sets.get? origin.db.snapshotSets.nextId = some row ∧ row.mirrorSetId = mirrorSet.id ∧
    row.jobId = some jobId ∧ row.snapshots = taken
  others : ∀ id ≠ origin.db.snapshotSets.nextId, sets.get? id = origin.db.snapshotSets.get? id
  mirrors : aptly.mirrors.Perm origin.aptly.mirrors
  published : aptly.published.Perm origin.aptly.published
  snapshots : ∀ name, name ∈ aptly.snapshots ↔
    name ∈ origin.aptly.snapshots ∨ ∃ pair ∈ done, mirrorSet.snapshotName stamp pair = name
  recorded : ∀ mirror name, taken.get? mirror = some name ↔ ∃ pair ∈ done,
    mirrorSet.mirrorOf pair = mirror ∧ mirrorSet.snapshotName stamp pair = name

section Updating

variable {stamp : String} {taken : Dict String String}

theorem Taken.same {later : Option Pointing}
    (held : Taken origin mirrorSet jobId stamp taken done sets aptly pointing)
    (same : after.Same aptly) : Taken origin mirrorSet jobId stamp taken done sets after later where
  row := held.row
  others := held.others
  mirrors := same.mirrors.trans held.mirrors
  published := same.published.trans held.published
  snapshots name := same.snapshots.mem_iff.trans (held.snapshots name)
  recorded := held.recorded

/-- What can be required of the moment and of aptly before the job starts. -/
structure Updatable (origin : World) (mirrorSet : MirrorSet) (stamp : String) : Prop where
  named : mirrorSet.expectedMirrors.Nodup
  mirrored : ∀ name ∈ mirrorSet.expectedMirrors, name ∈ origin.aptly.mirrorNames
  alone : origin.db.takenTwice origin.clock mirrorSet.id = false
  fresh : ∀ pair ∈ mirrorSet.pairs, mirrorSet.snapshotName stamp pair ∉ origin.aptly.snapshots

theorem serves_storage {body : Reply} : serves margin world .storage body after = true ↔
    ∃ reading, body = .storage reading ∧ (checkSpace reading margin world.measured).ok = true ∧
      after.Same world.aptly := by
  cases body <;>
    simp only [serves, Bool.and_eq_true, decide_eq_true_eq, Bool.false_eq_true, reduceCtorEq,
      false_and, exists_false, Reply.storage.injEq, exists_eq_left']

/-- There is a disk that is large enough. -/
theorem exists_room (margin : Margin) (downloadMb : Option Int) :
    ∃ reading, (checkSpace reading margin downloadMb).ok = true := by
  refine ⟨⟨0, margin.requiredFreeMb 0 + downloadMb.getD 0⟩, ?_⟩
  simp [checkSpace]

theorem preflight_goes (updatable : Updatable origin mirrorSet stamp)
    (doing : Doing jobId origin (Unmoved origin) world) :
    Goes server.answers (fun _ => Doing jobId origin (Unmoved origin))
      (self.preflight jobId mirrorSet) world := by
  unfold JobRunner.preflight
  refine (addStep_goes (steadfast _ _ _) doing _).bind fun step before begun => ?_
  refine (listMirrors_goes (fun _ _ _ _ unmoved same => unmoved.same same) begun.1).bind ?_
  rintro mirrors listed ⟨doing, steps, unmeasured, rfl⟩
  have nothing : (mirrorSet.expectedMirrors.filter fun name =>
      name ∉ listed.aptly.mirrors.map Mirror.name) = [] := by
    rw [List.filter_eq_nil_iff]
    intro name expected
    have there := doing.about.2.mirrorNames.mpr (updatable.mirrored name expected)
    simpa [Aptly.mirrorNames] using there
  dsimp only
  rw [if_neg (not_not.mpr nothing)]
  have asked : Goes server.answers (fun reading after =>
      (checkSpace reading self.margin none).ok = true ∧
        WithStep step (Doing jobId origin (Unmoved origin)) after) Client.storage listed := by
    refine @goes_aptly _ _ .storage _ ?_ ?_
    · obtain ⟨reading, enough⟩ := exists_room self.margin listed.measured
      exact server.replies (serves_storage.mpr ⟨reading, rfl, enough, .refl listed.aptly⟩)
    · intro body after granted
      obtain ⟨reading, rfl, enough, same⟩ := serves_storage.mp (server.sound granted)
      rw [unmeasured] at enough
      refine ⟨reading, rfl, enough, Doing.record doing (doing.about.same same), ?_⟩
      change (listed.db.steps.get? step).isSome = true
      rw [steps]
      exact begun.2
  refine asked.bind ?_
  rintro reading after ⟨enough, held⟩
  rw [if_pos enough]
  exact finishStep_goes (steadfast _ _ _) held

theorem serves_updateMirror {spec : MirrorSpec} {body : Reply} :
    serves margin world (.updateMirror spec) body after = true ↔
      ∃ task, body = .task task ∧ spec.name ∈ world.aptly.mirrorNames ∧ after.Same world.aptly := by
  cases body <;>
    simp only [serves, Bool.and_eq_true, decide_eq_true_eq, Bool.false_eq_true, reduceCtorEq,
      false_and, exists_false, Reply.task.injEq, exists_eq_left']

theorem syncEach_goes (patient : 0 < self.polls) (updatable : Updatable origin mirrorSet stamp)
    (among : pair ∈ mirrorSet.pairs)
    (doing : Doing jobId origin (Taken origin mirrorSet jobId stamp taken done) world) :
    Goes server.answers
      (fun _ => Doing jobId origin (Taken origin mirrorSet jobId stamp taken done))
      (self.syncEach jobId mirrorSet pair.1 pair.2) world := by
  -- A sync publishes nothing, so its task has no effect that could show.
  let syncing (sets : Table SnapshotSet) (aptly : Aptly) (pointing : Option Pointing) : Prop :=
    pointing = none ∧ Taken origin mirrorSet jobId stamp taken done sets aptly pointing
  have quiet : ∀ sets aptly pointing after, syncing sets aptly pointing → after.Same aptly →
      syncing sets after pointing := fun _ _ _ _ held same => ⟨held.1, held.2.same same⟩
  have runs : ∀ taskId, Runs server.answers self.margin jobId taskId
      (Doing jobId origin syncing) (Doing jobId origin syncing) := by
    intro taskId
    apply Serving.runs quiet ?_ quiet
    rintro sets aptly pointing after ⟨rfl, held⟩ effective
    exact ⟨⟨rfl, held.same effective⟩, rfl, held.same effective⟩
  refine (addStep_goes (steadfast _ _ _) doing _).bind fun step before begun => ?_
  obtain ⟨doing, present⟩ := begun
  have there : mirrorSet.mirrorOf pair ∈ before.aptly.mirrorNames := by
    refine (doing.about.mirrors.map Mirror.name).mem_iff.mpr (updatable.mirrored _ ?_)
    exact MirrorSet.mem_expectedMirrors_iff_pairs.mpr ⟨pair, among, rfl⟩
  refine Completes.bind (@goes_aptly _ _ (.updateMirror (specFor mirrorSet pair.1 pair.2))
    (fun _ => WithStep step (Doing jobId origin syncing)) ?_ ?_) ?_
  · exact server.replies (serves_updateMirror.mpr
      ⟨⟨0, "", .queued⟩, rfl, there, .refl before.aptly⟩)
  · intro body after granted
    obtain ⟨task, rfl, -, same⟩ := serves_updateMirror.mp (server.sound granted)
    exact ⟨task, rfl, Doing.record doing ⟨rfl, doing.about.same same⟩, present⟩
  · intro task after held
    refine (followTask_goes (runs task.id) patient held).mono ?_ fun _ _ no => no
    exact fun _ last doing => Doing.mono doing fun _ _ _ held => held.2

theorem sync_goes (patient : 0 < self.polls) (updatable : Updatable origin mirrorSet stamp)
    (doing : Doing jobId origin (Taken origin mirrorSet jobId stamp taken done) world) :
    Goes server.answers
      (fun _ => Doing jobId origin (Taken origin mirrorSet jobId stamp taken done))
      (self.sync jobId mirrorSet) world := by
  rw [JobRunner.sync_eq]
  let between (rest : List (String × String)) (after : World) : Prop :=
    (∀ pair ∈ rest, pair ∈ mirrorSet.pairs) ∧
      Doing jobId origin (Taken origin mirrorSet jobId stamp taken done) after
  have each : Goes server.answers (fun _ => between []) (Coroutine.forEach mirrorSet.pairs
      fun pair => self.syncEach jobId mirrorSet pair.1 pair.2) world := by
    apply Completes.forEach between
    · exact ⟨fun _ among => among, doing⟩
    · rintro pair rest after ⟨among, doing⟩
      refine (syncEach_goes patient updatable (among pair List.mem_cons_self) doing).mono ?_
        fun _ _ no => no
      exact fun _ last doing => ⟨fun other later => among other (List.mem_cons_of_mem _ later), doing⟩
  exact each.mono (fun _ _ held => held.2) fun _ _ no => no

/-! ## Taking snapshots -/

/-- One more snapshot, which aptly has created and the row records. -/
theorem Taken.took {later : Option Pointing} (named : mirrorSet.expectedMirrors.Nodup)
    (order : mirrorSet.pairs = done ++ pair :: rest)
    (held : Taken origin mirrorSet jobId stamp taken done sets aptly pointing)
    (effective : after.Same
      { aptly with snapshots := mirrorSet.snapshotName stamp pair :: aptly.snapshots }) :
    Taken origin mirrorSet jobId stamp (mirrorSet.recorded stamp taken pair) (done ++ [pair])
      (sets.update origin.db.snapshotSets.nextId fun row =>
        { row with snapshots := mirrorSet.recorded stamp taken pair }) after later := by
  obtain ⟨row, found, owner, mine, -⟩ := held.row
  refine ⟨⟨_, Table.get?_updated _ found, owner, mine, rfl⟩, fun id other => ?_,
    effective.mirrors.trans held.mirrors, effective.published.trans held.published,
    fun name => ?_, fun mirror name => ?_⟩
  · rw [Table.get?_update, if_neg other]
    exact held.others id other
  · rw [effective.snapshots.mem_iff, List.mem_cons, held.snapshots]
    constructor
    · rintro (rfl | old | ⟨other, earlier, called⟩)
      · exact .inr ⟨pair, by simp, rfl⟩
      · exact .inl old
      · exact .inr ⟨other, by simp [earlier], called⟩
    · rintro (old | ⟨other, listed, called⟩)
      · exact .inr (.inl old)
      · rcases List.mem_append.mp listed with earlier | here
        · exact .inr (.inr ⟨other, earlier, called⟩)
        · obtain rfl := List.mem_singleton.mp here
          exact .inl called.symm
  · rw [MirrorSet.recorded, Dict.get?_set]
    split
    · rename_i here
      constructor
      · rintro ⟨⟩
        exact ⟨pair, by simp, here.symm, rfl⟩
      · rintro ⟨other, listed, mirrored, called⟩
        rcases List.mem_append.mp listed with earlier | last
        · exact absurd (mirrored.trans here) (MirrorSet.mirrorOf_fresh named order other earlier)
        · obtain rfl := List.mem_singleton.mp last
          rw [called]
    · rename_i elsewhere
      rw [held.recorded]
      constructor
      · rintro ⟨other, earlier, same⟩
        exact ⟨other, by simp [earlier], same⟩
      · rintro ⟨other, listed, mirrored, called⟩
        rcases List.mem_append.mp listed with earlier | last
        · exact ⟨other, earlier, mirrored, called⟩
        · obtain rfl := List.mem_singleton.mp last
          exact absurd mirrored.symm elsewhere

theorem serves_createSnapshotFromMirror {mirror name description : String} {body : Reply} :
    serves margin world (.createSnapshotFromMirror mirror name description) body after = true ↔
      ∃ snapshot, body = .snapshot snapshot ∧ mirror ∈ world.aptly.mirrorNames ∧
        name ∉ world.aptly.snapshots ∧ snapshot.name = name ∧
        after.Same { world.aptly with snapshots := name :: world.aptly.snapshots } := by
  cases body <;>
    simp only [serves, Bool.and_eq_true, decide_eq_true_eq, Bool.false_eq_true, reduceCtorEq,
      false_and, exists_false, Reply.snapshot.injEq, exists_eq_left', and_assoc]

theorem snapshotEach_goes (updatable : Updatable origin mirrorSet stamp)
    (order : mirrorSet.pairs = done ++ pair :: rest)
    (doing : Doing jobId origin (Taken origin mirrorSet jobId stamp taken done) world) :
    Goes server.answers
      (fun taken => Doing jobId origin (Taken origin mirrorSet jobId stamp taken (done ++ [pair])))
      (JobRunner.snapshotEach jobId mirrorSet stamp origin.db.snapshotSets.nextId taken pair.1 pair.2)
      world := by
  unfold JobRunner.snapshotEach
  refine (addStep_goes (steadfast _ _ _) doing _).bind fun step before begun => ?_
  obtain ⟨doing, present⟩ := begun
  have among : pair ∈ mirrorSet.pairs := by simp [order]
  have there : mirrorSet.mirrorOf pair ∈ before.aptly.mirrorNames := by
    refine (doing.about.mirrors.map Mirror.name).mem_iff.mpr (updatable.mirrored _ ?_)
    exact MirrorSet.mem_expectedMirrors_iff_pairs.mpr ⟨pair, among, rfl⟩
  have free : mirrorSet.snapshotName stamp pair ∉ before.aptly.snapshots := by
    rw [doing.about.snapshots]
    rintro (old | ⟨other, earlier, same⟩)
    · exact updatable.fresh pair among old
    · exact MirrorSet.mirrorOf_fresh updatable.named order other earlier
        (MirrorSet.snapshotName_injective same)
  -- Between the two, aptly has a snapshot that the row does not record yet.
  let created (sets : Table SnapshotSet) (aptly : Aptly) (_ : Option Pointing) : Prop :=
    ∃ earlier pointing, Taken origin mirrorSet jobId stamp taken done sets earlier pointing ∧
      aptly.Same { earlier with snapshots := mirrorSet.snapshotName stamp pair :: earlier.snapshots }
  have asked : Goes server.answers (fun _ => WithStep step (Doing jobId origin created))
      (Client.createSnapshotFromMirror (mirrorSet.mirrorOf pair) (mirrorSet.snapshotName stamp pair)
        s!"aptly-gui job {jobId}") before := by
    refine @goes_aptly _ _ (.createSnapshotFromMirror (mirrorSet.mirrorOf pair)
      (mirrorSet.snapshotName stamp pair) s!"aptly-gui job {jobId}") _ ?_ ?_
    · exact server.replies (serves_createSnapshotFromMirror.mpr
        ⟨⟨mirrorSet.snapshotName stamp pair⟩, rfl, there, free, rfl, .refl _⟩)
    · intro body after granted
      obtain ⟨snapshot, rfl, -, -, -, effective⟩ := serves_createSnapshotFromMirror.mp (server.sound granted)
      exact ⟨snapshot, rfl, Doing.record doing ⟨_, _, doing.about, effective⟩, present⟩
  refine asked.bind fun _ middle held => ?_
  obtain ⟨doing, recorded⟩ := held
  obtain ⟨aptly, pointing, about, effective⟩ := doing.about
  obtain ⟨row, found, -⟩ := about.row
  have stored : Goes server.answers (fun _ => Doing jobId origin
      (Taken origin mirrorSet jobId stamp (mirrorSet.recorded stamp taken pair) (done ++ [pair])))
      (commit .job [.setSnapshotSet origin.db.snapshotSets.nextId fun row =>
        { row with snapshots := mirrorSet.recorded stamp taken pair },
        endStep step .succeeded ""]) middle := by
    apply goes_commit doing.whole
      (Database.commit_recordSnapshot _ _ (Option.isSome_of_eq_some found) recorded)
    exact ⟨doing.whole, doing.stored, doing.others, doing.mirrorSets, doing.clock,
      about.took updatable.named order effective⟩
  exact stored.bind fun _ _ doing => Coroutine.completes_done doing

theorem takeSnapshots_goes (updatable : Updatable origin mirrorSet stamp)
    (doing : Doing jobId origin (Taken origin mirrorSet jobId stamp Dict.empty []) world) :
    Goes server.answers
      (fun taken => Doing jobId origin (Taken origin mirrorSet jobId stamp taken mirrorSet.pairs))
      (JobRunner.takeSnapshots jobId mirrorSet stamp origin.db.snapshotSets.nextId) world := by
  rw [JobRunner.takeSnapshots_eq]
  let between (rest : List (String × String)) (taken : Dict String String) (after : World) : Prop :=
    ∃ done, mirrorSet.pairs = done ++ rest ∧
      Doing jobId origin (Taken origin mirrorSet jobId stamp taken done) after
  have each : Goes server.answers (between []) (Coroutine.foldEach mirrorSet.pairs Dict.empty
      fun taken pair => JobRunner.snapshotEach jobId mirrorSet stamp origin.db.snapshotSets.nextId
        taken pair.1 pair.2) world := by
    apply Completes.foldEach between
    · exact ⟨[], rfl, doing⟩
    · rintro pair rest taken after ⟨done, order, doing⟩
      refine (snapshotEach_goes updatable order doing).mono ?_ fun _ _ no => no
      intro _ last doing
      exact ⟨done ++ [pair], by simp [order], doing⟩
  refine each.mono ?_ fun _ _ no => no
  rintro taken after ⟨done, order, doing⟩
  rw [List.append_nil] at order
  rw [order]
  exact doing

/-- What an update leaves behind: a complete set, of snapshots that aptly has. -/
structure Delivered (origin : World) (mirrorSet : MirrorSet) (stamp : String)
    (sets : Table SnapshotSet) (aptly : Aptly) (_ : Option Pointing) : Prop where
  row : ∃ row, sets.get? origin.db.snapshotSets.nextId = some row ∧ row.mirrorSetId = mirrorSet.id ∧
    row.state = .complete ∧ ∀ mirror name, row.snapshots.get? mirror = some name ↔
      ∃ pair ∈ mirrorSet.pairs, mirrorSet.mirrorOf pair = mirror ∧
        mirrorSet.snapshotName stamp pair = name
  others : ∀ id ≠ origin.db.snapshotSets.nextId, sets.get? id = origin.db.snapshotSets.get? id
  mirrors : aptly.mirrors.Perm origin.aptly.mirrors
  published : aptly.published.Perm origin.aptly.published
  snapshots : ∀ name, name ∈ aptly.snapshots ↔ name ∈ origin.aptly.snapshots ∨
    ∃ pair ∈ mirrorSet.pairs, mirrorSet.snapshotName stamp pair = name

theorem update_goes (patient : 0 < self.polls)
    (updatable : Updatable origin mirrorSet (snapshotStamp origin.clock))
    (doing : Doing jobId origin (Unmoved origin) world) :
    Goes server.answers
      (fun _ => Doing jobId origin (Delivered origin mirrorSet (snapshotStamp origin.clock)))
      (self.update jobId mirrorSet) world := by
  refine (preflight_goes updatable doing).bind fun _ before doing => ?_
  have timed : Goes server.answers (fun moment after => moment = origin.clock ∧
      Doing jobId origin (Unmoved origin) after) currentTime before :=
    @goes_proceed _ _ .now _ _ _ rfl rfl ⟨doing.clock, doing⟩
  refine timed.bind ?_
  rintro _ middle ⟨rfl, doing⟩
  have added : Goes server.answers (fun inserted after =>
      inserted.snapshotSet = origin.db.snapshotSets.nextId ∧ Doing jobId origin
        (Taken origin mirrorSet jobId (snapshotStamp origin.clock) Dict.empty []) after)
      (commit .job [.addSnapshotSet
        { mirrorSetId := mirrorSet.id, jobId := some jobId, state := .incomplete
          snapshots := Dict.empty }]) middle := by
    have alone : middle.db.takenTwice middle.clock mirrorSet.id = false := by
      rw [Database.takenTwice, doing.about.1, doing.clock]
      exact updatable.alone
    apply goes_commit doing.whole (Database.commit_addSnapshotSet _ alone)
    obtain ⟨sets, same⟩ := doing.about
    refine ⟨congrArg Table.nextId sets, doing.whole, doing.stored, doing.others, doing.mirrorSets,
      doing.clock, ⟨⟨origin.db.snapshotSets.nextId, mirrorSet.id, middle.clock, Dict.empty, .incomplete,
        some jobId⟩, ?_, rfl, rfl, rfl⟩, fun id other => ?_, same.mirrors, same.published,
      fun name => ?_, fun mirror name => ?_⟩
    · rw [sets, Table.get?_insert, if_pos rfl]
      rfl
    · rw [sets, Table.get?_insert, if_neg other]
    · simpa using same.snapshots.mem_iff
    · simp
  refine added.bind ?_
  rintro inserted row ⟨same, doing⟩
  rw [same]
  refine (sync_goes patient updatable doing).bind fun _ synced doing => ?_
  refine (takeSnapshots_goes updatable doing).bind fun taken last doing => ?_
  obtain ⟨whole, stored, others, mirrorSets, clock, about⟩ := doing
  obtain ⟨row, found, owner, -, rfl⟩ := about.row
  have completed : Goes server.answers
      (fun _ => Doing jobId origin (Delivered origin mirrorSet (snapshotStamp origin.clock)))
      (commit .job [.setSnapshotSet origin.db.snapshotSets.nextId fun row =>
        { row with state := .complete }]) last := by
    apply goes_commit whole (Database.commit_setSnapshotSet _ (Option.isSome_of_eq_some found))
    refine ⟨whole, stored, others, mirrorSets, clock,
      ⟨_, Table.get?_updated _ found, owner, rfl, about.recorded⟩, fun id other => ?_,
      about.mirrors, about.published, about.snapshots⟩
    rw [Table.get?_update, if_neg other]
    exact about.others id other
  exact completed.bind fun _ _ doing => Coroutine.completes_done doing

end Updating

/-! ## Three jobs -/

variable {type : JobType} {author : String} {params : JobParams}

/-- The job is stored and waits. -/
def enqueued (world : World) (job : Job) : World :=
  { world with
    db := { world.db with jobs := world.db.jobs.insert job }
    queue := world.queue ++ [world.db.jobs.nextId] }

theorem enqueue_goes (world : World) (job : Job)
    (new : job = { type, mirrorSetId := some mirrorSet.id, author, params }) :
    Goes server.answers
      (fun jobId after => jobId = world.db.jobs.nextId ∧ after = enqueued world job)
      (enqueue type (some mirrorSet.id) author params) world := by
  subst new
  let job : Job := { type, mirrorSetId := some mirrorSet.id, author, params }
  let stored : World := { world with db := { world.db with jobs := world.db.jobs.insert job } }
  have added : Goes server.answers
      (fun inserted after => inserted.job = world.db.jobs.nextId ∧ after = stored)
      (commit .request [.addJob job]) world :=
    @goes_proceed _ _ (.commit .request [.addJob job]) _ _ _ rfl rfl ⟨rfl, rfl⟩
  refine added.bind ?_
  rintro inserted _ ⟨key, rfl⟩
  rw [key]
  have put : Goes server.answers (fun _ after => after = enqueued world job)
      (put world.db.jobs.nextId) stored :=
    @goes_proceed _ _ (.put world.db.jobs.nextId) _ _ _ rfl rfl rfl
  exact put.bind fun _ _ same => Coroutine.completes_done ⟨rfl, same⟩

end FromScratch

/-- A job is stored, and the worker runs it. -/
def JobRunner.ask (self : JobRunner) (type : JobType) (mirrorSet : MirrorSet) (author : String)
    (params : JobParams) : Program Nat := do
  let jobId ← enqueue type (some mirrorSet.id) author params
  self.runJob jobId
  return jobId

namespace FromScratch

open Undisturbed Serving Rollback

variable {mirrorSet : MirrorSet} {world : World} {self : JobRunner}
  {server : Server self.margin} {type : JobType}
  {author : String} {params : JobParams}

theorem ask_goes {about : Table SnapshotSet → Aptly → Option Pointing → Prop}
    (described : world.db.mirrorSets.get? mirrorSet.id = some mirrorSet)
    (works : ∀ jobId job after, job.type = type → job.params = params →
      Doing jobId world (Unmoved world) after →
      Goes server.answers (fun _ => Doing jobId world about)
        (self.execute jobId job (some mirrorSet)) after) :
    Goes server.answers
      (fun jobId final => world.db.jobs.get? jobId = none ∧ Over jobId world about final)
      (self.ask type mirrorSet author params) world := by
  let jobId := world.db.jobs.nextId
  let job : Job := { type, mirrorSetId := some mirrorSet.id, author, params }
  refine (enqueue_goes world job rfl).bind ?_
  rintro _ _ ⟨rfl, rfl⟩
  have stored : (enqueued world job).db.jobs.get? jobId = some { job with id := jobId } := by
    rw [enqueued, Table.get?_insert, if_pos rfl]
    rfl
  have kept : ∀ id ≠ jobId, (enqueued world job).db.jobs.get? id = world.db.jobs.get? id := by
    intro id other
    rw [enqueued, Table.get?_insert, if_neg other]
  have ran : Goes server.answers (fun _ => EndsWell jobId (Doing jobId world about))
      (self.runJob jobId) (enqueued world job) := by
    apply runJob_goes stored rfl described (steadfast jobId world about)
    intro after whole present beside
    refine works jobId _ after rfl rfl ⟨whole, present, fun id other => ?_, beside.mirrorSets,
      beside.clock, beside.snapshotSets, ?_⟩
    · exact (beside.jobs id other).trans (kept id other)
    · rw [beside.aptly]
      exact .refl _
  exact ran.bind fun _ final ended =>
    Coroutine.completes_done ⟨Table.get?_nextId _, over_of_endsWell ended⟩

theorem askUpdate_goes (described : world.db.mirrorSets.get? mirrorSet.id = some mirrorSet)
    (patient : 0 < self.polls) (updatable : Updatable world mirrorSet (snapshotStamp world.clock)) :
    Goes server.answers (fun jobId final => world.db.jobs.get? jobId = none ∧
      Over jobId world (Delivered world mirrorSet (snapshotStamp world.clock)) final)
      (self.ask .update mirrorSet author params) world := by
  apply ask_goes described
  intro jobId job after type _ doing
  simp only [JobRunner.execute, type]
  exact update_goes patient updatable doing

theorem askSwitch_goes {target : SnapshotSet} {targetId : Nat}
    (described : world.db.mirrorSets.get? mirrorSet.id = some mirrorSet)
    (patient : 0 < self.polls) (publishable : Publishable mirrorSet)
    (fits : mirrorSet.Fits world.aptly) (found : world.db.snapshotSets.get? targetId = some target)
    (owned : target.mirrorSetId = mirrorSet.id) (complete : target.state = .complete)
    (held : target.HeldBy mirrorSet world.aptly) :
    Goes server.answers (fun jobId final => world.db.jobs.get? jobId = none ∧
      Over jobId world (Shows world mirrorSet target) final)
      (self.ask .switch mirrorSet author { snapshotSetId := some targetId }) world := by
  apply ask_goes described
  intro jobId job after type asked doing
  simp only [JobRunner.execute, type]
  refine switch_goes patient publishable ?_ found owned complete held fits doing
  rw [asked]

/-- A job that has succeeded is none of the next job's business. -/
theorem succeeded_of_over {jobId id : Nat} {final : World}
    {about : Table SnapshotSet → Aptly → Option Pointing → Prop}
    (ended : Over jobId world about final) (unknown : world.db.jobs.get? jobId = none)
    (succeeded : ∃ job, world.db.jobs.get? id = some job ∧ job.state = .succeeded) :
    ∃ job, final.db.jobs.get? id = some job ∧ job.state = .succeeded := by
  obtain ⟨job, found, state⟩ := succeeded
  refine ⟨job, ?_, state⟩
  rw [ended.others id, found]
  rintro rfl
  rw [found] at unknown
  cases unknown

/-- What an update delivers can be switched to. -/
theorem held_of_delivered {stamp : String} {row : SnapshotSet} {aptly : Aptly}
    {snapshots : List String}
    (held : ∀ name, name ∈ aptly.snapshots ↔ name ∈ snapshots ∨
      ∃ pair ∈ mirrorSet.pairs, mirrorSet.snapshotName stamp pair = name)
    (recorded : ∀ mirror name, row.snapshots.get? mirror = some name ↔ ∃ pair ∈ mirrorSet.pairs,
      mirrorSet.mirrorOf pair = mirror ∧ mirrorSet.snapshotName stamp pair = name) :
    row.HeldBy mirrorSet aptly := by
  intro suite listed component wanted
  have among : (suite, component) ∈ mirrorSet.pairs := MirrorSet.mem_pairs.mpr ⟨listed, wanted⟩
  exact ⟨mirrorSet.snapshotName stamp (suite, component),
    (held _).mpr (.inr ⟨_, among, rfl⟩), (recorded _ _).mpr ⟨_, among, rfl, rfl⟩⟩

end FromScratch

end AptlyGui
