import AptlyGui.Services.Jobs.Suites

/-!
# COMPLETE covers the whole set

An UPDATE job calls its snapshot set COMPLETE at the end of a double loop, and
`reconcile` by counting.  Either way the set records a snapshot of each mirror
of its mirror set and of nothing else, so looking one up never fails.
-/

namespace AptlyGui

open Coroutine (Contract Safe Uses)

/-- `reconcile`: ask aptly which of the recorded snapshots it has. -/
def reconcile (mirrorSet : MirrorSet) (row : SnapshotSet) : Program SnapshotSetState := do
  let snapshots ← Client.listSnapshots
  let found := reconciled mirrorSet (snapshots.map Snapshot.name) row
  let _ ← commit .request [.setSnapshotSet row.id fun stored =>
    { stored with snapshots := found.snapshots, state := found.state }]
  return found.state

/-- Every snapshot set records what it should of its mirror set. -/
def Database.Covered (db : Database) : Prop :=
  ∀ id row, db.snapshotSets.get? id = some row →
    ∀ mirrorSet, db.mirrorSets.get? row.mirrorSetId = some mirrorSet → row.Records mirrorSet

namespace Database

variable {before after third : Database}

/-- Snapshot sets may go, and mirror sets may come and go, as long as no remaining snapshot set
gets another mirror set by it. -/
structure Narrows (before after : Database) : Prop where
  sets : ∀ id row, after.snapshotSets.get? id = some row → before.snapshotSets.get? id = some row
  mirrorSets : ∀ id row, after.snapshotSets.get? id = some row → ∀ mirrorSet,
    after.mirrorSets.get? row.mirrorSetId = some mirrorSet →
      before.mirrorSets.get? row.mirrorSetId = some mirrorSet

theorem SameSets.narrows (same : before.SameSets after) : before.Narrows after := by
  refine ⟨fun id row found => ?_, fun id row _ mirrorSet described => ?_⟩
  · rw [← same.snapshotSets]
    exact found
  · rw [← same.mirrorSets]
    exact described

theorem Covered.narrowed (covered : before.Covered) (narrows : before.Narrows after) :
    after.Covered := by
  intro id row found mirrorSet described
  apply covered id row (narrows.sets id row found)
  exact narrows.mirrorSets id row found mirrorSet described

/-- One row is stored or changed, and records what it should. -/
theorem Covered.changed (covered : before.Covered) (mirrorSets : after.mirrorSets = before.mirrorSets)
    (id : Nat) (others : ∀ other, other ≠ id →
      after.snapshotSets.get? other = before.snapshotSets.get? other)
    (good : ∀ row mirrorSet, after.snapshotSets.get? id = some row →
      before.mirrorSets.get? row.mirrorSetId = some mirrorSet → row.Records mirrorSet) :
    after.Covered := by
  intro other row found mirrorSet described
  rw [mirrorSets] at described
  by_cases same : other = id
  · subst same
    exact good row mirrorSet found described
  · rw [others other same] at found
    exact covered other row found mirrorSet described

end Database

namespace Coverage

/-- Nobody else moves. -/
def contract : Contract semantics where
  allowed _ _ _ := True
  rely before after := after = before
  guarantee _ after := after.db.Covered
  rely_refl _ := rfl
  rely_trans before after := after.trans before

abbrev Raised (_ : Exn) (after : World) : Prop := after.db.Covered

/-- The update's own row, as far as it has got. -/
structure Filling (mirrorSet : MirrorSet) (origin : Table SnapshotSet) (id : Nat)
    (done : List (String × String)) (taken : Dict String String) (db : Database) : Prop where
  covered : db.Covered
  described : db.mirrorSets.get? mirrorSet.id = some mirrorSet
  fresh : origin.get? id = none
  going : Recording.Open mirrorSet origin id done taken db.snapshotSets
  owned : ∀ row, db.snapshotSets.get? id = some row → row.mirrorSetId = mirrorSet.id

variable {mirrorSet : MirrorSet} {origin : Table SnapshotSet} {id jobId : Nat}
  {done : List (String × String)} {taken : Dict String String} {db after : Database}
  {world : World} {self : JobRunner}

theorem Filling.same (filling : Filling mirrorSet origin id done taken db)
    (same : db.SameSets after) : Filling mirrorSet origin id done taken after := by
  refine ⟨filling.covered.narrowed same.narrows, ?_, filling.fresh, ?_, ?_⟩
  · rw [same.mirrorSets]
    exact filling.described
  · rw [same.snapshotSets]
    exact filling.going
  · rw [same.snapshotSets]
    exact filling.owned

/-- A change of the own row that leaves it with what it should record. -/
theorem covered_of_update (filling : Filling mirrorSet origin id done taken db)
    {change : SnapshotSet → SnapshotSet} (mirrorSets : after.mirrorSets = db.mirrorSets)
    (sets : after.snapshotSets = db.snapshotSets.update id change)
    (keeps : ∀ row, (change row).mirrorSetId = row.mirrorSetId)
    (records : RecordsIn mirrorSet origin after.snapshotSets) :
    after.Covered ∧ ∀ row, after.snapshotSets.get? id = some row →
      row.mirrorSetId = mirrorSet.id := by
  have owned : ∀ row, after.snapshotSets.get? id = some row →
      row.mirrorSetId = mirrorSet.id := by
    intro row found
    rw [sets, Table.get?_update, if_pos rfl] at found
    obtain ⟨old, known, rfl⟩ := Option.map_eq_some_iff.mp found
    exact (keeps old).trans (filling.owned old known)
  refine ⟨filling.covered.changed mirrorSets id ?_ ?_, owned⟩
  · intro other different
    rw [sets, Table.get?_update, if_neg different]
  · intro row described found known
    rw [owned row found, filling.described] at known
    cases known
    exact records id row found filling.fresh

/-! ## An update -/

/-- The snapshot taken is recorded in the own row. -/
theorem Filling.next (filling : Filling mirrorSet origin id done taken db) {pair : String × String}
    (listed : pair ∈ mirrorSet.pairs) {name : String} {now : Time} {inserted : Inserted} {step : Nat}
    (committed : db.commit now [.setSnapshotSet id fun row =>
        { row with snapshots := taken.set (mirrorSet.mirrorName pair.1 pair.2) name },
      endStep step .succeeded ""] = .ok (after, inserted)) :
    Filling mirrorSet origin id (done ++ [pair])
      (taken.set (mirrorSet.mirrorName pair.1 pair.2) name) after := by
  obtain ⟨-, -, mirrorSets, sets⟩ := Database.writeAll_tables committed
  have same : after.snapshotSets = db.snapshotSets.update id fun row =>
      { row with snapshots := taken.set (mirrorSet.mirrorName pair.1 pair.2) name } := sets
  have going := filling.going.next listed name
  rw [← same] at going
  obtain ⟨covered, owned⟩ :=
    covered_of_update filling mirrorSets same (fun _ => rfl) going.records
  exact ⟨covered, (congrArg (Table.get? · mirrorSet.id) mirrorSets).trans filling.described,
    filling.fresh, going, owned⟩

/-- The new row records nothing yet. -/
theorem filling_of_insert (covered : db.Covered)
    (described : db.mirrorSets.get? mirrorSet.id = some mirrorSet) {now : Time}
    {inserted : Inserted} (committed : db.commit now [.addSnapshotSet
      { mirrorSetId := mirrorSet.id, jobId := some jobId, state := .incomplete
        snapshots := Dict.empty }] = .ok (after, inserted)) :
    Filling mirrorSet db.snapshotSets inserted.snapshotSet [] Dict.empty after := by
  obtain ⟨-, -, mirrorSets, sets⟩ := Database.writeAll_tables committed
  have same : after.snapshotSets = db.snapshotSets.insert
      { mirrorSetId := mirrorSet.id, takenAt := now, jobId := some jobId, state := .incomplete
        snapshots := Dict.empty } := sets
  have stored : after.snapshotSets.get? db.snapshotSets.nextId = some (Keyed.withId
      db.snapshotSets.nextId
      { mirrorSetId := mirrorSet.id, takenAt := now, jobId := some jobId, state := .incomplete
        snapshots := Dict.empty }) := by
    rw [same, Table.get?_insert, if_pos rfl]
  have going := Recording.open_of_insert recordsIn_refl committed
  have owned : ∀ row, after.snapshotSets.get? db.snapshotSets.nextId = some row →
      row.mirrorSetId = mirrorSet.id := by
    intro row found
    rw [stored] at found
    cases found
    rfl
  have fresh := Table.get?_nextId db.snapshotSets
  rw [Database.inserted_of_addSnapshotSet committed] at going ⊢
  refine ⟨?_, (congrArg (Table.get? · mirrorSet.id) mirrorSets).trans described, fresh, going, owned⟩
  refine covered.changed mirrorSets db.snapshotSets.nextId ?_ ?_
  · intro other different
    rw [same, Table.get?_insert, if_neg different]
  · intro row owner found known
    rw [owned row found, described] at known
    cases known
    exact going.records _ row found fresh

/-- With a snapshot of every mirror the own row may be called COMPLETE. -/
theorem Filling.complete (filling : Filling mirrorSet origin id mirrorSet.pairs taken db) {now : Time}
    {inserted : Inserted} (committed : db.commit now [.setSnapshotSet id fun row =>
      { row with state := .complete }] = .ok (after, inserted)) :
    after.Covered ∧ after.mirrorSets.get? mirrorSet.id = some mirrorSet := by
  obtain ⟨-, -, mirrorSets, sets⟩ := Database.writeAll_tables committed
  have same : after.snapshotSets = db.snapshotSets.update id fun row =>
      { row with state := .complete } := sets
  refine ⟨(covered_of_update filling mirrorSets same (fun _ => rfl) ?_).1, ?_⟩
  · rw [same]
    exact filling.going.complete
  · exact (congrArg (Table.get? · mirrorSet.id) mirrorSets).trans filling.described

theorem keeping (jobId : Nat) (mirrorSet : MirrorSet) : Keeping contract jobId mirrorSet
    (fun db => db.Covered ∧ db.mirrorSets.get? mirrorSet.id = some mirrorSet)
    fun id done taken db => ∃ origin, Filling mirrorSet origin id done taken db where
  alone passed := passed
  guaranteed held := held.1
  lasts held same := ⟨held.1.narrowed same.narrows, same.mirrorSets.symm ▸ held.2⟩
  keeps := by
    rintro id done taken db ⟨origin, filling⟩
    exact ⟨filling.covered, filling.described⟩
  stays := by
    rintro id done taken db after ⟨origin, filling⟩ same
    exact ⟨origin, filling.same same⟩
  opens held committed := ⟨_, filling_of_insert held.1 held.2 committed⟩
  records := by
    rintro id done taken db after now inserted step pair name listed ⟨origin, filling⟩ committed
    exact ⟨origin, filling.next listed committed⟩
  completes := by
    rintro id taken db after now inserted ⟨origin, filling⟩ committed
    exact filling.complete committed

theorem runJob_safe {job : Job} (stored : world.db.jobs.get? jobId = some job)
    (type : job.type = .update) (covered : world.db.Covered) :
    Safe contract (fun _ _ => True) (fun _ _ => True) (self.runJob jobId) world := by
  refine safe_runJob_alone id (fun same => ?_) stored fun same => ?_
  · change Database.Covered _
    rw [same]
    exact covered
  · cases loaded : job.mirrorSetIn world.db with
    | none =>
        unfold JobRunner.runLoaded
        rw [if_pos ⟨rfl, by rw [type]; nofun, by rw [type]; nofun⟩]
        trivial
    | some mirrorSet =>
        obtain ⟨mirrorSetId, -, described⟩ := Option.bind_eq_some_iff.mp loaded
        have key : mirrorSet.id = mirrorSetId := Table.id_of_get? described
        apply (keeping jobId mirrorSet).safe_runLoaded
        · intro before held
          simp only [JobRunner.execute, type]
          exact (keeping jobId mirrorSet).safe_update held
        · rw [same, key]
          exact ⟨covered, described⟩

/-- An UPDATE job, followed for any number of operations. -/
theorem covered_of_runJob {job : Job} (stored : world.db.jobs.get? jobId = some job)
    (type : job.type = .update) (covered : world.db.Covered) {events : List Event}
    {rest : Program Unit} {final : World}
    (ran : (self.runJob jobId).run semantics events world = some (rest, final)) :
    final.db.Covered := by
  obtain ⟨path, -⟩ := (runJob_safe stored type covered).run (fun _ _ _ _ => trivial) ran
  cases path with
  | refl => exact covered
  | tail _ last => exact last

/-! ## Reconciling -/

theorem covered_of_reconciled {existing : List String} {row : SnapshotSet}
    (covered : db.Covered) (found : db.snapshotSets.get? row.id = some row)
    (described : db.mirrorSets.get? row.mirrorSetId = some mirrorSet) {now : Time}
    {inserted : Inserted} (committed : db.commit now [.setSnapshotSet row.id fun stored =>
      { stored with
        snapshots := (reconciled mirrorSet existing row).snapshots
        state := (reconciled mirrorSet existing row).state }] = .ok (after, inserted)) :
    after.Covered := by
  obtain ⟨-, -, mirrorSets, sets⟩ := Database.writeAll_tables committed
  have same : after.snapshotSets = db.snapshotSets.update row.id fun stored =>
      { stored with
        snapshots := (reconciled mirrorSet existing row).snapshots
        state := (reconciled mirrorSet existing row).state } := sets
  refine covered.changed mirrorSets row.id ?_ ?_
  · intro other different
    rw [same, Table.get?_update, if_neg different]
  · intro changed owner known named
    rw [same, Table.get?_update, if_pos rfl, found] at known
    cases known
    have named : db.mirrorSets.get? row.mirrorSetId = some owner := named
    rw [described] at named
    cases named
    have records := (covered row.id row found mirrorSet described).reconciled existing
    exact ⟨records.only, records.all⟩

theorem reconcile_safe {row : SnapshotSet} (covered : world.db.Covered)
    (found : world.db.snapshotSets.get? row.id = some row)
    (described : world.db.mirrorSets.get? row.mirrorSetId = some mirrorSet) :
    Safe contract (fun _ later => later.db.Covered) Raised (reconcile mirrorSet row) world := by
  have listed : Safe contract (fun _ later => later.db = world.db) Raised
      (perform (.aptly .listSnapshots)) world := by
    refine safe_op fun event outcome later _ performed => ?_
    have same := (Op.perform_frame performed).db rfl
    have kept : later.db.Covered := same ▸ covered
    cases outcome with
    | ok snapshots => exact .ok kept fun _ stays => stays ▸ same
    | error error => exact .error kept fun _ stays => stays ▸ kept
  refine Safe.bind listed fun snapshots asked same => ?_
  refine Safe.bind (?_ : Safe contract (fun (_ : Inserted) later => later.db.Covered) Raised _ _)
    fun _ _ kept => kept
  refine safe_op fun event outcome later _ performed => ?_
  have kept : later.db.Covered := by
    rcases World.commit_request performed with ⟨error, -, rfl⟩ | ⟨db, inserted, stored, -, rfl⟩
    · exact same ▸ covered
    · rw [same] at stored
      exact covered_of_reconciled covered found described stored
  cases outcome with
  | ok keys => exact .ok kept fun _ stays => stays ▸ kept
  | error error => exact .error kept fun _ stays => stays ▸ kept

/-- A call of `reconcile`, followed for any number of operations. -/
theorem covered_of_reconcile {row : SnapshotSet} (covered : world.db.Covered)
    (found : world.db.snapshotSets.get? row.id = some row)
    (described : world.db.mirrorSets.get? row.mirrorSetId = some mirrorSet) {events : List Event}
    {rest : Program SnapshotSetState} {final : World}
    (ran : (reconcile mirrorSet row).run semantics events world = some (rest, final)) :
    final.db.Covered := by
  obtain ⟨path, -⟩ := (reconcile_safe covered found described).run (fun _ _ _ _ => trivial) ran
  cases path with
  | refl => exact covered
  | tail _ last => exact last

/-! ## Histories -/

/-- What UPDATE jobs and calls of `reconcile` make of a service without snapshot sets.  A job and a
call may stop at any point.  Between them anything may happen that neither stores nor changes a
snapshot set, and gives none another mirror set. -/
inductive History : World → Prop where
  | start {world : World} (none : world.db.snapshotSets.rows = []) : History world
  | update {self : JobRunner} {world final : World} {jobId : Nat} {job : Job}
      {events : List Event} {rest : Program Unit} (before : History world)
      (stored : world.db.jobs.get? jobId = some job) (type : job.type = .update)
      (ran : (self.runJob jobId).run semantics events world = some (rest, final)) : History final
  | reconcile {world final : World} {row : SnapshotSet} {mirrorSet : MirrorSet}
      {events : List Event} {rest : Program SnapshotSetState} (before : History world)
      (found : world.db.snapshotSets.get? row.id = some row)
      (described : world.db.mirrorSets.get? row.mirrorSetId = some mirrorSet)
      (ran : (reconcile mirrorSet row).run semantics events world = some (rest, final)) :
      History final
  | meanwhile {world final : World} (before : History world)
      (narrows : world.db.Narrows final.db) : History final

theorem History.covered (history : History world) : world.db.Covered := by
  induction history with
  | start none =>
      intro id row found
      obtain ⟨listed, -⟩ := Table.get?_eq_some_iff.mp found
      rw [none] at listed
      cases listed
  | update _ stored type ran inductionHypothesis =>
      exact covered_of_runJob stored type inductionHypothesis ran
  | reconcile _ found described ran inductionHypothesis =>
      exact covered_of_reconcile inductionHypothesis found described ran
  | meanwhile _ narrows inductionHypothesis => exact inductionHypothesis.narrowed narrows

end Coverage

theorem JobRunner.componentProblems_of_recorded {mirrorSet : MirrorSet} {target : SnapshotSet}
    {suite : String} (recorded : ∀ component ∈ mirrorSet.components,
      mirrorSet.mirrorName suite component ∈ target.snapshots.keys) (found : Published) :
    ∃ problems, componentProblems mirrorSet target suite found = .ok problems := by
  cases checked : componentProblems mirrorSet target suite found with
  | ok problems => exact ⟨problems, rfl⟩
  | error error =>
      obtain ⟨component, listed, problems, raised⟩ := List.error_of_foldlM checked
      obtain ⟨name, known⟩ := Dict.mem_keys_iff.mp (recorded component listed)
      simp only [known] at raised
      split at raised <;> cases raised

theorem JobRunner.verifyProblems_of_recorded {mirrorSet : MirrorSet} {target : SnapshotSet}
    (recorded : ∀ name ∈ mirrorSet.expectedMirrors, name ∈ target.snapshots.keys)
    (actual : Dict (String × String) Published) :
    ∃ problems, verifyProblems mirrorSet target actual = .ok problems := by
  cases checked : verifyProblems mirrorSet target actual with
  | ok problems => exact ⟨problems, rfl⟩
  | error error =>
      obtain ⟨suite, listed, problems, raised⟩ := List.error_of_foldlM checked
      split at raised
      · cases raised
      · rename_i found _
        have each : ∀ component ∈ mirrorSet.components,
            mirrorSet.mirrorName suite component ∈ target.snapshots.keys :=
          fun component among => recorded _ (MirrorSet.mem_expectedMirrors.mpr
            ⟨suite, listed, component, among, rfl⟩)
        obtain ⟨more, fine⟩ := componentProblems_of_recorded each found
        rw [fine] at raised
        cases raised

/-- A COMPLETE set records a snapshot of each mirror of its mirror set and of nothing else, so a
switch finds every snapshot it looks up. -/
theorem complete_sets_cover_their_mirror_set {world : World} (history : Coverage.History world)
    {target : SnapshotSet} {mirrorSet : MirrorSet}
    (stored : target ∈ world.db.snapshotSets.rows) (complete : target.state = .complete)
    (described : world.db.mirrorSets.get? target.mirrorSetId = some mirrorSet) :
    (∀ name, name ∈ target.snapshots.keys ↔ ∃ suite ∈ mirrorSet.suites,
      ∃ component ∈ mirrorSet.components, mirrorSet.mirrorName suite component = name) ∧
    (∀ suite ∈ mirrorSet.suites,
      ∃ sources, JobRunner.sourcesFor mirrorSet target suite = .ok sources) ∧
    ∀ actual, ∃ problems, JobRunner.verifyProblems mirrorSet target actual = .ok problems := by
  have records := history.covered target.id target (Table.mem_rows_iff.mp stored) mirrorSet described
  have all := records.all complete
  refine ⟨fun name => ?_, fun suite listed => ?_, JobRunner.verifyProblems_of_recorded all⟩
  · rw [← MirrorSet.mem_expectedMirrors]
    exact ⟨records.only name, all name⟩
  · apply JobRunner.sourcesFor_of_recorded
    intro component among
    exact all _ (MirrorSet.mem_expectedMirrors.mpr ⟨suite, listed, component, among, rfl⟩)

/-- An update whose set is reconciled afterwards, with a listing in which its snapshots are there. -/
theorem complete_sets_cover_their_mirror_set_wide : ∃ (world : World) (target : SnapshotSet),
    target ∈ world.db.snapshotSets.rows ∧ target.state = .complete ∧
      (∀ name ∈ ["stable-main", "stable-contrib", "stable-updates-main", "stable-updates-contrib"],
        name ∈ target.snapshots.keys) ∧
      ∀ suite ∈ ["stable", "stable-updates"],
        ∃ sources, JobRunner.sourcesFor Sample.wide target suite = .ok sources := by
  have runs : ((Sample.runner.runJob 1).run semantics Sample.wideUpdated
      (Sample.waiting .update none Sample.wideService.world)).any (fun updated =>
        (updated.2.db.snapshotSets.get? 1).any fun row =>
          decide (row.id = 1) && decide (row.mirrorSetId = 1) &&
          ((reconcile Sample.wide row).run semantics
            (Sample.replies (Sample.wideAptly 4 [])
              [.snapshots ((Sample.wideAptly 4 []).snapshots.map Snapshot.mk)] ++ [.proceed])
            updated.2).any fun reconciled =>
          decide (updated.2.db.mirrorSets.get? 1 = some Sample.wide) &&
          decide (reconciled.2.db.mirrorSets.get? 1 = some Sample.wide) &&
          (reconciled.2.db.snapshotSets.get? 1).any fun target =>
          decide (target.mirrorSetId = 1) && decide (target.state = .complete)) = true := by
    decide +kernel
  obtain ⟨⟨_, updated⟩, first, runs⟩ := (Option.any_eq_true _ _).mp runs
  obtain ⟨row, found, runs⟩ := (Option.any_eq_true _ _).mp runs
  simp only [Bool.and_eq_true, decide_eq_true_eq] at runs
  obtain ⟨⟨key, owner⟩, runs⟩ := runs
  obtain ⟨⟨_, world⟩, second, runs⟩ := (Option.any_eq_true _ _).mp runs
  simp only [Bool.and_eq_true, decide_eq_true_eq] at runs
  obtain ⟨⟨described, still⟩, runs⟩ := runs
  obtain ⟨target, stored, runs⟩ := (Option.any_eq_true _ _).mp runs
  simp only [Bool.and_eq_true, decide_eq_true_eq] at runs
  obtain ⟨owned, complete⟩ := runs
  have history : Coverage.History updated :=
    .update (.start rfl) (by rfl) rfl first
  have history : Coverage.History world :=
    .reconcile history (key ▸ found) (owner ▸ described) second
  have listed := (Table.get?_eq_some_iff.mp stored).1
  obtain ⟨names, lookups, -⟩ :=
    complete_sets_cover_their_mirror_set history listed complete (owned ▸ still)
  refine ⟨world, target, listed, complete, fun name among => (names name).mpr ?_, lookups⟩
  revert name
  decide

end AptlyGui
