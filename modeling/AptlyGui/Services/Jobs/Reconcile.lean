import AptlyGui.Library.Grouping
import AptlyGui.Library.Solo
import AptlyGui.Services.Jobs.Coverage

/-!
# What reconciling says

`reconcile` keeps what aptly still lists and counts it.  The count is right
exactly when the names of the expected mirrors are pairwise different: a name
that two cells of the grid share is recorded once and expected twice.
-/

namespace AptlyGui

open Coroutine (Ends)

variable {mirrorSet : MirrorSet} {row : SnapshotSet} {existing : List String}

/-- The set records a snapshot of this mirror, and aptly lists it. -/
def SnapshotSet.Covers (row : SnapshotSet) (existing : List String) (name : String) : Prop :=
  ∃ snapshot ∈ existing, row.snapshots.get? name = some snapshot

theorem get?_reconciled (name : String) :
    (reconciled mirrorSet existing row).snapshots.get? name =
      (row.snapshots.get? name).filter fun snapshot => snapshot ∈ existing := by
  simp [reconciled]

theorem mem_keys_reconciled {name : String} :
    name ∈ (reconciled mirrorSet existing row).snapshots.keys ↔ row.Covers existing name := by
  simp only [Dict.mem_keys_iff, get?_reconciled, Option.filter_eq_some_iff, SnapshotSet.Covers,
    decide_eq_true_eq]
  constructor
  · rintro ⟨snapshot, recorded, listed⟩
    exact ⟨snapshot, listed, recorded⟩
  · rintro ⟨snapshot, listed, recorded⟩
    exact ⟨snapshot, recorded, listed⟩

/-- The size of the dictionary is that of the grid when it has all names and none occurs twice. -/
theorem reconciled_complete_iff (only : ∀ name ∈ row.snapshots.keys, name ∈ mirrorSet.expectedMirrors) :
    (reconciled mirrorSet existing row).state = .complete ↔
      (∀ name ∈ mirrorSet.expectedMirrors, row.Covers existing name) ∧
        mirrorSet.expectedMirrors.Nodup := by
  let present := (reconciled mirrorSet existing row).snapshots
  have among : present.keys ⊆ mirrorSet.expectedMirrors := by
    intro name listed
    obtain ⟨snapshot, -, recorded⟩ := mem_keys_reconciled.mp listed
    exact only name (Dict.mem_keys_iff.mpr ⟨snapshot, recorded⟩)
  have counted : (reconciled mirrorSet existing row).state = .complete ↔
      present.keys.length = mirrorSet.expectedMirrors.length := by
    rw [MirrorSet.length_expectedMirrors, Dict.keys, List.length_map]
    simp only [reconciled, present]
    split
    · simp [*]
    · simp [*]
  have distinct : present.keys.Nodup := present.distinct
  rw [counted, List.length_eq_iff_of_subset distinct among]
  simp only [List.subset_def, present, mem_keys_reconciled]

/-- A second look at the same listing finds nothing to change. -/
theorem reconciled_reconciled :
    reconciled mirrorSet existing (reconciled mirrorSet existing row) =
      reconciled mirrorSet existing row := by
  have kept : (row.snapshots.filter fun _ snapshot => decide (snapshot ∈ existing)).filter
      (fun _ snapshot => decide (snapshot ∈ existing)) =
        row.snapshots.filter fun _ snapshot => decide (snapshot ∈ existing) :=
    Dict.ext (by simp [Dict.filter, List.filter_filter])
  unfold reconciled
  dsimp only
  rw [kept]

theorem reconciled_eq_self (complete : row.state = .complete)
    (counted : (reconciled mirrorSet existing row).state = .complete)
    (listed : ∀ snapshot ∈ row.snapshots.values, snapshot ∈ existing) :
    reconciled mirrorSet existing row = row := by
  have kept : (reconciled mirrorSet existing row).snapshots = row.snapshots := by
    refine Dict.ext (List.filter_eq_self.mpr fun entry recorded => ?_)
    have value : entry.2 ∈ row.snapshots.values := List.mem_map_of_mem recorded
    simpa using listed entry.2 value
  have state : (reconciled mirrorSet existing row).state = row.state := counted.trans complete.symm
  have rest : reconciled mirrorSet existing row =
      { row with
        snapshots := (reconciled mirrorSet existing row).snapshots
        state := (reconciled mirrorSet existing row).state } := rfl
  rw [rest, kept, state]

/-! ## Calls -/

/-- A call of `reconcile` that returns, aptly having listed these snapshots. -/
def Reconciles (mirrorSet : MirrorSet) (row : SnapshotSet) (existing : List String)
    (world : World) (state : SnapshotSetState) (after : World) : Prop :=
  Ends semantics (reconcile mirrorSet row) world (.ok state) after ∧
    ∃ listed, listed.map Snapshot.name = existing ∧
      after.log = ⟨world.currentJob, .listSnapshots, .ok (.snapshots listed), true⟩ :: world.log

/-- What the call leaves in the database. -/
def Database.reconcile (db : Database) (mirrorSet : MirrorSet) (row : SnapshotSet)
    (existing : List String) : Database :=
  { db with
    snapshotSets := db.snapshotSets.update row.id fun stored =>
      { stored with
        snapshots := (reconciled mirrorSet existing row).snapshots
        state := (reconciled mirrorSet existing row).state } }

section Calls

variable {world after : World} (stored : world.db.snapshotSets.get? row.id = some row)
include stored

theorem Database.get?_reconcile :
    (world.db.reconcile mirrorSet row existing).snapshotSets.get? row.id =
      some (reconciled mirrorSet existing row) := by
  rw [Database.reconcile, Table.get?_update, if_pos rfl, stored]
  rfl

theorem reconciles_iff {state : SnapshotSetState} :
    Reconciles mirrorSet row existing world state after ↔
      state = (reconciled mirrorSet existing row).state ∧
        ∃ listed reached, listed.map Snapshot.name = existing ∧
          after = { world.record .listSnapshots (.ok (.snapshots listed)) true reached with
            db := world.db.reconcile mirrorSet row existing } := by
  have call : reconcile mirrorSet row = Client.listSnapshots.bind fun snapshots =>
      (commit .request [.setSnapshotSet row.id fun stored =>
        { stored with
          snapshots := (reconciled mirrorSet (snapshots.map Snapshot.name) row).snapshots
          state := (reconciled mirrorSet (snapshots.map Snapshot.name) row).state }]).bind fun _ =>
        .done (reconciled mirrorSet (snapshots.map Snapshot.name) row).state := rfl
  have known : (world.db.snapshotSets.get? row.id).isSome = true := by rw [stored]; rfl
  unfold Reconciles
  rw [call]
  constructor
  · rintro ⟨ended, listed, named, logged⟩
    obtain ⟨snapshots, middle, asked, ended⟩ := Coroutine.ends_bind_ok.mp ended
    obtain ⟨inserted, last, committed, ended⟩ := Coroutine.ends_bind_ok.mp ended
    obtain ⟨event, performed⟩ := Coroutine.ends_perform.mp asked
    obtain ⟨later, wrote⟩ := Coroutine.ends_perform.mp committed
    obtain ⟨same, rfl⟩ := Coroutine.ends_done.mp ended
    rcases World.commit_request wrote with ⟨error, failed, -⟩ | ⟨db, keys, done, -, rfl⟩
    · cases failed
    · obtain ⟨body, reached, -, parsed, rfl⟩ := Op.replied_of_ok performed
      cases body <;> cases parsed
      simp only [World.record, List.cons.injEq, Entry.mk.injEq, Except.ok.injEq,
        Reply.snapshots.injEq] at logged
      obtain ⟨⟨-, -, rfl, -⟩, -⟩ := logged
      subst named
      rw [World.record, Database.commit_setSnapshotSet _ known] at done
      cases done
      exact ⟨Except.ok.inj same, snapshots, reached, rfl, rfl⟩
  · rintro ⟨rfl, listed, reached, rfl, rfl⟩
    refine ⟨Coroutine.ends_bind_ok.mpr ⟨listed, _, Coroutine.ends_perform.mpr
      ⟨.reply (.snapshots listed) reached, rfl⟩, ?_⟩, listed, rfl, rfl⟩
    refine Coroutine.ends_bind_ok.mpr ⟨{}, _, Coroutine.ends_perform.mpr ⟨.proceed, ?_⟩,
      Coroutine.ends_done.mpr ⟨rfl, rfl⟩⟩
    have stores := @Database.commit_setSnapshotSet world.db world.clock row.id (fun stored =>
      { stored with
        snapshots := (reconciled mirrorSet (listed.map Snapshot.name) row).snapshots
        state := (reconciled mirrorSet (listed.map Snapshot.name) row).state }) known
    simp only [semantics, Op.perform, World.commit, World.broken, Bool.false_eq_true, if_false,
      World.record, stores]
    rfl

end Calls

/-- What a call says and leaves is right, judged by the listing. -/
structure Truthful (mirrorSet : MirrorSet) (existing : List String) (row left : SnapshotSet)
    (state : SnapshotSetState) : Prop where
  kept : left.snapshots.entries = row.snapshots.entries.filter fun entry => entry.2 ∈ existing
  recorded : left.state = state
  verdict : state = .complete ↔ ∀ name ∈ mirrorSet.expectedMirrors, row.Covers existing name
  untouched : row.LeftBy mirrorSet → row.state = .complete →
    (∀ snapshot ∈ row.snapshots.values, snapshot ∈ existing) → left = row

theorem covers_of_leftBy (left : row.LeftBy mirrorSet) (complete : row.state = .complete)
    (listed : ∀ snapshot ∈ row.snapshots.values, snapshot ∈ existing) :
    ∀ name ∈ mirrorSet.expectedMirrors, row.Covers existing name := by
  intro name expected
  obtain ⟨snapshot, recorded⟩ := Dict.mem_keys_iff.mp (left.records.all complete name expected)
  exact ⟨snapshot, listed snapshot (Dict.mem_values_iff.mpr ⟨name, recorded⟩), recorded⟩

/-- The verdict is the only thing that can be wrong, and it is for a grid that repeats a name. -/
theorem truthful_iff (only : ∀ name ∈ row.snapshots.keys, name ∈ mirrorSet.expectedMirrors) :
    Truthful mirrorSet existing row (reconciled mirrorSet existing row)
        (reconciled mirrorSet existing row).state ↔
      mirrorSet.expectedMirrors.Nodup ∨
        ∃ name ∈ mirrorSet.expectedMirrors, ¬ row.Covers existing name := by
  have counted := @reconciled_complete_iff mirrorSet row existing only
  constructor
  · intro truthful
    by_cases covered : ∀ name ∈ mirrorSet.expectedMirrors, row.Covers existing name
    · exact .inl (counted.mp (truthful.verdict.mpr covered)).2
    · right
      simpa using covered
  · intro judged
    have verdict : (reconciled mirrorSet existing row).state = .complete ↔
        ∀ name ∈ mirrorSet.expectedMirrors, row.Covers existing name := by
      rw [counted]
      constructor
      · exact And.left
      · intro covered
        rcases judged with distinct | ⟨name, expected, missing⟩
        · exact ⟨covered, distinct⟩
        · exact absurd (covered name expected) missing
    refine ⟨rfl, rfl, verdict, fun left complete listed => ?_⟩
    have covered := covers_of_leftBy left complete listed
    exact reconciled_eq_self complete (verdict.mpr covered) listed

/-- Every call tells the truth about what aptly lists, and a second one with the same listing
changes nothing, exactly when the expected names are pairwise different or one is not covered. -/
theorem reconcile_truthful_iff {world : World}
    (stored : world.db.snapshotSets.get? row.id = some row)
    (only : ∀ name ∈ row.snapshots.keys, name ∈ mirrorSet.expectedMirrors)
    (existing : List String) :
    (∀ state after, Reconciles mirrorSet row existing world state after →
      ∃ left, after.db.snapshotSets.get? row.id = some left ∧
        Truthful mirrorSet existing row left state ∧
        ∀ again later, Reconciles mirrorSet left existing after again later →
          again = state ∧ later.db.snapshotSets.get? row.id = some left) ↔
      mirrorSet.expectedMirrors.Nodup ∨
        ∃ name ∈ mirrorSet.expectedMirrors, ¬ row.Covers existing name := by
  rw [← truthful_iff only]
  constructor
  · intro tells
    have named : (existing.map Snapshot.mk).map Snapshot.name = existing := by
      simp [List.map_map, Function.comp_def]
    obtain ⟨left, found, truthful, -⟩ := tells _ _ ((reconciles_iff stored).mpr
      ⟨rfl, existing.map Snapshot.mk, world.aptly, named, rfl⟩)
    rw [Database.get?_reconcile stored] at found
    cases found
    exact truthful
  · rintro truthful state after returned
    obtain ⟨rfl, listed, reached, named, rfl⟩ := (reconciles_iff stored).mp returned
    have left := @Database.get?_reconcile mirrorSet row existing world stored
    refine ⟨_, left, truthful, fun again later second => ?_⟩
    obtain ⟨rfl, -, -, -, rfl⟩ := (reconciles_iff left).mp second
    rw [reconciled_reconciled]
    refine ⟨rfl, ?_⟩
    have kept := @Database.get?_reconcile mirrorSet (reconciled mirrorSet existing row) existing
      { world with db := world.db.reconcile mirrorSet row existing } left
    rwa [reconciled_reconciled] at kept

namespace Sample

/-- What an update has recorded of the mirror `stable-main`. -/
def recordedSet : SnapshotSet where
  id := 1
  mirrorSetId := 1
  snapshots := Dict.ofList [("stable-main", "stable-main-19700101T0000Z")]
  state := .incomplete
  jobId := some 1

def reconciling : World :=
  (System.blank { Database.empty with snapshotSets := Database.empty.snapshotSets.insert recordedSet }
    mirrored).world

end Sample

theorem reconcile_truthful_iff_debian :
    Sample.reconciling.db.snapshotSets.get? 1 = some Sample.recordedSet ∧
    ∀ state after, Reconciles Sample.debian Sample.recordedSet ["stable-main-19700101T0000Z"]
        Sample.reconciling state after →
      ∃ left, after.db.snapshotSets.get? 1 = some left ∧
        Truthful Sample.debian ["stable-main-19700101T0000Z"] Sample.recordedSet left state ∧
        ∀ again later, Reconciles Sample.debian left ["stable-main-19700101T0000Z"] after again later →
          again = state ∧ later.db.snapshotSets.get? 1 = some left := by
  have stored : Sample.reconciling.db.snapshotSets.get? 1 = some Sample.recordedSet := by decide
  refine ⟨stored, ?_⟩
  exact (@reconcile_truthful_iff Sample.debian Sample.recordedSet Sample.reconciling
    stored (by decide) _).mpr (.inl (by decide))

/-- A suite named twice in the form: every expected mirror has its snapshot in the listing, and
the verdict is INCOMPLETE. -/
theorem not_reconcile_truthful :
    ¬ ∀ (form : SetForm) (row : SnapshotSet) (existing : List String) (world : World),
      world.db.snapshotSets.get? row.id = some row →
      (∀ name ∈ row.snapshots.keys, name ∈ (form.mirrorSet false).expectedMirrors) →
      ∀ state after, Reconciles (form.mirrorSet false) row existing world state after →
        ∃ left, after.db.snapshotSets.get? row.id = some left ∧
          Truthful (form.mirrorSet false) existing row left state ∧
          ∀ again later, Reconciles (form.mirrorSet false) left existing after again later →
            again = state ∧ later.db.snapshotSets.get? row.id = some left := by
  intro tells
  let mirrorSet := (Sample.form "debian" "stable, stable").mirrorSet false
  have only : ∀ name ∈ Sample.recordedSet.snapshots.keys, name ∈ mirrorSet.expectedMirrors := by decide
  have stored : Sample.reconciling.db.snapshotSets.get? Sample.recordedSet.id = some Sample.recordedSet := by decide
  obtain ⟨left, found, truthful, -⟩ := tells (Sample.form "debian" "stable, stable") Sample.recordedSet
    ["stable-main-19700101T0000Z"] Sample.reconciling stored only _ _ ((reconciles_iff stored).mpr
      ⟨rfl, [⟨"stable-main-19700101T0000Z"⟩], Sample.mirrored, rfl, rfl⟩)
  rw [Database.get?_reconcile stored] at found
  cases found
  rcases (truthful_iff only).mp truthful with distinct | ⟨name, expected, missing⟩
  · exact absurd distinct (by decide)
  · have single : ∀ other ∈ mirrorSet.expectedMirrors, other = "stable-main" := by decide
    obtain rfl := single name expected
    exact missing ⟨_, List.mem_singleton_self _, by decide⟩

end AptlyGui
