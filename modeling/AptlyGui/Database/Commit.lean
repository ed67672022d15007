import AptlyGui.Database.Model

/-!
# What each commit comes to

What one change does to each table, and one equation for each list of changes
that a job commits, under the condition that the rows it changes are there.
-/

namespace AptlyGui

/-! ## Tables -/

namespace Write

def onJobs (now : Time) (table : Table Job) : Write → Table Job
  | .addJob job => table.insert job
  | .setJob id change => table.update id (change now)
  | _ => table

def onSteps (now : Time) (table : Table JobStep) : Write → Table JobStep
  | .addStep step => table.insert (step now)
  | .setStep id change => table.update id (change now)
  | _ => table

def onMirrorSets (table : Table MirrorSet) : Write → Table MirrorSet
  | .addMirrorSet mirrorSet => table.insert mirrorSet
  | .deleteMirrorSet id => table.delete id
  | _ => table

def onSnapshotSets (now : Time) (table : Table SnapshotSet) : Write → Table SnapshotSet
  | .addSnapshotSet row => table.insert { row with takenAt := now }
  | .setSnapshotSet id change => table.update id change
  | .deleteSnapshotSet id => table.delete id
  | _ => table

end Write

namespace Database

variable {db : Database} {now : Time}

/-- A change that does not raise does to each table what it says. -/
theorem write_tables {change : Write} {after : Database} {inserted keys : Inserted}
    (wrote : db.write now inserted change = .ok (after, keys)) :
    after.jobs = change.onJobs now db.jobs ∧ after.steps = change.onSteps now db.steps ∧
      after.mirrorSets = change.onMirrorSets db.mirrorSets ∧
      after.snapshotSets = change.onSnapshotSets now db.snapshotSets := by
  cases change with
  | addJob job =>
      cases wrote
      exact ⟨rfl, rfl, rfl, rfl⟩
  | addStep step =>
      cases wrote
      exact ⟨rfl, rfl, rfl, rfl⟩
  | addMirrorSet mirrorSet =>
      simp only [write] at wrote
      split at wrote
      · cases wrote
      · cases wrote
        exact ⟨rfl, rfl, rfl, rfl⟩
  | addSnapshotSet row =>
      simp only [write] at wrote
      split at wrote
      · cases wrote
      · cases wrote
        exact ⟨rfl, rfl, rfl, rfl⟩
  | addAudit entry =>
      cases wrote
      exact ⟨rfl, rfl, rfl, rfl⟩
  | setJob id change =>
      simp only [write] at wrote
      split at wrote
      · cases wrote
      · cases wrote
        exact ⟨rfl, rfl, rfl, rfl⟩
  | setStep id change =>
      simp only [write] at wrote
      split at wrote
      · cases wrote
      · cases wrote
        exact ⟨rfl, rfl, rfl, rfl⟩
  | setSnapshotSet id change =>
      simp only [write] at wrote
      split at wrote
      · cases wrote
      · cases wrote
        exact ⟨rfl, rfl, rfl, rfl⟩
  | deleteMirrorSet id =>
      cases wrote
      exact ⟨rfl, rfl, rfl, rfl⟩
  | deleteSnapshotSet id =>
      cases wrote
      exact ⟨rfl, rfl, rfl, rfl⟩

/-- A commit keeps what each of its changes keeps. -/
theorem writeAll_induction {related : Database → Database → Prop}
    (refl : ∀ db, related db db)
    (trans : ∀ {first second third}, related first second → related second third →
      related first third)
    {writes : List Write} {db after : Database} {inserted keys : Inserted}
    (single : ∀ change ∈ writes, ∀ db inserted after keys,
      db.write now inserted change = .ok (after, keys) → related db after)
    (committed : db.writeAll now inserted writes = .ok (after, keys)) : related db after := by
  induction writes generalizing db inserted with
  | nil =>
      simp only [writeAll, Except.ok.injEq, Prod.mk.injEq] at committed
      rw [← committed.1]
      exact refl db
  | cons change rest inductionHypothesis =>
      rw [writeAll] at committed
      split at committed
      · rename_i middle handed wrote
        have later := inductionHypothesis
          (fun other membership => single other (List.mem_cons_of_mem _ membership)) committed
        exact trans (single change (by simp) db inserted middle handed wrote) later
      · simp at committed

/-- A commit that does not raise does so with each of its changes in turn. -/
theorem writeAll_tables {writes : List Write} {after : Database} {inserted keys : Inserted}
    (committed : db.writeAll now inserted writes = .ok (after, keys)) :
    after.jobs = writes.foldl (Write.onJobs now) db.jobs ∧
      after.steps = writes.foldl (Write.onSteps now) db.steps ∧
      after.mirrorSets = writes.foldl Write.onMirrorSets db.mirrorSets ∧
      after.snapshotSets = writes.foldl (Write.onSnapshotSets now) db.snapshotSets := by
  induction writes generalizing db inserted with
  | nil =>
      cases committed
      exact ⟨rfl, rfl, rfl, rfl⟩
  | cons change rest inductionHypothesis =>
      rw [writeAll] at committed
      split at committed
      · rename_i middle handed wrote
        obtain ⟨jobs, steps, mirrorSets, snapshotSets⟩ := write_tables wrote
        simp only [List.foldl_cons, ← jobs, ← steps, ← mirrorSets, ← snapshotSets]
        exact inductionHypothesis committed
      · cases committed

/-! ## Commits -/

theorem commit_addStep (row : Time → JobStep) :
    db.commit now [.addStep row] =
      .ok ({ db with steps := db.steps.insert (row now) }, { step := db.steps.nextId }) := rfl

theorem commit_addSnapshotSet (row : SnapshotSet)
    (alone : db.takenTwice now row.mirrorSetId = false) :
    db.commit now [.addSnapshotSet row] =
      .ok ({ db with snapshotSets := db.snapshotSets.insert { row with takenAt := now } },
        { snapshotSet := db.snapshotSets.nextId }) := by
  simp [commit, writeAll, write, alone]

theorem commit_addSnapshotSet_of_takenTwice (row : SnapshotSet)
    (twice : db.takenTwice now row.mirrorSetId = true) :
    db.commit now [.addSnapshotSet row] = .error .integrityError := by
  simp [commit, writeAll, write, twice]

theorem inserted_of_addSnapshotSet {row : SnapshotSet} {after : Database} {inserted : Inserted}
    (committed : db.commit now [.addSnapshotSet row] = .ok (after, inserted)) :
    inserted.snapshotSet = db.snapshotSets.nextId := by
  cases alone : db.takenTwice now row.mirrorSetId with
  | true =>
      rw [commit_addSnapshotSet_of_takenTwice row alone] at committed
      cases committed
  | false =>
      rw [commit_addSnapshotSet row alone] at committed
      cases committed
      rfl

theorem commit_deleteSnapshotSet (id : Nat) :
    db.commit now [.deleteSnapshotSet id] =
      .ok ({ db with snapshotSets := db.snapshotSets.delete id }, {}) := rfl

theorem commit_setStep {id : Nat} (change : Time → JobStep → JobStep)
    (recorded : (db.steps.get? id).isSome = true) :
    db.commit now [.setStep id change] =
      .ok ({ db with steps := db.steps.update id (change now) }, {}) := by
  obtain ⟨row, found⟩ := Option.isSome_iff_exists.mp recorded
  simp [commit, writeAll, write, found]

theorem commit_setSnapshotSet {id : Nat} (change : SnapshotSet → SnapshotSet)
    (stored : (db.snapshotSets.get? id).isSome = true) :
    db.commit now [.setSnapshotSet id change] =
      .ok ({ db with snapshotSets := db.snapshotSets.update id change }, {}) := by
  obtain ⟨row, found⟩ := Option.isSome_iff_exists.mp stored
  simp [commit, writeAll, write, found]

theorem commit_recordSnapshot {id step : Nat} (change : SnapshotSet → SnapshotSet)
    (ending : Time → JobStep → JobStep) (stored : (db.snapshotSets.get? id).isSome = true)
    (recorded : (db.steps.get? step).isSome = true) :
    db.commit now [.setSnapshotSet id change, .setStep step ending] =
      .ok ({ db with
        snapshotSets := db.snapshotSets.update id change
        steps := db.steps.update step (ending now) }, {}) := by
  obtain ⟨row, found⟩ := Option.isSome_iff_exists.mp stored
  obtain ⟨old, known⟩ := Option.isSome_iff_exists.mp recorded
  simp [commit, writeAll, write, found, known]

theorem commit_setJob {id : Nat} (change : Time → Job → Job) (rest : List Write)
    (stored : (db.jobs.get? id).isSome = true) :
    db.commit now (.setJob id change :: rest) =
      ({ db with jobs := db.jobs.update id (change now) } : Database).commit now rest := by
  obtain ⟨row, found⟩ := Option.isSome_iff_exists.mp stored
  simp [commit, writeAll, write, found]

/-- The same change of several steps. -/
theorem commit_setSteps (steps : List JobStep) (change : Time → JobStep → JobStep)
    (recorded : ∀ step ∈ steps, (db.steps.get? step.id).isSome = true) :
    db.commit now (steps.map fun step => .setStep step.id change) =
      .ok ({ db with
        steps := steps.foldl (fun table step => table.update step.id (change now)) db.steps }, {}) := by
  induction steps generalizing db with
  | nil => rfl
  | cons step rest inductionHypothesis =>
      obtain ⟨row, found⟩ := Option.isSome_iff_exists.mp (recorded step (by simp))
      have kept : ∀ other ∈ rest,
          ((db.steps.update step.id (change now)).get? other.id).isSome = true := by
        intro other listed
        have known := recorded other (List.mem_cons_of_mem _ listed)
        by_cases same : other.id = step.id
        · simp [same, found]
        · simpa [same] using known
      have later := @inductionHypothesis
        { db with steps := db.steps.update step.id (change now) } kept
      simp only [commit] at later ⊢
      simp only [List.map_cons, writeAll, write, found, Option.isNone_some, Bool.false_eq_true,
        if_false, later]
      rfl

/-- A change of a job together with the end of all its running steps. -/
theorem commit_closeRunning {jobId : Nat} (change : Time → Job → Job)
    (ending : Time → JobStep → JobStep) (stored : (db.jobs.get? jobId).isSome = true) :
    db.commit now (.setJob jobId change ::
      (db.steps.rows.filter fun row => row.jobId = jobId ∧ row.state = .running).map
        fun step => .setStep step.id ending) =
      .ok ({ db with
        jobs := db.jobs.update jobId (change now)
        steps := (db.steps.rows.filter fun row => row.jobId = jobId ∧ row.state = .running).foldl
          (fun table step => table.update step.id (ending now)) db.steps }, {}) :=
  (commit_setJob change _ stored).trans
    (@commit_setSteps { db with jobs := db.jobs.update jobId (change now) } now _ ending
      fun _ listed => Option.isSome_of_eq_some (Table.mem_rows_iff.mp (List.mem_of_mem_filter listed)))

/-- Forgetting a mirror set together with the snapshot sets it owns. -/
theorem commit_forget (owned : List SnapshotSet) (id : Nat) :
    db.commit now (owned.map (fun row => .deleteSnapshotSet row.id) ++ [.deleteMirrorSet id]) =
      .ok ({ db with
        snapshotSets := owned.foldl (fun sets row => sets.delete row.id) db.snapshotSets
        mirrorSets := db.mirrorSets.delete id }, {}) := by
  induction owned generalizing db with
  | nil => rfl
  | cons row rest inductionHypothesis =>
      exact @inductionHypothesis { db with snapshotSets := db.snapshotSets.delete row.id }

end Database

end AptlyGui
