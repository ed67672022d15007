import AptlyGui.Database.Commit

/-!
# References between rows

The foreign keys of `db/models.py`, which nothing enforces.  A commit is a list
of changes, and a reference may dangle between two of them, so the invariant of
a commit in progress allows for what its remaining changes take away.
-/

namespace AptlyGui

/-- The mirror set whose row the change deletes. -/
def Write.forgets : Write → Option Nat
  | .deleteMirrorSet id => some id
  | _ => none

/-- The changes take the reference to a mirror set from the job's row. -/
def Write.Clears (id : Nat) (writes : List Write) : Prop :=
  ∃ change, Write.setJob id change ∈ writes ∧
    ∀ (now : Time) (row : Job), (change now row).mirrorSetId = none

def Write.Discards (id : Nat) (writes : List Write) : Prop :=
  Write.deleteSnapshotSet id ∈ writes

namespace Database

/-- Every reference names a row that exists. -/
structure Linked (db : Database) : Prop where
  setsOfJobs : ∀ id job key, db.jobs.get? id = some job → job.mirrorSetId = some key →
    (db.mirrorSets.get? key).isSome = true
  setsOfSnapshotSets : ∀ id row, db.snapshotSets.get? id = some row →
    (db.mirrorSets.get? row.mirrorSetId).isSome = true
  jobsOfSnapshotSets : ∀ id row key, db.snapshotSets.get? id = some row → row.jobId = some key →
    (db.jobs.get? key).isSome = true
  jobsOfSteps : ∀ id row, db.steps.get? id = some row → (db.jobs.get? row.jobId).isSome = true

/-- The mirror set is there, and none of the changes deletes it. -/
def Stays (db : Database) (writes : List Write) (id : Nat) : Prop :=
  (db.mirrorSets.get? id).isSome = true ∧ Write.deleteMirrorSet id ∉ writes

/-- Every reference names a row that exists, but for those that the changes take away. -/
structure LinkedBut (writes : List Write) (db : Database) : Prop where
  setsOfJobs : ∀ id job key, db.jobs.get? id = some job → job.mirrorSetId = some key →
    Write.Clears id writes ∨ db.Stays writes key
  setsOfSnapshotSets : ∀ id row, db.snapshotSets.get? id = some row →
    Write.Discards id writes ∨ db.Stays writes row.mirrorSetId
  jobsOfSnapshotSets : ∀ id row key, db.snapshotSets.get? id = some row → row.jobId = some key →
    (db.jobs.get? key).isSome = true
  jobsOfSteps : ∀ id row, db.steps.get? id = some row → (db.jobs.get? row.jobId).isSome = true

/-- What the change stores refers to rows that stay, and a changed row to what it referred to. -/
def Accepts (db : Database) (writes : List Write) : Write → Prop
  | .addJob job => ∀ key, job.mirrorSetId = some key → db.Stays writes key
  | .addStep step => ∀ now, (db.jobs.get? (step now).jobId).isSome = true
  | .addSnapshotSet row => db.Stays writes row.mirrorSetId ∧
      ∀ key, row.jobId = some key → (db.jobs.get? key).isSome = true
  | .setJob _ change =>
      (∀ (now : Time) (row : Job), (change now row).mirrorSetId = row.mirrorSetId) ∨
        ∀ (now : Time) (row : Job), (change now row).mirrorSetId = none
  | .setStep _ change => ∀ (now : Time) (row : JobStep), (change now row).jobId = row.jobId
  | .setSnapshotSet _ change => ∀ row,
      (change row).mirrorSetId = row.mirrorSetId ∧ (change row).jobId = row.jobId
  | _ => True

variable {db later : Database} {now : Time} {change : Write} {rest : List Write}
  {inserted keys : Inserted}

theorem LinkedBut.linked (linked : LinkedBut [] db) : db.Linked where
  setsOfJobs id job key found named := by
    rcases linked.setsOfJobs id job key found named with ⟨_, absurd, -⟩ | stays
    · cases absurd
    · exact stays.1
  setsOfSnapshotSets id row found := by
    rcases linked.setsOfSnapshotSets id row found with absurd | stays
    · cases absurd
    · exact stays.1
  jobsOfSnapshotSets := linked.jobsOfSnapshotSets
  jobsOfSteps := linked.jobsOfSteps

theorem Stays.of_write (wrote : db.write now inserted change = .ok (later, keys)) {id : Nat}
    (stays : db.Stays (change :: rest) id) : later.Stays rest id := by
  obtain ⟨stored, kept⟩ := stays
  refine ⟨?_, fun listed => kept (List.mem_cons_of_mem _ listed)⟩
  rw [(write_tables wrote).2.2.1]
  cases change with
  | addMirrorSet row =>
      simp only [Write.onMirrorSets, Table.get?_insert]
      split
      · rfl
      · exact stored
  | deleteMirrorSet gone =>
      have other : id ≠ gone := by
        rintro rfl
        exact kept (by simp)
      simpa [Write.onMirrorSets, other] using stored
  | _ => exact stored

/-- No change deletes a job. -/
theorem job_of_write (wrote : db.write now inserted change = .ok (later, keys)) {id : Nat}
    (stored : (db.jobs.get? id).isSome = true) : (later.jobs.get? id).isSome = true := by
  rw [(write_tables wrote).1]
  cases change with
  | addJob job =>
      simp only [Write.onJobs, Table.get?_insert]
      split
      · rfl
      · exact stored
  | setJob changed edit =>
      simp only [Write.onJobs, Table.get?_update]
      split
      · rename_i same
        simpa [same] using stored
      · exact stored
  | _ => exact stored

theorem Accepts.of_write (wrote : db.write now inserted change = .ok (later, keys)) {other : Write}
    (accepts : db.Accepts (change :: rest) other) : later.Accepts rest other := by
  cases other with
  | addJob job => exact fun key named => (accepts key named).of_write wrote
  | addStep step => exact fun now => job_of_write wrote (accepts now)
  | addSnapshotSet row =>
      exact ⟨accepts.1.of_write wrote, fun key named => job_of_write wrote (accepts.2 key named)⟩
  | _ => exact accepts

/-- The reference of a job after one change. -/
theorem setOfJob_of_write (wrote : db.write now inserted change = .ok (later, keys))
    (accepts : db.Accepts (change :: rest) change) (linked : LinkedBut (change :: rest) db)
    {id key : Nat} {job : Job} (found : later.jobs.get? id = some job)
    (named : job.mirrorSetId = some key) : Write.Clears id rest ∨ later.Stays rest key := by
  have earlier : ∀ old, db.jobs.get? id = some old → old.mirrorSetId = some key →
      (∀ edit, change = .setJob id edit →
        ¬ ∀ (now : Time) (row : Job), (edit now row).mirrorSetId = none) →
      Write.Clears id rest ∨ later.Stays rest key := by
    intro old known same keeps
    rcases linked.setsOfJobs id old key known same with ⟨edit, listed, clears⟩ | stays
    · rcases List.mem_cons.mp listed with here | there
      · exact absurd clears (keeps edit here.symm)
      · exact .inl ⟨edit, there, clears⟩
    · exact .inr (stays.of_write wrote)
  rw [(write_tables wrote).1] at found
  cases change with
  | addJob row =>
      simp only [Write.onJobs, Table.get?_insert] at found
      split at found
      · cases found
        exact .inr ((accepts key named).of_write wrote)
      · exact earlier job found named nofun
  | setJob changed edit =>
      simp only [Write.onJobs, Table.get?_update] at found
      split at found
      · rename_i same
        subst same
        obtain ⟨old, known, rfl⟩ := Option.map_eq_some_iff.mp found
        have kept : ¬ ∀ (now : Time) (row : Job), (edit now row).mirrorSetId = none := by
          intro clears
          have none : (edit now old).mirrorSetId = some key := named
          rw [clears now old] at none
          cases none
        rcases accepts with same | clears
        · refine earlier old known ((same now old).symm.trans named) fun other here => ?_
          cases here
          exact kept
        · exact absurd clears kept
      · rename_i other
        refine earlier job found named fun edit here => ?_
        cases here
        exact absurd rfl other
  | _ => exact earlier job found named nofun

/-- A snapshot set that is there after one change. -/
theorem snapshotSet_of_write (wrote : db.write now inserted change = .ok (later, keys))
    (accepts : db.Accepts (change :: rest) change) {id : Nat} {row : SnapshotSet}
    (found : later.snapshotSets.get? id = some row) :
    (∃ old, db.snapshotSets.get? id = some old ∧ row.mirrorSetId = old.mirrorSetId ∧
        row.jobId = old.jobId ∧ change ≠ .deleteSnapshotSet id) ∨
      (later.Stays rest row.mirrorSetId ∧
        ∀ key, row.jobId = some key → (later.jobs.get? key).isSome = true) := by
  rw [(write_tables wrote).2.2.2] at found
  cases change with
  | addSnapshotSet added =>
      simp only [Write.onSnapshotSets, Table.get?_insert] at found
      split at found
      · cases found
        exact .inr ⟨accepts.1.of_write wrote, fun key named => job_of_write wrote (accepts.2 key named)⟩
      · exact .inl ⟨row, found, rfl, rfl, nofun⟩
  | setSnapshotSet changed edit =>
      simp only [Write.onSnapshotSets, Table.get?_update] at found
      split at found
      · rename_i same
        subst same
        obtain ⟨old, known, rfl⟩ := Option.map_eq_some_iff.mp found
        exact .inl ⟨old, known, (accepts old).1, (accepts old).2, nofun⟩
      · exact .inl ⟨row, found, rfl, rfl, nofun⟩
  | deleteSnapshotSet gone =>
      simp only [Write.onSnapshotSets, Table.get?_delete] at found
      split at found
      · cases found
      · rename_i other
        refine .inl ⟨row, found, rfl, rfl, fun same => ?_⟩
        cases same
        exact other rfl
  | _ => exact .inl ⟨row, found, rfl, rfl, nofun⟩

theorem LinkedBut.of_write (wrote : db.write now inserted change = .ok (later, keys))
    (accepts : db.Accepts (change :: rest) change) (linked : LinkedBut (change :: rest) db) :
    LinkedBut rest later where
  setsOfJobs id job key found named := setOfJob_of_write wrote accepts linked found named
  setsOfSnapshotSets id row found := by
    rcases snapshotSet_of_write wrote accepts found with ⟨old, known, same, -, kept⟩ | ⟨stays, -⟩
    · rcases linked.setsOfSnapshotSets id old known with listed | stays
      · rcases List.mem_cons.mp listed with here | there
        · exact absurd here.symm kept
        · exact .inl there
      · rw [same]
        exact .inr (stays.of_write wrote)
    · exact .inr stays
  jobsOfSnapshotSets id row key found named := by
    rcases snapshotSet_of_write wrote accepts found with ⟨old, known, -, same, -⟩ | ⟨-, stored⟩
    · exact job_of_write wrote (linked.jobsOfSnapshotSets id old key known (same.symm.trans named))
    · exact stored key named
  jobsOfSteps id row found := by
    rw [(write_tables wrote).2.1] at found
    cases change with
    | addStep step =>
        simp only [Write.onSteps, Table.get?_insert] at found
        split at found
        · cases found
          exact job_of_write wrote (accepts now)
        · exact job_of_write wrote (linked.jobsOfSteps id row found)
    | setStep changed edit =>
        simp only [Write.onSteps, Table.get?_update] at found
        split at found
        · rename_i same
          subst same
          obtain ⟨old, known, rfl⟩ := Option.map_eq_some_iff.mp found
          change (later.jobs.get? (edit now old).jobId).isSome = true
          rw [accepts now old]
          exact job_of_write wrote (linked.jobsOfSteps id old known)
        · exact job_of_write wrote (linked.jobsOfSteps id row found)
    | _ => exact job_of_write wrote (linked.jobsOfSteps id row found)

/-- A commit that is accepted leaves no reference dangling. -/
theorem linked_of_writeAll {writes : List Write} (linked : LinkedBut writes db)
    (accepted : ∀ change ∈ writes, db.Accepts writes change)
    (committed : db.writeAll now inserted writes = .ok (later, keys)) : later.Linked := by
  induction writes generalizing db inserted with
  | nil =>
      cases committed
      exact linked.linked
  | cons change rest inductionHypothesis =>
      rw [writeAll] at committed
      split at committed
      · rename_i middle handed wrote
        refine inductionHypothesis (linked.of_write wrote (accepted change (by simp)))
          (fun other listed => ?_) committed
        exact (accepted other (List.mem_cons_of_mem _ listed)).of_write wrote
      · cases committed

/-- Without references that dangle a commit may delete a mirror set that nothing else names. -/
theorem Linked.but {writes : List Write} (linked : db.Linked)
    (jobs : ∀ gone, Write.deleteMirrorSet gone ∈ writes → ∀ id job, db.jobs.get? id = some job →
      job.mirrorSetId = some gone → Write.Clears id writes)
    (snapshotSets : ∀ gone, Write.deleteMirrorSet gone ∈ writes → ∀ id row,
      db.snapshotSets.get? id = some row → row.mirrorSetId = gone → Write.Discards id writes) :
    LinkedBut writes db where
  setsOfJobs id job key found named := by
    by_cases deleted : Write.deleteMirrorSet key ∈ writes
    · exact .inl (jobs key deleted id job found named)
    · exact .inr ⟨linked.setsOfJobs id job key found named, deleted⟩
  setsOfSnapshotSets id row found := by
    by_cases deleted : Write.deleteMirrorSet row.mirrorSetId ∈ writes
    · exact .inl (snapshotSets _ deleted id row found rfl)
    · exact .inr ⟨linked.setsOfSnapshotSets id row found, deleted⟩
  jobsOfSnapshotSets := linked.jobsOfSnapshotSets
  jobsOfSteps := linked.jobsOfSteps

end Database

end AptlyGui
