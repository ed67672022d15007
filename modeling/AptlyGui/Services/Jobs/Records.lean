import AptlyGui.Services.Jobs.Frame
import AptlyGui.Rules
import Mathlib.Data.List.Perm.Subperm

/-!
# What an update records

Whatever becomes of an UPDATE job, the snapshot set it has added records
snapshots of mirrors of its mirror set only, and it is COMPLETE only when it
records one for each of them.  Reconciling keeps it so.
-/

namespace AptlyGui

open Coroutine (Contract Safe Uses)

/-- The suites and components in the order in which jobs go through them. -/
def MirrorSet.pairs (mirrorSet : MirrorSet) : List (String × String) :=
  (orderSuites mirrorSet.suites).flatMap fun suite =>
    mirrorSet.components.map fun component => (suite, component)

theorem MirrorSet.mem_pairs {mirrorSet : MirrorSet} {pair : String × String} :
    pair ∈ mirrorSet.pairs ↔ pair.1 ∈ mirrorSet.suites ∧ pair.2 ∈ mirrorSet.components := by
  obtain ⟨suite, component⟩ := pair
  simp [pairs]

theorem MirrorSet.mem_expectedMirrors_iff_pairs {mirrorSet : MirrorSet} {name : String} :
    name ∈ mirrorSet.expectedMirrors ↔
      ∃ pair ∈ mirrorSet.pairs, mirrorSet.mirrorName pair.1 pair.2 = name := by
  simp only [mem_expectedMirrors, mem_pairs, Prod.exists]
  tauto

theorem MirrorSet.length_pairs (mirrorSet : MirrorSet) :
    mirrorSet.pairs.length = mirrorSet.suites.length * mirrorSet.components.length := by
  simp [pairs, List.length_flatMap]

theorem MirrorSet.length_expectedMirrors (mirrorSet : MirrorSet) :
    mirrorSet.expectedMirrors.length = mirrorSet.suites.length * mirrorSet.components.length := by
  simp [expectedMirrors, List.length_flatMap]

/-- Two nested loops over suites and components are one over their pairs. -/
theorem MirrorSet.foldEach_pairs (mirrorSet : MirrorSet) {State : Type} (state : State)
    (body : State → String → String → Program State) :
    (Coroutine.foldEach (orderSuites mirrorSet.suites) state fun next suite =>
      Coroutine.foldEach mirrorSet.components next fun next component =>
        body next suite component) =
      Coroutine.foldEach mirrorSet.pairs state fun next pair => body next pair.1 pair.2 := by
  rw [pairs, ← Coroutine.foldEach_flatMap]
  congr 1
  funext next suite
  exact Coroutine.foldEach_map mirrorSet.components (fun component => (suite, component)) next
    fun next pair => body next pair.1 pair.2

namespace JobRunner

variable {self : JobRunner} {jobId : Nat} {mirrorSet : MirrorSet}

theorem sync_eq : self.sync jobId mirrorSet =
    Coroutine.forEach mirrorSet.pairs fun pair => self.syncEach jobId mirrorSet pair.1 pair.2 :=
  mirrorSet.foldEach_pairs () fun _ suite component => self.syncEach jobId mirrorSet suite component

theorem createAll_eq {existing : List String} :
    (Coroutine.forEach (orderSuites mirrorSet.suites) fun suite =>
      Coroutine.forEach mirrorSet.components fun component =>
        createEach jobId mirrorSet existing suite component) =
      Coroutine.forEach mirrorSet.pairs fun pair =>
        createEach jobId mirrorSet existing pair.1 pair.2 :=
  mirrorSet.foldEach_pairs () fun _ suite component =>
    createEach jobId mirrorSet existing suite component

theorem takeSnapshots_eq {stamp : String} {snapshotSet : Nat} :
    takeSnapshots jobId mirrorSet stamp snapshotSet =
      Coroutine.foldEach mirrorSet.pairs Dict.empty fun taken pair =>
        snapshotEach jobId mirrorSet stamp snapshotSet taken pair.1 pair.2 :=
  mirrorSet.foldEach_pairs Dict.empty fun taken suite component =>
    snapshotEach jobId mirrorSet stamp snapshotSet taken suite component

theorem sync_spares : (self.sync jobId mirrorSet).Uses Op.sparesSets := by
  refine Uses.forEach fun suite _ => Uses.forEach fun component _ => ?_
  refine Uses.bind ((addStep_uses jobId _).mono fun _ => Op.sparesSets_of_bookkeeping) fun step => ?_
  refine Uses.bind (uses_op trivial) fun task => ?_
  exact (self.followTask_uses step task).mono fun _ => Op.sparesSets_of_bookkeeping

end JobRunner

/-! ## Records -/

/-- The set records snapshots of this mirror set, and of all of it when it is COMPLETE. -/
structure SnapshotSet.Records (mirrorSet : MirrorSet) (row : SnapshotSet) : Prop where
  only : ∀ name ∈ row.snapshots.keys, name ∈ mirrorSet.expectedMirrors
  all : row.state = .complete → ∀ name ∈ mirrorSet.expectedMirrors, name ∈ row.snapshots.keys

/-- As many different names as there are to expect are all of them. -/
theorem SnapshotSet.Records.reconciled {mirrorSet : MirrorSet} {row : SnapshotSet}
    (records : row.Records mirrorSet) (existing : List String) :
    (reconciled mirrorSet existing row).Records mirrorSet := by
  let present := row.snapshots.filter fun _ snapshot => decide (snapshot ∈ existing)
  have only : present.keys ⊆ mirrorSet.expectedMirrors := by
    intro name listed
    obtain ⟨snapshot, lookup⟩ := Dict.mem_keys_iff.mp listed
    rw [Dict.get?_filter, Option.filter_eq_some_iff] at lookup
    exact records.only name (Dict.mem_keys_iff.mpr ⟨snapshot, lookup.1⟩)
  refine ⟨fun name listed => only listed, fun complete name expected => ?_⟩
  have counted : present.entries.length = mirrorSet.suites.length * mirrorSet.components.length := by
    simp only [AptlyGui.reconciled] at complete
    split at complete
    · assumption
    · cases complete
  have length : mirrorSet.expectedMirrors.length ≤ present.keys.length := by
    rw [mirrorSet.length_expectedMirrors, ← counted]
    exact (List.length_map _).ge
  exact ((List.subperm_of_subset present.distinct only).perm_of_length_le length).mem_iff.mpr expected

/-- The rows that are not among the ones at first. -/
def RecordsIn (mirrorSet : MirrorSet) (origin sets : Table SnapshotSet) : Prop :=
  ∀ id row, sets.get? id = some row → origin.get? id = none → row.Records mirrorSet

section Tables

variable {mirrorSet : MirrorSet} {origin sets : Table SnapshotSet}

theorem recordsIn_refl : RecordsIn mirrorSet origin origin := by
  intro id row found absent
  rw [found] at absent
  cases absent

theorem RecordsIn.insert (records : RecordsIn mirrorSet origin sets) {row : SnapshotSet}
    (good : row.Records mirrorSet) : RecordsIn mirrorSet origin (sets.insert row) := by
  intro id other found absent
  rw [Table.get?_insert] at found
  split at found
  · cases found
    exact ⟨good.only, good.all⟩
  · exact records id other found absent

theorem RecordsIn.update (records : RecordsIn mirrorSet origin sets) {key : Nat}
    {change : SnapshotSet → SnapshotSet}
    (good : ∀ row, sets.get? key = some row → (change row).Records mirrorSet) :
    RecordsIn mirrorSet origin (sets.update key change) := by
  intro id other found absent
  rw [Table.get?_update] at found
  split at found
  · obtain ⟨row, known, rfl⟩ := Option.map_eq_some_iff.mp found
    exact ⟨(good row known).only, (good row known).all⟩
  · exact records id other found absent

end Tables

/-! ## An update on its own -/

/-- What an update keeps while nobody else moves: `kept` of the database, and `filling` of its own
row, as far as that has got. -/
structure Keeping (contract : Contract semantics) (jobId : Nat) (mirrorSet : MirrorSet)
    (kept : Database → Prop)
    (filling : Nat → List (String × String) → Dict String String → Database → Prop) : Prop where
  alone : ∀ {before after}, contract.rely before after → after = before
  guaranteed : ∀ {before after}, kept after.db → contract.guarantee before after
  lasts : ∀ {db after}, kept db → db.SameSets after → kept after
  keeps : ∀ {id done taken db}, filling id done taken db → kept db
  stays : ∀ {id done taken db after}, filling id done taken db → db.SameSets after →
    filling id done taken after
  opens : ∀ {db after now inserted}, kept db → db.commit now [.addSnapshotSet
      { mirrorSetId := mirrorSet.id, jobId := some jobId, state := .incomplete
        snapshots := Dict.empty }] = .ok (after, inserted) →
    filling inserted.snapshotSet [] Dict.empty after
  records : ∀ {id done taken db after now inserted step} {pair : String × String} {name : String},
    pair ∈ mirrorSet.pairs → filling id done taken db →
    db.commit now [.setSnapshotSet id fun row =>
        { row with snapshots := taken.set (mirrorSet.mirrorName pair.1 pair.2) name },
      endStep step .succeeded ""] = .ok (after, inserted) →
    filling id (done ++ [pair]) (taken.set (mirrorSet.mirrorName pair.1 pair.2) name) after
  completes : ∀ {id taken db after now inserted}, filling id mirrorSet.pairs taken db →
    db.commit now [.setSnapshotSet id fun row => { row with state := .complete }] =
      .ok (after, inserted) → kept after

namespace Keeping

variable {contract : Contract semantics} {jobId : Nat} {mirrorSet : MirrorSet}
  {kept : Database → Prop}
  {filling : Nat → List (String × String) → Dict String String → Database → Prop}
  {self : JobRunner} {world : World} {id : Nat}

/-- Around the commits about the row, what is known of the sets stays known. -/
theorem safe_spares (keeping : Keeping contract jobId mirrorSet kept filling) {α : Type}
    {program : Program α} {holds : Database → Prop} (spares : program.Uses Op.sparesSets)
    (lasts : ∀ {db after}, holds db → db.SameSets after → holds after)
    (keeps : ∀ {db}, holds db → kept db) (held : holds world.db) :
    Safe contract (fun _ after => holds after.db) (fun _ after => kept after.db) program world := by
  refine (Safe.of_uses (fun after => holds after.db) spares held ?_ ?_).mono
    (fun _ _ held => held) fun _ _ held => keeps held
  · intro before after held passed
    rw [keeping.alone passed]
    exact held
  · rintro op before outcome after silent held ⟨event, -, performed⟩
    have still := lasts held (Op.sameSets silent performed)
    exact ⟨keeping.guaranteed (keeps still), still⟩

theorem safe_stores (keeping : Keeping contract jobId mirrorSet kept filling) {writes : List Write}
    {next : Inserted → Database → Prop} (held : kept world.db)
    (stores : ∀ db inserted, world.db.commit world.clock writes = .ok (db, inserted) →
      kept db ∧ next inserted db) :
    Safe contract (fun inserted after => next inserted after.db) (fun _ after => kept after.db)
      (commit .job writes) world := by
  have failing : ∀ {error : Exn} {after : World}, kept after.db →
      Coroutine.Settles contract (fun inserted after => next inserted after.db)
        (fun _ after => kept after.db) world (.error error) after := by
    intro error after held
    refine .error (keeping.guaranteed held) fun later passed => ?_
    rw [keeping.alone passed]
    exact held
  apply safe_commit
  · intro db inserted _ _ committed
    obtain ⟨held, follows⟩ := stores db inserted committed
    refine .ok (keeping.guaranteed held) fun later passed => ?_
    rw [keeping.alone passed]
    exact follows
  · exact fun _ _ _ _ => failing held
  · exact fun _ _ => failing held
  · exact fun _ _ _ => ⟨failing held, fun db inserted _ committed =>
      failing (stores db inserted committed).1⟩

theorem safe_snapshotEach (keeping : Keeping contract jobId mirrorSet kept filling)
    {done : List (String × String)} {taken : Dict String String} {stamp : String}
    {pair : String × String} (listed : pair ∈ mirrorSet.pairs)
    (going : filling id done taken world.db) :
    Safe contract (fun taken after => filling id (done ++ [pair]) taken after.db)
      (fun _ after => kept after.db)
      (JobRunner.snapshotEach jobId mirrorSet stamp id taken pair.1 pair.2) world := by
  unfold JobRunner.snapshotEach
  have noted := (addStep_uses jobId
    s!"Snapshot {mirrorSet.mirrorName pair.1 pair.2}-{stamp}").mono
      fun _ => Op.sparesSets_of_bookkeeping
  refine Safe.bind (keeping.safe_spares noted keeping.stays keeping.keeps going)
    fun step before going => ?_
  refine Safe.bind (keeping.safe_spares (uses_op trivial) keeping.stays keeping.keeps going)
    fun _ ready going => ?_
  refine Safe.bind (@safe_stores _ _ _ _ _ _ keeping _ (fun _ db => filling id (done ++ [pair])
    (taken.set (mirrorSet.mirrorName pair.1 pair.2)
      s!"{mirrorSet.mirrorName pair.1 pair.2}-{stamp}") db) (keeping.keeps going) ?_) ?_
  · intro db inserted committed
    have next := keeping.records listed going committed
    exact ⟨keeping.keeps next, next⟩
  · exact fun _ _ next => next

theorem safe_takeSnapshots (keeping : Keeping contract jobId mirrorSet kept filling) {stamp : String}
    (going : filling id [] Dict.empty world.db) :
    Safe contract (fun taken after => filling id mirrorSet.pairs taken after.db)
      (fun _ after => kept after.db) (JobRunner.takeSnapshots jobId mirrorSet stamp id) world := by
  rw [JobRunner.takeSnapshots_eq]
  refine (Safe.foldEach (fun rest taken after => ∃ done, mirrorSet.pairs = done ++ rest ∧
    filling id done taken after.db) ⟨[], rfl, going⟩ ?_).mono ?_ fun _ _ failed => failed
  · rintro pair rest taken before ⟨done, whole, going⟩
    have listed : pair ∈ mirrorSet.pairs := by
      rw [whole]
      simp
    refine (keeping.safe_snapshotEach listed going).mono
      (fun _ after next => ⟨done ++ [pair], ?_, next⟩) fun _ _ failed => failed
    rw [whole, List.append_assoc]
    rfl
  · rintro taken after ⟨done, whole, going⟩
    rw [List.append_nil] at whole
    rw [whole]
    exact going

theorem safe_update (keeping : Keeping contract jobId mirrorSet kept filling)
    (held : kept world.db) :
    Safe contract (fun _ after => kept after.db) (fun _ after => kept after.db)
      (self.update jobId mirrorSet) world := by
  unfold JobRunner.update
  have preflight := (self.preflight_uses jobId mirrorSet).mono fun _ => Op.sparesSets_of_bookkeeping
  refine Safe.bind (keeping.safe_spares preflight keeping.lasts id held) fun _ checked held => ?_
  refine Safe.bind (keeping.safe_spares (uses_op trivial) keeping.lasts id held)
    fun moment before held => ?_
  refine Safe.bind (@safe_stores _ _ _ _ _ _ keeping _
    (fun inserted db => filling inserted.snapshotSet [] Dict.empty db) held ?_)
    fun inserted opened going => ?_
  · intro db inserted committed
    have going := keeping.opens held committed
    exact ⟨keeping.keeps going, going⟩
  refine Safe.bind (keeping.safe_spares JobRunner.sync_spares keeping.stays keeping.keeps going)
    fun _ synced going => ?_
  refine Safe.bind (keeping.safe_takeSnapshots going) fun taken last going => ?_
  refine Safe.bind (@safe_stores _ _ _ _ _ _ keeping _ (fun _ db => kept db)
    (keeping.keeps going) ?_) fun _ _ held => held
  intro db inserted committed
  have held := keeping.completes going committed
  exact ⟨held, held⟩

/-- What closes a job leaves the sets as they are. -/
theorem safe_closes (keeping : Keeping contract jobId mirrorSet kept filling)
    {program : Program Unit} (closes : program.Uses (Op.closes jobId)) (held : kept world.db) :
    Safe contract (fun _ _ => True) (fun _ _ => True) program world :=
  (keeping.safe_spares (closes.mono fun _ => Op.sparesSets_of_closes) keeping.lasts id held).mono
    (fun _ _ _ => trivial) fun _ _ _ => trivial

/-- The frame around a job's work: it begins, is supervised and is closed. -/
theorem safe_runLoaded (keeping : Keeping contract jobId mirrorSet kept filling) {job : Job}
    (working : ∀ {before}, kept before.db → Safe contract (fun _ after => kept after.db)
      (fun _ after => kept after.db) (self.execute jobId job mirrorSet) before)
    (held : kept world.db) :
    Safe contract (fun _ _ => True) (fun _ _ => True)
      (self.runLoaded jobId job (some mirrorSet)) world := by
  unfold JobRunner.runLoaded
  rw [if_neg (by simp)]
  refine Safe.bind ((keeping.safe_spares (uses_op ?_) keeping.lasts id held).mono
    (fun _ _ held => held) fun _ _ _ => trivial) fun _ begun held => ?_
  · simp [Op.sparesSets, Write.sparesSets]
  · have settling : ∀ state error, state ≠ .queued →
        (JobRunner.settle jobId job (some mirrorSet) state error).Uses (Op.closes jobId) :=
      fun _ error ended => JobRunner.settle_uses jobId job _ error ended
    apply safe_supervise (fun after => kept after.db) (fun _ after => kept after.db) (working held)
    · intro after held
      exact keeping.safe_closes (settling _ _ (by decide)) held
    · intro error after _ held
      apply keeping.safe_closes _ held
      refine Uses.bind (JobRunner.failRunningSteps_uses jobId error.text).attempt fun recorded => ?_
      exact Uses.bind (settling _ _ (by decide)) fun _ => Coroutine.uses_ofExcept recorded
    · intro error after _ held
      apply keeping.safe_closes _ held
      exact Uses.bind (settling _ _ (by decide)) fun _ => trivial

end Keeping

/-- A job that runs alone loads what its ids name. -/
theorem safe_runJob_alone {contract : Contract semantics} {self : JobRunner} {jobId : Nat} {job : Job}
    {world : World} (alone : ∀ {before after}, contract.rely before after → after = before)
    (guaranteed : ∀ {before after}, after.db = world.db → contract.guarantee before after)
    (stored : world.db.jobs.get? jobId = some job)
    (loads : ∀ {after}, after.db = world.db → Safe contract (fun _ _ => True) (fun _ _ => True)
      (self.runLoaded jobId job (job.mirrorSetIn world.db)) after) :
    Safe contract (fun _ _ => True) (fun _ _ => True) (self.runJob jobId) world := by
  have begins : Safe contract (fun (_ : Unit) after => after.db = world.db) (fun _ _ => True)
      (beginJob jobId) world := by
    apply safe_beginJob
    refine .ok (guaranteed rfl) fun later passed => ?_
    rw [alone passed]
  have reads : ∀ (op : Op) (value : World → op.Ret) {before : World}, before.db = world.db →
      (∀ event, op.perform event before = before.query .job (value before) event) →
      Safe contract (fun found after => found = value before ∧ after.db = world.db)
        (fun _ _ => True) (perform op) before := by
    intro op value before same asked
    apply safe_query op value asked
    · intro _ _
      refine .ok (guaranteed same) fun later passed => ⟨rfl, ?_⟩
      rw [alone passed]
      exact same
    · exact fun _ _ => .error (guaranteed same) fun _ _ => trivial
    · exact fun _ _ _ => .error (guaranteed same) fun _ _ => trivial
  refine Safe.bind begins fun _ ready same => ?_
  refine Safe.bind (reads (.getJob .job jobId) (fun world => world.db.jobs.get? jobId) same
    fun _ => rfl) ?_
  rintro _ before ⟨rfl, still⟩
  rw [same, stored]
  dsimp only
  unfold Job.mirrorSetIn at loads
  cases named : job.mirrorSetId with
  | none =>
      rw [named] at loads
      exact loads still
  | some mirrorSetId =>
      rw [named] at loads
      refine Safe.bind (reads (.getMirrorSet .job mirrorSetId)
        (fun world => world.db.mirrorSets.get? mirrorSetId) still fun _ => rfl) ?_
      rintro _ last ⟨rfl, unmoved⟩
      rw [still]
      exact loads unmoved

namespace Recording

/-- Nobody else moves; what the update has added records what it should. -/
def contract (mirrorSet : MirrorSet) (origin : Table SnapshotSet) : Contract semantics where
  allowed _ _ _ := True
  rely before after := after = before
  guarantee _ after := RecordsIn mirrorSet origin after.db.snapshotSets
  rely_refl _ := rfl
  rely_trans before after := after.trans before

/-- The update's own row, as far as it has got. -/
structure Open (mirrorSet : MirrorSet) (origin : Table SnapshotSet) (id : Nat)
    (done : List (String × String)) (taken : Dict String String) (sets : Table SnapshotSet) : Prop where
  records : RecordsIn mirrorSet origin sets
  row : ∃ row, sets.get? id = some row ∧ row.state = .incomplete ∧ row.snapshots = taken
  listed : ∀ pair ∈ done, pair ∈ mirrorSet.pairs
  taken : ∀ name, name ∈ taken.keys ↔ ∃ pair ∈ done, mirrorSet.mirrorName pair.1 pair.2 = name

variable {mirrorSet : MirrorSet} {origin sets : Table SnapshotSet} {world : World}
  {self : JobRunner} {jobId id : Nat} {done : List (String × String)} {taken : Dict String String}

/-- How the update raises: what it has added is as it should be. -/
abbrev Raised (mirrorSet : MirrorSet) (origin : Table SnapshotSet) (_ : Exn) (world : World) : Prop :=
  RecordsIn mirrorSet origin world.db.snapshotSets

theorem Open.expected (going : Open mirrorSet origin id done taken sets) {name : String}
    (present : name ∈ taken.keys) : name ∈ mirrorSet.expectedMirrors := by
  obtain ⟨pair, among, named⟩ := (going.taken name).mp present
  exact MirrorSet.mem_expectedMirrors_iff_pairs.mpr ⟨pair, going.listed pair among, named⟩

/-- The snapshot taken is recorded under its mirror. -/
theorem Open.next (going : Open mirrorSet origin id done taken sets) {pair : String × String}
    (listed : pair ∈ mirrorSet.pairs) (name : String) :
    Open mirrorSet origin id (done ++ [pair]) (taken.set (mirrorSet.mirrorName pair.1 pair.2) name)
      (sets.update id fun row =>
        { row with snapshots := taken.set (mirrorSet.mirrorName pair.1 pair.2) name }) := by
  obtain ⟨row, found, incomplete, recorded⟩ := going.row
  have known : (sets.update id fun row =>
      { row with snapshots := taken.set (mirrorSet.mirrorName pair.1 pair.2) name }).get? id =
      some { row with id := id, snapshots := taken.set (mirrorSet.mirrorName pair.1 pair.2) name } := by
    rw [Table.get?_update, if_pos rfl, found]
    rfl
  refine ⟨going.records.update fun other same => ?_, ⟨_, known, incomplete, rfl⟩, ?_, fun other => ?_⟩
  · rw [found] at same
    cases same
    refine ⟨fun other among => ?_, fun complete => ?_⟩
    · rcases Dict.mem_keys_set.mp among with rfl | before
      · exact MirrorSet.mem_expectedMirrors_iff_pairs.mpr ⟨pair, listed, rfl⟩
      · exact going.expected before
    · rw [incomplete] at complete
      cases complete
  · intro other among
    rcases List.mem_append.mp among with before | here
    · exact going.listed other before
    · rw [List.mem_singleton.mp here]
      exact listed
  · rw [Dict.mem_keys_set, going.taken]
    constructor
    · rintro (rfl | ⟨earlier, among, named⟩)
      · exact ⟨pair, by simp, rfl⟩
      · exact ⟨earlier, by simp [among], named⟩
    · rintro ⟨earlier, among, named⟩
      rcases List.mem_append.mp among with before | here
      · exact .inr ⟨earlier, before, named⟩
      · rw [List.mem_singleton.mp here] at named
        exact .inl named.symm

/-- With a snapshot of every mirror the set may be called COMPLETE. -/
theorem Open.complete (going : Open mirrorSet origin id mirrorSet.pairs taken sets) :
    RecordsIn mirrorSet origin (sets.update id fun row => { row with state := .complete }) := by
  refine going.records.update fun row found => ?_
  obtain ⟨other, known, -, recorded⟩ := going.row
  rw [found] at known
  cases known
  refine ⟨fun name among => going.expected (recorded ▸ among), fun _ name expected => ?_⟩
  obtain ⟨pair, listed, named⟩ := MirrorSet.mem_expectedMirrors_iff_pairs.mp expected
  exact recorded ▸ (going.taken name).mpr ⟨pair, listed, named⟩

/-- The new row records nothing yet. -/
theorem open_of_insert {db after : Database} {now : Time} {inserted : Inserted}
    (records : RecordsIn mirrorSet origin db.snapshotSets) (committed : db.commit now [.addSnapshotSet
      { mirrorSetId := mirrorSet.id, jobId := some jobId, state := .incomplete
        snapshots := Dict.empty }] = .ok (after, inserted)) :
    Open mirrorSet origin inserted.snapshotSet [] Dict.empty after.snapshotSets := by
  have added : after.snapshotSets = db.snapshotSets.insert
      { mirrorSetId := mirrorSet.id, takenAt := now, jobId := some jobId, state := .incomplete
        snapshots := Dict.empty } := (Database.writeAll_tables committed).2.2.2
  have found := (Table.get?_insert db.snapshotSets
    { mirrorSetId := mirrorSet.id, takenAt := now, jobId := some jobId
      state := .incomplete, snapshots := Dict.empty } _).trans (if_pos rfl)
  rw [added, Database.inserted_of_addSnapshotSet committed]
  refine ⟨records.insert ?_, ⟨_, found, rfl, rfl⟩, by simp, by simp [Dict.keys, Dict.empty]⟩
  exact ⟨by simp [Dict.keys, Dict.empty], by simp⟩

theorem keeping (jobId : Nat) (mirrorSet : MirrorSet) (origin : Table SnapshotSet) :
    Keeping (contract mirrorSet origin) jobId mirrorSet
      (fun db => RecordsIn mirrorSet origin db.snapshotSets)
      fun id done taken db => Open mirrorSet origin id done taken db.snapshotSets where
  alone passed := passed
  guaranteed records := records
  lasts records same := same.snapshotSets.symm ▸ records
  keeps going := going.records
  stays going same := same.snapshotSets.symm ▸ going
  opens records committed := open_of_insert records committed
  records listed going committed := by
    rw [(Database.writeAll_tables committed).2.2.2]
    exact going.next listed _
  completes going committed := by
    rw [(Database.writeAll_tables committed).2.2.2]
    exact going.complete

theorem update_at (records : RecordsIn mirrorSet origin world.db.snapshotSets) :
    Safe (contract mirrorSet origin)
      (fun _ after => RecordsIn mirrorSet origin after.db.snapshotSets) (Raised mirrorSet origin)
      (self.update jobId mirrorSet) world :=
  (keeping jobId mirrorSet origin).safe_update records

theorem runJob_at {job : Job} (stored : world.db.jobs.get? jobId = some job)
    (type : job.type = .update) (described : job.mirrorSetIn world.db = some mirrorSet)
    (records : RecordsIn mirrorSet origin world.db.snapshotSets) :
    Safe (contract mirrorSet origin) (fun _ _ => True) (fun _ _ => True) (self.runJob jobId) world := by
  have working : ∀ {before : World}, RecordsIn mirrorSet origin before.db.snapshotSets →
      Safe (contract mirrorSet origin) (fun _ after => RecordsIn mirrorSet origin after.db.snapshotSets)
        (Raised mirrorSet origin) (self.execute jobId job mirrorSet) before := by
    intro before records
    simp only [JobRunner.execute, type]
    exact update_at records
  refine safe_runJob_alone id (fun same => ?_) stored fun same => ?_
  · change RecordsIn _ _ _
    rw [same]
    exact records
  · rw [described]
    apply (keeping jobId mirrorSet origin).safe_runLoaded working
    rw [same]
    exact records

end Recording

/-! ## What is left behind -/

/-- A row as an UPDATE job of this mirror set leaves it at some moment, be it cancelled or not,
or as reconciling makes of such a row. -/
inductive SnapshotSet.LeftBy (mirrorSet : MirrorSet) : SnapshotSet → Prop where
  | update {self : JobRunner} {world final : World} {events : List Event} {rest : Program Unit}
      {jobId : Nat} {job : Job} {row : SnapshotSet}
      (stored : world.db.jobs.get? jobId = some job) (type : job.type = .update)
      (described : job.mirrorSetIn world.db = some mirrorSet)
      (ran : (self.runJob jobId).run semantics events world = some (rest, final))
      (added : world.db.snapshotSets.get? row.id = none) (left : row ∈ final.db.snapshotSets.rows) :
      SnapshotSet.LeftBy mirrorSet row
  | reconcile {row : SnapshotSet} (existing : List String) (before : row.LeftBy mirrorSet) :
      SnapshotSet.LeftBy mirrorSet (reconciled mirrorSet existing row)

theorem SnapshotSet.LeftBy.records {mirrorSet : MirrorSet} {row : SnapshotSet}
    (left : row.LeftBy mirrorSet) : row.Records mirrorSet := by
  induction left with
  | @update self world final events rest jobId job row stored type described ran added left =>
      have safe := @Recording.runJob_at mirrorSet world.db.snapshotSets world self jobId job stored
        type described recordsIn_refl
      obtain ⟨path, -⟩ := safe.run (fun _ _ _ _ => trivial) ran
      have records : RecordsIn mirrorSet world.db.snapshotSets final.db.snapshotSets := by
        cases path with
        | refl => exact recordsIn_refl
        | tail _ last => exact last
      exact records row.id row (Table.mem_rows_iff.mp left) added
  | reconcile existing _ inductionHypothesis => exact inductionHypothesis.reconciled existing

end AptlyGui
