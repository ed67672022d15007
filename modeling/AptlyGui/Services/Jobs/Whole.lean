import AptlyGui.Services.Jobs.Discard
import AptlyGui.Services.Jobs.Records
import AptlyGui.Services.Jobs.SingleWriter

/-!
# Snapshots of COMPLETE sets

What is published is looked up by name, so a COMPLETE set ought to record only
snapshots that aptly has.  A DISCARD job deletes the snapshots one by one and
the row last.  Whatever fails in between leaves a row that still says COMPLETE
and records snapshots that are gone.
-/

namespace AptlyGui

open Coroutine (Contract Safe Uses)

/-- Each COMPLETE snapshot set records only snapshots that aptly has. -/
def World.Whole (world : World) : Prop :=
  ∀ row ∈ world.db.snapshotSets.rows, row.state = .complete →
    ∀ name ∈ row.snapshots.values, name ∈ world.aptly.snapshots

instance (world : World) : Decidable world.Whole :=
  inferInstanceAs (Decidable (∀ row ∈ world.db.snapshotSets.rows, row.state = .complete →
    ∀ name ∈ row.snapshots.values, name ∈ world.aptly.snapshots))

/-! ## aptly on its own -/

/-- The snapshot that the call asks aptly to delete. -/
def Request.deletes : Request → Option String
  | .deleteSnapshot name => some name
  | _ => none

def Op.deletes : Op → Option String
  | .aptly request => request.deletes
  | _ => none

/-- aptly has done what it was asked. -/
def Event.carriedOut : Event → Bool
  | .reply _ _ => true
  | .fault _ carriedOut _ => carriedOut
  | .cancel applied _ => applied
  | _ => false

/-- What aptly holds after the call. -/
def Event.aptly? : Event → Option Aptly
  | .reply _ after | .fault _ _ after | .cancel _ after => some after
  | _ => none

def Aptly.publishes (aptly : Aptly) (name : String) : Bool :=
  aptly.published.any fun item => item.sources.any fun source => decide (source.name = name)

/-- Two lists of the same snapshots. -/
def sameSnapshots (first second : List String) : Bool :=
  (first.all fun name => decide (name ∈ second)) && second.all fun name => decide (name ∈ first)

/-- The snapshots there are after the call if nobody else creates or deletes any. -/
def Request.snapshotsAfter (carriedOut : Bool) (before : List String) : Request → List String
  | .createSnapshotFromMirror _ name _ => if carriedOut then name :: before else before
  | .deleteSnapshot name => if carriedOut then before.filter (· ≠ name) else before
  | _ => before

/-- aptly does what it is asked or nothing, and it does not delete a published snapshot. -/
def Aptly.obeys (before : Aptly) (request : Request) (carriedOut : Bool) (after : Aptly) : Bool :=
  sameSnapshots after.snapshots (request.snapshotsAfter carriedOut before.snapshots) &&
    !(carriedOut && request.deletes.any before.publishes)

def Op.alone (before : Aptly) (event : Event) : Op → Bool
  | .aptly request => event.aptly?.all fun after => before.obeys request event.carriedOut after
  | _ => true

/-- Only the worker has aptly create or delete snapshots. -/
def System.alone (system : System) : Label → Bool
  | .work event => system.worker.awaits.all (Op.alone system.world.aptly event)
  | .drift reached => sameSnapshots reached.snapshots system.world.aptly.snapshots
  | _ => true

/-! ## The condition -/

namespace World

/-- The COMPLETE sets that record the snapshot which aptly deletes here. -/
def losing (world : World) (op : Op) (event : Event) : List SnapshotSet :=
  world.db.snapshotSets.rows.filter fun row =>
    decide (row.state = .complete) && event.carriedOut &&
      op.deletes.any fun name => decide (name ∈ row.snapshots.values)

/-- The running job was asked for with the id of this set. -/
def discarding (world : World) (row : SnapshotSet) : Bool :=
  (world.currentJob.bind world.db.jobs.get?).any fun job =>
    decide (job.params.snapshotSetId = some row.id)

/-- The job has had aptly delete this snapshot. -/
def hasDeleted (world : World) (jobId : Nat) (name : String) : Bool :=
  world.log.any fun entry =>
    decide (entry.job = some jobId) && entry.carriedOut &&
      decide (entry.request.deletes = some name)

/-- The COMPLETE sets of which the running job has deleted a snapshot. -/
def cutInto (world : World) : List SnapshotSet :=
  world.db.snapshotSets.rows.filter fun row =>
    decide (row.state = .complete) &&
      world.currentJob.any fun jobId => row.snapshots.values.any (world.hasDeleted jobId)

end World

namespace JobRunner

/-- The operation returns, and what it returns neither is a failed task nor trips the disk guard. -/
def carriesOn (self : JobRunner) (world : World) (op : Op) (event : Event) : Bool :=
  ((op.perform event world).all fun reached => reached.1.isOk) &&
    match op, event with
    | .aptly (.getTask _), .reply (.task task) _ => decide (task.state ≠ .failed)
    | .aptly .storage, .reply body _ => self.guardPasses world.log body
    | _, _ => true

/-- Only the job that discards a COMPLETE set deletes its snapshots, and from the first of them on
nothing fails while the set is there. -/
def discardsInOne (self : JobRunner) (world : World) (op : Op) (event : Event) : Bool :=
  (world.losing op event).all world.discarding &&
    ((world.losing op event).isEmpty && world.cutInto.isEmpty || self.carriesOn world op event)

end JobRunner

/-- Jobs discard COMPLETE sets without a hitch, and the process is not stopped while one of them has
deleted a snapshot of a set that is there. -/
def System.discardsInOne (self : JobRunner) (system : System) : Label → Bool
  | .work event => system.worker.awaits.all fun op => self.discardsInOne system.world op event
  | .crash => system.world.cutInto.isEmpty
  | _ => true

/-! ## Steps that lose nothing -/

/-- A snapshot that a COMPLETE set lacks has been deleted by the running job, whichever that is. -/
def World.Accounted (world : World) : Prop :=
  ∀ jobId, world.currentJob = some jobId → ∀ id row, world.db.snapshotSets.get? id = some row →
    row.state = .complete → ∀ name ∈ row.snapshots.values,
      name ∈ world.aptly.snapshots ∨ world.hasDeleted jobId name = true

/-- No snapshot set is stored or changed, and aptly has all the snapshots it had. -/
structure World.Keeps (before after : World) : Prop where
  sets : ∀ id row, after.db.snapshotSets.get? id = some row →
    before.db.snapshotSets.get? id = some row
  aptly : ∀ name ∈ before.aptly.snapshots, name ∈ after.aptly.snapshots

namespace World

variable {world after : World} {jobId : Nat}

theorem whole_iff : world.Whole ↔ ∀ id row, world.db.snapshotSets.get? id = some row →
    row.state = .complete → ∀ name ∈ row.snapshots.values, name ∈ world.aptly.snapshots := by
  constructor
  · intro whole id row found complete
    exact whole row (Table.get?_eq_some_iff.mp found).1 complete
  · intro whole row listed complete
    exact whole row.id row (Table.mem_rows_iff.mp listed) complete

theorem Whole.recorded (whole : world.Whole) {id : Nat} {row : SnapshotSet}
    (found : world.db.snapshotSets.get? id = some row) (complete : row.state = .complete) :
    ∀ name ∈ row.snapshots.values, name ∈ world.aptly.snapshots :=
  whole row (Table.get?_eq_some_iff.mp found).1 complete

theorem Whole.kept (whole : world.Whole) (keeps : world.Keeps after) : after.Whole := by
  refine whole_iff.mpr fun id row found complete name recorded => ?_
  exact keeps.aptly name (whole.recorded (keeps.sets id row found) complete name recorded)

theorem Whole.accounted (whole : world.Whole) : world.Accounted :=
  fun _ _ _ _ found complete name recorded => .inl (whole.recorded found complete name recorded)

theorem hasDeleted_iff {name : String} : world.hasDeleted jobId name = true ↔ ∃ entry ∈ world.log,
    entry.job = some jobId ∧ entry.carriedOut = true ∧ entry.request.deletes = some name := by
  simp only [hasDeleted, List.any_eq_true, Bool.and_eq_true, decide_eq_true_eq, and_assoc]

theorem mem_cutInto {id : Nat} {row : SnapshotSet}
    (found : world.db.snapshotSets.get? id = some row) (complete : row.state = .complete)
    (current : world.currentJob = some jobId) {name : String} (recorded : name ∈ row.snapshots.values)
    (deleted : world.hasDeleted jobId name = true) : row ∈ world.cutInto := by
  refine List.mem_filter.mpr ⟨(Table.get?_eq_some_iff.mp found).1, ?_⟩
  simp only [complete, current, decide_true, Bool.true_and, Option.any_some, List.any_eq_true]
  exact ⟨name, recorded, deleted⟩

/-- As long as the running job has deleted no snapshot of a COMPLETE set, they are all there. -/
theorem Accounted.whole (accounted : world.Accounted) (current : world.currentJob = some jobId)
    (uncut : world.cutInto = []) : world.Whole := by
  refine whole_iff.mpr fun id row found complete name recorded => ?_
  rcases accounted jobId current id row found complete name recorded with held | deleted
  · exact held
  · have cut := mem_cutInto found complete current recorded deleted
    rw [uncut] at cut
    cases cut

theorem Accounted.kept (accounted : world.Accounted) (keeps : world.Keeps after)
    (log : after.log = world.log)
    (current : ∀ jobId, after.currentJob = some jobId → world.currentJob = some jobId) :
    after.Accounted := by
  intro jobId running id row found complete name recorded
  have before :=
    accounted jobId (current jobId running) id row (keeps.sets id row found) complete name recorded
  rw [hasDeleted, log]
  exact before.imp_left (keeps.aptly name)

theorem Keeps.refl (world : World) : world.Keeps world := ⟨fun _ _ found => found, fun _ => id⟩

theorem Keeps.trans {third : World} (before : world.Keeps after) (later : after.Keeps third) :
    world.Keeps third :=
  ⟨fun id row found => before.sets id row (later.sets id row found),
    fun name listed => later.aptly name (before.aptly name listed)⟩

theorem Keeps.of_same (db : after.db = world.db) (aptly : after.aptly = world.aptly) :
    world.Keeps after := by
  refine ⟨fun id row found => ?_, fun name listed => ?_⟩
  · rw [← db]
    exact found
  · rw [aptly]
    exact listed

end World

theorem sameSnapshots_iff {first second : List String} :
    sameSnapshots first second = true ↔ ∀ name, name ∈ first ↔ name ∈ second := by
  simp only [sameSnapshots, Bool.and_eq_true, List.all_eq_true, decide_eq_true_eq]
  exact ⟨fun same name => ⟨same.1 name, same.2 name⟩,
    fun same => ⟨fun name => (same name).mp, fun name => (same name).mpr⟩⟩

theorem Request.mem_snapshotsAfter (request : Request) {carriedOut : Bool} {before : List String}
    {name : String} (listed : name ∈ before) :
    name ∈ request.snapshotsAfter carriedOut before ∨
      request.deletes = some name ∧ carriedOut = true := by
  cases carriedOut with
  | false =>
      left
      cases request <;> exact listed
  | true =>
      cases request with
      | createSnapshotFromMirror mirror created description =>
          exact .inl (List.mem_cons_of_mem _ listed)
      | deleteSnapshot gone =>
          by_cases same : name = gone
          · exact .inr ⟨by rw [same]; rfl, rfl⟩
          · exact .inl (List.mem_filter.mpr ⟨listed, by simpa using same⟩)
      | _ => exact .inl listed

namespace Op

variable {op : Op} {event : Event} {world after : World} {outcome : Except Exn op.Ret}

/-- aptly keeps every snapshot but the one it is asked to delete. -/
theorem snapshot_of_perform (alone : op.alone world.aptly event = true)
    (performed : op.perform event world = some (outcome, after)) {name : String}
    (listed : name ∈ world.aptly.snapshots) :
    name ∈ after.aptly.snapshots ∨ op.deletes = some name ∧ event.carriedOut = true := by
  cases op with
  | aptly request =>
      have obeys : ∀ carriedOut reached, world.aptly.obeys request carriedOut reached = true →
          name ∈ reached.snapshots ∨ request.deletes = some name ∧ carriedOut = true := by
        intro carriedOut reached obeyed
        simp only [Aptly.obeys, Bool.and_eq_true, sameSnapshots_iff] at obeyed
        rw [obeyed.1 name]
        exact request.mem_snapshotsAfter listed
      rcases perform_aptly performed with ⟨body, reached, rfl, -, rfl⟩ |
        ⟨error, carriedOut, reached, rfl, -, -, rfl⟩ | ⟨applied, reached, rfl, -, rfl⟩
      · exact obeys true reached alone
      · exact obeys carriedOut reached alone
      · exact obeys applied reached alone
  | _ =>
      left
      rw [(perform_frame performed).aptly rfl]
      exact listed

/-- A deletion that aptly has carried out is recorded under the job that runs. -/
theorem deletion_of_perform {name : String} {jobId : Nat} (deleted : op.deletes = some name)
    (carriedOut : event.carriedOut = true) (current : world.currentJob = some jobId)
    (performed : op.perform event world = some (outcome, after)) :
    ∃ entry ∈ after.log, entry.job = some jobId ∧ entry.carriedOut = true ∧
      entry.request.deletes = some name := by
  cases op with
  | aptly request =>
      rcases perform_aptly performed with ⟨body, reached, rfl, -, rfl⟩ |
        ⟨error, applied, reached, rfl, -, -, rfl⟩ | ⟨applied, reached, rfl, -, rfl⟩
      · exact ⟨_, List.mem_cons_self, current, rfl, deleted⟩
      · exact ⟨_, List.mem_cons_self, current, carriedOut, deleted⟩
      · exact ⟨_, List.mem_cons_self, current, carriedOut, deleted⟩
  | _ => cases deleted

theorem hasDeleted_of_perform {name : String} {jobId : Nat}
    (performed : op.perform event world = some (outcome, after))
    (deleted : world.hasDeleted jobId name = true) : after.hasDeleted jobId name = true := by
  obtain ⟨entry, listed, sent⟩ := World.hasDeleted_iff.mp deleted
  exact World.hasDeleted_iff.mpr ⟨entry, mem_log_of_perform performed listed, sent⟩

/-- The operation stores and changes no snapshot set, and deletes no snapshot. -/
def keepsSnapshots (op : Op) : Prop := op.recordsNothing ∧ op.deletes = none

theorem keepsSnapshots_of_bookkeeping (bookkeeping : op.bookkeeping) : op.keepsSnapshots := by
  refine ⟨recordsNothing_of_spares (sparesSets_of_bookkeeping bookkeeping), ?_⟩
  cases op with
  | aptly request => cases request <;> first | rfl | cases bookkeeping
  | _ => rfl

theorem keepsSnapshots_of_closes {jobId : Nat} (closes : op.closes jobId) : op.keepsSnapshots := by
  refine ⟨recordsNothing_of_spares (sparesSets_of_closes closes), ?_⟩
  cases op with
  | aptly request => exact closes.elim
  | _ => rfl

theorem keeps_of_perform (keeps : op.keepsSnapshots) (alone : op.alone world.aptly event = true)
    (performed : op.perform event world = some (outcome, after)) : world.Keeps after := by
  refine ⟨fun id row found => snapshotSet_of_perform keeps.1 performed found, fun name listed => ?_⟩
  rcases snapshot_of_perform alone performed listed with still | ⟨deleted, -⟩
  · exact still
  · rw [keeps.2] at deleted
    cases deleted

end Op

namespace Whole

def contract (self : JobRunner) : Contract semantics where
  allowed world op event :=
    op.alone world.aptly event = true ∧ self.discardsInOne world op event = true
  rely before after := before.Others after ∧ before.Keeps after
  guarantee _ after := after.Accounted
  rely_refl world := ⟨.refl world, .refl world⟩
  rely_trans before after := ⟨before.1.trans after.1, before.2.trans after.2⟩

variable {self : JobRunner} {jobId id : Nat} {job : Job} {mirrorSet : MirrorSet}
  {taken : Dict String String} {world after : World} {α : Type}

/-- Operations that lose nothing lose nothing together. -/
theorem safe_keeps {program : Program α} (keeps : program.Uses Op.keepsSnapshots)
    (whole : world.Whole) :
    Safe (contract self) (fun _ => world.Keeps) (fun _ => world.Keeps) program world := by
  refine Safe.of_uses world.Keeps keeps (.refl world) (fun _ _ kept passed => kept.trans passed.2) ?_
  rintro op before outcome after keeps kept ⟨event, permitted, performed⟩
  have still := kept.trans (Op.keeps_of_perform keeps permitted.1 performed)
  exact ⟨(whole.kept still).accounted, still⟩

theorem safe_whole {program : Program α} (keeps : program.Uses Op.keepsSnapshots)
    (whole : world.Whole) :
    Safe (contract self) (fun _ => World.Whole) (fun _ => World.Whole) program world :=
  (safe_keeps keeps whole).mono (fun _ _ kept => whole.kept kept) fun _ _ kept => whole.kept kept

/-! ### Updates -/

/-- aptly has what the set that is being filled records, and what it is to record next. -/
structure Filling (id : Nat) (taken : Dict String String) (world : World) : Prop where
  whole : world.Whole
  row : ∀ row, world.db.snapshotSets.get? id = some row →
    ∀ name ∈ row.snapshots.values, name ∈ world.aptly.snapshots
  taken : ∀ name ∈ taken.values, name ∈ world.aptly.snapshots

theorem Filling.kept (filling : Filling id taken world) (keeps : world.Keeps after) :
    Filling id taken after where
  whole := filling.whole.kept keeps
  row row found name recorded :=
    keeps.aptly name (filling.row row (keeps.sets id row found) name recorded)
  taken name listed := keeps.aptly name (filling.taken name listed)

theorem safe_filling {program : Program α} (keeps : program.Uses Op.keepsSnapshots)
    (filling : Filling id taken world) :
    Safe (contract self) (fun _ => Filling id taken) (fun _ => World.Whole) program world :=
  (safe_keeps keeps filling.whole).mono (fun _ _ kept => filling.kept kept)
    fun _ _ kept => filling.whole.kept kept

/-- A commit of a job that keeps the COMPLETE sets whole when it is stored. -/
theorem safe_record {writes : List Write} {returned : Inserted → World → Prop}
    (whole : world.Whole)
    (stored : ∀ db inserted, world.db.commit world.clock writes = .ok (db, inserted) →
      World.Whole { world with db := db } ∧
        ∀ later, World.Keeps { world with db := db } later → returned inserted later) :
    Safe (contract self) returned (fun _ => World.Whole) (commit .job writes) world := by
  have broken : World.Whole { world with sessionBroken := true } := whole
  refine safe_commit ?_ ?_ ?_ ?_
  · intro db inserted _ _ committed
    obtain ⟨recorded, returns⟩ := stored db inserted committed
    exact .ok recorded.accounted fun later passed => returns later passed.2
  · exact fun error _ _ _ => .error broken.accounted fun later passed => broken.kept passed.2
  · exact fun _ _ => .error whole.accounted fun later passed => whole.kept passed.2
  · intro applied reached _
    refine ⟨.error broken.accounted fun later passed => broken.kept passed.2, ?_⟩
    intro db inserted _ committed
    have applied : World.Whole { world with db := db, sessionBroken := true } :=
      (stored db inserted committed).1
    exact .error applied.accounted fun later passed => applied.kept passed.2

/-- The new row is not COMPLETE and records nothing yet. -/
theorem filling_of_insert (whole : world.Whole) {db : Database} {row : SnapshotSet}
    (sets : db.snapshotSets = world.db.snapshotSets.insert row) (incomplete : row.state = .incomplete)
    (empty : row.snapshots = Dict.empty) :
    Filling world.db.snapshotSets.nextId Dict.empty { world with db := db } := by
  refine ⟨World.whole_iff.mpr fun other found known complete => ?_, fun found known => ?_, ?_⟩
  · rw [sets, Table.get?_insert] at known
    split at known
    · cases known
      change row.state = .complete at complete
      rw [incomplete] at complete
      cases complete
    · exact whole.recorded known complete
  · rw [sets, Table.get?_insert, if_pos rfl] at known
    cases known
    intro name recorded
    change name ∈ row.snapshots.values at recorded
    rw [empty] at recorded
    cases recorded
  · intro name listed
    cases listed

/-- The changed row records only what aptly has. -/
theorem filling_of_update (filling : Filling id taken world) {db : Database}
    {change : SnapshotSet → SnapshotSet}
    (sets : db.snapshotSets = world.db.snapshotSets.update id change)
    (sound : ∀ row, world.db.snapshotSets.get? id = some row →
      ∀ name ∈ (change row).snapshots.values, name ∈ world.aptly.snapshots) :
    Filling id taken { world with db := db } := by
  have changed : ∀ row, db.snapshotSets.get? id = some row →
      ∀ name ∈ row.snapshots.values, name ∈ world.aptly.snapshots := by
    intro row known
    rw [sets, Table.get?_update, if_pos rfl] at known
    obtain ⟨old, found, rfl⟩ := Option.map_eq_some_iff.mp known
    exact sound old found
  refine ⟨World.whole_iff.mpr fun other row known complete => ?_, changed, filling.taken⟩
  by_cases same : other = id
  · subst same
    exact changed row known
  · rw [sets, Table.get?_update, if_neg same] at known
    exact filling.whole.recorded known complete

/-- aptly has the snapshot whose creation it has confirmed. -/
theorem createSnapshot_filling {mirror name description : String}
    (filling : Filling id taken world) :
    Safe (contract self) (fun _ => Filling id (taken.set mirror name)) (fun _ => World.Whole)
      (Client.createSnapshotFromMirror mirror name description) world := by
  refine safe_op fun event outcome after permitted performed => ?_
  have keeps : Op.keepsSnapshots (.aptly (.createSnapshotFromMirror mirror name description)) :=
    ⟨trivial, rfl⟩
  have grown := Op.keeps_of_perform keeps permitted.1 performed
  refine ⟨(filling.whole.kept grown).accounted, fun later passed => ?_⟩
  have kept := grown.trans passed.2
  rcases Op.perform_aptly performed with ⟨body, reached, rfl, -, rfl⟩ |
    ⟨error, carriedOut, reached, rfl, -, rfl, -⟩ | ⟨applied, reached, rfl, rfl, -⟩
  · have created : name ∈ later.aptly.snapshots := by
      refine passed.2.aptly name ?_
      have obeyed := permitted.1
      simp only [Op.alone, Event.aptly?, Option.all_some, Event.carriedOut, Aptly.obeys,
        Bool.and_eq_true, sameSnapshots_iff] at obeyed
      exact (obeyed.1 name).mpr List.mem_cons_self
    cases outcome with
    | ok snapshot =>
        refine ⟨filling.whole.kept kept, (filling.kept kept).row, fun other recorded => ?_⟩
        rcases Dict.mem_values_set recorded with rfl | before
        · exact created
        · exact (filling.kept kept).taken other before
    | error error => exact filling.whole.kept kept
  · exact filling.whole.kept kept
  · exact filling.whole.kept kept

theorem snapshotEach_filling {stamp suite component : String} (filling : Filling id taken world) :
    Safe (contract self) (fun taken => Filling id taken) (fun _ => World.Whole)
      (JobRunner.snapshotEach jobId mirrorSet stamp id taken suite component) world := by
  unfold JobRunner.snapshotEach
  have noted := (addStep_uses jobId
    s!"Snapshot {mirrorSet.mirrorName suite component}-{stamp}").mono
      fun _ => Op.keepsSnapshots_of_bookkeeping
  refine Safe.bind (safe_filling noted filling) fun step before filling => ?_
  refine Safe.bind (createSnapshot_filling filling) fun _ ready filling => ?_
  refine Safe.bind (safe_record filling.whole fun db inserted committed => ?_) fun _ _ filling => filling
  have recorded := filling_of_update filling (Database.writeAll_tables committed).2.2.2
    fun _ _ => filling.taken
  exact ⟨recorded.whole, fun later kept => recorded.kept kept⟩

/-- The row becomes COMPLETE when aptly has all it records. -/
theorem update_whole (whole : world.Whole) :
    Safe (contract self) (fun _ => World.Whole) (fun _ => World.Whole)
      (self.update jobId mirrorSet) world := by
  unfold JobRunner.update
  have preflight := (self.preflight_uses jobId mirrorSet).mono
    fun _ => Op.keepsSnapshots_of_bookkeeping
  refine Safe.bind (safe_whole preflight whole) fun _ _ whole => ?_
  refine Safe.bind (safe_whole (uses_op ⟨trivial, rfl⟩) whole) fun moment before whole => ?_
  have added : Safe (contract self)
      (fun (inserted : Inserted) => Filling inserted.snapshotSet Dict.empty) (fun _ => World.Whole)
      (commit .job [.addSnapshotSet
        { mirrorSetId := mirrorSet.id, jobId := some jobId, state := .incomplete
          snapshots := Dict.empty }]) before := by
    refine safe_record whole fun db inserted committed => ?_
    have filling := filling_of_insert whole (Database.writeAll_tables committed).2.2.2 rfl rfl
    rw [Database.inserted_of_addSnapshotSet committed]
    exact ⟨filling.whole, fun later kept => filling.kept kept⟩
  refine Safe.bind added fun inserted _ filling => ?_
  have syncs : (self.sync jobId mirrorSet).Uses Op.keepsSnapshots := by
    refine ((self.sync_uses jobId mirrorSet).and JobRunner.sync_spares).mono ?_
    rintro op ⟨used, spares⟩
    refine ⟨Op.recordsNothing_of_spares spares, ?_⟩
    cases used with
    | bookkeeping reads => exact (Op.keepsSnapshots_of_bookkeeping reads).2
    | _ => rfl
  refine Safe.bind (safe_filling syncs filling) fun _ synced filling => ?_
  have takes : Safe (contract self) (fun taken => Filling inserted.snapshotSet taken)
      (fun _ => World.Whole)
      (JobRunner.takeSnapshots jobId mirrorSet (snapshotStamp moment) inserted.snapshotSet) synced := by
    rw [JobRunner.takeSnapshots_eq]
    exact Safe.foldEach (fun _ taken => Filling inserted.snapshotSet taken) filling
      fun pair rest taken before filling => snapshotEach_filling filling
  refine Safe.bind takes fun taken last filling => ?_
  refine Safe.bind (safe_record filling.whole fun db keys committed => ?_) fun _ _ whole => whole
  have complete := filling_of_update filling (Database.writeAll_tables committed).2.2.2 filling.row
  exact ⟨complete.whole, fun later kept => complete.whole.kept kept⟩

/-! ### Discards -/

/-- The job runs. -/
structure Started (jobId : Nat) (job : Job) (world : World) : Prop where
  stored : world.db.Stores jobId job
  current : world.currentJob = some jobId

theorem Started.passed (started : Started jobId job world) (others : world.Others after) :
    Started jobId job after :=
  ⟨started.stored.kept others.db, others.currentJob.trans started.current⟩

theorem Started.of_perform {op : Op} {event : Event} {outcome : Except Exn op.Ret}
    (started : Started jobId job world) (own : op.ofJob jobId)
    (performed : op.perform event world = some (outcome, after)) : Started jobId job after := by
  obtain ⟨rows, -, -⟩ := Op.jobFrame own performed
  exact ⟨started.stored.of_own rows, Op.current_of_perform own performed started.current⟩

/-- Only the set that the running job is to discard may lack a snapshot, one that the job has
deleted. -/
structure Discarding (jobId : Nat) (job : Job) (world : World) : Prop where
  started : Started jobId job world
  held : ∀ id row, world.db.snapshotSets.get? id = some row → row.state = .complete →
    ∀ name ∈ row.snapshots.values, name ∈ world.aptly.snapshots ∨
      job.params.snapshotSetId = some id ∧ world.hasDeleted jobId name = true

theorem Discarding.passed (discarding : Discarding jobId job world)
    (passed : (contract self).rely world after) : Discarding jobId job after := by
  refine ⟨discarding.started.passed passed.1, fun id row found complete name recorded => ?_⟩
  have before := discarding.held id row (passed.2.sets id row found) complete name recorded
  rw [World.hasDeleted, passed.1.log]
  exact before.imp_left (passed.2.aptly name)

theorem Discarding.of_whole (started : Started jobId job world) (whole : world.Whole) :
    Discarding jobId job world :=
  ⟨started, fun _ _ found complete name recorded => .inl (whole.recorded found complete name recorded)⟩

theorem Discarding.accounted (discarding : Discarding jobId job world) : world.Accounted := by
  intro running current id row found complete name recorded
  obtain rfl := Option.some.inj (discarding.started.current.symm.trans current)
  exact (discarding.held id row found complete name recorded).imp_right And.right

/-- Without a set to discard nothing is missing, and with one only that set misses anything. -/
theorem Discarding.whole_of (discarding : Discarding jobId job world)
    (gone : ∀ id, job.params.snapshotSetId = some id → world.db.snapshotSets.get? id = none) :
    world.Whole := by
  refine World.whole_iff.mpr fun id row found complete name recorded => ?_
  rcases discarding.held id row found complete name recorded with held | ⟨target, -⟩
  · exact held
  · rw [gone id target] at found
    cases found

/-- The operation keeps to the job's row, and stores and changes no snapshot set. -/
def OfDiscard (jobId : Nat) (op : Op) : Prop := op.ofJob jobId ∧ op.recordsNothing

theorem OfDiscard.of_bookkeeping {op : Op} (bookkeeping : op.bookkeeping) : OfDiscard jobId op :=
  ⟨Op.ofJob_of_bookkeeping bookkeeping, (Op.keepsSnapshots_of_bookkeeping bookkeeping).1⟩

section Step

variable {op : Op} {event : Event} {outcome : Except Exn op.Ret}

/-- Whoever misses a snapshot afterwards records the one that has just been deleted. -/
theorem losing_of_perform (alone : op.alone world.aptly event = true)
    (performed : op.perform event world = some (outcome, after)) {row : SnapshotSet}
    (found : world.db.snapshotSets.get? id = some row) (complete : row.state = .complete)
    {name : String} (recorded : name ∈ row.snapshots.values) (listed : name ∈ world.aptly.snapshots)
    (gone : name ∉ after.aptly.snapshots) (current : world.currentJob = some jobId) :
    row ∈ world.losing op event ∧ after.hasDeleted jobId name = true := by
  rcases Op.snapshot_of_perform alone performed listed with still | ⟨deleted, carriedOut⟩
  · exact absurd still gone
  · refine ⟨List.mem_filter.mpr ⟨(Table.get?_eq_some_iff.mp found).1, ?_⟩, ?_⟩
    · simp [complete, carriedOut, deleted, recorded]
    · exact World.hasDeleted_iff.mpr (Op.deletion_of_perform deleted carriedOut current performed)

theorem carriesOn_of_cut (permitted : self.discardsInOne world op event = true)
    (cut : world.losing op event ≠ [] ∨ world.cutInto ≠ []) :
    self.carriesOn world op event = true := by
  simp only [JobRunner.discardsInOne, Bool.and_eq_true, Bool.or_eq_true, List.isEmpty_iff]
    at permitted
  rcases permitted.2 with ⟨nothing, uncut⟩ | carries
  · rcases cut with losing | cut
    · exact absurd nothing losing
    · exact absurd uncut cut
  · exact carries

theorem returns_of_carriesOn (carries : self.carriesOn world op event = true)
    (performed : op.perform event world = some (outcome, after)) : ∃ value, outcome = .ok value := by
  simp only [JobRunner.carriesOn, performed, Option.all_some, Bool.and_eq_true] at carries
  exact SingleWriter.isOk_iff.mp carries.1

/-- A COMPLETE set that lacks a snapshot has been cut into by the job. -/
theorem Discarding.cut (discarding : Discarding jobId job world) (dented : ¬ world.Whole) :
    world.cutInto ≠ [] :=
  fun uncut => dented (discarding.accounted.whole discarding.started.current uncut)

/-- An operation that fails leaves every COMPLETE set whole. -/
theorem Discarding.of_perform (discarding : Discarding jobId job world) (used : OfDiscard jobId op)
    (permitted : (contract self).allowed world op event)
    (performed : op.perform event world = some (outcome, after)) :
    Discarding jobId job after ∧ ∀ error, outcome = .error error → after.Whole := by
  have lost : ∀ {id row}, after.db.snapshotSets.get? id = some row → row.state = .complete →
      ∀ name ∈ row.snapshots.values, name ∈ world.aptly.snapshots →
      name ∉ after.aptly.snapshots →
      row ∈ world.losing op event ∧ after.hasDeleted jobId name = true :=
    fun found complete name recorded listed gone => losing_of_perform permitted.1 performed
      (Op.snapshotSet_of_perform used.2 performed found) complete recorded listed gone
      discarding.started.current
  refine ⟨⟨discarding.started.of_perform used.1 performed, ?_⟩, fun error failed => ?_⟩
  · intro id row found complete name recorded
    have known := Op.snapshotSet_of_perform used.2 performed found
    rcases discarding.held id row known complete name recorded with listed | ⟨target, deleted⟩
    · refine or_iff_not_imp_left.mpr fun gone => ?_
      obtain ⟨losing, deleted⟩ := lost found complete name recorded listed gone
      have target : world.discarding row = true := by
        have targets := permitted.2
        simp only [JobRunner.discardsInOne, Bool.and_eq_true, List.all_eq_true] at targets
        exact targets.1 row losing
      obtain ⟨stored, current, -, params⟩ := discarding.started.stored
      simp only [World.discarding, discarding.started.current, Option.bind_some, current, params,
        Option.any_some, decide_eq_true_eq] at target
      exact ⟨target.trans (congrArg some (Table.id_of_get? known)), deleted⟩
    · exact .inr ⟨target, Op.hasDeleted_of_perform performed deleted⟩
  · by_cases cut : world.losing op event ≠ [] ∨ world.cutInto ≠ []
    · obtain ⟨value, returned⟩ := returns_of_carriesOn (carriesOn_of_cut permitted.2 cut) performed
      rw [returned] at failed
      cases failed
    · push Not at cut
      have whole := discarding.accounted.whole discarding.started.current cut.2
      refine World.whole_iff.mpr fun id row found complete name recorded => ?_
      have known := Op.snapshotSet_of_perform used.2 performed found
      have listed := whole.recorded known complete name recorded
      by_contra gone
      have losing := (lost found complete name recorded listed gone).1
      rw [cut.1] at losing
      cases losing

end Step

/-- One operation of a discard. -/
theorem safe_step {op : Op} {returned : op.Ret → World → Prop} (used : OfDiscard jobId op)
    (discarding : Discarding jobId job world)
    (settles : ∀ event value after later, (contract self).allowed world op event →
      op.perform event world = some (.ok value, after) → (contract self).rely after later →
      Discarding jobId job later → returned value later) :
    Safe (contract self) returned (fun _ => World.Whole) (perform op) world := by
  refine safe_op fun event outcome after permitted performed => ?_
  obtain ⟨still, failed⟩ := discarding.of_perform used permitted performed
  refine ⟨still.accounted, fun later passed => ?_⟩
  cases outcome with
  | ok value => exact settles event value after later permitted performed passed (still.passed passed)
  | error error => exact (failed error rfl).kept passed.2

theorem safe_discarding {op : Op} (used : OfDiscard jobId op)
    (discarding : Discarding jobId job world) :
    Safe (contract self) (fun _ => Discarding jobId job) (fun _ => World.Whole) (perform op) world :=
  safe_step used discarding fun _ _ _ _ _ _ _ still => still

theorem setStep_discarding {step : Nat} {change : Time → JobStep → JobStep}
    (discarding : Discarding jobId job world) :
    Safe (contract self) (fun _ after => Discarding jobId job after ∧ after.log = world.log)
      (fun _ => World.Whole) (commit .job [.setStep step change]) world := by
  refine safe_step (.of_bookkeeping ?_) discarding fun _ _ _ _ _ performed passed still => ?_
  · simp [Op.bookkeeping, Write.ofSteps]
  · exact ⟨still, passed.1.log.trans ((Op.perform_frame performed).log rfl)⟩

theorem addStep_discarding {description : String} (discarding : Discarding jobId job world) :
    Safe (contract self) (fun _ => Discarding jobId job) (fun _ => World.Whole)
      (addStep jobId description) world := by
  refine Safe.bind (safe_discarding (.of_bookkeeping trivial) discarding) fun position _ going => ?_
  refine Safe.bind (safe_discarding (.of_bookkeeping ?_) going) fun _ _ going => going
  simp [Op.bookkeeping, Write.ofSteps]

theorem finishStep_discarding {step : Nat} {state : StepState} {output : String}
    (discarding : Discarding jobId job world) :
    Safe (contract self) (fun _ => Discarding jobId job) (fun _ => World.Whole)
      (finishStep step state output) world :=
  Safe.bind (setStep_discarding discarding) fun _ _ going => going.1

/-- A question to aptly: the answer does not fail the job while a COMPLETE set lacks a snapshot. -/
theorem ask_discarding {request : Request} {returned : request.Ret → World → Prop}
    (reads : request.writes = false) (discarding : Discarding jobId job world)
    (answered : ∀ body value reached later, request.parse body = .ok value →
      (¬ world.Whole → self.carriesOn world (.aptly request) (.reply body reached) = true) →
      world.Keeps later →
      later.log = ⟨world.currentJob, request, .ok body, true⟩ :: world.log →
      Discarding jobId job later → returned value later) :
    Safe (contract self) returned (fun _ => World.Whole) (perform (.aptly request)) world := by
  have bookkeeping : Op.bookkeeping (.aptly request) := reads
  refine safe_step (.of_bookkeeping bookkeeping) discarding
    fun event value after later permitted performed passed still => ?_
  have keeps := Op.keeps_of_perform (Op.keepsSnapshots_of_bookkeeping bookkeeping) permitted.1 performed
  obtain ⟨body, reached, rfl, parsed, rfl⟩ := Op.replied_of_ok performed
  exact answered body value reached later parsed
    (fun dented => carriesOn_of_cut permitted.2 (.inr (discarding.cut dented)))
    (keeps.trans passed.2) passed.1.log still

theorem guardDisk_discarding {progress : TaskProgress} (discarding : Discarding jobId job world)
    (told : latestProgress world.log = some progress) :
    Safe (contract self) (fun _ => Discarding jobId job) (fun _ => World.Whole)
      (self.guardDisk progress.remainingBytes) world := by
  have measured : Safe (contract self)
      (fun (storage : Storage) after => Discarding jobId job after ∧ ((checkSpace storage self.margin
        (some (progress.remainingBytes / (1024 * 1024)))).ok = false → after.Whole))
      (fun _ => World.Whole) (perform (.aptly .storage)) world := by
    refine ask_discarding rfl discarding
      fun body storage reached later parsed carries keeps _ still => ⟨still, fun short => ?_⟩
    cases body <;> cases parsed
    by_contra dented
    have passes := carries fun whole => dented (whole.kept keeps)
    simp only [JobRunner.carriesOn, JobRunner.guardPasses, told, Bool.and_eq_true] at passes
    exact Bool.false_ne_true (short.symm.trans passes.2)
  refine Safe.bind measured fun storage after seen => ?_
  dsimp only
  split
  · exact seen.1
  · rename_i short
    exact seen.2 (by simpa using short)

theorem pollTask_discarding {step : Nat} {taskId : Int} (polls : Nat) (reported : Bool)
    (discarding : Discarding jobId job world) :
    Safe (contract self) (fun _ => Discarding jobId job) (fun _ => World.Whole)
      (self.pollTask step taskId polls reported) world := by
  apply safe_pollTask (Discarding jobId job)
    (fun task after => Discarding jobId job after ∧ (task.state = .failed → after.Whole))
    fun progress after => Discarding jobId job after ∧ latestProgress after.log = progress
  case looks =>
    intro world discarding
    refine ask_discarding rfl discarding
      fun body task reached later parsed carries keeps _ still => ?_
    cases body <;> cases parsed
    split
    · refine ⟨still, fun failed => ?_⟩
      by_contra dented
      have carried := carries fun whole => dented (whole.kept keeps)
      simp [JobRunner.carriesOn, failed] at carried
    · exact still
  case reads =>
    rintro task world ⟨discarding, ifFailed⟩
    exact ask_discarding rfl discarding fun body output reached later _ _ keeps _ still =>
      ⟨still, fun failed => (ifFailed failed).kept keeps⟩
  case fails => exact fun failed known => known.2 failed
  case succeeds => exact fun _ known => known.1
  case zeroes =>
    intro task world _ known
    exact (setStep_discarding known.1).mono (fun _ _ kept => kept.1) fun _ _ whole => whole
  case asks =>
    intro world discarding
    refine ask_discarding rfl discarding
      fun body progress reached later parsed _ _ log still => ⟨still, ?_⟩
    cases body <;> cases parsed
    rw [log]
    rfl
  case rests => exact fun known => known.1
  case notes =>
    rintro progress world ⟨discarding, latest⟩
    refine (setStep_discarding discarding).mono ?_ fun _ _ whole => whole
    rintro _ after ⟨still, same⟩
    rw [← same] at latest
    exact ⟨still, latest⟩
  case guards => exact fun known => guardDisk_discarding known.1 known.2
  case sleeps => exact safe_discarding (.of_bookkeeping trivial)
  case held => exact discarding

theorem reclaimSpace_discarding (discarding : Discarding jobId job world) :
    Safe (contract self) (fun _ => Discarding jobId job) (fun _ => World.Whole)
      (self.reclaimSpace jobId) world := by
  refine Safe.bind (addStep_discarding discarding) fun step _ going => ?_
  refine Safe.bind (safe_discarding ⟨trivial, trivial⟩ going) fun task _ going => ?_
  refine Safe.bind (setStep_discarding going) fun _ _ going => ?_
  refine Safe.bind (pollTask_discarding self.polls false going.1) fun output _ going => ?_
  exact finishStep_discarding going

theorem deleteSnapshotEach_discarding {name : String} (discarding : Discarding jobId job world) :
    Safe (contract self) (fun _ => Discarding jobId job) (fun _ => World.Whole)
      (JobRunner.deleteSnapshotEach jobId name) world := by
  refine Safe.bind (addStep_discarding discarding) fun step before going => ?_
  have deletes : Safe (contract self) (fun _ => Discarding jobId job) (fun _ => World.Whole)
      ((Client.deleteSnapshot name).catching (JobRunner.failStep step)) before := by
    have asks : OfDiscard jobId (.aptly (.deleteSnapshot name)) := ⟨trivial, trivial⟩
    refine Coroutine.safe_catching.mpr ((safe_discarding asks going).mono
      (fun _ _ going => going) fun error after whole => ?_)
    refine safe_failStep (fun _ => safe_whole ?_ whole) fun _ => whole
    exact (finishStep_uses step .failed error.str).mono fun _ => Op.keepsSnapshots_of_bookkeeping
  exact Safe.bind deletes fun _ _ going => finishStep_discarding going

/-- The row of the set goes last, and with it the only set that may lack a snapshot. -/
theorem discard_whole (discarding : Discarding jobId job world) :
    Safe (contract self) (fun _ => World.Whole) (fun _ => World.Whole)
      (self.discard jobId job.params) world := by
  refine Safe.bind (Safe.forEach (fun _ => Discarding jobId job) discarding
    fun name rest _ going => deleteSnapshotEach_discarding going) fun _ _ going => ?_
  refine Safe.bind (reclaimSpace_discarding going) fun _ reclaimed going => ?_
  cases named : job.params.snapshotSetId with
  | none => exact going.whole_of fun id target => by rw [named] at target; cases target
  | some setId =>
      have found : Safe (contract self) (fun (found : Option SnapshotSet) after =>
          Discarding jobId job after ∧ (found = none → after.Whole) ∧
            ∀ row, found = some row → row.id = setId) (fun _ => World.Whole)
          (getSnapshotSet .job setId) reclaimed := by
        refine safe_step (.of_bookkeeping trivial) going
          fun event found after later permitted performed passed still => ⟨still, ?_⟩
        rcases Op.query_job performed with ⟨-, -, same, unmoved⟩ | ⟨-, -, failed, -⟩ |
          ⟨_, _, -, failed, -⟩
        · cases same
          refine ⟨fun absent => ?_, fun row known => Table.id_of_get? known⟩
          rw [unmoved] at passed
          refine World.Whole.kept (going.whole_of fun id target => ?_) passed.2
          rw [named] at target
          cases target
          exact absent
        · cases failed
        · cases failed
      refine Safe.bind found ?_
      rintro found ready ⟨going, absent, present⟩
      cases found with
      | none => exact absent rfl
      | some row =>
          obtain rfl := present row rfl
          have deletes : OfDiscard jobId (.commit .job [.deleteSnapshotSet row.id]) := by
            simp [OfDiscard, Op.ofJob, Write.ofJob, Op.recordsNothing, Write.recordsNothing]
          refine Safe.bind (safe_step deletes going
            fun event inserted after later permitted performed passed still => ?_) fun _ _ whole => whole
          refine still.whole_of fun id target => ?_
          rw [named] at target
          cases target
          cases remains : later.db.snapshotSets.get? row.id with
          | none => rfl
          | some other =>
              have known := passed.2.sets row.id other remains
              rcases Op.perform_commit performed with ⟨db, _, -, -, committed, -, rfl⟩ |
                ⟨_, -, -, -, failed, -⟩ | ⟨-, -, failed, -⟩ | ⟨_, _, -, failed, -⟩
              · rw [Database.commit_deleteSnapshotSet] at committed
                cases committed
                rw [Table.get?_delete, if_pos rfl] at known
                cases known
              · cases failed
              · cases failed
              · cases failed

/-! ### Jobs -/

theorem create_keeps : (JobRunner.create jobId mirrorSet).Uses Op.keepsSnapshots := by
  refine (JobRunner.create_uses jobId mirrorSet).mono fun op used => ?_
  cases used with
  | bookkeeping reads => exact Op.keepsSnapshots_of_bookkeeping reads
  | createMirror _ _ => exact ⟨trivial, rfl⟩

theorem remove_keeps {params : JobParams} {loaded : Option MirrorSet} :
    (self.remove jobId params loaded).Uses Op.keepsSnapshots := by
  refine (self.remove_uses jobId params loaded).mono fun op used => ?_
  cases used with
  | bookkeeping reads => exact Op.keepsSnapshots_of_bookkeeping reads
  | deleteMirror _ => exact ⟨trivial, rfl⟩
  | dbCleanup => exact ⟨trivial, rfl⟩
  | forget =>
      refine ⟨fun change listed => ?_, rfl⟩
      simp only [List.cons_append, List.mem_cons, List.mem_append, List.mem_map, List.not_mem_nil,
        or_false] at listed
      rcases listed with rfl | ⟨row, -, rfl⟩ | rfl <;> trivial

theorem publishSuites_keeps {target : SnapshotSet} :
    (self.publishSuites jobId mirrorSet target).Uses Op.keepsSnapshots := by
  refine (self.publishSuites_uses jobId mirrorSet target).mono fun op used => ?_
  cases used with
  | bookkeeping reads => exact Op.keepsSnapshots_of_bookkeeping reads
  | switchPublished _ _ => exact ⟨trivial, rfl⟩
  | publishSnapshots _ _ => exact ⟨trivial, rfl⟩

theorem switch_keeps {params : JobParams} :
    (self.switch jobId params mirrorSet).Uses Op.keepsSnapshots := by
  unfold JobRunner.switch
  split
  · trivial
  · refine Uses.bind (uses_op ⟨trivial, rfl⟩) fun found => ?_
    split
    · trivial
    · split
      · trivial
      · split
        · trivial
        · exact publishSuites_keeps

theorem execute_whole {loaded : Option MirrorSet} (started : Started jobId job world)
    (whole : world.Whole) :
    Safe (contract self) (fun _ => World.Whole) (fun _ => World.Whole)
      (self.execute jobId job loaded) world := by
  unfold JobRunner.execute
  split
  · exact discard_whole (.of_whole started whole)
  · exact safe_whole remove_keeps whole
  · exact whole
  · exact safe_whole create_keeps whole
  · exact update_whole whole
  · exact safe_whole switch_keeps whole
  · exact whole

/-- An operation around the job's work. -/
theorem safe_started {op : Op} (own : op.ofJob jobId) (keeps : op.keepsSnapshots)
    (started : Started jobId job world) (whole : world.Whole) :
    Safe (contract self) (fun _ after => Started jobId job after ∧ after.Whole)
      (fun _ => World.Whole) (perform op) world := by
  refine safe_op fun event outcome after permitted performed => ?_
  have unharmed := whole.kept (Op.keeps_of_perform keeps permitted.1 performed)
  refine ⟨unharmed.accounted, fun later passed => ?_⟩
  have still := (started.of_perform own performed).passed passed.1
  have kept := unharmed.kept passed.2
  cases outcome with
  | ok value => exact ⟨still, kept⟩
  | error error => exact kept

theorem supervise_whole {loaded : Option MirrorSet} (started : Started jobId job world)
    (whole : world.Whole) :
    Safe (contract self) (fun _ => World.Whole) (fun _ => World.Whole)
      (JobRunner.supervise jobId job loaded (self.execute jobId job loaded)) world := by
  have settles : ∀ state error, state ≠ .queued →
      (JobRunner.settle jobId job loaded state error).Uses Op.keepsSnapshots :=
    fun state error ended => (JobRunner.settle_uses jobId job loaded error ended).mono
      fun _ => Op.keepsSnapshots_of_closes
  refine safe_supervise World.Whole (fun _ => World.Whole) (execute_whole started whole) ?_ ?_ ?_
  · exact fun after whole => safe_whole (settles _ _ nofun) whole
  · intro error after _ whole
    have fails := (JobRunner.failRunningSteps_uses jobId error.text).mono
      fun _ => Op.keepsSnapshots_of_closes
    refine safe_whole (Uses.bind fails.attempt fun recorded => ?_) whole
    exact Uses.bind (settles _ _ nofun) fun _ => Coroutine.uses_ofExcept _
  · exact fun error after _ whole =>
      safe_whole (Uses.bind (settles _ _ nofun) fun _ => trivial) whole

theorem runLoaded_whole {loaded : Option MirrorSet} (started : Started jobId job world)
    (whole : world.Whole) :
    Safe (contract self) (fun _ => World.Whole) (fun _ => World.Whole)
      (self.runLoaded jobId job loaded) world := by
  unfold JobRunner.runLoaded
  split
  · exact whole
  · refine Safe.bind (safe_started ?_ ⟨?_, rfl⟩ started whole) fun _ _ ready =>
      supervise_whole ready.1 ready.2
    · simp [Op.ofJob, Write.ofJob, Job.Advances]
    · simp [Op.recordsNothing, Write.recordsNothing]

theorem runJob_whole (whole : world.Whole) :
    Safe (contract self) (fun _ => World.Whole) (fun _ => World.Whole) (self.runJob jobId) world := by
  have begins : Safe (contract self)
      (fun (_ : Unit) after => after.currentJob = some jobId ∧ after.Whole) (fun _ => World.Whole)
      (beginJob jobId) world := by
    have begun : World.Whole { world with
        currentJob := some jobId, nextPosition := 0, sessionBroken := false } := whole
    exact safe_beginJob ⟨begun.accounted, fun later passed =>
      ⟨passed.1.currentJob, begun.kept passed.2⟩⟩
  refine Safe.bind begins ?_
  rintro _ begun ⟨current, whole⟩
  have reads : Safe (contract self) (fun (found : Option Job) after => after.Whole ∧
      ∀ job, found = some job → Started jobId job after) (fun _ => World.Whole) (getJob jobId) begun := by
    refine safe_query (.getJob .job jobId) (fun world => world.db.jobs.get? jobId) (fun _ => rfl)
      ?_ ?_ ?_
    · refine fun _ _ => .ok whole.accounted fun later passed =>
        ⟨whole.kept passed.2, fun job found => ?_⟩
      have started : Started jobId job begun := ⟨⟨job, found, rfl, rfl⟩, current⟩
      exact started.passed passed.1
    · exact fun _ _ => .error whole.accounted fun later passed => whole.kept passed.2
    · intro _ _ _
      have broken : World.Whole { begun with sessionBroken := true } := whole
      exact .error broken.accounted fun later passed => broken.kept passed.2
  refine Safe.bind reads ?_
  rintro found ready ⟨whole, started⟩
  cases found with
  | none => exact whole
  | some job =>
      have started := started job rfl
      dsimp only
      split
      · exact runLoaded_whole started whole
      · refine Safe.bind (safe_started trivial ⟨trivial, rfl⟩ started whole) fun mirrorSet _ ready => ?_
        exact runLoaded_whole ready.1 ready.2

/-! ### The service -/

theorem keeps_of_external {before after : System} {label : Label}
    (uses : ∀ request ∈ before.requests, request.Uses Op.forRequest) (external : label.external)
    (alone : before.alone label = true) (stepped : before.step self label = some after) :
    before.world.Keeps after.world := by
  have others := System.others_of_external uses external stepped
  refine ⟨others.db.snapshotSets, fun name listed => ?_⟩
  rcases System.aptly_of_external uses external stepped with rfl | same
  · exact (sameSnapshots_iff.mp alone name).mpr listed
  · rw [same]
    exact listed

/-- A process is stopped only while each COMPLETE set has its snapshots. -/
def stopsWhole (self : JobRunner) (system : System) (label : Label) : Prop :=
  (system.alone label && system.discardsInOne self label) = true ∧
    (label = .crash → system.world.Whole)

/-- Whenever the worker runs no job, each COMPLETE set has its snapshots. -/
def outline {start : System} (fresh : start.Fresh) (whole : start.world.Whole) :
    Outline self (stopsWhole self) start where
  contract := contract self
  always := World.Accounted
  rest _ := World.Whole
  requests := fresh.requests_use
  entry := whole.accounted
  begins := .fresh fresh whole
  relies accounted passed := accounted.kept passed.2 passed.1.log
    fun _ current => passed.1.currentJob.symm.trans current
  guarantees _ accounted := accounted
  unmoved accounted db log aptly current := accounted.kept (.of_same db aptly) log current
  recovers accounted := accounted.kept ⟨fun _ _ found => found, fun _ listed => listed⟩ rfl
    fun _ current => current
  stays whole passed := whole.kept passed.2
  others reached permitted external stepped := by
    have uses := reached.requests_use fresh.requests_use
    have alone := (Bool.and_eq_true_iff.mp permitted.1).1
    exact ⟨System.others_of_external uses external stepped, keeps_of_external uses external alone stepped⟩
  allows _ permitted running := by
    have permitted := permitted.1
    simp only [System.alone, System.discardsInOne, running, Worker.awaits, Option.all_some,
      Bool.and_eq_true] at permitted
    exact permitted
  takes := by
    intro system jobId waiting _ _ _ _ _ whole later passed
    have taken : (system.world.take jobId waiting).Whole := whole
    refine (runJob_whole (taken.kept passed.2)).mono (fun _ _ whole => ?_) fun error after whole => ?_
    · exact whole.kept (.of_same (World.released_db _ _) (World.released_aptly _ _))
    · exact whole.kept (.of_same (World.released_db _ _) (World.released_aptly _ _))
  crashes _ permitted _ _ := (permitted.2 rfl).kept (.of_same rfl rfl)
  starts _ whole := whole.kept ⟨fun _ _ found => found, fun _ listed => listed⟩

/-- The program has just been taken, or the worker knows whose it is. -/
def Known (self : JobRunner) (program : Program Unit) (world : World) : Prop :=
  (∃ jobId, program = self.runJob jobId) ∨ ∃ jobId, world.currentJob = some jobId

theorem current_of_begins {event : Event} {outcome : Except Exn Unit}
    (performed : Op.perform (.beginJob jobId) event world = some (outcome, after)) :
    after.currentJob = some jobId := by
  cases event with
  | proceed =>
      cases performed
      rfl
  | _ => cases performed

/-- The first thing a job does is to set `current_job_id`. -/
theorem Known.current_of_work {before after : System} {event : Event}
    (known : ∀ program, before.worker = .running program → Known self program before.world)
    (stepped : before.step self (.work event) = some after) {program : Program Unit}
    (running : after.worker = .running program) : ∃ jobId, after.world.currentJob = some jobId := by
  obtain ⟨old, next, world, worked, progressed, rfl⟩ := System.step_work stepped
  change Worker.resume next = .running program at running
  rw [running]
  change ∃ jobId, world.currentJob = some jobId
  obtain ⟨op, resume, outcome, rfl, performed, -⟩ := Coroutine.step_eq_some progressed
  have performed : op.perform event before.world = some (outcome, world) := performed
  rcases known _ worked with ⟨jobId, begins⟩ | ⟨jobId, current⟩
  · rw [JobRunner.runJob, beginJob] at begins
    cases begins
    exact ⟨jobId, current_of_begins performed⟩
  · cases op with
    | beginJob other => exact ⟨other, current_of_begins performed⟩
    | _ => exact ⟨jobId, ((Op.perform_frame performed).currentJob rfl).trans current⟩

theorem known_of_reached {condition : System → Label → Prop} {start system : System}
    (fresh : start.Fresh) (reached : System.Reachable self condition start system) :
    ∀ program, system.worker = .running program → Known self program system.world := by
  induction reached with
  | refl =>
      intro program running
      rw [fresh.worker] at running
      cases running
  | @step before after label earlier permitted stepped inductionHypothesis =>
      intro program running
      by_cases external : label.external = true
      · have uses := earlier.requests_use fresh.requests_use
        rw [System.worker_of_external external stepped] at running
        rw [Known, (System.others_of_external uses external stepped).currentJob]
        exact inductionHypothesis program running
      · cases label with
        | take =>
            obtain ⟨jobId, rest, -, -, rfl⟩ := System.step_take stepped
            cases running
            exact .inl ⟨jobId, rfl⟩
        | work event => exact .inr (Known.current_of_work inductionHypothesis stepped running)
        | crash =>
            cases stepped
            cases running
        | start =>
            obtain ⟨-, rfl⟩ := System.step_start stepped
            cases running
        | _ => exact absurd rfl external

/-- A process that is stopped only while its job has not cut into a COMPLETE set is stopped only
while these sets are whole. -/
theorem stopsWhole_of_reached {start system : System} (fresh : start.Fresh)
    (whole : start.world.Whole)
    (reached : System.Reachable self
      (fun system label => system.alone label && system.discardsInOne self label) start system) :
    System.Reachable self (stopsWhole self) start system ∧
      (system.world.currentJob = none → system.world.Whole) := by
  have known := known_of_reached fresh reached
  induction reached with
  | refl => exact ⟨.refl, fun _ => whole⟩
  | @step before after label earlier permitted stepped inductionHypothesis =>
      obtain ⟨reached, rests⟩ := inductionHypothesis (known_of_reached fresh earlier)
      have held := (outline fresh whole).holds reached
      have stops : label = .crash → before.world.Whole := by
        rintro rfl
        have uncut : before.world.cutInto = [] :=
          List.isEmpty_iff.mp (Bool.and_eq_true_iff.mp permitted).2
        cases current : before.world.currentJob with
        | none => exact rests current
        | some jobId => exact held.always.whole current uncut
      have reaches : System.Reachable self (stopsWhole self) start after :=
        .step reached ⟨permitted, stops⟩ stepped
      refine ⟨reaches, fun idle => ?_⟩
      have rested := ((outline fresh whole).holds reaches).worker.rests
      by_cases external : label.external = true
      · have uses := earlier.requests_use fresh.requests_use
        rw [(System.others_of_external uses external stepped).currentJob] at idle
        exact (rests idle).kept
          (keeps_of_external uses external (Bool.and_eq_true_iff.mp permitted).1 stepped)
      · cases label with
        | take =>
            obtain ⟨jobId, rest, resting, -, rfl⟩ := System.step_take stepped
            exact rests idle
        | work event =>
            refine rested fun program running => ?_
            obtain ⟨jobId, current⟩ :=
              Known.current_of_work (known_of_reached fresh earlier) stepped running
            rw [current] at idle
            cases idle
        | crash =>
            cases stepped
            exact rested fun program running => by cases running
        | start =>
            obtain ⟨-, rfl⟩ := System.step_start stepped
            exact rested fun program running => by cases running
        | _ => exact absurd rfl external

end Whole

/-- Whenever no job runs, each COMPLETE set records only snapshots that exist in aptly, in every run
in which aptly does what it is asked or nothing, nobody else changes its snapshots, and jobs that
discard COMPLETE sets go through without a hitch from their first deletion on. -/
theorem complete_sets_are_whole {self : JobRunner} {start system : System} (fresh : start.Fresh)
    (whole : start.world.Whole)
    (reached : System.Reachable self
      (fun system label => system.alone label && system.discardsInOne self label) start system)
    (resting : ∀ program, system.worker ≠ .running program) : system.world.Whole :=
  ((Whole.outline fresh whole).holds (Whole.stopsWhole_of_reached fresh whole reached).1).worker.rests
    resting

namespace Whole

/-! ### A discard cut short -/

def taken : SnapshotSet where
  mirrorSetId := 1
  snapshots := .ofList [("stable-main", "stable-main-20260911T0800Z"),
    ("stable-contrib", "stable-contrib-20260911T0800Z")]
  state := .complete
  jobId := none

def held (snapshots : List String) : Aptly := { Sample.mirrored with snapshots := snapshots }

/-- One COMPLETE set of two snapshots, both of which aptly has. -/
def service : System :=
  .blank
    { Database.empty with
      mirrorSets := Database.empty.mirrorSets.insert
        { Sample.debian with components := ["main", "contrib"] }
      snapshotSets := Database.empty.snapshotSets.insert taken }
    (held taken.snapshots.values)

/-- The operator discards the set, and aptly deletes the first of its snapshots. -/
def halfway : List Label :=
  [.start, .arrive (.web (.discardSetSubmit "operator" 1 1)), .serve 0 .proceed,
    .serve 0 (.cached ⟨[], [], []⟩), .serve 0 .proceed, .serve 0 .proceed, .take] ++
    List.replicate 6 (.work .proceed) ++
    [.work (.reply .nothing (held ["stable-main-20260911T0800Z"]))] ++
    List.replicate 3 (.work .proceed)

/-- aptly does not answer the second deletion, so the job ends FAILED. -/
def cutShort : List Label :=
  halfway ++ .work (.fault (.aptlyError "connection reset") false
    (held ["stable-main-20260911T0800Z"])) :: List.replicate 4 (.work .proceed)

/-- The discard goes through. -/
def goesThrough : List Label :=
  halfway ++ .work (.reply .nothing (held [])) :: List.replicate 3 (.work .proceed) ++
    Sample.task 1 ++ List.replicate 3 (.work .proceed)

theorem service_whole : service.world.Whole := by decide

end Whole

theorem not_complete_sets_are_whole : ¬ ∀ (self : JobRunner) (start system : System)
    (labels : List Label), start.Fresh → start.world.Whole →
    start.runUnder self (fun system label => system.alone label && System.uninterrupted label) labels =
      some system →
    (∀ program, system.worker ≠ .running program) → system.world.Whole := by
  intro claimed
  have dented : (Whole.service.runUnder Sample.runner
      (fun system label => system.alone label && System.uninterrupted label) Whole.cutShort).any
      (fun system => system.worker.isIdle && !decide system.world.Whole) = true := by
    decide
  obtain ⟨system, ran, dented⟩ := (Option.any_eq_true _ _).mp dented
  simp only [Bool.and_eq_true, Bool.not_eq_true', decide_eq_false_iff_not] at dented
  have idle := Worker.eq_idle dented.1
  exact dented.2 (claimed _ _ _ _ (System.blank_fresh _ _) Whole.service_whole ran
    fun program running => by rw [idle] at running; cases running)

theorem complete_sets_are_whole_discard : ∃ system,
    Whole.service.runUnder Sample.runner
      (fun system label => system.alone label && system.discardsInOne Sample.runner label)
      Whole.goesThrough = some system ∧
    system.world.db.snapshotSets.get? 1 = none ∧ system.world.aptly.snapshots = [] ∧
    system.world.Whole := by
  have runs : (Whole.service.runUnder Sample.runner
      (fun system label => system.alone label && system.discardsInOne Sample.runner label)
      Whole.goesThrough).any (fun system => system.worker.isIdle &&
        (system.world.db.snapshotSets.get? 1).isNone && system.world.aptly.snapshots.isEmpty) =
          true := by
    decide
  obtain ⟨system, ran, ended⟩ := (Option.any_eq_true _ _).mp runs
  simp only [Bool.and_eq_true, Option.isNone_iff_eq_none, List.isEmpty_iff] at ended
  have idle := Worker.eq_idle ended.1.1
  exact ⟨system, ran, ended.1.2, ended.2,
    complete_sets_are_whole (System.blank_fresh _ _) Whole.service_whole (.of_runUnder ran)
      fun program running => by rw [idle] at running; cases running⟩

end AptlyGui
