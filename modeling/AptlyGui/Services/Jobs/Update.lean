import AptlyGui.Services.Jobs.Alone
import AptlyGui.Services.Jobs.Records

/-!
# An update that runs alone

Its calls in their order, what has to have been answered before each of them,
and how the snapshot set it adds stays in step with what aptly has created.
-/

namespace AptlyGui

open Coroutine (Safe)

/-! ## Calls -/

/-- The calls that change what aptly holds. -/
def writesIn (sent : List Exchange) : List Request :=
  (sent.map Exchange.request).filter Request.writes

/-- The snapshot that a call has created, with the mirror it was taken of. -/
def Exchange.creation : Exchange → Option (String × String)
  | ⟨.createSnapshotFromMirror mirror name _, .ok (.snapshot _)⟩ => some (mirror, name)
  | _ => none

def createdIn (sent : List Exchange) : List (String × String) := sent.filterMap Exchange.creation

@[simp]
theorem writesIn_append (first second : List Exchange) :
    writesIn (first ++ second) = writesIn first ++ writesIn second := by
  simp [writesIn]

@[simp]
theorem createdIn_append (first second : List Exchange) :
    createdIn (first ++ second) = createdIn first ++ createdIn second :=
  List.filterMap_append

/-- Reading from aptly neither changes nor creates anything. -/
theorem idle_of_reads {more : List Exchange}
    (reads : ∀ exchange ∈ more, exchange.request.writes = false) :
    writesIn more = [] ∧ createdIn more = [] := by
  constructor
  · simpa [writesIn, List.filter_eq_nil_iff] using reads
  · refine List.filterMap_eq_nil_iff.mpr fun exchange listed => ?_
    have read := reads exchange listed
    obtain ⟨request, outcome⟩ := exchange
    cases request <;> first | rfl | cases read

theorem Request.writes_of_polls {request : Request} (polls : request.polls = true) :
    request.writes = false := by
  cases request <;> first | rfl | cases polls

namespace MirrorSet

variable (mirrorSet : MirrorSet) (stamp : String) (jobId : Nat)

def snapshotName (pair : String × String) : String :=
  s!"{mirrorSet.mirrorName pair.1 pair.2}-{stamp}"

/-- The call that syncs one mirror. -/
def syncing (pair : String × String) : Request :=
  .updateMirror (specFor mirrorSet pair.1 pair.2)

/-- The call that takes one snapshot. -/
def taking (pair : String × String) : Request :=
  .createSnapshotFromMirror (mirrorSet.mirrorName pair.1 pair.2) (mirrorSet.snapshotName stamp pair)
    s!"aptly-gui job {jobId}"

/-- The recorded map with one more snapshot. -/
def recorded (taken : Dict String String) (pair : String × String) : Dict String String :=
  taken.set (mirrorSet.mirrorName pair.1 pair.2) (mirrorSet.snapshotName stamp pair)

/-- Every call of an update that changes what aptly holds, in order. -/
def calls : List Request :=
  mirrorSet.pairs.map mirrorSet.syncing ++ mirrorSet.pairs.map (mirrorSet.taking stamp jobId)

end MirrorSet

/-! ## Order -/

/-- The job's first two requests: every mirror was there, and there was room. -/
def Cleared (margin : Margin) (mirrorSet : MirrorSet) (sent : List Exchange) : Prop :=
  ∃ mirrors storage rest, sent = ⟨.listMirrors, .ok (.mirrors mirrors)⟩ ::
      ⟨.storage, .ok (.storage storage)⟩ :: rest ∧
    (∀ name ∈ mirrorSet.expectedMirrors, name ∈ mirrors.map Mirror.name) ∧
    (checkSpace storage margin none).ok = true

/-- The sync was started, and its task was seen to have succeeded. -/
def Synced (mirrorSet : MirrorSet) (sent : List Exchange) (pair : String × String) : Prop :=
  ∃ started done, ⟨mirrorSet.syncing pair, .ok (.task started)⟩ ∈ sent ∧
    ⟨.getTask started.id, .ok (.task done)⟩ ∈ sent ∧ done.state = .succeeded

/-- What has to have been answered before a request. -/
def Due (margin : Margin) (mirrorSet : MirrorSet) (sent : List Exchange) : Request → Prop
  | .updateMirror _ => Cleared margin mirrorSet sent
  | .createSnapshotFromMirror _ _ _ => ∀ pair ∈ mirrorSet.pairs, Synced mirrorSet sent pair
  | _ => True

def Disciplined (margin : Margin) (mirrorSet : MirrorSet) (sent : List Exchange) : Prop :=
  ∀ earlier exchange later, sent = earlier ++ exchange :: later →
    Due margin mirrorSet earlier exchange.request

section Order

variable {margin : Margin} {mirrorSet : MirrorSet} {sent : List Exchange}

theorem Cleared.append (cleared : Cleared margin mirrorSet sent) (more : List Exchange) :
    Cleared margin mirrorSet (sent ++ more) := by
  obtain ⟨mirrors, storage, rest, rfl, there, room⟩ := cleared
  exact ⟨mirrors, storage, rest ++ more, rfl, there, room⟩

theorem Synced.append {pair : String × String} (synced : Synced mirrorSet sent pair)
    (more : List Exchange) : Synced mirrorSet (sent ++ more) pair := by
  obtain ⟨started, done, asked, answered, succeeded⟩ := synced
  exact ⟨started, done, List.mem_append_left _ asked, List.mem_append_left _ answered, succeeded⟩

theorem disciplined_nil : Disciplined margin mirrorSet [] := by
  intro earlier exchange later whole
  simp at whole

theorem Disciplined.ask (disciplined : Disciplined margin mirrorSet sent) {request : Request}
    (due : Due margin mirrorSet sent request) (outcome : Except Exn Reply) :
    Disciplined margin mirrorSet (sent ++ [⟨request, outcome⟩]) := by
  intro earlier exchange later whole
  rcases List.eq_nil_or_concat later with rfl | ⟨front, last, rfl⟩
  · obtain ⟨rfl, same⟩ := List.append_inj' whole rfl
    cases same
    exact due
  · rw [List.concat_eq_append, ← List.cons_append, ← List.append_assoc] at whole
    exact disciplined earlier exchange front (List.append_inj' whole rfl).1

theorem due_of_reads {request : Request} (reads : request.writes = false) :
    Due margin mirrorSet sent request := by
  cases request <;> trivial

theorem Disciplined.polls (disciplined : Disciplined margin mirrorSet sent) {more : List Exchange}
    (reads : ∀ exchange ∈ more, exchange.request.writes = false) :
    Disciplined margin mirrorSet (sent ++ more) := by
  induction more generalizing sent with
  | nil => simpa using disciplined
  | cons exchange rest inductionHypothesis =>
      rw [← List.singleton_append, ← List.append_assoc]
      exact inductionHypothesis
        (disciplined.ask (due_of_reads (reads exchange (by simp))) exchange.outcome)
        fun other listed => reads other (List.mem_cons_of_mem _ listed)

end Order

/-! ## The report -/

namespace Update

/-- The calls so far are the first ones, each sent when it was due. -/
structure Ordered (margin : Margin) (mirrorSet : MirrorSet) (jobId : Nat) (sent : List Exchange) :
    Prop where
  calls : ∃ stamp, writesIn sent <+: mirrorSet.calls stamp jobId
  disciplined : Disciplined margin mirrorSet sent

/-- The job's own rows are in this state and record what has been created. -/
def Exact (jobId : Nat) (state : SnapshotSetState) (trace : Trace) : Prop :=
  ∀ id row, trace.snapshotSets.get? id = some row → row.jobId = some jobId →
    row.state = state ∧ ∀ mirror name, row.snapshots.get? mirror = some name ↔
      (mirror, name) ∈ createdIn trace.sent

/-- What an update that has succeeded has done. -/
structure Succeeds (mirrorSet : MirrorSet) (jobId : Nat) (trace : Trace) : Prop where
  exact : Exact jobId .complete trace
  added : ∃ id row, trace.snapshotSets.get? id = some row ∧ row.jobId = some jobId ∧
    row.mirrorSetId = mirrorSet.id
  calls : ∃ stamp, writesIn trace.sent = mirrorSet.calls stamp jobId

def report (margin : Margin) (mirrorSet : MirrorSet) (jobId : Nat) : Report where
  during sent _ := Ordered margin mirrorSet jobId sent
  failed := Exact jobId .incomplete
  succeeded := Succeeds mirrorSet jobId
  waits := by
    intro sent sets request outcome _ polls ordered
    have reads : ∀ exchange ∈ [(⟨request, outcome⟩ : Exchange)], exchange.request.writes = false := by
      simpa using Request.writes_of_polls polls
    refine ⟨?_, ordered.disciplined.polls reads⟩
    rw [writesIn_append, (idle_of_reads reads).1, List.append_nil]
    exact ordered.calls

variable {margin : Margin} {mirrorSet : MirrorSet} {jobId : Nat} {self : JobRunner} {world : World}
  {origin : Table SnapshotSet}

/-- How the work of an update raises. -/
abbrev Gives (margin : Margin) (mirrorSet : MirrorSet) (jobId : Nat) : Exn → World → Prop :=
  Alone.Raises (report margin mirrorSet jobId) jobId fun trace => Exact jobId .incomplete trace.failed

theorem Exact.of_unowned {trace : Trace} {state : SnapshotSetState}
    (unowned : ∀ id row, trace.snapshotSets.get? id = some row → row.jobId ≠ some jobId) :
    Exact jobId state trace :=
  fun id row found mine => absurd mine (unowned id row found)

theorem ordered_of_reads {sent : List Exchange}
    (reads : ∀ exchange ∈ sent, exchange.request.writes = false) :
    Ordered margin mirrorSet jobId sent := by
  refine ⟨⟨"", ?_⟩, disciplined_nil.polls reads⟩
  rw [(idle_of_reads reads).1]
  exact List.nil_prefix

theorem preflight_at (unowned : ∀ id row, origin.get? id = some row → row.jobId ≠ some jobId)
    (working : Alone.At (report self.margin mirrorSet jobId) jobId ⟨[], [], origin⟩ none world) :
    Safe (Alone.contract (report self.margin mirrorSet jobId) jobId)
      (fun _ after => ∃ steps sent, Cleared self.margin mirrorSet sent ∧
        (∀ exchange ∈ sent, exchange.request.writes = false) ∧
        Alone.At (report self.margin mirrorSet jobId) jobId ⟨steps, sent, origin⟩ none after)
      (Gives self.margin mirrorSet jobId) (self.preflight jobId mirrorSet) world := by
  have gives : ∀ {error : Exn} {steps : List (String × StepState)} {sent : List Exchange}
      {doing : Option Nat} {after : World}, error.isException = true →
      Alone.At (report self.margin mirrorSet jobId) jobId ⟨steps, sent, origin⟩ doing after →
      Gives self.margin mirrorSet jobId error after :=
    fun caught working => Alone.Raised.raises ⟨caught, working⟩ (.of_unowned unowned)
  refine Safe.bind (Alone.addStep_at "Preflight" working) fun step before working => ?_
  refine Safe.bind ((Alone.askStep_at working fun outcome => ordered_of_reads ?_).mono
    (fun _ _ reached => reached) ?_) ?_
  · simp [Request.writes]
  · rintro error after ⟨caught, outcome, -, working⟩
    exact gives caught working
  rintro mirrors after ⟨body, parsed, working⟩
  obtain rfl : body = .mirrors mirrors := by
    cases body <;> cases parsed
    rfl
  dsimp only
  split
  · refine Safe.bind (Alone.finishStep_at _ working) fun _ last working => ?_
    exact gives rfl working
  · rename_i complete
    refine Safe.bind ((Alone.askStep_at working fun outcome => ordered_of_reads ?_).mono
      (fun _ _ reached => reached) ?_) ?_
    · simp [Trace.saw, Request.writes]
    · rintro error last ⟨caught, outcome, -, working⟩
      exact gives caught working
    rintro storage last ⟨body, parsed, working⟩
    obtain rfl : body = .storage storage := by
      cases body <;> cases parsed
      rfl
    split
    · rename_i room
      refine (Alone.finishStep_at _ working).mono (fun _ _ working => ?_) fun _ _ failed => failed
      refine ⟨_, _, ⟨mirrors, storage, [], rfl, ?_, room⟩, ?_, working⟩
      · simpa [List.filter_eq_nil_iff] using complete
      · simp [Request.writes]
    · refine Safe.bind (Alone.finishStep_at _ working) fun _ _ working => ?_
      exact gives rfl working

/-- The update is between two calls: these mirrors are synced, these snapshots are taken, and its
row records them. -/
structure Between (margin : Margin) (mirrorSet : MirrorSet) (jobId : Nat) (stamp : String) (id : Nat)
    (taken : Dict String String) (synced done : List (String × String)) (sent : List Exchange)
    (sets : Table SnapshotSet) : Prop where
  cleared : Cleared margin mirrorSet sent
  disciplined : Disciplined margin mirrorSet sent
  calls : writesIn sent =
    synced.map mirrorSet.syncing ++ done.map (mirrorSet.taking stamp jobId)
  syncs : ∀ pair ∈ synced, Synced mirrorSet sent pair
  stamped : ∀ created ∈ createdIn sent, ∃ pair ∈ done,
    created = (mirrorSet.mirrorName pair.1 pair.2, mirrorSet.snapshotName stamp pair)
  row : ∃ row, sets.get? id = some row ∧ row.state = .incomplete ∧ row.snapshots = taken ∧
    row.mirrorSetId = mirrorSet.id ∧ row.jobId = some jobId
  only : ∀ other row, sets.get? other = some row → row.jobId = some jobId → other = id
  recorded : ∀ mirror name, taken.get? mirror = some name ↔ (mirror, name) ∈ createdIn sent

section Between

variable {stamp : String} {id : Nat} {taken : Dict String String}
  {synced done : List (String × String)} {sent more : List Exchange} {sets : Table SnapshotSet}

theorem Between.exact (between : Between margin mirrorSet jobId stamp id taken synced done sent sets)
    (more : List Exchange) (nothing : createdIn more = [])
    (steps : List (String × StepState)) :
    Exact jobId .incomplete ⟨steps, sent ++ more, sets⟩ := by
  intro other row found mine
  obtain ⟨row', known, incomplete, same, -⟩ := between.row
  obtain rfl := between.only other row found mine
  cases known.symm.trans found
  refine ⟨incomplete, fun mirror name => ?_⟩
  rw [same, between.recorded, createdIn_append, nothing, List.append_nil]

/-- Reading from aptly leaves the update where it is. -/
theorem Between.reads (between : Between margin mirrorSet jobId stamp id taken synced done sent sets)
    (reads : ∀ exchange ∈ more, exchange.request.writes = false) :
    Between margin mirrorSet jobId stamp id taken synced done (sent ++ more) sets := by
  obtain ⟨writes, creates⟩ := idle_of_reads reads
  have created : createdIn (sent ++ more) = createdIn sent := by
    rw [createdIn_append, creates, List.append_nil]
  refine ⟨between.cleared.append more, between.disciplined.polls reads, ?_,
    fun pair listed => (between.syncs pair listed).append more, ?_, between.row, between.only, ?_⟩
  · rw [writesIn_append, writes, List.append_nil]
    exact between.calls
  · rw [created]
    exact between.stamped
  · rw [created]
    exact between.recorded

theorem Between.ordered (between : Between margin mirrorSet jobId stamp id taken synced done sent sets)
    (calls : writesIn sent <+: mirrorSet.calls stamp jobId) : Ordered margin mirrorSet jobId sent :=
  ⟨⟨stamp, calls⟩, between.disciplined⟩

/-- The next sync may be asked for. -/
theorem Between.sync {pair : String × String} {rest : List (String × String)}
    (between : Between margin mirrorSet jobId stamp id taken synced [] sent sets)
    (order : mirrorSet.pairs = synced ++ pair :: rest) (outcome : Except Exn Reply) :
    Ordered margin mirrorSet jobId (sent ++ [⟨mirrorSet.syncing pair, outcome⟩]) ∧
      createdIn [⟨mirrorSet.syncing pair, outcome⟩] = [] := by
  have due : Due margin mirrorSet sent (mirrorSet.syncing pair) := between.cleared
  refine ⟨⟨⟨stamp, ?_⟩, between.disciplined.ask due outcome⟩, rfl⟩
  rw [writesIn_append, between.calls, MirrorSet.calls, order]
  simp only [List.map_nil, List.append_nil, List.map_append, List.map_cons, List.append_assoc]
  exact List.prefix_append_right_inj _ |>.mpr (List.prefix_append _ _)

/-- The next snapshot may be asked for. -/
theorem Between.take {pair : String × String} {rest : List (String × String)}
    (between : Between margin mirrorSet jobId stamp id taken mirrorSet.pairs done sent sets)
    (order : mirrorSet.pairs = done ++ pair :: rest) (outcome : Except Exn Reply) :
    Ordered margin mirrorSet jobId (sent ++ [⟨mirrorSet.taking stamp jobId pair, outcome⟩]) := by
  have due : Due margin mirrorSet sent (mirrorSet.taking stamp jobId pair) := between.syncs
  refine ⟨⟨stamp, ?_⟩, between.disciplined.ask due outcome⟩
  rw [writesIn_append, between.calls, MirrorSet.calls, List.append_assoc]
  refine List.prefix_append_right_inj _ |>.mpr ?_
  rw [order, List.map_append, List.map_cons]
  exact List.prefix_append_right_inj _ |>.mpr (List.prefix_append [_] _)

/-- A sync whose task has succeeded. -/
theorem Between.followed {pair : String × String} {rest : List (String × String)} {started ended : Task}
    (between : Between margin mirrorSet jobId stamp id taken synced [] sent sets)
    (order : mirrorSet.pairs = synced ++ pair :: rest)
    (reads : ∀ exchange ∈ more, exchange.request.writes = false)
    (answered : ⟨.getTask started.id, .ok (.task ended)⟩ ∈ more) (succeeded : ended.state = .succeeded) :
    Between margin mirrorSet jobId stamp id taken (synced ++ [pair]) []
      (sent ++ [⟨mirrorSet.syncing pair, .ok (.task started)⟩] ++ more) sets := by
  have call : writesIn [⟨mirrorSet.syncing pair, .ok (.task started)⟩] = [mirrorSet.syncing pair] := rfl
  obtain ⟨writes, creates⟩ := idle_of_reads reads
  obtain ⟨asked, none⟩ := between.sync order (.ok (.task started))
  have created : createdIn (sent ++ [⟨mirrorSet.syncing pair, .ok (.task started)⟩] ++ more) =
      createdIn sent := by
    rw [createdIn_append, createdIn_append, none, creates, List.append_nil, List.append_nil]
  refine ⟨(between.cleared.append _).append _, asked.disciplined.polls reads, ?_, ?_, ?_, between.row,
    between.only, ?_⟩
  · rw [writesIn_append, writesIn_append, between.calls, writes, call]
    simp
  · intro other listed
    rcases List.mem_append.mp listed with before | here
    · exact ((between.syncs other before).append _).append _
    · obtain rfl := List.mem_singleton.mp here
      exact ⟨started, ended, by simp, by simp [answered], succeeded⟩
  · rw [created]
    exact between.stamped
  · rw [created]
    exact between.recorded

/-- A snapshot that has been created and recorded. -/
theorem Between.took {pair : String × String} {rest : List (String × String)} {snapshot : Snapshot}
    (between : Between margin mirrorSet jobId stamp id taken mirrorSet.pairs done sent sets)
    (order : mirrorSet.pairs = done ++ pair :: rest) :
    Between margin mirrorSet jobId stamp id
      (mirrorSet.recorded stamp taken pair) mirrorSet.pairs (done ++ [pair])
      (sent ++ [⟨mirrorSet.taking stamp jobId pair, .ok (.snapshot snapshot)⟩])
      (sets.update id fun row => { row with snapshots := mirrorSet.recorded stamp taken pair }) := by
  have call : writesIn [⟨mirrorSet.taking stamp jobId pair, .ok (.snapshot snapshot)⟩] =
      [mirrorSet.taking stamp jobId pair] := rfl
  have created : createdIn (sent ++ [⟨mirrorSet.taking stamp jobId pair, .ok (.snapshot snapshot)⟩]) =
      createdIn sent ++ [(mirrorSet.mirrorName pair.1 pair.2, mirrorSet.snapshotName stamp pair)] := by
    rw [createdIn_append]
    rfl
  obtain ⟨row, found, incomplete, -, owner, mine⟩ := between.row
  have known : (sets.update id fun row =>
        { row with snapshots := mirrorSet.recorded stamp taken pair }).get? id =
      some { row with id := id, snapshots := mirrorSet.recorded stamp taken pair } := by
    rw [Table.get?_update, if_pos rfl, found]
    rfl
  refine ⟨between.cleared.append _, (between.take order _).disciplined, ?_,
    fun other listed => (between.syncs other listed).append _, ?_,
    ⟨_, known, incomplete, rfl, owner, mine⟩, ?_, ?_⟩
  · rw [writesIn_append, between.calls, call]
    simp
  · intro other listed
    rw [created] at listed
    rcases List.mem_append.mp listed with before | here
    · obtain ⟨earlier, among, same⟩ := between.stamped other before
      exact ⟨earlier, List.mem_append_left _ among, same⟩
    · exact ⟨pair, by simp, List.mem_singleton.mp here⟩
  · intro other row present owned
    rw [Table.get?_update] at present
    split at present
    · assumption
    · exact between.only other row present owned
  · intro mirror name
    rw [MirrorSet.recorded, Dict.get?_set, created, List.mem_append, List.mem_singleton]
    split
    · rename_i same
      subst same
      constructor
      · rintro ⟨⟩
        exact .inr rfl
      · rintro (before | here)
        · -- the name of a snapshot is that of its mirror and the stamp
          obtain ⟨earlier, -, same⟩ := between.stamped _ before
          obtain ⟨mirrors, names⟩ := Prod.mk.inj same
          rw [names, MirrorSet.snapshotName, MirrorSet.snapshotName, mirrors]
        · rw [(Prod.mk.inj here).2]
    · rename_i other
      rw [between.recorded]
      constructor
      · exact .inl
      · rintro (before | here)
        · exact before
        · exact absurd (Prod.mk.inj here).1 other

end Between

/-! ## The program -/

/-- The position of an update between two calls. -/
def Here (margin : Margin) (mirrorSet : MirrorSet) (jobId : Nat) (stamp : String) (id : Nat)
    (taken : Dict String String) (synced done : List (String × String)) (world : World) : Prop :=
  ∃ steps sent sets, Between margin mirrorSet jobId stamp id taken synced done sent sets ∧
    Alone.At (report margin mirrorSet jobId) jobId ⟨steps, sent, sets⟩ none world

section Program

variable {stamp : String} {id : Nat} {taken : Dict String String}
  {synced done rest : List (String × String)} {pair : String × String}

theorem syncEach_at (order : mirrorSet.pairs = synced ++ pair :: rest)
    (here : Here self.margin mirrorSet jobId stamp id taken synced [] world) :
    Safe (Alone.contract (report self.margin mirrorSet jobId) jobId)
      (fun _ => Here self.margin mirrorSet jobId stamp id taken (synced ++ [pair]) [])
      (Gives self.margin mirrorSet jobId)
      (self.syncEach jobId mirrorSet pair.1 pair.2) world := by
  obtain ⟨steps, sent, sets, between, working⟩ := here
  refine Safe.bind (Alone.addStep_at _ working) fun step before working => ?_
  refine Safe.bind ((Alone.askStep_at working fun outcome => (between.sync order outcome).1).mono
    (fun _ _ reached => reached) ?_) ?_
  · rintro error after ⟨caught, outcome, -, working⟩
    exact Alone.Raised.raises ⟨caught, working⟩
      (between.exact [⟨mirrorSet.syncing pair, outcome⟩] (between.sync order outcome).2 _)
  rintro started after ⟨body, parsed, working⟩
  obtain rfl : body = .task started := by
    cases body <;> cases parsed
    rfl
  refine (Alone.followTask_at (by simp [Trace.saw]) started working).mono ?_ ?_
  · rintro _ last ⟨more, ended, polls, answered, succeeded, working⟩
    have reads : ∀ exchange ∈ more, exchange.request.writes = false :=
      fun exchange listed => Request.writes_of_polls (polls exchange listed)
    exact ⟨_, _, _, between.followed order reads answered succeeded, working⟩
  · rintro error last ⟨caught, more, polls, -, working⟩
    have reads : ∀ exchange ∈ more, exchange.request.writes = false :=
      fun exchange listed => Request.writes_of_polls (polls exchange listed)
    have asked := (between.sync order (.ok (.task started))).2
    have nothing : createdIn ([⟨mirrorSet.syncing pair, .ok (.task started)⟩] ++ more) = [] := by
      rw [createdIn_append, asked, (idle_of_reads reads).2]
      rfl
    have exact := between.exact _ nothing
    rw [← List.append_assoc] at exact
    exact Alone.Raised.raises ⟨caught, working⟩ (exact _)

theorem snapshotEach_at (order : mirrorSet.pairs = done ++ pair :: rest)
    (here : Here self.margin mirrorSet jobId stamp id taken mirrorSet.pairs done world) :
    Safe (Alone.contract (report self.margin mirrorSet jobId) jobId)
      (fun taken => Here self.margin mirrorSet jobId stamp id taken mirrorSet.pairs (done ++ [pair]))
      (Gives self.margin mirrorSet jobId)
      (JobRunner.snapshotEach jobId mirrorSet stamp id taken pair.1 pair.2) world := by
  obtain ⟨steps, sent, sets, between, working⟩ := here
  unfold JobRunner.snapshotEach
  refine Safe.bind (Alone.addStep_at _ working) fun step before working => ?_
  refine Safe.bind ((@Alone.askStep_at _ _ _ _ _ (mirrorSet.taking stamp jobId pair) _ _ working
    fun outcome => between.take order outcome).mono (fun _ _ reached => reached) ?_) ?_
  · rintro error after ⟨caught, outcome, refused, working⟩
    refine Alone.Raised.raises ⟨caught, working⟩
      (between.exact [⟨mirrorSet.taking stamp jobId pair, outcome⟩] ?_ _)
    cases outcome with
    | error other => rfl
    | ok body =>
        have unread := refused body rfl
        cases body <;> first | rfl | cases unread
  rintro snapshot after ⟨body, parsed, working⟩
  obtain rfl : body = .snapshot snapshot := by
    cases body <;> cases parsed
    rfl
  obtain ⟨-, -, -, -, -, -, -, recorded⟩ := working.newest
  obtain ⟨row, found, -⟩ := between.row
  have took := @Between.took _ _ _ _ _ _ _ _ _ _ rest snapshot between order
  have sets := working.sets
  have stored : (after.db.snapshotSets.get? id).isSome = true := by
    rw [sets]
    exact Option.isSome_of_eq_some found
  have good := @Alone.At.changed _ jobId _ after step _ .running .succeeded none
    (fun row => { row with
      state := .succeeded
      finishedAt := some after.clock
      outputTail := if "" = "" then row.outputTail else some (lastOutput "") })
    (after.db.snapshotSets.update id fun row =>
      { row with snapshots := mirrorSet.recorded stamp taken pair })
    working (fun _ => ⟨rfl, rfl⟩) (fun _ _ => rfl) (by simp) (between.take order _)
  refine Safe.bind (Alone.commit_at working (Database.commit_recordSnapshot _ _ stored recorded) good)
    fun _ last committed => ?_
  rw [sets] at committed
  exact ⟨_, _, _, took, committed.2⟩

theorem sync_at (here : Here self.margin mirrorSet jobId stamp id taken [] [] world) :
    Safe (Alone.contract (report self.margin mirrorSet jobId) jobId)
      (fun _ => Here self.margin mirrorSet jobId stamp id taken mirrorSet.pairs [])
      (Gives self.margin mirrorSet jobId) (self.sync jobId mirrorSet) world := by
  rw [JobRunner.sync_eq]
  refine (Safe.forEach (fun rest after => ∃ synced, mirrorSet.pairs = synced ++ rest ∧
    Here self.margin mirrorSet jobId stamp id taken synced [] after) ⟨[], rfl, here⟩ ?_).mono ?_
    fun _ _ failed => failed
  · rintro pair rest before ⟨synced, order, here⟩
    refine (syncEach_at order here).mono (fun _ after here => ⟨synced ++ [pair], ?_, here⟩)
      fun _ _ failed => failed
    rw [order, List.append_assoc]
    rfl
  · rintro _ after ⟨synced, order, here⟩
    rw [List.append_nil] at order
    rw [← order] at here
    exact here

theorem takeSnapshots_at
    (here : Here self.margin mirrorSet jobId stamp id Dict.empty mirrorSet.pairs [] world) :
    Safe (Alone.contract (report self.margin mirrorSet jobId) jobId)
      (fun taken => Here self.margin mirrorSet jobId stamp id taken mirrorSet.pairs mirrorSet.pairs)
      (Gives self.margin mirrorSet jobId)
      (JobRunner.takeSnapshots jobId mirrorSet stamp id) world := by
  rw [JobRunner.takeSnapshots_eq]
  refine (Safe.foldEach (fun rest taken after => ∃ done, mirrorSet.pairs = done ++ rest ∧
    Here self.margin mirrorSet jobId stamp id taken mirrorSet.pairs done after)
    ⟨[], rfl, here⟩ ?_).mono ?_ fun _ _ failed => failed
  · rintro pair rest taken before ⟨done, order, here⟩
    refine (snapshotEach_at order here).mono (fun _ after here => ⟨done ++ [pair], ?_, here⟩)
      fun _ _ failed => failed
    rw [order, List.append_assoc]
    rfl
  · rintro taken after ⟨done, order, here⟩
    rw [List.append_nil] at order
    rw [← order] at here
    exact here

/-- The row is added, or the job is stuck without one. -/
theorem addSet_at {steps : List (String × StepState)} {sent : List Exchange} (stamp : String)
    (unowned : ∀ id row, origin.get? id = some row → row.jobId ≠ some jobId)
    (cleared : Cleared self.margin mirrorSet sent)
    (reads : ∀ exchange ∈ sent, exchange.request.writes = false)
    (working : Alone.At (report self.margin mirrorSet jobId) jobId ⟨steps, sent, origin⟩ none world) :
    Safe (Alone.contract (report self.margin mirrorSet jobId) jobId)
      (fun inserted => Here self.margin mirrorSet jobId stamp inserted.snapshotSet Dict.empty [] [])
      (Gives self.margin mirrorSet jobId)
      (commit .job [.addSnapshotSet
        { mirrorSetId := mirrorSet.id, jobId := some jobId, state := .incomplete
          snapshots := Dict.empty }]) world := by
  obtain ⟨writes, creates⟩ := idle_of_reads reads
  cases twice : world.db.takenTwice world.clock mirrorSet.id with
  | true =>
      have refused : world.db.commit world.clock [.addSnapshotSet
          { mirrorSetId := mirrorSet.id, jobId := some jobId, state := .incomplete
            snapshots := Dict.empty }] = .error .integrityError := by
        simp [Database.commit, Database.writeAll, Database.write, twice]
      refine safe_commit ?_ ?_ ?_ ?_
      · intro db inserted _ _ committed
        rw [refused] at committed
        cases committed
      · intro error _ _ same
        rw [refused] at same
        cases same
        have stuck : Alone.Stuck (report self.margin mirrorSet jobId) jobId
            { world with sessionBroken := true } :=
          ⟨⟨working.reports.during, working.reports.failed, working.reports.succeeded⟩, rfl⟩
        refine .error stuck.toReports fun later same => ?_
        rw [same]
        exact ⟨rfl, .inr stuck⟩
      · intro _ broken
        rw [working.whole] at broken
        cases broken
      · intro applied reached permitted
        cases permitted
  | false =>
      have sets : world.db.snapshotSets = origin := working.sets
      subst sets
      let fresh : SnapshotSet :=
        { mirrorSetId := mirrorSet.id, takenAt := world.clock, jobId := some jobId
          state := .incomplete, snapshots := Dict.empty }
      have found := (Table.get?_insert world.db.snapshotSets fresh _).trans (if_pos rfl)
      have between : Between self.margin mirrorSet jobId stamp world.db.snapshotSets.nextId Dict.empty
          [] [] sent (world.db.snapshotSets.insert fresh) := by
        refine ⟨cleared, disciplined_nil.polls reads, writes, by simp, ?_,
          ⟨_, found, rfl, rfl, rfl, rfl⟩, ?_, ?_⟩
        · rw [creates]
          simp
        · intro other row present mine
          rw [Table.get?_insert] at present
          split at present
          · assumption
          · exact absurd mine (unowned other row present)
        · intro mirror name
          rw [creates]
          simp
      have good : Alone.At (report self.margin mirrorSet jobId) jobId
          ⟨steps, sent, world.db.snapshotSets.insert fresh⟩ none
          { world with db := { world.db with
            snapshotSets := world.db.snapshotSets.insert fresh } } :=
        working.stored rfl (congrArg Trace.steps working.traced) rfl rfl working.during (by simp)
      refine (Alone.commit_at working (Database.commit_addSnapshotSet _ twice) good).mono
        (fun inserted after stored => ?_) fun _ _ failed => failed
      obtain ⟨rfl, working⟩ := stored
      exact ⟨_, _, _, between, working⟩

theorem complete_at
    (here : Here self.margin mirrorSet jobId stamp id taken mirrorSet.pairs mirrorSet.pairs world) :
    Safe (Alone.contract (report self.margin mirrorSet jobId) jobId)
      (fun _ after => ∃ trace, Alone.At (report self.margin mirrorSet jobId) jobId trace none after ∧
        Succeeds mirrorSet jobId trace)
      (Gives self.margin mirrorSet jobId)
      (commit .job [.setSnapshotSet id fun row => { row with state := .complete }]) world := by
  obtain ⟨steps, sent, sets, between, working⟩ := here
  obtain ⟨row, found, -, recorded, owner, mine⟩ := between.row
  have same := working.sets
  have stored : (world.db.snapshotSets.get? id).isSome = true := by
    rw [same]
    exact Option.isSome_of_eq_some found
  have good : Alone.At (report self.margin mirrorSet jobId) jobId
      ⟨steps, sent, world.db.snapshotSets.update id fun row => { row with state := .complete }⟩ none
      { world with db := { world.db with
        snapshotSets := world.db.snapshotSets.update id fun row => { row with state := .complete } } } :=
    working.stored rfl (congrArg Trace.steps working.traced) rfl rfl working.during (by simp)
  refine (Alone.commit_at working (Database.commit_setSnapshotSet _ stored) good).mono ?_
    fun _ _ failed => failed
  rintro inserted after ⟨-, working⟩
  refine ⟨_, working, ?_, ?_, stamp, between.calls⟩
  · intro other ended known owned
    rw [same, Table.get?_update, found] at known
    split at known
    · cases known
      refine ⟨rfl, fun mirror name => ?_⟩
      change row.snapshots.get? mirror = _ ↔ _
      rw [recorded]
      exact between.recorded mirror name
    · rename_i different
      exact absurd (between.only other ended known owned) different
  · refine ⟨id, Keyed.withId id { row with state := .complete }, ?_, mine, owner⟩
    rw [same, Table.get?_update, if_pos rfl, found]
    rfl

theorem update_at (unowned : ∀ id row, origin.get? id = some row → row.jobId ≠ some jobId)
    (working : Alone.At (report self.margin mirrorSet jobId) jobId ⟨[], [], origin⟩ none world) :
    Safe (Alone.contract (report self.margin mirrorSet jobId) jobId)
      (fun _ after => ∃ trace, Alone.At (report self.margin mirrorSet jobId) jobId trace none after ∧
        Succeeds mirrorSet jobId trace)
      (Gives self.margin mirrorSet jobId) (self.update jobId mirrorSet) world := by
  refine Safe.bind (preflight_at unowned working) ?_
  rintro _ first ⟨steps, sent, cleared, reads, working⟩
  refine Safe.bind ((Alone.calm_at rfl rfl working).mono (fun _ _ kept => kept)
    fun _ _ gave => gave.raises (.of_unowned unowned)) fun moment second working => ?_
  refine Safe.bind (addSet_at (snapshotStamp moment) unowned cleared reads working)
    fun inserted third here => ?_
  refine Safe.bind (sync_at here) fun _ fourth here => ?_
  refine Safe.bind (takeSnapshots_at here) fun taken fifth here => ?_
  exact Safe.bind (complete_at here) fun _ _ ended => ended

end Program

end Update

/-- What every moment of an update that runs alone is like. -/
theorem update_reports {self : JobRunner} {world final : World} {events : List Event}
    {rest : Program Unit} {jobId : Nat} {job : Job} {mirrorSet : MirrorSet}
    (stored : world.db.jobs.get? jobId = some job) (type : job.type = .update)
    (queued : job.state = .queued) (described : job.mirrorSetIn world.db = some mirrorSet)
    (untouched : world.Untouched jobId)
    (unowned : ∀ row ∈ world.db.snapshotSets.rows, row.jobId ≠ some jobId)
    (alone : ∀ event ∈ events, event.cancels = false)
    (ran : (self.runJob jobId).run semantics events world = some (rest, final)) :
    Reports (Update.report self.margin mirrorSet jobId) jobId final := by
  have reports : Reports (Update.report self.margin mirrorSet jobId) jobId world :=
    untouched.reports stored queued (Update.ordered_of_reads (by simp))
  refine Alone.reports_of_run reports (Alone.runJob_at stored described reports ?_) alone ran
  intro after working
  rw [untouched.traceOf] at working
  simp only [JobRunner.execute, type]
  refine Update.update_at (fun id row found => ?_) working
  exact unowned row (Table.get?_eq_some_iff.mp found).1

/-! ## What aptly has created -/

/-- The call raised: it was refused, or its answer could not be read. -/
def Entry.raised (entry : Entry) : Bool :=
  match entry.outcome with
  | .error _ => true
  | .ok body => !(entry.request.parse body).isOk

/-- The snapshot aptly created for this call, with the mirror it was taken of. -/
def Entry.created (entry : Entry) : Option (String × String) :=
  match entry.request, entry.carriedOut with
  | .createSnapshotFromMirror mirror name _, true => some (mirror, name)
  | _, _ => none

/-- The snapshots that the job created in aptly. -/
def World.createdBy (world : World) (jobId : Nat) : List (String × String) :=
  (world.log.filter fun entry => entry.job = some jobId).filterMap Entry.created

/-- Whatever aptly answers properly it has done. -/
def World.Answered (world : World) (jobId : Nat) : Prop :=
  ∀ entry ∈ world.log, entry.job = some jobId → ∀ body, entry.outcome = .ok body →
    entry.carriedOut = true

theorem World.answered_of_perform {jobId : Nat} {op : Op} {event : Event} {world after : World}
    {outcome : Except Exn op.Ret} (performed : op.perform event world = some (outcome, after))
    (answered : world.Answered jobId) : after.Answered jobId := by
  have grown : ∀ request outcome carriedOut reached,
      (∀ body, outcome = .ok body → carriedOut = true) →
      (world.record request outcome carriedOut reached).Answered jobId := by
    intro request outcome carriedOut reached done entry listed mine body same
    rw [World.record_log] at listed
    rcases List.mem_cons.mp listed with rfl | before
    · exact done body same
    · exact answered entry before mine body same
  cases op with
  | aptly request =>
      rcases Op.perform_aptly performed with ⟨body, _, -, -, rfl⟩ | ⟨error, _, _, -, -, -, rfl⟩ |
        ⟨_, _, -, -, rfl⟩
      · exact grown _ _ _ _ fun _ _ => rfl
      · exact grown _ _ _ _ (by simp)
      · exact grown _ _ _ _ (by simp)
  | _ =>
      have same := (Op.perform_frame performed).log rfl
      intro entry listed
      rw [same] at listed
      exact answered entry listed

/-- When calls that raise have no effect, aptly has created what it said it has. -/
theorem World.mem_createdBy {world : World} {jobId : Nat} (answered : world.Answered jobId)
    (harmless : ∀ entry ∈ world.log, entry.job = some jobId → entry.raised = true →
      entry.carriedOut = false) (created : String × String) :
    created ∈ world.createdBy jobId ↔ created ∈ createdIn (world.sentBy jobId) := by
  have each : ∀ entry ∈ world.log, entry.job = some jobId →
      entry.created = Exchange.creation ⟨entry.request, entry.outcome⟩ := by
    intro entry listed mine
    have done := answered entry listed mine
    have idle := harmless entry listed mine
    obtain ⟨job, request, outcome, carriedOut⟩ := entry
    cases request with
    | createSnapshotFromMirror mirror name description =>
        cases outcome with
        | error error =>
            have none : carriedOut = false := idle rfl
            rw [none]
            rfl
        | ok body =>
            have carried : carriedOut = true := done body rfl
            cases body with
            | snapshot snapshot =>
                rw [carried]
                rfl
            | _ =>
                have none : carriedOut = false := idle rfl
                rw [carried] at none
                cases none
    | _ => rfl
  simp only [createdBy, createdIn, sentBy, List.mem_filterMap, List.mem_filter, List.mem_reverse,
    List.mem_map, decide_eq_true_eq]
  constructor
  · rintro ⟨entry, ⟨listed, mine⟩, same⟩
    exact ⟨_, ⟨entry, ⟨listed, mine⟩, rfl⟩, (each entry listed mine).symm.trans same⟩
  · rintro ⟨_, ⟨entry, ⟨listed, mine⟩, rfl⟩, same⟩
    exact ⟨entry, ⟨listed, mine⟩, (each entry listed mine).trans same⟩

/-- The calls of an UPDATE job are a first part of all syncs followed by all snapshots, and none of
them publishes, switches or deletes; each waits for what it needs.  When the job has ended, its
snapshot set records exactly the snapshots it has created, and is COMPLETE just when the job has
SUCCEEDED. -/
theorem update_is_all_or_incomplete {self : JobRunner} {world final : World} {events : List Event}
    {rest : Program Unit} {jobId : Nat} {job : Job} {mirrorSet : MirrorSet}
    (stored : world.db.jobs.get? jobId = some job) (type : job.type = .update)
    (queued : job.state = .queued) (described : job.mirrorSetIn world.db = some mirrorSet)
    (untouched : world.Untouched jobId)
    (unowned : ∀ row ∈ world.db.snapshotSets.rows, row.jobId ≠ some jobId)
    (alone : ∀ event ∈ events, event.cancels = false)
    (ran : (self.runJob jobId).run semantics events world = some (rest, final))
    (harmless : ∀ entry ∈ final.log, entry.job = some jobId → entry.raised = true →
      entry.carriedOut = false) :
    (∃ stamp, writesIn (final.sentBy jobId) <+: mirrorSet.calls stamp jobId) ∧
    Disciplined self.margin mirrorSet (final.sentBy jobId) ∧
    ∀ ended, final.db.jobs.get? jobId = some ended →
      (ended.state = .succeeded → (∃ stamp, writesIn (final.sentBy jobId) = mirrorSet.calls stamp jobId) ∧
        ∃ row ∈ final.db.snapshotSets.rows, row.jobId = some jobId ∧ row.mirrorSetId = mirrorSet.id) ∧
      (ended.state = .failed ∨ ended.state = .succeeded →
        ∀ row ∈ final.db.snapshotSets.rows, row.jobId = some jobId →
          (row.state = .complete ↔ ended.state = .succeeded) ∧
          ∀ mirror name, row.snapshots.get? mirror = some name ↔
            (mirror, name) ∈ final.createdBy jobId) := by
  have reports := update_reports stored type queued described untouched unowned alone ran
  have ordered : Update.Ordered self.margin mirrorSet jobId (final.sentBy jobId) := reports.during
  have answered : final.Answered jobId :=
    Coroutine.run_invariant (World.Answered · jobId)
      (fun _ _ _ _ _ performed => World.answered_of_perform performed)
      (fun entry listed mine => absurd mine (untouched.log entry listed)) ran
  have created := World.mem_createdBy answered harmless
  have exact : ∀ {state : SnapshotSetState}, Update.Exact jobId state (final.traceOf jobId) →
      ∀ row ∈ final.db.snapshotSets.rows, row.jobId = some jobId → row.state = state ∧
        ∀ mirror name, row.snapshots.get? mirror = some name ↔ (mirror, name) ∈ final.createdBy jobId := by
    intro state exact row listed mine
    obtain ⟨same, recorded⟩ := exact row.id row (Table.mem_rows_iff.mp listed) mine
    exact ⟨same, fun mirror name => (recorded mirror name).trans (created _).symm⟩
  refine ⟨ordered.calls, ordered.disciplined, fun ended found => ⟨fun succeeded => ?_, ?_⟩⟩
  · have succeeds : Update.Succeeds mirrorSet jobId (final.traceOf jobId) :=
      reports.succeeded ended found succeeded
    obtain ⟨id, row, known, mine, owner⟩ := succeeds.added
    exact ⟨succeeds.calls, row, (Table.get?_eq_some_iff.mp known).1, mine, owner⟩
  · rintro (failed | succeeded) row listed mine
    · obtain ⟨same, recorded⟩ := exact (reports.failed ended found failed) row listed mine
      refine ⟨?_, recorded⟩
      rw [same, failed]
      decide
    · have succeeds : Update.Succeeds mirrorSet jobId (final.traceOf jobId) :=
        reports.succeeded ended found succeeded
      obtain ⟨same, recorded⟩ := exact succeeds.exact row listed mine
      refine ⟨?_, recorded⟩
      rw [same, succeeded]
      decide

/-- The four snapshots are taken, suite by suite; the log has the last one first. -/
theorem update_is_all_or_incomplete_wide : ∃ final : World,
    (final.createdBy 1).map Prod.fst =
      ["stable-updates-contrib", "stable-updates-main", "stable-contrib", "stable-main"] ∧
    Disciplined Sample.runner.margin Sample.wide (final.sentBy 1) ∧
    ∀ row ∈ final.db.snapshotSets.rows, row.jobId = some 1 → row.state = .complete ∧
      ∀ mirror name, row.snapshots.get? mirror = some name ↔ (mirror, name) ∈ final.createdBy 1 := by
  have runs : ((Sample.runner.runJob 1).run semantics Sample.wideUpdated
      (Sample.waiting .update none Sample.wideService.world)).any (fun result =>
        (result.2.db.jobs.get? 1).any (fun ended => decide (ended.state = .succeeded)) &&
        result.2.log.all (fun entry => !entry.raised) &&
        decide ((result.2.createdBy 1).map Prod.fst =
          ["stable-updates-contrib", "stable-updates-main", "stable-contrib", "stable-main"])) =
      true := by
    decide +kernel
  obtain ⟨⟨_, final⟩, ran, runs⟩ := (Option.any_eq_true _ _).mp runs
  simp only [Bool.and_eq_true, Option.any_eq_true, List.all_eq_true, Bool.not_eq_true',
    decide_eq_true_eq] at runs
  obtain ⟨⟨⟨ended, found, succeeded⟩, returned⟩, created⟩ := runs
  have stored : (Sample.waiting .update none Sample.wideService.world).db.jobs.get? 1 =
      some (Sample.job 1 .update none) := rfl
  have described : (Sample.job 1 .update none).mirrorSetIn
      (Sample.waiting .update none Sample.wideService.world).db = some Sample.wide := rfl
  have untouched : (Sample.waiting .update none Sample.wideService.world).Untouched 1 := by
    constructor <;> decide
  have harmless : ∀ entry ∈ final.log, entry.job = some 1 → entry.raised = true →
      entry.carriedOut = false := by
    intro entry listed _ raised
    rw [returned entry listed] at raised
    cases raised
  obtain ⟨-, disciplined, ends⟩ := update_is_all_or_incomplete stored rfl rfl described untouched
    (by decide) (by decide) ran harmless
  refine ⟨final, created, disciplined, fun row listed mine => ?_⟩
  obtain ⟨complete, recorded⟩ := (ends ended found).2 (.inr succeeded) row listed mine
  exact ⟨complete.mpr succeeded, recorded⟩

end AptlyGui
