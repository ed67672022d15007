import AptlyGui.Services.Jobs.Frame
import AptlyGui.Outline

/-!
# The queue

A job that waits, in the queue or in the hands of the request that stored it,
waits once, is still QUEUED in the database, and is not the job that runs.  So
no job is started twice and none is lost between its row and the queue.
-/

namespace AptlyGui

open Coroutine (Uses)

/-! ## What one request holds -/

/-- The job a request has stored and not yet put in the queue. -/
def handing : Program Response → Option Nat
  | .await (.put id) _ => some id
  | _ => none

/-- The job that an operation of a request has just stored. -/
def Op.stored : (op : Op) → Except Exn op.Ret → Option Nat
  | .commit .request [.addJob _], .ok inserted => some inserted.job
  | _, _ => none

theorem Op.stored_error (op : Op) (error : Exn) : op.stored (.error error) = none := by
  unfold stored
  split <;> simp_all

theorem Op.stored_eq_none {writes : List Write} {outcome : Except Exn Inserted}
    (without : ∀ change ∈ writes, ∀ job, change ≠ .addJob job) :
    (commit .request writes).stored outcome = none := by
  match writes, outcome with
  | [.addJob job], _ => exact absurd rfl (without (.addJob job) (by simp) job)
  | [], _ => rfl
  | .addJob _ :: _ :: _, _ => rfl
  | .addStep _ :: _, _ => rfl
  | .addMirrorSet _ :: _, _ => rfl
  | .addSnapshotSet _ :: _, _ => rfl
  | .addAudit _ :: _, _ => rfl
  | .setJob _ _ :: _, _ => rfl
  | .setStep _ _ :: _, _ => rfl
  | .setSnapshotSet _ _ :: _, _ => rfl
  | .deleteMirrorSet _ :: _, _ => rfl
  | .deleteSnapshotSet _ :: _, _ => rfl

/-- A commit that stores a job stores nothing else. -/
def Op.storesAlone : Op → Prop
  | .commit .request writes =>
      (∃ job, writes = [.addJob job]) ∨ ∀ change ∈ writes, ∀ job, change ≠ .addJob job
  | _ => True

/-- A request puts in the queue what it has just stored, at once, and nothing else. -/
def Hands : Program Response → Prop
  | .await op resume =>
      op.storesAlone ∧ ∀ outcome, handing (resume outcome) = op.stored outcome ∧
        Hands (resume outcome)
  | _ => True

/-- A request that holds no stored job. -/
def Clean (program : Program Response) : Prop := handing program = none ∧ Hands program

theorem clean_done (response : Response) : Clean (.done response) := ⟨rfl, trivial⟩

/-- An operation that stores nothing, in front of a clean rest. -/
theorem clean_bind {op : Op} {next : op.Ret → Program Response} (alone : op.storesAlone)
    (puts : op.puts = false) (silent : ∀ outcome, op.stored outcome = none)
    (rest : ∀ value, Clean (next value)) : Clean ((perform op).bind next) := by
  refine ⟨?_, alone, fun outcome => ?_⟩
  · cases op <;> first | rfl | cases puts
  · rw [silent outcome]
    cases outcome with
    | ok value => exact rest value
    | error error => exact ⟨rfl, trivial⟩

theorem clean_enqueued (type : JobType) (mirrorSetId : Option Nat) (author : String)
    (params : JobParams) : Clean (enqueued type mirrorSetId author params) := by
  refine ⟨rfl, .inl ⟨_, rfl⟩, fun outcome => ?_⟩
  cases outcome with
  | error error => exact ⟨rfl, trivial⟩
  | ok inserted =>
      refine ⟨rfl, trivial, fun handed => ?_⟩
      cases handed with
      | error error => exact ⟨rfl, trivial⟩
      | ok done => exact ⟨rfl, trivial⟩

/-- Every handler hands over what it stores. -/
theorem WebRequest.handler_clean (request : WebRequest) : Clean request.handler := by
  have reading : ∀ {op : Op} {next : op.Ret → Program Response}, op.commits = false →
      op.puts = false → (∀ value, Clean (next value)) → Clean ((perform op).bind next) := by
    intro op next commits puts rest
    refine clean_bind ?_ puts ?_ rest
    · cases op <;> trivial
    · intro outcome
      cases op <;> first | rfl | cases commits
  cases request with
  | discardSubmit author name =>
      refine reading rfl rfl fun cached => reading rfl rfl fun sets => ?_
      split
      · exact clean_done _
      · split
        · exact clean_done _
        · exact clean_enqueued _ _ _ _
  | discardSetSubmit author setId snapshotSetId =>
      refine reading rfl rfl fun found => ?_
      split
      · exact clean_done _
      · split
        · exact clean_done _
        · refine reading rfl rfl fun cached => ?_
          dsimp only
          split
          · exact clean_done _
          · exact clean_enqueued _ _ _ _
  | newSetSubmit author form =>
      refine reading rfl rfl fun found => ?_
      split
      · exact reading rfl rfl fun _ => clean_done _
      · refine clean_bind (.inr ?_) rfl (fun outcome => ?_) fun inserted => clean_enqueued _ _ _ _
        · simp
        · cases outcome <;> rfl
  | adoptSubmit form =>
      refine clean_bind (.inr ?_) rfl (fun outcome => ?_) fun inserted => clean_done _
      · simp
      · cases outcome <;> rfl
  | setDelete author setId mirrors =>
      refine reading rfl rfl fun found => ?_
      split
      · exact clean_done _
      · split
        · refine reading rfl rfl fun (owned : List SnapshotSet) => ?_
          refine clean_bind (.inr ?_) rfl (fun outcome => ?_) fun _ => clean_done _
          · intro change membership job
            simp only [List.cons_append, List.mem_cons, List.mem_append, List.mem_map,
              List.not_mem_nil, or_false] at membership
            rcases membership with rfl | ⟨row, -, rfl⟩ | rfl <;> simp
          · cases outcome <;> cases owned <;> rfl
        · refine reading rfl rfl fun cached => ?_
          dsimp only
          split
          · exact clean_done _
          · exact clean_enqueued _ _ _ _
  | mirrorDelete author name =>
      refine reading rfl rfl fun cached => reading rfl rfl fun sets => ?_
      split
      · exact clean_done _
      · exact clean_enqueued _ _ _ _
  | setCreateMissing author setId => exact clean_enqueued _ _ _ _
  | setUpdate author setId => exact clean_enqueued _ _ _ _
  | setSwitch author setId snapshotSetId => exact clean_enqueued _ _ _ _

theorem Arrival.program_clean (arrival : Arrival) : Clean arrival.program := by
  cases arrival with
  | web request => exact request.handler_clean
  | direct type mirrorSetId author params => exact clean_enqueued type mirrorSetId author params

/-! ## The service -/

namespace System

/-- The jobs that are still to be taken. -/
def waiting (system : System) : List Nat :=
  system.world.queue ++ system.requests.filterMap handing

/-- The row of the job exists and is still QUEUED. -/
def Unstarted (db : Database) (jobId : Nat) : Prop :=
  ∃ job, db.jobs.get? jobId = some job ∧ job.state = .queued

structure Queued (system : System) : Prop where
  distinct : system.waiting.Nodup
  unstarted : ∀ jobId ∈ system.waiting, Unstarted system.world.db jobId
  hands : ∀ request ∈ system.requests, Hands request
  logged : ∀ entry ∈ system.world.log, ∀ jobId ∈ entry.job,
    (system.world.db.jobs.get? jobId).isSome = true
  silent : ∀ jobId ∈ system.waiting, ∀ entry ∈ system.world.log, entry.job ≠ some jobId
  known : ∀ jobId ∈ system.world.taken, (system.world.db.jobs.get? jobId).isSome = true
  untaken : ∀ jobId ∈ system.waiting, jobId ∉ system.world.taken
  down : system.worker = .down → system.world.queue = [] ∧ system.requests = []
  working : ∀ program, system.worker = .running program → ∃ jobId, jobId ∉ system.waiting ∧
    (system.world.db.jobs.get? jobId).isSome ∧ program.Uses (Op.ofJob jobId) ∧
    (system.world.currentJob = none ∨ system.world.currentJob = some jobId) ∧
    system.world.taken.head? = some jobId
  resting : (∀ program, system.worker ≠ .running program) → system.world.currentJob = none

theorem Unstarted.kept {before after : Database} {jobId : Nat} (unstarted : Unstarted before jobId)
    (kept : before.Kept after) : Unstarted after jobId := by
  obtain ⟨job, found, queued⟩ := unstarted
  exact ⟨job, kept.jobs jobId job found, queued⟩

theorem Queued.fresh {system : System} (fresh : system.Fresh) : system.Queued where
  distinct := by simp [waiting, fresh.queue, fresh.requests]
  unstarted := by simp [waiting, fresh.queue, fresh.requests]
  hands := by simp [fresh.requests]
  logged := by simp [fresh.log]
  silent := by simp [fresh.log]
  known := by simp [fresh.taken]
  untaken := by simp [fresh.taken]
  down _ := ⟨fresh.queue, fresh.requests⟩
  working program running := by simp [fresh.worker] at running
  resting _ := fresh.currentJob

/-- The waiting jobs before and after one request has moved. -/
theorem waiting_set (queue added : List Nat) {requests : List (Program Response)} {index : Nat}
    {served : Program Response} (next : Program Response)
    (found : requests[index]? = some served) :
    ∃ others, (queue ++ requests.filterMap handing).Perm ((handing served).toList ++ others) ∧
      (queue ++ added ++ (requests.set index next).filterMap handing).Perm
        ((handing next).toList ++ (added ++ others)) := by
  obtain ⟨bound, rfl⟩ := List.getElem?_eq_some_iff.mp found
  have split : ∀ program : Program Response, [program].filterMap handing = (handing program).toList := by
    intro program
    cases held : handing program <;> simp [held]
  have parted : ∀ program : Program Response, requests.set index program =
      requests.take index ++ [program] ++ requests.drop (index + 1) := by
    intro program
    rw [List.set_eq_take_append_cons_drop, if_pos bound]
    simp
  have whole : requests = requests.take index ++ [requests[index]] ++ requests.drop (index + 1) := by
    rw [← parted, List.set_getElem_self]
  refine ⟨queue ++ ((requests.take index).filterMap handing ++
    (requests.drop (index + 1)).filterMap handing), ?_, ?_⟩
  · rw [List.perm_iff_count]
    intro id
    conv_lhs => rw [whole]
    simp only [List.filterMap_append, split, List.count_append]
    omega
  · rw [List.perm_iff_count]
    intro id
    rw [parted]
    simp only [List.filterMap_append, split, List.count_append]
    omega

/-- A request's commit that stores no job leaves the jobs alone. -/
theorem jobs_of_commit {now : Time} {writes : List Write} {db after : Database}
    {inserted : Inserted} (harmless : ∀ change ∈ writes, change.forRequest)
    (without : ∀ change ∈ writes, ∀ job, change ≠ .addJob job)
    (committed : db.commit now writes = .ok (after, inserted)) : after.jobs = db.jobs := by
  refine @Database.writeAll_induction now (fun before after => after.jobs = before.jobs)
    (fun _ => rfl) (fun first second => second.trans first) writes db after {} inserted
    (fun change listed before keys later handed wrote => ?_) committed
  have request := harmless change listed
  rw [(Database.write_tables wrote).1]
  cases change with
  | addJob job => exact absurd rfl (without _ listed job)
  | setJob id change => exact request.elim
  | _ => rfl

/-- What one operation of a request does to the jobs that wait: nothing, or it adds the job it
has just stored. -/
theorem waiting_of_serve {op : Op} {resume : Except Exn op.Ret → Program Response} {event : Event}
    {before after : World} {outcome : Except Exn op.Ret} {requests : List (Program Response)}
    {index : Nat} (found : requests[index]? = some (.await op resume))
    (hands : Hands (.await op resume)) (harmless : op.forRequest)
    (performed : op.perform event before = some (outcome, after)) :
    let were := before.queue ++ requests.filterMap handing
    let are := after.queue ++ (requests.set index (resume outcome)).filterMap handing
    after.db.jobs = before.db.jobs ∧ are.Perm were ∨
      ∃ job, job.state = .queued ∧ after.db.jobs = before.db.jobs.insert job ∧
        are.Perm (before.db.jobs.nextId :: were) := by
  obtain ⟨alone, follows⟩ := hands
  obtain ⟨handed, -⟩ := follows outcome
  have frame := Op.perform_frame performed
  have quiet : ∀ queue, after.queue = before.queue ++ queue →
      handing (.await op resume) = queue.head? → queue.length ≤ 1 →
      handing (resume outcome) = none →
      (after.queue ++ (requests.set index (resume outcome)).filterMap handing).Perm
        (before.queue ++ requests.filterMap handing) := by
    intro queue grown held short clean
    obtain ⟨others, first, second⟩ := waiting_set before.queue queue (resume outcome) found
    rw [grown]
    rw [clean] at second
    rw [held] at first
    have single : queue.head?.toList = queue := by
      match queue, short with
      | [], _ => rfl
      | [id], _ => rfl
    rw [single] at first
    exact second.trans first.symm
  cases op with
  | put id =>
      cases event <;> cases performed
      exact .inl ⟨rfl, quiet [id] rfl rfl (by simp) handed⟩
  | commit session writes =>
      cases session with
      | job => exact harmless.elim
      | request =>
          have same : after.queue = before.queue := frame.queue rfl
          rcases World.commit_request performed with
            ⟨error, rfl, rfl⟩ | ⟨db, inserted, stored, rfl, rfl⟩
          · exact .inl ⟨rfl,
              quiet [] (by simp) rfl (by simp) (handed.trans (Op.stored_error _ error))⟩
          · rcases alone with ⟨job, rfl⟩ | without
            · simp only [Database.commit, Database.writeAll, Database.write, Except.ok.injEq,
                Prod.mk.injEq] at stored
              obtain ⟨rfl, rfl⟩ := stored
              have held : handing (resume (.ok { job := before.db.jobs.nextId })) =
                  some before.db.jobs.nextId := handed
              obtain ⟨others, first, second⟩ := waiting_set before.queue [] _ found
              rw [held] at second
              simp only [List.append_nil] at second
              exact .inr ⟨job, harmless (.addJob job) (by simp), rfl,
                second.trans (List.Perm.cons _ first.symm)⟩
            · exact .inl ⟨jobs_of_commit harmless without stored,
                quiet [] (by simp) rfl (by simp) (handed.trans (Op.stored_eq_none without))⟩
  | _ =>
      refine .inl ⟨?_, quiet [] (by simpa using frame.queue rfl) rfl (by simp) handed⟩
      rw [frame.db rfl]

theorem Queued.of_serve {self : JobRunner} {before after : System} {index : Nat} {event : Event}
    (queued : before.Queued) (uses : ∀ request ∈ before.requests, request.Uses Op.forRequest)
    (stepped : before.step self (.serve index event) = some after) : after.Queued := by
  have passed := others_of_external uses rfl stepped
  have sameWorker := worker_of_external rfl stepped
  obtain ⟨op, resume, outcome, world, found, performed, rfl⟩ := System.step_serve stepped
  have listed := List.mem_of_getElem? found
  have hands := queued.hands _ listed
  have moved := waiting_of_serve found hands (uses _ listed).1 performed
  -- The jobs that wait afterwards: those that waited, and perhaps one whose row is new.
  have waits : ∀ jobId, jobId ∈ world.queue ++ (before.requests.set index (resume outcome)).filterMap
      handing → jobId ∈ before.waiting ∨ before.world.db.jobs.get? jobId = none ∧
        Unstarted world.db jobId := by
    intro jobId present
    rcases moved with ⟨-, same⟩ | ⟨job, unstarted, stored, grown⟩
    · exact .inl (same.mem_iff.mp present)
    · rcases List.mem_cons.mp (grown.mem_iff.mp present) with rfl | old
      · exact .inr ⟨by simp, Keyed.withId before.world.db.jobs.nextId job, by simp [stored], unstarted⟩
      · exact .inl old
  have exists_after : ∀ jobId, (before.world.db.jobs.get? jobId).isSome = true →
      (world.db.jobs.get? jobId).isSome = true := by
    intro jobId present
    obtain ⟨job, known⟩ := Option.isSome_iff_exists.mp present
    simp [passed.db.jobs jobId job known]
  refine ⟨?_, ?_, ?_, ?_, ?_, ?_, ?_, ?_, ?_, ?_⟩
  · rcases moved with ⟨-, same⟩ | ⟨job, -, -, grown⟩
    · exact same.nodup_iff.mpr queued.distinct
    · refine grown.nodup_iff.mpr (List.nodup_cons.mpr ⟨fun present => ?_, queued.distinct⟩)
      obtain ⟨other, known, -⟩ := queued.unstarted _ present
      simp at known
  · intro jobId present
    rcases waits jobId present with old | ⟨-, unstarted⟩
    · exact (queued.unstarted jobId old).kept passed.db
    · exact unstarted
  · intro request membership
    rcases List.mem_or_eq_of_mem_set membership with old | rfl
    · exact queued.hands request old
    · exact (hands.2 outcome).2
  · intro entry sent jobId sender
    rw [passed.log] at sent
    exact exists_after jobId (queued.logged entry sent jobId sender)
  · intro jobId present entry sent
    rw [passed.log] at sent
    rcases waits jobId present with old | ⟨fresh, -⟩
    · exact queued.silent jobId old entry sent
    · intro sender
      have known := queued.logged entry sent jobId sender
      simp [fresh] at known
  · intro jobId listed
    rw [passed.taken] at listed
    exact exists_after jobId (queued.known jobId listed)
  · intro jobId present listed
    rw [passed.taken] at listed
    rcases waits jobId present with old | ⟨fresh, -⟩
    · exact queued.untaken jobId old listed
    · have known := queued.known jobId listed
      simp [fresh] at known
  · intro down
    rw [(queued.down down).2] at listed
    cases listed
  · intro program running
    obtain ⟨jobId, idle, known, using', current, last⟩ := queued.working program running
    refine ⟨jobId, fun present => ?_, ?_, using', ?_, by rw [passed.taken]; exact last⟩
    · rcases waits jobId present with old | ⟨fresh, -⟩
      · exact idle old
      · simp [fresh] at known
    · exact exists_after jobId known
    · rw [passed.currentJob]
      exact current
  · intro resting
    rw [passed.currentJob]
    exact queued.resting resting

theorem Queued.of_take {self : JobRunner} {before after : System} (queued : before.Queued)
    (stepped : before.step self .take = some after) : after.Queued := by
  obtain ⟨jobId, rest, idle, queue, rfl⟩ := System.step_take stepped
  have whole : before.waiting = jobId :: (rest ++ before.requests.filterMap handing) := by
    rw [waiting, queue]
    rfl
  have distinct := queued.distinct
  rw [whole, List.nodup_cons] at distinct
  obtain ⟨job, found, -⟩ := queued.unstarted jobId (by simp [whole])
  have still : ∀ other ∈ rest ++ before.requests.filterMap handing, other ∈ before.waiting := by
    intro other present
    rw [whole]
    exact List.mem_cons_of_mem _ present
  refine ⟨distinct.2, fun other present => queued.unstarted other (still other present),
    queued.hands, queued.logged, fun other present => queued.silent other (still other present),
    ?_, ?_, by simp, ?_, ?_⟩
  · intro other listed
    rcases List.mem_cons.mp listed with rfl | earlier
    · exact Option.isSome_of_eq_some found
    · exact queued.known other earlier
  · intro other present listed
    rcases List.mem_cons.mp listed with rfl | earlier
    · exact distinct.1 present
    · exact queued.untaken other (still other present) earlier
  · rintro program running
    cases running
    refine ⟨jobId, distinct.1, by simp [World.take, found], self.runJob_uses jobId, .inl ?_, rfl⟩
    exact queued.resting (by simp [idle])
  · exact fun resting => absurd rfl (resting _)

theorem Queued.of_work {self : JobRunner} {before after : System} {event : Event}
    (queued : before.Queued) (stepped : before.step self (.work event) = some after) :
    after.Queued := by
  obtain ⟨program, next, world, running, progressed, rfl⟩ := System.step_work stepped
  obtain ⟨jobId, idle, known, uses, current, last⟩ := queued.working program running
  obtain ⟨rest, op, outcome, own, performed⟩ := uses.step progressed
  obtain ⟨rows, queue, begun⟩ := Op.jobFrame own performed
  have same : System.waiting { before with
      world := world.released (.resume next), worker := .resume next } = before.waiting := by
    simp [waiting, queue]
  have taken := (Op.perform_frame performed).taken
  refine ⟨by rw [same]; exact queued.distinct, ?_, queued.hands, ?_, ?_, ?_, ?_, ?_, ?_, ?_⟩
  · intro other present
    rw [same] at present
    obtain ⟨job, found, state⟩ := queued.unstarted other present
    have different : other ≠ jobId := by
      rintro rfl
      exact idle present
    refine ⟨job, ?_, state⟩
    rw [World.released_db, rows.others other different]
    exact found
  · intro entry listed other sender
    rw [World.released_log] at listed
    rw [World.released_db]
    rcases Op.sender_of_perform performed listed with old | running
    · exact rows.isSome (queued.logged entry old other sender)
    · rcases current with none | own
      · rw [running, none] at sender
        cases sender
      · rw [running, own] at sender
        cases sender
        exact rows.isSome known
  · intro other present entry listed
    rw [same] at present
    rw [World.released_log] at listed
    rcases Op.sender_of_perform performed listed with old | running
    · exact queued.silent other present entry old
    · rintro sender
      rw [running] at sender
      rcases current with none | own
      · rw [none] at sender
        cases sender
      · rw [own] at sender
        cases sender
        exact idle present
  · intro other listed
    rw [World.released_taken, taken] at listed
    rw [World.released_db]
    exact rows.isSome (queued.known other listed)
  · intro other present listed
    rw [same] at present
    rw [World.released_taken, taken] at listed
    exact queued.untaken other present listed
  · exact fun down => absurd down (Worker.resume_ne_down next)
  · intro program' running'
    change Worker.resume next = .running program' at running'
    obtain rfl := Worker.eq_of_resume running'
    refine ⟨jobId, by rw [same]; exact idle, ?_, rest, ?_, ?_⟩
    · rw [World.released_db]
      exact rows.isSome known
    · have kept : world.released (.resume program') = world := by
        rw [running']
        rfl
      rw [kept]
      rcases begun with unchanged | started
      · rw [unchanged]
        exact current
      · exact .inr started
    · rw [World.released_taken, taken]
      exact last
  · intro resting
    change (world.released (.resume next)).currentJob = none
    cases resumed : Worker.resume next with
    | running rest => exact absurd resumed (resting rest)
    | down => rfl
    | idle => rfl
    | ended => rfl

theorem Queued.step {self : JobRunner} {before after : System} {label : Label}
    (queued : before.Queued) (uses : ∀ request ∈ before.requests, request.Uses Op.forRequest)
    (stepped : before.step self label = some after) : after.Queued := by
  cases label with
  | serve index event => exact queued.of_serve uses stepped
  | take => exact queued.of_take stepped
  | work event => exact queued.of_work stepped
  | arrive arrival =>
      obtain ⟨up, rfl⟩ := System.step_arrive stepped
      obtain ⟨empty, hands⟩ := arrival.program_clean
      have same : System.waiting { before with requests := before.requests ++ [arrival.program] } =
          before.waiting := by
        simp [waiting, empty]
      refine ⟨by rw [same]; exact queued.distinct, by rw [same]; exact queued.unstarted, ?_,
        queued.logged, by rw [same]; exact queued.silent, queued.known,
        by rw [same]; exact queued.untaken, ?_,
        by rw [same]; exact queued.working, queued.resting⟩
      · intro request membership
        rcases List.mem_append.mp membership with old | new
        · exact queued.hands request old
        · rw [List.mem_singleton.mp new]
          exact hands
      · exact fun down => absurd down up
  | drift reached =>
      cases stepped
      exact ⟨queued.distinct, queued.unstarted, queued.hands, queued.logged, queued.silent, queued.known,
        queued.untaken, queued.down, queued.working, queued.resting⟩
  | tick elapsed =>
      cases stepped
      exact ⟨queued.distinct, queued.unstarted, queued.hands, queued.logged, queued.silent, queued.known,
        queued.untaken, queued.down, queued.working, queued.resting⟩
  | crash =>
      cases stepped
      have empty : System.waiting { world := before.world.crashed, worker := .down, requests := [] } =
          [] := rfl
      exact ⟨List.nodup_nil, by simp [empty], by simp, queued.logged, by simp [empty],
        by simp [World.crashed], by simp [empty], fun _ => ⟨rfl, rfl⟩, by simp, fun _ => rfl⟩
  | start =>
      obtain ⟨down, rfl⟩ := System.step_start stepped
      obtain ⟨queue, requests⟩ := queued.down down
      have resting := queued.resting (by simp [down])
      have empty : System.waiting { before with
          world := before.world.recovered, worker := .idle } = [] := by
        simp [waiting, World.recovered, queue, requests]
      have exists_after : ∀ jobId, (before.world.db.jobs.get? jobId).isSome = true →
          (before.world.recovered.db.jobs.get? jobId).isSome = true := by
        intro jobId present
        rw [World.recovered_jobs, Option.isSome_map]
        exact present
      refine ⟨by simp [empty], by simp [empty], by simp [requests], ?_, by simp [empty], ?_,
        by simp [empty], by simp, by simp, fun _ => resting⟩
      · exact fun entry sent jobId sender => exists_after jobId (queued.logged entry sent jobId sender)
      · exact fun jobId listed => exists_after jobId (queued.known jobId listed)

/-- A job waits from the moment its row is stored. -/
theorem Queued.waiting_of_stored {self : JobRunner} {before after : System} {label : Label}
    {jobId : Nat} (queued : before.Queued)
    (uses : ∀ request ∈ before.requests, request.Uses Op.forRequest)
    (stepped : before.step self label = some after)
    (absent : before.world.db.jobs.get? jobId = none)
    (stored : (after.world.db.jobs.get? jobId).isSome = true) : jobId ∈ after.waiting := by
  have unchanged : after.world.db.jobs.get? jobId = before.world.db.jobs.get? jobId →
      jobId ∈ after.waiting := by
    intro same
    rw [same, absent] at stored
    cases stored
  cases label with
  | serve index event =>
      obtain ⟨op, resume, outcome, world, found, performed, rfl⟩ := System.step_serve stepped
      have listed := List.mem_of_getElem? found
      rcases waiting_of_serve found (queued.hands _ listed) (uses _ listed).1 performed with
        ⟨same, -⟩ | ⟨job, -, inserted, grown⟩
      · exact unchanged (by rw [same])
      · refine grown.mem_iff.mpr (List.mem_cons.mpr (.inl ?_))
        by_contra other
        refine absurd stored ?_
        simp [inserted, other, absent]
  | work event =>
      obtain ⟨program, next, world, running, progressed, rfl⟩ := System.step_work stepped
      obtain ⟨current, -, known, working, -⟩ := queued.working program running
      obtain ⟨-, op, outcome, own, performed⟩ := working.step progressed
      obtain ⟨rows, -, -⟩ := Op.jobFrame own performed
      have other : jobId ≠ current := by
        rintro rfl
        rw [absent] at known
        cases known
      exact unchanged (by rw [World.released_db, rows.others jobId other])
  | start =>
      obtain ⟨-, rfl⟩ := System.step_start stepped
      rw [World.recovered_jobs, absent] at stored
      cases stored
  | arrive arrival =>
      obtain ⟨-, rfl⟩ := System.step_arrive stepped
      exact unchanged rfl
  | take =>
      obtain ⟨_, _, -, -, rfl⟩ := System.step_take stepped
      exact unchanged rfl
  | drift reached =>
      cases stepped
      exact unchanged rfl
  | tick elapsed =>
      cases stepped
      exact unchanged rfl
  | crash =>
      cases stepped
      exact unchanged rfl

/-- No step deletes a job. -/
theorem Queued.stored_of_step {self : JobRunner} {before after : System} {label : Label}
    {jobId : Nat} (queued : before.Queued)
    (uses : ∀ request ∈ before.requests, request.Uses Op.forRequest)
    (stepped : before.step self label = some after)
    (stored : (before.world.db.jobs.get? jobId).isSome = true) :
    (after.world.db.jobs.get? jobId).isSome = true := by
  obtain ⟨job, found⟩ := Option.isSome_iff_exists.mp stored
  by_cases external : label.external = true
  · have passed := others_of_external uses external stepped
    exact Option.isSome_of_eq_some (passed.db.jobs jobId job found)
  · cases label with
    | work event =>
        obtain ⟨program, next, world, running, progressed, rfl⟩ := System.step_work stepped
        obtain ⟨current, -, -, working, -⟩ := queued.working program running
        obtain ⟨-, op, outcome, own, performed⟩ := working.step progressed
        obtain ⟨rows, -, -⟩ := Op.jobFrame own performed
        rw [World.released_db]
        exact rows.isSome stored
    | take =>
        obtain ⟨_, _, -, -, rfl⟩ := System.step_take stepped
        exact stored
    | crash =>
        cases stepped
        exact stored
    | start =>
        obtain ⟨-, rfl⟩ := System.step_start stepped
        rw [World.recovered_jobs, Option.isSome_map]
        exact stored
    | arrive arrival => exact absurd rfl external
    | serve index event => exact absurd rfl external
    | drift reached => exact absurd rfl external
    | tick elapsed => exact absurd rfl external

/-- A job that waits after a step waited before it, with the same row. -/
theorem Queued.row_of_step {self : JobRunner} {before after : System} {label : Label} {jobId : Nat}
    (queued : before.Queued) (uses : ∀ request ∈ before.requests, request.Uses Op.forRequest)
    (stepped : before.step self label = some after)
    (stored : (before.world.db.jobs.get? jobId).isSome = true) (waiting : jobId ∈ after.waiting) :
    jobId ∈ before.waiting ∧
      after.world.db.jobs.get? jobId = before.world.db.jobs.get? jobId := by
  cases label with
  | serve index event =>
      obtain ⟨op, resume, outcome, world, found, performed, rfl⟩ := System.step_serve stepped
      have listed := List.mem_of_getElem? found
      rcases waiting_of_serve found (queued.hands _ listed) (uses _ listed).1 performed with
        ⟨same, kept⟩ | ⟨job, -, inserted, grown⟩
      · exact ⟨kept.mem_iff.mp waiting, by rw [same]⟩
      · have other : jobId ≠ before.world.db.jobs.nextId := by
          rintro rfl
          simp at stored
        refine ⟨(List.mem_cons.mp (grown.mem_iff.mp waiting)).resolve_left other, ?_⟩
        simp [inserted, other]
  | work event =>
      obtain ⟨program, next, world, running, progressed, rfl⟩ := System.step_work stepped
      obtain ⟨current, idle, -, working, -⟩ := queued.working program running
      obtain ⟨-, op, outcome, own, performed⟩ := working.step progressed
      obtain ⟨rows, queue, -⟩ := Op.jobFrame own performed
      have waited : jobId ∈ before.waiting := by simpa [System.waiting, queue] using waiting
      have other : jobId ≠ current := by
        rintro rfl
        exact idle waited
      exact ⟨waited, by rw [World.released_db, rows.others jobId other]⟩
  | take =>
      obtain ⟨taken, rest, idle, queue, rfl⟩ := System.step_take stepped
      refine ⟨?_, rfl⟩
      rw [System.waiting, queue]
      exact List.mem_cons_of_mem _ waiting
  | arrive arrival =>
      obtain ⟨-, rfl⟩ := System.step_arrive stepped
      obtain ⟨empty, -⟩ := arrival.program_clean
      refine ⟨?_, rfl⟩
      simpa [System.waiting, empty] using waiting
  | drift reached =>
      cases stepped
      exact ⟨waiting, rfl⟩
  | tick elapsed =>
      cases stepped
      exact ⟨waiting, rfl⟩
  | crash =>
      cases stepped
      simp [System.waiting, World.crashed] at waiting
  | start =>
      obtain ⟨down, rfl⟩ := System.step_start stepped
      obtain ⟨queue, requests⟩ := queued.down down
      simp [System.waiting, World.recovered, queue, requests] at waiting

end System

theorem System.Reachable.keeps_queued {self : JobRunner} {condition : System → Label → Prop}
    {start system : System} (queued : start.Queued)
    (uses : ∀ request ∈ start.requests, request.Uses Op.forRequest)
    (reached : Reachable self condition start system) : system.Queued := by
  induction reached with
  | refl => exact queued
  | step earlier _ stepped inductionHypothesis =>
      exact inductionHypothesis.step (earlier.requests_use uses) stepped

/-- The row of a job stays as it was stored while the job waits. -/
theorem System.Reachable.row_of_waiting {self : JobRunner} {condition : System → Label → Prop}
    {start system : System} {jobId : Nat} (queued : start.Queued)
    (uses : ∀ request ∈ start.requests, request.Uses Op.forRequest)
    (stored : (start.world.db.jobs.get? jobId).isSome = true)
    (reached : Reachable self condition start system) (waiting : jobId ∈ system.waiting) :
    system.world.db.jobs.get? jobId = start.world.db.jobs.get? jobId := by
  have general : (system.world.db.jobs.get? jobId).isSome = true ∧ (jobId ∈ system.waiting →
      system.world.db.jobs.get? jobId = start.world.db.jobs.get? jobId) := by
    clear waiting
    induction reached with
    | refl => exact ⟨stored, fun _ => rfl⟩
    | step earlier _ stepped inductionHypothesis =>
        have before := earlier.keeps_queued queued uses
        have served := earlier.requests_use uses
        refine ⟨before.stored_of_step served stepped inductionHypothesis.1, fun waiting => ?_⟩
        obtain ⟨waited, same⟩ := before.row_of_step served stepped inductionHypothesis.1 waiting
        exact same.trans (inductionHypothesis.2 waited)
  exact general.2 waiting

/-- A job that waits has waited since it was stored. -/
theorem System.Reachable.waited_of_waiting {self : JobRunner} {condition : System → Label → Prop}
    {start system : System} {jobId : Nat} (queued : start.Queued)
    (uses : ∀ request ∈ start.requests, request.Uses Op.forRequest)
    (stored : (start.world.db.jobs.get? jobId).isSome = true)
    (reached : Reachable self condition start system) (waiting : jobId ∈ system.waiting) :
    jobId ∈ start.waiting := by
  have general : (system.world.db.jobs.get? jobId).isSome = true ∧
      (jobId ∈ system.waiting → jobId ∈ start.waiting) := by
    clear waiting
    induction reached with
    | refl => exact ⟨stored, id⟩
    | step earlier _ stepped inductionHypothesis =>
        have before := earlier.keeps_queued queued uses
        have served := earlier.requests_use uses
        refine ⟨before.stored_of_step served stepped inductionHypothesis.1, fun waiting => ?_⟩
        exact inductionHypothesis.2
          (before.row_of_step served stepped inductionHypothesis.1 waiting).1
  exact general.2 waiting

/-- In every reachable state each waiting job waits once, is still QUEUED, and is not running. -/
theorem System.Reachable.queued {self : JobRunner} {condition : System → Label → Prop}
    {start system : System} (fresh : start.Fresh)
    (reached : Reachable self condition start system) : system.Queued :=
  reached.keeps_queued (.fresh fresh) fresh.requests_use

end AptlyGui
