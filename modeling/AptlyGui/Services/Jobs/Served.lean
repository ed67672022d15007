import AptlyGui.Services.Jobs.Queue

/-!
# Who is served

While the process is up, the worker takes the jobs stored since its start in the
order in which the requests put them in the queue, each once.  A job that is
stored either has been taken or still waits: the queue forgets nothing and makes
nothing up.
-/

namespace AptlyGui

/-- Everything but the end of the process. -/
def Label.keepsUp : Label → Bool
  | .crash => false
  | _ => true

namespace System

/-- What went through the queue since the process came up, in the order of the puts. -/
def line (system : System) : List Nat :=
  system.world.taken.reverse ++ system.world.queue

/-- What was taken and what waits to be. -/
def inHand (system : System) : List Nat :=
  system.world.taken ++ system.waiting

/-- The process that began at `first` knows each job stored since then, once. -/
structure Served (first system : System) : Prop where
  up : system.worker ≠ .down
  distinct : system.inHand.Nodup
  kept : ∀ id, (first.world.db.jobs.get? id).isSome = true →
    (system.world.db.jobs.get? id).isSome = true
  exact : ∀ id, id ∈ system.inHand ↔
    (system.world.db.jobs.get? id).isSome = true ∧ first.world.db.jobs.get? id = none

/-- What a step of a running process does: it adds the jobs it stores, at the end of the line. -/
structure Receives (before after : System) (added : List Nat) : Prop where
  distinct : added.Nodup
  fresh : ∀ id ∈ added, before.world.db.jobs.get? id = none
  inHand : after.inHand.Perm (added ++ before.inHand)
  stored : ∀ id, (after.world.db.jobs.get? id).isSome = true ↔
    id ∈ added ∨ (before.world.db.jobs.get? id).isSome = true
  line : before.line <+: after.line

variable {self : JobRunner} {before after : System}

/-- A step that stores no job and leaves the line as it is. -/
theorem Receives.nothing (inHand : after.inHand.Perm before.inHand)
    (stored : ∀ id, (after.world.db.jobs.get? id).isSome = true ↔
      (before.world.db.jobs.get? id).isSome = true)
    (line : after.line = before.line) : Receives before after [] where
  distinct := List.nodup_nil
  fresh := by
    intro id listed
    cases listed
  inHand := inHand
  stored := by
    intro id
    rw [stored id]
    simp
  line := line ▸ List.prefix_rfl

theorem receives_of_serve {index : Nat} {event : Event} (queued : before.Queued)
    (uses : ∀ request ∈ before.requests, request.Uses Op.forRequest)
    (stepped : before.step self (.serve index event) = some after) :
    ∃ added, Receives before after added := by
  obtain ⟨op, resume, outcome, world, found, performed, rfl⟩ := System.step_serve stepped
  have listed := List.mem_of_getElem? found
  have frame := Op.perform_frame performed
  have line : before.line <+: System.line { before with
      world := world, requests := before.requests.set index (resume outcome) } := by
    have grown : before.world.queue <+: world.queue := by
      by_cases puts : op.puts = true
      · cases op with
        | put id =>
            cases event <;> cases performed
            exact List.prefix_append _ _
        | _ => cases puts
      · exact (frame.queue (by simpa using puts)) ▸ List.prefix_rfl
    rw [System.line, System.line, frame.taken]
    exact (List.prefix_append_right_inj _).mpr grown
  rcases waiting_of_serve found (queued.hands _ listed) (uses _ listed).1 performed with
    ⟨same, waits⟩ | ⟨job, -, inserted, waits⟩
  · refine ⟨[], List.nodup_nil, fun id listed => absurd listed List.not_mem_nil, ?_, ?_, line⟩
    · rw [System.inHand, frame.taken]
      exact waits.append_left _
    · intro id
      dsimp only
      rw [same]
      simp
  · refine ⟨[before.world.db.jobs.nextId], List.nodup_singleton _, ?_, ?_, ?_, line⟩
    · intro id listed
      rw [List.mem_singleton.mp listed]
      exact Table.get?_nextId _
    · rw [System.inHand, frame.taken]
      exact (waits.append_left _).trans List.perm_middle
    · intro id
      dsimp only
      rw [inserted, Table.get?_insert, List.mem_singleton]
      by_cases new : id = before.world.db.jobs.nextId
      · simp [new]
      · simp [new]

/-- One step of a process that is up, whoever takes it. -/
theorem receives_of_step {label : Label} (queued : before.Queued)
    (uses : ∀ request ∈ before.requests, request.Uses Op.forRequest)
    (up : before.worker ≠ .down) (stays : label.keepsUp = true)
    (stepped : before.step self label = some after) :
    after.worker ≠ .down ∧ ∃ added, Receives before after added := by
  cases label with
  | serve index event =>
      rw [worker_of_external rfl stepped]
      exact ⟨up, receives_of_serve queued uses stepped⟩
  | work event =>
      obtain ⟨program, next, world, running, progressed, rfl⟩ := System.step_work stepped
      obtain ⟨current, -, known, working, -⟩ := queued.working program running
      obtain ⟨-, op, outcome, own, performed⟩ := working.step progressed
      obtain ⟨rows, queue, -⟩ := Op.jobFrame own performed
      have taken := (Op.perform_frame performed).taken
      refine ⟨Worker.resume_ne_down next, [], .nothing ?_ (fun id => ?_) ?_⟩
      · simp [System.inHand, System.waiting, taken, queue]
      · rw [World.released_db]
        by_cases same : id = current
        · subst same
          exact ⟨fun _ => known, fun _ => rows.isSome known⟩
        · rw [rows.others id same]
      · simp [System.line, taken, queue]
  | take =>
      obtain ⟨jobId, rest, idle, queue, rfl⟩ := System.step_take stepped
      refine ⟨by simp, [], .nothing ?_ (fun id => Iff.rfl) ?_⟩
      · simp only [System.inHand, System.waiting, World.take, queue, List.cons_append]
        exact List.perm_middle.symm
      · simp [System.line, World.take, queue]
  | arrive arrival =>
      obtain ⟨-, rfl⟩ := System.step_arrive stepped
      obtain ⟨empty, -⟩ := arrival.program_clean
      refine ⟨up, [], .nothing ?_ (fun id => Iff.rfl) rfl⟩
      simp [System.inHand, System.waiting, empty]
  | drift reached =>
      cases stepped
      exact ⟨up, [], .nothing (.refl _) (fun id => Iff.rfl) rfl⟩
  | tick elapsed =>
      cases stepped
      exact ⟨up, [], .nothing (.refl _) (fun id => Iff.rfl) rfl⟩
  | crash => cases stays
  | start =>
      obtain ⟨down, -⟩ := System.step_start stepped
      exact absurd down up

/-- A process that is down has taken nothing. -/
theorem taken_of_down {condition : System → Label → Prop} {start system : System}
    (fresh : start.Fresh) (reached : Reachable self condition start system)
    (down : system.worker = .down) : system.world.taken = [] := by
  induction reached with
  | refl => exact fresh.taken
  | @step before after label earlier permitted stepped inductionHypothesis =>
      cases label with
      | serve index event =>
          rw [worker_of_external rfl stepped] at down
          obtain ⟨op, resume, outcome, world, -, performed, rfl⟩ := System.step_serve stepped
          exact (Op.perform_frame performed).taken.trans (inductionHypothesis down)
      | work event =>
          obtain ⟨_, next, _, -, -, rfl⟩ := System.step_work stepped
          exact absurd down (Worker.resume_ne_down next)
      | take =>
          obtain ⟨_, _, -, -, rfl⟩ := System.step_take stepped
          cases down
      | arrive arrival =>
          obtain ⟨-, rfl⟩ := System.step_arrive stepped
          exact inductionHypothesis down
      | drift reached =>
          cases stepped
          exact inductionHypothesis down
      | tick elapsed =>
          cases stepped
          exact inductionHypothesis down
      | crash =>
          cases stepped
          rfl
      | start =>
          obtain ⟨-, rfl⟩ := System.step_start stepped
          cases down

/-- A process that has just come up has nothing in hand. -/
theorem served_of_start (queued : before.Queued)
    (started : before.step self .start = some after) (empty : before.world.taken = []) :
    Served after after := by
  obtain ⟨down, rfl⟩ := System.step_start started
  obtain ⟨queue, requests⟩ := queued.down down
  have none : System.inHand { before with world := before.world.recovered, worker := .idle } = [] := by
    simp [System.inHand, System.waiting, World.recovered, queue, requests, empty]
  refine ⟨by simp, by simp [none], fun _ stored => stored, fun id => ?_⟩
  rw [none]
  constructor
  · intro listed
    cases listed
  · rintro ⟨stored, absent⟩
    rw [absent] at stored
    cases stored

theorem Served.received {first : System} {added : List Nat} (served : Served first before)
    (up : after.worker ≠ .down) (receives : Receives before after added) :
    Served first after where
  up := up
  distinct := by
    rw [receives.inHand.nodup_iff, List.nodup_append']
    refine ⟨receives.distinct, served.distinct, fun id new old => ?_⟩
    have stored := ((served.exact id).mp old).1
    rw [receives.fresh id new] at stored
    cases stored
  kept := fun id stored => (receives.stored id).mpr (.inr (served.kept id stored))
  exact := by
    intro id
    rw [receives.inHand.mem_iff, List.mem_append, receives.stored id, served.exact id]
    constructor
    · rintro (new | ⟨stored, absent⟩)
      · refine ⟨.inl new, ?_⟩
        -- What was there when the process began is there still.
        by_contra old
        have stored := served.kept id (by simpa [Option.isSome_iff_ne_none] using old)
        rw [receives.fresh id new] at stored
        cases stored
      · exact ⟨.inr stored, absent⟩
    · rintro ⟨new | stored, absent⟩
      · exact .inl new
      · exact .inr ⟨stored, absent⟩

variable {condition : System → Label → Prop} {start first system later : System}

/-- As long as the process is up it knows its jobs, and its line only grows. -/
theorem Served.onwards (fresh : start.Fresh) (reached : Reachable self condition start system)
    (served : Served first system)
    (onwards : Reachable self (fun _ label => label.keepsUp = true) system later) :
    Served first later ∧ system.line <+: later.line := by
  have ever : Reachable self (fun _ _ => True) start system := reached.mono fun _ _ _ => trivial
  induction onwards with
  | refl => exact ⟨served, List.prefix_rfl⟩
  | step earlier stays stepped inductionHypothesis =>
      have before := ever.trans (earlier.mono fun _ _ _ => trivial)
      obtain ⟨known, grown⟩ := inductionHypothesis
      obtain ⟨up, added, receives⟩ := receives_of_step (before.queued fresh)
        (before.requests_use fresh.requests_use) known.up stays stepped
      exact ⟨known.received up receives, grown.trans receives.line⟩

/-- Of two jobs in the line the one behind is not taken before the other. -/
theorem Served.in_order (served : Served first system) {ahead behind : Nat}
    (ordered : [ahead, behind].Sublist system.line) (taken : behind ∈ system.world.taken) :
    ahead ∈ system.world.taken := by
  have apart : behind ∉ system.world.queue := by
    intro queued
    have distinct := served.distinct
    rw [inHand, waiting, List.nodup_append'] at distinct
    exact distinct.2.2 taken (List.mem_append_left _ queued)
  obtain ⟨front, back, split, first, second⟩ := List.sublist_append_iff.mp ordered
  rcases front with _ | ⟨one, _ | ⟨two, rest⟩⟩
  · rw [List.nil_append] at split
    exact absurd (second.subset (split ▸ by simp)) apart
  · obtain ⟨-, rfl⟩ := List.cons.inj split
    exact absurd (second.subset (List.mem_singleton_self behind)) apart
  · obtain ⟨rfl, -⟩ := List.cons.inj split
    exact List.mem_reverse.mp (first.subset List.mem_cons_self)

end System

/-- Each job stored since the start is taken once or waits, and they are taken in their order. -/
theorem jobs_are_served_once_in_order {self : JobRunner} {condition : System → Label → Prop}
    {start before first system later : System} (fresh : start.Fresh)
    (reached : System.Reachable self condition start before)
    (started : before.step self .start = some first)
    (up : System.Reachable self (fun _ label => label.keepsUp = true) first system)
    (onwards : System.Reachable self (fun _ label => label.keepsUp = true) system later) :
    (later.world.taken ++ later.waiting).Nodup ∧
      (∀ id, id ∈ later.world.taken ++ later.waiting ↔
        (later.world.db.jobs.get? id).isSome = true ∧ first.world.db.jobs.get? id = none) ∧
      ∀ ahead behind, [ahead, behind].Sublist system.line → behind ∈ later.world.taken →
        ahead ∈ later.world.taken := by
  have down : before.worker = .down := (System.step_start started).1
  have began : System.Served first first :=
    System.served_of_start (reached.queued fresh) started (System.taken_of_down fresh reached down)
  have beginning : System.Reachable self (fun _ _ => True) start first :=
    .step (reached.mono fun _ _ _ => trivial) trivial started
  obtain ⟨served, -⟩ := began.onwards fresh beginning up
  obtain ⟨known, grown⟩ := served.onwards fresh
    (beginning.trans (up.mono fun _ _ _ => trivial)) onwards
  refine ⟨known.distinct, known.exact, fun ahead behind ordered taken => ?_⟩
  exact known.in_order (ordered.trans grown.sublist) taken

namespace Served

/-- Two requests store their jobs; the second one is the first to put its job in the queue. -/
def handed : List Label :=
  [.arrive (.direct .discard none "operator" {}), .arrive (.direct .discard none "operator" {}),
    .serve 0 .proceed, .serve 1 .proceed, .serve 1 .proceed, .serve 0 .proceed]

end Served

theorem jobs_are_served_once_in_order_overtaken : ∃ first system later,
    Sample.service.step Sample.runner .start = some first ∧
    first.runUnder Sample.runner (fun _ label => label.keepsUp) Served.handed = some system ∧
    system.runUnder Sample.runner (fun _ label => label.keepsUp) [.take] = some later ∧
    system.line = [2, 1] ∧ later.world.taken = [2] ∧
    (later.world.taken ++ later.waiting).Nodup := by
  have runs : (Sample.service.step Sample.runner .start).any (fun first =>
      (first.runUnder Sample.runner (fun _ label => label.keepsUp) Served.handed).any fun system =>
        decide (system.line = [2, 1]) &&
        (system.runUnder Sample.runner (fun _ label => label.keepsUp) [.take]).any fun later =>
          decide (later.world.taken = [2])) = true := by
    decide
  obtain ⟨first, started, further⟩ := (Option.any_eq_true _ _).mp runs
  obtain ⟨system, ran, both⟩ := (Option.any_eq_true _ _).mp further
  obtain ⟨line, last⟩ := Bool.and_eq_true_iff.mp both
  obtain ⟨later, took, taken⟩ := (Option.any_eq_true _ _).mp last
  exact ⟨first, system, later, started, ran, took, of_decide_eq_true line, of_decide_eq_true taken,
    (@jobs_are_served_once_in_order _ (fun _ _ => True) _ _ _ _ _ (System.blank_fresh _ _) .refl
      started (.of_runUnder ran) (.of_runUnder took)).1⟩

end AptlyGui
