import AptlyGui.Services.Jobs.Alone
import AptlyGui.Services.Jobs.Sources

/-!
# What a switch asks aptly for

The trace of a SWITCH job that runs alone: which publications it moves, in which
order and with which snapshots, and what its step log says when it ends.
-/

namespace AptlyGui

open Coroutine (Safe)

/-! ## Moves -/

/-- A call that makes a publication, or points one at other snapshots (`put`). -/
structure Move where
  put : Bool
  target : String
  suite : String
  sources : Dict String String
  deriving DecidableEq

def Request.move : Request → Option Move
  | .switchPublished target suite sources _ => some ⟨true, target, suite, sources⟩
  | .publishSnapshots target suite sources _ _ => some ⟨false, target, suite, sources⟩
  | _ => none

/-- The publications that aptly has listed in its answer. -/
def Exchange.listing : Exchange → Option (List Publication)
  | ⟨.listPublished, .ok (.published publications)⟩ => some publications
  | _ => none

def movesIn (sent : List Exchange) : List Move := sent.filterMap fun exchange => exchange.request.move

def listingsIn (sent : List Exchange) : List (List Publication) := sent.filterMap Exchange.listing

@[simp]
theorem movesIn_append (first second : List Exchange) :
    movesIn (first ++ second) = movesIn first ++ movesIn second :=
  List.filterMap_append

@[simp]
theorem listingsIn_append (first second : List Exchange) :
    listingsIn (first ++ second) = listingsIn first ++ listingsIn second :=
  List.filterMap_append

/-- Waiting for tasks neither moves a publication nor lists them. -/
theorem silent_of_polls {more : List Exchange}
    (polls : ∀ exchange ∈ more, exchange.request.polls = true) :
    movesIn more = [] ∧ listingsIn more = [] := by
  simp only [movesIn, listingsIn, List.filterMap_eq_nil_iff]
  refine ⟨fun exchange listed => ?_, fun exchange listed => ?_⟩
  · have poll := polls exchange listed
    cases request : exchange.request <;> rw [request] at poll <;> first | rfl | cases poll
  · have poll := polls exchange listed
    obtain ⟨request, outcome⟩ := exchange
    cases request <;> first | rfl | cases poll

theorem parse_listPublished {body : Reply} {published : List Published}
    (parsed : Request.listPublished.parse body = .ok published) :
    ∃ publications, body = .published publications ∧ published = publications.map Published.parse := by
  cases body <;> cases parsed
  exact ⟨_, rfl, rfl⟩

/-- The job may publish this set: it is the one asked for, it is of this mirror set, and
nothing of it is missing. -/
structure Job.Chooses (job : Job) (mirrorSet : MirrorSet) (db : Database) (target : SnapshotSet) :
    Prop where
  asked : job.targetIn db = some target
  owned : target.mirrorSetId = mirrorSet.id
  complete : target.state = .complete

/-- The call for one suite, given the publications that were there before. -/
structure Moves (mirrorSet : MirrorSet) (target : SnapshotSet) (existing : List Publication)
    (suite : String) (move : Move) : Prop where
  named : move.suite = suite
  placed : move.target = mirrorSet.publishTarget
  sources : JobRunner.sourcesFor mirrorSet target suite = .ok move.sources
  put : move.put = ((JobRunner.byPlace (existing.map Published.parse)).get?
    (mirrorSet.publishPrefix, suite)).isSome

/-- The description of the step that moves a suite. -/
def MirrorSet.publishing (mirrorSet : MirrorSet) (suite : String) : String :=
  s!"Publish {mirrorSet.publishPrefix}/{suite}"

/-- The steps of suites that have been moved. -/
def MirrorSet.moved (mirrorSet : MirrorSet) (suites : List String) : List (String × StepState) :=
  suites.map fun suite => (mirrorSet.publishing suite, .succeeded)

namespace Switch

/-- The ways in which a switch fails. -/
inductive Fails (job : Job) (mirrorSet : MirrorSet) (origin : Database) (trace : Trace) : Prop where
  /-- before the first suite -/
  | untouched (steps : trace.steps = []) (moves : movesIn trace.sent = [])
  /-- at a suite for which the target lacks a snapshot -/
  | unrecorded {target : SnapshotSet} {first later : List String} {suite : String} {error : Exn}
      (chosen : job.Chooses mirrorSet origin target)
      (order : orderSuites mirrorSet.suites = first ++ suite :: later)
      (missing : JobRunner.sourcesFor mirrorSet target suite = .error error)
      (steps : trace.steps = mirrorSet.moved first) (moves : (movesIn trace.sent).map Move.suite = first)
  /-- at a suite that has been asked for -/
  | suite {first later : List String} {suite : String}
      (order : orderSuites mirrorSet.suites = first ++ suite :: later)
      (steps : trace.steps = mirrorSet.moved first ++ [(mirrorSet.publishing suite, .failed)])
      (moves : (movesIn trace.sent).map Move.suite = first ++ [suite])
  /-- after the last suite -/
  | checks {rest : List (String × StepState)}
      (steps : trace.steps = mirrorSet.moved (orderSuites mirrorSet.suites) ++ rest)
      (ends : rest = [("Verify", .failed)] ∨
        rest = [("Verify", .succeeded), ("Check as a client", .failed)])
      (moves : (movesIn trace.sent).map Move.suite = orderSuites mirrorSet.suites)

/-- What a switch that has succeeded has done and seen. -/
structure Succeeds (job : Job) (mirrorSet : MirrorSet) (origin : Database) (target : SnapshotSet)
    (existing listing : List Publication) (trace : Trace) : Prop where
  chosen : job.Chooses mirrorSet origin target
  listings : listingsIn trace.sent = [existing, listing]
  moves : List.Forall₂ (Moves mirrorSet target existing) (orderSuites mirrorSet.suites)
    (movesIn trace.sent)
  verified : JobRunner.verifyProblems mirrorSet target
    (JobRunner.byPlace (listing.map Published.parse)) = .ok []

/-- Nothing is asked for without a target, and the suites moved so far are the first ones. -/
def Underway (job : Job) (mirrorSet : MirrorSet) (origin : Database) (sent : List Exchange) : Prop :=
  sent = [] ∨ ∃ target, job.Chooses mirrorSet origin target ∧ (movesIn sent = [] ∨
    ∃ existing rest first later, listingsIn sent = existing :: rest ∧
      orderSuites mirrorSet.suites = first ++ later ∧
      List.Forall₂ (Moves mirrorSet target existing) first (movesIn sent))

def report (job : Job) (mirrorSet : MirrorSet) (origin : Database) : Report where
  during sent _ := Underway job mirrorSet origin sent
  failed := Fails job mirrorSet origin
  succeeded trace := ∃ target existing listing,
    Succeeds job mirrorSet origin target existing listing trace
  waits := by
    intro sent sets request outcome asked polls underway
    obtain ⟨moves, listings⟩ := @silent_of_polls [⟨request, outcome⟩] (by simpa using polls)
    rw [Underway, movesIn_append, listingsIn_append, moves, listings, List.append_nil,
      List.append_nil]
    exact .inr (underway.resolve_left asked)

variable {job : Job} {mirrorSet : MirrorSet} {origin : Database} {target : SnapshotSet}
  {existing : List Publication} {suite : String} {moves : List Move} {sent : List Exchange}
  {first later : List String}
  {jobId : Nat} {self : JobRunner} {world : World}

theorem suites_of_moves (moved : List.Forall₂ (Moves mirrorSet target existing) first moves) :
    moves.map Move.suite = first := by
  induction moved with
  | nil => rfl
  | cons move _ inductionHypothesis => rw [List.map_cons, move.named, inductionHypothesis]

theorem moves_of_mem {move : Move} (moved : List.Forall₂ (Moves mirrorSet target existing) first moves)
    (listed : move ∈ moves) : ∃ suite, Moves mirrorSet target existing suite move := by
  induction moved with
  | nil => cases listed
  | cons here _ inductionHypothesis =>
      rcases List.mem_cons.mp listed with rfl | later
      · exact ⟨_, here⟩
      · exact inductionHypothesis later

theorem moved_append (suites : List String) (suite : String) :
    mirrorSet.moved (suites ++ [suite]) =
      mirrorSet.moved suites ++ [(mirrorSet.publishing suite, .succeeded)] := by
  simp [MirrorSet.moved]

/-- Failing closes nothing that is closed already. -/
theorem failed_steps (suites : List String) (rest : List (String × StepState))
    (sets : Table SnapshotSet) :
    (Trace.failed ⟨mirrorSet.moved suites ++ rest, sent, sets⟩).steps =
      mirrorSet.moved suites ++ rest.map fun step =>
        (step.1, if step.2 = .running then .failed else step.2) := by
  simp [Trace.failed, MirrorSet.moved]

/-- The trace of a switch that has moved these suites. -/
def progress (mirrorSet : MirrorSet) (origin : Database) (suites : List String)
    (sent : List Exchange) : Trace :=
  ⟨mirrorSet.moved suites, sent, origin.snapshotSets⟩

/-- The position of a switch between two suites. -/
def Between (job : Job) (mirrorSet : MirrorSet) (origin : Database) (target : SnapshotSet)
    (existing : List Publication) (jobId : Nat) (later : List String) (world : World) : Prop :=
  ∃ first sent, orderSuites mirrorSet.suites = first ++ later ∧
    List.Forall₂ (Moves mirrorSet target existing) first (movesIn sent) ∧
    listingsIn sent = [existing] ∧
    Alone.At (report job mirrorSet origin) jobId (progress mirrorSet origin first sent) none world

/-- How the work of a switch raises. -/
abbrev Gives (job : Job) (mirrorSet : MirrorSet) (origin : Database) (jobId : Nat) :
    Exn → World → Prop :=
  Alone.Raises (report job mirrorSet origin) jobId fun trace =>
    Fails job mirrorSet origin trace.failed

/-- Asking for one suite: it counts as moved from then on, whatever comes of it. -/
theorem move_at {request : Request} {move : Move} {step : Nat} {task : request.Ret → Task}
    (chosen : job.Chooses mirrorSet origin target)
    (order : orderSuites mirrorSet.suites = first ++ suite :: later)
    (moved : List.Forall₂ (Moves mirrorSet target existing) first (movesIn sent))
    (listed : listingsIn sent = [existing]) (moves : request.move = some move)
    (blind : ∀ outcome, Exchange.listing ⟨request, outcome⟩ = none)
    (next : Moves mirrorSet target existing suite move)
    (working : Alone.At (report job mirrorSet origin) jobId
      ((progress mirrorSet origin first sent).step (mirrorSet.publishing suite) .running)
      (some step) world) :
    Safe (Alone.contract (report job mirrorSet origin) jobId)
      (fun _ => Between job mirrorSet origin target existing jobId later)
      (Gives job mirrorSet origin jobId)
      (do
        let started ← perform (.aptly request)
        self.followTask step (task started)) world := by
  have grown : ∀ (outcome : Except Exn Reply) (more : List Exchange),
      (∀ exchange ∈ more, exchange.request.polls = true) →
      List.Forall₂ (Moves mirrorSet target existing) (first ++ [suite])
        (movesIn (sent ++ [⟨request, outcome⟩] ++ more)) ∧
      listingsIn (sent ++ [⟨request, outcome⟩] ++ more) = [existing] := by
    intro outcome more polls
    obtain ⟨still, unlisted⟩ := silent_of_polls polls
    have one : movesIn [⟨request, outcome⟩] = [move] := by simp [movesIn, moves]
    have none : listingsIn [⟨request, outcome⟩] = [] := by simp [listingsIn, blind]
    rw [movesIn_append, movesIn_append, listingsIn_append, listingsIn_append, still, unlisted, one,
      none, List.append_nil, List.append_nil, List.append_nil]
    exact ⟨List.rel_append moved (.cons next .nil), listed⟩
  have fails : ∀ outcome more, (∀ exchange ∈ more, exchange.request.polls = true) →
      Fails job mirrorSet origin (Trace.failed
        (((progress mirrorSet origin first (sent ++ [⟨request, outcome⟩])).saw more).step
          (mirrorSet.publishing suite) .running)) := by
    intro outcome more polls
    exact .suite order (failed_steps first [(mirrorSet.publishing suite, .running)] _)
      (suites_of_moves (grown outcome more polls).1)
  refine Safe.bind ((Alone.askStep_at working fun outcome => ?_).mono (fun _ _ reached => reached) ?_) ?_
  · obtain ⟨moves, listings⟩ := grown outcome [] (by simp)
    rw [List.append_nil] at moves listings
    refine .inr ⟨target, chosen, .inr ⟨existing, [], first ++ [suite], later, listings, ?_, moves⟩⟩
    simpa using order
  · rintro error after ⟨caught, outcome, -, working⟩
    have failed := fails outcome [] (by simp)
    rw [Trace.saw_nil] at failed
    exact Alone.Raised.raises ⟨caught, working⟩ failed
  · rintro started after ⟨body, -, working⟩
    refine (Alone.followTask_at (by simp [Trace.saw]) (task started) working).mono ?_ ?_
    · rintro _ last ⟨more, done, polls, -, -, working⟩
      obtain ⟨moves, listings⟩ := grown (.ok body) more polls
      refine ⟨first ++ [suite], _, by simpa using order, moves, listings, ?_⟩
      rw [progress, moved_append]
      exact working
    · rintro error last ⟨caught, more, polls, -, working⟩
      exact Alone.Raised.raises ⟨caught, working⟩ (fails (.ok body) more polls)

theorem publishEach_at (chosen : job.Chooses mirrorSet origin target)
    (between : Between job mirrorSet origin target existing jobId (suite :: later) world) :
    Safe (Alone.contract (report job mirrorSet origin) jobId)
      (fun _ => Between job mirrorSet origin target existing jobId later)
      (Gives job mirrorSet origin jobId)
      (self.publishEach jobId mirrorSet target
        (JobRunner.byPlace (existing.map Published.parse)) suite) world := by
  obtain ⟨first, sent, order, moved, listed, working⟩ := between
  unfold JobRunner.publishEach
  cases found : JobRunner.sourcesFor mirrorSet target suite with
  | error error =>
      refine Alone.Raised.raises ⟨JobRunner.sourcesFor_error found, working⟩
        (.unrecorded chosen order found ?_ (suites_of_moves moved))
      have closed := @failed_steps mirrorSet sent first [] origin.snapshotSets
      rw [List.map_nil, List.append_nil] at closed
      exact closed
  | ok sources =>
      change Safe _ _ _ (Coroutine.bind (addStep jobId (mirrorSet.publishing suite)) _) world
      refine Safe.bind (Alone.addStep_at _ working) fun step before working => ?_
      dsimp only
      split
      · rename_i known
        exact @move_at _ _ _ _ _ _ _ _ _ _ _ _
          (.switchPublished mirrorSet.publishTarget suite sources ⟨mirrorSet.signingKey⟩)
          ⟨true, mirrorSet.publishTarget, suite, sources⟩ step id chosen order moved listed rfl
          (fun _ => rfl) ⟨rfl, rfl, found, known.symm⟩ working
      · rename_i unknown
        exact @move_at _ _ _ _ _ _ _ _ _ _ _ _
          (.publishSnapshots mirrorSet.publishTarget suite sources mirrorSet.architectures
            ⟨mirrorSet.signingKey⟩)
          ⟨false, mirrorSet.publishTarget, suite, sources⟩ step id chosen order moved listed rfl
          (fun _ => rfl) ⟨rfl, rfl, found, by simpa using unknown⟩ working

section Checks

variable {rest : List (String × StepState)}
  (chosen : job.Chooses mirrorSet origin target)
  (moved : List.Forall₂ (Moves mirrorSet target existing) (orderSuites mirrorSet.suites)
    (movesIn sent))
  (listed : listingsIn sent = [existing])

include moved

theorem fails_checks {now : List (String × StepState)} (sets : Table SnapshotSet)
    (ends : (rest.map fun step => (step.1, if step.2 = .running then .failed else step.2)) = now)
    (shape : now = [("Verify", .failed)] ∨
      now = [("Verify", .succeeded), ("Check as a client", .failed)]) :
    Fails job mirrorSet origin (Trace.failed
      ⟨mirrorSet.moved (orderSuites mirrorSet.suites) ++ rest, sent, sets⟩) := by
  refine .checks ?_ shape (suites_of_moves moved)
  rw [failed_steps, ends]

include chosen listed

theorem verify_at (working : Alone.At (report job mirrorSet origin) jobId
      (progress mirrorSet origin (orderSuites mirrorSet.suites) sent) none world) :
    Safe (Alone.contract (report job mirrorSet origin) jobId)
      (fun _ after => ∃ listing, JobRunner.verifyProblems mirrorSet target
          (JobRunner.byPlace (listing.map Published.parse)) = .ok [] ∧
        Alone.At (report job mirrorSet origin) jobId
          ((progress mirrorSet origin (orderSuites mirrorSet.suites)
            (sent ++ [⟨.listPublished, .ok (.published listing)⟩])).step "Verify" .succeeded)
          none after)
      (Gives job mirrorSet origin jobId) (JobRunner.verify jobId mirrorSet target) world := by
  have still : ∀ outcome, movesIn (sent ++ [⟨.listPublished, outcome⟩]) = movesIn sent := by
    intro outcome
    rw [movesIn_append]
    exact List.append_nil _
  have fails : ∀ outcome state, state = StepState.running ∨ state = .failed →
      Fails job mirrorSet origin (Trace.failed
        ((progress mirrorSet origin (orderSuites mirrorSet.suites)
          (sent ++ [⟨.listPublished, outcome⟩])).step "Verify" state)) := by
    intro outcome state ends
    have again : List.Forall₂ (Moves mirrorSet target existing) (orderSuites mirrorSet.suites)
        (movesIn (sent ++ [⟨.listPublished, outcome⟩])) := by
      rw [still]
      exact moved
    refine fails_checks again _ rfl (.inl ?_)
    rcases ends with rfl | rfl <;> rfl
  refine Safe.bind (Alone.addStep_at "Verify" working) fun step before working => ?_
  refine Safe.bind ((Alone.askStep_at working fun outcome => ?_).mono (fun _ _ reached => reached) ?_) ?_
  · refine .inr ⟨target, chosen, .inr ⟨existing, listingsIn [⟨.listPublished, outcome⟩], _, [], ?_,
      (List.append_nil _).symm, ?_⟩⟩
    · change listingsIn (sent ++ [⟨.listPublished, outcome⟩]) = _
      rw [listingsIn_append, listed]
      rfl
    · change List.Forall₂ _ _ (movesIn (sent ++ [⟨.listPublished, outcome⟩]))
      rw [still]
      exact moved
  · rintro error after ⟨caught, outcome, -, working⟩
    exact Alone.Raised.raises ⟨caught, working⟩ (fails outcome _ (.inl rfl))
  rintro published after ⟨body, parsed, working⟩
  obtain ⟨listing, rfl, rfl⟩ := parse_listPublished parsed
  cases verdict : JobRunner.verifyProblems mirrorSet target
      (JobRunner.byPlace (listing.map Published.parse)) with
  | error error =>
      exact Alone.Raised.raises ⟨JobRunner.verifyProblems_error verdict, working⟩
        (fails _ _ (.inl rfl))
  | ok problems =>
      change Safe _ _ _ (if problems ≠ [] then _ else _) after
      split
      · refine Safe.bind (Alone.finishStep_at _ working) fun _ last working => ?_
        exact Alone.Raised.raises ⟨rfl, working⟩ (fails _ _ (.inr rfl))
      · rename_i silent
        obtain rfl : problems = [] := by simpa using silent
        exact (Alone.finishStep_at _ working).mono
          (fun _ last working => ⟨listing, verdict, working⟩) fun _ _ gave => gave

omit chosen listed in
theorem checkAsClient_at {publicUrl : String}
    (working : Alone.At (report job mirrorSet origin) jobId
      ((progress mirrorSet origin (orderSuites mirrorSet.suites) sent).step "Verify" .succeeded)
      none world) :
    Safe (Alone.contract (report job mirrorSet origin) jobId)
      (fun _ after => ∃ steps, Alone.At (report job mirrorSet origin) jobId
        ⟨steps, sent, origin.snapshotSets⟩ none after)
      (Gives job mirrorSet origin jobId) (JobRunner.checkAsClient jobId mirrorSet publicUrl) world := by
  let checking (state : StepState) : Trace :=
    Trace.step ((progress mirrorSet origin (orderSuites mirrorSet.suites) sent).step "Verify"
      .succeeded) "Check as a client" state
  have fails : ∀ state : StepState, state = .running ∨ state = .failed →
      Fails job mirrorSet origin (checking state).failed := by
    intro state ends
    simp only [checking, Trace.step, progress, List.append_assoc]
    refine fails_checks moved _ rfl (.inr ?_)
    rcases ends with rfl | rfl <;> rfl
  refine Safe.bind (Alone.addStep_at "Check as a client" working) fun step before working => ?_
  refine Safe.bind (Safe.foldEach (fun _ (_ : List ClientCheck) after =>
    Alone.At (report job mirrorSet origin) jobId (checking .running) (some step) after) working ?_) ?_
  · intro suite rest checks after working
    refine Safe.bind ((Alone.calm_at rfl rfl working).mono (fun _ _ kept => kept) ?_)
      fun _ _ kept => kept
    exact fun error last gave => gave.raises (fails _ (.inl rfl))
  · intro checks after working
    dsimp only
    split
    · refine Safe.bind (Alone.finishStep_at _ working) fun _ last working => ?_
      exact Alone.Raised.raises ⟨rfl, working⟩ (fails _ (.inr rfl))
    · exact (Alone.finishStep_at _ working).mono (fun _ last working => ⟨_, working⟩)
        fun _ _ gave => gave

end Checks

theorem publishSuites_at (chosen : job.Chooses mirrorSet origin target)
    (working : Alone.At (report job mirrorSet origin) jobId (progress mirrorSet origin [] []) none
      world) :
    Safe (Alone.contract (report job mirrorSet origin) jobId)
      (fun _ after => ∃ trace, Alone.At (report job mirrorSet origin) jobId trace none after ∧
        (report job mirrorSet origin).succeeded trace)
      (Gives job mirrorSet origin jobId) (self.publishSuites jobId mirrorSet target) world := by
  refine Safe.bind ((Alone.ask_at working fun outcome => .inr ⟨target, chosen, .inl rfl⟩).mono
    (fun _ _ reached => reached) ?_) ?_
  · rintro error after ⟨caught, outcome, -, working⟩
    exact Alone.Raised.raises ⟨caught, working⟩ (.untouched rfl rfl)
  rintro published before ⟨body, parsed, working⟩
  obtain ⟨existing, rfl, rfl⟩ := parse_listPublished parsed
  have moving : Safe (Alone.contract (report job mirrorSet origin) jobId)
      (fun _ => Between job mirrorSet origin target existing jobId [])
      (Gives job mirrorSet origin jobId)
      (Coroutine.forEach (orderSuites mirrorSet.suites) (self.publishEach jobId mirrorSet target
        (JobRunner.byPlace (existing.map Published.parse)))) before :=
    Safe.forEach (fun later after => Between job mirrorSet origin target existing jobId later after)
      ⟨[], _, rfl, .nil, rfl, working⟩
      fun suite later after between => publishEach_at chosen between
  refine Safe.bind moving ?_
  rintro _ after ⟨first, sent, order, moved, listed, working⟩
  rw [List.append_nil] at order
  subst order
  refine Safe.bind (verify_at chosen moved listed working) ?_
  rintro _ after ⟨listing, verified, working⟩
  have again : List.Forall₂ (Moves mirrorSet target existing) (orderSuites mirrorSet.suites)
      (movesIn (sent ++ [⟨.listPublished, .ok (.published listing)⟩])) := by
    rw [movesIn_append]
    simpa [movesIn, Request.move] using moved
  have succeeds : ∀ steps, (report job mirrorSet origin).succeeded
      ⟨steps, sent ++ [⟨.listPublished, .ok (.published listing)⟩], origin.snapshotSets⟩ := by
    refine fun steps => ⟨target, existing, listing, chosen, ?_, again, verified⟩
    rw [listingsIn_append, listed]
    rfl
  split
  · exact ⟨_, working, succeeds _⟩
  · split
    · exact ⟨_, working, succeeds _⟩
    · refine (checkAsClient_at again working).mono ?_ fun _ _ gave => gave
      rintro _ last ⟨steps, working⟩
      exact ⟨_, working, succeeds steps⟩

theorem switch_at (working : Alone.At (report job mirrorSet origin) jobId
      (progress mirrorSet origin [] []) none world) :
    Safe (Alone.contract (report job mirrorSet origin) jobId)
      (fun _ after => ∃ trace, Alone.At (report job mirrorSet origin) jobId trace none after ∧
        (report job mirrorSet origin).succeeded trace)
      (Gives job mirrorSet origin jobId) (self.switch jobId job.params mirrorSet) world := by
  have refuses : ∀ (error : Exn) after, error.isException = true →
      Alone.At (report job mirrorSet origin) jobId (progress mirrorSet origin [] []) none after →
      Gives job mirrorSet origin jobId error after :=
    fun error after caught working => Alone.Raised.raises ⟨caught, working⟩ (.untouched rfl rfl)
  unfold JobRunner.switch
  split
  · exact refuses _ _ rfl working
  · rename_i targetId asked
    refine Safe.bind (?_ : Safe (Alone.contract (report job mirrorSet origin) jobId)
      (fun (found : Option SnapshotSet) after => found = origin.snapshotSets.get? targetId ∧
        Alone.At (report job mirrorSet origin) jobId (progress mirrorSet origin [] []) none after) _
      (getSnapshotSet .job targetId) world) ?_
    · refine safe_query (.getSnapshotSet .job targetId)
        (fun world => world.db.snapshotSets.get? targetId) (fun _ => rfl) ?_ ?_ ?_
      · intro _ _
        refine working.settles ⟨?_, working⟩
        rw [working.sets]
        rfl
      · intro _ broken
        rw [working.whole] at broken
        cases broken
      · intro applied reached permitted
        cases permitted
    rintro found after ⟨rfl, working⟩
    split
    · exact refuses _ _ rfl working
    · rename_i target known
      split
      · exact refuses _ _ rfl working
      · rename_i owned
        split
        · exact refuses _ _ rfl working
        · rename_i complete
          refine publishSuites_at ⟨?_, by simpa using owned, by simpa using complete⟩ working
          simp [Job.targetIn, asked, known]

end Switch

/-- What every moment of a switch that runs alone is like. -/
theorem switch_reports {self : JobRunner} {world final : World} {events : List Event}
    {rest : Program Unit} {jobId : Nat} {job : Job} {mirrorSet : MirrorSet}
    (stored : world.db.jobs.get? jobId = some job) (type : job.type = .switch)
    (queued : job.state = .queued) (described : job.mirrorSetIn world.db = some mirrorSet)
    (untouched : world.Untouched jobId) (alone : ∀ event ∈ events, event.cancels = false)
    (ran : (self.runJob jobId).run semantics events world = some (rest, final)) :
    Reports (Switch.report job mirrorSet world.db) jobId final := by
  have reports : Reports (Switch.report job mirrorSet world.db) jobId world :=
    untouched.reports stored queued (.inl rfl)
  refine Alone.reports_of_run reports (Alone.runJob_at stored described reports ?_) alone ran
  intro after working
  rw [untouched.traceOf] at working
  simp only [JobRunner.execute, type]
  exact Switch.switch_at working

namespace Sample

def target : SnapshotSet where
  id := 1
  mirrorSetId := 1
  snapshots := Dict.ofList [("stable-main", "new-main")]
  state := .complete
  jobId := none

/-- The small service with one complete snapshot set. -/
def holding : World :=
  { service.world with db := { service.world.db with
      snapshotSets := service.world.db.snapshotSets.insert target } }

/-- The one suite is moved, and verified against what aptly lists afterwards. -/
def switched (existing listing : List Publication) : List Event :=
  taken ++ [.proceed] ++ replies mirrored [.published existing] ++ [.proceed, .proceed] ++
    followed mirrored 2 ++ [.proceed, .proceed] ++ replies mirrored [.published listing] ++
    [.proceed, .proceed]

/-- A suite of the wide set with the snapshots of this stamp. -/
def wideShown (suite stamp : String) : Publication where
  storage := ""
  barePrefix := "debian"
  distribution := suite
  sources := wide.components.map fun component => ⟨component, s!"{suite}-{component}-{stamp}"⟩

/-- The first suite is switched, the second published for the first time. -/
def wideSwitched : List Event :=
  let moved := wide.suites.map fun suite => wideShown suite "19700101T0000Z"
  taken ++ [.proceed] ++ replies (wideAptly 4 []) [.published [wideShown "stable" "old"]] ++
    (wide.suites.zipIdx 1).flatMap (fun (_, place) =>
      [.proceed, .proceed] ++ followed (wideAptly 4 (moved.take place)) (4 + place)) ++
    [.proceed, .proceed] ++ replies (wideAptly 4 moved) [.published moved] ++ [.proceed, .proceed]

end Sample

end AptlyGui
