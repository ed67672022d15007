import AptlyGui.Library.Grouping
import AptlyGui.Library.Itinerary
import AptlyGui.Services.Jobs.Records
import AptlyGui.Services.Jobs.Uses
import Mathlib.Data.Prod.Lex
import Mathlib.Data.String.Basic

/-!
# In which order suites are visited

`order_suites` sorts by rank and name, so what it makes of a list does not
depend on the order of the list.  CREATE, UPDATE and SWITCH jobs go through the
suites of their set in this order, whatever becomes of their operations.
-/

namespace AptlyGui

open Coroutine (Follows Performs Uses)

/-! ## The order -/

/-- What the name of a suite ends with. -/
inductive SuiteKind where
  | base
  | updates
  | security
  | backports
  deriving DecidableEq, Repr

namespace SuiteKind

/-- Base first, then updates, security, backports. -/
def all : List SuiteKind := [.base, .updates, .security, .backports]

def Has : SuiteKind → String → Prop
  | .base, suite => endsWith suite "-updates" = false ∧ endsWith suite "-security" = false ∧
      endsWith suite "-backports" = false
  | .updates, suite => endsWith suite "-updates" = true
  | .security, suite => endsWith suite "-security" = true
  | .backports, suite => endsWith suite "-backports" = true

instance (kind : SuiteKind) (suite : String) : Decidable (kind.Has suite) := by
  cases kind <;> unfold Has <;> infer_instance

def rank : SuiteKind → Nat
  | .base => 0
  | .updates => 1
  | .security => 2
  | .backports => 3

/-- A text does not end in two ways of which neither ends with the other. -/
theorem endsWith_exclusive {suite first second : String} (ends : endsWith suite first = true)
    (left : ¬ first.toList <:+ second.toList) (right : ¬ second.toList <:+ first.toList) :
    endsWith suite second = false := by
  by_contra also
  rw [Bool.not_eq_false] at also
  have suffix := List.isSuffixOf_iff_suffix.mp ends
  have other := List.isSuffixOf_iff_suffix.mp also
  rcases List.suffix_or_suffix_of_suffix suffix other with inside | inside
  · exact left inside
  · exact right inside

theorem rank_of_has {kind : SuiteKind} {suite : String} (has : kind.Has suite) :
    suiteRank suite = kind.rank := by
  cases kind with
  | base =>
      obtain ⟨updates, security, backports⟩ := has
      simp [suiteRank, suiteOrderHint, List.zipIdx, updates, security, backports, rank]
  | updates =>
      have updates : endsWith suite "-updates" = true := has
      simp [suiteRank, suiteOrderHint, List.zipIdx, updates, rank]
  | security =>
      have security : endsWith suite "-security" = true := has
      have updates : endsWith suite "-updates" = false :=
        endsWith_exclusive security (by decide) (by decide)
      simp [suiteRank, suiteOrderHint, List.zipIdx, updates, security, rank]
  | backports =>
      have backports : endsWith suite "-backports" = true := has
      have updates : endsWith suite "-updates" = false :=
        endsWith_exclusive backports (by decide) (by decide)
      have security : endsWith suite "-security" = false :=
        endsWith_exclusive backports (by decide) (by decide)
      simp [suiteRank, suiteOrderHint, List.zipIdx, updates, security, backports, rank]

end SuiteKind

/-- The key that Python sorts by. -/
def suiteKey (suite : String) : Nat ×ₗ String := toLex (suiteRank suite, suite)

theorem suiteBefore_iff {first second : String} :
    suiteBefore first second ↔ suiteKey first ≤ suiteKey second := by
  rw [suiteBefore, suiteKey, suiteKey, Prod.Lex.toLex_le_toLex]

instance : Std.Total suiteBefore where
  total first second := by
    simp only [suiteBefore_iff]
    exact le_total (suiteKey first) (suiteKey second)

instance : IsTrans String suiteBefore where
  trans first second third := by
    simp only [suiteBefore_iff]
    exact le_trans

instance : Std.Antisymm suiteBefore where
  antisymm first second := by
    simp only [suiteBefore_iff]
    intro less more
    have same := le_antisymm less more
    simp only [suiteKey, toLex_inj, Prod.mk.injEq] at same
    exact same.2

theorem orderSuites_pairwise (suites : List String) :
    (orderSuites suites).Pairwise suiteBefore :=
  List.pairwise_insertionSort suiteBefore suites

theorem orderSuites_eq_of_perm {first second : List String} (same : first.Perm second) :
    orderSuites first = orderSuites second :=
  same.insertionSort_eq

/-- Each suite of the first sort stands before each of the second. -/
def Precede (first second : String → Prop) (suites : List String) : Prop :=
  ∀ (i j : Nat) (suite other : String), suites[i]? = some suite → suites[j]? = some other →
    first suite → second other → i < j

theorem precede_orderSuites {first second : SuiteKind} (less : first.rank < second.rank)
    (suites : List String) : Precede first.Has second.Has (orderSuites suites) := by
  intro i j suite other found found' has has'
  have ranks : suiteRank suite < suiteRank other := by
    rw [SuiteKind.rank_of_has has, SuiteKind.rank_of_has has']
    exact less
  by_contra late
  rcases Nat.lt_or_eq_of_le (Nat.not_lt.mp late) with earlier | rfl
  · obtain ⟨inside, rfl⟩ := List.getElem?_eq_some_iff.mp found
    obtain ⟨inside', rfl⟩ := List.getElem?_eq_some_iff.mp found'
    have before := List.pairwise_iff_getElem.mp (orderSuites_pairwise suites) j i inside' inside earlier
    rcases before with lower | ⟨same, -⟩
    · exact Nat.lt_asymm lower ranks
    · exact Nat.ne_of_gt ranks same
  · rw [found] at found'
    cases found'
    exact Nat.lt_irrefl _ ranks

/-! ## The tours -/

/-- One step of a job, or one look at a suite that is published. -/
inductive Visit where
  | preflight
  | create (suite component : String)
  | sync (suite component : String)
  | snapshot (suite component : String)
  | publish (suite : String)
  | verify
  | check
  | fetch (suite : String)
  deriving DecidableEq, Repr

/-- What a job of this type goes through in the end. -/
def MirrorSet.tour (mirrorSet : MirrorSet) : JobType → List Visit
  | .create => mirrorSet.pairs.map fun pair => .create pair.1 pair.2
  | .update =>
      [.preflight] ++ ((mirrorSet.pairs.map fun pair => .sync pair.1 pair.2) ++
        mirrorSet.pairs.map fun pair => .snapshot pair.1 pair.2)
  | .switch =>
      (orderSuites mirrorSet.suites).map .publish ++
        ([.verify] ++ if mirrorSet.publicUrl.getD "" = "" then []
          else [.check] ++ (orderSuites mirrorSet.suites).map .fetch)
  | _ => []

/-- Of two visits of one kind, the suite of the first is not after that of the second. -/
def Visit.InOrder : Visit → Visit → Prop
  | .create suite _, .create other _ => suiteBefore suite other
  | .sync suite _, .sync other _ => suiteBefore suite other
  | .snapshot suite _, .snapshot other _ => suiteBefore suite other
  | .publish suite, .publish other => suiteBefore suite other
  | .fetch suite, .fetch other => suiteBefore suite other
  | _, _ => True

theorem MirrorSet.pairs_pairwise (mirrorSet : MirrorSet) :
    mirrorSet.pairs.Pairwise fun first second => suiteBefore first.1 second.1 := by
  rw [pairs, List.pairwise_flatMap]
  refine ⟨fun suite listed => ?_, (orderSuites_pairwise mirrorSet.suites).imp ?_⟩
  · rw [List.pairwise_map]
    exact List.pairwise_of_forall fun _ _ => refl_of suiteBefore suite
  · intro suite other before first among second also
    obtain ⟨component, -, rfl⟩ := List.mem_map.mp among
    obtain ⟨component', -, rfl⟩ := List.mem_map.mp also
    exact before

theorem MirrorSet.tour_inOrder (mirrorSet : MirrorSet) (type : JobType) :
    (mirrorSet.tour type).Pairwise Visit.InOrder := by
  have suites := orderSuites_pairwise mirrorSet.suites
  have pairs := mirrorSet.pairs_pairwise
  cases type with
  | create => exact List.pairwise_map.mpr pairs
  | update =>
      refine List.pairwise_append.mpr ⟨List.pairwise_singleton _ _, ?_, ?_⟩
      · refine List.pairwise_append.mpr ⟨List.pairwise_map.mpr pairs, List.pairwise_map.mpr pairs, ?_⟩
        intro first among second also
        obtain ⟨pair, -, rfl⟩ := List.mem_map.mp among
        obtain ⟨pair', -, rfl⟩ := List.mem_map.mp also
        trivial
      · intro first among second _
        obtain rfl := List.mem_singleton.mp among
        trivial
  | switch =>
      have checked : (Visit.check :: (orderSuites mirrorSet.suites).map .fetch).Pairwise Visit.InOrder :=
        List.pairwise_cons.mpr ⟨fun _ _ => trivial, List.pairwise_map.mpr suites⟩
      refine List.pairwise_append.mpr ⟨List.pairwise_map.mpr suites, ?_, ?_⟩
      · refine List.pairwise_cons.mpr ⟨fun _ _ => trivial, ?_⟩
        split
        · exact List.Pairwise.nil
        · exact checked
      · intro first among second also
        obtain ⟨suite, -, rfl⟩ := List.mem_map.mp among
        rcases List.mem_cons.mp also with rfl | last
        · trivial
        · split at last
          · cases last
          · rcases List.mem_cons.mp last with rfl | fetched
            · trivial
            · obtain ⟨other, -, rfl⟩ := List.mem_map.mp fetched
              trivial
  | discard => exact List.Pairwise.nil
  | remove => exact List.Pairwise.nil
  | cleanup => exact List.Pairwise.nil

/-- Adds a step with this description. -/
def Op.AddsStep (description : String) (op : Op) : Prop :=
  ∃ row : Time → JobStep, op = .commit .job [.addStep row] ∧
    ∀ now, (row now).description = description

/-- The operation that makes the visit. -/
def Visit.Fits (mirrorSet : MirrorSet) : Visit → Op → Prop
  | .preflight, op => op.AddsStep "Preflight"
  | .create suite component, op => op.AddsStep s!"Create {mirrorSet.mirrorName suite component}"
  | .sync suite component, op => op.AddsStep s!"Sync {mirrorSet.mirrorName suite component}"
  | .snapshot suite component, op =>
      ∃ stamp : String, op.AddsStep s!"Snapshot {mirrorSet.mirrorName suite component}-{stamp}"
  | .publish suite, op => op.AddsStep s!"Publish {mirrorSet.publishPrefix}/{suite}"
  | .verify, op => op.AddsStep "Verify"
  | .check, op => op.AddsStep "Check as a client"
  | .fetch suite, op => ∃ publicUrl, op = .fetchRelease publicUrl suite

/-- The requests that change aptly and that the visit is made for. -/
def Visit.Sends (mirrorSet : MirrorSet) : Visit → Request → Prop
  | .create suite component, request =>
      request = .createMirror (specFor mirrorSet suite component)
  | .sync suite component, request =>
      request = .updateMirror (specFor mirrorSet suite component)
  | .snapshot suite component, request =>
      ∃ stamp description : String, request =
        .createSnapshotFromMirror (mirrorSet.mirrorName suite component)
          s!"{mirrorSet.mirrorName suite component}-{stamp}" description
  | .publish suite, request =>
      ∃ sources, request =
          .switchPublished mirrorSet.publishTarget suite sources ⟨mirrorSet.signingKey⟩ ∨
        request = .publishSnapshots mirrorSet.publishTarget suite sources mirrorSet.architectures
          ⟨mirrorSet.signingKey⟩
  | _, _ => False

/-- What the operation changes at aptly is the work of the visit that has been begun last. -/
def Visit.Allows (mirrorSet : MirrorSet) (here : Option Visit) (op : Op) : Prop :=
  ∀ request, op = .aptly request → request.writes = true →
    ∃ visit, here = some visit ∧ visit.Sends mirrorSet request

/-- The visits to the suites of the set. -/
def MirrorSet.route (mirrorSet : MirrorSet) : Itinerary Async Visit where
  counts := Op.visits
  fits := Visit.Fits mirrorSet
  allows := Visit.Allows mirrorSet

/-- From here on the program makes these visits. -/
abbrev MirrorSet.Goes (mirrorSet : MirrorSet) {α : Type} (program : Program α) (here : Option Visit)
    (visits : List Visit) : Prop :=
  program.Follows mirrorSet.route here visits

namespace Tour

variable {self : JobRunner} {jobId : Nat} {mirrorSet : MirrorSet} {here : Option Visit} {α : Type}

theorem allows_of_bookkeeping {op : Op} (bookkeeping : op.bookkeeping) :
    Visit.Allows mirrorSet here op := by
  rintro request rfl writes
  have reads : request.writes = false := bookkeeping
  rw [reads] at writes
  cases writes

theorem goes_waits {program : Program α} (waits : program.Uses Op.waits) :
    mirrorSet.Goes program here [] :=
  Follows.of_uses (waits.mono fun _ waits => ⟨waits.2, allows_of_bookkeeping waits.1⟩)

theorem goes_read {op : Op} (bookkeeping : op.bookkeeping) (quiet : op.visits = false) :
    mirrorSet.Goes (perform op) here [] :=
  goes_waits (uses_op ⟨bookkeeping, quiet⟩)

theorem goes_commit {writes : List Write} (quiet : (Op.commit .job writes).visits = false) :
    mirrorSet.Goes (commit .job writes) here [] :=
  Follows.of_uses (uses_op ⟨quiet, nofun⟩)

theorem goes_request {visit : Visit} {request : Request} (sends : visit.Sends mirrorSet request) :
    mirrorSet.Goes (perform (.aptly request)) (some visit) [] := by
  refine Follows.of_uses (uses_op ⟨rfl, ?_⟩)
  rintro other same -
  cases same
  exact ⟨visit, rfl, sends⟩

theorem addStep_goes {description : String} {visit : Visit}
    (fits : ∀ op : Op, op.AddsStep description → visit.Fits mirrorSet op) :
    mirrorSet.Goes (addStep jobId description) here [visit] := by
  refine Follows.skip (goes_read trivial rfl) fun position => ?_
  refine Follows.close (Coroutine.follows_perform rfl (fits _ ⟨_, rfl, fun _ => rfl⟩)) fun _ => ?_
  exact Coroutine.follows_done _

/-- A step and what is done in it. -/
theorem goes_step {description : String} {visit : Visit} {body : Nat → Program α}
    (fits : ∀ op : Op, op.AddsStep description → visit.Fits mirrorSet op)
    (inside : ∀ step, mirrorSet.Goes (body step) (some visit) []) :
    mirrorSet.Goes ((addStep jobId description).bind body) here [visit] :=
  Follows.close (addStep_goes fits) inside

theorem create_goes :
    mirrorSet.Goes (JobRunner.create jobId mirrorSet) here (mirrorSet.tour .create) := by
  refine Follows.skip (goes_read rfl rfl) fun mirrors => ?_
  rw [JobRunner.createAll_eq]
  refine Follows.forEach _ fun pair here => ?_
  refine goes_step (fun _ added => added) fun step => ?_
  split
  · exact goes_waits (finishStep_waits step .skipped _)
  · exact Follows.skip (goes_request rfl) fun _ => goes_waits (finishStep_waits step .succeeded _)

theorem preflight_goes : mirrorSet.Goes (self.preflight jobId mirrorSet) here [.preflight] := by
  refine goes_step (fun _ added => added) fun step => ?_
  refine Follows.skip (goes_read rfl rfl) fun mirrors => ?_
  dsimp only
  split
  · exact Follows.skip (goes_waits (finishStep_waits step .failed _)) fun _ => trivial
  · refine Follows.skip (goes_read rfl rfl) fun storage => ?_
    split
    · exact goes_waits (finishStep_waits step .succeeded _)
    · exact Follows.skip (goes_waits (finishStep_waits step .failed _)) fun _ => trivial

theorem sync_goes : mirrorSet.Goes (self.sync jobId mirrorSet) here
    (mirrorSet.pairs.map fun pair => .sync pair.1 pair.2) := by
  rw [JobRunner.sync_eq]
  refine Follows.forEach _ fun pair here => ?_
  refine goes_step (fun _ added => added) fun step => ?_
  exact Follows.skip (goes_request rfl) fun task => goes_waits (self.followTask_waits step task)

theorem takeSnapshots_goes (stamp : String) (snapshotSet : Nat) :
    mirrorSet.Goes (JobRunner.takeSnapshots jobId mirrorSet stamp snapshotSet) here
      (mirrorSet.pairs.map fun pair => .snapshot pair.1 pair.2) := by
  rw [JobRunner.takeSnapshots_eq]
  refine Follows.foldEach _ fun pair taken here => ?_
  refine goes_step (fun _ added => ⟨stamp, added⟩) fun step => ?_
  refine Follows.skip (goes_request ⟨stamp, _, rfl⟩) fun _ => ?_
  exact Follows.skip (goes_commit rfl) fun _ => Coroutine.follows_done _

theorem update_goes : mirrorSet.Goes (self.update jobId mirrorSet) here (mirrorSet.tour .update) := by
  refine Follows.bind preflight_goes fun _ => ?_
  refine Follows.skip (goes_read trivial rfl) fun moment => ?_
  refine Follows.skip (goes_commit rfl) fun inserted => ?_
  refine Follows.bind sync_goes fun _ => ?_
  refine Follows.close (takeSnapshots_goes _ _) fun taken => ?_
  exact Follows.skip (goes_commit rfl) fun _ => Coroutine.follows_done _

theorem publishEach_goes {target : SnapshotSet} {published : Dict (String × String) Published}
    (suite : String) :
    mirrorSet.Goes (self.publishEach jobId mirrorSet target published suite) here
      [.publish suite] := by
  unfold JobRunner.publishEach
  cases JobRunner.sourcesFor mirrorSet target suite with
  | error error => trivial
  | ok sources =>
      refine goes_step (fun _ added => added) fun step => ?_
      have following : ∀ task, mirrorSet.Goes (self.followTask step task) (some (.publish suite)) [] :=
        fun task => goes_waits (self.followTask_waits step task)
      dsimp only
      split
      · exact Follows.skip (goes_request ⟨sources, .inl rfl⟩) following
      · exact Follows.skip (goes_request ⟨sources, .inr rfl⟩) following

theorem verify_goes (target : SnapshotSet) :
    mirrorSet.Goes (JobRunner.verify jobId mirrorSet target) here [.verify] := by
  refine goes_step (fun _ added => added) fun step => ?_
  refine Follows.skip (goes_read rfl rfl) fun actual => ?_
  cases JobRunner.verifyProblems mirrorSet target (JobRunner.byPlace actual) with
  | error error => trivial
  | ok problems =>
      simp only [Coroutine.ofExcept, Coroutine.bind_eq, Coroutine.done_bind]
      split
      · exact Follows.skip (goes_waits (finishStep_waits step .failed _)) fun _ => trivial
      · exact goes_waits (finishStep_waits step .succeeded _)

theorem checkAsClient_goes (publicUrl : String) :
    mirrorSet.Goes (JobRunner.checkAsClient jobId mirrorSet publicUrl) here
      ([.check] ++ (orderSuites mirrorSet.suites).map .fetch) := by
  refine Follows.bind (addStep_goes fun _ added => added) fun step => ?_
  refine Follows.close (Follows.foldEach _ fun suite checks here => ?_) fun checks => ?_
  · refine Follows.close (Coroutine.follows_perform rfl ⟨publicUrl, rfl⟩) fun check => ?_
    exact Coroutine.follows_done _
  · dsimp only
    split
    · exact Follows.skip (goes_waits (finishStep_waits step .failed _)) fun _ => trivial
    · exact goes_waits (finishStep_waits step .succeeded _)

theorem publishSuites_goes (target : SnapshotSet) :
    mirrorSet.Goes (self.publishSuites jobId mirrorSet target) here (mirrorSet.tour .switch) := by
  refine Follows.skip (goes_read rfl rfl) fun published => ?_
  refine Follows.bind (Follows.forEach _ fun suite here => publishEach_goes suite) fun _ => ?_
  refine Follows.bind (verify_goes target) fun _ => ?_
  cases mirrorSet.publicUrl with
  | none => exact Coroutine.follows_done ()
  | some publicUrl =>
      dsimp only [Option.getD_some]
      split
      · exact Coroutine.follows_done ()
      · exact checkAsClient_goes publicUrl

theorem switch_goes (params : JobParams) :
    mirrorSet.Goes (self.switch jobId params mirrorSet) here (mirrorSet.tour .switch) := by
  unfold JobRunner.switch
  split
  · trivial
  · refine Follows.skip (goes_read trivial rfl) fun found => ?_
    split
    · trivial
    · split
      · trivial
      · split
        · trivial
        · exact publishSuites_goes _

theorem execute_goes {job : Job} (type : job.type ∈ [.create, .update, .switch]) :
    mirrorSet.Goes (self.execute jobId job (some mirrorSet)) here (mirrorSet.tour job.type) := by
  simp only [List.mem_cons, List.not_mem_nil, or_false] at type
  rcases type with type | type | type <;> simp only [JobRunner.execute, type]
  · exact create_goes
  · exact update_goes
  · exact switch_goes job.params

end Tour

/-- Suites are handled base first.  `order_suites` returns a permutation of its list that groups the
kinds of suites in their order, the same for every permutation and for its own result; and a
CREATE, UPDATE or SWITCH job goes through the suites of its set in this order, whatever becomes of
its operations and whatever else happens between them, and changes at aptly only what belongs to
the suite that it is at. -/
theorem suites_base_first :
    (∀ suites : List String, (orderSuites suites).Perm suites ∧
      (SuiteKind.all.Pairwise fun first second =>
        Precede first.Has second.Has (orderSuites suites)) ∧
      (∀ other, other.Perm suites → orderSuites other = orderSuites suites) ∧
      orderSuites (orderSuites suites) = orderSuites suites) ∧
    ∀ (self : JobRunner) (jobId : Nat) (job : Job) (mirrorSet : MirrorSet) (ops : List Op)
      (rest : Program Unit), job.type ∈ [.create, .update, .switch] →
      (self.execute jobId job (some mirrorSet)).Performs ops rest →
      ∃ made later, mirrorSet.tour job.type = made ++ later ∧ mirrorSet.route.Makes none ops made ∧
        made.Pairwise Visit.InOrder ∧ (rest = .done () → later = []) := by
  refine ⟨fun suites => ⟨orderSuites_perm suites, ?_, fun other => orderSuites_eq_of_perm,
    orderSuites_eq_of_perm (orderSuites_perm suites)⟩, ?_⟩
  · have ranks : SuiteKind.all.Pairwise fun first second => first.rank < second.rank := by decide
    exact ranks.imp fun less => precede_orderSuites less suites
  · intro self jobId job mirrorSet ops rest type performs
    obtain ⟨made, later, tour, makes, follows⟩ := (Tour.execute_goes type).performs performs
    have ordered := mirrorSet.tour_inOrder job.type
    rw [tour] at ordered
    refine ⟨made, later, tour, makes, (List.pairwise_append.mp ordered).1, ?_⟩
    rintro rfl
    exact follows

namespace Sample

/-- The set names its second suite first. -/
def secured : MirrorSet := { debian with suites := ["stable-security", "stable"] }

def creating : Job :=
  { type := .create, mirrorSetId := some 1, author := "ada", params := {} }

end Sample

/-- The first mirror of a new set is of its base suite. -/
theorem suites_base_first_secured : ∃ ops rest made later,
    (Sample.runner.execute 1 Sample.creating (some Sample.secured)).Performs ops rest ∧
      Sample.secured.tour .create = made ++ later ∧ made = [.create "stable" "main"] := by
  obtain ⟨step, rest, performs⟩ : ∃ step rest,
      (Sample.runner.execute 1 Sample.creating (some Sample.secured)).Performs
        [.aptly .listMirrors, .nextPosition, .commit .job [.addStep step]] rest :=
    ⟨_, _, @Performs.cons _ _ _ _ (.ok []) _ _
      (@Performs.cons _ _ _ _ (.ok (1 : Nat)) _ _
        (@Performs.cons _ _ _ _ (.error Exn.cancelled) _ _ .nil))⟩
  obtain ⟨made, later, tour, makes, -, -⟩ := suites_base_first.2 _ _ _ _ _ _ (by decide) performs
  have first : made = [.create "stable" "main"] := by
    rcases makes with _ | counted | ⟨-, -, makes⟩
    · cases counted
    · rcases makes with _ | counted | ⟨-, -, makes⟩
      · cases counted
      · rcases makes with _ | ⟨-, -, makes⟩ | quiet
        · cases makes
          cases tour
          rfl
        · cases quiet
  exact ⟨_, rest, made, later, performs, tour, first⟩

end AptlyGui
