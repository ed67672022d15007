import AptlyGui.Rules
import AptlyGui.Services.Jobs.Sources

/-!
# Walking through a job

Every job is a series of steps: one is opened, worked on and ended before the
next.  What `WalkRules` asks is one rule for each of these moves; what follows is
the work of each kind of job, for any contract and any invariant with such rules.
-/

namespace AptlyGui

open Coroutine (Contract Safe)

/-- A change of a step that goes on: its own numbers, not what it is about. -/
structure NotesStep (change : Time → JobStep → JobStep) : Prop where
  jobId : ∀ now row, (change now row).jobId = row.jobId
  position : ∀ now row, (change now row).position = row.position
  description : ∀ now row, (change now row).description = row.description
  state : ∀ now row, (change now row).state = row.state
  outputTail : ∀ now row, (change now row).outputTail = row.outputTail
  startedAt : ∀ now row, (change now row).startedAt = row.startedAt
  finishedAt : ∀ now row, (change now row).finishedAt = row.finishedAt

/-- `during none` holds between two steps, `during (some step)` while the job is doing that one, and
`gave error` once it has given up. -/
structure WalkRules (contract : Contract semantics) (jobId : Nat)
    (during : Option Nat → World → Prop) (gave : Exn → World → Prop) : Prop where
  calm : ∀ {op : Op} {doing world}, op.calm = true → during doing world →
    Safe contract (fun _ => during doing)
      (fun error after => if error.isException = true then during doing after else gave error after)
      (perform op) world
  gives : ∀ {doing world error}, error.isException = true → during doing world → gave error world
  adds : ∀ {world} (description : String), during none world →
    Safe contract (fun step => during (some step)) gave (addStep jobId description) world
  notes : ∀ {step world change}, NotesStep change → during (some step) world →
    Safe contract (fun _ => during (some step)) gave (commit .job [.setStep step change]) world
  ends : ∀ {step world state} (output : String),
    state = .succeeded ∨ state = .failed ∨ state = .skipped → during (some step) world →
    Safe contract (fun _ => during none) gave (finishStep step state output) world

namespace WalkRules

variable {contract : Contract semantics} {jobId : Nat} {during : Option Nat → World → Prop}
  {gave : Exn → World → Prop} {doing : Option Nat} {step : Nat} {world : World}
  {self : JobRunner} {mirrorSet : MirrorSet} (rules : WalkRules contract jobId during gave)

include rules

theorem calls {op : Op} (calm : op.calm = true) (working : during doing world) :
    Safe contract (fun _ => during doing) gave (perform op) world := by
  refine (rules.calm calm working).mono (fun _ _ kept => kept) fun error after left => ?_
  by_cases caught : error.isException = true
  · rw [if_pos caught] at left
    exact rules.gives caught left
  · rw [if_neg caught] at left
    exact left

theorem guardDisk (remainingBytes : Int) (working : during (some step) world) :
    Safe contract (fun _ => during (some step)) gave (self.guardDisk remainingBytes) world := by
  refine Safe.bind (rules.calls rfl working) fun storage after working => ?_
  dsimp only
  split
  · exact working
  · exact rules.gives rfl working

theorem pollTask (taskId : Int) (polls : Nat) (reported : Bool) (working : during (some step) world) :
    Safe contract (fun _ => during (some step)) gave
      (self.pollTask step taskId polls reported) world := by
  apply safe_pollTask (during (some step)) (fun _ => during (some step)) fun _ => during (some step)
  case looks =>
    intro world working
    refine (rules.calls rfl working).mono (fun task after working => ?_) fun _ _ failed => failed
    split <;> exact working
  case reads => exact rules.calls rfl
  case fails =>
    intro task output world _ working
    exact rules.gives rfl working
  case succeeds => exact fun _ working => working
  case zeroes => exact fun _ working => rules.notes (by constructor <;> intros <;> rfl) working
  case asks => exact rules.calls rfl
  case rests => exact fun working => working
  case notes => exact fun working => rules.notes (by constructor <;> intros <;> rfl) working
  case guards => exact rules.guardDisk _
  case sleeps => exact rules.calls rfl
  case held => exact working

theorem followTask (task : Task) (working : during (some step) world) :
    Safe contract (fun _ => during none) gave (self.followTask step task) world := by
  refine Safe.bind (rules.notes (by constructor <;> intros <;> rfl) working) fun _ _ working => ?_
  refine Safe.bind (rules.pollTask task.id self.polls false working) fun output _ working => ?_
  exact rules.ends output (.inl rfl) working

/-- A call whose failure is noted on the step before the job gives up. -/
theorem noted {request : Request} (working : during (some step) world) :
    Safe contract (fun _ => during (some step)) gave
      ((perform (.aptly request)).catching (JobRunner.failStep step)) world := by
  refine Coroutine.safe_catching.mpr
    ((rules.calm rfl working).mono (fun _ _ kept => kept) fun error after left => ?_)
  by_cases caught : error.isException = true
  · rw [if_pos caught] at left
    refine safe_failStep (fun _ => ?_) fun _ => rules.gives caught left
    exact (rules.ends _ (.inr (.inl rfl)) left).mono (fun _ _ kept => rules.gives caught kept)
      fun _ _ failed => failed
  · rw [if_neg caught] at left
    refine safe_failStep (fun refused => ?_) fun _ => left
    cases error <;> simp [Exn.isException, Exn.isAptlyError] at caught refused

/-- A step that fails after its output is kept. -/
theorem fails {α : Type} {returned : α → World → Prop} {error : Exn} (output : String)
    (caught : error.isException = true) (working : during (some step) world) :
    Safe contract returned gave
      ((finishStep step .failed output).bind fun _ => Coroutine.raised error) world :=
  Safe.bind (rules.ends output (.inr (.inl rfl)) working) fun _ _ working =>
    rules.gives caught working

theorem create (working : during none world) :
    Safe contract (fun _ => during none) gave (JobRunner.create jobId mirrorSet) world := by
  refine Safe.bind (rules.calls rfl working) fun mirrors _ working => ?_
  refine Safe.forEach (fun _ => during none) working fun suite _ _ working => ?_
  refine Safe.forEach (fun _ => during none) working fun component _ _ working => ?_
  refine Safe.bind (rules.adds _ working) fun step _ working => ?_
  split
  · exact rules.ends _ (.inr (.inr rfl)) working
  · exact Safe.bind (rules.calls rfl working) fun _ _ working => rules.ends _ (.inl rfl) working

theorem preflight (working : during none world) :
    Safe contract (fun _ => during none) gave (self.preflight jobId mirrorSet) world := by
  refine Safe.bind (rules.adds _ working) fun step _ working => ?_
  refine Safe.bind (rules.calls rfl working) fun mirrors _ working => ?_
  dsimp only
  split
  · exact rules.fails _ rfl working
  · refine Safe.bind (rules.calls rfl working) fun storage _ working => ?_
    split
    · exact rules.ends _ (.inl rfl) working
    · exact rules.fails _ rfl working

theorem sync (working : during none world) :
    Safe contract (fun _ => during none) gave (self.sync jobId mirrorSet) world := by
  refine Safe.forEach (fun _ => during none) working fun suite _ _ working => ?_
  refine Safe.forEach (fun _ => during none) working fun component _ _ working => ?_
  refine Safe.bind (rules.adds _ working) fun step _ working => ?_
  exact Safe.bind (rules.calls rfl working) fun task _ working => rules.followTask task working

theorem reclaimSpace (working : during none world) :
    Safe contract (fun _ => during none) gave (self.reclaimSpace jobId) world := by
  refine Safe.bind (rules.adds _ working) fun step _ working => ?_
  exact Safe.bind (rules.calls rfl working) fun task _ working => rules.followTask task working

/-- A DISCARD job up to the commit that forgets the set. -/
theorem discardSnapshots (names : List String) (working : during none world) :
    Safe contract (fun _ => during none) gave
      (Coroutine.forEach names (JobRunner.deleteSnapshotEach jobId)) world := by
  refine Safe.forEach (fun _ => during none) working fun name _ _ working => ?_
  refine Safe.bind (rules.adds _ working) fun step _ working => ?_
  refine Safe.bind (rules.noted working) fun _ _ working => ?_
  exact rules.ends _ (.inl rfl) working

/-- A REMOVE job up to the commit that forgets the set. -/
theorem removeMirrors (names : List String) (working : during none world) :
    Safe contract (fun _ => during none) gave
      (Coroutine.forEach names (self.deleteMirrorEach jobId)) world := by
  refine Safe.forEach (fun _ => during none) working fun name _ _ working => ?_
  refine Safe.bind (rules.adds _ working) fun step _ working => ?_
  exact Safe.bind (rules.noted working) fun task _ working => rules.followTask task working

theorem getLoaded (loaded : Option MirrorSet) (id : Nat) (working : during none world) :
    Safe contract (fun _ => during none) gave (JobRunner.getLoaded loaded id) world := by
  unfold JobRunner.getLoaded
  split
  · split
    · exact working
    · exact rules.calls rfl working
  · exact rules.calls rfl working

theorem publishEach {target : SnapshotSet} {published : Dict (String × String) Published}
    {suite : String} (working : during none world) :
    Safe contract (fun _ => during none) gave
      (self.publishEach jobId mirrorSet target published suite) world := by
  unfold JobRunner.publishEach
  cases sources : JobRunner.sourcesFor mirrorSet target suite with
  | error error => exact rules.gives (JobRunner.sourcesFor_error sources) working
  | ok sources =>
      change Safe _ _ _ (Coroutine.bind (addStep jobId _) _) _
      refine Safe.bind (rules.adds _ working) fun step _ working => ?_
      dsimp only
      split
      · exact Safe.bind (rules.calls rfl working)
          fun task _ working => rules.followTask task working
      · exact Safe.bind (rules.calls rfl working)
          fun task _ working => rules.followTask task working

theorem verify {target : SnapshotSet} (working : during none world) :
    Safe contract (fun _ => during none) gave (JobRunner.verify jobId mirrorSet target) world := by
  refine Safe.bind (rules.adds _ working) fun step _ working => ?_
  refine Safe.bind (rules.calls rfl working) fun actual _ working => ?_
  cases checked : JobRunner.verifyProblems mirrorSet target (JobRunner.byPlace actual) with
  | error error => exact rules.gives (JobRunner.verifyProblems_error checked) working
  | ok problems =>
      change Safe _ _ _ (if problems ≠ [] then _ else _) _
      split
      · exact rules.fails _ rfl working
      · exact rules.ends _ (.inl rfl) working

theorem checkAsClient {publicUrl : String} (working : during none world) :
    Safe contract (fun _ => during none) gave
      (JobRunner.checkAsClient jobId mirrorSet publicUrl) world := by
  refine Safe.bind (rules.adds _ working) fun step _ working => ?_
  refine Safe.bind (Safe.foldEach (fun _ _ => during (some step)) working
    fun suite _ _ _ working => Safe.bind (rules.calls rfl working) fun _ _ working => working)
    fun checks _ working => ?_
  dsimp only
  split
  · exact rules.fails _ rfl working
  · exact rules.ends _ (.inl rfl) working

theorem switch {params : JobParams} (working : during none world) :
    Safe contract (fun _ => during none) gave (self.switch jobId params mirrorSet) world := by
  unfold JobRunner.switch
  split
  · exact rules.gives rfl working
  · refine Safe.bind (rules.calls rfl working) fun found _ working => ?_
    split
    · exact rules.gives rfl working
    · split
      · exact rules.gives rfl working
      · split
        · exact rules.gives rfl working
        · refine Safe.bind (rules.calls rfl working) fun published _ working => ?_
          refine Safe.bind (Safe.forEach (fun _ => during none) working
            fun suite _ _ working => rules.publishEach working) fun _ _ working => ?_
          refine Safe.bind (rules.verify working) fun _ _ working => ?_
          split
          · exact working
          · split
            · exact working
            · exact rules.checkAsClient working

end WalkRules

end AptlyGui
