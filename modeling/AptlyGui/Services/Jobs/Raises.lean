import AptlyGui.Services.Jobs.Uses

/-!
# What a job raises

Nothing in the text of a job raises `CancelledError`: unless the worker is
cancelled, whatever ends a job early is caught by `except Exception`.
-/

namespace AptlyGui

open Coroutine (Raises)

/-- The program raises only what `except Exception` catches, if its operations do. -/
abbrev Ordinary {α : Type} (program : Program α) : Prop :=
  program.Raises fun error : Exn => error.isException = true

theorem ordinary_op (op : Op) : Ordinary (perform op) :=
  @Coroutine.raises_perform Async _ op

theorem ordinary_ofExcept {α : Type} {outcome : Except Exn α}
    (only : ∀ error, outcome = .error error → error.isException = true) :
    Ordinary (.ofExcept outcome) := by
  cases outcome with
  | ok value => trivial
  | error error => exact only error rfl

/-- A loop over the items of a list that stops at the first exception. -/
theorem isException_of_foldlM {α σ : Type} {items : List α} {state : σ}
    {body : σ → α → Except Exn σ} {error : Exn}
    (only : ∀ state item error, body state item = .error error → error.isException = true)
    (failed : items.foldlM body state = .error error) : error.isException = true := by
  induction items generalizing state with
  | nil => cases failed
  | cons item rest inductionHypothesis =>
      rw [List.foldlM_cons] at failed
      cases turn : body state item with
      | ok next =>
          rw [turn] at failed
          exact inductionHypothesis failed
      | error raised =>
          rw [turn] at failed
          cases failed
          exact only state item error turn

theorem ordinary_addStep (jobId : Nat) (description : String) :
    Ordinary (addStep jobId description) := by
  apply Raises.bind (ordinary_op _)
  intro position
  exact Raises.bind (ordinary_op _) fun _ => trivial

theorem ordinary_finishStep (step : Nat) (state : StepState) (output : String) :
    Ordinary (finishStep step state output) :=
  Raises.bind (ordinary_op _) fun _ => trivial

namespace JobRunner

variable (self : JobRunner) (jobId : Nat)

theorem ordinary_guardDisk (remainingBytes : Int) : Ordinary (self.guardDisk remainingBytes) := by
  refine Raises.bind (ordinary_op _) fun storage => ?_
  dsimp only
  split
  · trivial
  · rfl

theorem ordinary_pollTask (step : Nat) (taskId : Int) (polls : Nat) (reported : Bool) :
    Ordinary (self.pollTask step taskId polls reported) := by
  induction polls generalizing reported with
  | zero => trivial
  | succ polls inductionHypothesis =>
      refine Raises.bind (ordinary_op _) fun task => ?_
      split
      · refine Raises.bind (ordinary_op _) fun output => ?_
        split
        · rfl
        · split
          · exact Raises.bind (ordinary_op _) fun _ => trivial
          · trivial
      · refine Raises.bind (ordinary_op _) fun progress => ?_
        split
        · exact Raises.bind (ordinary_op _) fun _ => inductionHypothesis reported
        · refine Raises.bind (ordinary_op _) fun _ => ?_
          refine Raises.bind (self.ordinary_guardDisk _) fun _ => ?_
          exact Raises.bind (ordinary_op _) fun _ => inductionHypothesis true

theorem ordinary_followTask (step : Nat) (task : Task) :
    Ordinary (self.followTask step task) := by
  refine Raises.bind (ordinary_op _) fun _ => ?_
  refine Raises.bind (self.ordinary_pollTask step task.id self.polls false) fun output => ?_
  exact ordinary_finishStep step .succeeded output

theorem ordinary_failStep {α : Type} (step : Nat) {error : Exn}
    (caught : error.isException = true) : Ordinary (failStep step error : Program α) := by
  unfold failStep
  split
  · exact Raises.bind (ordinary_finishStep step .failed error.str) fun _ => caught
  · exact caught

theorem ordinary_create (mirrorSet : MirrorSet) : Ordinary (create jobId mirrorSet) := by
  refine Raises.bind (ordinary_op _) fun mirrors => ?_
  refine Raises.forEach fun suite => Raises.forEach fun component => ?_
  refine Raises.bind (ordinary_addStep jobId _) fun step => ?_
  split
  · exact ordinary_finishStep step .skipped _
  · exact Raises.bind (ordinary_op _) fun _ => ordinary_finishStep step .succeeded _

theorem ordinary_preflight (mirrorSet : MirrorSet) :
    Ordinary (self.preflight jobId mirrorSet) := by
  refine Raises.bind (ordinary_addStep jobId _) fun step => ?_
  refine Raises.bind (ordinary_op _) fun mirrors => ?_
  dsimp only
  split
  · exact Raises.bind (ordinary_finishStep step .failed _) fun _ => rfl
  · refine Raises.bind (ordinary_op _) fun storage => ?_
    split
    · exact ordinary_finishStep step .succeeded _
    · exact Raises.bind (ordinary_finishStep step .failed _) fun _ => rfl

theorem ordinary_update (mirrorSet : MirrorSet) : Ordinary (self.update jobId mirrorSet) := by
  refine Raises.bind (self.ordinary_preflight jobId mirrorSet) fun _ => ?_
  refine Raises.bind (ordinary_op _) fun moment => ?_
  refine Raises.bind (ordinary_op _) fun inserted => ?_
  refine Raises.bind ?_ fun _ => Raises.bind ?_ fun _ => Raises.bind (ordinary_op _) fun _ => trivial
  · refine Raises.forEach fun suite => Raises.forEach fun component => ?_
    refine Raises.bind (ordinary_addStep jobId _) fun step => ?_
    exact Raises.bind (ordinary_op _) fun task => self.ordinary_followTask step task
  · refine Raises.foldEach fun _ suite => Raises.foldEach fun _ component => ?_
    refine Raises.bind (ordinary_addStep jobId _) fun step => ?_
    refine Raises.bind (ordinary_op _) fun _ => ?_
    exact Raises.bind (ordinary_op _) fun _ => trivial

theorem ordinary_reclaimSpace : Ordinary (self.reclaimSpace jobId) := by
  refine Raises.bind (ordinary_addStep jobId _) fun step => ?_
  exact Raises.bind (ordinary_op _) fun task => self.ordinary_followTask step task

theorem ordinary_discard (params : JobParams) : Ordinary (self.discard jobId params) := by
  refine Raises.bind (Raises.forEach fun name => ?_) fun _ =>
    Raises.bind (self.ordinary_reclaimSpace jobId) fun _ => ?_
  · refine Raises.bind (ordinary_addStep jobId _) fun step => ?_
    refine Raises.bind (Raises.catching (ordinary_op _) fun error caught => ?_) fun _ => ?_
    · exact ordinary_failStep step caught
    · exact ordinary_finishStep step .succeeded _
  · split
    · trivial
    · refine Raises.bind (ordinary_op _) fun found => ?_
      split
      · trivial
      · exact Raises.bind (ordinary_op _) fun _ => trivial

theorem ordinary_remove (params : JobParams) (loaded : Option MirrorSet) :
    Ordinary (self.remove jobId params loaded) := by
  refine Raises.bind (Raises.forEach fun name => ?_) fun _ =>
    Raises.bind (self.ordinary_reclaimSpace jobId) fun _ => ?_
  · refine Raises.bind (ordinary_addStep jobId _) fun step => ?_
    refine Raises.bind (Raises.catching (ordinary_op _) fun error caught => ?_) fun task => ?_
    · exact ordinary_failStep step caught
    · exact self.ordinary_followTask step task
  · split
    · trivial
    · refine Raises.bind ?_ fun found => ?_
      · unfold getLoaded
        split
        · split
          · trivial
          · exact ordinary_op _
        · exact ordinary_op _
      · split
        · trivial
        · refine Raises.bind (ordinary_op _) fun owned => ?_
          exact Raises.bind (ordinary_op _) fun _ => trivial

theorem isException_of_sourcesFor {mirrorSet : MirrorSet} {target : SnapshotSet} {suite : String}
    {error : Exn} (failed : sourcesFor mirrorSet target suite = .error error) :
    error.isException = true := by
  refine isException_of_foldlM (fun sources component error failed => ?_) failed
  split at failed
  · cases failed
  · cases failed
    rfl

theorem isException_of_componentProblems {mirrorSet : MirrorSet} {target : SnapshotSet}
    {suite : String} {found : Published} {error : Exn}
    (failed : componentProblems mirrorSet target suite found = .error error) :
    error.isException = true := by
  refine isException_of_foldlM (fun problems component error failed => ?_) failed
  split at failed
  · cases failed
    rfl
  · split at failed
    · cases failed
    · cases failed

theorem isException_of_verifyProblems {mirrorSet : MirrorSet} {target : SnapshotSet}
    {actual : Dict (String × String) Published} {error : Exn}
    (failed : verifyProblems mirrorSet target actual = .error error) :
    error.isException = true := by
  refine isException_of_foldlM (fun problems suite error failed => ?_) failed
  split at failed
  · cases failed
  · rename_i found _
    cases checked : componentProblems mirrorSet target suite found with
    | ok others =>
        rw [checked] at failed
        cases failed
    | error raised =>
        rw [checked] at failed
        cases failed
        exact isException_of_componentProblems checked

theorem ordinary_publishSuites (mirrorSet : MirrorSet) (target : SnapshotSet) :
    Ordinary (self.publishSuites jobId mirrorSet target) := by
  refine Raises.bind (ordinary_op _) fun published => ?_
  refine Raises.bind (Raises.forEach fun suite => ?_) fun _ => Raises.bind ?_ fun _ => ?_
  · refine Raises.bind (ordinary_ofExcept fun _ => isException_of_sourcesFor) fun sources => ?_
    refine Raises.bind (ordinary_addStep jobId _) fun step => ?_
    dsimp only
    split
    · exact Raises.bind (ordinary_op _) fun task => self.ordinary_followTask step task
    · exact Raises.bind (ordinary_op _) fun task => self.ordinary_followTask step task
  · refine Raises.bind (ordinary_addStep jobId _) fun step => ?_
    refine Raises.bind (ordinary_op _) fun actual => ?_
    refine Raises.bind (ordinary_ofExcept fun _ => isException_of_verifyProblems) fun problems => ?_
    split
    · exact Raises.bind (ordinary_finishStep step .failed _) fun _ => rfl
    · exact ordinary_finishStep step .succeeded _
  · split
    · trivial
    · split
      · trivial
      · refine Raises.bind (ordinary_addStep jobId _) fun step => ?_
        refine Raises.bind (Raises.foldEach fun checks suite => ?_) fun checks => ?_
        · exact Raises.bind (ordinary_op _) fun check => trivial
        · dsimp only
          split
          · exact Raises.bind (ordinary_finishStep step .failed _) fun _ => rfl
          · exact ordinary_finishStep step .succeeded _

theorem ordinary_switch (params : JobParams) (mirrorSet : MirrorSet) :
    Ordinary (self.switch jobId params mirrorSet) := by
  unfold switch
  split
  · rfl
  · refine Raises.bind (ordinary_op _) fun found => ?_
    split
    · rfl
    · split
      · rfl
      · split
        · rfl
        · exact self.ordinary_publishSuites jobId mirrorSet _

/-- Unless it is cancelled, a job's work ends or raises what `except Exception` catches. -/
theorem ordinary_execute (job : Job) (loaded : Option MirrorSet) :
    Ordinary (self.execute jobId job loaded) := by
  unfold execute
  split
  · exact self.ordinary_discard jobId job.params
  · exact self.ordinary_remove jobId job.params _
  · rfl
  · exact ordinary_create jobId _
  · exact self.ordinary_update jobId _
  · exact self.ordinary_switch jobId job.params _
  · rfl

end JobRunner

end AptlyGui
