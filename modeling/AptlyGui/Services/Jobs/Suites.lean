import AptlyGui.Services.Jobs.Moves
import AptlyGui.Services.Jobs.Records

/-!
# A switch moves suites in order and stops cleanly

For a target that an update has left, no suite can turn out to lack a snapshot
after earlier ones have been moved.
-/

namespace AptlyGui

theorem JobRunner.sourcesFor_of_recorded {mirrorSet : MirrorSet} {target : SnapshotSet}
    {suite : String} (recorded : ∀ component ∈ mirrorSet.components,
      mirrorSet.mirrorName suite component ∈ target.snapshots.keys) :
    ∃ sources, sourcesFor mirrorSet target suite = .ok sources := by
  cases found : sourcesFor mirrorSet target suite with
  | ok sources => exact ⟨sources, rfl⟩
  | error error =>
      obtain ⟨component, listed, sources, raised⟩ := List.error_of_foldlM found
      obtain ⟨name, known⟩ := Dict.mem_keys_iff.mp (recorded component listed)
      rw [known] at raised
      cases raised

/-- The call names the suite and the complete map of its components. -/
structure Carries (mirrorSet : MirrorSet) (target : SnapshotSet) (suite : String) (move : Move) :
    Prop where
  named : move.suite = suite
  placed : move.target = mirrorSet.publishTarget
  complete : ∀ component ∈ mirrorSet.components, ∃ name,
    target.snapshots.get? (mirrorSet.mirrorName suite component) = some name ∧
      move.sources.get? component = some name
  only : ∀ component ∈ move.sources.keys, component ∈ mirrorSet.components

theorem Moves.carries {mirrorSet : MirrorSet} {target : SnapshotSet} {existing : List Publication}
    {suite : String} {move : Move} (moves : Moves mirrorSet target existing suite move) :
    Carries mirrorSet target suite move := by
  refine ⟨moves.named, moves.placed, fun component listed => ?_, fun component present => ?_⟩
  · obtain ⟨name, known⟩ := JobRunner.sourcesFor_recorded moves.sources listed
    refine ⟨name, known, ?_⟩
    rw [JobRunner.sourcesFor_get? moves.sources, if_pos listed, known]
  · obtain ⟨name, known⟩ := Dict.mem_keys_iff.mp present
    rw [JobRunner.sourcesFor_get? moves.sources] at known
    by_contra foreign
    rw [if_neg foreign] at known
    cases known

/-- The ways in which a switch stops. -/
inductive Stops (mirrorSet : MirrorSet) (trace : Trace) : Prop where
  /-- before the first suite -/
  | untouched (steps : trace.steps = []) (moves : movesIn trace.sent = [])
  /-- at one suite: those before it are done, and those after it have not been asked for -/
  | suite {first later : List String} {suite : String}
      (order : orderSuites mirrorSet.suites = first ++ suite :: later)
      (steps : trace.steps = mirrorSet.moved first ++ [(mirrorSet.publishing suite, .failed)])
      (moves : (movesIn trace.sent).map Move.suite = first ++ [suite])
  /-- in the checks after the last suite -/
  | checks {rest : List (String × StepState)}
      (steps : trace.steps = mirrorSet.moved (orderSuites mirrorSet.suites) ++ rest)
      (ends : rest = [("Verify", .failed)] ∨
        rest = [("Verify", .succeeded), ("Check as a client", .failed)])
      (moves : (movesIn trace.sent).map Move.suite = orderSuites mirrorSet.suites)

/-- A SWITCH job asks for the suites in order, each with the whole map of one COMPLETE set of this
mirror set; without such a target it asks for nothing; and it stops at the suite that fails. -/
theorem switch_moves_suites_in_order {self : JobRunner} {world final : World} {events : List Event}
    {rest : Program Unit} {jobId : Nat} {job : Job} {mirrorSet : MirrorSet}
    (stored : world.db.jobs.get? jobId = some job) (type : job.type = .switch)
    (queued : job.state = .queued) (described : job.mirrorSetIn world.db = some mirrorSet)
    (untouched : world.Untouched jobId)
    (left : ∀ row ∈ world.db.snapshotSets.rows, row.mirrorSetId = mirrorSet.id →
      row.LeftBy mirrorSet)
    (alone : ∀ event ∈ events, event.cancels = false)
    (ran : (self.runJob jobId).run semantics events world = some (rest, final)) :
    (movesIn (final.sentBy jobId) = [] ∨
      ∃ target first later, job.Chooses mirrorSet world.db target ∧
        orderSuites mirrorSet.suites = first ++ later ∧
        List.Forall₂ (Carries mirrorSet target) first (movesIn (final.sentBy jobId))) ∧
    ((∀ target, ¬ job.Chooses mirrorSet world.db target) → final.sentBy jobId = []) ∧
    ∀ row, final.db.jobs.get? jobId = some row → row.state = .failed →
      Stops mirrorSet (final.traceOf jobId) := by
  have reports := switch_reports stored type queued described untouched alone ran
  have underway : Switch.Underway job mirrorSet world.db (final.sentBy jobId) := reports.during
  refine ⟨?_, fun nothing => ?_, fun row found failed => ?_⟩
  · rcases underway with none | ⟨target, chosen, none | ⟨_, _, first, later, -, order, moved⟩⟩
    · rw [none]
      exact .inl rfl
    · exact .inl none
    · exact .inr ⟨target, first, later, chosen, order, moved.imp fun _ _ => Moves.carries⟩
  · rcases underway with none | ⟨target, chosen, -⟩
    · exact none
    · exact absurd chosen (nothing target)
  · have fails : Switch.Fails job mirrorSet world.db (final.traceOf jobId) :=
      reports.failed row found failed
    cases fails with
    | untouched steps moves => exact .untouched steps moves
    | suite order steps moves => exact .suite order steps moves
    | checks steps ends moves => exact .checks steps ends moves
    | @unrecorded target first later suite error chosen order missing steps moves =>
        -- The target records everything, so no suite can lack a snapshot.
        have row : target ∈ world.db.snapshotSets.rows := by
          obtain ⟨targetId, -, known⟩ := Option.bind_eq_some_iff.mp chosen.asked
          exact (Table.get?_eq_some_iff.mp known).1
        have records := (left target row chosen.owned).records
        have listed : suite ∈ mirrorSet.suites := by
          rw [← mem_orderSuites, order]
          simp
        obtain ⟨sources, found⟩ := JobRunner.sourcesFor_of_recorded fun component among =>
          records.all chosen.complete _ (MirrorSet.mem_expectedMirrors.mpr
            ⟨suite, listed, component, among, rfl⟩)
        rw [found] at missing
        cases missing

/-- The target is what an update has just left; the first suite is published already. -/
theorem switch_moves_suites_in_order_wide : ∃ final : World,
    (movesIn (final.sentBy 2)).map (fun move => (move.put, move.suite)) =
      [(true, "stable"), (false, "stable-updates")] ∧
    (movesIn (final.sentBy 2) = [] ∨
      ∃ target first later, first ++ later = ["stable", "stable-updates"] ∧
        List.Forall₂ (Carries Sample.wide target) first (movesIn (final.sentBy 2))) := by
  have runs : ((Sample.runner.runJob 1).run semantics Sample.wideUpdated
      (Sample.waiting .update none Sample.wideService.world)).any (fun updated =>
        ((Sample.runner.runJob 2).run semantics Sample.wideSwitched
          (Sample.waiting .switch (some 1) updated.2)).any fun switched =>
        decide ((Sample.waiting .switch (some 1) updated.2).db.jobs.get? 2 =
          some (Sample.job 2 .switch (some 1))) &&
        decide (updated.2.db.mirrorSets.get? 1 = some Sample.wide) &&
        updated.2.db.steps.rows.all (fun row => decide (row.jobId ≠ 2)) &&
        updated.2.log.all (fun entry => decide (entry.job ≠ some 2)) &&
        decide ((movesIn (switched.2.sentBy 2)).map (fun move => (move.put, move.suite)) =
          [(true, "stable"), (false, "stable-updates")])) = true := by
    decide +kernel
  obtain ⟨⟨_, before⟩, first, runs⟩ := (Option.any_eq_true _ _).mp runs
  obtain ⟨⟨_, final⟩, second, runs⟩ := (Option.any_eq_true _ _).mp runs
  simp only [Bool.and_eq_true, List.all_eq_true, decide_eq_true_eq] at runs
  obtain ⟨⟨⟨⟨stored, described⟩, steps⟩, log⟩, moved⟩ := runs
  have left : ∀ row ∈ before.db.snapshotSets.rows, row.LeftBy Sample.wide :=
    fun row listed => @SnapshotSet.LeftBy.update _ _ _ _ _ _ 1 (Sample.job 1 .update none) _ (by rfl)
      rfl (by rfl) first rfl listed
  obtain ⟨order, -, -⟩ := switch_moves_suites_in_order stored rfl rfl described ⟨steps, log⟩
    (fun row listed _ => left row listed) (by decide) second
  refine ⟨final, moved, order.imp id ?_⟩
  rintro ⟨target, first, later, -, order, carries⟩
  exact ⟨target, first, later, order.symm.trans (by decide), carries⟩

end AptlyGui
