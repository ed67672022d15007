import AptlyGui.Services.Jobs.Moves

/-!
# When a publication is no mix

Verify compares every component of the set with the publication, and never the
publication's own sources with the set.  So a switch that has succeeded has
published the target alone exactly when the publication had nothing else in it.
-/

namespace AptlyGui

/-- The entry that Verify looks at: of several with this bare prefix, the last one. -/
def lastListed (listing : List Publication) (barePrefix distribution : String) : Option Publication :=
  listing.reverse.find? fun publication =>
    publication.barePrefix = barePrefix ∧ publication.distribution = distribution

theorem JobRunner.get?_byPlace (listing : List Publication) (barePrefix distribution : String) :
    (byPlace (listing.map Published.parse)).get? (barePrefix, distribution) =
      (lastListed listing barePrefix distribution).map Published.parse := by
  rw [byPlace, Dict.get?_ofList, lastListed, List.map_map, ← List.map_reverse]
  induction listing.reverse with
  | nil => rfl
  | cons publication rest inductionHypothesis =>
      rw [List.map_cons, Dict.getEntries, List.find?_cons]
      by_cases here : publication.barePrefix = barePrefix ∧ publication.distribution = distribution
      · simp [here, Published.parse]
      · rw [if_neg (by simpa [Published.parse] using here), inductionHypothesis]
        simp [here]

/-- The sources of the publication are the target's snapshots of this suite, one for each
component of the set, and nothing else. -/
def Publication.Pure (mirrorSet : MirrorSet) (target : SnapshotSet) (suite : String)
    (publication : Publication) : Prop :=
  ∀ component name, ⟨component, name⟩ ∈ publication.sources ↔
    component ∈ mirrorSet.components ∧
      target.snapshots.get? (mirrorSet.mirrorName suite component) = some name

/-- Every source is for a component of the set, and no component is listed with two snapshots. -/
structure Publication.Within (mirrorSet : MirrorSet) (publication : Publication) : Prop where
  known : ∀ source ∈ publication.sources, source.component ∈ mirrorSet.components
  single : ∀ first ∈ publication.sources, ∀ second ∈ publication.sources,
    first.component = second.component → first.name = second.name

section Pure

variable {mirrorSet : MirrorSet} {target : SnapshotSet} {suite : String} {publication : Publication}

theorem Publication.Pure.within (pure : publication.Pure mirrorSet target suite) :
    publication.Within mirrorSet := by
  refine ⟨fun source listed => ((pure _ _).mp listed).1, fun first one second two same => ?_⟩
  have left := ((pure _ _).mp one).2
  have right := ((pure _ _).mp two).2
  rw [same, right] at left
  exact (Option.some.inj left).symm

theorem Publication.Within.pure (within : publication.Within mirrorSet)
    (points : ∀ component ∈ mirrorSet.components, ∃ name,
      target.snapshots.get? (mirrorSet.mirrorName suite component) = some name ∧
        (Published.parse publication).snapshotFor component = some name) :
    publication.Pure mirrorSet target suite := by
  have listed : ∀ component ∈ mirrorSet.components, ∃ name,
      target.snapshots.get? (mirrorSet.mirrorName suite component) = some name ∧
        ⟨component, name⟩ ∈ publication.sources := by
    intro component among
    obtain ⟨name, recorded, points⟩ := points component among
    obtain ⟨source, found, rfl⟩ := Option.map_eq_some_iff.mp points
    have here : source.component = component := by simpa using List.find?_some found
    subst here
    exact ⟨source.name, recorded, List.mem_of_find?_eq_some found⟩
  intro component name
  constructor
  · intro present
    have among := within.known _ present
    obtain ⟨other, recorded, there⟩ := listed component among
    refine ⟨among, ?_⟩
    exact recorded.trans (congrArg some (within.single _ there _ present rfl))
  · rintro ⟨among, recorded⟩
    obtain ⟨other, known, there⟩ := listed component among
    cases known.symm.trans recorded
    exact there

end Pure

/-- After a switch that has SUCCEEDED, the publications Verify has read are the target alone
exactly when they list nothing but components of the set, each with one snapshot. -/
theorem switch_publishes_no_mix_iff {self : JobRunner} {world final : World} {events : List Event}
    {rest : Program Unit} {jobId : Nat} {job ended : Job} {mirrorSet : MirrorSet}
    (stored : world.db.jobs.get? jobId = some job) (type : job.type = .switch)
    (queued : job.state = .queued) (described : job.mirrorSetIn world.db = some mirrorSet)
    (untouched : world.Untouched jobId) (alone : ∀ event ∈ events, event.cancels = false)
    (ran : (self.runJob jobId).run semantics events world = some (rest, final))
    (found : final.db.jobs.get? jobId = some ended) (succeeded : ended.state = .succeeded) :
    ∃ target existing listing, job.Chooses mirrorSet world.db target ∧
      listingsIn (final.sentBy jobId) = [existing, listing] ∧
      ((∀ suite ∈ mirrorSet.suites, ∃ publication,
          lastListed listing mirrorSet.publishPrefix suite = some publication ∧
            publication.Pure mirrorSet target suite) ↔
        ∀ suite ∈ mirrorSet.suites, ∀ publication,
          lastListed listing mirrorSet.publishPrefix suite = some publication →
            publication.Within mirrorSet) := by
  have reports := switch_reports stored type queued described untouched alone ran
  obtain ⟨target, existing, listing, succeeds⟩ := reports.succeeded ended found succeeded
  refine ⟨target, existing, listing, succeeds.chosen, succeeds.listings, fun pure suite listed => ?_,
    fun within suite listed => ?_⟩
  · obtain ⟨publication, last, pure⟩ := pure suite listed
    intro other same
    cases last.symm.trans same
    exact pure.within
  · obtain ⟨published, place, points⟩ := JobRunner.found_of_verifyProblems succeeds.verified suite listed
    rw [JobRunner.get?_byPlace] at place
    obtain ⟨publication, last, rfl⟩ := Option.map_eq_some_iff.mp place
    exact ⟨publication, last, (within suite listed publication last).pure points⟩

namespace Sample

/-- The publication has a component that the mirror set does not know, from before. -/
def mixed (snapshot : String) : List Publication :=
  [⟨"", "debian", "stable", [⟨"main", snapshot⟩, ⟨"contrib", "old-contrib"⟩]⟩]

end Sample

theorem not_switch_publishes_no_mix : ¬ ∀ (self : JobRunner) (world final : World)
    (events : List Event) (rest : Program Unit) (jobId : Nat) (job ended : Job)
    (mirrorSet : MirrorSet) (target : SnapshotSet) (existing listing : List Publication),
    world.db.jobs.get? jobId = some job → job.type = .switch → job.state = .queued →
    job.mirrorSetIn world.db = some mirrorSet → world.Untouched jobId →
    (∀ event ∈ events, event.cancels = false) →
    (self.runJob jobId).run semantics events world = some (rest, final) →
    final.db.jobs.get? jobId = some ended → ended.state = .succeeded →
    job.Chooses mirrorSet world.db target →
    listingsIn (final.sentBy jobId) = [existing, listing] →
    ∀ suite ∈ mirrorSet.suites, ∃ publication,
      lastListed listing mirrorSet.publishPrefix suite = some publication ∧
        publication.Pure mirrorSet target suite := by
  intro claimed
  have runs : ((Sample.runner.runJob 1).run semantics
      (Sample.switched (Sample.mixed "old-main") (Sample.mixed "new-main"))
      (Sample.waiting .switch (some 1) Sample.holding)).any (fun result =>
        (result.2.db.jobs.get? 1).any (fun ended => decide (ended.state = .succeeded)) &&
        decide (listingsIn (result.2.sentBy 1) = [Sample.mixed "old-main", Sample.mixed "new-main"])) =
      true := by
    decide +kernel
  obtain ⟨⟨_, final⟩, ran, runs⟩ := (Option.any_eq_true _ _).mp runs
  simp only [Bool.and_eq_true, Option.any_eq_true, decide_eq_true_eq] at runs
  obtain ⟨⟨ended, found, succeeded⟩, listings⟩ := runs
  have untouched : (Sample.waiting .switch (some 1) Sample.holding).Untouched 1 := by
    constructor <;> decide
  obtain ⟨publication, last, pure⟩ := claimed _ _ _ _ _ 1 (Sample.job 1 .switch (some 1)) ended
    Sample.stored Sample.target _ _ rfl rfl rfl rfl untouched (by decide) ran found succeeded
    ⟨rfl, rfl, rfl⟩ listings "stable" (by decide)
  cases last
  have contrib := ((pure "contrib" "old-contrib").mp (by decide)).1
  exact absurd contrib (by decide)

/-- Before the switch nothing was published. -/
theorem switch_publishes_no_mix_iff_debian : ∃ final : World, ∃ target listing,
    lastListed listing "debian" "stable" = some ⟨"", "debian", "stable", [⟨"main", "new-main"⟩]⟩ ∧
      listingsIn (final.sentBy 1) = [[], listing] ∧
      ∀ suite ∈ Sample.stored.suites, ∃ publication,
        lastListed listing "debian" suite = some publication ∧
          publication.Pure Sample.stored target suite := by
  have runs : ((Sample.runner.runJob 1).run semantics
      (Sample.switched [] [⟨"", "debian", "stable", [⟨"main", "new-main"⟩]⟩])
      (Sample.waiting .switch (some 1) Sample.holding)).any (fun result =>
        (result.2.db.jobs.get? 1).any (fun ended => decide (ended.state = .succeeded)) &&
        decide (listingsIn (result.2.sentBy 1) =
          [[], [⟨"", "debian", "stable", [⟨"main", "new-main"⟩]⟩]])) = true := by
    decide +kernel
  obtain ⟨⟨_, final⟩, ran, runs⟩ := (Option.any_eq_true _ _).mp runs
  simp only [Bool.and_eq_true, Option.any_eq_true, decide_eq_true_eq] at runs
  obtain ⟨⟨ended, found, succeeded⟩, listings⟩ := runs
  have untouched : (Sample.waiting .switch (some 1) Sample.holding).Untouched 1 := by
    constructor <;> decide
  have stored : (Sample.waiting .switch (some 1) Sample.holding).db.jobs.get? 1 =
      some (Sample.job 1 .switch (some 1)) := rfl
  have described : (Sample.job 1 .switch (some 1)).mirrorSetIn
      (Sample.waiting .switch (some 1) Sample.holding).db = some Sample.stored := rfl
  obtain ⟨target, existing, listing, -, same, iff⟩ := switch_publishes_no_mix_iff stored rfl rfl
    described untouched (by decide) ran found succeeded
  rw [listings] at same
  cases same
  refine ⟨final, target, _, rfl, listings, iff.mpr fun suite listed publication last => ?_⟩
  obtain rfl : suite = "stable" := List.mem_singleton.mp listed
  cases last
  constructor <;> decide

end AptlyGui
