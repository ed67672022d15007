import AptlyGui.Services.Jobs.Mix
import AptlyGui.Services.Jobs.Places
import AptlyGui.Services.Jobs.Serving
import AptlyGui.Services.Jobs.Suites

/-!
# Forward and back

A switch that nobody disturbs points every suite of its mirror set at the chosen
snapshot set, whatever was published there before, and touches nothing else.  So
going back is the same operation as going forward: after any row of switches the
publications show what the last one chose, as if it had been the only one.
-/

namespace AptlyGui

open Coroutine (Completes)

/-- The suites point at the target, and everything else is as it was. -/
def View.pointedAt (view : View) (mirrorSet : MirrorSet) (target : SnapshotSet)
    (suites : List String) : View :=
  fun place distribution component =>
    if place = mirrorSet.place ∧ distribution ∈ suites ∧ component ∈ mirrorSet.components then
      target.snapshots.get? (mirrorSet.mirrorName distribution component)
    else view place distribution component

/-- What aptly has published does not stand in the way: no other storage has a publication that
the set would take for its own, and its own ones have the components of the set. -/
structure MirrorSet.Fits (mirrorSet : MirrorSet) (aptly : Aptly) : Prop where
  distinct : aptly.Distinct
  alone : ∀ publication ∈ aptly.published, ∀ suite ∈ mirrorSet.suites,
    mirrorSet.Shown suite publication → publication.storage = mirrorSet.place.storage
  ready : ∀ publication ∈ aptly.published, ∀ suite ∈ mirrorSet.suites,
    mirrorSet.Addresses suite publication → ∀ component ∈ mirrorSet.components,
      ∃ source ∈ publication.sources, source.component = component

/-- Clients see the target in these suites, and whatever else is named has been named before. -/
structure Aptly.ShownAs (origin : Aptly) (mirrorSet : MirrorSet) (target : SnapshotSet)
    (suites : List String) (aptly : Aptly) : Prop where
  view : aptly.view = origin.view.pointedAt mirrorSet target suites
  named : ∀ place distribution component name, aptly.Names place distribution component name →
    (place = mirrorSet.place ∧ distribution ∈ suites ∧ component ∈ mirrorSet.components ∧
        target.snapshots.get? (mirrorSet.mirrorName distribution component) = some name) ∨
      ¬ (place = mirrorSet.place ∧ distribution ∈ suites ∧ component ∈ mirrorSet.components) ∧
        origin.Names place distribution component name

/-- Each mirror of the set has its snapshot recorded, and aptly has it. -/
def SnapshotSet.HeldBy (target : SnapshotSet) (mirrorSet : MirrorSet) (aptly : Aptly) : Prop :=
  ∀ suite ∈ mirrorSet.suites, ∀ component ∈ mirrorSet.components, ∃ name ∈ aptly.snapshots,
    target.snapshots.get? (mirrorSet.mirrorName suite component) = some name

namespace Rollback

open Undisturbed Serving

variable {mirrorSet : MirrorSet} {target : SnapshotSet} {aptly after : Aptly} {view : View}
  {suite : String} {suites done rest : List String} {sources : Dict String String}

/-! ## Views -/

theorem pointedAt_pointedAt (view : View) (first second : SnapshotSet) :
    (view.pointedAt mirrorSet first suites).pointedAt mirrorSet second suites =
      view.pointedAt mirrorSet second suites := by
  funext place distribution component
  simp only [View.pointedAt]
  split <;> rfl

theorem pointedAt_congr (same : ∀ suite, suite ∈ done ↔ suite ∈ suites) :
    view.pointedAt mirrorSet target done = view.pointedAt mirrorSet target suites := by
  funext place distribution component
  simp only [View.pointedAt, same]

@[simp]
theorem pointedAt_nil : view.pointedAt mirrorSet target [] = view := by
  funext place distribution component
  simp [View.pointedAt]

/-- The sources of a suite point it at the target. -/
theorem point_pointedAt (found : JobRunner.sourcesFor mirrorSet target suite = .ok sources) :
    (view.pointedAt mirrorSet target done).point mirrorSet.place suite sources =
      view.pointedAt mirrorSet target (done ++ [suite]) := by
  funext place distribution component
  have asked := JobRunner.sourcesFor_get? found component
  simp only [View.point, View.pointedAt, List.mem_append, List.mem_singleton]
  by_cases among : component ∈ mirrorSet.components
  · by_cases here : place = mirrorSet.place ∧ distribution = suite
    · obtain ⟨name, recorded⟩ := JobRunner.sourcesFor_recorded found among
      obtain ⟨rfl, rfl⟩ := here
      simp [among, asked, recorded]
    · simp only [if_neg here, among, and_true]
      congr 1
      simp only [eq_iff_iff]
      constructor
      · exact And.imp_right .inl
      · rintro ⟨same, listed | named⟩
        · exact ⟨same, listed⟩
        · exact absurd ⟨same, named⟩ here
  · rw [if_neg among] at asked
    simp [among, asked]

/-! ## Publications -/

theorem Fits.perm (fits : mirrorSet.Fits aptly) (same : after.published.Perm aptly.published) :
    mirrorSet.Fits after where
  distinct := fits.distinct.perm same
  alone publication listed := fits.alone publication (same.mem_iff.mp listed)
  ready publication listed := fits.ready publication (same.mem_iff.mp listed)

theorem addresses_iff_publicationAt (distinct : aptly.Distinct) {publication : Publication} :
    aptly.publicationAt mirrorSet.place suite = some publication ↔
      publication ∈ aptly.published ∧ mirrorSet.Addresses suite publication :=
  Aptly.publicationAt_eq_some_iff distinct

theorem keys_of_sourcesFor (found : JobRunner.sourcesFor mirrorSet target suite = .ok sources)
    {component : String} : component ∈ sources.keys ↔ component ∈ mirrorSet.components := by
  rw [Dict.mem_keys_iff, JobRunner.sourcesFor_get? found]
  constructor
  · rintro ⟨name, recorded⟩
    split at recorded
    · assumption
    · cases recorded
  · intro among
    obtain ⟨name, recorded⟩ := JobRunner.sourcesFor_recorded found among
    exact ⟨name, by rw [if_pos among, recorded]⟩

theorem Fits.suits (fits : mirrorSet.Fits aptly) (listed : suite ∈ mirrorSet.suites)
    (found : JobRunner.sourcesFor mirrorSet target suite = .ok sources) :
    (Pointing.mk mirrorSet.place suite sources).Suits aptly := by
  intro publication there component key
  obtain ⟨present, addresses⟩ := (addresses_iff_publicationAt fits.distinct).mp there
  exact fits.ready publication present suite listed addresses component
    ((keys_of_sourcesFor found).mp key)

/-- The publication afterwards has the components of the set. -/
theorem ready_result (fits : mirrorSet.Fits aptly) (listed : suite ∈ mirrorSet.suites)
    (found : JobRunner.sourcesFor mirrorSet target suite = .ok sources) {component : String}
    (among : component ∈ mirrorSet.components) :
    ∃ source ∈ ((Pointing.mk mirrorSet.place suite sources).result
      (aptly.publicationAt mirrorSet.place suite)).sources, source.component = component := by
  cases there : aptly.publicationAt mirrorSet.place suite with
  | none =>
      obtain ⟨name, recorded⟩ := Dict.mem_keys_iff.mp ((keys_of_sourcesFor found).mpr among)
      refine ⟨⟨component, name⟩, ?_, rfl⟩
      exact List.mem_map.mpr ⟨(component, name), Dict.get?_eq_some_iff.mp recorded, rfl⟩
  | some publication =>
      obtain ⟨present, addresses⟩ := (addresses_iff_publicationAt fits.distinct).mp there
      obtain ⟨source, known, rfl⟩ :=
        fits.ready publication present suite listed addresses component among
      exact ⟨_, List.mem_map.mpr ⟨source, known, rfl⟩, rfl⟩

theorem Fits.pointed (fits : mirrorSet.Fits aptly) (listed : suite ∈ mirrorSet.suites)
    (found : JobRunner.sourcesFor mirrorSet target suite = .ok sources)
    (effective : after.Same (aptly.pointed (some ⟨mirrorSet.place, suite, sources⟩))) :
    mirrorSet.Fits after := by
  have distinct := Pointing.distinct_after effective.published fits.distinct
  refine ⟨distinct, fun publication present other among shown => ?_,
    fun publication present other among addresses component wanted => ?_⟩
  · rcases Pointing.mem_publishedAfter.mp (effective.published.mem_iff.mp present) with
      rfl | ⟨old, -⟩
    · exact congrArg Place.storage (Pointing.place_result aptly).1
    · exact fits.alone publication old other among shown
  · rcases Pointing.mem_publishedAfter.mp (effective.published.mem_iff.mp present) with
      rfl | ⟨old, -⟩
    · exact ready_result fits listed found wanted
    · exact fits.ready publication old other among addresses component wanted

/-! ## What is shown -/

variable {first : Aptly}

theorem ShownAs.perm (shown : first.ShownAs mirrorSet target done aptly)
    (distinct : aptly.Distinct) (same : after.published.Perm aptly.published) :
    first.ShownAs mirrorSet target done after where
  view := (Aptly.view_perm distinct same).trans shown.view
  named place distribution component name named :=
    shown.named place distribution component name ((Aptly.names_perm same).mp named)

theorem ShownAs.nothing (distinct : aptly.Distinct)
    (same : after.published.Perm aptly.published) :
    aptly.ShownAs mirrorSet target [] after where
  view := by
    rw [pointedAt_nil]
    exact Aptly.view_perm distinct same
  named place distribution component name named :=
    .inr ⟨by simp, (Aptly.names_perm same).mp named⟩

theorem ShownAs.congr (shown : first.ShownAs mirrorSet target done aptly)
    (same : ∀ suite, suite ∈ done ↔ suite ∈ suites) :
    first.ShownAs mirrorSet target suites aptly where
  view := shown.view.trans (pointedAt_congr same)
  named place distribution component name named := by
    rw [← same]
    exact shown.named place distribution component name named

/-- What one more suite names is what it has been pointed at. -/
theorem ShownAs.names_pointed
    (found : JobRunner.sourcesFor mirrorSet target suite = .ok sources)
    (shown : first.ShownAs mirrorSet target done aptly ∨
      first.ShownAs mirrorSet target (done ++ [suite]) aptly)
    (effective : after.Same (aptly.pointed (some ⟨mirrorSet.place, suite, sources⟩)))
    {place : Place} {distribution component name : String}
    (named : after.Names place distribution component name) :
    (place = mirrorSet.place ∧ distribution ∈ done ++ [suite] ∧ component ∈ mirrorSet.components ∧
        target.snapshots.get? (mirrorSet.mirrorName distribution component) = some name) ∨
      ¬ (place = mirrorSet.place ∧ distribution ∈ done ++ [suite] ∧
          component ∈ mirrorSet.components) ∧
        first.Names place distribution component name := by
  rcases Pointing.names_of_after effective.published named with
    ⟨here, rfl, asked⟩ | ⟨elsewhere, before⟩
  · have among := (keys_of_sourcesFor found).mp (Dict.mem_keys_iff.mpr ⟨name, asked⟩)
    change sources.get? component = some name at asked
    rw [JobRunner.sourcesFor_get? found, if_pos among] at asked
    exact .inl ⟨here, by simp, among, asked⟩
  · rcases shown with shown | shown
    · rcases shown.named place distribution component name before with
        ⟨here, earlier, known⟩ | ⟨other, old⟩
      · exact .inl ⟨here, List.mem_append_left _ earlier, known⟩
      · refine .inr ⟨?_, old⟩
        rintro ⟨here, present, among⟩
        rcases List.mem_append.mp present with earlier | last
        · exact other ⟨here, earlier, among⟩
        · exact elsewhere
            ⟨here, List.mem_singleton.mp last, (keys_of_sourcesFor found).mpr among⟩
    · exact shown.named place distribution component name before

/-- One more suite shows the target, whether or not it has shown it before. -/
theorem ShownAs.pointed (fits : mirrorSet.Fits aptly) (listed : suite ∈ mirrorSet.suites)
    (found : JobRunner.sourcesFor mirrorSet target suite = .ok sources)
    (shown : first.ShownAs mirrorSet target done aptly ∨
      first.ShownAs mirrorSet target (done ++ [suite]) aptly)
    (effective : after.Same (aptly.pointed (some ⟨mirrorSet.place, suite, sources⟩))) :
    first.ShownAs mirrorSet target (done ++ [suite]) after where
  view := by
    rw [Pointing.view_after effective.published fits.distinct (Fits.suits fits listed found),
      ← point_pointedAt found]
    rcases shown with before | afterwards
    · rw [before.view]
    · rw [afterwards.view, ← point_pointedAt found, View.point_point]
  named _ _ _ _ named := ShownAs.names_pointed found shown effective named

/-! ## The suites one after the other -/

variable {origin world : World} {existing : Dict (String × String) Published} {jobId : Nat}
  {self : JobRunner} {server : Server self.margin} {sets : Table SnapshotSet}
  {pointing : Option Pointing} {margin : Margin}

/-- These suites are done; for the others it is known whether they are published yet. -/
structure Turned (origin : World) (mirrorSet : MirrorSet) (target : SnapshotSet)
    (existing : Dict (String × String) Published) (done rest : List String)
    (sets : Table SnapshotSet) (aptly : Aptly) (_ : Option Pointing) : Prop where
  sets : sets = origin.db.snapshotSets
  fits : mirrorSet.Fits aptly
  mirrors : aptly.mirrors.Perm origin.aptly.mirrors
  snapshots : aptly.snapshots.Perm origin.aptly.snapshots
  shown : origin.aptly.ShownAs mirrorSet target done aptly
  known : ∀ suite ∈ rest, (existing.get? (mirrorSet.publishPrefix, suite)).isSome =
    (aptly.publicationAt mirrorSet.place suite).isSome

/-- The next one is under way. -/
structure Turning (origin : World) (mirrorSet : MirrorSet) (target : SnapshotSet)
    (existing : Dict (String × String) Published) (done rest : List String) (suite : String)
    (sources : Dict String String) (sets : Table SnapshotSet) (aptly : Aptly)
    (pointing : Option Pointing) : Prop where
  asked : pointing = some ⟨mirrorSet.place, suite, sources⟩
  sets : sets = origin.db.snapshotSets
  fits : mirrorSet.Fits aptly
  mirrors : aptly.mirrors.Perm origin.aptly.mirrors
  snapshots : aptly.snapshots.Perm origin.aptly.snapshots
  shown : origin.aptly.ShownAs mirrorSet target done aptly ∨
    origin.aptly.ShownAs mirrorSet target (done ++ [suite]) aptly
  known : ∀ suite ∈ rest, (existing.get? (mirrorSet.publishPrefix, suite)).isSome =
    (aptly.publicationAt mirrorSet.place suite).isSome

theorem Turned.same (turned : Turned origin mirrorSet target existing done rest sets aptly pointing)
    (same : after.Same aptly) :
    Turned origin mirrorSet target existing done rest sets after pointing where
  sets := turned.sets
  fits := Fits.perm turned.fits same.published
  mirrors := same.mirrors.trans turned.mirrors
  snapshots := same.snapshots.trans turned.snapshots
  shown := ShownAs.perm turned.shown turned.fits.distinct same.published
  known suite listed := by
    rw [Aptly.publicationAt_perm turned.fits.distinct same.published]
    exact turned.known suite listed

theorem Turning.same
    (turning : Turning origin mirrorSet target existing done rest suite sources sets aptly pointing)
    (same : after.Same aptly) :
    Turning origin mirrorSet target existing done rest suite sources sets after pointing where
  asked := turning.asked
  sets := turning.sets
  fits := Fits.perm turning.fits same.published
  mirrors := same.mirrors.trans turning.mirrors
  snapshots := same.snapshots.trans turning.snapshots
  shown := turning.shown.imp
    (fun before => ShownAs.perm before turning.fits.distinct same.published)
    fun afterwards => ShownAs.perm afterwards turning.fits.distinct same.published
  known suite listed := by
    rw [Aptly.publicationAt_perm turning.fits.distinct same.published]
    exact turning.known suite listed

/-- When the publication is there, whether or not it has been there before, the suite is done. -/
theorem Turning.turned
    (turning : Turning origin mirrorSet target existing done rest suite sources sets aptly pointing)
    (listed : suite ∈ mirrorSet.suites) (apart : suite ∉ rest)
    (found : JobRunner.sourcesFor mirrorSet target suite = .ok sources)
    (effective : after.Same (aptly.pointed pointing)) :
    Turned origin mirrorSet target existing (done ++ [suite]) rest sets after pointing := by
  obtain ⟨rfl, sets, fits, mirrors, snapshots, shown, known⟩ := turning
  refine ⟨sets, Fits.pointed fits listed found effective, effective.mirrors.trans mirrors,
    effective.snapshots.trans snapshots, ShownAs.pointed fits listed found shown effective,
    fun other later => ?_⟩
  rw [Pointing.publicationAt_after effective.published fits.distinct, if_neg]
  · exact known other later
  · rintro ⟨-, rfl⟩
    exact apart later

theorem Turned.turning
    (turned : Turned origin mirrorSet target existing (done ++ [suite]) rest sets aptly pointing)
    (asked : pointing = some ⟨mirrorSet.place, suite, sources⟩) :
    Turning origin mirrorSet target existing done rest suite sources sets aptly pointing :=
  ⟨asked, turned.sets, turned.fits, turned.mirrors, turned.snapshots, .inr turned.shown, turned.known⟩

theorem turning_runs {taskId : Int} (listed : suite ∈ mirrorSet.suites) (apart : suite ∉ rest)
    (found : JobRunner.sourcesFor mirrorSet target suite = .ok sources) :
    Runs server.answers self.margin jobId taskId
      (Doing jobId origin (Turning origin mirrorSet target existing done rest suite sources))
      (Doing jobId origin (Turned origin mirrorSet target existing (done ++ [suite]) rest)) := by
  apply Serving.runs
  · exact fun _ _ _ _ turning same => turning.same same
  · intro sets aptly pointing after turning effective
    have turned := turning.turned listed apart found effective
    exact ⟨turned.turning turning.asked, turned⟩
  · exact fun _ _ _ _ turned same => turned.same same

/-- aptly accepts the call that is chosen for the suite. -/
theorem publishable_of_held (held : target.HeldBy mirrorSet origin.aptly)
    (components : mirrorSet.components ≠ []) (snapshots : aptly.snapshots.Perm origin.aptly.snapshots)
    (listed : suite ∈ mirrorSet.suites)
    (found : JobRunner.sourcesFor mirrorSet target suite = .ok sources) :
    aptly.publishable sources = true := by
  simp only [Aptly.publishable, Bool.and_eq_true, Bool.not_eq_true', List.isEmpty_eq_false_iff,
    List.all_eq_true, decide_eq_true_eq]
  constructor
  · intro empty
    obtain ⟨component, among⟩ := List.exists_mem_of_ne_nil _ components
    have key := (keys_of_sourcesFor found).mpr among
    rw [empty] at key
    cases key
  · intro name present
    obtain ⟨component, recorded⟩ := Dict.mem_values_iff.mp present
    rw [JobRunner.sourcesFor_get? found] at recorded
    split at recorded
    · rename_i among
      obtain ⟨other, known, same⟩ := held suite listed component among
      rw [recorded] at same
      cases same
      exact snapshots.mem_iff.mpr known
    · cases recorded

theorem serves_publishing {request : Request} {asked : Pointing} {body : Reply}
    (asks : request.pointing = some asked) : serves margin world request body after = true ↔
      (∃ task, body = .task task) ∧ world.aptly.accepts request = true ∧
        (after.Same world.aptly ∨ after.Same (world.aptly.pointed (some asked))) := by
  cases request <;> cases asks <;> cases body <;>
    simp only [serves, Request.pointing, Bool.and_eq_true, Bool.false_eq_true, reduceCtorEq,
      exists_false, false_and, Reply.task.injEq, exists_eq', true_and]
  · exact and_congr_right fun _ => decide_eq_true_iff
  · exact and_congr_right fun _ => decide_eq_true_iff

/-- Once aptly has accepted the call, the suite is under way. -/
theorem turning_of_granted {request : Request} {body : Reply}
    (asks : request.pointing = some ⟨mirrorSet.place, suite, sources⟩)
    (starts : request.startsTask = true) (listed : suite ∈ mirrorSet.suites)
    (apart : suite ∉ rest) (found : JobRunner.sourcesFor mirrorSet target suite = .ok sources)
    (doing : Doing jobId origin (Turned origin mirrorSet target existing done (suite :: rest)) world)
    (granted : server.answers world request body after = true) :
    Doing jobId origin (Turning origin mirrorSet target existing done rest suite sources)
      (world.record request (.ok body) true after) := by
  obtain ⟨-, -, effect⟩ := (serves_publishing asks).mp (server.sound granted)
  apply Serving.Doing.record doing
  rw [if_pos starts, asks]
  obtain ⟨sets, fits, mirrors, snapshots, shown, known⟩ := doing.about
  have turning : Turning origin mirrorSet target existing done rest suite sources
      world.db.snapshotSets world.aptly (some ⟨mirrorSet.place, suite, sources⟩) :=
    ⟨rfl, sets, fits, mirrors, snapshots, .inl shown,
      fun other later => known other (List.mem_cons_of_mem _ later)⟩
  rcases effect with same | effective
  · exact turning.same same
  · exact (turning.turned listed apart found effective).turning rfl

theorem publishEach_goes (patient : 0 < self.polls) (held : target.HeldBy mirrorSet origin.aptly)
    (components : mirrorSet.components ≠ []) (listed : suite ∈ mirrorSet.suites)
    (apart : suite ∉ rest)
    (doing : Doing jobId origin (Turned origin mirrorSet target existing done (suite :: rest)) world) :
    Goes server.answers
      (fun _ => Doing jobId origin (Turned origin mirrorSet target existing (done ++ [suite]) rest))
      (self.publishEach jobId mirrorSet target existing suite) world := by
  obtain ⟨sources, found⟩ := @JobRunner.sourcesFor_of_recorded mirrorSet target suite
    fun component among => by
      obtain ⟨name, -, recorded⟩ := held suite listed component among
      exact Dict.mem_keys_iff.mpr ⟨name, recorded⟩
  unfold JobRunner.publishEach
  rw [found]
  refine (addStep_goes (steadfast _ _ _) doing _).bind fun step before held' => ?_
  obtain ⟨doing, present⟩ := held'
  have complete := publishable_of_held held components doing.about.snapshots listed found
  have known := doing.about.known suite List.mem_cons_self
  have follow : ∀ (task : Task) world, WithStep step (Doing jobId origin
      (Turning origin mirrorSet target existing done rest suite sources)) world →
      Goes server.answers
        (fun _ => Doing jobId origin (Turned origin mirrorSet target existing (done ++ [suite]) rest))
        (self.followTask step task) world :=
    fun task _ turning => followTask_goes (turning_runs listed apart found) patient turning
  dsimp only
  split
  · rename_i there
    -- What is published has the components, so it can be switched.
    rw [there] at known
    obtain ⟨publication, published⟩ := Option.isSome_iff_exists.mp known.symm
    have suits := Fits.suits doing.about.fits listed found publication published
    have accepted : before.aptly.accepts (.switchPublished mirrorSet.publishTarget suite sources
        ⟨mirrorSet.signingKey⟩) = true := by
      change ((before.aptly.publicationAt mirrorSet.place suite).any _ && _) = true
      rw [published, complete]
      simpa using suits
    refine Completes.bind (@goes_aptly _ _ (.switchPublished mirrorSet.publishTarget suite sources
      ⟨mirrorSet.signingKey⟩)
      (fun _ => WithStep step (Doing jobId origin
        (Turning origin mirrorSet target existing done rest suite sources))) ?_ ?_)
      fun task world turning => follow task world turning
    · exact server.replies ((serves_publishing rfl).mpr
        ⟨⟨⟨0, "", .queued⟩, rfl⟩, accepted, .inl (.refl before.aptly)⟩)
    · intro body after granted
      obtain ⟨⟨task, rfl⟩, -⟩ := (serves_publishing rfl).mp (server.sound granted)
      exact ⟨task, rfl, turning_of_granted rfl rfl listed apart found doing granted, present⟩
  · rename_i absent
    rw [Bool.not_eq_true] at absent
    rw [absent] at known
    have accepted : before.aptly.accepts (.publishSnapshots mirrorSet.publishTarget suite sources
        mirrorSet.architectures ⟨mirrorSet.signingKey⟩) = true := by
      change ((before.aptly.publicationAt mirrorSet.place suite).isNone && _) = true
      rw [complete, Bool.and_true, Option.isNone_iff_eq_none, ← Option.not_isSome_iff_eq_none,
        ← known]
      simp
    refine Completes.bind (@goes_aptly _ _ (.publishSnapshots mirrorSet.publishTarget suite sources
      mirrorSet.architectures ⟨mirrorSet.signingKey⟩)
      (fun _ => WithStep step (Doing jobId origin
        (Turning origin mirrorSet target existing done rest suite sources))) ?_ ?_)
      fun task world turning => follow task world turning
    · exact server.replies ((serves_publishing rfl).mpr
        ⟨⟨⟨0, "", .queued⟩, rfl⟩, accepted, .inl (.refl before.aptly)⟩)
    · intro body after granted
      obtain ⟨⟨task, rfl⟩, -⟩ := (serves_publishing rfl).mp (server.sound granted)
      exact ⟨task, rfl, turning_of_granted rfl rfl listed apart found doing granted, present⟩

theorem suites_goes (patient : 0 < self.polls) (held : target.HeldBy mirrorSet origin.aptly)
    (components : mirrorSet.components ≠ []) (apart : mirrorSet.suites.Nodup)
    (doing : Doing jobId origin
      (Turned origin mirrorSet target existing [] (orderSuites mirrorSet.suites)) world) :
    Goes server.answers (fun _ => Doing jobId origin
        (Turned origin mirrorSet target existing (orderSuites mirrorSet.suites) []))
      (Coroutine.forEach (orderSuites mirrorSet.suites)
        (self.publishEach jobId mirrorSet target existing)) world := by
  let between (rest : List String) (after : World) : Prop :=
    ∃ done, orderSuites mirrorSet.suites = done ++ rest ∧
      Doing jobId origin (Turned origin mirrorSet target existing done rest) after
  have ordered : (orderSuites mirrorSet.suites).Nodup :=
    (orderSuites_perm mirrorSet.suites).nodup_iff.mpr apart
  have each : Goes server.answers (fun _ => between []) (Coroutine.forEach
      (orderSuites mirrorSet.suites) (self.publishEach jobId mirrorSet target existing)) world := by
    apply Completes.forEach between
    · exact ⟨[], rfl, doing⟩
    · rintro suite rest after ⟨done, order, doing⟩
      have listed : suite ∈ mirrorSet.suites := by
        rw [← mem_orderSuites, order]
        simp
      have alone : suite ∉ rest := by
        rw [order] at ordered
        exact (List.nodup_cons.mp ordered.of_append_right).1
      refine (publishEach_goes patient held components listed alone doing).mono ?_ fun _ _ no => no
      intro _ last doing
      exact ⟨done ++ [suite], by simp [order], doing⟩
  refine each.mono ?_ fun _ _ no => no
  rintro _ after ⟨done, order, doing⟩
  rw [List.append_nil] at order
  rw [order]
  exact doing

/-! ## The checks -/

/-- What a client sees is what Verify reads. -/
theorem verifyProblems_of_view {listing : List Publication} (fits : mirrorSet.Fits aptly)
    (spelled : mirrorSet.Spelled) (components : mirrorSet.components ≠ [])
    (listed : listing = aptly.published)
    (recorded : ∀ suite ∈ mirrorSet.suites, ∀ component ∈ mirrorSet.components, ∃ name,
      target.snapshots.get? (mirrorSet.mirrorName suite component) = some name ∧
        aptly.view mirrorSet.place suite component = some name) :
    JobRunner.verifyProblems mirrorSet target (JobRunner.byPlace (listing.map Published.parse)) =
      .ok [] := by
  subst listed
  apply List.foldlM_eq_self
  intro suite among
  have looked : lastListed aptly.published mirrorSet.publishPrefix suite =
      aptly.publicationAt mirrorSet.place suite := by
    refine (looks_right_iff_of_spelled spelled fits.distinct).mpr fun storage last => ?_
    obtain ⟨publication, present, shown, rfl⟩ := mem_storagesListed.mp (List.mem_of_getLast? last)
    exact fits.alone publication present suite among shown
  have seen : ∀ component ∈ mirrorSet.components, ∃ name,
      target.snapshots.get? (mirrorSet.mirrorName suite component) = some name ∧
        ∃ publication, aptly.publicationAt mirrorSet.place suite = some publication ∧
          (Published.parse publication).snapshotFor component = some name := by
    intro component wanted
    obtain ⟨name, known, shows⟩ := recorded suite among component wanted
    exact ⟨name, known, Option.bind_eq_some_iff.mp shows⟩
  obtain ⟨component, wanted⟩ := List.exists_mem_of_ne_nil _ components
  obtain ⟨-, -, publication, there, -⟩ := seen component wanted
  rw [JobRunner.get?_byPlace, looked, there, Option.map_some]
  have silent : JobRunner.componentProblems mirrorSet target suite (Published.parse publication) =
      .ok [] := by
    apply List.foldlM_eq_self
    intro component wanted
    obtain ⟨name, known, other, same, shows⟩ := seen component wanted
    cases there.symm.trans same
    rw [known]
    exact if_neg (not_not.mpr shows)
  change (JobRunner.componentProblems mirrorSet target suite (Published.parse publication)).map _ = _
  rw [silent]
  rfl

/-- All suites point at the target, and nothing else has changed. -/
structure Shows (origin : World) (mirrorSet : MirrorSet) (target : SnapshotSet)
    (sets : Table SnapshotSet) (aptly : Aptly) (_ : Option Pointing) : Prop where
  sets : sets = origin.db.snapshotSets
  fits : mirrorSet.Fits aptly
  mirrors : aptly.mirrors.Perm origin.aptly.mirrors
  snapshots : aptly.snapshots.Perm origin.aptly.snapshots
  shown : origin.aptly.ShownAs mirrorSet target mirrorSet.suites aptly

theorem Shows.same (shows : Shows origin mirrorSet target sets aptly pointing)
    (same : after.Same aptly) : Shows origin mirrorSet target sets after pointing where
  sets := shows.sets
  fits := Fits.perm shows.fits same.published
  mirrors := same.mirrors.trans shows.mirrors
  snapshots := same.snapshots.trans shows.snapshots
  shown := ShownAs.perm shows.shown shows.fits.distinct same.published

theorem Turned.shows (turned : Turned origin mirrorSet target existing
      (orderSuites mirrorSet.suites) [] sets aptly pointing) :
    Shows origin mirrorSet target sets aptly pointing where
  sets := turned.sets
  fits := turned.fits
  mirrors := turned.mirrors
  snapshots := turned.snapshots
  shown := ShownAs.congr turned.shown fun _ => mem_orderSuites

/-- aptly lists what it has published. -/
theorem serves_listPublished {body : Reply} :
    serves margin world .listPublished body after = true ↔
      body = .published after.published ∧ after.Same world.aptly := by
  cases body <;>
    simp only [serves, Bool.and_eq_true, decide_eq_true_eq, Bool.false_eq_true, reduceCtorEq,
      false_and, Reply.published.injEq]

theorem listPublished_goes {about : Table SnapshotSet → Aptly → Option Pointing → Prop}
    (still : ∀ sets aptly pointing after, about sets aptly pointing → after.Same aptly →
      about sets after pointing) (doing : Doing jobId origin about world) :
    Goes server.answers (fun published after => Doing jobId origin about after ∧
      after.db.steps = world.db.steps ∧ published = after.aptly.published.map Published.parse)
      Client.listPublished world := by
  refine @goes_aptly _ _ .listPublished _ ?_ ?_
  · exact server.replies (serves_listPublished.mpr ⟨rfl, .refl world.aptly⟩)
  · intro body after granted
    obtain ⟨rfl, same⟩ := serves_listPublished.mp (server.sound granted)
    exact ⟨_, rfl, Doing.record doing (still _ _ _ _ doing.about same), rfl, rfl⟩

theorem verify_goes (held : target.HeldBy mirrorSet origin.aptly) (spelled : mirrorSet.Spelled)
    (components : mirrorSet.components ≠ [])
    (doing : Doing jobId origin (Shows origin mirrorSet target) world) :
    Goes server.answers (fun _ => Doing jobId origin (Shows origin mirrorSet target))
      (JobRunner.verify jobId mirrorSet target) world := by
  refine (addStep_goes (steadfast _ _ _) doing _).bind fun step before begun => ?_
  refine (listPublished_goes (fun _ _ _ _ shows same => shows.same same) begun.1).bind ?_
  rintro _ after ⟨doing, steps, rfl⟩
  have silent : JobRunner.verifyProblems mirrorSet target
      (JobRunner.byPlace (after.aptly.published.map Published.parse)) = .ok [] := by
    apply verifyProblems_of_view doing.about.fits spelled components rfl
    intro suite among component wanted
    obtain ⟨name, -, recorded⟩ := held suite among component wanted
    refine ⟨name, recorded, ?_⟩
    rw [doing.about.shown.view, View.pointedAt, if_pos ⟨rfl, among, wanted⟩, recorded]
  rw [silent]
  refine finishStep_goes (steadfast _ _ _) ⟨doing, ?_⟩
  rw [steps]
  exact begun.2

theorem checkAsClient_goes {publicUrl : String}
    (doing : Doing jobId origin (Shows origin mirrorSet target) world) :
    Goes server.answers (fun _ => Doing jobId origin (Shows origin mirrorSet target))
      (JobRunner.checkAsClient jobId mirrorSet publicUrl) world := by
  refine (addStep_goes (steadfast _ _ _) doing _).bind fun step before begun => ?_
  have fetched : Goes server.answers (fun (checks : List ClientCheck) after =>
      (∀ check ∈ checks, check.ok = true) ∧
        WithStep step (Doing jobId origin (Shows origin mirrorSet target)) after)
      (Coroutine.foldEach (orderSuites mirrorSet.suites) ([] : List ClientCheck)
        fun checks suite => do
          let check ← fetchRelease publicUrl suite
          return checks ++ [check]) before := by
    apply Completes.foldEach (fun _ (checks : List ClientCheck) after =>
      (∀ check ∈ checks, check.ok = true) ∧
        WithStep step (Doing jobId origin (Shows origin mirrorSet target)) after)
    · exact ⟨by simp, begun⟩
    · rintro suite rest checks after ⟨fine, held⟩
      refine (goes_fetchRelease held).bind ?_
      rintro check last ⟨good, held⟩
      refine Coroutine.completes_done ⟨?_, held⟩
      intro other listed
      rcases List.mem_append.mp listed with earlier | here
      · exact fine other earlier
      · obtain rfl := List.mem_singleton.mp here
        exact good
  refine fetched.bind ?_
  rintro checks after ⟨fine, held⟩
  have nothing : (checks.find? fun check => !check.ok) = none := by
    rw [List.find?_eq_none]
    intro check listed
    simp [fine check listed]
  dsimp only
  rw [nothing]
  exact finishStep_goes (steadfast _ _ _) held

/-! ## The job -/

/-- What the mirror set must be like, for aptly to do what its switches ask for. -/
structure Publishable (mirrorSet : MirrorSet) : Prop where
  legible : Legible mirrorSet.publishPrefix.toList
  apart : mirrorSet.suites.Nodup
  components : mirrorSet.components ≠ []

variable (patient : 0 < self.polls) (publishable : Publishable mirrorSet)

include patient publishable

theorem publishSuites_goes (held : target.HeldBy mirrorSet origin.aptly)
    (fits : mirrorSet.Fits origin.aptly)
    (doing : Doing jobId origin (Unmoved origin) world) :
    Goes server.answers (fun _ => Doing jobId origin (Shows origin mirrorSet target))
      (self.publishSuites jobId mirrorSet target) world := by
  obtain ⟨legible, apart, components⟩ := publishable
  have spelled : mirrorSet.Spelled := mirrorSet.spelled_iff.mpr legible
  refine (listPublished_goes (fun _ _ _ _ unmoved same => unmoved.same same) doing).bind ?_
  rintro _ before ⟨doing, -, rfl⟩
  have begun : Doing jobId origin (Turned origin mirrorSet target
      (JobRunner.byPlace (before.aptly.published.map Published.parse)) []
      (orderSuites mirrorSet.suites)) before := by
    obtain ⟨whole, stored, others, mirrorSets, clock, sets, same⟩ := doing
    have now := Fits.perm fits same.published
    refine ⟨whole, stored, others, mirrorSets, clock, sets, now, same.mirrors, same.snapshots,
      ShownAs.nothing fits.distinct same.published, fun suite listed => ?_⟩
    rw [Bool.eq_iff_iff, Aptly.publicationAt_isSome_iff]
    refine (calls_right_iff_of_spelled spelled).mpr (or_iff_not_imp_left.mpr fun some => ?_)
    obtain ⟨storage, there⟩ := List.exists_mem_of_ne_nil _ some
    obtain ⟨publication, present, shown, rfl⟩ := mem_storagesListed.mp there
    rw [← now.alone publication present suite (mem_orderSuites.mp listed) shown]
    exact there
  refine (suites_goes patient held components apart begun).bind fun _ after doing => ?_
  have shows : Doing jobId origin (Shows origin mirrorSet target) after :=
    Doing.mono doing fun _ _ _ turned => turned.shows
  refine (verify_goes held spelled components shows).bind fun _ last shows => ?_
  split
  · exact Coroutine.completes_done shows
  · split
    · exact Coroutine.completes_done shows
    · exact checkAsClient_goes shows

theorem switch_goes {params : JobParams} {targetId : Nat} (asked : params.snapshotSetId = some targetId)
    (found : origin.db.snapshotSets.get? targetId = some target)
    (owned : target.mirrorSetId = mirrorSet.id) (complete : target.state = .complete)
    (held : target.HeldBy mirrorSet origin.aptly) (fits : mirrorSet.Fits origin.aptly)
    (doing : Doing jobId origin (Unmoved origin) world) :
    Goes server.answers (fun _ => Doing jobId origin (Shows origin mirrorSet target))
      (self.switch jobId params mirrorSet) world := by
  unfold JobRunner.switch
  rw [asked]
  have loaded : Goes server.answers (fun row after => row = some target ∧
      Doing jobId origin (Unmoved origin) after) (getSnapshotSet .job targetId) world := by
    refine @goes_query _ _ (.getSnapshotSet .job targetId) .job _ _ doing.whole rfl rfl ⟨?_, doing⟩
    rw [doing.about.1, found]
  refine loaded.bind ?_
  rintro _ after ⟨rfl, doing⟩
  dsimp only
  rw [if_neg (not_not.mpr owned), if_neg (not_not.mpr complete)]
  exact publishSuites_goes patient publishable held fits doing

/-- A job may switch the mirror set to this snapshot set, all of which aptly holds. -/
structure MaySwitch (mirrorSet : MirrorSet) (world : World) (jobId : Nat) (target : SnapshotSet) :
    Prop where
  stored : ∃ job, world.db.jobs.get? jobId = some job ∧ job.type = .switch ∧
    job.mirrorSetId = some mirrorSet.id ∧ job.Chooses mirrorSet world.db target
  held : target.HeldBy mirrorSet world.aptly

theorem runSwitch_goes (described : world.db.mirrorSets.get? mirrorSet.id = some mirrorSet)
    (fits : mirrorSet.Fits world.aptly) (may : MaySwitch mirrorSet world jobId target) :
    Goes server.answers
      (fun _ => Over jobId world (Shows world mirrorSet target))
      (self.runJob jobId) world := by
  obtain ⟨⟨job, stored, type, names, asked, owned, complete⟩, held⟩ := may
  refine (runJob_goes stored names described (steadfast jobId world (Shows world mirrorSet target))
    fun after whole present beside => ?_).mono (fun _ _ => over_of_endsWell) fun _ _ no => no
  obtain ⟨targetId, named, found⟩ := Option.bind_eq_some_iff.mp asked
  simp only [JobRunner.execute, type]
  refine switch_goes patient publishable named found owned complete held fits ?_
  refine ⟨whole, present, beside.jobs, beside.mirrorSets, beside.clock, beside.snapshotSets, ?_⟩
  rw [beside.aptly]
  exact .refl _

omit patient publishable

/-! ## What a switch leaves of other components -/

/-- The snapshot that the view shows is one of the publication's sources. -/
theorem mem_sources_of_view {publication : Publication} {component name : String}
    (there : aptly.publicationAt mirrorSet.place suite = some publication)
    (shown : aptly.view mirrorSet.place suite component = some name) :
    ⟨component, name⟩ ∈ publication.sources := by
  rw [Aptly.view, there, Option.bind_some] at shown
  obtain ⟨source, found, rfl⟩ := Option.map_eq_some_iff.mp shown
  have here : source.component = component := by simpa using List.find?_some found
  subst here
  exact List.mem_of_find?_eq_some found

theorem exists_view_of_source {publication : Publication} {source : PublishedSource}
    (there : aptly.publicationAt mirrorSet.place suite = some publication)
    (listed : source ∈ publication.sources) :
    ∃ name, aptly.view mirrorSet.place suite source.component = some name := by
  rw [Aptly.view, there, Option.bind_some]
  apply Option.isSome_iff_exists.mp
  rw [Published.snapshotFor, Option.isSome_map, List.find?_isSome]
  exact ⟨source, listed, by simp⟩

/-- Components that the set does not know stay in the publication, and no others come in. -/
theorem ShownAs.pure_iff {publication : Publication}
    (shown : first.ShownAs mirrorSet target suites aptly) (distinct : first.Distinct)
    (listed : suite ∈ suites)
    (there : aptly.publicationAt mirrorSet.place suite = some publication) :
    publication.Pure mirrorSet target suite ↔ ∀ old,
      first.publicationAt mirrorSet.place suite = some old →
        ∀ source ∈ old.sources, source.component ∈ mirrorSet.components := by
  constructor
  · intro pure old before source present
    by_contra foreign
    obtain ⟨name, known⟩ := exists_view_of_source before present
    have still : aptly.view mirrorSet.place suite source.component = some name := by
      rw [shown.view, View.pointedAt, if_neg (fun asked => foreign asked.2.2)]
      exact known
    exact foreign ((pure _ _).mp (mem_sources_of_view there still)).1
  · intro known component name
    obtain ⟨present, place, distribution⟩ := Aptly.of_publicationAt there
    constructor
    · intro source
      rcases shown.named mirrorSet.place suite component name
        ⟨publication, present, place, distribution, source⟩ with
          ⟨-, -, wanted, recorded⟩ | ⟨elsewhere, old, before, here, named, source⟩
      · exact ⟨wanted, recorded⟩
      · have found := (Aptly.publicationAt_eq_some_iff distinct).mpr ⟨before, here, named⟩
        exact absurd ⟨rfl, listed, known old found _ source⟩ elsewhere
    · rintro ⟨wanted, recorded⟩
      apply mem_sources_of_view there
      rw [shown.view, View.pointedAt, if_pos ⟨rfl, listed, wanted⟩]
      exact recorded

include patient publishable

/-- The publication of each suite is afterwards the target alone just when it had no other
components before. -/
theorem switch_keeps_what_it_does_not_know
    (described : world.db.mirrorSets.get? mirrorSet.id = some mirrorSet)
    (fits : mirrorSet.Fits world.aptly) (may : MaySwitch mirrorSet world jobId target) :
    Goes server.answers (fun _ after => ∀ suite ∈ mirrorSet.suites, ∃ publication,
        after.aptly.publicationAt mirrorSet.place suite = some publication ∧
          (publication.Pure mirrorSet target suite ↔ ∀ old,
            world.aptly.publicationAt mirrorSet.place suite = some old →
              ∀ source ∈ old.sources, source.component ∈ mirrorSet.components))
      (self.runJob jobId) world := by
  refine (runSwitch_goes patient publishable described fits may).mono ?_ fun _ _ no => no
  intro _ after ended suite listed
  obtain ⟨_, shows⟩ := ended.about
  obtain ⟨component, wanted⟩ := List.exists_mem_of_ne_nil _ publishable.components
  obtain ⟨name, -, recorded⟩ := may.held suite listed component wanted
  have shown : after.aptly.view mirrorSet.place suite component = some name := by
    rw [shows.shown.view, View.pointedAt, if_pos ⟨rfl, listed, wanted⟩]
    exact recorded
  obtain ⟨publication, there, -⟩ := Option.bind_eq_some_iff.mp shown
  exact ⟨publication, there, ShownAs.pure_iff shows.shown fits.distinct listed there⟩

/-! ## A row of jobs -/

omit patient publishable

/-- These switches are done, and the last of them is what shows. -/
structure Row (origin : World) (mirrorSet : MirrorSet) (done : List (Nat × SnapshotSet))
    (world : World) : Prop where
  succeeded : ∀ entry ∈ done, ∃ job, world.db.jobs.get? entry.1 = some job ∧ job.state = .succeeded
  waiting : ∀ id, id ∉ done.map Prod.fst → world.db.jobs.get? id = origin.db.jobs.get? id
  mirrorSets : world.db.mirrorSets = origin.db.mirrorSets
  snapshotSets : world.db.snapshotSets = origin.db.snapshotSets
  fits : mirrorSet.Fits world.aptly
  mirrors : world.aptly.mirrors.Perm origin.aptly.mirrors
  snapshots : world.aptly.snapshots.Perm origin.aptly.snapshots
  view : world.aptly.view = match done.getLast? with
    | none => origin.aptly.view
    | some (_, target) => origin.aptly.view.pointedAt mirrorSet target mirrorSet.suites

theorem Row.next {done : List (Nat × SnapshotSet)} {final : World}
    (row : Row origin mirrorSet done world) (fresh : jobId ∉ done.map Prod.fst)
    (ended : Over jobId world (Shows world mirrorSet target) final) :
    Row origin mirrorSet (done ++ [(jobId, target)]) final := by
  obtain ⟨succeeded, others, mirrorSets, -, -, sets, fits, mirrors, snapshots, shown⟩ := ended
  refine ⟨fun entry listed => ?_, fun id unlisted => ?_, mirrorSets.trans row.mirrorSets,
    sets.trans row.snapshotSets, fits, mirrors.trans row.mirrors, snapshots.trans row.snapshots, ?_⟩
  · rcases List.mem_append.mp listed with earlier | here
    · rw [others]
      · exact row.succeeded entry earlier
      · rintro rfl
        exact fresh (List.mem_map_of_mem earlier)
    · obtain rfl := List.mem_singleton.mp here
      exact succeeded
  · rw [List.map_append, List.mem_append, not_or] at unlisted
    rw [others id (by simpa using unlisted.2)]
    exact row.waiting id unlisted.1
  · rw [shown.view, row.view, List.getLast?_append_of_ne_nil _ (by simp)]
    cases done.getLast? with
    | none => rfl
    | some last => exact pointedAt_pointedAt _ _ _

end Rollback

open Rollback in
/-- However often a mirror set is switched forth and back, each of the jobs succeeds, and in the end
clients see what the last one has chosen: just what they would see if it had been the only one. -/
theorem switches_in_a_row {self : JobRunner} {server : Server self.margin} {world : World} {mirrorSet : MirrorSet}
    {row : List (Nat × SnapshotSet)} {jobId : Nat} {target : SnapshotSet} (patient : 0 < self.polls)
    (publishable : Publishable mirrorSet)
    (described : world.db.mirrorSets.get? mirrorSet.id = some mirrorSet)
    (fits : mirrorSet.Fits world.aptly) (distinct : (row.map Prod.fst).Nodup)
    (may : ∀ entry ∈ row, MaySwitch mirrorSet world entry.1 entry.2)
    (last : row.getLast? = some (jobId, target)) :
    Goes server.answers (fun _ after =>
      (∀ entry ∈ row, ∃ job, after.db.jobs.get? entry.1 = some job ∧ job.state = .succeeded) ∧
      after.aptly.view = world.aptly.view.pointedAt mirrorSet target mirrorSet.suites ∧
      after.aptly.mirrors.Perm world.aptly.mirrors ∧
      after.aptly.snapshots.Perm world.aptly.snapshots ∧
      after.db.mirrorSets = world.db.mirrorSets ∧ after.db.snapshotSets = world.db.snapshotSets)
      (Coroutine.forEach row fun entry => self.runJob entry.1) world := by
  let between (rest : List (Nat × SnapshotSet)) (after : World) : Prop :=
    ∃ done, row = done ++ rest ∧ Row world mirrorSet done after
  have each : Goes server.answers (fun _ => between [])
      (Coroutine.forEach row fun entry => self.runJob entry.1) world := by
    apply Completes.forEach between
    · exact ⟨[], rfl, by simp, fun _ _ => rfl, rfl, rfl, fits, .refl _, .refl _, rfl⟩
    · rintro ⟨id, chosen⟩ rest after ⟨done, order, held⟩
      have fresh : id ∉ done.map Prod.fst := by
        intro earlier
        rw [order, List.map_append] at distinct
        exact (List.nodup_append.mp distinct).2.2 id earlier id (by simp) rfl
      obtain ⟨⟨job, stored, type, names, asked, owned, complete⟩, snapshots⟩ :=
        may (id, chosen) (by simp [order])
      have still : MaySwitch mirrorSet after id chosen := by
        refine ⟨⟨job, (held.waiting id fresh).trans stored, type, names, ?_, owned, complete⟩,
          fun suite listed component among => ?_⟩
        · rw [Job.targetIn, held.snapshotSets]
          exact asked
        · obtain ⟨name, known, recorded⟩ := snapshots suite listed component among
          exact ⟨name, held.snapshots.mem_iff.mpr known, recorded⟩
      refine (runSwitch_goes patient publishable ?_ held.fits still).mono ?_ fun _ _ no => no
      · rw [held.mirrorSets]
        exact described
      · intro _ final ended
        exact ⟨done ++ [(id, chosen)], by simp [order], held.next fresh ended⟩
  refine each.mono ?_ fun _ _ no => no
  rintro _ after ⟨done, order, held⟩
  rw [List.append_nil] at order
  subst order
  refine ⟨held.succeeded, ?_, held.mirrors, held.snapshots, held.mirrorSets, held.snapshotSets⟩
  rw [held.view, last]

namespace Rollback

def taken (id : Nat) (snapshot : String) : SnapshotSet where
  id := id
  mirrorSetId := 1
  snapshots := Dict.ofList [("stable-main", snapshot)]
  state := .complete
  jobId := none

/-- Two complete sets, of which the newer one is published, and jobs that switch to it and to the
older one. -/
def world : World :=
  { Sample.service.world with
    aptly := { Sample.mirrored with
      snapshots := ["old-main", "new-main"]
      published := [⟨"", "debian", "stable", [⟨"main", "new-main"⟩]⟩] }
    db := { Sample.service.world.db with
      snapshotSets := (Table.empty.insert (taken 0 "old-main")).insert (taken 0 "new-main")
      jobs := (Table.empty.insert (Sample.job 0 .switch (some 1))).insert
        (Sample.job 0 .switch (some 2)) } }

end Rollback

open Rollback in
/-- The newer set shows for a moment, and then the older one, which was published last. -/
theorem switches_in_a_row_debian : Goes (Server.prompt Sample.runner.margin).answers
    (fun _ after => after.aptly.view ⟨"", "debian"⟩ "stable" "main" = some "old-main")
    (Coroutine.forEach [(2, taken 2 "new-main"), (1, taken 1 "old-main")]
      fun entry => Sample.runner.runJob entry.1) world := by
  have may : ∀ entry ∈ [(2, taken 2 "new-main"), (1, taken 1 "old-main")],
      MaySwitch Sample.stored world entry.1 entry.2 := by
    intro entry listed
    simp only [List.mem_cons, List.not_mem_nil, or_false] at listed
    rcases listed with rfl | rfl
    · refine ⟨⟨Sample.job 2 .switch (some 2), by decide, rfl, rfl, by decide, rfl, rfl⟩, ?_⟩
      rw [SnapshotSet.HeldBy]
      decide
    · refine ⟨⟨Sample.job 1 .switch (some 1), by decide, rfl, rfl, by decide, rfl, rfl⟩, ?_⟩
      rw [SnapshotSet.HeldBy]
      decide
  have fits : Sample.stored.Fits world.aptly := by
    refine ⟨?_, ?_, ?_⟩
    · rw [Aptly.Distinct]
      decide
    · simp only [MirrorSet.Shown]
      decide
    · simp only [MirrorSet.Addresses]
      decide
  refine Coroutine.Completes.mono (switches_in_a_row (by decide) ⟨by decide, by decide, by decide⟩
    (by decide) fits (by decide) may rfl) ?_ fun _ _ no => no
  rintro _ after ⟨-, view, -⟩
  rw [view]
  decide

end AptlyGui
