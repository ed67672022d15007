import AptlyGui.Aptly.Legible
import AptlyGui.Services.Jobs.Mix
import AptlyGui.Web.Handlers

/-!
# Whether a switch looks up what it writes

The call goes to the place that `publish_target` addresses, and both lookups
compare the bare prefix with `publish_prefix` as it is stored.
-/

namespace AptlyGui

/-- The storages in which something is listed under this bare prefix and distribution. -/
def storagesListed (listing : List Publication) (barePrefix distribution : String) : List String :=
  (listing.filter fun publication =>
    publication.barePrefix = barePrefix ∧ publication.distribution = distribution).map
      Publication.storage

namespace MirrorSet

variable (mirrorSet : MirrorSet) (suite : String)

/-- The place this set is published to. -/
def place : Place := addressedBy mirrorSet.publishTarget

/-- The publication that the calls for this suite are about. -/
def Addresses (publication : Publication) : Prop :=
  publication.place = mirrorSet.place ∧ publication.distribution = suite

instance : DecidablePred (mirrorSet.Addresses suite) := fun publication =>
  inferInstanceAs (Decidable (publication.place = mirrorSet.place ∧ publication.distribution = suite))

/-- The stored prefix is the bare prefix under which aptly lists what is published there. -/
def Spelled : Prop := mirrorSet.publishPrefix = mirrorSet.place.barePrefix

instance : Decidable mirrorSet.Spelled :=
  inferInstanceAs (Decidable (mirrorSet.publishPrefix = mirrorSet.place.barePrefix))

/-- Listed under the stored prefix and this suite, in whatever storage. -/
def Shown (publication : Publication) : Prop :=
  publication.barePrefix = mirrorSet.publishPrefix ∧ publication.distribution = suite

/-- When the choice between the two calls is right.  Under a legible prefix nothing is listed, or
the storage of the endpoint is.  Under another one nothing is looked up that is addressed: what is
addressed is not listed, unless both are. -/
def CallsRight (existing : List Publication) : Prop :=
  let shown := storagesListed existing mirrorSet.publishPrefix suite
  let addressed := storagesListed existing mirrorSet.place.barePrefix suite
  if Legible mirrorSet.publishPrefix.toList then shown = [] ∨ mirrorSet.place.storage ∈ shown
  else if Normal mirrorSet.publishPrefix.toList then
    shown = [] ∧ mirrorSet.place.storage ∉ addressed ∨
      shown ≠ [] ∧ mirrorSet.place.storage ∈ addressed
  else mirrorSet.place.storage ∉ addressed

/-- When Verify looks at the right publication.  Under a legible prefix the storage of the endpoint
is the one that is listed last; under another one there is nothing to look at. -/
def LooksRight (listing : List Publication) : Prop :=
  let shown := storagesListed listing mirrorSet.publishPrefix suite
  let addressed := storagesListed listing mirrorSet.place.barePrefix suite
  if Legible mirrorSet.publishPrefix.toList then
    ∀ storage, shown.getLast? = some storage → storage = mirrorSet.place.storage
  else if Normal mirrorSet.publishPrefix.toList then
    shown = [] ∧ mirrorSet.place.storage ∉ addressed
  else mirrorSet.place.storage ∉ addressed

/-- The storage stands before a colon of its own. -/
theorem toList_publishTarget : mirrorSet.publishTarget = mirrorSet.publishPrefix ∨
    ∃ endpoint, mirrorSet.publishTarget.toList =
      ("filesystem:" ++ endpoint).toList ++ ':' :: mirrorSet.publishPrefix.toList := by
  rw [publishTarget]
  split
  · split
    · exact .inl rfl
    · rename_i endpoint _ _
      exact .inr ⟨endpoint, by simp [toString]⟩
  · exact .inl rfl

/-- A prefix is spelled as aptly spells it just when it is legible, whatever the endpoint is. -/
theorem spelled_iff : mirrorSet.Spelled ↔ Legible mirrorSet.publishPrefix.toList := by
  constructor
  · intro spelled
    rw [spelled]
    exact legible_addressedBy _
  · intro legible
    rcases mirrorSet.toList_publishTarget with same | ⟨endpoint, storage⟩
    · rw [Spelled, place, same, addressedBy_legible legible]
    · refine String.toList_injective (addressedBy_storage legible storage ?_ ?_).symm <;> simp

end MirrorSet

section Lookup

variable {mirrorSet : MirrorSet} {suite : String} {listing : List Publication}
  {publication : Publication}

theorem shown_of_lastListed
    (last : lastListed listing mirrorSet.publishPrefix suite = some publication) :
    publication ∈ listing ∧ mirrorSet.Shown suite publication := by
  have found := List.find?_some last
  simp only [decide_eq_true_eq] at found
  exact ⟨List.mem_reverse.mp (List.mem_of_find?_eq_some last), found⟩

theorem lastListed_isSome_iff : (lastListed listing mirrorSet.publishPrefix suite).isSome = true ↔
    ∃ publication ∈ listing, mirrorSet.Shown suite publication := by
  simp [lastListed, List.find?_isSome, MirrorSet.Shown]

theorem storagesListed_eq_nil_iff {barePrefix : String} :
    storagesListed listing barePrefix suite = [] ↔ ∀ publication ∈ listing,
      ¬ (publication.barePrefix = barePrefix ∧ publication.distribution = suite) := by
  simp [storagesListed, List.filter_eq_nil_iff]

theorem mem_storagesListed {storage : String} :
    storage ∈ storagesListed listing mirrorSet.publishPrefix suite ↔
      ∃ publication ∈ listing, mirrorSet.Shown suite publication ∧ publication.storage = storage := by
  simp only [storagesListed, List.mem_map, List.mem_filter, decide_eq_true_eq, and_assoc,
    MirrorSet.Shown]

theorem getLast?_storagesListed (barePrefix : String) :
    (storagesListed listing barePrefix suite).getLast? =
      (lastListed listing barePrefix suite).map Publication.storage := by
  rw [storagesListed, lastListed, List.getLast?_map, ← List.head?_filter, List.filter_reverse,
    List.head?_reverse]

/-- What is addressed is listed just when its storage is listed under the prefix that is read. -/
theorem addressed_listed_iff : (∃ publication ∈ listing, mirrorSet.Addresses suite publication) ↔
    mirrorSet.place.storage ∈ storagesListed listing mirrorSet.place.barePrefix suite := by
  simp only [storagesListed, List.mem_map, List.mem_filter, decide_eq_true_eq, and_assoc]
  refine exists_congr fun publication => and_congr_right fun _ => ?_
  cases place : mirrorSet.place
  simp only [MirrorSet.Addresses, Publication.place, place, Place.mk.injEq]
  constructor
  · rintro ⟨⟨storage, bare⟩, suite⟩
    exact ⟨bare, suite, storage⟩
  · rintro ⟨bare, suite, storage⟩
    exact ⟨⟨storage, bare⟩, suite⟩

/-- Nothing is listed under a prefix that is not normal. -/
theorem storagesListed_of_not_normal
    (normal : ∀ publication ∈ listing, Normal publication.barePrefix.toList) {barePrefix : String}
    (strange : ¬ Normal barePrefix.toList) : storagesListed listing barePrefix suite = [] := by
  refine storagesListed_eq_nil_iff.mpr fun publication listed here => strange ?_
  rw [← here.1]
  exact normal publication listed

theorem find?_addresses_eq_none_iff :
    (listing.find? fun publication => mirrorSet.Addresses suite publication) = none ↔
      mirrorSet.place.storage ∉ storagesListed listing mirrorSet.place.barePrefix suite := by
  rw [← addressed_listed_iff]
  simp

theorem lastListed_eq_none_iff : lastListed listing mirrorSet.publishPrefix suite = none ↔
    storagesListed listing mirrorSet.publishPrefix suite = [] := by
  rw [← List.getLast?_eq_none_iff, getLast?_storagesListed, Option.map_eq_none_iff]

theorem lookup_isSome_iff : ((JobRunner.byPlace (listing.map Published.parse)).get?
    (mirrorSet.publishPrefix, suite)).isSome = true ↔
      storagesListed listing mirrorSet.publishPrefix suite ≠ [] := by
  rw [JobRunner.get?_byPlace, Option.isSome_map, lastListed_isSome_iff, ne_eq,
    storagesListed_eq_nil_iff]
  simp [MirrorSet.Shown]

section Spelled

variable (spelled : mirrorSet.Spelled)

include spelled

theorem calls_right_iff_of_spelled :
    (((JobRunner.byPlace (listing.map Published.parse)).get?
      (mirrorSet.publishPrefix, suite)).isSome = true ↔
        ∃ publication ∈ listing, mirrorSet.Addresses suite publication) ↔
      (storagesListed listing mirrorSet.publishPrefix suite = [] ∨
        mirrorSet.place.storage ∈ storagesListed listing mirrorSet.publishPrefix suite) := by
  rw [lookup_isSome_iff, addressed_listed_iff, ← spelled]
  constructor
  · intro right
    exact or_iff_not_imp_left.mpr right.mp
  · rintro (nothing | listed)
    · simp [nothing]
    · exact ⟨fun _ => listed, fun _ => List.ne_nil_of_mem listed⟩

theorem looks_right_iff_of_spelled
    (distinct : ∀ first ∈ listing, ∀ second ∈ listing, first.place = second.place →
      first.distribution = second.distribution → first = second) :
    (lastListed listing mirrorSet.publishPrefix suite =
        listing.find? fun publication => mirrorSet.Addresses suite publication) ↔
      ∀ storage, (storagesListed listing mirrorSet.publishPrefix suite).getLast? = some storage →
        storage = mirrorSet.place.storage := by
  rw [getLast?_storagesListed]
  constructor
  · intro same storage last
    obtain ⟨publication, listed, rfl⟩ := Option.map_eq_some_iff.mp last
    rw [same] at listed
    have addresses : mirrorSet.Addresses suite publication := by simpa using List.find?_some listed
    exact congrArg Place.storage addresses.1
  · intro stored
    cases last : lastListed listing mirrorSet.publishPrefix suite with
    | none =>
        have nothing := lastListed_eq_none_iff.mp last
        rw [spelled] at nothing
        symm
        rw [find?_addresses_eq_none_iff, nothing]
        exact List.not_mem_nil
    | some publication =>
        obtain ⟨listed, shown⟩ := shown_of_lastListed last
        have addresses : mirrorSet.Addresses suite publication := by
          refine ⟨?_, shown.2⟩
          have storage := stored publication.storage (by rw [last]; rfl)
          have bare := shown.1.trans spelled
          cases target : mirrorSet.place
          rw [target] at storage bare
          simp only [Publication.place, storage, bare]
        cases found : listing.find? fun publication => mirrorSet.Addresses suite publication with
        | none =>
            have missed := List.find?_eq_none.mp found publication listed
            simp [addresses] at missed
        | some other =>
            have own : mirrorSet.Addresses suite other := by simpa using List.find?_some found
            rw [distinct publication listed other (List.mem_of_find?_eq_some found)
              (addresses.1.trans own.1.symm) (addresses.2.trans own.2.symm)]

end Spelled

/-- Under another prefix what is looked up is never what is addressed. -/
theorem looks_right_iff_of_misspelled (misspelled : ¬ mirrorSet.Spelled) :
    (lastListed listing mirrorSet.publishPrefix suite =
        listing.find? fun publication => mirrorSet.Addresses suite publication) ↔
      storagesListed listing mirrorSet.publishPrefix suite = [] ∧
        mirrorSet.place.storage ∉ storagesListed listing mirrorSet.place.barePrefix suite := by
  rw [← find?_addresses_eq_none_iff, ← lastListed_eq_none_iff]
  constructor
  · intro same
    cases last : lastListed listing mirrorSet.publishPrefix suite with
    | none => exact ⟨rfl, by rw [← same, last]⟩
    | some publication =>
        have found := same.symm.trans last
        have addresses : mirrorSet.Addresses suite publication := by simpa using List.find?_some found
        refine absurd ?_ misspelled
        rw [MirrorSet.Spelled, ← addresses.1, ← (shown_of_lastListed last).2.1]
        rfl
  · rintro ⟨unlisted, unfound⟩
    rw [unlisted, unfound]

variable (normal : ∀ publication ∈ listing, Normal publication.barePrefix.toList)

include normal

/-- The choice of the call is right just when the condition says so. -/
theorem calls_right_iff :
    (((JobRunner.byPlace (listing.map Published.parse)).get?
      (mirrorSet.publishPrefix, suite)).isSome = true ↔
        ∃ publication ∈ listing, mirrorSet.Addresses suite publication) ↔
      mirrorSet.CallsRight suite listing := by
  rw [MirrorSet.CallsRight]
  by_cases legible : Legible mirrorSet.publishPrefix.toList
  · rw [if_pos legible]
    exact calls_right_iff_of_spelled (mirrorSet.spelled_iff.mpr legible)
  · rw [if_neg legible, lookup_isSome_iff, addressed_listed_iff]
    by_cases reported : Normal mirrorSet.publishPrefix.toList
    · rw [if_pos reported]
      tauto
    · rw [if_neg reported, storagesListed_of_not_normal normal reported]
      simp

/-- The lookup finds the addressed publication just when the condition says so. -/
theorem looks_right_iff
    (distinct : ∀ first ∈ listing, ∀ second ∈ listing, first.place = second.place →
      first.distribution = second.distribution → first = second) :
    (lastListed listing mirrorSet.publishPrefix suite =
        listing.find? fun publication => mirrorSet.Addresses suite publication) ↔
      mirrorSet.LooksRight suite listing := by
  rw [MirrorSet.LooksRight]
  by_cases legible : Legible mirrorSet.publishPrefix.toList
  · rw [if_pos legible]
    exact looks_right_iff_of_spelled (mirrorSet.spelled_iff.mpr legible) distinct
  · rw [if_neg legible, looks_right_iff_of_misspelled (mt mirrorSet.spelled_iff.mp legible)]
    by_cases reported : Normal mirrorSet.publishPrefix.toList
    · rw [if_pos reported]
    · rw [if_neg reported, storagesListed_of_not_normal normal reported]
      simp

end Lookup

/-- In every moment of a SWITCH job after it has read the publications, all its calls are PUT just
when the publication they address exists, and Verify looks at those publications (the last listed
ones), exactly when the two conditions hold. -/
theorem switch_looks_up_what_it_writes_iff {self : JobRunner} {world final : World}
    {events : List Event} {rest : Program Unit} {jobId : Nat} {job : Job} {mirrorSet : MirrorSet}
    {existing : List Publication} {later : List (List Publication)}
    (stored : world.db.jobs.get? jobId = some job) (type : job.type = .switch)
    (queued : job.state = .queued) (described : job.mirrorSetIn world.db = some mirrorSet)
    (untouched : world.Untouched jobId) (alone : ∀ event ∈ events, event.cancels = false)
    (ran : (self.runJob jobId).run semantics events world = some (rest, final))
    (listings : listingsIn (final.sentBy jobId) = existing :: later)
    (normal : ∀ listing ∈ existing :: later, ∀ publication ∈ listing,
      Normal publication.barePrefix.toList)
    (distinct : ∀ listing ∈ later, ∀ first ∈ listing, ∀ second ∈ listing,
      first.place = second.place → first.distribution = second.distribution → first = second) :
    ((∀ move ∈ movesIn (final.sentBy jobId), move.put = true ↔
        ∃ publication ∈ existing, mirrorSet.Addresses move.suite publication) ∧
      ∀ listing ∈ later, ∀ suite ∈ mirrorSet.suites,
        lastListed listing mirrorSet.publishPrefix suite =
          listing.find? fun publication => mirrorSet.Addresses suite publication) ↔
    (∀ move ∈ movesIn (final.sentBy jobId), mirrorSet.CallsRight move.suite existing) ∧
      ∀ listing ∈ later, ∀ suite ∈ mirrorSet.suites, mirrorSet.LooksRight suite listing := by
  have reports := switch_reports stored type queued described untouched alone ran
  have underway : Switch.Underway job mirrorSet world.db (final.sentBy jobId) := reports.during
  have looked : ∀ move ∈ movesIn (final.sentBy jobId), move.put =
      ((JobRunner.byPlace (existing.map Published.parse)).get?
        (mirrorSet.publishPrefix, move.suite)).isSome := by
    intro move listed
    rcases underway with none | ⟨target, -, none | ⟨known, _, first, _, same, -, moved⟩⟩
    · rw [none] at listed
      cases listed
    · rw [none] at listed
      cases listed
    · rw [listings] at same
      cases same
      obtain ⟨suite, moves⟩ := Switch.moves_of_mem moved listed
      rw [moves.named]
      exact moves.put
  refine and_congr (forall₂_congr fun move listed => ?_) (forall₂_congr fun listing among => ?_)
  · rw [looked move listed]
    exact calls_right_iff (normal existing List.mem_cons_self)
  · exact forall₂_congr fun suite _ =>
      looks_right_iff (normal listing (List.mem_cons_of_mem _ among)) (distinct listing among)

namespace Sample

/-- The form of the small set, published to an endpoint of its own. -/
def endpoint : SetForm where
  name := "debian"
  archiveUrl := "http://deb.example.org/debian"
  suites := "stable"
  components := "main"
  architectures := "amd64"
  publishPrefix := "debian"
  keyrings := ""
  signingKey := ""
  filter := ""
  publishEndpoint := "prod"
  publicUrl := ""
  mirrorPattern := Pattern.suiteComponent.text

/-- The service with that set instead of the small one. -/
def elsewhere : World :=
  { holding with db := { holding.db with
      mirrorSets := (Table.empty : Table MirrorSet).insert (endpoint.mirrorSet true) } }

/-- What aptly lists under the same prefix of its default storage. -/
def listed (snapshot : String) : List Publication := [⟨"", "debian", "stable", [⟨"main", snapshot⟩]⟩]

end Sample

theorem not_switch_looks_up_what_it_writes : ¬ ∀ (self : JobRunner) (world final : World)
    (events : List Event) (rest : Program Unit) (jobId : Nat) (job : Job) (form : SetForm)
    (adopted : Bool) (mirrorSet : MirrorSet) (existing : List Publication)
    (later : List (List Publication)), mirrorSet = { form.mirrorSet adopted with id := mirrorSet.id } →
    world.db.jobs.get? jobId = some job → job.type = .switch → job.state = .queued →
    job.mirrorSetIn world.db = some mirrorSet → world.Untouched jobId →
    (∀ event ∈ events, event.cancels = false) →
    (self.runJob jobId).run semantics events world = some (rest, final) →
    listingsIn (final.sentBy jobId) = existing :: later →
    (∀ listing ∈ existing :: later, ∀ publication ∈ listing, Normal publication.barePrefix.toList) →
    (∀ listing ∈ later, ∀ first ∈ listing, ∀ second ∈ listing, first.place = second.place →
      first.distribution = second.distribution → first = second) →
    (∀ move ∈ movesIn (final.sentBy jobId), move.put = true ↔
        ∃ publication ∈ existing, mirrorSet.Addresses move.suite publication) ∧
      ∀ listing ∈ later, ∀ suite ∈ mirrorSet.suites,
        lastListed listing mirrorSet.publishPrefix suite =
          listing.find? fun publication => mirrorSet.Addresses suite publication := by
  intro claimed
  have runs : ((Sample.runner.runJob 1).run semantics
      (Sample.switched (Sample.listed "old-main") (Sample.listed "new-main"))
      (Sample.waiting .switch (some 1) Sample.elsewhere)).any (fun result =>
        decide (listingsIn (result.2.sentBy 1) = [Sample.listed "old-main", Sample.listed "new-main"]) &&
        (movesIn (result.2.sentBy 1)).any (fun move => move.put && decide (move.suite = "stable"))) =
      true := by
    decide +kernel
  obtain ⟨⟨_, final⟩, ran, runs⟩ := (Option.any_eq_true _ _).mp runs
  simp only [Bool.and_eq_true, List.any_eq_true, decide_eq_true_eq] at runs
  obtain ⟨listings, move, listed, put, suite⟩ := runs
  have untouched : (Sample.waiting .switch (some 1) Sample.elsewhere).Untouched 1 := by
    constructor <;> decide
  have distinct : ∀ listing ∈ [Sample.listed "new-main"], ∀ first ∈ listing, ∀ second ∈ listing,
      first.place = second.place → first.distribution = second.distribution → first = second := by
    decide
  obtain ⟨calls, -⟩ := claimed _ _ _ _ _ 1 (Sample.job 1 .switch (some 1)) Sample.endpoint true
    { Sample.endpoint.mirrorSet true with id := 1 } _ _ rfl rfl rfl rfl rfl untouched (by decide) ran
    listings (by decide) distinct
  obtain ⟨publication, among, addresses⟩ := (calls move listed).mp put
  obtain rfl := List.mem_singleton.mp among
  have storage := congrArg Place.storage addresses.1
  exact absurd storage (by decide +kernel)

/-- The default storage, and nothing published before. -/
theorem switch_looks_up_what_it_writes_iff_debian : ∃ final : World,
    (∃ move ∈ movesIn (final.sentBy 1), move.suite = "stable") ∧
    (∀ move ∈ movesIn (final.sentBy 1), move.put = true ↔
      ∃ publication ∈ ([] : List Publication), Sample.stored.Addresses move.suite publication) ∧
    lastListed (Sample.listed "new-main") "debian" "stable" =
      (Sample.listed "new-main").find? fun publication =>
        Sample.stored.Addresses "stable" publication := by
  have runs : ((Sample.runner.runJob 1).run semantics
      (Sample.switched [] (Sample.listed "new-main"))
      (Sample.waiting .switch (some 1) Sample.holding)).any (fun result =>
        decide (listingsIn (result.2.sentBy 1) = [[], Sample.listed "new-main"]) &&
        (movesIn (result.2.sentBy 1)).any (fun move => decide (move.suite = "stable"))) = true := by
    decide +kernel
  obtain ⟨⟨_, final⟩, ran, runs⟩ := (Option.any_eq_true _ _).mp runs
  simp only [Bool.and_eq_true, List.any_eq_true, decide_eq_true_eq] at runs
  obtain ⟨listings, published⟩ := runs
  have untouched : (Sample.waiting .switch (some 1) Sample.holding).Untouched 1 := by
    constructor <;> decide
  have stored : (Sample.waiting .switch (some 1) Sample.holding).db.jobs.get? 1 =
      some (Sample.job 1 .switch (some 1)) := rfl
  have described : (Sample.job 1 .switch (some 1)).mirrorSetIn
      (Sample.waiting .switch (some 1) Sample.holding).db = some Sample.stored := rfl
  have legible : Legible Sample.stored.publishPrefix.toList := by decide
  have right := (switch_looks_up_what_it_writes_iff stored rfl rfl described untouched (by decide) ran
    listings (by decide) (by decide)).mpr ⟨fun move _ => ?_, ?_⟩
  · exact ⟨final, published, right.1, right.2 _ (by simp) "stable" (by decide)⟩
  · rw [MirrorSet.CallsRight, if_pos legible]
    exact .inl rfl
  · intro listing among suite listed
    obtain rfl := List.mem_singleton.mp among
    obtain rfl : suite = "stable" := List.mem_singleton.mp listed
    rw [MirrorSet.LooksRight, if_pos legible]
    intro storage last
    cases last
    decide +kernel

end AptlyGui
