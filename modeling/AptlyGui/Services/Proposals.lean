import AptlyGui.Library.Grouping
import AptlyGui.Services.Adoption
import Mathlib.Data.List.Induction
import Mathlib.Data.Prod.Lex
import Mathlib.Data.String.Basic

/-!
# What is proposed

Every unmanaged mirror ends up in one proposal or among the leftovers, and a
proposal describes the mirrors it was made from.  Neither the order in which
aptly lists its mirrors nor that of its publications matters.
-/

namespace AptlyGui

theorem mem_sortedSet {values : List String} {value : String} :
    value ∈ sortedSet values ↔ value ∈ values := by
  simp [sortedSet, List.mem_insertionSort]

theorem sortedSet_nodup (values : List String) : (sortedSet values).Nodup :=
  (List.perm_insertionSort _ _).nodup_iff.mpr (List.nodup_dedup values)

theorem mem_membersOf {mirrors : List Mirror} {member : Member} :
    member ∈ membersOf mirrors ↔
      member.mirror ∈ mirrors ∧ splitMirrorName member.mirror none = some member.split := by
  simp only [membersOf, List.mem_filterMap, Option.map_eq_some_iff]
  constructor
  · rintro ⟨mirror, listed, split, found, rfl⟩
    exact ⟨listed, found⟩
  · rintro ⟨listed, found⟩
    exact ⟨member.mirror, listed, member.split, found, rfl⟩

/-- The keys of the groups, in order. -/
def groupKeys (members : List Member) : List GroupKey :=
  (members.map Member.key).dedup.insertionSort GroupKey.before

def groupOf (members : List Member) (key : GroupKey) : List Member :=
  members.filter fun member => member.key = key

theorem mem_groupKeys {members : List Member} {key : GroupKey} :
    key ∈ groupKeys members ↔ ∃ member ∈ members, member.key = key := by
  simp [groupKeys, List.mem_insertionSort]

theorem groupKeys_nodup (members : List Member) : (groupKeys members).Nodup :=
  (List.perm_insertionSort _ _).nodup_iff.mpr (List.nodup_dedup _)

theorem mem_groupOf {members : List Member} {key : GroupKey} {member : Member} :
    member ∈ groupOf members key ↔ member ∈ members ∧ member.key = key := by
  simp [groupOf]

/-- The mirror belongs to the proposal, with what its name says about it. -/
def Proposal.Holds (proposal : Proposal) (mirrors : List Mirror) (managed : List String)
    (member : Member) : Prop :=
  member ∈ membersOf (mirrors.filter fun mirror => mirror.name ∉ managed) ∧
    member.key = ⟨proposal.name, proposal.archiveUrl, proposal.pattern⟩

instance (proposal : Proposal) (mirrors : List Mirror) (managed : List String) (member : Member) :
    Decidable (proposal.Holds mirrors managed member) :=
  inferInstanceAs (Decidable (_ ∧ _))

section Group

variable {mirrors : List Mirror} {published : List Published} {managed : List String}
  {proposal : Proposal}

/-- A proposal is built from the members it holds. -/
theorem mem_proposals : proposal ∈ (proposeSets mirrors published managed).1 ↔
    ∃ key ∈ groupKeys (membersOf (mirrors.filter fun mirror => mirror.name ∉ managed)),
      proposal = buildProposal key
        (groupOf (membersOf (mirrors.filter fun mirror => mirror.name ∉ managed)) key)
        published := by
  simp only [proposeSets, groupKeys, groupOf, List.mem_map, eq_comm]

/-- The names that the page lists are those of the mirrors held. -/
theorem mem_mirrors_iff (proposed : proposal ∈ (proposeSets mirrors published managed).1)
    {name : String} : name ∈ proposal.mirrors ↔
      ∃ member, proposal.Holds mirrors managed member ∧ member.mirror.name = name := by
  obtain ⟨key, -, rfl⟩ := mem_proposals.mp proposed
  simp only [buildProposal, List.mem_insertionSort, List.mem_map, mem_groupOf, Proposal.Holds]

end Group

/-! ## The loop -/

/-- What the loop of `propose_sets` has sorted so far. -/
structure Sorting where
  grouped : Dict GroupKey (List Member)
  leftovers : List Mirror

/-- One turn of the loop. -/
def Sorting.take (managed : List String) (sorting : Sorting) (mirror : Mirror) : Sorting :=
  if mirror.name ∈ managed then sorting
  else
    match splitMirrorName mirror none with
    | none => { sorting with leftovers := sorting.leftovers ++ [mirror] }
    | some split =>
        { sorting with
          grouped := sorting.grouped.append ⟨split.setName, mirror.archiveUrl, split.pattern⟩
            ⟨mirror, split⟩ }

/-- The loop, and the list comprehension over the sorted groups after it. -/
def proposeByLoop (mirrors : List Mirror) (published : List Published) (managed : List String) :
    List Proposal × List Mirror :=
  let sorting := mirrors.foldl (Sorting.take managed) ⟨Dict.empty, []⟩
  let items := sorting.grouped.entries.insertionSort fun first second => first.1.before second.1
  (items.map fun item => buildProposal item.1 item.2 published, sorting.leftovers)

theorem Pattern.text_injective : Function.Injective Pattern.text := by
  intro first second same
  cases first <;> cases second <;> first | rfl | exact absurd same (by decide)

/-- The tuple that Python sorts by. -/
def GroupKey.tuple (key : GroupKey) : String ×ₗ String ×ₗ String :=
  toLex (key.setName, toLex (key.archiveUrl, key.pattern.text))

theorem GroupKey.tuple_injective : Function.Injective GroupKey.tuple := by
  rintro ⟨setName, archiveUrl, pattern⟩ ⟨other, archive, chosen⟩ same
  simp only [tuple, toLex_inj, Prod.mk.injEq] at same
  obtain ⟨rfl, rfl, text⟩ := same
  rw [Pattern.text_injective text]

theorem GroupKey.before_iff {first second : GroupKey} :
    first.before second ↔ first.tuple ≤ second.tuple := by
  simp only [before, tuple, Prod.Lex.toLex_le_toLex]

instance : Std.Total GroupKey.before where
  total first second := by
    simp only [GroupKey.before_iff]
    exact le_total first.tuple second.tuple

instance : IsTrans GroupKey GroupKey.before where
  trans first second third := by
    simp only [GroupKey.before_iff]
    exact le_trans

instance : Std.Antisymm GroupKey.before where
  antisymm first second := by
    simp only [GroupKey.before_iff]
    intro less more
    exact GroupKey.tuple_injective (le_antisymm less more)

theorem membersOf_append (first second : List Mirror) :
    membersOf (first ++ second) = membersOf first ++ membersOf second :=
  List.filterMap_append

/-- The loop's state, given the mirrors it has seen. -/
structure Sorting.Has (sorting : Sorting) (managed : List String) (seen : List Mirror) : Prop where
  groups : sorting.grouped.Groups Member.key
    (membersOf (seen.filter fun mirror => mirror.name ∉ managed))
  leftovers : sorting.leftovers = (seen.filter fun mirror => mirror.name ∉ managed).filter
    fun mirror => (splitMirrorName mirror none).isNone

theorem Sorting.Has.take {sorting : Sorting} {managed : List String} {seen : List Mirror}
    (has : sorting.Has managed seen) (mirror : Mirror) :
    (sorting.take managed mirror).Has managed (seen ++ [mirror]) := by
  obtain ⟨groups, leftovers⟩ := has
  unfold Sorting.take
  by_cases known : mirror.name ∈ managed
  · rw [if_pos known]
    refine ⟨?_, ?_⟩
    · simpa [List.filter_append, known] using groups
    · simpa [List.filter_append, known] using leftovers
  · rw [if_neg known]
    have grown : (seen ++ [mirror]).filter (fun mirror => mirror.name ∉ managed) =
        (seen.filter fun mirror => mirror.name ∉ managed) ++ [mirror] := by
      simp [List.filter_append, known]
    cases split : splitMirrorName mirror none with
    | none =>
        refine ⟨?_, ?_⟩
        · rw [grown, membersOf_append]
          simpa [membersOf, split] using groups
        · rw [grown, List.filter_append, ← leftovers]
          simp [split]
    | some split' =>
        refine ⟨?_, ?_⟩
        · have member : membersOf [mirror] = [⟨mirror, split'⟩] := by simp [membersOf, split]
          rw [grown, membersOf_append, member]
          exact groups.append ⟨mirror, split'⟩
        · rw [grown, List.filter_append, ← leftovers]
          simp [split]

theorem Sorting.has_foldl (managed : List String) (mirrors : List Mirror) :
    (mirrors.foldl (Sorting.take managed) ⟨Dict.empty, []⟩).Has managed mirrors := by
  induction mirrors using List.reverseRecOn with
  | nil => exact ⟨Dict.groups_empty Member.key, rfl⟩
  | append_singleton seen mirror inductionHypothesis =>
      rw [List.foldl_append, List.foldl_cons, List.foldl_nil]
      exact inductionHypothesis.take mirror

/-- The loop over the mirrors comes to the same as choosing each group by its key. -/
theorem proposeByLoop_eq (mirrors : List Mirror) (published : List Published)
    (managed : List String) :
    proposeByLoop mirrors published managed = proposeSets mirrors published managed := by
  obtain ⟨groups, leftovers⟩ := Sorting.has_foldl managed mirrors
  unfold proposeByLoop proposeSets
  dsimp only
  rw [leftovers]
  generalize membersOf (mirrors.filter fun mirror => mirror.name ∉ managed) = members at groups ⊢
  generalize (mirrors.foldl (Sorting.take managed) ⟨Dict.empty, []⟩).grouped = grouped at groups ⊢
  have sorted := List.insertionSort_entries (r := GroupKey.before) groups.entries_perm
  rw [sorted, List.map_map]
  rfl

/-! ## Nothing lost, nothing invented -/

/-- The proposal describes this group of mirrors. -/
structure Proposal.Describes (proposal : Proposal) (group : List Mirror) : Prop where
  mirrors : proposal.mirrors.Perm (group.map Mirror.name)
  fields : ∀ mirror ∈ group, mirror.archiveUrl = proposal.archiveUrl ∧
    mirror.distribution ∈ proposal.suites ∧
    ∃ component ∈ proposal.components, mirror.components = [component] ∧
      mirror.name = proposal.pattern.format proposal.name mirror.distribution component
  suites : ∀ suite ∈ proposal.suites, ∃ mirror ∈ group, mirror.distribution = suite
  components : ∀ component ∈ proposal.components, ∃ mirror ∈ group, mirror.components = [component]

section Partition

variable {mirrors : List Mirror} {members : List Member} {published : List Published}
  {managed : List String} {key : GroupKey}

theorem map_mirror_membersOf (mirrors : List Mirror) : (membersOf mirrors).map Member.mirror =
    mirrors.filter fun mirror => (splitMirrorName mirror none).isSome := by
  rw [membersOf, List.map_filterMap, ← List.filterMap_eq_filter]
  apply List.filterMap_congr
  intro mirror _
  cases split : splitMirrorName mirror none <;> simp [Option.guard, split]

/-- The mirrors that fit a convention and the others are all of them. -/
theorem membersOf_partition (mirrors : List Mirror) :
    ((membersOf mirrors).map Member.mirror ++
      mirrors.filter fun mirror => (splitMirrorName mirror none).isNone).Perm mirrors := by
  have others : (mirrors.filter fun mirror => (splitMirrorName mirror none).isNone) =
      mirrors.filter fun mirror => !(splitMirrorName mirror none).isSome := by
    apply List.filter_congr
    intro mirror _
    cases splitMirrorName mirror none <;> rfl
  rw [map_mirror_membersOf, others]
  exact List.filter_append_perm _ mirrors

theorem groups_perm (members : List Member) :
    ((groupKeys members).flatMap (groupOf members)).Perm members := by
  have grouped := List.flatMap_filter_perm Member.key (groupKeys_nodup members) members
  have every : (members.filter fun member => member.key ∈ groupKeys members) = members := by
    apply List.filter_eq_self.mpr
    intro member listed
    exact decide_eq_true (mem_groupKeys.mpr ⟨member, listed, rfl⟩)
  rwa [every] at grouped

theorem describes_group (found : ∀ member ∈ members,
      splitMirrorName member.mirror none = some member.split) :
    (buildProposal key (groupOf members key) published).Describes
      ((groupOf members key).map Member.mirror) := by
  refine ⟨?_, ?_, ?_, ?_⟩
  · rw [List.map_map]
    exact List.perm_insertionSort _ _
  · intro mirror listed
    obtain ⟨member, among, rfl⟩ := List.mem_map.mp listed
    obtain ⟨present, rfl⟩ := mem_groupOf.mp among
    obtain ⟨suite, components⟩ := fields_of_splitMirrorName (found member present)
    refine ⟨rfl, ?_, member.split.component, ?_, components, ?_⟩
    · exact mem_sortedSet.mpr (List.mem_map.mpr ⟨member, among, suite⟩)
    · exact mem_sortedSet.mpr (List.mem_map_of_mem among)
    · rw [← suite]
      exact (format_splitMirrorName (found member present)).symm
  · intro suite listed
    obtain ⟨member, among, rfl⟩ := List.mem_map.mp (mem_sortedSet.mp listed)
    obtain ⟨present, -⟩ := mem_groupOf.mp among
    exact ⟨member.mirror, List.mem_map_of_mem among,
      (fields_of_splitMirrorName (found member present)).1.symm⟩
  · intro component listed
    obtain ⟨member, among, rfl⟩ := List.mem_map.mp (mem_sortedSet.mp listed)
    obtain ⟨present, -⟩ := mem_groupOf.mp among
    exact ⟨member.mirror, List.mem_map_of_mem among,
      (fields_of_splitMirrorName (found member present)).2⟩

theorem names_perm_of_describes {proposals : List Proposal} {groups : List (List Mirror)}
    (described : List.Forall₂ Proposal.Describes proposals groups) :
    (proposals.flatMap Proposal.mirrors).Perm (groups.flatten.map Mirror.name) := by
  induction described with
  | nil => simp
  | cons describes _ inductionHypothesis =>
      rw [List.flatMap_cons, List.flatten_cons, List.map_append]
      exact describes.mirrors.append inductionHypothesis

end Partition

/-- Every unmanaged mirror is in one proposal or among the leftovers, as often as aptly lists it,
and every proposal describes what it is made of. -/
theorem proposals_partition (mirrors : List Mirror) (published : List Published)
    (managed : List String) :
    let proposals := (proposeSets mirrors published managed).1
    let leftovers := (proposeSets mirrors published managed).2
    let unmanaged := mirrors.filter fun mirror => mirror.name ∉ managed
    (proposals.flatMap Proposal.mirrors ++ leftovers.map Mirror.name).Perm
        (unmanaged.map Mirror.name) ∧
      (∃ groups : List (List Mirror), List.Forall₂ Proposal.Describes proposals groups ∧
        (groups.flatten ++ leftovers).Perm unmanaged) ∧
      (proposals.map fun proposal =>
        (proposal.name, proposal.archiveUrl, proposal.pattern)).Nodup := by
  intro proposals leftovers unmanaged
  let members := membersOf unmanaged
  let groups := (groupKeys members).map fun key => (groupOf members key).map Member.mirror
  have built : proposals = (groupKeys members).map fun key =>
      buildProposal key (groupOf members key) published := rfl
  have described : List.Forall₂ Proposal.Describes proposals groups := by
    rw [built, List.forall₂_map_left_iff, List.forall₂_map_right_iff, List.forall₂_same]
    intro key _
    apply describes_group
    intro member listed
    exact (mem_membersOf.mp listed).2
  have all : (groups.flatten ++ leftovers).Perm unmanaged := by
    refine List.Perm.trans (List.Perm.append_right _ ?_) (membersOf_partition unmanaged)
    have flat : groups.flatten = ((groupKeys members).flatMap (groupOf members)).map Member.mirror := by
      rw [List.map_flatMap]
      rfl
    rw [flat]
    exact (groups_perm members).map _
  refine ⟨?_, ⟨groups, described, all⟩, ?_⟩
  · have names := (names_perm_of_describes described).append_right (leftovers.map Mirror.name)
    rw [← List.map_append] at names
    exact names.trans (all.map Mirror.name)
  · rw [built, List.map_map]
    apply (groupKeys_nodup members).map
    rintro ⟨setName, archiveUrl, pattern⟩ ⟨other, archive, chosen⟩ same
    simp only [Function.comp_apply, buildProposal, Prod.mk.injEq] at same
    obtain ⟨rfl, rfl, rfl⟩ := same
    rfl

/-! ## The order of the listing -/

theorem sortedSet_eq_of_perm {first second : List String} (same : first.Perm second) :
    sortedSet first = sortedSet second :=
  same.dedup.insertionSort_eq

/-- Two listings have the same only entry, or neither has just one. -/
theorem single_or_not_of_perm {α : Type} {first second : List α} (same : first.Perm second) :
    (∃ single, first = [single] ∧ second = [single]) ∨
      (∀ single, first ≠ [single]) ∧ ∀ single, second ≠ [single] := by
  by_cases single : ∃ single, first = [single]
  · obtain ⟨single, rfl⟩ := single
    exact .inl ⟨single, rfl, (List.singleton_perm.mp same).symm⟩
  · refine .inr ⟨fun value only => single ⟨value, only⟩, fun value only => single ⟨value, ?_⟩⟩
    subst only
    exact List.perm_singleton.mp same

theorem guessPrefix_eq_of_perm {suites components : List String} {first second : List Published}
    (same : first.Perm second) :
    guessPrefix suites components first = guessPrefix suites components second := by
  have candidates := ((same.filter fun item => item.distribution ∈ suites ∧
    ∃ source ∈ item.sources, source.component ∈ components).map Published.barePrefix).dedup
  unfold guessPrefix
  dsimp only
  rcases single_or_not_of_perm candidates with ⟨single, one, other⟩ | ⟨one, other⟩
  · rw [one, other]
  · split
    · rename_i single only
      exact absurd only (one single)
    · rfl

theorem buildProposal_eq_of_perm {key : GroupKey} {first second : List Member}
    {published listed : List Published} (same : first.Perm second) (also : published.Perm listed) :
    buildProposal key first published = buildProposal key second listed := by
  have filters := (same.map fun member => member.mirror.filter).dedup
  have mirrors := (same.map fun member => member.mirror.name).insertionSort_eq (r := (· ≤ ·))
  have suites := sortedSet_eq_of_perm (same.map fun member => member.split.suite)
  have components := sortedSet_eq_of_perm (same.map fun member => member.split.component)
  have architectures := sortedSet_eq_of_perm
    (same.flatMap_right fun member => member.mirror.architectures)
  simp only [buildProposal, mirrors, suites, components, architectures, filters.length_eq,
    guessPrefix_eq_of_perm also]
  congr 1
  rcases single_or_not_of_perm filters with ⟨single, one, other⟩ | ⟨one, other⟩
  · rw [one, other]
  · split
    · rename_i single only
      exact absurd only (one single)
    · rfl

/-- What is proposed does not depend on the order in which aptly lists mirrors or publications. -/
theorem proposals_order_free {mirrors listed : List Mirror} {published also : List Published}
    (managed : List String) (same : mirrors.Perm listed) (publications : published.Perm also) :
    (proposeSets mirrors published managed).1 = (proposeSets listed also managed).1 ∧
      (proposeSets mirrors published managed).2.Perm (proposeSets listed also managed).2 := by
  have unmanaged := same.filter fun mirror => mirror.name ∉ managed
  have members : (membersOf (mirrors.filter fun mirror => mirror.name ∉ managed)).Perm
      (membersOf (listed.filter fun mirror => mirror.name ∉ managed)) :=
    unmanaged.filterMap _
  have keys := (members.map Member.key).dedup.insertionSort_eq (r := GroupKey.before)
  constructor
  · simp only [proposeSets, keys]
    apply List.map_congr_left
    intro key _
    exact buildProposal_eq_of_perm (members.filter _) publications
  · exact unmanaged.filter _

theorem proposals_order_free_swapped :
    (proposeSets [⟨"x-a-main", "u", "a", ["main"], [], some "nginx"⟩,
        ⟨"other", "u", "b", [], [], none⟩, ⟨"x-b-main", "u", "b", ["main"], ["amd64"], none⟩]
        [⟨"p", "a", [⟨"main", "s"⟩]⟩, ⟨"q", "b", [⟨"main", "t"⟩]⟩] []).1 =
      (proposeSets [⟨"x-b-main", "u", "b", ["main"], ["amd64"], none⟩,
        ⟨"other", "u", "b", [], [], none⟩, ⟨"x-a-main", "u", "a", ["main"], [], some "nginx"⟩]
        [⟨"q", "b", [⟨"main", "t"⟩]⟩, ⟨"p", "a", [⟨"main", "s"⟩]⟩] []).1 :=
  (proposals_order_free [] (by decide) (by decide)).1

/-! ## Complete -/

namespace Proposal

variable {proposal : Proposal}

/-- Whether every suite x component combination actually exists as a mirror. -/
def complete (proposal : Proposal) : Bool :=
  proposal.mirrors.length = proposal.suites.length * proposal.components.length

def combinations (proposal : Proposal) : List (String × String) :=
  proposal.suites.flatMap fun suite => proposal.components.map fun component => (suite, component)

def nameFor (proposal : Proposal) (combination : String × String) : String :=
  proposal.pattern.format proposal.name combination.1 combination.2

/-- `sorted(expected - set(self.mirrors))` -/
def missing (proposal : Proposal) : List String :=
  sortedSet ((proposal.combinations.map proposal.nameFor).filter fun name =>
    name ∉ proposal.mirrors)

/-- No two combinations make one name. -/
def Apart (proposal : Proposal) : Prop :=
  ∀ first ∈ proposal.combinations, ∀ second ∈ proposal.combinations,
    proposal.nameFor first = proposal.nameFor second → first = second

theorem mem_missing {name : String} : name ∈ proposal.missing ↔
    name ∈ proposal.combinations.map proposal.nameFor ∧ name ∉ proposal.mirrors := by
  simp only [missing, mem_sortedSet, List.mem_filter, decide_not, Bool.not_eq_true',
    decide_eq_false_iff_not]

theorem missing_eq_nil_iff : proposal.missing = [] ↔
    proposal.combinations.map proposal.nameFor ⊆ proposal.mirrors := by
  rw [List.eq_nil_iff_forall_not_mem]
  constructor
  · intro none name expected
    by_contra absent
    exact none name (mem_missing.mpr ⟨expected, absent⟩)
  · intro every name listed
    obtain ⟨expected, absent⟩ := mem_missing.mp listed
    exact absent (every expected)

theorem length_combinations (proposal : Proposal) :
    proposal.combinations.length = proposal.suites.length * proposal.components.length := by
  simp [combinations, List.length_flatMap]

section Proposed

variable {mirrors : List Mirror} {published : List Published} {managed : List String}
  (proposed : proposal ∈ (proposeSets mirrors published managed).1)

include proposed

theorem combinations_nodup : proposal.combinations.Nodup := by
  obtain ⟨key, -, rfl⟩ := mem_proposals.mp proposed
  exact List.Nodup.product (sortedSet_nodup _) (sortedSet_nodup _)

theorem apart_iff : proposal.Apart ↔ (proposal.combinations.map proposal.nameFor).Nodup := by
  rw [List.nodup_map_iff_inj_on (combinations_nodup proposed)]
  rfl

/-- The mirrors of a proposal are among those it expects. -/
theorem mirrors_subset : proposal.mirrors ⊆ proposal.combinations.map proposal.nameFor := by
  intro name listed
  obtain ⟨member, ⟨among, same⟩, rfl⟩ := (mem_mirrors_iff proposed).mp listed
  obtain ⟨key, -, rfl⟩ := mem_proposals.mp proposed
  obtain rfl : member.key = key := same
  have grouped := mem_groupOf.mpr ⟨among, rfl⟩
  refine List.mem_map.mpr ⟨(member.split.suite, member.split.component), ?_, ?_⟩
  · refine List.mem_flatMap.mpr ⟨_, mem_sortedSet.mpr (List.mem_map_of_mem grouped), ?_⟩
    exact List.mem_map_of_mem (mem_sortedSet.mpr (List.mem_map_of_mem grouped))
  · exact format_splitMirrorName (mem_membersOf.mp among).2

theorem mirrors_nodup (distinct : (mirrors.map Mirror.name).Nodup) : proposal.mirrors.Nodup := by
  obtain ⟨key, -, rfl⟩ := mem_proposals.mp proposed
  refine (List.perm_insertionSort _ _).nodup_iff.mpr ?_
  have grouped : ((groupOf (membersOf (mirrors.filter fun mirror => mirror.name ∉ managed)) key).map
      fun member => member.mirror.name).Sublist
        (((membersOf (mirrors.filter fun mirror => mirror.name ∉ managed)).map Member.mirror).map
          Mirror.name) := by
    rw [List.map_map]
    exact List.filter_sublist.map _
  rw [map_mirror_membersOf] at grouped
  refine distinct.sublist (grouped.trans (List.Sublist.map Mirror.name ?_))
  exact List.filter_sublist.trans List.filter_sublist

/-- The count is right when nothing is missing and the names are apart, and only then. -/
theorem complete_iff (distinct : (mirrors.map Mirror.name).Nodup) :
    proposal.complete = true ↔ proposal.missing = [] ∧ proposal.Apart := by
  have counted : (proposal.combinations.map proposal.nameFor).length =
      proposal.combinations.length := List.length_map _
  rw [complete, decide_eq_true_eq, ← length_combinations, ← counted,
    List.length_eq_iff_of_subset (mirrors_nodup proposed distinct) (mirrors_subset proposed),
    missing_eq_nil_iff, apart_iff proposed]

end Proposed

end Proposal

/-- `complete` counts mirrors and `missing` compares names.  They differ exactly when every name
is there and two combinations share one. -/
theorem complete_iff_nothing_missing_iff {mirrors : List Mirror} {published : List Published}
    {managed : List String} {proposal : Proposal} (distinct : (mirrors.map Mirror.name).Nodup)
    (proposed : proposal ∈ (proposeSets mirrors published managed).1) :
    ((proposal.complete = true ↔ proposal.missing = []) ∧
        ∀ name, name ∈ proposal.missing ↔
          name ∈ proposal.combinations.map proposal.nameFor ∧ name ∉ proposal.mirrors) ↔
      proposal.Apart ∨
        ∃ combination ∈ proposal.combinations, proposal.nameFor combination ∉ proposal.mirrors := by
  have lacking : (∃ combination ∈ proposal.combinations,
      proposal.nameFor combination ∉ proposal.mirrors) ↔ proposal.missing ≠ [] := by
    simp [Proposal.missing_eq_nil_iff, List.subset_def]
  rw [and_iff_left fun _ => Proposal.mem_missing, Proposal.complete_iff proposed distinct, lacking]
  tauto

/-- Two suites and two components of which one pair of combinations shares a name. -/
def Sample.shared : List Mirror :=
  [⟨"s-a-b-c", "http://archive.example.org", "a", ["b-c"], ["amd64"], none⟩,
    ⟨"s-a-c", "http://archive.example.org", "a", ["c"], ["amd64"], none⟩,
    ⟨"s-a-b-b-c", "http://archive.example.org", "a-b", ["b-c"], ["amd64"], none⟩]

/-- Nothing is missing of it, but it is not called complete. -/
theorem not_complete_iff_nothing_missing : ¬ ∀ (mirrors : List Mirror) (published : List Published)
    (managed : List String), ∀ proposal ∈ (proposeSets mirrors published managed).1,
      (mirrors.map Mirror.name).Nodup → (proposal.complete = true ↔ proposal.missing = []) := by
  intro agree
  have all : ∀ proposal ∈ (proposeSets Sample.shared [] []).1,
      (proposal.complete = true ↔ proposal.missing = []) :=
    fun proposal proposed => agree _ _ _ proposal proposed (by decide +kernel)
  exact absurd all (by decide +kernel)

/-- Two suites and two components, all four names apart. -/
def Sample.grid : List Mirror :=
  [⟨"s-a-main", "http://archive.example.org", "a", ["main"], ["amd64"], none⟩,
    ⟨"s-a-contrib", "http://archive.example.org", "a", ["contrib"], ["amd64"], none⟩,
    ⟨"s-a-b-main", "http://archive.example.org", "a-b", ["main"], ["amd64"], none⟩,
    ⟨"s-a-b-contrib", "http://archive.example.org", "a-b", ["contrib"], ["amd64"], none⟩]

/-- With all four mirrors the proposal is complete; without the last one that one is missing. -/
theorem complete_iff_nothing_missing_iff_grid :
    ((proposeSets Sample.grid [] []).1 ≠ [] ∧
      ∀ proposal ∈ (proposeSets Sample.grid [] []).1, proposal.combinations.length = 4 ∧
        proposal.complete = true ∧ proposal.missing = []) ∧
    (proposeSets Sample.grid.dropLast [] []).1 ≠ [] ∧
      ∀ proposal ∈ (proposeSets Sample.grid.dropLast [] []).1,
        "s-a-b-contrib" ∈ proposal.missing ∧ proposal.complete ≠ true := by
  refine ⟨⟨by decide +kernel, fun proposal proposed => ?_⟩, by decide +kernel,
    fun proposal proposed => ?_⟩
  · have whole : ∀ proposal ∈ (proposeSets Sample.grid [] []).1,
        proposal.combinations.length = 4 ∧ proposal.complete = true ∧
          ∀ first ∈ proposal.combinations, ∀ second ∈ proposal.combinations,
            proposal.nameFor first = proposal.nameFor second → first = second := by
      decide +kernel
    obtain ⟨four, complete, apart⟩ := whole proposal proposed
    have agrees := (complete_iff_nothing_missing_iff (by decide) proposed).mpr (.inl apart)
    exact ⟨four, complete, agrees.1.mp complete⟩
  · have lacks : ∀ proposal ∈ (proposeSets Sample.grid.dropLast [] []).1,
        ∃ combination ∈ proposal.combinations,
          proposal.nameFor combination = "s-a-b-contrib" ∧
            proposal.nameFor combination ∉ proposal.mirrors := by
      decide +kernel
    obtain ⟨combination, listed, named, absent⟩ := lacks proposal proposed
    obtain ⟨agrees, missing⟩ :=
      (complete_iff_nothing_missing_iff (by decide) proposed).mpr (.inr ⟨combination, listed, absent⟩)
    have gone : "s-a-b-contrib" ∈ proposal.missing := by
      rw [missing, ← named]
      exact ⟨List.mem_map_of_mem listed, absent⟩
    refine ⟨gone, fun complete => ?_⟩
    rw [agrees.mp complete] at gone
    cases gone

end AptlyGui
