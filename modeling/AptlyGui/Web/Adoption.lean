import AptlyGui.Services.Proposals
import AptlyGui.Web.Fields
import AptlyGui.Web.Frame
import Mathlib.Data.List.Induction
import Mathlib.Data.String.Basic

/-!
# Adopting what is proposed

The adopt page renders one form for each proposal, with lists joined by commas,
and `adopt_submit` splits them again.  Adoption converges exactly when the
names that a proposal is made from survive this, and no two proposals have one
name.
-/

namespace AptlyGui

/-! ## The form of a proposal -/

/-- The visible fields of the adopt form. -/
structure FreeFields where
  publishPrefix : String
  publishEndpoint : String
  publicUrl : String
  keyrings : String
  signingKey : String
  deriving DecidableEq, Repr

/-- `adopt.html`: the hidden fields are the proposal's. -/
def Proposal.form (proposal : Proposal) (free : FreeFields) : SetForm where
  name := proposal.name
  archiveUrl := proposal.archiveUrl
  suites := ",".intercalate proposal.suites
  components := ",".intercalate proposal.components
  architectures := ",".intercalate proposal.architectures
  publishPrefix := free.publishPrefix
  keyrings := free.keyrings
  signingKey := free.signingKey
  filter := proposal.filter.getD ""
  publishEndpoint := free.publishEndpoint
  publicUrl := free.publicUrl
  mirrorPattern := proposal.pattern.text

/-- `Form(...)`: FastAPI answers 422 when a required field is empty. -/
def SetForm.filled (form : SetForm) : Bool :=
  [form.name, form.archiveUrl, form.suites, form.components, form.architectures,
    form.publishPrefix].all fun value => decide (value ≠ "")

/-- `adopt_submit` accepts the form and stores the set. -/
def World.Adopts (world : World) (form : SetForm) (after : World) : Prop :=
  form.filled = true ∧ ∃ response,
    (adoptSubmit form).run semantics [.proceed] world = some (.done response, after)

/-- One form after another. -/
inductive World.AdoptsEach : World → List SetForm → World → Prop where
  | nil {world : World} : AdoptsEach world [] world
  | cons {world middle after : World} {form : SetForm} {rest : List SetForm} :
      world.Adopts form middle → AdoptsEach middle rest after → AdoptsEach world (form :: rest) after

/-- The mirror sets by name, as `_load_sets` reads them. -/
def World.sets (world : World) : List MirrorSet := world.loadSets.map Prod.fst

/-- Every proposal is stored, none is left, and each mirror is managed by the set it was proposed
for. -/
def Converges (world : World) (mirrors : List Mirror) (published : List Published)
    (free : Proposal → FreeFields) : Prop :=
  ∃ after, world.AdoptsEach
      ((proposeSets mirrors published []).1.map fun proposal => proposal.form (free proposal)) after ∧
    (proposeSets mirrors published (managedMap after.sets).keys).1 = [] ∧
    ∀ proposal ∈ (proposeSets mirrors published []).1, ∀ name ∈ proposal.mirrors,
      (managedMap after.sets).get? name = some proposal.name

/-! ## Joined fields -/

theorem intercalate_ne_empty {parts : List String} {part : String} (listed : part ∈ parts)
    (some : part ≠ "") : ",".intercalate parts ≠ "" := by
  induction parts with
  | nil => cases listed
  | cons first rest inductionHypothesis =>
      cases rest with
      | nil =>
          obtain rfl := List.mem_singleton.mp listed
          simpa using some
      | cons other rest =>
          rw [String.intercalate_cons_of_ne_nil (by simp)]
          intro empty
          have chars := congrArg String.toList empty
          simp at chars

theorem exists_ne_of_intercalate {parts : List String} (distinct : parts.Nodup)
    (joined : ",".intercalate parts ≠ "") : ∃ part ∈ parts, part ≠ "" := by
  by_contra none
  push Not at none
  have empty : parts = [] ∨ parts = [""] := by
    rcases parts with _ | ⟨first, _ | ⟨second, rest⟩⟩
    · exact .inl rfl
    · exact .inr (by rw [none first (by simp)])
    · have same := (none first (by simp)).trans (none second (by simp)).symm
      simp [same] at distinct
  rcases empty with rfl | rfl
  · exact joined (by simp)
  · exact joined (by simp)

/-! ## Proposals -/

theorem proposals_eq (mirrors : List Mirror) (published : List Published) :
    (proposeSets mirrors published []).1 = (groupKeys (membersOf mirrors)).map fun key =>
      buildProposal key (groupOf (membersOf mirrors) key) published := by
  simp [proposeSets, groupKeys, groupOf]

/-- There is nothing to propose once every mirror that fits a convention is managed. -/
theorem proposals_eq_nil_iff {mirrors : List Mirror} {published : List Published}
    {managed : List String} : (proposeSets mirrors published managed).1 = [] ↔
      ∀ member ∈ membersOf mirrors, member.mirror.name ∈ managed := by
  have keys : (proposeSets mirrors published managed).1 = [] ↔
      groupKeys (membersOf (mirrors.filter fun mirror => mirror.name ∉ managed)) = [] := by
    simp [proposeSets, groupKeys]
  rw [keys, List.eq_nil_iff_forall_not_mem]
  constructor
  · intro none member listed
    by_contra unmanaged
    obtain ⟨among, found⟩ := mem_membersOf.mp listed
    refine none member.key (mem_groupKeys.mpr ⟨member, mem_membersOf.mpr ⟨?_, found⟩, rfl⟩)
    exact List.mem_filter.mpr ⟨among, by simpa using unmanaged⟩
  · intro every key listed
    obtain ⟨member, among, -⟩ := mem_groupKeys.mp listed
    obtain ⟨kept, found⟩ := mem_membersOf.mp among
    obtain ⟨present, unmanaged⟩ := List.mem_filter.mp kept
    exact absurd (every member (mem_membersOf.mpr ⟨present, found⟩)) (by simpa using unmanaged)

section Forms

variable {members : List Member} {key : GroupKey} {published : List Published} {free : FreeFields}

theorem validPattern_text (pattern : Pattern) : validPattern pattern.text = pattern := by
  cases pattern <;> decide

/-- What the set adopted from a proposal expects. -/
theorem mem_expected_of_form {name : String} :
    name ∈ (((buildProposal key (groupOf members key) published).form free).mirrorSet
      true).expectedMirrors ↔
      ∃ first ∈ members, first.key = key ∧ ∃ second ∈ members, second.key = key ∧
        ∃ suite ∈ splitField first.split.suite, ∃ component ∈ splitField second.split.component,
          key.pattern.format key.setName suite component = name := by
  rw [MirrorSet.mem_expectedMirrors]
  simp only [SetForm.mirrorSet, Proposal.form, buildProposal, separates_comma.splitField_intercalate,
    MirrorSet.mirrorName, validPattern_text, List.mem_flatMap, mem_sortedSet, List.mem_map,
    mem_groupOf]
  constructor
  · rintro ⟨suite, ⟨_, ⟨first, ⟨among, same⟩, rfl⟩, piece⟩, component,
      ⟨_, ⟨second, ⟨also, too⟩, rfl⟩, other⟩, named⟩
    exact ⟨first, among, same, second, also, too, suite, piece, component, other, named⟩
  · rintro ⟨first, among, same, second, also, too, suite, piece, component, other, named⟩
    exact ⟨suite, ⟨_, ⟨first, ⟨among, same⟩, rfl⟩, piece⟩, component,
      ⟨_, ⟨second, ⟨also, too⟩, rfl⟩, other⟩, named⟩

/-- A field joined from the members' own values is empty only when all of them are. -/
theorem joined_ne_empty_iff {values : List String} :
    ",".intercalate (sortedSet values) ≠ "" ↔ ∃ value ∈ values, value ≠ "" := by
  constructor
  · intro joined
    obtain ⟨value, listed, some⟩ := exists_ne_of_intercalate (sortedSet_nodup values) joined
    exact ⟨value, mem_sortedSet.mp listed, some⟩
  · rintro ⟨value, listed, some⟩
    exact intercalate_ne_empty (mem_sortedSet.mpr listed) some

theorem filled_iff (typed : free.publishPrefix ≠ "") :
    ((buildProposal key (groupOf members key) published).form free).filled = true ↔
      key.setName ≠ "" ∧ key.archiveUrl ≠ "" ∧
        (∃ member ∈ members, member.key = key ∧ member.split.suite ≠ "") ∧
        (∃ member ∈ members, member.key = key ∧ member.split.component ≠ "") ∧
        ∃ member ∈ members, member.key = key ∧ ∃ arch ∈ member.mirror.architectures, arch ≠ "" := by
  simp only [SetForm.filled, Proposal.form, buildProposal, List.all_cons, List.all_nil,
    Bool.and_eq_true, decide_eq_true_eq, joined_ne_empty_iff, typed, ne_eq, not_false_eq_true,
    and_true, List.mem_map, List.mem_flatMap, mem_groupOf]
  constructor
  · rintro ⟨named, archived, ⟨_, ⟨first, ⟨among, same⟩, rfl⟩, suite⟩,
      ⟨_, ⟨second, ⟨also, too⟩, rfl⟩, component⟩, arch, ⟨third, ⟨present, equal⟩, listed⟩, some⟩
    exact ⟨named, archived, ⟨first, among, same, suite⟩, ⟨second, also, too, component⟩,
      third, present, equal, arch, listed, some⟩
  · rintro ⟨named, archived, ⟨first, among, same, suite⟩, ⟨second, also, too, component⟩,
      third, present, equal, arch, listed, some⟩
    exact ⟨named, archived, ⟨_, ⟨first, ⟨among, same⟩, rfl⟩, suite⟩,
      ⟨_, ⟨second, ⟨also, too⟩, rfl⟩, component⟩, arch, ⟨third, ⟨present, equal⟩, listed⟩, some⟩

end Forms

/-! ## Storing -/

/-- What the other results look at of a set: its name and the mirrors it expects. -/
def MirrorSet.entry (mirrorSet : MirrorSet) : String × List String :=
  (mirrorSet.name, mirrorSet.expectedMirrors)

def World.entries (world : World) : List (String × List String) :=
  world.db.mirrorSets.rows.map MirrorSet.entry

/-- The world once the form's set is stored. -/
def World.adopted (world : World) (form : SetForm) : World :=
  { world with db := { world.db with
      mirrorSets := world.db.mirrorSets.insert (form.mirrorSet true)
      audit := world.db.audit ++ [{ action := "set.adopt", target := form.name }] } }

@[simp]
theorem World.entries_adopted (world : World) (form : SetForm) :
    (world.adopted form).entries = world.entries ++ [(form.mirrorSet true).entry] := by
  simp only [entries, adopted, Table.insert, List.map_append, List.map_cons, List.map_nil]
  rfl

def SetForm.adoption (form : SetForm) : List Write :=
  [.addMirrorSet (form.mirrorSet true), .addAudit { action := "set.adopt", target := form.name }]

def World.Named (world : World) (form : SetForm) : Prop :=
  ∃ other ∈ world.db.mirrorSets.rows, other.name = (form.mirrorSet true).name

theorem World.commit_adoption_taken {world : World} {form : SetForm} (taken : world.Named form) :
    semantics.perform (.commit .request form.adoption) .proceed world =
      some (.error .integrityError, world) := by
  have stored : world.db.commit world.clock form.adoption = .error .integrityError := by
    unfold Named at taken
    simp only [Database.commit, SetForm.adoption, Database.writeAll, Database.write, if_pos taken]
  change world.commit .request form.adoption .proceed = _
  simp only [World.commit, World.broken, stored, World.breakSession, if_neg Bool.false_ne_true]
  rfl

theorem World.commit_adoption_fresh {world : World} {form : SetForm} (fresh : ¬ world.Named form) :
    semantics.perform (.commit .request form.adoption) .proceed world =
      some (.ok { mirrorSet := world.db.mirrorSets.nextId }, world.adopted form) := by
  have stored : world.db.commit world.clock form.adoption =
      .ok ((world.adopted form).db, { mirrorSet := world.db.mirrorSets.nextId }) := by
    unfold Named at fresh
    simp only [Database.commit, SetForm.adoption, Database.writeAll, Database.write, if_neg fresh]
    rfl
  change world.commit .request form.adoption .proceed = _
  simp only [World.commit, World.broken, stored, if_neg Bool.false_ne_true]
  rfl

/-- A form is stored when it is filled in and no stored set has its name. -/
theorem World.adopts_iff {world after : World} {form : SetForm} : world.Adopts form after ↔
    form.filled = true ∧ form.name ∉ world.entries.map Prod.fst ∧ after = world.adopted form := by
  have named : form.name ∈ world.entries.map Prod.fst ↔ world.Named form := by
    simp [World.entries, MirrorSet.entry, SetForm.mirrorSet, World.Named]
  rw [named]
  apply and_congr_right
  intro _
  by_cases taken : world.Named form
  · have refused : (adoptSubmit form).run semantics [.proceed] world =
        some (.raised .integrityError, world) :=
      Coroutine.run_perform_error (world.commit_adoption_taken taken)
    simp [refused, taken]
  · have accepted : (adoptSubmit form).run semantics [.proceed] world =
        some (.done (.redirect s!"/sets/{world.db.mirrorSets.nextId}"), world.adopted form) :=
      Coroutine.run_perform_ok (world.commit_adoption_fresh taken)
    simp [accepted, taken, eq_comm]

/-- The forms are all stored when each is filled in and no name is used twice. -/
theorem World.adoptsEach_iff {world after : World} {forms : List SetForm} :
    world.AdoptsEach forms after ↔
      (∀ form ∈ forms, form.filled = true) ∧ (forms.map SetForm.name).Nodup ∧
        (∀ form ∈ forms, form.name ∉ world.entries.map Prod.fst) ∧
        after = forms.foldl World.adopted world := by
  induction forms generalizing world with
  | nil =>
      constructor
      · intro adopted
        cases adopted
        simp
      · rintro ⟨-, -, -, rfl⟩
        exact .nil
  | cons form rest inductionHypothesis =>
      have later (other : SetForm) : other.name ∉ (world.adopted form).entries.map Prod.fst ↔
          other.name ∉ world.entries.map Prod.fst ∧ other.name ≠ form.name := by
        rw [World.entries_adopted, List.map_append, List.mem_append, not_or]
        simp [MirrorSet.entry, SetForm.mirrorSet]
      constructor
      · intro adopted
        cases adopted with
        | cons first others =>
            obtain ⟨filled, fresh, rfl⟩ := World.adopts_iff.mp first
            obtain ⟨allFilled, distinct, allFresh, reached⟩ := inductionHypothesis.mp others
            refine ⟨by simpa using ⟨filled, allFilled⟩, ?_, ?_, reached⟩
            · refine List.nodup_cons.mpr ⟨?_, distinct⟩
              intro listed
              obtain ⟨other, among, same⟩ := List.mem_map.mp listed
              exact ((later other).mp (allFresh other among)).2 same
            · intro other among
              rcases List.mem_cons.mp among with rfl | among
              · exact fresh
              · exact ((later other).mp (allFresh other among)).1
      · rintro ⟨allFilled, distinct, allFresh, reached⟩
        obtain ⟨unused, distinct⟩ := List.nodup_cons.mp distinct
        refine .cons (World.adopts_iff.mpr ⟨allFilled form (by simp), allFresh form (by simp), rfl⟩)
          (inductionHypothesis.mpr ⟨?_, distinct, ?_, reached⟩)
        · exact fun other among => allFilled other (List.mem_cons_of_mem _ among)
        · intro other among
          refine (later other).mpr ⟨allFresh other (List.mem_cons_of_mem _ among), ?_⟩
          exact fun same => unused (List.mem_map.mpr ⟨other, among, same⟩)

theorem World.entries_foldl_adopted (world : World) (forms : List SetForm) :
    (forms.foldl World.adopted world).entries =
      world.entries ++ forms.map fun form => (form.mirrorSet true).entry := by
  induction forms generalizing world with
  | nil => simp
  | cons form rest inductionHypothesis =>
      rw [List.foldl_cons, inductionHypothesis, World.entries_adopted]
      simp

/-! ## Who manages a mirror -/

theorem managedMap_append (sets : List MirrorSet) (item : MirrorSet) (name : String) :
    (managedMap (sets ++ [item])).get? name =
      if name ∈ item.expectedMirrors then some item.name else (managedMap sets).get? name := by
  have own (names : List String) : Dict.getEntries name
      (names.map fun expected => (expected, item.name)) =
        if name ∈ names then some item.name else none := by
    induction names with
    | nil => rfl
    | cons first rest inductionHypothesis =>
        by_cases same : first = name
        · simp [Dict.getEntries, same]
        · simp [Dict.getEntries, same, inductionHypothesis, Ne.symm same]
  simp only [managedMap, Dict.get?_ofList, List.flatMap_append, List.flatMap_singleton,
    List.reverse_append, Dict.getEntries_append, ← List.map_reverse, own, List.mem_reverse]
  split <;> simp

/-- Of the sets that expect a mirror, the last by name manages it. -/
theorem managedMap_eq_some_iff {sets : List MirrorSet} {name owner : String}
    (ordered : sets.Pairwise fun first second => first.name < second.name) :
    (managedMap sets).get? name = some owner ↔
      ∃ item ∈ sets, item.name = owner ∧ name ∈ item.expectedMirrors ∧
        ∀ other ∈ sets, owner < other.name → name ∉ other.expectedMirrors := by
  induction sets using List.reverseRecOn with
  | nil => simp [managedMap, Dict.ofList]
  | append_singleton sets last inductionHypothesis =>
      obtain ⟨earlier, -, below⟩ := List.pairwise_append.mp ordered
      replace below : ∀ item ∈ sets, item.name < last.name := by
        intro item listed
        exact below item listed last (by simp)
      rw [managedMap_append]
      split
      · rename_i expects
        constructor
        · intro same
          cases same
          refine ⟨last, by simp, rfl, expects, ?_⟩
          intro other listed after
          rcases List.mem_append.mp listed with listed | listed
          · exact absurd (below other listed) (lt_asymm after)
          · obtain rfl := List.mem_singleton.mp listed
            exact absurd after (lt_irrefl _)
        · rintro ⟨item, listed, rfl, -, greatest⟩
          rcases List.mem_append.mp listed with listed | listed
          · exact absurd expects (greatest last (by simp) (below item listed))
          · rw [List.mem_singleton.mp listed]
      · rename_i other
        rw [inductionHypothesis earlier]
        constructor
        · rintro ⟨item, listed, named, expected, greatest⟩
          refine ⟨item, List.mem_append_left _ listed, named, expected, ?_⟩
          intro rival present after
          rcases List.mem_append.mp present with present | present
          · exact greatest rival present after
          · rwa [List.mem_singleton.mp present]
        · rintro ⟨item, listed, named, expected, greatest⟩
          rcases List.mem_append.mp listed with listed | listed
          · exact ⟨item, listed, named, expected, fun rival present =>
              greatest rival (List.mem_append_left _ present)⟩
          · obtain rfl := List.mem_singleton.mp listed
            exact absurd expected other

/-- The sets come out in the order of their names. -/
theorem World.sets_ordered {world : World} (distinct : (world.entries.map Prod.fst).Nodup) :
    world.sets.Pairwise fun first second => first.name < second.name := by
  have sorted := List.pairwise_insertionSort
    (fun first second : MirrorSet => first.name ≤ second.name) world.db.mirrorSets.rows
  have unequal : (world.db.mirrorSets.rows.insertionSort
      fun first second => first.name ≤ second.name).Pairwise fun first second =>
        first.name ≠ second.name := by
    rw [← List.pairwise_map (f := MirrorSet.name), ← List.nodup_iff_pairwise_ne]
    refine ((List.perm_insertionSort _ _).map _).nodup_iff.mpr ?_
    simpa [World.entries, MirrorSet.entry, Function.comp_def] using distinct
  have sets : world.sets = world.db.mirrorSets.rows.insertionSort
      fun first second => first.name ≤ second.name := by
    simp [World.sets, World.loadSets, Function.comp_def]
  rw [sets]
  exact (sorted.and unequal).imp fun both => lt_of_le_of_ne both.1 both.2

theorem World.managed_iff {world : World} {name owner : String}
    (distinct : (world.entries.map Prod.fst).Nodup) :
    (managedMap world.sets).get? name = some owner ↔
      (∃ entry ∈ world.entries, entry.1 = owner ∧ name ∈ entry.2) ∧
        ∀ entry ∈ world.entries, owner < entry.1 → name ∉ entry.2 := by
  have listed {item : MirrorSet} : item ∈ world.sets ↔ item ∈ world.db.mirrorSets.rows := by
    simp [World.sets, World.loadSets, List.mem_insertionSort, Function.comp_def]
  rw [managedMap_eq_some_iff (World.sets_ordered distinct)]
  simp only [listed, World.entries, List.forall_mem_map]
  simp only [List.mem_map, exists_exists_and_eq_and, MirrorSet.entry]
  constructor
  · rintro ⟨item, stored, named, expected, greatest⟩
    exact ⟨⟨item, stored, named, expected⟩, greatest⟩
  · rintro ⟨⟨item, stored, named, expected⟩, greatest⟩
    exact ⟨item, stored, named, expected, greatest⟩

/-! ## When adoption converges -/

/-- The set of this name, adopted as proposed, expects a mirror of that name. -/
def Generates (members : List Member) (setName name : String) : Prop :=
  ∃ first ∈ members, first.split.setName = setName ∧
    ∃ second ∈ members, second.split.setName = setName ∧
      ∃ suite ∈ splitField first.split.suite, ∃ component ∈ splitField second.split.component,
        first.split.pattern.format setName suite component = name

instance (members : List Member) (setName name : String) :
    Decidable (Generates members setName name) :=
  inferInstanceAs (Decidable (∃ first ∈ members, first.split.setName = setName ∧
    ∃ second ∈ members, second.split.setName = setName ∧
      ∃ suite ∈ splitField first.split.suite, ∃ component ∈ splitField second.split.component,
        first.split.pattern.format setName suite component = name))

/-- A mirror whose suite and component contain no separator is generated again. -/
theorem generates_own {mirrors : List Mirror} {member : Member}
    (listed : member ∈ membersOf mirrors)
    (plain : member.split.suite ∈ splitField member.split.suite ∧
      member.split.component ∈ splitField member.split.component) :
    Generates (membersOf mirrors) member.split.setName member.mirror.name :=
  ⟨member, listed, rfl, member, listed, rfl, _, plain.1, _, plain.2,
    format_splitMirrorName (mem_membersOf.mp listed).2⟩

/-- What the names and fields of the mirrors have to be. -/
structure Adoptable (mirrors : List Mirror) : Prop where
  /-- no set name is suggested for two archives or in two patterns -/
  alike : ∀ first ∈ membersOf mirrors, ∀ second ∈ membersOf mirrors,
    first.split.setName = second.split.setName →
      first.mirror.archiveUrl = second.mirror.archiveUrl ∧
        first.split.pattern = second.split.pattern
  named : ∀ member ∈ membersOf mirrors,
    member.split.setName ≠ "" ∧ member.mirror.archiveUrl ≠ ""
  built : ∀ member ∈ membersOf mirrors, ∃ other ∈ membersOf mirrors,
    other.split.setName = member.split.setName ∧ ∃ arch ∈ other.mirror.architectures, arch ≠ ""
  /-- suites and components survive being joined by commas -/
  regenerated : ∀ member ∈ membersOf mirrors,
    Generates (membersOf mirrors) member.split.setName member.mirror.name
  /-- no set later in the alphabet expects the mirror too -/
  apart : ∀ member ∈ membersOf mirrors, ∀ other ∈ membersOf mirrors,
    member.split.setName < other.split.setName →
      ¬ Generates (membersOf mirrors) other.split.setName member.mirror.name

theorem Member.key_eq_iff {members : List Member}
    (alike : ∀ first ∈ members, ∀ second ∈ members,
      first.split.setName = second.split.setName →
        first.mirror.archiveUrl = second.mirror.archiveUrl ∧
          first.split.pattern = second.split.pattern)
    {first second : Member} (listed : first ∈ members) (also : second ∈ members) :
    first.key = second.key ↔ first.split.setName = second.split.setName := by
  constructor
  · intro same
    exact congrArg GroupKey.setName same
  · intro same
    obtain ⟨archive, pattern⟩ := alike first listed second also same
    simp only [Member.key, same, archive, pattern]

/-- The forms have distinct names when the keys differ in the name already. -/
theorem names_nodup_iff {members : List Member} :
    ((groupKeys members).map GroupKey.setName).Nodup ↔
      ∀ first ∈ members, ∀ second ∈ members, first.split.setName = second.split.setName →
        first.mirror.archiveUrl = second.mirror.archiveUrl ∧
          first.split.pattern = second.split.pattern := by
  rw [List.nodup_map_iff_inj_on (groupKeys_nodup members)]
  constructor
  · intro injective first listed second also same
    have keys := injective first.key (mem_groupKeys.mpr ⟨first, listed, rfl⟩)
      second.key (mem_groupKeys.mpr ⟨second, also, rfl⟩) same
    exact ⟨congrArg GroupKey.archiveUrl keys, congrArg GroupKey.pattern keys⟩
  · intro alike first listed second also same
    obtain ⟨member, among, rfl⟩ := mem_groupKeys.mp listed
    obtain ⟨other, present, rfl⟩ := mem_groupKeys.mp also
    exact (Member.key_eq_iff alike among present).mpr same

section Converging

variable {world : World} {mirrors : List Mirror} {published : List Published}
  {free : Proposal → FreeFields}

/-- The forms of all proposals. -/
def forms (mirrors : List Mirror) (published : List Published) (free : Proposal → FreeFields) :
    List SetForm :=
  (proposeSets mirrors published []).1.map fun proposal => proposal.form (free proposal)

theorem mem_forms {form : SetForm} : form ∈ forms mirrors published free ↔
    ∃ member ∈ membersOf mirrors,
      form = (buildProposal member.key (groupOf (membersOf mirrors) member.key) published).form
        (free (buildProposal member.key (groupOf (membersOf mirrors) member.key) published)) := by
  simp only [forms, proposals_eq, List.map_map, List.mem_map, mem_groupKeys, Function.comp_apply]
  constructor
  · rintro ⟨key, ⟨member, listed, rfl⟩, rfl⟩
    exact ⟨member, listed, rfl⟩
  · rintro ⟨member, listed, rfl⟩
    exact ⟨member.key, ⟨member, listed, rfl⟩, rfl⟩

theorem names_forms : (forms mirrors published free).map SetForm.name =
    (groupKeys (membersOf mirrors)).map GroupKey.setName := by
  simp only [forms, proposals_eq, List.map_map]
  rfl

/-- Storing all forms means that every proposal's mirrors go to its own set. -/
theorem converges_iff (none : world.db.mirrorSets.rows = []) :
    Converges world mirrors published free ↔
      (∀ form ∈ forms mirrors published free, form.filled = true) ∧
        ((groupKeys (membersOf mirrors)).map GroupKey.setName).Nodup ∧
        ∀ member ∈ membersOf mirrors,
          (managedMap ((forms mirrors published free).foldl World.adopted world).sets).get?
            member.mirror.name = some member.split.setName := by
  have fresh : ∀ form ∈ forms mirrors published free, form.name ∉ world.entries.map Prod.fst := by
    simp [World.entries, none]
  have owners {after : World} :
      (∀ proposal ∈ (proposeSets mirrors published []).1, ∀ name ∈ proposal.mirrors,
        (managedMap after.sets).get? name = some proposal.name) ↔
      ∀ member ∈ membersOf mirrors,
        (managedMap after.sets).get? member.mirror.name = some member.split.setName := by
    rw [proposals_eq, List.forall_mem_map]
    simp only [mem_groupKeys, buildProposal, List.mem_insertionSort, List.mem_map, mem_groupOf]
    constructor
    · intro every member listed
      exact every member.key ⟨member, listed, rfl⟩ _ ⟨member, ⟨listed, rfl⟩, rfl⟩
    · rintro every key - _ ⟨member, ⟨listed, rfl⟩, rfl⟩
      exact every member listed
  have nothingLeft {after : World} (managed : ∀ member ∈ membersOf mirrors,
      (managedMap after.sets).get? member.mirror.name = some member.split.setName) :
      (proposeSets mirrors published (managedMap after.sets).keys).1 = [] :=
    proposals_eq_nil_iff.mpr fun member listed =>
      Dict.mem_keys_iff.mpr ⟨_, managed member listed⟩
  constructor
  · rintro ⟨after, stored, -, managed⟩
    obtain ⟨filled, distinct, -, rfl⟩ := World.adoptsEach_iff.mp stored
    exact ⟨filled, names_forms ▸ distinct, owners.mp managed⟩
  · rintro ⟨filled, distinct, managed⟩
    refine ⟨_, World.adoptsEach_iff.mpr ⟨filled, ?_, fresh, rfl⟩, nothingLeft managed,
      owners.mpr managed⟩
    exact names_forms.symm ▸ distinct

/-- With one key for each name, a set expects what its name generates. -/
theorem mem_expected_iff {free : FreeFields} {member : Member} {name : String}
    (alike : ∀ first ∈ membersOf mirrors, ∀ second ∈ membersOf mirrors,
      first.split.setName = second.split.setName →
        first.mirror.archiveUrl = second.mirror.archiveUrl ∧
          first.split.pattern = second.split.pattern)
    (listed : member ∈ membersOf mirrors) :
    name ∈ (((buildProposal member.key (groupOf (membersOf mirrors) member.key) published).form
      free).mirrorSet true).expectedMirrors ↔
      Generates (membersOf mirrors) member.split.setName name := by
  rw [mem_expected_of_form]
  constructor
  · rintro ⟨first, among, same, second, also, too, suite, piece, component, other, rfl⟩
    refine ⟨first, among, congrArg GroupKey.setName same, second, also,
      congrArg GroupKey.setName too, suite, piece, component, other, ?_⟩
    rw [show first.split.pattern = member.key.pattern from congrArg GroupKey.pattern same]
    rfl
  · rintro ⟨first, among, same, second, also, too, suite, piece, component, other, rfl⟩
    have firstKey := (Member.key_eq_iff alike among listed).mpr same
    refine ⟨first, among, firstKey, second, also,
      (Member.key_eq_iff alike also listed).mpr too, suite, piece, component, other, ?_⟩
    rw [← firstKey]
    change first.split.pattern.format first.split.setName suite component = _
    rw [same]

/-- In the end a mirror is managed by the set it was proposed for when that set generates its
name and no later one does. -/
theorem managed_after_iff (none : world.db.mirrorSets.rows = [])
    (distinct : ((groupKeys (membersOf mirrors)).map GroupKey.setName).Nodup)
    {setName name : String} :
    (managedMap ((forms mirrors published free).foldl World.adopted world).sets).get? name =
        some setName ↔
      (∃ other ∈ membersOf mirrors, other.split.setName = setName ∧
        Generates (membersOf mirrors) setName name) ∧
        ∀ other ∈ membersOf mirrors, setName < other.split.setName →
          ¬ Generates (membersOf mirrors) other.split.setName name := by
  have alike := names_nodup_iff.mp distinct
  have entries : ((forms mirrors published free).foldl World.adopted world).entries =
      (forms mirrors published free).map fun form => (form.mirrorSet true).entry := by
    rw [World.entries_foldl_adopted]
    simp [World.entries, none]
  have names : (((forms mirrors published free).foldl World.adopted world).entries.map
      Prod.fst).Nodup := by
    rw [entries, List.map_map]
    change ((forms mirrors published free).map SetForm.name).Nodup
    exact names_forms.symm ▸ distinct
  have expects {member : Member} (present : member ∈ membersOf mirrors) :
      name ∈ (((buildProposal member.key (groupOf (membersOf mirrors) member.key) published).form
        (free (buildProposal member.key (groupOf (membersOf mirrors) member.key) published))).mirrorSet
          true).entry.2 ↔ Generates (membersOf mirrors) member.split.setName name :=
    mem_expected_iff alike present
  rw [World.managed_iff names, entries, List.forall_mem_map]
  constructor
  · rintro ⟨⟨entry, listed, rfl, expected⟩, latest⟩
    obtain ⟨form, among, rfl⟩ := List.mem_map.mp listed
    obtain ⟨member, present, rfl⟩ := mem_forms.mp among
    refine ⟨⟨member, present, rfl, (expects present).mp expected⟩, ?_⟩
    intro other also after generated
    exact latest _ (mem_forms.mpr ⟨other, also, rfl⟩) after
      ((expects also).mpr generated)
  · rintro ⟨⟨member, present, rfl, generated⟩, latest⟩
    constructor
    · refine ⟨_, List.mem_map.mpr ⟨_, mem_forms.mpr ⟨member, present, rfl⟩, rfl⟩, rfl, ?_⟩
      exact (expects present).mpr generated
    · intro form among after expected
      obtain ⟨other, also, rfl⟩ := mem_forms.mp among
      exact latest other also after ((expects also).mp expected)

/-- Adoption converges exactly on adoptable mirrors, whatever is typed into the free fields. -/
theorem adoption_converges_iff (none : world.db.mirrorSets.rows = [])
    (typed : ∀ proposal, (free proposal).publishPrefix ≠ "") :
    Converges world mirrors published free ↔ Adoptable mirrors := by
  rw [converges_iff none]
  constructor
  · rintro ⟨filled, distinct, managed⟩
    have alike := names_nodup_iff.mp distinct
    have complete := fun member listed => (filled_iff (typed _)).mp
      (filled _ (mem_forms.mpr ⟨member, listed, rfl⟩))
    have owned := fun member listed => (managed_after_iff none distinct).mp (managed member listed)
    refine ⟨alike, ?_, ?_, ?_, ?_⟩
    · intro member listed
      obtain ⟨named, archived, -⟩ := complete member listed
      exact ⟨named, archived⟩
    · intro member listed
      obtain ⟨-, -, -, -, other, also, same, built⟩ := complete member listed
      exact ⟨other, also, congrArg GroupKey.setName same, built⟩
    · intro member listed
      obtain ⟨⟨other, -, same, generated⟩, -⟩ := owned member listed
      exact generated
    · intro member listed other also after
      exact (owned member listed).2 other also after
  · rintro ⟨alike, named, built, regenerated, apart⟩
    have distinct := names_nodup_iff.mpr alike
    refine ⟨?_, distinct, ?_⟩
    · intro form among
      obtain ⟨member, listed, rfl⟩ := mem_forms.mp among
      obtain ⟨first, firstListed, firstSame, second, secondListed, secondSame, suite, piece,
        component, other, -⟩ := regenerated member listed
      obtain ⟨third, thirdListed, thirdSame, arch⟩ := built member listed
      have sameKey {other : Member} (also : other ∈ membersOf mirrors)
          (same : other.split.setName = member.split.setName) : other.key = member.key :=
        (Member.key_eq_iff alike also listed).mpr same
      have written {field piece : String} (split : piece ∈ splitField field) : field ≠ "" := by
        rintro rfl
        rw [splitField_empty] at split
        cases split
      exact (filled_iff (typed _)).mpr ⟨(named member listed).1, (named member listed).2,
        ⟨first, firstListed, sameKey firstListed firstSame, written piece⟩,
        ⟨second, secondListed, sameKey secondListed secondSame, written other⟩,
        third, thirdListed, sameKey thirdListed thirdSame, arch⟩
    · intro member listed
      exact (managed_after_iff none distinct).mpr
        ⟨⟨member, listed, rfl, regenerated member listed⟩, apart member listed⟩

end Converging

/-! ## Instances -/

/-- `alpha` and `beta` are both called `x` and hold `noble`. -/
def Sample.upstreams : List Mirror :=
  [⟨"x-noble-main", "http://alpha.example.org/ubuntu", "noble", ["main"], ["amd64"], none⟩,
    ⟨"x-noble-universe", "http://beta.example.org/ubuntu", "noble", ["universe"], ["amd64"], none⟩]

def Sample.noble : List Mirror :=
  [⟨"ubuntu-noble-noble-main", "http://archive.example.org/ubuntu", "noble", ["main"], ["amd64"],
      none⟩,
    ⟨"ubuntu-noble-noble-updates-main", "http://archive.example.org/ubuntu", "noble-updates",
      ["main"], ["amd64"], none⟩]

def Sample.typed : FreeFields := ⟨"ubuntu", "", "", "", ""⟩

/-- Two upstreams under one name: the second form breaks the unique name. -/
theorem not_adoption_converges : ¬ ∀ (world : World) (mirrors : List Mirror)
    (published : List Published) (free : Proposal → FreeFields),
    world.db.mirrorSets.rows = [] → (mirrors.map Mirror.name).Nodup →
      (∀ proposal, (free proposal).publishPrefix ≠ "") → Converges world mirrors published free := by
  intro converges
  have stored := converges (System.blank Database.empty ⟨[], [], []⟩).world Sample.upstreams []
    (fun _ => Sample.typed) rfl (by decide +kernel) (fun _ => by decide)
  obtain ⟨-, distinct, -⟩ := (converges_iff rfl).mp stored
  exact absurd distinct (by decide +kernel)

theorem adoption_converges_noble :
    Converges (System.blank Database.empty ⟨[], [], []⟩).world Sample.noble []
        (fun _ => Sample.typed) ∧
      (proposeSets Sample.noble [] []).1.map Proposal.mirrors =
        [["ubuntu-noble-noble-main", "ubuntu-noble-noble-updates-main"]] := by
  have plain : ∀ member ∈ membersOf Sample.noble,
      member.split.suite ∈ splitField member.split.suite ∧
        member.split.component ∈ splitField member.split.component := by decide +kernel
  have adoptable : Adoptable Sample.noble :=
    { alike := by decide +kernel
      named := by decide +kernel
      built := by decide +kernel
      regenerated := fun member listed => generates_own listed (plain member listed)
      apart := by decide +kernel }
  exact ⟨(adoption_converges_iff rfl fun _ => by decide).mpr adoptable, by decide +kernel⟩

end AptlyGui
