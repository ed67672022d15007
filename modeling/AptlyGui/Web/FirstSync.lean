import AptlyGui.Web.Adoption

/-!
# The first sync of an adopted set

Every update sends a mirror's whole definition again.  For a set adopted as it
was proposed that definition is the mirror's own in every field that the group
shares; the architectures are the union over the group, and a group whose
mirrors differ in them is proposed without a warning.
-/

namespace AptlyGui

/-- One entry of `GET /api/mirrors`. -/
structure RawMirror where
  name : String
  archiveRoot : String
  distribution : String
  components : Option (List String)
  architectures : Option (List String)
  filter : Option String
  deriving DecidableEq, Repr

def Mirror.parse (raw : RawMirror) : Mirror where
  name := raw.name
  archiveUrl := raw.archiveRoot
  distribution := raw.distribution
  components := raw.components.getD []
  architectures := raw.architectures.getD []
  filter := raw.filter.bind orNone

theorem Mirror.filter_parse_ne (raw : RawMirror) : (Mirror.parse raw).filter ≠ some "" := by
  intro empty
  obtain ⟨text, -, kept⟩ := Option.bind_eq_some_iff.mp empty
  unfold orNone at kept
  split at kept
  · cases kept
  · rename_i written
    exact written (Option.some.inj kept)

/-- Such a definition, sent for a mirror, leaves the mirror as it is. -/
structure MirrorSpec.Agrees (spec : MirrorSpec) (mirror : Mirror) : Prop where
  name : spec.name = mirror.name
  archiveUrl : spec.archiveUrl = mirror.archiveUrl
  distribution : spec.distribution = mirror.distribution
  components : spec.components = mirror.components
  /-- as sets -/
  architectures : ∀ arch, arch ∈ spec.architectures ↔ arch ∈ mirror.architectures
  filter : spec.filter = mirror.filter

/-- The definition that the adopted set sends for one of its mirrors. -/
def Proposal.resent (proposal : Proposal) (free : FreeFields) (split : Split) : MirrorSpec :=
  specFor ((proposal.form free).mirrorSet true) split.suite split.component

section Group

variable {mirrors : List Mirror} {published : List Published} {managed : List String}
  {free : FreeFields} {proposal : Proposal} {member : Member}

/-- Without a warning, all mirrors of the group have the proposal's filter. -/
theorem filter_of_unflagged (proposed : proposal ∈ (proposeSets mirrors published managed).1)
    (unflagged : proposal.inconsistent = []) (held : proposal.Holds mirrors managed member) :
    proposal.filter = member.mirror.filter := by
  obtain ⟨key, -, rfl⟩ := mem_proposals.mp proposed
  obtain ⟨listed, same⟩ := held
  have among : member.mirror.filter ∈ ((groupOf (membersOf (mirrors.filter fun mirror =>
      mirror.name ∉ managed)) key).map fun member => member.mirror.filter).dedup :=
    List.mem_dedup.mpr (List.mem_map_of_mem (mem_groupOf.mpr ⟨listed, same⟩))
  simp only [buildProposal] at unflagged ⊢
  split at unflagged
  · cases unflagged
  · rename_i few
    split
    · rename_i single only
      rw [only] at among
      exact (List.mem_singleton.mp among).symm
    · rename_i several
      rcases filters : ((groupOf (membersOf (mirrors.filter fun mirror =>
          mirror.name ∉ managed)) key).map fun member => member.mirror.filter).dedup with
        _ | ⟨first, _ | ⟨second, rest⟩⟩
      · rw [filters] at among
        cases among
      · exact absurd filters (several first)
      · rw [filters] at few
        simp at few

/-- The architectures of the adopted set are the pieces of all that its mirrors have. -/
theorem mem_resent_architectures (proposed : proposal ∈ (proposeSets mirrors published managed).1)
    {split : Split} {arch : String} : arch ∈ (proposal.resent free split).architectures ↔
      ∃ other, proposal.Holds mirrors managed other ∧
        ∃ entry ∈ other.mirror.architectures, arch ∈ splitField entry := by
  obtain ⟨key, -, rfl⟩ := mem_proposals.mp proposed
  simp only [Proposal.resent, specFor, SetForm.mirrorSet, Proposal.form, buildProposal,
    separates_comma.splitField_intercalate, List.mem_flatMap, mem_sortedSet, mem_groupOf, Proposal.Holds]
  constructor
  · rintro ⟨entry, ⟨other, member, listed⟩, piece⟩
    exact ⟨other, member, entry, listed, piece⟩
  · rintro ⟨other, member, entry, listed, piece⟩
    exact ⟨entry, ⟨other, member, listed⟩, piece⟩

theorem orNone_getD {value : Option String} (written : value ≠ some "") :
    orNone (value.getD "") = value := by
  cases value with
  | none => rfl
  | some text =>
      have filled : text ≠ "" := fun empty => written (congrArg some empty)
      simp [orNone, filled]

end Group

/-- The first sync of a set adopted as proposed leaves a mirror as it is exactly when the mirror
has every architecture of its group. -/
theorem first_sync_changes_nothing_iff {raws : List RawMirror} {published : List Published}
    {managed : List String} {free : FreeFields} {proposal : Proposal} {member : Member}
    (proposed : proposal ∈ (proposeSets (raws.map Mirror.parse) published managed).1)
    (unflagged : proposal.inconsistent = [])
    (held : proposal.Holds (raws.map Mirror.parse) managed member) :
    (proposal.resent free member.split).Agrees member.mirror ↔
      ∀ arch, (∃ other, proposal.Holds (raws.map Mirror.parse) managed other ∧
          ∃ entry ∈ other.mirror.architectures, arch ∈ splitField entry) ↔
        arch ∈ member.mirror.architectures := by
  constructor
  · intro agrees arch
    have pieces : arch ∈ (proposal.resent free member.split).architectures ↔ _ :=
      mem_resent_architectures proposed
    rw [← pieces]
    exact agrees.architectures arch
  · intro united
    obtain ⟨listed, same⟩ := held
    obtain ⟨among, found⟩ := mem_membersOf.mp listed
    obtain ⟨distribution, components⟩ := fields_of_splitMirrorName found
    have setName : member.split.setName = proposal.name := congrArg GroupKey.setName same
    have archive : member.mirror.archiveUrl = proposal.archiveUrl :=
      congrArg GroupKey.archiveUrl same
    have pattern : member.split.pattern = proposal.pattern := congrArg GroupKey.pattern same
    refine ⟨?_, archive.symm, distribution, components.symm, ?_, ?_⟩
    · have named := format_splitMirrorName found
      rw [setName, pattern] at named
      rw [← named]
      simp only [Proposal.resent, specFor, SetForm.mirrorSet, Proposal.form, MirrorSet.mirrorName,
        validPattern_text]
    · intro arch
      rw [mem_resent_architectures proposed]
      exact united arch
    · have shared := filter_of_unflagged proposed unflagged ⟨listed, same⟩
      obtain ⟨raw, -, parsed⟩ := List.mem_map.mp (List.mem_of_mem_filter among)
      have written : proposal.filter ≠ some "" := by
        rw [shared, ← parsed]
        exact Mirror.filter_parse_ne raw
      exact (orNone_getD written).trans shared

/-! ## Two mirrors of one group -/

/-- The second mirror was created with these architectures. -/
def Sample.listing (architectures : List String) : List RawMirror :=
  [⟨"ubuntu-noble-noble-main", "http://archive.example.org/ubuntu", "noble", some ["main"],
      some ["amd64"], none⟩,
    ⟨"ubuntu-noble-noble-updates-main", "http://archive.example.org/ubuntu", "noble-updates",
      some ["main"], some architectures, none⟩]

/-- The first of them, with what its name says. -/
def Sample.base : Member :=
  ⟨⟨"ubuntu-noble-noble-main", "http://archive.example.org/ubuntu", "noble", ["main"], ["amd64"],
      none⟩, ⟨"ubuntu-noble", "noble", "main", .setSuiteComponent⟩⟩

/-- What is proposed for the two. -/
def Sample.proposed (architectures : List String) : Proposal where
  name := "ubuntu-noble"
  archiveUrl := "http://archive.example.org/ubuntu"
  suites := ["noble", "noble-updates"]
  components := ["main"]
  architectures := architectures
  mirrors := ["ubuntu-noble-noble-main", "ubuntu-noble-noble-updates-main"]
  filter := none
  publishPrefix := none
  keyringGuess := some "/usr/share/keyrings/ubuntu-archive-keyring.gpg"
  pattern := .setSuiteComponent
  inconsistent := []

theorem first_sync_changes_nothing_noble :
    ((Sample.proposed ["amd64"]).resent Sample.typed Sample.base.split).Agrees Sample.base.mirror := by
  have held : (Sample.proposed ["amd64"]).Holds ((Sample.listing ["amd64"]).map Mirror.parse) []
      Sample.base := by decide +kernel
  have proposed : Sample.proposed ["amd64"] ∈
      (proposeSets ((Sample.listing ["amd64"]).map Mirror.parse) [] []).1 := by decide +kernel
  apply (first_sync_changes_nothing_iff proposed rfl held).mpr
  intro arch
  constructor
  · rintro ⟨other, ⟨among, -⟩, entry, listed, piece⟩
    have plain : ∀ member ∈ membersOf (((Sample.listing ["amd64"]).map Mirror.parse).filter
        fun mirror => mirror.name ∉ []), member.mirror.architectures = ["amd64"] := by
      decide +kernel
    rw [plain other among, List.mem_singleton] at listed
    subst listed
    have pieces : splitField "amd64" = ["amd64"] := by decide
    rwa [pieces] at piece
  · intro listed
    obtain rfl := List.mem_singleton.mp listed
    exact ⟨Sample.base, held, "amd64", by simp [Sample.base], by decide⟩

/-- The mirror that had only `amd64` is sent `arm64` as well, and nothing warned of it. -/
theorem not_first_sync_changes_nothing : ¬ ∀ (raws : List RawMirror) (published : List Published)
    (managed : List String) (free : FreeFields) (proposal : Proposal) (member : Member),
    proposal ∈ (proposeSets (raws.map Mirror.parse) published managed).1 →
      proposal.inconsistent = [] → proposal.Holds (raws.map Mirror.parse) managed member →
      (proposal.resent free member.split).Agrees member.mirror := by
  intro unchanged
  have agrees := unchanged (Sample.listing ["amd64", "arm64"]) [] [] Sample.typed
    (Sample.proposed ["amd64", "arm64"]) Sample.base (by decide +kernel) rfl (by decide +kernel)
  have sent : "arm64" ∈ ((Sample.proposed ["amd64", "arm64"]).resent Sample.typed
      Sample.base.split).architectures := by decide +kernel
  exact absurd ((agrees.architectures "arm64").mp sent) (by decide)

end AptlyGui
