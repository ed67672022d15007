import Mathlib.Data.List.Dedup
import AptlyGui.Services.Stamp
import AptlyGui.Web.Handlers

/-!
# Whose a snapshot is

aptly does not say which mirror a snapshot came from, so the deletion pages
match names: what begins with a mirror's name and a hyphen.  A stamp has no
hyphen, so this finds the mirror's own snapshots and those of every mirror whose
name goes on after the hyphen, as `non-free-firmware` does after `non-free`.
-/

namespace AptlyGui

/-- A snapshot that an update took: of which mirror, and the moment it was stamped with. -/
structure TakenSnapshot where
  mirror : String
  moment : Time
  deriving DecidableEq, Repr

def TakenSnapshot.name (taken : TakenSnapshot) : String :=
  s!"{taken.mirror}-{snapshotStamp taken.moment}"

/-- The other mirror's name is this one's, a hyphen and more. -/
def continues (mirror other : String) : Bool := startsWith other s!"{mirror}-"

theorem continues_iff {mirror other : String} :
    continues mirror other = true ↔ mirror.toList ++ ['-'] <+: other.toList := by
  rw [continues, startsWith_iff]
  simp [toString]

/-- A prefix that ends with a separator ends with the last one or before it. -/
theorem concat_prefix_append_sep_iff {α : Type} {separator : α} {start front back : List α}
    (rest : separator ∉ back) :
    start ++ [separator] <+: front ++ separator :: back ↔
      front = start ∨ start ++ [separator] <+: front := by
  constructor
  · rintro ⟨more, same⟩
    rw [List.append_assoc, List.singleton_append] at same
    rcases List.append_eq_append_iff.mp same with ⟨middle, rfl, tails⟩ | ⟨middle, rfl, tails⟩
    · cases middle with
      | nil => simp
      | cons first middle =>
          obtain rfl := (List.cons.inj tails).1
          right
          exact ⟨middle, by simp⟩
    · cases middle with
      | nil => simp
      | cons first middle =>
          have cut := (List.cons.inj tails).2
          exact (rest (by simp [cut])).elim
  · rintro (rfl | inside)
    · exact ⟨back, by simp⟩
    · exact inside.trans (List.prefix_append _ _)

theorem startsWith_name_iff {taken : TakenSnapshot} {mirror : String} :
    startsWith taken.name s!"{mirror}-" = true ↔
      taken.mirror = mirror ∨ continues mirror taken.mirror = true := by
  have whole : taken.name.toList =
      taken.mirror.toList ++ '-' :: (snapshotStamp taken.moment).toList := by
    simp [TakenSnapshot.name, toString]
  have start : (s!"{mirror}-").toList = mirror.toList ++ ['-'] := by simp [toString]
  rw [startsWith_iff, whole, start,
    concat_prefix_append_sep_iff (hyphen_notMem_snapshotStamp taken.moment), continues_iff,
    String.toList_inj]

/-- Two snapshots of one name are of one mirror. -/
theorem TakenSnapshot.mirror_eq {first second : TakenSnapshot} (same : first.name = second.name) :
    first.mirror = second.mirror :=
  (stamped_inj.mp same).1

theorem mem_snapshotsOf {state : AptlyState} {mirrors : List String} {name : String} :
    name ∈ snapshotsOf state mirrors ↔
      name ∈ state.snapshots.map Snapshot.name ∧
        ∃ mirror ∈ mirrors, startsWith name s!"{mirror}-" = true := by
  simp only [snapshotsOf, sortedNames, List.mem_insertionSort, List.mem_dedup, List.mem_flatMap,
    List.mem_map, List.mem_filter]
  constructor
  · rintro ⟨snapshot, held, mirror, ⟨given, starts⟩, rfl⟩
    exact ⟨⟨snapshot, held, rfl⟩, mirror, given, starts⟩
  · rintro ⟨⟨snapshot, held, rfl⟩, mirror, given, starts⟩
    exact ⟨snapshot, held, mirror, ⟨given, starts⟩, rfl⟩

section Attribution

variable {state : AptlyState} {taken : List TakenSnapshot}
  (made : state.snapshots.map Snapshot.name = taken.map TakenSnapshot.name)
include made

/-- What is found: the snapshots of the given mirrors and of those whose name goes on. -/
theorem mem_snapshotsOf_taken {mirrors : List String} {name : String} :
    name ∈ snapshotsOf state mirrors ↔ ∃ item ∈ taken, item.name = name ∧
      ∃ mirror ∈ mirrors, item.mirror = mirror ∨ continues mirror item.mirror = true := by
  rw [mem_snapshotsOf, made, List.mem_map]
  constructor
  · rintro ⟨⟨item, listed, rfl⟩, mirror, given, starts⟩
    exact ⟨item, listed, rfl, mirror, given, startsWith_name_iff.mp starts⟩
  · rintro ⟨item, listed, rfl, mirror, given, own⟩
    exact ⟨⟨item, listed, rfl⟩, mirror, given, startsWith_name_iff.mpr own⟩

/-- The snapshots of the given mirrors are among those found. -/
theorem mem_snapshotsOf_own {mirrors : List String} {item : TakenSnapshot} (listed : item ∈ taken)
    (given : item.mirror ∈ mirrors) : item.name ∈ snapshotsOf state mirrors :=
  (mem_snapshotsOf_taken made).mpr ⟨item, listed, rfl, item.mirror, given, .inl rfl⟩

/-- The search finds exactly the given mirrors' snapshots, and a deletion of them is held up
exactly while there are some, if and only if no snapshot is of a further mirror whose name
continues one of theirs. -/
theorem snapshotsOf_exact_iff (mirrors : List String) :
    ((∀ name, name ∈ snapshotsOf state mirrors ↔
          ∃ item ∈ taken, item.mirror ∈ mirrors ∧ item.name = name) ∧
        (snapshotsOf state mirrors ≠ [] ↔ ∃ item ∈ taken, item.mirror ∈ mirrors)) ↔
      ∀ item ∈ taken, ∀ mirror ∈ mirrors, continues mirror item.mirror = true →
        item.mirror ∈ mirrors := by
  constructor
  · rintro ⟨precise, -⟩ item listed mirror given longer
    have found := (mem_snapshotsOf_taken made).mpr
      ⟨item, listed, rfl, mirror, given, .inr longer⟩
    obtain ⟨other, -, own, same⟩ := (precise item.name).mp found
    rwa [TakenSnapshot.mirror_eq same] at own
  · intro further
    have precise (name : String) : name ∈ snapshotsOf state mirrors ↔
        ∃ item ∈ taken, item.mirror ∈ mirrors ∧ item.name = name := by
      constructor
      · intro found
        obtain ⟨item, listed, named, mirror, given, own | longer⟩ :=
          (mem_snapshotsOf_taken made).mp found
        · exact ⟨item, listed, own ▸ given, named⟩
        · exact ⟨item, listed, further item listed mirror given longer, named⟩
      · rintro ⟨item, listed, given, rfl⟩
        exact mem_snapshotsOf_own made listed given
    refine ⟨precise, ?_⟩
    constructor
    · intro blocking
      obtain ⟨name, found⟩ := List.exists_mem_of_ne_nil _ blocking
      obtain ⟨item, listed, given, -⟩ := (precise name).mp found
      exact ⟨item, listed, given⟩
    · rintro ⟨item, listed, given⟩
      exact List.ne_nil_of_mem (mem_snapshotsOf_own made listed given)

end Attribution

/-- The main component of a set next to its own `contrib`. -/
theorem snapshotsOf_exact_iff_contrib :
    let taken : List TakenSnapshot := [⟨"debian-bookworm-main", 0⟩, ⟨"debian-bookworm-contrib", 0⟩]
    let state : AptlyState := { mirrors := [], snapshots := taken.map fun item => ⟨item.name⟩, published := [] }
    (∀ name, name ∈ snapshotsOf state ["debian-bookworm-main"] ↔
          ∃ item ∈ taken, item.mirror ∈ ["debian-bookworm-main"] ∧ item.name = name) ∧
        (snapshotsOf state ["debian-bookworm-main"] ≠ [] ↔
          ∃ item ∈ taken, item.mirror ∈ ["debian-bookworm-main"]) :=
  (snapshotsOf_exact_iff (by simp) _).mpr (by decide)

/-- The preset for Debian 12, whose components are `DEBIAN_COMPONENTS`. -/
def debianBookworm : MirrorSet where
  name := "debian-bookworm"
  archiveUrl := "http://deb.debian.org/debian"
  suites := ["bookworm", "bookworm-updates", "bookworm-backports"]
  components := ["main", "contrib", "non-free", "non-free-firmware"]
  architectures := ["amd64"]
  keyrings := ["/usr/share/keyrings/debian-archive-keyring.gpg"]
  filter := none
  publishPrefix := "debian"
  publishEndpoint := none
  publicUrl := none
  mirrorPattern := .setSuiteComponent
  signingKey := none
  adopted := false

/-- With every own snapshot gone, `non-free` is still held up by those of `non-free-firmware`. -/
theorem not_snapshotsOf_exact :
    ¬ ∀ (sets : List MirrorSet) (state : AptlyState) (taken : List TakenSnapshot)
        (mirrors : List String),
      (∀ mirror ∈ mirrors, ∃ item ∈ sets, mirror ∈ item.expectedMirrors) →
      (∀ snapshot ∈ taken, ∃ item ∈ sets, snapshot.mirror ∈ item.expectedMirrors) →
      state.snapshots.map Snapshot.name = taken.map TakenSnapshot.name →
        (∀ name, name ∈ snapshotsOf state mirrors ↔
            ∃ item ∈ taken, item.mirror ∈ mirrors ∧ item.name = name) ∧
          (snapshotsOf state mirrors ≠ [] ↔ ∃ item ∈ taken, item.mirror ∈ mirrors) := by
  intro precise
  let firmware : TakenSnapshot := ⟨"debian-bookworm-bookworm-non-free-firmware", 0⟩
  let state : AptlyState := ⟨[], [⟨firmware.name⟩], []⟩
  have made : state.snapshots.map Snapshot.name = [firmware].map TakenSnapshot.name := rfl
  have found : firmware.name ∈ snapshotsOf state ["debian-bookworm-bookworm-non-free"] :=
    (mem_snapshotsOf_taken made).mpr
      ⟨firmware, List.mem_singleton_self _, rfl, _, List.mem_singleton_self _, .inr (by decide)⟩
  have blocked := (precise [debianBookworm] state [firmware] ["debian-bookworm-bookworm-non-free"]
    (by decide) (by decide) made).2
  obtain ⟨item, listed, given⟩ := blocked.mp (List.ne_nil_of_mem found)
  obtain rfl := List.mem_singleton.mp listed
  exact absurd given (by decide)

end AptlyGui
