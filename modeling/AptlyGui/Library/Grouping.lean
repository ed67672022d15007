import AptlyGui.Library.Dict
import Mathlib.Data.List.Dedup
import Mathlib.Data.List.Perm.Subperm
import Mathlib.Data.List.Sort

/-!
# Sorting and grouping

Python's `sorted` forgets the order of a list, and the loop over a
`defaultdict(list)` puts every occurrence into the group of its key.  When a
count of names tells that none is missing.
-/

namespace List

variable {α β κ : Type}

theorem Perm.insertionSort_eq {r : α → α → Prop} [DecidableRel r] [Std.Total r] [IsTrans α r]
    [Std.Antisymm r] {first second : List α} (same : first.Perm second) :
    first.insertionSort r = second.insertionSort r := by
  apply Perm.eq_of_pairwise' (r := r)
  · exact pairwise_insertionSort r first
  · exact pairwise_insertionSort r second
  · exact (perm_insertionSort r first).trans (same.trans (perm_insertionSort r second).symm)

/-- Entries that their keys determine are sorted as the keys are. -/
theorem insertionSort_entries {r : κ → κ → Prop} [DecidableRel r] [Std.Total r] [IsTrans κ r]
    [Std.Antisymm r] {entries : List (κ × β)} {keys : List κ} {value : κ → β}
    (same : entries.Perm (keys.map fun key => (key, value key))) :
    entries.insertionSort (fun first second => r first.1 second.1) =
      (keys.insertionSort r).map fun key => (key, value key) := by
  have : Std.Total fun first second : κ × β => r first.1 second.1 :=
    ⟨fun first second => total_of r first.1 second.1⟩
  have : IsTrans (κ × β) fun first second => r first.1 second.1 :=
    ⟨fun first second third => trans_of r (a := first.1)⟩
  rw [map_insertionSort r (fun first second : κ × β => r first.1 second.1) _ _
    fun _ _ _ _ => Iff.rfl]
  apply Perm.eq_of_pairwise ?_ (pairwise_insertionSort _ _) (pairwise_insertionSort _ _)
  · exact (perm_insertionSort _ _).trans (same.trans (perm_insertionSort _ _).symm)
  · intro first second listed also before after
    obtain ⟨key, -, rfl⟩ := mem_map.mp (same.mem_iff.mp ((mem_insertionSort _).mp listed))
    obtain ⟨other, -, rfl⟩ := mem_map.mp ((mem_insertionSort _).mp also)
    have same : key = other := antisymm_of r before after
    rw [same]

/-- Groups by distinct keys keep every occurrence of what has one of the keys. -/
theorem flatMap_filter_perm [DecidableEq κ] (key : α → κ) {keys : List κ} (distinct : keys.Nodup)
    (items : List α) :
    (keys.flatMap fun chosen => items.filter fun item => key item = chosen).Perm
      (items.filter fun item => key item ∈ keys) := by
  induction keys with
  | nil => simp
  | cons first rest inductionHypothesis =>
      obtain ⟨fresh, distinct⟩ := nodup_cons.mp distinct
      rw [flatMap_cons]
      refine ((inductionHypothesis distinct).append_left _).trans ?_
      have own : (items.filter fun item => key item ∈ first :: rest).filter
          (fun item => key item = first) = items.filter fun item => key item = first := by
        rw [filter_filter]
        apply filter_congr
        intro item _
        by_cases same : key item = first <;> simp [same]
      have others : (items.filter fun item => key item ∈ first :: rest).filter
          (fun item => !decide (key item = first)) = items.filter fun item => key item ∈ rest := by
        rw [filter_filter]
        apply filter_congr
        intro item _
        by_cases same : key item = first
        · simp [same, fresh]
        · simp [same]
      have split := filter_append_perm (fun item => decide (key item = first))
        (items.filter fun item => key item ∈ first :: rest)
      rwa [own, others] at split

/-- A list without repetition among the entries of another has as many of them only when it has
all, and they do not repeat either. -/
theorem length_eq_iff_of_subset {part whole : List α} (distinct : part.Nodup)
    (among : part ⊆ whole) : part.length = whole.length ↔ whole ⊆ part ∧ whole.Nodup := by
  constructor
  · intro counted
    have same := (subperm_of_subset distinct among).perm_of_length_le counted.ge
    exact ⟨same.symm.subset, same.nodup_iff.mp distinct⟩
  · rintro ⟨every, unrepeated⟩
    exact Nat.le_antisymm (subperm_of_subset distinct among).length_le
      (subperm_of_subset unrepeated every).length_le

end List

namespace Dict

variable {κ α : Type} [DecidableEq κ]

/-- `groups[key].append(item)` -/
def append (groups : Dict κ (List α)) (key : κ) (item : α) : Dict κ (List α) :=
  groups.set key ((groups.get? key).getD [] ++ [item])

/-- The group of each key, where a key without a group has none of the items. -/
def Groups (groups : Dict κ (List α)) (key : α → κ) (items : List α) : Prop :=
  ∀ chosen, groups.get? chosen =
    if (items.filter fun item => key item = chosen) = [] then none
    else some (items.filter fun item => key item = chosen)

theorem groups_empty (key : α → κ) : (empty : Dict κ (List α)).Groups key [] := fun _ => rfl

theorem Groups.append {groups : Dict κ (List α)} {key : α → κ} {items : List α}
    (grouped : groups.Groups key items) (item : α) :
    (groups.append (key item) item).Groups key (items ++ [item]) := by
  intro chosen
  have group : (groups.get? chosen).getD [] = items.filter fun item => key item = chosen := by
    rw [grouped chosen]
    split
    · rename_i none
      exact none.symm
    · rfl
  rw [Dict.append, get?_set, List.filter_append]
  by_cases same : chosen = key item
  · subst same
    simp [group]
  · have other : key item ≠ chosen := fun equal => same equal.symm
    rw [if_neg same, grouped chosen]
    simp [other]

/-- The entries are the keys that occur, each with its items. -/
theorem Groups.entries_perm {groups : Dict κ (List α)} {key : α → κ} {items : List α}
    (grouped : groups.Groups key items) :
    groups.entries.Perm ((items.map key).dedup.map fun chosen =>
      (chosen, items.filter fun item => key item = chosen)) := by
  rw [List.perm_ext_iff_of_nodup]
  · rintro ⟨chosen, group⟩
    rw [← get?_eq_some_iff, grouped chosen]
    have some : (items.filter fun item => key item = chosen) = [] ↔ chosen ∉ items.map key := by
      simp [List.filter_eq_nil_iff]
    constructor
    · intro found
      split at found
      · cases found
      · rename_i occurs
        cases found
        refine List.mem_map.mpr ⟨chosen, List.mem_dedup.mpr ?_, rfl⟩
        exact not_not.mp fun absent => occurs (some.mpr absent)
    · intro listed
      obtain ⟨other, occurs, same⟩ := List.mem_map.mp listed
      cases same
      rw [if_neg fun none => some.mp none (List.mem_dedup.mp occurs)]
  · exact List.Nodup.of_map Prod.fst groups.distinct
  · refine List.Nodup.of_map Prod.fst ?_
    rw [List.map_map]
    simpa [Function.comp_def] using List.nodup_dedup (items.map key)

end Dict
