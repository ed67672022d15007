import Mathlib.Data.List.Nodup

/-!
# Insertion-ordered dictionaries

A finite map with the iteration order of a Python `dict`: a key keeps the place
of its first insertion and takes the value of its last.  That no key occurs
twice is part of the type.
-/

structure Dict (κ α : Type) where
  entries : List (κ × α)
  distinct : (entries.map Prod.fst).Nodup

namespace Dict

variable {κ α : Type} [DecidableEq κ]

instance [DecidableEq α] : DecidableEq (Dict κ α) := fun first second =>
  decidable_of_iff (first.entries = second.entries) (by
    cases first
    cases second
    simp)

def empty : Dict κ α := ⟨[], by simp⟩

omit [DecidableEq κ] in
@[ext]
theorem ext {first second : Dict κ α} (same : first.entries = second.entries) :
    first = second := by
  cases first
  cases second
  simp_all

def keys (dict : Dict κ α) : List κ := dict.entries.map Prod.fst

def values (dict : Dict κ α) : List α := dict.entries.map Prod.snd

def getEntries (key : κ) : List (κ × α) → Option α
  | [] => none
  | entry :: rest => if entry.1 = key then some entry.2 else getEntries key rest

def get? (dict : Dict κ α) (key : κ) : Option α := getEntries key dict.entries

/-- Replace the value in place, or append the key. -/
def setEntries (key : κ) (value : α) : List (κ × α) → List (κ × α)
  | [] => [(key, value)]
  | entry :: rest =>
      if entry.1 = key then (key, value) :: rest else entry :: setEntries key value rest

theorem mem_keys_setEntries {key other : κ} {value : α} {entries : List (κ × α)} :
    other ∈ (setEntries key value entries).map Prod.fst ↔
      other = key ∨ other ∈ entries.map Prod.fst := by
  induction entries with
  | nil => simp [setEntries]
  | cons entry rest inductionHypothesis =>
      by_cases same : entry.1 = key
      · simp [setEntries, same]
      · simp only [setEntries, same, if_false, List.map_cons, List.mem_cons, inductionHypothesis]
        tauto

theorem setEntries_nodup {key : κ} {value : α} {entries : List (κ × α)}
    (distinct : (entries.map Prod.fst).Nodup) :
    ((setEntries key value entries).map Prod.fst).Nodup := by
  induction entries with
  | nil => simp [setEntries]
  | cons entry rest inductionHypothesis =>
      simp only [List.map_cons, List.nodup_cons] at distinct
      by_cases same : entry.1 = key
      · subst same
        simpa [setEntries] using distinct
      · rw [setEntries, if_neg same]
        simp only [List.map_cons, List.nodup_cons, mem_keys_setEntries, not_or]
        exact ⟨⟨same, distinct.1⟩, inductionHypothesis distinct.2⟩

def set (dict : Dict κ α) (key : κ) (value : α) : Dict κ α :=
  ⟨setEntries key value dict.entries, setEntries_nodup dict.distinct⟩

/-- A dictionary display or comprehension: later pairs overwrite earlier ones. -/
def ofList (pairs : List (κ × α)) : Dict κ α :=
  pairs.foldl (fun dict pair => dict.set pair.1 pair.2) empty

def filter (dict : Dict κ α) (keep : κ → α → Bool) : Dict κ α :=
  ⟨dict.entries.filter fun entry => keep entry.1 entry.2,
    dict.distinct.sublist (List.filter_sublist.map _)⟩

def erase (dict : Dict κ α) (key : κ) : Dict κ α := dict.filter fun other _ => other ≠ key

@[simp]
theorem get?_empty (key : κ) : (empty : Dict κ α).get? key = none := rfl

theorem getEntries_setEntries (key other : κ) (value : α) (entries : List (κ × α)) :
    getEntries other (setEntries key value entries) =
      if other = key then some value else getEntries other entries := by
  induction entries with
  | nil => simp [setEntries, getEntries, eq_comm]
  | cons entry rest inductionHypothesis =>
      by_cases first : entry.1 = key
      · by_cases same : key = other <;>
          simp [setEntries, getEntries, first, same, eq_comm]
      · by_cases here : entry.1 = other
        · subst here
          simp [setEntries, getEntries, first]
        · simp [setEntries, getEntries, first, here, inductionHypothesis]

@[simp]
theorem get?_set (dict : Dict κ α) (key other : κ) (value : α) :
    (dict.set key value).get? other = if other = key then some value else dict.get? other :=
  getEntries_setEntries key other value dict.entries

theorem get?_eq_some_iff {dict : Dict κ α} {key : κ} {value : α} :
    dict.get? key = some value ↔ (key, value) ∈ dict.entries := by
  obtain ⟨entries, distinct⟩ := dict
  simp only [get?]
  induction entries with
  | nil => simp [getEntries]
  | cons entry rest inductionHypothesis =>
      simp only [List.map_cons, List.nodup_cons] at distinct
      obtain ⟨first, second⟩ := entry
      by_cases here : first = key
      · subst here
        have absent : (first, value) ∉ rest := fun membership =>
          distinct.1 (List.mem_map.mpr ⟨_, membership, rfl⟩)
        simp [getEntries, absent, eq_comm]
      · have other : key ≠ first := fun equal => here equal.symm
        simp [getEntries, here, other, inductionHypothesis distinct.2]

theorem mem_keys_iff {dict : Dict κ α} {key : κ} :
    key ∈ dict.keys ↔ ∃ value, dict.get? key = some value := by
  simp [keys, get?_eq_some_iff]

theorem mem_values_iff {dict : Dict κ α} {value : α} :
    value ∈ dict.values ↔ ∃ key, dict.get? key = some value := by
  simp [values, get?_eq_some_iff]

theorem mem_values_set {dict : Dict κ α} {key : κ} {value other : α}
    (membership : other ∈ (dict.set key value).values) :
    other = value ∨ other ∈ dict.values := by
  obtain ⟨found, lookup⟩ := mem_values_iff.mp membership
  rw [get?_set] at lookup
  split at lookup
  · exact .inl (Option.some.inj lookup).symm
  · exact .inr (mem_values_iff.mpr ⟨found, lookup⟩)

@[simp]
theorem mem_keys_set {dict : Dict κ α} {key other : κ} {value : α} :
    other ∈ (dict.set key value).keys ↔ other = key ∨ other ∈ dict.keys :=
  mem_keys_setEntries

@[simp]
theorem get?_filter (dict : Dict κ α) (keep : κ → α → Bool) (key : κ) :
    (dict.filter keep).get? key = (dict.get? key).filter (keep key) := by
  ext value
  simp [get?_eq_some_iff, filter, Option.filter_eq_some_iff]

@[simp]
theorem get?_erase (dict : Dict κ α) (key other : κ) :
    (dict.erase key).get? other = if other = key then none else dict.get? other := by
  rw [erase, get?_filter]
  by_cases same : other = key
  · simp [same]
  · cases dict.get? other <;> simp [same]

theorem get?_eq_none_iff {dict : Dict κ α} {key : κ} : dict.get? key = none ↔ key ∉ dict.keys := by
  rw [mem_keys_iff]
  cases dict.get? key <;> simp

theorem keys_set_of_absent {dict : Dict κ α} {key : κ} (value : α) (absent : key ∉ dict.keys) :
    (dict.set key value).keys = dict.keys ++ [key] := by
  obtain ⟨entries, distinct⟩ := dict
  simp only [keys, set] at absent ⊢
  clear distinct
  induction entries with
  | nil => rfl
  | cons entry rest inductionHypothesis =>
      simp only [List.map_cons, List.mem_cons, not_or] at absent
      have other : entry.1 ≠ key := fun same => absent.1 same.symm
      simp [setEntries, other, inductionHypothesis absent.2]

theorem keys_erase (dict : Dict κ α) (key : κ) :
    (dict.erase key).keys = dict.keys.filter fun other => other ≠ key := by
  simp [keys, erase, filter, List.filter_map, Function.comp_def]

theorem set_of_get? {dict : Dict κ α} {key : κ} {value : α} (found : dict.get? key = some value) :
    dict.set key value = dict := by
  obtain ⟨entries, distinct⟩ := dict
  apply ext
  simp only [set, get?] at found ⊢
  clear distinct
  induction entries with
  | nil => cases found
  | cons entry rest inductionHypothesis =>
      by_cases same : entry.1 = key
      · simp only [getEntries, same, if_true, Option.some.injEq] at found
        simp [setEntries, ← found, ← same]
      · simp only [getEntries, same, if_false] at found
        simp [setEntries, same, inductionHypothesis found]

theorem set_set (dict : Dict κ α) (key : κ) (first second : α) :
    (dict.set key first).set key second = dict.set key second := by
  apply ext
  simp only [set]
  induction dict.entries with
  | nil => simp [setEntries]
  | cons entry rest inductionHypothesis =>
      by_cases same : entry.1 = key
      · simp [setEntries, same]
      · simp [setEntries, same, inductionHypothesis]

theorem erase_set {dict : Dict κ α} {key : κ} {value : α} (absent : dict.get? key = none) :
    (dict.set key value).erase key = dict := by
  obtain ⟨entries, distinct⟩ := dict
  apply ext
  simp only [set, erase, filter, get?] at absent ⊢
  clear distinct
  induction entries with
  | nil => simp [setEntries]
  | cons entry rest inductionHypothesis =>
      by_cases same : entry.1 = key
      · simp [getEntries, same] at absent
      · simp only [getEntries, same, if_false] at absent
        simp only [setEntries, same, if_false]
        rw [List.filter_cons_of_pos (by simpa using same), inductionHypothesis absent]

theorem getEntries_append (key : κ) (first second : List (κ × α)) :
    getEntries key (first ++ second) = (getEntries key first).or (getEntries key second) := by
  induction first with
  | nil => simp [getEntries]
  | cons pair rest inductionHypothesis =>
      by_cases same : pair.1 = key <;> simp [getEntries, same, inductionHypothesis]

/-- The last pair with the key decides. -/
theorem get?_ofList (pairs : List (κ × α)) (key : κ) :
    (ofList pairs).get? key = getEntries key pairs.reverse := by
  have general : ∀ dict : Dict κ α,
      (pairs.foldl (fun dict pair => dict.set pair.1 pair.2) dict).get? key =
        (getEntries key pairs.reverse).or (dict.get? key) := by
    induction pairs with
    | nil => simp [getEntries]
    | cons pair rest inductionHypothesis =>
        intro dict
        rw [List.foldl_cons, inductionHypothesis, List.reverse_cons, getEntries_append,
          get?_set]
        by_cases same : pair.1 = key
        · simp [getEntries, same]
        · have other : key ≠ pair.1 := fun equal => same equal.symm
          simp [getEntries, same, other]
  simpa [ofList] using general empty

end Dict
