import Mathlib.Data.List.Nodup
import Mathlib.Data.List.Basic

/-!
# Tables with an integer primary key

A table is a list of rows no two of which have the same id.  A new row gets
the largest id in the table plus one, the rule of a rowid table that does not
remember deleted ids: deleting the newest row makes its id available again.
-/

/-- Rows that carry their own primary key. -/
class Keyed (α : Type) where
  id : α → Nat
  withId : Nat → α → α
  id_withId : ∀ key row, id (withId key row) = key

structure Table (α : Type) [Keyed α] where
  rows : List α
  distinct : (rows.map Keyed.id).Nodup

namespace Table

variable {α : Type} [Keyed α]

instance [DecidableEq α] : DecidableEq (Table α) := fun first second =>
  decidable_of_iff (first.rows = second.rows) (by
    cases first
    cases second
    simp)

def empty : Table α := ⟨[], by simp⟩

def get? (table : Table α) (key : Nat) : Option α :=
  table.rows.find? fun row => Keyed.id row = key

def nextId (table : Table α) : Nat :=
  (table.rows.map Keyed.id).foldr max 0 + 1

theorem id_lt_nextId {table : Table α} {row : α} (membership : row ∈ table.rows) :
    Keyed.id row < table.nextId := by
  have bounded : ∀ ids : List Nat, ∀ key ∈ ids, key ≤ ids.foldr max 0 := by
    intro ids
    induction ids with
    | nil => simp
    | cons first rest inductionHypothesis =>
        intro key present
        rcases List.mem_cons.mp present with rfl | later
        · exact Nat.le_max_left _ _
        · exact Nat.le_trans (inductionHypothesis key later) (Nat.le_max_right _ _)
  exact Nat.lt_succ_of_le (bounded _ _ (List.mem_map_of_mem membership))

theorem nextId_fresh (table : Table α) : table.nextId ∉ table.rows.map Keyed.id := by
  intro present
  obtain ⟨row, membership, same⟩ := List.mem_map.mp present
  exact absurd same (Nat.ne_of_lt (id_lt_nextId membership))

/-- Store a row under the next id. -/
def insert (table : Table α) (row : α) : Table α where
  rows := table.rows ++ [Keyed.withId table.nextId row]
  distinct := by
    simp only [List.map_append, List.map_cons, List.map_nil, Keyed.id_withId]
    exact List.Nodup.append table.distinct (by simp)
      (by simpa [List.Disjoint] using table.nextId_fresh)

/-- Change the row with this key, if there is one; its key stays. -/
def update (table : Table α) (key : Nat) (change : α → α) : Table α where
  rows := table.rows.map fun row =>
    if Keyed.id row = key then Keyed.withId key (change row) else row
  distinct := by
    have same : (table.rows.map fun row =>
        if Keyed.id row = key then Keyed.withId key (change row) else row).map Keyed.id =
          table.rows.map Keyed.id := by
      rw [List.map_map]
      refine List.map_congr_left fun row _ => ?_
      by_cases here : Keyed.id row = key
      · simp [here, Keyed.id_withId]
      · simp [here]
    exact same ▸ table.distinct

def delete (table : Table α) (key : Nat) : Table α where
  rows := table.rows.filter fun row => Keyed.id row ≠ key
  distinct := table.distinct.sublist (List.filter_sublist.map _)

/-- Change every row; keys stay. -/
def map (table : Table α) (change : α → α) : Table α where
  rows := table.rows.map fun row => Keyed.withId (Keyed.id row) (change row)
  distinct := by
    have same : (table.rows.map fun row => Keyed.withId (Keyed.id row) (change row)).map Keyed.id =
        table.rows.map Keyed.id := by
      rw [List.map_map]
      exact List.map_congr_left fun row _ => Keyed.id_withId _ _
    exact same ▸ table.distinct

@[simp]
theorem get?_empty (key : Nat) : (empty : Table α).get? key = none := rfl

theorem get?_eq_some_iff {table : Table α} {key : Nat} {row : α} :
    table.get? key = some row ↔ row ∈ table.rows ∧ Keyed.id row = key := by
  obtain ⟨rows, distinct⟩ := table
  simp only [get?]
  induction rows with
  | nil => simp
  | cons first rest inductionHypothesis =>
      simp only [List.map_cons, List.nodup_cons] at distinct
      by_cases here : Keyed.id first = key
      · subst here
        have absent : ∀ other ∈ rest, Keyed.id other ≠ Keyed.id first := fun other membership same =>
          distinct.1 (List.mem_map.mpr ⟨other, membership, same⟩)
        simp only [List.find?_cons, decide_true, Option.some.injEq, List.mem_cons]
        constructor
        · rintro rfl
          exact ⟨.inl rfl, rfl⟩
        · rintro ⟨rfl | later, same⟩
          · rfl
          · exact absurd same (absent row later)
      · simp only [List.find?_cons, here, decide_false, inductionHypothesis distinct.2,
          List.mem_cons]
        constructor
        · exact fun found => ⟨.inr found.1, found.2⟩
        · rintro ⟨rfl | later, same⟩
          · exact absurd same here
          · exact ⟨later, same⟩

theorem id_of_get? {table : Table α} {key : Nat} {row : α} (found : table.get? key = some row) :
    Keyed.id row = key :=
  (get?_eq_some_iff.mp found).2

theorem mem_rows_iff {table : Table α} {row : α} :
    row ∈ table.rows ↔ table.get? (Keyed.id row) = some row := by
  simp [get?_eq_some_iff]

theorem get?_eq_none_iff {table : Table α} {key : Nat} :
    table.get? key = none ↔ ∀ row ∈ table.rows, Keyed.id row ≠ key := by
  simp [get?]

@[simp]
theorem get?_nextId (table : Table α) : table.get? table.nextId = none :=
  get?_eq_none_iff.mpr fun _ membership => Nat.ne_of_lt (id_lt_nextId membership)

@[simp]
theorem get?_insert (table : Table α) (row : α) (key : Nat) :
    (table.insert row).get? key =
      if key = table.nextId then some (Keyed.withId table.nextId row) else table.get? key := by
  simp only [get?, insert, List.find?_append, List.find?_cons, List.find?_nil, Keyed.id_withId]
  by_cases here : key = table.nextId
  · subst here
    have absent : (table.rows.find? fun row => decide (Keyed.id row = table.nextId)) = none :=
      get?_nextId table
    simp [absent]
  · have other : table.nextId ≠ key := fun same => here same.symm
    simp [here, other]

@[simp]
theorem get?_update (table : Table α) (key other : Nat) (change : α → α) :
    (table.update key change).get? other =
      if other = key then (table.get? key).map fun row => Keyed.withId key (change row)
      else table.get? other := by
  ext row
  by_cases here : other = key
  · subst here
    simp only [get?_eq_some_iff, update, List.mem_map, if_true, Option.map_eq_some_iff]
    constructor
    · rintro ⟨⟨old, membership, rfl⟩, same⟩
      by_cases changed : Keyed.id old = other
      · exact ⟨old, ⟨membership, changed⟩, by simp [changed]⟩
      · simp only [changed, if_false] at same
    · rintro ⟨old, ⟨membership, same⟩, rfl⟩
      exact ⟨⟨old, membership, by simp [same]⟩, Keyed.id_withId _ _⟩
  · simp only [get?_eq_some_iff, update, List.mem_map, here, if_false]
    constructor
    · rintro ⟨⟨old, membership, rfl⟩, same⟩
      by_cases changed : Keyed.id old = key
      · simp only [changed, if_true, Keyed.id_withId] at same
        exact absurd same.symm here
      · simpa only [changed, if_false] using ⟨membership, by simpa [changed] using same⟩
    · rintro ⟨membership, same⟩
      exact ⟨⟨row, membership, by simp [same, here]⟩, same⟩

theorem get?_updated {table : Table α} {key : Nat} {row : α} (change : α → α)
    (found : table.get? key = some row) :
    (table.update key change).get? key = some (Keyed.withId key (change row)) := by
  simp [found]

@[simp]
theorem get?_delete (table : Table α) (key other : Nat) :
    (table.delete key).get? other = if other = key then none else table.get? other := by
  ext row
  by_cases here : other = key
  · subst here
    simp [get?_eq_some_iff, delete]
  · simp only [get?_eq_some_iff, delete, List.mem_filter, decide_eq_true_eq, here, if_false]
    constructor
    · exact fun found => ⟨found.1.1, found.2⟩
    · exact fun found => ⟨⟨found.1, fun same => here (found.2.symm.trans same)⟩, found.2⟩

@[simp]
theorem get?_map (table : Table α) (change : α → α) (key : Nat) :
    (table.map change).get? key =
      (table.get? key).map fun row => Keyed.withId key (change row) := by
  ext row
  simp only [get?_eq_some_iff, map, List.mem_map, Option.map_eq_some_iff]
  constructor
  · rintro ⟨⟨old, membership, rfl⟩, same⟩
    rw [Keyed.id_withId] at same
    subst same
    exact ⟨old, ⟨membership, rfl⟩, rfl⟩
  · rintro ⟨old, ⟨membership, rfl⟩, rfl⟩
    exact ⟨⟨old, membership, rfl⟩, Keyed.id_withId _ _⟩

/-- The table around the row with this key. -/
theorem exists_rows_eq {table : Table α} {key : Nat} {row : α} (found : table.get? key = some row) :
    ∃ before after, table.rows = before ++ row :: after ∧
      ∀ other ∈ before ++ after, Keyed.id other ≠ key := by
  obtain ⟨membership, rfl⟩ := get?_eq_some_iff.mp found
  obtain ⟨before, after, whole⟩ := List.append_of_mem membership
  refine ⟨before, after, whole, fun other listed same => ?_⟩
  have distinct := table.distinct
  rw [whole, List.map_append, List.map_cons] at distinct
  have apart := (List.nodup_middle.mp distinct)
  rw [List.nodup_cons, ← List.map_append] at apart
  exact apart.1 (same ▸ List.mem_map_of_mem listed)

theorem rows_delete_of_rows_eq {table : Table α} {key : Nat} {row : α} {before after : List α}
    (here : Keyed.id row = key) (whole : table.rows = before ++ row :: after)
    (apart : ∀ other ∈ before ++ after, Keyed.id other ≠ key) :
    (table.delete key).rows = before ++ after := by
  have others : (before ++ after).filter (fun row => Keyed.id row ≠ key) = before ++ after :=
    List.filter_eq_self.mpr fun other listed => by simpa using apart other listed
  rw [List.filter_append] at others
  simp only [delete, whole, List.filter_append, List.filter_cons, here]
  simpa using others

/-- One row and the rest. -/
theorem rows_perm {table : Table α} {key : Nat} {row : α} (found : table.get? key = some row) :
    table.rows.Perm (row :: (table.delete key).rows) := by
  obtain ⟨before, after, whole, apart⟩ := exists_rows_eq found
  rw [rows_delete_of_rows_eq (id_of_get? found) whole apart, whole]
  exact List.perm_middle

/-- A changed row and the rest, which is as before. -/
theorem rows_update_perm {table : Table α} {key : Nat} {row : α} (change : α → α)
    (found : table.get? key = some row) :
    (table.update key change).rows.Perm (Keyed.withId key (change row) :: (table.delete key).rows) := by
  obtain ⟨before, after, whole, apart⟩ := exists_rows_eq found
  have others : (before ++ after).map (fun row =>
      if Keyed.id row = key then Keyed.withId key (change row) else row) = before ++ after := by
    conv_rhs => rw [← List.map_id (before ++ after)]
    apply List.map_congr_left
    intro other listed
    rw [if_neg (apart other listed)]
    rfl
  rw [List.map_append] at others
  rw [rows_delete_of_rows_eq (id_of_get? found) whole apart, ← others]
  simp only [update, whole, List.map_append, List.map_cons, if_pos (id_of_get? found)]
  exact List.perm_middle

end Table
