import AptlyGui.Library.Relational

/-!
# Revision histories of a schema

Revisions name the one they follow, and a database carries the name of the last
one applied to it.  Upgrading follows the links up to the head; a database
without a name can be recognised by what its schema already has.
-/

namespace Relational

variable {κ α τ σ : Type}

structure Revision (κ α : Type) where
  id : String
  down : Option String
  upgrade : List (Change κ α)
  downgrade : List (Change κ α)

/-- A store and the revision it is stamped with. -/
structure Versioned (κ α : Type) where
  tables : Store κ α
  stamp : Option String

/-- The revisions from one on, each the one that names the last as its predecessor. -/
def lineage (revisions : List (Revision κ α)) : Nat → Option String → List (Revision κ α)
  | 0, _ => []
  | fuel + 1, last =>
      match revisions.find? fun revision => revision.down = last with
      | none => []
      | some revision => revision :: lineage revisions fuel (some revision.id)

def pending (revisions : List (Revision κ α)) (last : Option String) : List (Revision κ α) :=
  lineage revisions revisions.length last

/-- The way back from one revision to an earlier one. -/
def descent (revisions : List (Revision κ α)) (target : Option String) :
    Nat → Option String → Option (List (Revision κ α))
  | 0, last => if last = target then some [] else none
  | fuel + 1, last =>
      if last = target then some [] else
        (revisions.find? fun revision => some revision.id = last).bind fun revision =>
          (descent revisions target fuel revision.down).map fun rest => revision :: rest

def known (revisions : List (Revision κ α)) (stamp : Option String) : Bool :=
  stamp.all fun id => revisions.any fun revision => revision.id = id

def stampAfter (passed : List (Revision κ α)) (stamp : Option String) : Option String :=
  passed.foldl (fun _ revision => some revision.id) stamp

/-- A stamp that no revision has is an error. -/
def upgradeToHead [DecidableEq α] (revisions : List (Revision κ α)) (database : Versioned κ α) :
    Option (Versioned κ α) :=
  if known revisions database.stamp then
    (migrate storeOperations ((pending revisions database.stamp).flatMap Revision.upgrade)
        database.tables).map fun tables =>
      ⟨tables, stampAfter (pending revisions database.stamp) database.stamp⟩
  else none

def downgradeTo [DecidableEq α] (revisions : List (Revision κ α)) (target : Option String)
    (database : Versioned κ α) : Option (Versioned κ α) :=
  (descent revisions target revisions.length database.stamp).bind fun passed =>
    (migrate storeOperations (passed.flatMap Revision.downgrade) database.tables).map
      fun tables => ⟨tables, target⟩

/-- What a table, or a column of it, says about the revision a schema has reached. -/
structure Marker where
  revision : String
  table : String
  column : Option String

/-- The markers in order, as long as each is there. -/
def detect (columns : τ → List String) (tables : Dict String τ) :
    List Marker → Option String → Option String
  | [], matched => matched
  | marker :: rest, matched =>
      match tables.get? marker.table with
      | none => matched
      | some table =>
          if marker.column.all fun column => column ∈ columns table then
            detect columns tables rest (some marker.revision)
          else matched

theorem detect_congr {first : Dict String τ} {second : Dict String σ} {owned : List String}
    {related : τ → σ → Prop} {columns : τ → List String} {names : σ → List String}
    (same : ∀ here there, related here there → ∀ name, name ∈ columns here ↔ name ∈ names there)
    (agree : Matches owned related first second) {markers : List Marker}
    (mine : ∀ marker ∈ markers, marker.table ∈ owned) (matched : Option String) :
    detect columns first markers matched = detect names second markers matched := by
  induction markers generalizing matched with
  | nil => rfl
  | cons marker rest inductionHypothesis =>
      have later := inductionHypothesis fun other present =>
        mine other (List.mem_cons_of_mem marker present)
      have here := agree marker.table (mine marker List.mem_cons_self)
      simp only [detect]
      cases located : first.get? marker.table with
      | none =>
          rw [located] at here
          cases found : second.get? marker.table with
          | none => rfl
          | some other => rw [found] at here; cases here
      | some table =>
          rw [located] at here
          cases found : second.get? marker.table with
          | none => rw [found] at here; cases here
          | some other =>
              rw [found] at here
              cases here with
              | some fine =>
                  have equal : (marker.column.all fun column => column ∈ columns table) =
                      marker.column.all fun column => column ∈ names other := by
                    cases marker.column with
                    | none => rfl
                    | some column => simp [same table other fine column]
                  simp only [equal, later]

section Upgrading

variable [DecidableEq α] {revisions : List (Revision κ α)} {database : Versioned κ α}
  {owned : List String} {schema final : Schema κ α}

variable (database) in
/-- An upgrade that works on the schema works on every store that has it. -/
theorem upgradeToHead_of_matches (reachable : known revisions database.stamp = true)
    (mine : ∀ revision ∈ pending revisions database.stamp, ∀ change ∈ revision.upgrade,
      change.table ∈ owned ∧ change.Fillable)
    (agree : Matches owned (fun relation definition => relation.definition.Similar definition)
      database.tables schema)
    (works : migrate schemaOperations
      ((pending revisions database.stamp).flatMap Revision.upgrade) schema = some final) :
    ∃ tables,
      migrate storeOperations ((pending revisions database.stamp).flatMap Revision.upgrade)
        database.tables = some tables ∧
      upgradeToHead revisions database = some
        ⟨tables, stampAfter (pending revisions database.stamp) database.stamp⟩ ∧
      Matches owned (fun relation definition => relation.definition.Similar definition)
        tables final := by
  have each : ∀ change ∈ (pending revisions database.stamp).flatMap Revision.upgrade,
      change.table ∈ owned ∧ change.Fillable := by
    intro change membership
    obtain ⟨revision, present, listed⟩ := List.mem_flatMap.mp membership
    exact mine revision present change listed
  obtain ⟨tables, made, similar⟩ := store_simulates.migrate
    (fun change membership => (each change membership).1)
    (fun change membership => (each change membership).2) agree works
  refine ⟨tables, made, ?_, similar⟩
  rw [upgradeToHead, if_pos reachable, made]
  rfl

/-- A history whose downgrades take back its upgrades can be walked both ways. -/
theorem downgradeTo_upgradeToHead {after : Versioned κ α}
    (upgraded : upgradeToHead revisions database = some after)
    (way : descent revisions database.stamp revisions.length
      (stampAfter (pending revisions database.stamp) database.stamp) =
        some (pending revisions database.stamp).reverse)
    (undoes : ∀ revision ∈ revisions,
      revision.downgrade.map some = revision.upgrade.reverse.map Change.inverse)
    (listed : ∀ revision ∈ pending revisions database.stamp, revision ∈ revisions) :
    downgradeTo revisions database.stamp after = some database := by
  unfold upgradeToHead at upgraded
  split at upgraded
  case isFalse => cases upgraded
  case isTrue =>
    obtain ⟨tables, made, rfl⟩ := Option.map_eq_some_iff.mp upgraded
    have backs : ∀ passed : List (Revision κ α), (∀ revision ∈ passed, revision ∈ revisions) →
        (passed.reverse.flatMap Revision.downgrade).map some =
          (passed.flatMap Revision.upgrade).reverse.map Change.inverse := by
      intro passed
      induction passed with
      | nil => exact fun _ => rfl
      | cons revision rest inductionHypothesis =>
          intro within
          have one := undoes revision (within revision List.mem_cons_self)
          have others := inductionHypothesis fun other later =>
            within other (List.mem_cons_of_mem revision later)
          simp only [List.reverse_cons, List.flatMap_append, List.flatMap_cons, List.flatMap_nil,
            List.append_nil, List.map_append, List.reverse_append, one, others]
    simp only [downgradeTo, way, Option.bind_some]
    rw [migrate_inverse (backs _ listed) made]
    rfl

end Upgrading

end Relational
