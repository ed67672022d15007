import AptlyGui.Library.Dict
import Mathlib.Data.List.Forall2

/-!
# Relational stores and changes to their schema

Tables with named columns, rows that fit them, and the four changes a schema
migration is written in.  A change is one definition over whatever stands for
a table, so that the store with its rows and the bare schema share it.
-/

namespace Relational

variable {κ α τ σ : Type}

/-- `fill` is the value that rows already there take when the column is added. -/
structure Column (κ α : Type) where
  kind : κ
  nullable : Bool
  fill : Option α
  deriving DecidableEq

/-- What two declarations of one column have to agree on. -/
def Column.shape (column : Column κ α) : κ × Bool := (column.kind, column.nullable)

/-- Rows that exist can take the column. -/
def Column.Fillable (column : Column κ α) : Prop := column.nullable = true ∨ column.fill ≠ none

instance [DecidableEq α] (column : Column κ α) : Decidable column.Fillable :=
  inferInstanceAs (Decidable (_ ∨ _))

inductive Constraint
  | primaryKey (columns : List String)
  | unique (columns : List String)
  | foreignKey (columns : List String) (table : String) (targets : List String)
  deriving DecidableEq

def Constraint.columns : Constraint → List String
  | .primaryKey columns => columns
  | .unique columns => columns
  | .foreignKey columns _ _ => columns

/-- A table's columns in their order, and constraints over none but these. -/
@[ext]
structure Definition (κ α : Type) where
  columns : Dict String (Column κ α)
  constraints : List Constraint
  covered : ∀ constraint ∈ constraints, ∀ name ∈ constraint.columns, name ∈ columns.keys

abbrev Row (α : Type) := Dict String (Option α)

namespace Definition

/-- The row has a cell for every column, in the columns' order, and NULL only where it may. -/
def Fits (definition : Definition κ α) (row : Row α) : Prop :=
  row.keys = definition.columns.keys ∧
    ∀ entry ∈ definition.columns.entries, row.get? entry.1 = some none → entry.2.nullable = true

instance [DecidableEq α] (definition : Definition κ α) (row : Row α) :
    Decidable (definition.Fits row) := inferInstanceAs (Decidable (_ ∧ _))

def extended (definition : Definition κ α) (name : String) (column : Column κ α) :
    Definition κ α where
  columns := definition.columns.set name column
  constraints := definition.constraints
  covered := fun constraint membership other mentioned =>
    Dict.mem_keys_set.mpr (.inr (definition.covered constraint membership other mentioned))

def reduced (definition : Definition κ α) (name : String)
    (free : ∀ constraint ∈ definition.constraints, name ∉ constraint.columns) :
    Definition κ α where
  columns := definition.columns.erase name
  constraints := definition.constraints
  covered := by
    intro constraint membership other mentioned
    rw [Dict.keys_erase]
    have different : other ≠ name := fun same =>
      free constraint membership (same ▸ mentioned)
    simpa [different] using definition.covered constraint membership other mentioned

/-- A second column of one name is an error. -/
def addColumn (definition : Definition κ α) (name : String) (column : Column κ α) :
    Option (Definition κ α) :=
  if name ∈ definition.columns.keys then none else some (definition.extended name column)

/-- A column that is missing, or that a constraint rests on, cannot be dropped. -/
def dropColumn (definition : Definition κ α) (name : String) : Option (Definition κ α) :=
  if name ∈ definition.columns.keys then
    if free : ∀ constraint ∈ definition.constraints, name ∉ constraint.columns then
      some (definition.reduced name free)
    else none
  else none

theorem Fits.extended {definition : Definition κ α} {row : Row α} {name : String}
    {column : Column κ α} (fits : definition.Fits row)
    (absent : name ∉ definition.columns.keys) (fillable : column.Fillable) :
    (definition.extended name column).Fits (row.set name column.fill) := by
  constructor
  · have missing : name ∉ row.keys := by rwa [fits.1]
    rw [Dict.keys_set_of_absent _ missing, fits.1]
    exact (Dict.keys_set_of_absent _ absent).symm
  · intro entry present cell
    have lookup := Dict.get?_eq_some_iff.mpr present
    simp only [Definition.extended, Dict.get?_set] at lookup cell
    by_cases same : entry.1 = name
    · simp only [same, if_true, Option.some.injEq] at lookup cell
      rw [← lookup]
      exact fillable.resolve_right (not_not.mpr cell)
    · simp only [same, if_false] at lookup cell
      exact fits.2 entry (Dict.get?_eq_some_iff.mp lookup) cell

theorem Fits.reduced {definition : Definition κ α} {row : Row α} {name : String}
    (free : ∀ constraint ∈ definition.constraints, name ∉ constraint.columns)
    (fits : definition.Fits row) : (definition.reduced name free).Fits (row.erase name) := by
  constructor
  · rw [Dict.keys_erase, fits.1]
    exact (Dict.keys_erase _ _).symm
  · intro entry present cell
    have lookup := Dict.get?_eq_some_iff.mpr present
    simp only [Definition.reduced, Dict.get?_erase] at lookup cell
    by_cases same : entry.1 = name
    · simp [same] at lookup
    · simp only [same, if_false] at lookup cell
      exact fits.2 entry (Dict.get?_eq_some_iff.mp lookup) cell

/-- One table described twice: column order and server defaults may differ. -/
def Similar (first second : Definition κ α) : Prop :=
  (∀ name, (first.columns.get? name).map Column.shape =
    (second.columns.get? name).map Column.shape) ∧
  first.constraints.Perm second.constraints

theorem Similar.trans {first second third : Definition κ α} (earlier : first.Similar second)
    (later : second.Similar third) : first.Similar third :=
  ⟨fun name => (earlier.1 name).trans (later.1 name), earlier.2.trans later.2⟩

theorem Similar.mem_keys_iff {first second : Definition κ α} (similar : first.Similar second)
    (name : String) : name ∈ first.columns.keys ↔ name ∈ second.columns.keys := by
  have same := similar.1 name
  rw [Dict.mem_keys_iff, Dict.mem_keys_iff]
  cases here : first.columns.get? name <;> cases there : second.columns.get? name <;>
    simp_all

theorem Similar.extended {first second : Definition κ α} (similar : first.Similar second)
    (name : String) (column : Column κ α) :
    (first.extended name column).Similar (second.extended name column) := by
  refine ⟨fun other => ?_, similar.2⟩
  simp only [Definition.extended, Dict.get?_set]
  by_cases same : other = name
  · simp [same]
  · simpa [same] using similar.1 other

theorem Similar.reduced {first second : Definition κ α} {name : String}
    (firstFree : ∀ constraint ∈ first.constraints, name ∉ constraint.columns)
    (secondFree : ∀ constraint ∈ second.constraints, name ∉ constraint.columns)
    (similar : first.Similar second) :
    (first.reduced name firstFree).Similar (second.reduced name secondFree) := by
  refine ⟨fun other => ?_, similar.2⟩
  simp only [Definition.reduced, Dict.get?_erase]
  by_cases same : other = name
  · simp [same]
  · simpa [same] using similar.1 other

/-- Both list the same columns and constraints, each in any order. -/
def Alike [DecidableEq κ] (first second : Definition κ α) : Bool :=
  (first.columns.entries.map fun entry => (entry.1, entry.2.shape)).isPerm
      (second.columns.entries.map fun entry => (entry.1, entry.2.shape)) &&
    first.constraints.isPerm second.constraints

theorem Similar.of_alike [DecidableEq κ] {first second : Definition κ α}
    (alike : first.Alike second = true) : first.Similar second := by
  obtain ⟨columns, constraints⟩ := Bool.and_eq_true_iff.mp alike
  rw [List.isPerm_iff] at columns constraints
  refine ⟨fun name => Option.ext fun shape => ?_, constraints⟩
  have listed : ∀ definition : Definition κ α,
      (definition.columns.get? name).map Column.shape = some shape ↔
        (name, shape) ∈ definition.columns.entries.map fun entry => (entry.1, entry.2.shape) := by
    intro definition
    simp only [Option.map_eq_some_iff, Dict.get?_eq_some_iff, List.mem_map, Prod.mk.injEq,
      Prod.exists]
    constructor
    · rintro ⟨column, present, same⟩
      exact ⟨name, column, present, rfl, same⟩
    · rintro ⟨_, column, present, rfl, same⟩
      exact ⟨column, present, same⟩
  rw [listed, listed]
  exact columns.mem_iff

end Definition

/-- A table with its rows. -/
@[ext]
structure Relation (κ α : Type) where
  definition : Definition κ α
  rows : List (Row α)
  fits : ∀ row ∈ rows, definition.Fits row

namespace Relation

def fresh (definition : Definition κ α) : Relation κ α := ⟨definition, [], by simp⟩

/-- A NOT NULL column needs a server default as soon as there is a row to give it to. -/
def addColumn [DecidableEq α] (relation : Relation κ α) (name : String) (column : Column κ α) :
    Option (Relation κ α) :=
  if absent : name ∉ relation.definition.columns.keys then
    if fillable : column.Fillable ∨ relation.rows = [] then
      some {
        definition := relation.definition.extended name column
        rows := relation.rows.map fun row => row.set name column.fill
        fits := by
          intro row membership
          obtain ⟨old, present, rfl⟩ := List.mem_map.mp membership
          have nonempty : relation.rows ≠ [] := List.ne_nil_of_mem present
          exact (relation.fits old present).extended absent (fillable.resolve_right nonempty) }
    else none
  else none

def dropColumn (relation : Relation κ α) (name : String) : Option (Relation κ α) :=
  if name ∈ relation.definition.columns.keys then
    if free : ∀ constraint ∈ relation.definition.constraints, name ∉ constraint.columns then
      some {
        definition := relation.definition.reduced name free
        rows := relation.rows.map fun row => row.erase name
        fits := by
          intro row membership
          obtain ⟨old, present, rfl⟩ := List.mem_map.mp membership
          exact (relation.fits old present).reduced free }
    else none
  else none

theorem dropColumn_addColumn [DecidableEq α] {relation extended : Relation κ α} {name : String}
    {column : Column κ α} (added : relation.addColumn name column = some extended) :
    extended.dropColumn name = some relation := by
  unfold addColumn at added
  split at added
  case isFalse => cases added
  case isTrue absent =>
    split at added
    case isFalse => cases added
    case isTrue fillable =>
      obtain rfl := Option.some.inj added
      have present : name ∈ (relation.definition.extended name column).columns.keys :=
        Dict.mem_keys_set.mpr (.inl rfl)
      have free : ∀ constraint ∈ (relation.definition.extended name column).constraints,
          name ∉ constraint.columns := fun constraint membership mentioned =>
        absent (relation.definition.covered constraint membership name mentioned)
      simp only [dropColumn]
      rw [if_pos present, dif_pos free]
      congr 1
      apply Relation.ext
      · apply Definition.ext
        · exact Dict.erase_set (Dict.get?_eq_none_iff.mpr absent)
        · rfl
      · simp only [List.map_map]
        -- No row had a cell of that name, so erasing it gives the row back.
        have unchanged : ∀ row ∈ relation.rows,
            ((fun row : Row α => row.erase name) ∘ fun row => row.set name column.fill) row =
              row := by
          intro row membership
          have missing : name ∉ row.keys := by rwa [(relation.fits row membership).1]
          exact Dict.erase_set (Dict.get?_eq_none_iff.mpr missing)
        exact (List.map_congr_left unchanged).trans (List.map_id _)

end Relation

/-- What the changes need of the tables they are made on. -/
structure Operations (κ α τ : Type) where
  create : Definition κ α → τ
  addColumn : τ → String → Column κ α → Option τ
  dropColumn : τ → String → Option τ

abbrev Schema (κ α : Type) := Dict String (Definition κ α)

abbrev Store (κ α : Type) := Dict String (Relation κ α)

def schemaOperations : Operations κ α (Definition κ α) :=
  ⟨id, Definition.addColumn, Definition.dropColumn⟩

def storeOperations [DecidableEq α] : Operations κ α (Relation κ α) :=
  ⟨Relation.fresh, Relation.addColumn, Relation.dropColumn⟩

inductive Change (κ α : Type)
  | createTable (table : String) (definition : Definition κ α)
  | dropTable (table : String)
  | addColumn (table : String) (name : String) (column : Column κ α)
  | dropColumn (table : String) (name : String)

namespace Change

def table : Change κ α → String
  | .createTable table _ => table
  | .dropTable table => table
  | .addColumn table _ _ => table
  | .dropColumn table _ => table

/-- The change that takes back one that adds; what was dropped cannot be taken back. -/
def inverse : Change κ α → Option (Change κ α)
  | .createTable table _ => some (.dropTable table)
  | .addColumn table name _ => some (.dropColumn table name)
  | .dropTable _ => none
  | .dropColumn _ _ => none

/-- The change cannot fail for the rows it meets. -/
def Fillable : Change κ α → Prop
  | .addColumn _ _ column => column.Fillable
  | _ => True

instance [DecidableEq α] (change : Change κ α) : Decidable change.Fillable := by
  cases change <;> simp only [Fillable] <;> infer_instance

variable (operations : Operations κ α τ)

def on (change : Change κ α) (tables : Dict String τ) : Option (Dict String τ) :=
  match change with
  | .createTable table definition =>
      match tables.get? table with
      | some _ => none
      | none => some (tables.set table (operations.create definition))
  | .dropTable table => (tables.get? table).map fun _ => tables.erase table
  | .addColumn table name column =>
      ((tables.get? table).bind fun found => operations.addColumn found name column).map
        fun changed => tables.set table changed
  | .dropColumn table name =>
      ((tables.get? table).bind fun found => operations.dropColumn found name).map
        fun changed => tables.set table changed

end Change

/-- The changes one after the other, as far as none fails. -/
def migrate (operations : Operations κ α τ) (changes : List (Change κ α))
    (tables : Dict String τ) : Option (Dict String τ) :=
  changes.foldlM (fun current change => change.on operations current) tables

@[simp]
theorem migrate_nil (operations : Operations κ α τ) (tables : Dict String τ) :
    migrate operations [] tables = some tables := rfl

theorem migrate_cons (operations : Operations κ α τ) (change : Change κ α)
    (changes : List (Change κ α)) (tables : Dict String τ) :
    migrate operations (change :: changes) tables =
      (change.on operations tables).bind (migrate operations changes) := rfl

theorem migrate_append (operations : Operations κ α τ) (first second : List (Change κ α))
    (tables : Dict String τ) :
    migrate operations (first ++ second) tables =
      (migrate operations first tables).bind (migrate operations second) :=
  List.foldlM_append

section Simulation

variable {concrete : Operations κ α τ} {abstract : Operations κ α σ} {related : τ → σ → Prop}
  {owned : List String} {first : Dict String τ} {second after : Dict String σ}

/-- Whatever works on the abstract tables works on the concrete ones. -/
structure Simulates (concrete : Operations κ α τ) (abstract : Operations κ α σ)
    (related : τ → σ → Prop) : Prop where
  create : ∀ definition, related (concrete.create definition) (abstract.create definition)
  addColumn : ∀ {here there after} (name : String) {column : Column κ α}, column.Fillable →
    related here there → abstract.addColumn there name column = some after →
      ∃ next, concrete.addColumn here name column = some next ∧ related next after
  dropColumn : ∀ {here there after} (name : String), related here there →
    abstract.dropColumn there name = some after →
      ∃ next, concrete.dropColumn here name = some next ∧ related next after

/-- The owned tables are there or absent together, and related where there. -/
def Matches (owned : List String) (related : τ → σ → Prop) (first : Dict String τ)
    (second : Dict String σ) : Prop :=
  ∀ table ∈ owned, Option.Rel related (first.get? table) (second.get? table)

theorem Matches.trans {υ : Type} {third : Dict String υ} {other : σ → υ → Prop}
    {both : τ → υ → Prop} (compose : ∀ a b c, related a b → other b c → both a c)
    (earlier : Matches owned related first second) (later : Matches owned other second third) :
    Matches owned both first third := by
  intro table membership
  have front := earlier table membership
  have back := later table membership
  revert front back
  generalize first.get? table = a
  generalize second.get? table = b
  generalize third.get? table = c
  intro front back
  cases front with
  | none =>
      cases back
      exact .none
  | some fine =>
      cases back with
      | some same => exact .some (compose _ _ _ fine same)

theorem Matches.set (agree : Matches owned related first second) (table : String) {here : τ}
    {there : σ} (fine : related here there) :
    Matches owned related (first.set table here) (second.set table there) := by
  intro other membership
  rw [Dict.get?_set, Dict.get?_set]
  by_cases same : other = table
  · rw [if_pos same, if_pos same]
    exact .some fine
  · rw [if_neg same, if_neg same]
    exact agree other membership

theorem Matches.erase (agree : Matches owned related first second) (table : String) :
    Matches owned related (first.erase table) (second.erase table) := by
  intro other membership
  rw [Dict.get?_erase, Dict.get?_erase]
  by_cases same : other = table
  · rw [if_pos same, if_pos same]
    exact .none
  · rw [if_neg same, if_neg same]
    exact agree other membership

/-- A check of the tables one by one. -/
def alikeOn [DecidableEq κ] (definition : τ → Definition κ α) (owned : List String)
    (tables : Dict String τ) (schema : Schema κ α) : Bool :=
  owned.all fun table =>
    match tables.get? table, schema.get? table with
    | none, none => true
    | some here, some there => (definition here).Alike there
    | _, _ => false

theorem matches_of_alikeOn [DecidableEq κ] {definition : τ → Definition κ α}
    {schema : Schema κ α} (alike : alikeOn definition owned first schema = true) :
    Matches owned (fun table there => (definition table).Similar there) first schema := by
  intro table membership
  have one := List.all_eq_true.mp alike table membership
  revert one
  generalize first.get? table = here
  generalize schema.get? table = there
  intro one
  cases here with
  | none =>
      cases there with
      | none => exact .none
      | some _ => cases one
  | some _ =>
      cases there with
      | none => cases one
      | some _ => exact .some (.of_alike one)

theorem Simulates.change (simulates : Simulates concrete abstract related)
    {change : Change κ α} (mine : change.table ∈ owned) (fillable : change.Fillable)
    (agree : Matches owned related first second) (done : change.on abstract second = some after) :
    ∃ next, change.on concrete first = some next ∧ Matches owned related next after := by
  cases change with
  | createTable table definition =>
      have here := agree table mine
      simp only [Change.on] at done ⊢
      split at done
      case h_1 => cases done
      case h_2 absent =>
        rw [absent] at here
        obtain rfl := Option.some.inj done
        have missing : first.get? table = none := by
          cases located : first.get? table with
          | none => rfl
          | some found => rw [located] at here; cases here
        rw [missing]
        exact ⟨_, rfl, agree.set table (simulates.create definition)⟩
  | dropTable table =>
      have here := agree table mine
      obtain ⟨found, present, rfl⟩ := Option.map_eq_some_iff.mp done
      rw [present] at here
      cases located : first.get? table with
      | none => rw [located] at here; cases here
      | some counterpart =>
          exact ⟨first.erase table, by simp [Change.on, located], agree.erase table⟩
  | addColumn table name column =>
      have here := agree table mine
      obtain ⟨changed, change, rfl⟩ := Option.map_eq_some_iff.mp done
      obtain ⟨found, present, change⟩ := Option.bind_eq_some_iff.mp change
      rw [present] at here
      cases located : first.get? table with
      | none => rw [located] at here; cases here
      | some counterpart =>
          rw [located] at here
          cases here with
          | some fine =>
              obtain ⟨next, made, still⟩ := simulates.addColumn name fillable fine change
              exact ⟨first.set table next, by simp [Change.on, located, made],
                agree.set table still⟩
  | dropColumn table name =>
      have here := agree table mine
      obtain ⟨changed, change, rfl⟩ := Option.map_eq_some_iff.mp done
      obtain ⟨found, present, change⟩ := Option.bind_eq_some_iff.mp change
      rw [present] at here
      cases located : first.get? table with
      | none => rw [located] at here; cases here
      | some counterpart =>
          rw [located] at here
          cases here with
          | some fine =>
              obtain ⟨next, made, still⟩ := simulates.dropColumn name fine change
              exact ⟨first.set table next, by simp [Change.on, located, made],
                agree.set table still⟩

theorem Simulates.migrate (simulates : Simulates concrete abstract related)
    {changes : List (Change κ α)} (mine : ∀ change ∈ changes, change.table ∈ owned)
    (fillable : ∀ change ∈ changes, change.Fillable)
    (agree : Matches owned related first second)
    (done : migrate abstract changes second = some after) :
    ∃ next, Relational.migrate concrete changes first = some next ∧
      Matches owned related next after := by
  induction changes generalizing first second with
  | nil =>
      obtain rfl := Option.some.inj done
      exact ⟨first, rfl, agree⟩
  | cons change rest inductionHypothesis =>
      rw [migrate_cons] at done
      obtain ⟨middle, one, others⟩ := Option.bind_eq_some_iff.mp done
      obtain ⟨step, made, still⟩ := simulates.change (mine change List.mem_cons_self)
        (fillable change List.mem_cons_self) agree one
      obtain ⟨next, rest_made, result⟩ := inductionHypothesis
        (fun other later => mine other (List.mem_cons_of_mem change later))
        (fun other later => fillable other (List.mem_cons_of_mem change later)) still others
      exact ⟨next, by rw [migrate_cons, made]; exact rest_made, result⟩

end Simulation

/-- The schema is what a store's changes depend on, up to order and defaults. -/
theorem store_simulates [DecidableEq α] :
    Simulates (storeOperations : Operations κ α (Relation κ α)) schemaOperations
      fun relation definition => relation.definition.Similar definition where
  create := fun definition => ⟨fun _ => rfl, List.Perm.refl _⟩
  addColumn := by
    intro relation definition after name column fillable similar added
    simp only [schemaOperations, Definition.addColumn] at added
    split at added
    case isTrue => cases added
    case isFalse absent =>
      obtain rfl := Option.some.inj added
      have missing : name ∉ relation.definition.columns.keys := fun present =>
        absent ((similar.mem_keys_iff name).mp present)
      have ready : column.Fillable ∨ relation.rows = [] := .inl fillable
      simp only [storeOperations, Relation.addColumn]
      rw [dif_pos missing, dif_pos ready]
      exact ⟨_, rfl, similar.extended name column⟩
  dropColumn := by
    intro relation definition after name similar dropped
    simp only [schemaOperations, Definition.dropColumn] at dropped
    split at dropped
    case isFalse => cases dropped
    case isTrue present =>
      split at dropped
      case isFalse => cases dropped
      case isTrue free =>
        obtain rfl := Option.some.inj dropped
        have here : name ∈ relation.definition.columns.keys :=
          (similar.mem_keys_iff name).mpr present
        have loose : ∀ constraint ∈ relation.definition.constraints,
            name ∉ constraint.columns := fun constraint membership =>
          free constraint (similar.2.mem_iff.mp membership)
        simp only [storeOperations, Relation.dropColumn]
        rw [if_pos here, dif_pos loose]
        exact ⟨_, rfl, similar.reduced loose free⟩

theorem Change.on_frame {operations : Operations κ α τ} {change : Change κ α}
    {tables after : Dict String τ} {table : String} (elsewhere : table ≠ change.table)
    (done : change.on operations tables = some after) :
    after.get? table = tables.get? table := by
  cases change with
  | createTable name definition =>
      simp only [Change.on] at done
      split at done
      case h_1 => cases done
      case h_2 =>
        obtain rfl := Option.some.inj done
        rw [Dict.get?_set]
        exact if_neg elsewhere
  | dropTable name =>
      obtain ⟨_, _, rfl⟩ := Option.map_eq_some_iff.mp done
      rw [Dict.get?_erase]
      exact if_neg elsewhere
  | addColumn name column definition =>
      obtain ⟨_, _, rfl⟩ := Option.map_eq_some_iff.mp done
      rw [Dict.get?_set]
      exact if_neg elsewhere
  | dropColumn name column =>
      obtain ⟨_, _, rfl⟩ := Option.map_eq_some_iff.mp done
      rw [Dict.get?_set]
      exact if_neg elsewhere

/-- Only the tables that are named change. -/
theorem migrate_frame {operations : Operations κ α τ} {changes : List (Change κ α)}
    {tables after : Dict String τ} {table : String}
    (elsewhere : ∀ change ∈ changes, table ≠ change.table)
    (done : migrate operations changes tables = some after) :
    after.get? table = tables.get? table := by
  induction changes generalizing tables with
  | nil =>
      obtain rfl := Option.some.inj done
      rfl
  | cons change rest inductionHypothesis =>
      rw [migrate_cons] at done
      obtain ⟨middle, one, others⟩ := Option.bind_eq_some_iff.mp done
      have later := inductionHypothesis
        (fun other present => elsewhere other (List.mem_cons_of_mem _ present)) others
      exact later.trans (Change.on_frame (elsewhere change List.mem_cons_self) one)

section Growth

variable [DecidableEq α]

theorem forall₂_trans {β γ δ : Type} {first : β → γ → Prop} {second : γ → δ → Prop}
    {both : β → δ → Prop} (compose : ∀ a b c, first a b → second b c → both a c)
    {here : List β} {middle : List γ} {there : List δ} (earlier : List.Forall₂ first here middle)
    (later : List.Forall₂ second middle there) : List.Forall₂ both here there := by
  induction earlier generalizing there with
  | nil =>
      cases later
      exact .nil
  | cons head _ inductionHypothesis =>
      cases later with
      | cons next rest => exact .cons (compose _ _ _ head next) (inductionHypothesis rest)

/-- Every old cell is where it was and every new column holds its default. -/
structure Relation.ExtendedBy (changes : List (Change κ α)) (table : String)
    (old new : Relation κ α) : Prop where
  kept : ∀ name column, old.definition.columns.get? name = some column →
    new.definition.columns.get? name = some column
  added : ∀ name column, new.definition.columns.get? name = some column →
    old.definition.columns.get? name = none → .addColumn table name column ∈ changes
  constraints : new.definition.constraints = old.definition.constraints
  rows : List.Forall₂ (fun before after =>
      (∀ name cell, before.get? name = some cell → after.get? name = some cell) ∧
      ∀ name column, new.definition.columns.get? name = some column →
        old.definition.columns.get? name = none → after.get? name = some column.fill)
    old.rows new.rows

omit [DecidableEq α] in
theorem Relation.ExtendedBy.refl (changes : List (Change κ α)) (table : String)
    (relation : Relation κ α) : relation.ExtendedBy changes table relation where
  kept := fun _ _ present => present
  added := by
    intro name column present absent
    rw [absent] at present
    cases present
  constraints := rfl
  rows := by
    apply List.forall₂_same.mpr
    intro row membership
    refine ⟨fun _ _ present => present, fun name column present absent => ?_⟩
    rw [absent] at present
    cases present

omit [DecidableEq α] in
theorem Relation.ExtendedBy.trans {first second : List (Change κ α)} {table : String}
    {old middle new : Relation κ α} (earlier : old.ExtendedBy first table middle)
    (later : middle.ExtendedBy second table new) :
    old.ExtendedBy (first ++ second) table new where
  kept := fun name column present => later.kept name column (earlier.kept name column present)
  added := by
    intro name column present absent
    cases between : middle.definition.columns.get? name with
    | none => exact List.mem_append_right _ (later.added name column present between)
    | some other =>
        have same := later.kept name other between
        rw [present, Option.some.injEq] at same
        subst same
        exact List.mem_append_left _ (earlier.added name column between absent)
  constraints := later.constraints.trans earlier.constraints
  rows := by
    apply forall₂_trans _ earlier.rows later.rows
    rintro before between after ⟨keptFirst, filledFirst⟩ ⟨keptSecond, filledSecond⟩
    refine ⟨fun name cell present => keptSecond name cell (keptFirst name cell present), ?_⟩
    intro name column present absent
    cases located : middle.definition.columns.get? name with
    | none => exact filledSecond name column present located
    | some other =>
        have same := later.kept name other located
        rw [present, Option.some.injEq] at same
        subst same
        exact keptSecond name _ (filledFirst name column located absent)

/-- Nothing that was stored is lost, and tables that are new are empty. -/
structure Store.ExtendedBy (changes : List (Change κ α)) (old new : Store κ α) : Prop where
  kept : ∀ table relation, old.get? table = some relation →
    ∃ grown, new.get? table = some grown ∧ relation.ExtendedBy changes table grown
  empty : ∀ table relation, old.get? table = none → new.get? table = some relation →
    relation.rows = []

theorem Relation.addColumn_extendedBy {relation grown : Relation κ α} {name : String}
    {column : Column κ α} (table : String)
    (added : relation.addColumn name column = some grown) :
    relation.ExtendedBy [.addColumn table name column] table grown := by
  unfold addColumn at added
  split at added
  case isFalse => cases added
  case isTrue absent =>
    split at added
    case isFalse => cases added
    case isTrue fillable =>
      obtain rfl := Option.some.inj added
      have only : ∀ other found,
          (relation.definition.extended name column).columns.get? other = some found →
          relation.definition.columns.get? other = none → other = name ∧ found = column := by
        intro other found present missing
        simp only [Definition.extended, Dict.get?_set] at present
        by_cases same : other = name
        · simp only [same, if_true, Option.some.injEq] at present
          exact ⟨same, present.symm⟩
        · simp only [same, if_false] at present
          rw [missing] at present
          cases present
      constructor
      · intro other found present
        simp only [Definition.extended, Dict.get?_set]
        rw [if_neg]
        · exact present
        · rintro rfl
          exact absent (Dict.mem_keys_iff.mpr ⟨found, present⟩)
      · intro other found present missing
        obtain ⟨rfl, rfl⟩ := only other found present missing
        exact List.mem_singleton_self _
      · rfl
      · apply List.forall₂_map_right_iff.mpr
        apply List.forall₂_same.mpr
        intro row membership
        have missing : name ∉ row.keys := by rwa [(relation.fits row membership).1]
        constructor
        · intro other cell present
          rw [Dict.get?_set, if_neg]
          · exact present
          · rintro rfl
            exact missing (Dict.mem_keys_iff.mpr ⟨cell, present⟩)
        · intro other found present unknown
          obtain ⟨rfl, rfl⟩ := only other found present unknown
          rw [Dict.get?_set, if_pos rfl]

theorem Change.extendedBy {change : Change κ α} {store next : Store κ α}
    (adds : change.inverse ≠ none) (done : change.on storeOperations store = some next) :
    Store.ExtendedBy [change] store next := by
  cases change with
  | dropTable table => exact absurd rfl adds
  | dropColumn table name => exact absurd rfl adds
  | createTable table definition =>
      simp only [Change.on] at done
      split at done
      case h_1 => cases done
      case h_2 absent =>
        obtain rfl := Option.some.inj done
        constructor
        · intro other relation present
          have different : other ≠ table := by
            rintro rfl
            rw [absent] at present
            cases present
          exact ⟨relation, by rw [Dict.get?_set, if_neg different, present], .refl _ _ _⟩
        · intro other relation missing present
          rw [Dict.get?_set] at present
          by_cases same : other = table
          · rw [if_pos same, Option.some.injEq] at present
            rw [← present]
            rfl
          · rw [if_neg same, missing] at present
            cases present
  | addColumn table name column =>
      obtain ⟨grown, change, rfl⟩ := Option.map_eq_some_iff.mp done
      obtain ⟨found, present, added⟩ := Option.bind_eq_some_iff.mp change
      constructor
      · intro other relation located
        by_cases same : other = table
        · subst same
          rw [present, Option.some.injEq] at located
          subst located
          exact ⟨grown, by rw [Dict.get?_set, if_pos rfl],
            Relation.addColumn_extendedBy other added⟩
        · exact ⟨relation, by rw [Dict.get?_set, if_neg same, located], .refl _ _ _⟩
      · intro other relation missing located
        rw [Dict.get?_set] at located
        by_cases same : other = table
        · rw [same, present] at missing
          cases missing
        · rw [if_neg same, missing] at located
          cases located

omit [DecidableEq α] in
theorem Store.ExtendedBy.trans {first second : List (Change κ α)} {old middle new : Store κ α}
    (earlier : Store.ExtendedBy first old middle) (later : Store.ExtendedBy second middle new) :
    Store.ExtendedBy (first ++ second) old new where
  kept := by
    intro table relation present
    obtain ⟨between, located, firstPart⟩ := earlier.kept table relation present
    obtain ⟨grown, final, secondPart⟩ := later.kept table between located
    exact ⟨grown, final, firstPart.trans secondPart⟩
  empty := by
    intro table relation missing present
    cases located : middle.get? table with
    | none => exact later.empty table relation located present
    | some between =>
        have bare := earlier.empty table between missing located
        obtain ⟨grown, final, part⟩ := later.kept table between located
        rw [present, Option.some.injEq] at final
        subst final
        have rows := part.rows
        rw [bare] at rows
        exact List.forall₂_nil_left_iff.mp rows

/-- Changes that only add keep everything that is stored. -/
theorem migrate_extendedBy {changes : List (Change κ α)} {store next : Store κ α}
    (adds : ∀ change ∈ changes, change.inverse ≠ none)
    (done : migrate storeOperations changes store = some next) :
    Store.ExtendedBy changes store next := by
  induction changes generalizing store with
  | nil =>
      obtain rfl := Option.some.inj done
      refine ⟨fun table relation present => ⟨relation, present, .refl _ _ _⟩, ?_⟩
      intro table relation missing present
      rw [missing] at present
      cases present
  | cons change rest inductionHypothesis =>
      rw [migrate_cons] at done
      obtain ⟨middle, one, others⟩ := Option.bind_eq_some_iff.mp done
      have step := Change.extendedBy (adds change List.mem_cons_self) one
      have tail := inductionHypothesis
        (fun other later => adds other (List.mem_cons_of_mem change later)) others
      exact step.trans tail

/-- Undoing the change that was made last gives the store back, rows and all. -/
theorem Change.inverse_on {change back : Change κ α} {store next : Store κ α}
    (undoes : change.inverse = some back) (done : change.on storeOperations store = some next) :
    back.on storeOperations next = some store := by
  cases change with
  | dropTable table => cases undoes
  | dropColumn table name => cases undoes
  | createTable table definition =>
      obtain rfl := Option.some.inj undoes
      simp only [Change.on] at done
      split at done
      case h_1 => cases done
      case h_2 absent =>
        obtain rfl := Option.some.inj done
        simp only [Change.on, Dict.get?_set, if_true, Option.map_some]
        rw [Dict.erase_set absent]
  | addColumn table name column =>
      obtain rfl := Option.some.inj undoes
      obtain ⟨grown, change, rfl⟩ := Option.map_eq_some_iff.mp done
      obtain ⟨found, present, change⟩ := Option.bind_eq_some_iff.mp change
      have shrunk : grown.dropColumn name = some found := Relation.dropColumn_addColumn change
      simp only [Change.on, Dict.get?_set, if_true, Option.bind_some]
      change Option.map _ (grown.dropColumn name) = _
      rw [shrunk, Option.map_some, Dict.set_set, Dict.set_of_get? present]

theorem migrate_inverse {changes backs : List (Change κ α)} {store next : Store κ α}
    (undoes : backs.map some = changes.reverse.map Change.inverse)
    (done : migrate storeOperations changes store = some next) :
    migrate storeOperations backs next = some store := by
  induction changes generalizing store backs with
  | nil =>
      obtain rfl := Option.some.inj done
      obtain rfl : backs = [] := by simpa using undoes
      rfl
  | cons change rest inductionHypothesis =>
      rw [migrate_cons] at done
      obtain ⟨middle, one, others⟩ := Option.bind_eq_some_iff.mp done
      rw [List.reverse_cons, List.map_append, List.map_eq_append_iff] at undoes
      obtain ⟨early, last, rfl, front, final⟩ := undoes
      obtain ⟨back, rfl⟩ : ∃ back, last = [back] := by
        have single := congrArg List.length final
        simp only [List.length_map, List.length_singleton] at single
        exact List.length_eq_one_iff.mp single
      have inverse : change.inverse = some back := by simpa using final.symm
      rw [migrate_append, inductionHypothesis front others, Option.bind_some, migrate_cons,
        Change.inverse_on inverse one]
      rfl

end Growth

end Relational
