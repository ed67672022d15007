import AptlyGui.Library.Revisions

/-!
# The schema and its migrations

`migrations/versions`, `db/migrate.py` and the tables that `db/models.py`
declares.  What `alembic` does with a history of revisions is in the library;
here are the revisions, the adoption markers and the start of the service.
-/

namespace AptlyGui.Migrations

open Relational

/-- The column types of SQLAlchemy that the tables use. -/
inductive ColumnType where
  | string (length : Nat)
  | text
  | integer
  | bigInteger
  | boolean
  | dateTime
  | json
  deriving DecidableEq, Repr

/-- SQLite's storage classes but NULL; a real number is the 64 bits that encode it. -/
inductive Value where
  | integer (number : Int)
  | real (bits : BitVec 64)
  | text (characters : String)
  | blob (bytes : List UInt8)
  deriving DecidableEq, Repr

def required (kind : ColumnType) : Column ColumnType Value := ⟨kind, false, none⟩

def optional (kind : ColumnType) : Column ColumnType Value := ⟨kind, true, none⟩

/-! ## The revisions -/

def appSettings : Definition ColumnType Value where
  columns := Dict.ofList [("key", required (.string 64)), ("value", required (.string 255))]
  constraints := [.primaryKey ["key"]]
  covered := by decide

def auditLog : Definition ColumnType Value where
  columns := Dict.ofList [
    ("id", required .integer),
    ("at", required .dateTime),
    ("actor", required (.string 128)),
    ("action", required (.string 64)),
    ("target", required (.string 255)),
    ("result", required (.string 32)),
    ("detail", optional .text)]
  constraints := [.primaryKey ["id"]]
  covered := by decide

def mirrorSets : Definition ColumnType Value where
  columns := Dict.ofList [
    ("id", required .integer),
    ("name", required (.string 128)),
    ("archive_url", required (.string 512)),
    ("suites", required .json),
    ("components", required .json),
    ("architectures", required .json),
    ("keyrings", required .json),
    ("filter", optional (.string 512)),
    ("publish_prefix", required (.string 128)),
    ("signing_key", optional (.string 128)),
    ("adopted", required .boolean),
    ("revision", required .integer),
    ("created_at", required .dateTime),
    ("updated_at", required .dateTime)]
  constraints := [.primaryKey ["id"], .unique ["name"]]
  covered := by decide

def jobs : Definition ColumnType Value where
  columns := Dict.ofList [
    ("id", required .integer),
    ("type", required (.string 16)),
    ("mirror_set_id", optional .integer),
    ("state", required (.string 16)),
    ("author", required (.string 128)),
    ("created_at", required .dateTime),
    ("started_at", optional .dateTime),
    ("finished_at", optional .dateTime),
    ("error", optional .text),
    ("params", required .json)]
  constraints := [.foreignKey ["mirror_set_id"] "mirror_sets" ["id"], .primaryKey ["id"]]
  covered := by decide

def jobSteps : Definition ColumnType Value where
  columns := Dict.ofList [
    ("id", required .integer),
    ("job_id", required .integer),
    ("position", required .integer),
    ("description", required (.string 255)),
    ("state", required (.string 16)),
    ("aptly_task_id", optional .integer),
    ("output_tail", optional .text),
    ("started_at", optional .dateTime),
    ("finished_at", optional .dateTime)]
  constraints := [.foreignKey ["job_id"] "jobs" ["id"], .primaryKey ["id"]]
  covered := by decide

def snapshotSets : Definition ColumnType Value where
  columns := Dict.ofList [
    ("id", required .integer),
    ("mirror_set_id", required .integer),
    ("taken_at", required .dateTime),
    ("snapshots", required .json),
    ("state", required (.string 16)),
    ("job_id", optional .integer)]
  constraints := [
    .foreignKey ["job_id"] "jobs" ["id"],
    .foreignKey ["mirror_set_id"] "mirror_sets" ["id"],
    .primaryKey ["id"],
    .unique ["mirror_set_id", "taken_at"]]
  covered := by decide

def users : Definition ColumnType Value where
  columns := Dict.ofList [
    ("id", required .integer),
    ("username", required (.string 128)),
    ("password_hash", optional (.string 255)),
    ("role", required (.string 16)),
    ("active", required .boolean),
    ("source", required (.string 16)),
    ("created_at", required .dateTime),
    ("last_login", optional .dateTime)]
  constraints := [.primaryKey ["id"], .unique ["username"]]
  covered := by decide

def initialSchema : Revision ColumnType Value where
  id := "acaffe887f68"
  down := none
  upgrade := [
    .createTable "app_settings" appSettings,
    .createTable "audit_log" auditLog,
    .createTable "mirror_sets" mirrorSets,
    .createTable "jobs" jobs,
    .createTable "job_steps" jobSteps,
    .createTable "snapshot_sets" snapshotSets]
  downgrade := [
    .dropTable "snapshot_sets",
    .dropTable "job_steps",
    .dropTable "jobs",
    .dropTable "mirror_sets",
    .dropTable "audit_log",
    .dropTable "app_settings"]

def addDownloadProgressToJobSteps : Revision ColumnType Value where
  id := "1d98f4a90784"
  down := some "acaffe887f68"
  upgrade := [
    .addColumn "job_steps" "total_bytes" (optional .bigInteger),
    .addColumn "job_steps" "remaining_bytes" (optional .bigInteger),
    .addColumn "job_steps" "total_packages" (optional .integer),
    .addColumn "job_steps" "remaining_packages" (optional .integer)]
  downgrade := [
    .dropColumn "job_steps" "remaining_packages",
    .dropColumn "job_steps" "total_packages",
    .dropColumn "job_steps" "remaining_bytes",
    .dropColumn "job_steps" "total_bytes"]

def addExpectedStepCountToJobs : Revision ColumnType Value where
  id := "2595a4d32cad"
  down := some "1d98f4a90784"
  upgrade := [.addColumn "jobs" "expected_steps" (optional .integer)]
  downgrade := [.dropColumn "jobs" "expected_steps"]

def addUsers : Revision ColumnType Value where
  id := "f8cd439d47f7"
  down := some "2595a4d32cad"
  upgrade := [.createTable "users" users]
  downgrade := [.dropTable "users"]

/-- The convention that the sets there already were created under. -/
def originalPattern : Value := .text "\x7bset\x7d-\x7bsuite\x7d-\x7bcomponent\x7d"

def addNamingPatternPublishEndpointAndPublicUrl : Revision ColumnType Value where
  id := "a2df56007c76"
  down := some "f8cd439d47f7"
  upgrade := [
    .addColumn "mirror_sets" "publish_endpoint" (optional (.string 128)),
    .addColumn "mirror_sets" "public_url" (optional (.string 512)),
    .addColumn "mirror_sets" "mirror_pattern" ⟨.string 64, false, some originalPattern⟩]
  downgrade := [
    .dropColumn "mirror_sets" "mirror_pattern",
    .dropColumn "mirror_sets" "public_url",
    .dropColumn "mirror_sets" "publish_endpoint"]

/-- The files of `migrations/versions`, by name: their order there means nothing. -/
def versions : List (Revision ColumnType Value) := [
  addDownloadProgressToJobSteps,
  addExpectedStepCountToJobs,
  addNamingPatternPublishEndpointAndPublicUrl,
  initialSchema,
  addUsers]

/-! ## The models -/

/-- `Base.metadata`: the tables of `db/models.py`; its defaults are Python's, not the server's. -/
def metadata : Schema ColumnType Value := Dict.ofList [
  ("users", users),
  ("app_settings", appSettings),
  ("mirror_sets", {
    columns := Dict.ofList [
      ("id", required .integer),
      ("name", required (.string 128)),
      ("archive_url", required (.string 512)),
      ("suites", required .json),
      ("components", required .json),
      ("architectures", required .json),
      ("keyrings", required .json),
      ("filter", optional (.string 512)),
      ("publish_prefix", required (.string 128)),
      ("publish_endpoint", optional (.string 128)),
      ("public_url", optional (.string 512)),
      ("mirror_pattern", required (.string 64)),
      ("signing_key", optional (.string 128)),
      ("adopted", required .boolean),
      ("revision", required .integer),
      ("created_at", required .dateTime),
      ("updated_at", required .dateTime)]
    constraints := [.primaryKey ["id"], .unique ["name"]]
    covered := by decide }),
  ("snapshot_sets", {
    columns := Dict.ofList [
      ("id", required .integer),
      ("mirror_set_id", required .integer),
      ("taken_at", required .dateTime),
      ("snapshots", required .json),
      ("state", required (.string 16)),
      ("job_id", optional .integer)]
    constraints := [
      .primaryKey ["id"],
      .foreignKey ["mirror_set_id"] "mirror_sets" ["id"],
      .foreignKey ["job_id"] "jobs" ["id"],
      .unique ["mirror_set_id", "taken_at"]]
    covered := by decide }),
  ("jobs", {
    columns := Dict.ofList [
      ("id", required .integer),
      ("type", required (.string 16)),
      ("mirror_set_id", optional .integer),
      ("state", required (.string 16)),
      ("author", required (.string 128)),
      ("created_at", required .dateTime),
      ("started_at", optional .dateTime),
      ("finished_at", optional .dateTime),
      ("error", optional .text),
      ("params", required .json),
      ("expected_steps", optional .integer)]
    constraints := [.primaryKey ["id"], .foreignKey ["mirror_set_id"] "mirror_sets" ["id"]]
    covered := by decide }),
  ("job_steps", {
    columns := Dict.ofList [
      ("id", required .integer),
      ("job_id", required .integer),
      ("position", required .integer),
      ("description", required (.string 255)),
      ("state", required (.string 16)),
      ("aptly_task_id", optional .integer),
      ("output_tail", optional .text),
      ("started_at", optional .dateTime),
      ("finished_at", optional .dateTime),
      ("total_bytes", optional .bigInteger),
      ("remaining_bytes", optional .bigInteger),
      ("total_packages", optional .integer),
      ("remaining_packages", optional .integer)]
    constraints := [.primaryKey ["id"], .foreignKey ["job_id"] "jobs" ["id"]]
    covered := by decide }),
  ("audit_log", auditLog)]

/-! ## The start of the service -/

/-- `ADOPTION_MARKERS`, oldest first. -/
def adoptionMarkers : List Marker := [
  ⟨"acaffe887f68", "mirror_sets", none⟩,
  ⟨"1d98f4a90784", "job_steps", some "total_bytes"⟩,
  ⟨"2595a4d32cad", "jobs", some "expected_steps"⟩,
  ⟨"f8cd439d47f7", "users", none⟩,
  ⟨"a2df56007c76", "mirror_sets", some "mirror_pattern"⟩]

def detectRevision (tables : Store ColumnType Value) : Option String :=
  detect (fun relation => relation.definition.columns.keys) tables adoptionMarkers none

/-- `_prepare_and_upgrade`: a database without a revision is stamped with the one it matches. -/
def prepareAndUpgrade (database : Versioned ColumnType Value) :
    Option (Versioned ColumnType Value) :=
  match database.stamp with
  | some _ => upgradeToHead versions database
  | none =>
      match detectRevision database.tables with
      | some adopted => upgradeToHead versions ⟨database.tables, some adopted⟩
      | none => upgradeToHead versions database

/-! ## Every start reaches the models -/

/-- The revisions from the empty schema to the head. -/
def history : List (Revision ColumnType Value) := pending versions none

/-- The schema that the first revisions of the history make. -/
def schemaAt (steps : Nat) : Schema ColumnType Value :=
  (migrate schemaOperations ((history.take steps).flatMap Revision.upgrade) Dict.empty).getD
    Dict.empty

def revisionAt (steps : Nat) : Option String := stampAfter (history.take steps) none

/-- The tables of the service are those of the schema, whatever their rows and column order. -/
def HasSchema (tables : Store ColumnType Value) (schema : Schema ColumnType Value) : Prop :=
  Matches metadata.keys (fun relation definition => relation.definition.Similar definition)
    tables schema

theorem history_works :
    (migrate schemaOperations (history.flatMap Revision.upgrade) Dict.empty).isSome = true := by
  decide

theorem schemaAt_succ_works (steps : Nat) :
    migrate schemaOperations ((history.drop steps).flatMap Revision.upgrade) (schemaAt steps) =
      some (schemaAt history.length) := by
  obtain ⟨final, whole⟩ := Option.isSome_iff_exists.mp history_works
  have split := whole
  rw [← List.take_append_drop steps history, List.flatMap_append, migrate_append] at split
  obtain ⟨middle, first, second⟩ := Option.bind_eq_some_iff.mp split
  have here : schemaAt steps = middle := by rw [schemaAt, first, Option.getD_some]
  have there : schemaAt history.length = final := by
    rw [schemaAt, List.take_length, whole, Option.getD_some]
  rw [here, there, second]

theorem pending_revisionAt : ∀ steps ≤ history.length,
    pending versions (revisionAt steps) = history.drop steps := by
  have each : ∀ steps ≤ 5, pending versions (revisionAt steps) = history.drop steps
    | 0, _ => rfl
    | 1, _ => rfl
    | 2, _ => rfl
    | 3, _ => rfl
    | 4, _ => rfl
    | 5, _ => rfl
  exact each

theorem known_revisionAt :
    ∀ steps ≤ history.length, known versions (revisionAt steps) = true := by
  decide

theorem stampAfter_drop : ∀ steps ≤ history.length,
    stampAfter (history.drop steps) (revisionAt steps) = some "a2df56007c76" := by
  decide

theorem descent_history : ∀ steps ≤ history.length,
    descent versions (revisionAt steps) versions.length
      (stampAfter (history.drop steps) (revisionAt steps)) = some (history.drop steps).reverse := by
  have each : ∀ steps ≤ 5, descent versions (revisionAt steps) versions.length
      (stampAfter (history.drop steps) (revisionAt steps)) = some (history.drop steps).reverse
    | 0, _ => rfl
    | 1, _ => rfl
    | 2, _ => rfl
    | 3, _ => rfl
    | 4, _ => rfl
    | 5, _ => rfl
  exact each

/-- Every `downgrade` takes back its `upgrade`, change by change from the last. -/
theorem downgrade_undoes : ∀ revision ∈ versions,
    revision.downgrade.map some = revision.upgrade.reverse.map Change.inverse := by
  intro revision membership
  simp only [versions, List.mem_cons, List.not_mem_nil, or_false] at membership
  rcases membership with rfl | rfl | rfl | rfl | rfl <;> rfl

theorem history_subset : ∀ revision ∈ history, revision ∈ versions := by
  have listed : history = [initialSchema, addDownloadProgressToJobSteps,
    addExpectedStepCountToJobs, addUsers, addNamingPatternPublishEndpointAndPublicUrl] := rfl
  rw [listed]
  intro revision membership
  simp only [List.mem_cons, List.not_mem_nil, or_false] at membership
  rcases membership with rfl | rfl | rfl | rfl | rfl <;> simp [versions]

theorem change_fits : ∀ change ∈ history.flatMap Revision.upgrade,
    change.table ∈ metadata.keys ∧ change.Fillable := by
  decide

theorem change_adds : ∀ change ∈ history.flatMap Revision.upgrade, change.inverse ≠ none := by
  have each : ∀ change ∈ history.flatMap Revision.upgrade, change.inverse.isSome = true := by
    decide
  intro change membership none
  have some := each change membership
  rw [none] at some
  cases some

/-- What the rows of an older schema hold in a column they did not have. -/
def cellFor (column : String) : Option Value :=
  if column = "mirror_pattern" then some originalPattern else none

/-- A column that is added is filled with `cellFor` its name. -/
def fillsAlike : Change ColumnType Value → Bool
  | .addColumn _ name column => decide (column.fill = cellFor name)
  | _ => true

theorem fill_eq : ∀ change ∈ history.flatMap Revision.upgrade,
    ∀ table name column, change = .addColumn table name column →
      column.fill = cellFor name := by
  have each : ∀ change ∈ history.flatMap Revision.upgrade, fillsAlike change = true := by
    decide
  rintro _ membership table name column rfl
  exact of_decide_eq_true (each _ membership)

/-- The last revision has the tables of the models. -/
theorem schemaAt_head :
    Matches metadata.keys Definition.Similar (schemaAt history.length) metadata := by
  have checked : alikeOn id metadata.keys (schemaAt history.length) metadata = true := by decide
  exact matches_of_alikeOn checked

/-- The markers recognise every schema of the history. -/
theorem detect_schemaAt : ∀ steps ≤ history.length,
    detect (fun definition : Definition ColumnType Value => definition.columns.keys)
      (schemaAt steps) adoptionMarkers none = revisionAt steps := by
  decide

theorem detectRevision_of_hasSchema {tables : Store ColumnType Value} {steps : Nat}
    (reached : steps ≤ history.length) (schema : HasSchema tables (schemaAt steps)) :
    detectRevision tables = revisionAt steps := by
  rw [← detect_schemaAt steps reached]
  have mine : ∀ marker ∈ adoptionMarkers, marker.table ∈ metadata.keys := by decide
  apply detect_congr _ schema mine
  intro relation definition similar name
  exact similar.mem_keys_iff name

/-- A start does with a database what an upgrade from its revision does. -/
theorem prepareAndUpgrade_eq {database : Versioned ColumnType Value} {steps : Nat}
    (reached : steps ≤ history.length) (schema : HasSchema database.tables (schemaAt steps))
    (stamped : database.stamp = none ∨ database.stamp = revisionAt steps) :
    prepareAndUpgrade database =
      upgradeToHead versions ⟨database.tables, revisionAt steps⟩ := by
  obtain ⟨tables, stamp⟩ := database
  have detected := detectRevision_of_hasSchema reached schema
  rcases stamped with absent | present
  · simp only at absent
    subst absent
    simp only [prepareAndUpgrade, detected]
    cases found : revisionAt steps with
    | none => rfl
    | some adopted => rfl
  · simp only at present
    subst present
    simp only [prepareAndUpgrade, detected]
    cases found : revisionAt steps with
    | none => rfl
    | some adopted => rfl

/-- A row keeps its cells; the cells of new columns are NULL, or the original convention. -/
def RowKept (before after : Row Value) : Prop :=
  (∀ name cell, before.get? name = some cell → after.get? name = some cell) ∧
  ∀ name cell, before.get? name = none → after.get? name = some cell → cell = cellFor name

/-- What an upgrade leaves of a store. -/
structure Kept (before after : Store ColumnType Value) : Prop where
  rows : ∀ table relation, before.get? table = some relation →
    ∃ grown, after.get? table = some grown ∧ List.Forall₂ RowKept relation.rows grown.rows
  fresh : ∀ table relation, before.get? table = none → after.get? table = some relation →
    relation.rows = []
  others : ∀ table, table ∉ metadata.keys → after.get? table = before.get? table

theorem kept_of_extendedBy {changes : List (Change ColumnType Value)}
    {before after : Store ColumnType Value} (extended : Store.ExtendedBy changes before after)
    (within : ∀ change ∈ changes, change ∈ history.flatMap Revision.upgrade)
    (frame : ∀ table, table ∉ metadata.keys → after.get? table = before.get? table) :
    Kept before after where
  fresh := extended.empty
  others := frame
  rows := by
    intro table relation present
    obtain ⟨grown, located, part⟩ := extended.kept table relation present
    refine ⟨grown, located, ?_⟩
    have both := part.rows
    rw [List.forall₂_iff_zip] at both ⊢
    refine ⟨both.1, fun {old new} paired => ?_⟩
    obtain ⟨keeps, fills⟩ := both.2 paired
    refine ⟨keeps, fun name cell missing cellThere => ?_⟩
    have oldFits := relation.fits old (List.of_mem_zip paired).1
    have newFits := grown.fits new (List.of_mem_zip paired).2
    have listed : name ∈ grown.definition.columns.keys := by
      rw [← newFits.1]
      exact Dict.mem_keys_iff.mpr ⟨cell, cellThere⟩
    obtain ⟨column, declared⟩ := Dict.mem_keys_iff.mp listed
    have unknown : relation.definition.columns.get? name = none := by
      rw [Dict.get?_eq_none_iff, ← oldFits.1, ← Dict.get?_eq_none_iff]
      exact missing
    have filled := fills name column declared unknown
    rw [cellThere, Option.some.injEq] at filled
    rw [filled]
    exact fill_eq _ (within _ (part.added name column declared unknown)) table name column rfl

theorem change_of_drop {steps : Nat} {change : Change ColumnType Value}
    (membership : change ∈ (history.drop steps).flatMap Revision.upgrade) :
    change ∈ history.flatMap Revision.upgrade := by
  obtain ⟨revision, present, listed⟩ := List.mem_flatMap.mp membership
  exact List.mem_flatMap.mpr ⟨revision, List.mem_of_mem_drop present, listed⟩

/-- The upgrade from any revision goes through, whatever the rows. -/
theorem upgradeToHead_at {tables : Store ColumnType Value} {steps : Nat}
    (reached : steps ≤ history.length) (schema : HasSchema tables (schemaAt steps)) :
    ∃ after,
      migrate storeOperations ((history.drop steps).flatMap Revision.upgrade) tables =
        some after ∧
      upgradeToHead versions ⟨tables, revisionAt steps⟩ = some ⟨after, some "a2df56007c76"⟩ ∧
      HasSchema after metadata := by
  have rest := pending_revisionAt steps reached
  have mine : ∀ revision ∈ pending versions (revisionAt steps), ∀ change ∈ revision.upgrade,
      change.table ∈ metadata.keys ∧ change.Fillable := by
    intro revision present change listed
    rw [rest] at present
    exact change_fits change
      (change_of_drop (List.mem_flatMap.mpr ⟨revision, present, listed⟩))
  have works := schemaAt_succ_works steps
  rw [← rest] at works
  obtain ⟨after, made, upgraded, similar⟩ := upgradeToHead_of_matches ⟨tables, revisionAt steps⟩
    (known_revisionAt steps reached) mine schema works
  rw [rest] at made
  simp only [rest, stampAfter_drop steps reached] at upgraded
  exact ⟨after, made, upgraded,
    Matches.trans (fun _ _ _ first second => first.trans second) similar schemaAt_head⟩

/-- A deployment of the first revision that was built from its models, with a set in it. -/
def oldDeployment : Versioned ColumnType Value where
  tables := Dict.ofList [
    ("app_settings", .fresh appSettings),
    ("audit_log", .fresh auditLog),
    ("mirror_sets", {
      definition := mirrorSets
      rows := [Dict.ofList [
        ("id", some (.integer 1)),
        ("name", some (.text "ubuntu-noble")),
        ("archive_url", some (.text "http://archive.ubuntu.com/ubuntu")),
        ("suites", some (.text "[\"noble\"]")),
        ("components", some (.text "[\"main\"]")),
        ("architectures", some (.text "[\"amd64\"]")),
        ("keyrings", some (.text "[]")),
        ("filter", none),
        ("publish_prefix", some (.text "ubuntu")),
        ("signing_key", none),
        ("adopted", some (.integer 1)),
        ("revision", some (.integer 1)),
        ("created_at", some (.text "2026-09-01 10:00:00")),
        ("updated_at", some (.text "2026-09-01 10:00:00"))]]
      fits := by decide }),
    ("jobs", .fresh jobs),
    ("job_steps", .fresh jobSteps),
    ("snapshot_sets", .fresh snapshotSets)]
  stamp := none

theorem oldDeployment_hasSchema : HasSchema oldDeployment.tables (schemaAt 1) := by
  have checked : alikeOn Relation.definition metadata.keys oldDeployment.tables (schemaAt 1) =
      true := by decide
  exact matches_of_alikeOn checked

/-- From any revision, stamped or not, a start brings the schema to the models. -/
theorem prepareAndUpgrade_reaches_head (database : Versioned ColumnType Value) (steps : Nat)
    (reached : steps ≤ history.length) (schema : HasSchema database.tables (schemaAt steps))
    (stamped : database.stamp = none ∨ database.stamp = revisionAt steps) :
    detectRevision database.tables = revisionAt steps ∧
    ∃ after, prepareAndUpgrade database = some after ∧
      after.stamp = some "a2df56007c76" ∧ HasSchema after.tables metadata ∧
      Kept database.tables after.tables ∧ prepareAndUpgrade after = some after := by
  obtain ⟨tables, made, upgraded, head⟩ := upgradeToHead_at reached schema
  have extended := migrate_extendedBy (fun change membership =>
    change_adds change (change_of_drop membership)) made
  have frame : ∀ table, table ∉ metadata.keys →
      tables.get? table = database.tables.get? table := by
    intro table foreign
    apply migrate_frame _ made
    rintro change membership rfl
    exact foreign (change_fits change (change_of_drop membership)).1
  refine ⟨detectRevision_of_hasSchema reached schema, ⟨tables, some "a2df56007c76"⟩, ?_, rfl, head,
    kept_of_extendedBy extended (fun _ => change_of_drop) frame, ?_⟩
  · rw [prepareAndUpgrade_eq reached schema stamped, upgraded]
  · have done := pending_revisionAt history.length (Nat.le_refl _)
    rw [List.drop_length] at done
    change upgradeToHead versions ⟨tables, revisionAt history.length⟩ = _
    simp only [upgradeToHead, done]
    rfl

theorem oldDeployment_reaches_head :
    detectRevision oldDeployment.tables = some "acaffe887f68" ∧
    ∃ after, prepareAndUpgrade oldDeployment = some after ∧
      after.stamp = some "a2df56007c76" ∧ HasSchema after.tables metadata ∧
      Kept oldDeployment.tables after.tables ∧ prepareAndUpgrade after = some after :=
  prepareAndUpgrade_reaches_head oldDeployment 1 (by decide) oldDeployment_hasSchema (.inl rfl)

/-- Walking the downgrades back gives the database as it was, rows and all. -/
theorem downgradeTo_restores (database : Versioned ColumnType Value) (steps : Nat)
    (reached : steps ≤ history.length) (schema : HasSchema database.tables (schemaAt steps))
    (stamped : database.stamp = none ∨ database.stamp = revisionAt steps) :
    ∃ after, prepareAndUpgrade database = some after ∧
      downgradeTo versions (revisionAt steps) after =
        some ⟨database.tables, revisionAt steps⟩ := by
  obtain ⟨tables, -, upgraded, -⟩ := upgradeToHead_at reached schema
  refine ⟨⟨tables, some "a2df56007c76"⟩, ?_, ?_⟩
  · rw [prepareAndUpgrade_eq reached schema stamped, upgraded]
  · have rest := pending_revisionAt steps reached
    have way := descent_history steps reached
    rw [← rest] at way
    apply downgradeTo_upgradeToHead upgraded way downgrade_undoes
    rw [rest]
    intro revision present
    exact history_subset revision (List.mem_of_mem_drop present)

theorem oldDeployment_restored :
    ∃ after, prepareAndUpgrade oldDeployment = some after ∧
      downgradeTo versions (some "acaffe887f68") after =
        some ⟨oldDeployment.tables, some "acaffe887f68"⟩ :=
  downgradeTo_restores oldDeployment 1 (by decide) oldDeployment_hasSchema (.inl rfl)

end AptlyGui.Migrations
