import EidolonAdmin.Foundation.Json
import EidolonAdmin.Foundation.Fits
import EidolonAdmin.Removal.Ledger

/-! # Opening the removal ledger

`SqliteRemovalIntentStore._initialize` on the table it finds, with its four migration
steps. Each step compares the columns of the table with the current ones less those
that came later, and each script runs inside one transaction. Texts hold JSON: how
it is parsed, written and validated is a parameter.
-/

namespace EidolonAdmin.Removal.LedgerMigration

open Foundation Foundation.Sql Foundation.Connection

inductive TableName where
  | removalIntents
  | removalIntentsV0
deriving DecidableEq, Repr

inductive ColumnName where
  | intentId | ingressRequestId | ownerDomainId | deviceId | ownerDomainGeneration
  | claimGeneration | trustEpoch | deviceRefJson | actorControllerId | workloadPrincipalId
  | controllerResetEpoch | authorizationContextJson | authorizationContextSha256 | reason
  | hubCommandId | state | hubResultJson | createdAt | updatedAt
deriving DecidableEq, Repr

open TableName ColumnName

abbrev Database := Db TableName ColumnName

/-- The JSON functions of SQLite, and the models of the contract package. -/
structure Documents where
  parse : String → Option Json
  render : Json → String
  readDeviceRef : Json → Option DeviceRef
  readResult : Json → Option HubClaimRevocationResult
  showTime : Int → String
  readTime : String → Option Int

/-- `json_set(document, '$.name', value)`, which leaves anything but an object alone. -/
def setMember (name : String) (value : Json) : Json → Json
  | .obj members =>
    if members.any fun member => member.1 = name then
      .obj (members.map fun member => if member.1 = name then (name, value) else member)
    else .obj (members ++ [(name, value)])
  | document => document

/-- `json_set` on a stored value: NULL stays NULL, and a text that is not JSON raises. -/
def Documents.jsonSet (documents : Documents) (name : String) (value : Json) :
    Value → Option Value
  | .null => some .null
  | .integer n => some (.text (documents.render (setMember name value (.int n))))
  | .text text =>
    (documents.parse text).map fun document =>
      .text (documents.render (setMember name value document))

/-! ## The tables -/

def text (name : ColumnName) : Column ColumnName := (Column.plain name .text).required

def integer (name : ColumnName) : Column ColumnName := (Column.plain name .integer).required

def columns : List ColumnName :=
  [intentId, ingressRequestId, ownerDomainId, deviceId, ownerDomainGeneration, claimGeneration,
    trustEpoch, deviceRefJson, actorControllerId, workloadPrincipalId, controllerResetEpoch,
    authorizationContextJson, authorizationContextSha256, reason, hubCommandId, state,
    hubResultJson, createdAt, updatedAt]

def columnsWithout (later : List ColumnName) : List ColumnName :=
  columns.filter fun column => column ∉ later

def requestKey : List ColumnName := [ownerDomainId, ingressRequestId]

def draftKey : List ColumnName := [ownerDomainId, deviceId, claimGeneration, ingressRequestId]

def keys : List (List ColumnName) := [[intentId], [hubCommandId], requestKey]

def firstShape : Shape ColumnName where
  columns :=
    [.plain intentId .text, text ingressRequestId, text ownerDomainId, text deviceId,
      integer claimGeneration, integer trustEpoch, text deviceRefJson, text actorControllerId,
      text reason, text hubCommandId, text state, .plain hubResultJson .text, text createdAt,
      text updatedAt]
  keys := keys

def currentShape : Shape ColumnName where
  columns :=
    [.plain intentId .text, text ingressRequestId, text ownerDomainId, text deviceId,
      integer ownerDomainGeneration, integer claimGeneration, integer trustEpoch,
      text deviceRefJson, text actorControllerId, text workloadPrincipalId,
      (integer controllerResetEpoch).checked (.atLeast 0), text authorizationContextJson,
      text authorizationContextSha256, text reason, text hubCommandId, text state,
      .plain hubResultJson .text, text createdAt, text updatedAt]
  keys := keys

def contextColumns : List (Column ColumnName) :=
  [(text workloadPrincipalId).defaulted (.text ""),
    (integer controllerResetEpoch).defaulted (.integer 0),
    (text authorizationContextSha256).defaulted (.text "")]

def bytesColumn : Column ColumnName := (text authorizationContextJson).defaulted (.text "")

def generationColumn : Column ColumnName :=
  (integer ownerDomainGeneration).defaulted (.integer 1)

/-! ## The statements -/

inductive OpenError where
  | unknownVersion
  | contextMissing
  | bytesMissing
  | partialSchema
  | unknownIdempotency
  | columnCount
  | rewrite
  | sql (error : Sql.Error TableName ColumnName)
deriving DecidableEq, Repr

def OpenError.message? : OpenError → Option String
  | unknownVersion => some "Admin RemovalIntent schema version is unknown"
  | contextMissing => some
    "RemovalIntent rows without a bound authorization context require an offline verified migration"
  | bytesMissing => some
    "RemovalIntent rows without canonical authorization bytes require an offline verified migration"
  | partialSchema => some "Admin RemovalIntent schema is partial or unknown"
  | unknownIdempotency => some "Admin RemovalIntent idempotency constraint is unknown"
  | columnCount | rewrite | sql _ => none

inductive LedgerStatement where
  | sql (statement : Statement TableName ColumnName)
  /-- `INSERT INTO name SELECT * FROM source`. -/
  | insertAll (name source : TableName)
  /-- `UPDATE name SET column = json_set(column, '$.member', value)`. -/
  | setMember (name : TableName) (column : ColumnName) (member : String) (value : Int)

def insertAll (db : Database) (name source : TableName) : Except OpenError Database :=
  match db.tables name, db.tables source with
  | some table, some from_ =>
    if table.columns.length ≠ from_.columns.length then .error .columnCount
    else
      match table.insertRows (from_.rows.map (table.transfer from_.toShape)) with
      | none => .error (.sql (.constraintFailed name))
      | some stored => .ok (db.put name stored)
  | none, _ => .error (.sql (.noSuchTable name))
  | some _, none => .error (.sql (.noSuchTable source))

def setMembers (documents : Documents) (db : Database) (name : TableName) (column : ColumnName)
    (member : String) (value : Int) : Except OpenError Database :=
  match db.tables name with
  | none => .error (.sql (.noSuchTable name))
  | some table =>
    if column ∉ table.names then .error (.sql (.noSuchColumn column))
    else
      match Table.rewriteRows table.toShape column (documents.jsonSet member (.int value)) []
        table.rows with
      | none => .error .rewrite
      | some rows => .ok (db.put name { table with rows := rows })

def execLedger (documents : Documents) (db : Database) :
    LedgerStatement → Except OpenError Database
  | .sql statement => (statement.exec db).mapError .sql
  | .insertAll name source => insertAll db name source
  | .setMember name column member value => setMembers documents db name column member value

/-! ## The steps -/

/-- `PRAGMA table_info`. -/
def listed (db : Database) : List ColumnName :=
  ((db.tables removalIntents).map fun table => table.names).getD []

/-- The columns of the unique indexes of `PRAGMA index_list`. -/
def uniqueIndexes (db : Database) : List (List ColumnName) :=
  ((db.tables removalIntents).map fun table => table.keys).getD []

def rowCount (db : Database) : Nat :=
  ((db.tables removalIntents).map fun table => table.rows.length).getD 0

def SameColumns (first second : List ColumnName) : Prop := first ⊆ second ∧ second ⊆ first

instance (first second : List ColumnName) : Decidable (SameColumns first second) :=
  inferInstanceAs (Decidable (_ ∧ _))

/-- What the steps from version 0 and from version 1 expect. -/
def legacyColumns : List ColumnName :=
  columnsWithout [ownerDomainGeneration, workloadPrincipalId, controllerResetEpoch,
    authorizationContextSha256]

def draftScript : List LedgerStatement :=
  [.sql (.renameTable removalIntents removalIntentsV0),
    .sql (.createTable removalIntents firstShape),
    .insertAll removalIntents removalIntentsV0,
    .sql (.dropTable removalIntentsV0 false),
    .sql (.setUserVersion 1)]

def contextScript : List LedgerStatement :=
  contextColumns.map (fun column => .sql (.addColumn removalIntents column)) ++
    [.sql (.setUserVersion 2)]

def bytesScript : List LedgerStatement :=
  [.sql (.addColumn removalIntents bytesColumn), .sql (.setUserVersion 3)]

def generationScript : List LedgerStatement :=
  [.sql (.addColumn removalIntents generationColumn),
    .setMember removalIntents deviceRefJson "owner_domain_generation" 1,
    .sql (.setUserVersion 4)]

variable (documents : Documents)

/-- A script is one transaction: it takes effect as a whole or raises. -/
def runScript (db : Database) (script : List LedgerStatement) : Except OpenError Database :=
  execAll (execLedger documents) db script

def migrateGenerationScopedDraft (db : Database) : Except OpenError Database :=
  if ¬ SameColumns (listed db) legacyColumns ∨ draftKey ∉ uniqueIndexes db then
    .error .unknownVersion
  else runScript documents db draftScript

def migrateAuthorizationContext (db : Database) : Except OpenError Database :=
  if ¬ SameColumns (listed db) legacyColumns then .error .unknownVersion
  else if rowCount db ≠ 0 then .error .contextMissing
  else runScript documents db contextScript

def migrateAuthorizationContextBytes (db : Database) : Except OpenError Database :=
  if ¬ SameColumns (listed db)
      (columnsWithout [ownerDomainGeneration, authorizationContextJson]) then
    .error .unknownVersion
  else if rowCount db ≠ 0 then .error .bytesMissing
  else runScript documents db bytesScript

def migrateOwnerDomainGeneration (db : Database) : Except OpenError Database :=
  if ¬ SameColumns (listed db) (columnsWithout [ownerDomainGeneration]) then
    .error .unknownVersion
  else runScript documents db generationScript

/-- The step from one version, taken when the ledger is at it. -/
def rung (version : Nat) (step : Database → Except OpenError Database) :
    Nat × Database → Except OpenError (Nat × Database)
  | (found, db) => if found = version then (step db).map fun next => (version + 1, next)
    else .ok (found, db)

def ladder (db : Database) : Except OpenError (Nat × Database) := do
  let db ← rung 0 (migrateGenerationScopedDraft documents) (db.userVersion, db)
  let db ← rung 1 (migrateAuthorizationContext documents) db
  let db ← rung 2 (migrateAuthorizationContextBytes documents) db
  rung 3 (migrateOwnerDomainGeneration documents) db

def checkSchema (db : Database) : Except OpenError Database :=
  if ¬ SameColumns (listed db) columns then .error .partialSchema
  else if requestKey ∉ uniqueIndexes db then .error .unknownIdempotency
  else .ok db

def initializeLedger (db : Database) : Except OpenError Database :=
  match db.tables removalIntents with
  | none =>
    checkSchema { db.put removalIntents ⟨currentShape, []⟩ with userVersion := 4 }
  | some _ =>
    match ladder documents db with
    | .error error => .error error
    | .ok (version, db) => if version ≠ 4 then .error .unknownVersion else checkSchema db

/-! ## Steps that succeed -/

variable {documents}

theorem exists_of_execAll_cons {db last : Database} {statement : LedgerStatement}
    {rest : List LedgerStatement}
    (h : runScript documents db (statement :: rest) = .ok last) :
    ∃ next, execLedger documents db statement = .ok next ∧
      runScript documents next rest = .ok last := by
  rw [runScript, execAll] at h
  cases hNext : execLedger documents db statement with
  | error error =>
    rw [hNext] at h
    cases h
  | ok next =>
    rw [hNext] at h
    exact ⟨next, rfl, h⟩

theorem put_put (db : Database) (name : TableName) (first second : Table ColumnName) :
    (db.put name first).put name second = db.put name second := by
  simp [Db.put]

theorem tables_put (db : Database) (name : TableName) (table : Table ColumnName) :
    (db.put name table).tables name = some table := by
  simp [Db.put]

def stamped (db : Database) (table : Table ColumnName) (version : Nat) : Database :=
  { db.put removalIntents table with userVersion := version }

@[simp] theorem stamped_tables (db : Database) (table : Table ColumnName) (version : Nat) :
    (stamped db table version).tables removalIntents = some table :=
  tables_put db removalIntents table

theorem runScript_stamp (db : Database) (table : Table ColumnName) (version : Nat) :
    runScript documents (db.put removalIntents table) [.sql (.setUserVersion version)] =
      .ok (stamped db table version) := rfl

theorem exec_addColumn {db : Database} {table : Table ColumnName} {column : Column ColumnName}
    (hTable : db.tables removalIntents = some table) (hNew : column.name ∉ table.names)
    (hDefault : column.Admits column.default) :
    execLedger documents db (.sql (.addColumn removalIntents column)) =
      .ok (db.put removalIntents (table.addColumn column)) := by
  simp [execLedger, Statement.exec, Statement.execAddColumn, hTable, hNew, hDefault,
    Except.mapError]

theorem runScript_addColumns {db : Database} {table : Table ColumnName}
    {added : List (Column ColumnName)} (hTable : db.tables removalIntents = some table)
    (hNew : ∀ column ∈ added, column.name ∉ table.names) (hNodup : (added.map Column.name).Nodup)
    (hDefault : ∀ column ∈ added, column.Admits column.default) (rest : List LedgerStatement) :
    runScript documents db
        (added.map (fun column => .sql (.addColumn removalIntents column)) ++ rest) =
      runScript documents (db.put removalIntents (added.foldl Table.addColumn table)) rest := by
  induction added generalizing db table with
  | nil =>
    have hSame : db.put removalIntents table = db := by
      have hTables : Function.update db.tables removalIntents (some table) = db.tables := by
        rw [← hTable, Function.update_eq_self]
      rw [Db.put, hTables]
    rw [List.map_nil, List.nil_append, List.foldl_nil, hSame]
  | cons column added ih =>
    rw [List.map_cons, List.nodup_cons] at hNodup
    have hStep : execLedger documents db (.sql (.addColumn removalIntents column)) =
        .ok (db.put removalIntents (table.addColumn column)) :=
      exec_addColumn hTable (hNew column List.mem_cons_self) (hDefault column List.mem_cons_self)
    have hRest : ∀ other ∈ added, other.name ∉ (table.addColumn column).names := by
      intro other hOther hMem
      rcases mem_names_addColumn.mp hMem with hOld | hSame
      · exact hNew other (List.mem_cons_of_mem _ hOther) hOld
      · exact hNodup.1 (hSame ▸ List.mem_map_of_mem hOther)
    rw [List.map_cons, List.cons_append, runScript, execAll_cons_of_ok hStep, ← runScript,
      ih (tables_put _ _ _) hRest hNodup.2
        (fun other hOther => hDefault other (List.mem_cons_of_mem _ hOther)), put_put,
      List.foldl_cons]

theorem mem_names_addColumns {table : Table ColumnName} {added : List (Column ColumnName)}
    {c : ColumnName} :
    c ∈ (added.foldl Table.addColumn table).names ↔
      c ∈ table.names ∨ c ∈ added.map Column.name := by
  induction added generalizing table with
  | nil => simp
  | cons column added ih =>
    rw [List.foldl_cons, ih, mem_names_addColumn, List.map_cons, List.mem_cons, or_assoc]

theorem SameColumns.mem_iff {first second : List ColumnName} (h : SameColumns first second)
    (c : ColumnName) : c ∈ first ↔ c ∈ second :=
  ⟨fun hMem => h.1 hMem, fun hMem => h.2 hMem⟩

theorem sameColumns_iff {first second : List ColumnName} :
    SameColumns first second ↔ ∀ c, c ∈ first ↔ c ∈ second :=
  ⟨fun h => h.mem_iff, fun h => ⟨fun c => (h c).mp, fun c => (h c).mpr⟩⟩

theorem listed_of_table {db : Database} {table : Table ColumnName}
    (h : db.tables removalIntents = some table) : listed db = table.names := by
  rw [listed, h]
  rfl

theorem renamed_tables {db renamed : Database} {table : Table ColumnName}
    (hTable : db.tables removalIntents = some table)
    (h : execLedger documents db (.sql (.renameTable removalIntents removalIntentsV0)) =
      .ok renamed) : renamed.tables removalIntentsV0 = some table := by
  simp only [execLedger, Statement.exec, Statement.execRenameTable, hTable] at h
  split at h
  · cases h
  · cases h
    simp

theorem created_tables {db created : Database} {shape : Shape ColumnName}
    (h : execLedger documents db (.sql (.createTable removalIntents shape)) = .ok created) :
    created = db.put removalIntents ⟨shape, []⟩ := by
  simp only [execLedger, Statement.exec] at h
  split at h
  · cases h
  · cases h
    rfl

/-- The step from version 0 expects a column more than the table it copies into has. -/
theorem draft_refused {db last : Database} :
    migrateGenerationScopedDraft documents db ≠ .ok last := by
  intro h
  unfold migrateGenerationScopedDraft at h
  split at h
  · cases h
  · rename_i hGuard
    have hColumns : SameColumns (listed db) legacyColumns := by
      by_contra hOther
      exact hGuard (.inl hOther)
    obtain ⟨renamed, hRename, h⟩ := exists_of_execAll_cons h
    obtain ⟨created, hCreate, h⟩ := exists_of_execAll_cons h
    obtain ⟨copied, hCopy, _⟩ := exists_of_execAll_cons h
    cases hTable : db.tables removalIntents with
    | none =>
      rw [listed, hTable] at hColumns
      exact absurd (hColumns.2 (show intentId ∈ legacyColumns by decide)) List.not_mem_nil
    | some table =>
      have hSource := renamed_tables hTable hRename
      obtain rfl := created_tables hCreate
      rw [listed_of_table hTable] at hColumns
      have hLonger : legacyColumns.length ≤ table.names.length :=
        (List.subperm_of_subset (by decide) hColumns.2).length_le
      have hCount : firstShape.columns.length ≠ table.columns.length := by
        rw [Shape.names, List.length_map] at hLonger
        have hLegacy : legacyColumns.length = 15 := by decide
        have hFirst : firstShape.columns.length = 14 := by decide
        omega
      have hKept : (renamed.put removalIntents ⟨firstShape, []⟩).tables removalIntentsV0 =
          some table := by
        simp [Db.put, hSource]
      simp [execLedger, insertAll, tables_put, hKept, hCount] at hCopy

/-- The table that the step from version 1 accepts has, after it, a column that the
step from version 2 does not expect. -/
theorem context_refused {db next last : Database} {table : Table ColumnName}
    (hTable : db.tables removalIntents = some table)
    (hNext : migrateAuthorizationContext documents db = .ok next) :
    migrateAuthorizationContextBytes documents next ≠ .ok last := by
  unfold migrateAuthorizationContext at hNext
  split at hNext
  · cases hNext
  · rename_i hGuard
    have hColumns := not_not.mp hGuard
    rw [listed_of_table hTable] at hColumns
    split at hNext
    · cases hNext
    · have hNew : ∀ column ∈ contextColumns, column.name ∉ table.names := by
        intro column hColumn
        rw [hColumns.mem_iff]
        revert hColumn
        revert column
        decide
      rw [contextScript, runScript_addColumns hTable hNew (by decide) (by decide),
        runScript_stamp] at hNext
      cases hNext
      have hBytes : authorizationContextJson ∈
          (contextColumns.foldl Table.addColumn table).names :=
        mem_names_addColumns.mpr (.inl ((hColumns.mem_iff _).mpr (by decide)))
      unfold migrateAuthorizationContextBytes
      rw [listed_of_table (stamped_tables db _ 2), if_pos]
      · exact fun hOk => by cases hOk
      · intro hSame
        exact absurd ((hSame.mem_iff _).mp hBytes) (by decide)

def upgradedRow (documents : Documents) (row : Row ColumnName) : Row ColumnName :=
  Function.update (Function.update row ownerDomainGeneration (.integer 1)) deviceRefJson
    ((documents.jsonSet "owner_domain_generation" (.int 1) (row deviceRefJson)).getD .null)

def upgraded (documents : Documents) (table : Table ColumnName) : Table ColumnName :=
  { table.addColumn generationColumn with rows := table.rows.map (upgradedRow documents) }

structure Upgradable (documents : Documents) (table : Table ColumnName) : Prop where
  names : SameColumns table.names (columnsWithout [ownerDomainGeneration])
  loose : ∀ key ∈ table.keys, deviceRefJson ∉ key ∧ ownerDomainGeneration ∉ key
  unchecked : ∀ column ∈ table.columns, column.name = deviceRefJson → column.check = none
  admitted : ∀ row ∈ table.rows, table.Admits row
  distinct : table.rows.Pairwise table.Distinct
  references : ∀ row ∈ table.rows, ∃ reference,
    documents.jsonSet "owner_domain_generation" (.int 1) (row deviceRefJson) =
      some (.text reference)

theorem admits_generation {table : Table ColumnName} (h : Upgradable documents table)
    {row : Row ColumnName} (hRow : row ∈ table.rows) (reference : String) :
    (table.addColumn generationColumn).Admits
      (Function.update (Function.update row ownerDomainGeneration (.integer 1)) deviceRefJson
        (.text reference)) := by
  intro column hColumn
  rcases List.mem_append.mp hColumn with hListed | hAdded
  · by_cases hRef : column.name = deviceRefJson
    · rw [hRef, Function.update_self]
      refine ⟨fun _ hNull => (by cases hNull), fun check hCheck => ?_⟩
      rw [h.unchecked column hListed hRef] at hCheck
      cases hCheck
    · have hOther : column.name ≠ ownerDomainGeneration := by
        intro hSame
        have hMem : column.name ∈ table.names := List.mem_map_of_mem hListed
        rw [hSame, h.names.mem_iff] at hMem
        revert hMem
        decide
      rw [Function.update_of_ne hRef, Function.update_of_ne hOther]
      exact h.admitted row hRow column hListed
  · rw [List.mem_singleton.mp hAdded]
    have hName : generationColumn.name = ownerDomainGeneration := rfl
    rw [hName, Function.update_of_ne (by decide), Function.update_self]
    decide

/-- Rewriting the references violates no key, since no key names them. -/
theorem rewriteRows_generation {table : Table ColumnName} (h : Upgradable documents table) :
    Table.rewriteRows (table.addColumn generationColumn).toShape deviceRefJson
      (documents.jsonSet "owner_domain_generation" (.int 1)) []
      (table.addColumn generationColumn).rows = some (table.rows.map (upgradedRow documents)) := by
  have hNew : generationColumn.name ∉ table.names := by
    rw [h.names.mem_iff]
    decide
  have hFits : Fits table.toShape table := ⟨.refl _, rfl, h.admitted, h.distinct⟩
  have hAdded := hFits.addColumn hNew (fun key hKey => (h.loose key hKey).2) (by decide)
  have hLoose : ∀ key ∈ (table.addColumn generationColumn).toShape.keys, deviceRefJson ∉ key :=
    fun key hKey => (h.loose key hKey).1
  have hPairs : ([] ++ (table.addColumn generationColumn).rows).Pairwise
      (table.addColumn generationColumn).toShape.Distinct := hAdded.distinct
  have hName : deviceRefJson ≠ generationColumn.name := by decide
  rw [rewriteRows_eq_some (g := fun row =>
    (documents.jsonSet "owner_domain_generation" (.int 1) (row deviceRefJson)).getD .null)
    hLoose ?_ ?_ hPairs]
  · simp only [List.nil_append, Table.addColumn, List.map_map]
    rfl
  · intro row hRow
    obtain ⟨old, hOld, rfl⟩ := List.mem_map.mp hRow
    obtain ⟨reference, hReference⟩ := h.references old hOld
    simp only [Function.update_of_ne hName, hReference, Option.getD_some]
  · intro row hRow
    obtain ⟨old, hOld, rfl⟩ := List.mem_map.mp hRow
    obtain ⟨reference, hReference⟩ := h.references old hOld
    simp only [Function.update_of_ne hName, hReference, Option.getD_some]
    exact admits_generation h hOld reference

theorem generation_upgrades {db : Database} {table : Table ColumnName}
    (hTable : db.tables removalIntents = some table) (h : Upgradable documents table) :
    migrateOwnerDomainGeneration documents db =
      .ok (stamped db (upgraded documents table) 4) := by
  have hNew : generationColumn.name ∉ table.names := by
    rw [h.names.mem_iff]
    decide
  have hListed : deviceRefJson ∈ (table.addColumn generationColumn).names := by
    rw [mem_names_addColumn, h.names.mem_iff]
    exact .inl (by decide)
  have hSet : execLedger documents (db.put removalIntents (table.addColumn generationColumn))
      (.setMember removalIntents deviceRefJson "owner_domain_generation" 1) =
      .ok (db.put removalIntents (upgraded documents table)) := by
    simp only [execLedger, setMembers, tables_put, hListed, not_true_eq_false, if_false,
      rewriteRows_generation h, put_put]
    rfl
  unfold migrateOwnerDomainGeneration
  rw [listed_of_table hTable, if_neg (not_not.mpr h.names), generationScript, runScript,
    execAll_cons_of_ok (exec_addColumn hTable hNew (by decide)), execAll_cons_of_ok hSet]
  exact runScript_stamp db (upgraded documents table) 4

end EidolonAdmin.Removal.LedgerMigration
