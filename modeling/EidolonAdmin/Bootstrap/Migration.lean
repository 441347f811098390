import EidolonAdmin.Foundation.Schema

/-! # The schema ladder of the bootstrap database

`initialize` of the SQLite adapter: the statements that create the current schema
in an empty database, the nine migration steps, and the user version that is
stamped after the last of them. The schema of each older version is what the
steps up to it leave of the first one, whose tables are those the adapter's own
migration test creates.
-/

namespace EidolonAdmin.Bootstrap.Migration

open Foundation Foundation.Sql Foundation.Connection

inductive TableName where
  | bootstrapState
  | commissioningSessions
  | commissioningSessionsV8
  | bootstrapOperations
  | controllerGrants
  | controllerGrantsPreV7
  | daemonRuns
  | commissioningSessionsCreatedIdx
deriving DecidableEq, Repr

inductive ColumnName where
  | singleton | resetEpoch | claimState | networkState | workspaceState | recoveryState
  | ownerId | updatedAt
  | sessionId | secretHash | createdAt | expiresAt | consumedAt | revokedAt
  | claimedControllerId | failedAttempts
  | operationId | operationType | state | target | errorCode
  | controllerId | publicKey | publicKeyFingerprint | role | displayName | platform
  | runId | pid | startedAt | stoppedAt
deriving DecidableEq, Repr

open TableName ColumnName

abbrev Database := Db TableName ColumnName

abbrev SqlStatement := Statement TableName ColumnName

def text (name : ColumnName) : Column ColumnName := .plain name .text

def integer (name : ColumnName) : Column ColumnName := .plain name .integer

/-! ## The tables -/

/-- `singleton INTEGER PRIMARY KEY` names the row id, which is never NULL. -/
def singletonColumn : Column ColumnName := (integer singleton).required.checked (.equals 1)

def resetEpochColumn : Column ColumnName := (integer resetEpoch).required.checked (.atLeast 0)

def failedAttemptsColumn : Column ColumnName :=
  ((integer failedAttempts).required.defaulted (.integer 0)).checked (.atLeast 0)

def bootstrapStateShape (extra : List (Column ColumnName)) (tail : List (Column ColumnName)) :
    Shape ColumnName where
  columns := [singletonColumn, resetEpochColumn, (text claimState).required,
    (text networkState).required] ++ extra ++ [(text updatedAt).required] ++ tail
  keys := [[singleton]]

def sessionsShape (expires : Column ColumnName) (tail : List (Column ColumnName)) :
    Shape ColumnName where
  columns := [text sessionId, (text secretHash).required, (text createdAt).required, expires,
    text consumedAt, text revokedAt] ++ tail
  keys := [[sessionId]]

def operationsShape : Shape ColumnName where
  columns := [text operationId, (text operationType).required, (text state).required,
    (text target).required, resetEpochColumn, (text createdAt).required,
    (text updatedAt).required, text errorCode]
  keys := [[operationId]]

def grantsShape (identity : Column ColumnName) (keys : List (List ColumnName)) :
    Shape ColumnName where
  columns := [identity, (text publicKey).required, (text publicKeyFingerprint).required,
    (text role).required, (text displayName).required, (text platform).required,
    resetEpochColumn, (text createdAt).required, text revokedAt]
  keys := keys

/-- Before version 7 a Grant's identity was global. A text primary key admits NULL. -/
def globalGrantsShape : Shape ColumnName :=
  grantsShape (text controllerId) [[controllerId], [publicKeyFingerprint]]

/-- `_CONTROLLER_GRANTS_DDL`. -/
def controllerGrantsShape : Shape ColumnName :=
  grantsShape (text controllerId).required
    [[controllerId, resetEpoch], [publicKeyFingerprint, resetEpoch]]

def currentSessionsShape : Shape ColumnName :=
  sessionsShape (text expiresAt) [text claimedControllerId, failedAttemptsColumn]

def daemonRunsShape : Shape ColumnName where
  columns := [text runId, (integer pid).required, (text startedAt).required, text stoppedAt]
  keys := [[runId]]

def createdIdx : Index TableName ColumnName :=
  ⟨commissioningSessionsCreatedIdx, commissioningSessions, createdAt⟩

def schemaAt (version : Nat) : TableName → Option (Shape ColumnName)
  | bootstrapState =>
    if version = 0 then none
    else some (bootstrapStateShape
      ((if version < 8 then [(text workspaceState).required] else []) ++
        (if version < 6 then [(text recoveryState).required] else []))
      (if 5 ≤ version ∧ version < 8 then [text ownerId] else []))
  | commissioningSessions =>
    if version = 0 then none
    else some (sessionsShape
      (if version < 9 then (text expiresAt).required else text expiresAt)
      ((if 3 ≤ version then [text claimedControllerId] else []) ++
        (if 4 ≤ version then [failedAttemptsColumn] else [])))
  | bootstrapOperations => if version < 3 then none else some operationsShape
  | controllerGrants =>
    if version < 3 then none
    else if version < 7 then some globalGrantsShape
    else some controllerGrantsShape
  | daemonRuns => if version = 1 then some daemonRunsShape else none
  | commissioningSessionsV8 | controllerGrantsPreV7 | commissioningSessionsCreatedIdx => none

/-! ## The statements of `initialize` -/

def schemaVersion : Nat := 10

def createAtCurrentSchema (now : String) : List (Call SqlStatement) :=
  executescript
    [.createTable bootstrapState (bootstrapStateShape [] []),
      .createTable commissioningSessions currentSessionsShape,
      .createTable bootstrapOperations operationsShape,
      .createIndex createdIdx,
      .createTable controllerGrants controllerGrantsShape] ++
  [.execute (.insert bootstrapState
    [(singleton, .integer 1), (resetEpoch, .integer 0), (claimState, .text "unclaimed"),
      (networkState, .text "unconfigured"), (updatedAt, .text now)])]

def migrateV1ToV2 : List (Call SqlStatement) := [.execute (.dropTable daemonRuns true)]

def migrateV2ToV3 : List (Call SqlStatement) :=
  executescript
    [.addColumn commissioningSessions (text claimedControllerId),
      .createTable controllerGrants globalGrantsShape,
      .createTable bootstrapOperations operationsShape]

def migrateV3ToV4 : List (Call SqlStatement) :=
  [.execute (.addColumn commissioningSessions failedAttemptsColumn)]

def migrateV4ToV5 : List (Call SqlStatement) :=
  [.execute (.addColumn bootstrapState (text ownerId))]

def migrateV5ToV6 : List (Call SqlStatement) :=
  [.execute (.dropColumn bootstrapState recoveryState)]

def migrateV6ToV7 : List (Call SqlStatement) :=
  executescript (rebuild controllerGrants controllerGrantsPreV7 controllerGrantsShape)

def migrateV7ToV8 : List (Call SqlStatement) :=
  executescript
    [.dropColumn bootstrapState ownerId,
      .dropColumn bootstrapState workspaceState]

def migrateV8ToV9 : List (Call SqlStatement) :=
  executescript (rebuild commissioningSessions commissioningSessionsV8 currentSessionsShape)

def migrateV9ToV10 : List (Call SqlStatement) :=
  [.execute (.update bootstrapOperations operationType (.text "initial_network")
    (.text "change_network"))]

def ladder : List (List (Call SqlStatement)) :=
  [migrateV1ToV2, migrateV2ToV3, migrateV3ToV4, migrateV4ToV5, migrateV5ToV6, migrateV6ToV7,
    migrateV7ToV8, migrateV8ToV9, migrateV9ToV10]

/-- What `initialize` executes on a database of this version. -/
def program (now : String) (version : Nat) : List (Call SqlStatement) :=
  (if version = 0 then createAtCurrentSchema now else (ladder.drop (version - 1)).flatten) ++
    [.execute (.setUserVersion schemaVersion), .commit]

inductive InitializeError where
  | unsupportedVersion (version : Nat)
  | sql (error : Error TableName ColumnName)
deriving DecidableEq, Repr

def initializeStore (now : String) (db : Database) : Except InitializeError Database :=
  if db.userVersion > schemaVersion then .error (.unsupportedVersion db.userVersion)
  else
    match (fresh db).performAll Statement.exec Statement.opens (program now db.userVersion) with
    | .error e => .error (.sql e)
    | .ok c => .ok c.durable

/-- The database after the first `k` statements of `initialize` and a stop. -/
def interrupted (now : String) (k : Nat) (db : Database) :
    Except (Error TableName ColumnName) Database :=
  stoppedAfter Statement.exec Statement.opens k db (program now db.userVersion)

/-! ## What each step does to a database of its version -/

def AtVersion (version : Nat) (db : Database) : Prop :=
  Matches (schemaAt version) [createdIdx] db

def Identified (db : Database) : Prop :=
  ∀ table, db.tables controllerGrants = some table → ∀ row ∈ table.rows, row controllerId ≠ .null

structure Climbed (version : Nat) (db db' : Database) : Prop where
  atVersion : AtVersion version db'
  identified : Identified db' ↔ Identified db
  userVersion : db'.userVersion = db.userVersion

abbrev performing (db : Database) (calls : List (Call SqlStatement)) :
    Except (Error TableName ColumnName) (Connection Database) :=
  (fresh db).performAll Statement.exec Statement.opens calls

theorem identified_congr {db db' : Database}
    (h : db'.tables controllerGrants = db.tables controllerGrants) :
    Identified db' ↔ Identified db := by rw [Identified, Identified, h]

theorem AtVersion.identified {version : Nat} {db : Database} (h : AtVersion version db)
    (hVersion : 7 ≤ version) : Identified db := by
  have hShape : schemaAt version controllerGrants = some controllerGrantsShape := by
    simp only [schemaAt, if_neg (show ¬ version < 3 by omega),
      if_neg (show ¬ version < 7 by omega)]
  obtain ⟨table, hTable, hFits⟩ := h.exists_table hShape
  intro found hFound row hRow
  rw [hTable] at hFound
  cases hFound
  have hAdmits := hFits.admits_iff.mp (hFits.admitted row hRow)
  exact (hAdmits (text controllerId).required List.mem_cons_self).1 rfl

theorem AtVersion.identified_of_lt {version : Nat} {db : Database} (h : AtVersion version db)
    (hVersion : version < 3) : Identified db := by
  have hShape : schemaAt version controllerGrants = none := by
    simp only [schemaAt, if_pos hVersion]
  intro table hTable
  rw [h.table_eq_none hShape] at hTable
  cases hTable

theorem Climbed.of_differAt {version : Nat} {db db' : Database} {name : TableName}
    {schema : TableName → Option (Shape ColumnName)} (hMatches : Matches schema [createdIdx] db')
    (hDiffer : DifferAt name db db') (hName : name ≠ controllerGrants)
    (hSchema : ∀ table, schemaAt version table = schema table) : Climbed version db db' where
  atVersion := hMatches.of_eq hSchema
  identified := identified_congr (hDiffer.tables _ hName.symm)
  userVersion := hDiffer.userVersion

theorem migrateV1ToV2_climbs {db : Database} (h : AtVersion 1 db) :
    ∃ db', performing db migrateV1ToV2 = .ok (fresh db') ∧ Climbed 2 db db' := by
  obtain ⟨db', hExec, hMatches, hDiffer⟩ := h.exec_dropTableIfExists
  refine ⟨db', performAll_execute_of_ok hExec rfl, .of_differAt hMatches hDiffer (by decide) ?_⟩
  intro name
  cases name <;> rfl

theorem migrateV2ToV3_climbs {db : Database} (h : AtVersion 2 db) :
    ∃ db', performing db migrateV2ToV3 = .ok (fresh db') ∧ Climbed 3 db db' := by
  have hSessions : schemaAt 2 commissioningSessions =
      some (sessionsShape (text expiresAt).required []) := rfl
  obtain ⟨added, hAdd, hAdded, hDiffer⟩ :=
    h.exec_addColumn hSessions (text claimedControllerId) (by decide) (by decide) (by decide)
  have hGrants : Statement.exec added (.createTable controllerGrants globalGrantsShape) =
      .ok (added.put controllerGrants ⟨globalGrantsShape, []⟩) :=
    hAdded.exec_createTable rfl (by decide)
  have hWithGrants := hAdded.put controllerGrants (.empty globalGrantsShape)
  have hOperations : Statement.exec (added.put controllerGrants ⟨globalGrantsShape, []⟩)
      (.createTable bootstrapOperations operationsShape) =
      .ok ((added.put controllerGrants ⟨globalGrantsShape, []⟩).put bootstrapOperations
        ⟨operationsShape, []⟩) := hWithGrants.exec_createTable rfl (by decide)
  refine ⟨(added.put controllerGrants ⟨globalGrantsShape, []⟩).put bootstrapOperations
    ⟨operationsShape, []⟩, performAll_executescript_of_ok ?_, ?_, ?_, hDiffer.userVersion⟩
  · rw [execAll_cons_of_ok hAdd, execAll_cons_of_ok hGrants, execAll_cons_of_ok hOperations]
    rfl
  · refine (hWithGrants.put bootstrapOperations (.empty operationsShape)).of_eq fun name => ?_
    cases name <;> rfl
  · refine ⟨fun _ => h.identified_of_lt (by decide), fun _ table hTable row hRow => ?_⟩
    cases hTable
    cases hRow

theorem migrateV3ToV4_climbs {db : Database} (h : AtVersion 3 db) :
    ∃ db', performing db migrateV3ToV4 = .ok (fresh db') ∧ Climbed 4 db db' := by
  have hSessions : schemaAt 3 commissioningSessions =
      some (sessionsShape (text expiresAt).required [text claimedControllerId]) := rfl
  obtain ⟨db', hExec, hMatches, hDiffer⟩ :=
    h.exec_addColumn hSessions failedAttemptsColumn (by decide) (by decide) (by decide)
  refine ⟨db', performAll_execute_of_ok hExec rfl, .of_differAt hMatches hDiffer (by decide) ?_⟩
  intro name
  cases name <;> rfl

theorem migrateV4ToV5_climbs {db : Database} (h : AtVersion 4 db) :
    ∃ db', performing db migrateV4ToV5 = .ok (fresh db') ∧ Climbed 5 db db' := by
  have hState : schemaAt 4 bootstrapState = some (bootstrapStateShape
      [(text workspaceState).required, (text recoveryState).required] []) := rfl
  obtain ⟨db', hExec, hMatches, hDiffer⟩ :=
    h.exec_addColumn hState (text ownerId) (by decide) (by decide) (by decide)
  refine ⟨db', performAll_execute_of_ok hExec rfl, .of_differAt hMatches hDiffer (by decide) ?_⟩
  intro name
  cases name <;> rfl

theorem migrateV5ToV6_climbs {db : Database} (h : AtVersion 5 db) :
    ∃ db', performing db migrateV5ToV6 = .ok (fresh db') ∧ Climbed 6 db db' := by
  have hState : schemaAt 5 bootstrapState = some (bootstrapStateShape
      [(text workspaceState).required, (text recoveryState).required] [text ownerId]) := rfl
  obtain ⟨db', hExec, hMatches, hDiffer⟩ :=
    h.exec_dropColumn hState recoveryState (by decide) (by decide) (by decide) (by decide)
  refine ⟨db', performAll_execute_of_ok hExec rfl, .of_differAt hMatches hDiffer (by decide) ?_⟩
  intro name
  cases name <;> rfl

theorem AtVersion.movable {version : Nat} {db : Database} (h : AtVersion version db)
    {name old : TableName} (hNe : name ≠ old) (hFree : schemaAt version old = none)
    (hNames : createdIdx.name ≠ name ∧ createdIdx.name ≠ old) (hOld : createdIdx.table ≠ old) :
    Movable db name old := by
  have hIndex : ∀ index ∈ db.indexes, index = createdIdx := fun index hMem =>
    List.mem_singleton.mp (h.indexes index hMem).1
  refine ⟨hNe, h.table_eq_none hFree, ?_, ?_⟩
  · intro index hMem
    rw [hIndex index hMem]
    exact hNames
  · intro index hMem
    rw [hIndex index hMem]
    exact hOld

theorem rebuildable_grants_iff {table : Table ColumnName} (h : Fits globalGrantsShape table) :
    Rebuildable controllerGrantsShape table.rows ↔
      ∀ row ∈ table.rows, row controllerId ≠ .null := by
  constructor
  · intro hRows row hRow
    have hIdentity : (text controllerId).required ∈ controllerGrantsShape.columns :=
      List.mem_cons_self
    exact (hRows.admits hRow hIdentity).1 rfl
  · intro hIdentified
    refine Rebuildable.of_fits h ?_ (by decide)
    intro row hRow column hColumn
    rcases List.mem_cons.mp hColumn with rfl | hOther
    · exact ⟨fun _ => hIdentified row hRow, fun check hCheck => by cases hCheck⟩
    · exact h.admits_iff.mp (h.admitted row hRow) column (List.mem_cons_of_mem _ hOther)

theorem rebuildable_sessions {table : Table ColumnName}
    (h : Fits (sessionsShape (text expiresAt).required [text claimedControllerId,
      failedAttemptsColumn]) table) : Rebuildable currentSessionsShape table.rows := by
  refine Rebuildable.of_fits h ?_ (by decide)
  intro row hRow column hColumn
  by_cases hExpires : column = text expiresAt
  · rw [hExpires]
    exact Column.plain_admits _ _ _
  · refine h.admits_iff.mp (h.admitted row hRow) column ?_
    have hListed : ∀ c ∈ currentSessionsShape.columns, c ≠ text expiresAt →
        c ∈ (sessionsShape (text expiresAt).required [text claimedControllerId,
          failedAttemptsColumn]).columns := by decide
    exact hListed column hColumn hExpires

theorem migrateV6ToV7_ok_iff {db : Database} (h : AtVersion 6 db) {table : Table ColumnName}
    (hTable : db.tables controllerGrants = some table) {c : Connection Database} :
    performing db migrateV6ToV7 = .ok c ↔
      Identified db ∧
        c = fresh (db.rebuilt controllerGrants controllerGrantsShape table.rows) := by
  obtain ⟨found, hFound, hFits⟩ :=
    h.exists_table (show schemaAt 6 controllerGrants = some globalGrantsShape from rfl)
  rw [hTable] at hFound
  cases hFound
  have hMovable : Movable db controllerGrants controllerGrantsPreV7 :=
    h.movable (by decide) rfl (by decide) (by decide)
  have hIdentified : Identified db ↔ Rebuildable controllerGrantsShape table.rows := by
    rw [rebuildable_grants_iff hFits, Identified, hTable]
    simp
  have hListed : ∀ c ∈ controllerGrantsShape.names, c ∈ table.names :=
    fun _ hC => hFits.mem_names.mpr hC
  rw [performing, migrateV6ToV7, hIdentified]
  exact hMovable.performAll_rebuild_iff hTable hListed

theorem rebuiltGrants_atVersion {db : Database} (h : AtVersion 6 db) {table : Table ColumnName}
    (hTable : db.tables controllerGrants = some table) (hIdentified : Identified db) :
    AtVersion 7 (db.rebuilt controllerGrants controllerGrantsShape table.rows) := by
  obtain ⟨found, hFound, hFits⟩ :=
    h.exists_table (show schemaAt 6 controllerGrants = some globalGrantsShape from rfl)
  rw [hTable] at hFound
  cases hFound
  have hRows := (rebuildable_grants_iff hFits).mpr (hIdentified table hTable)
  refine (Matches.rebuilt h hRows).of_eq fun name => ?_
  cases name <;> rfl

theorem migrateV7ToV8_climbs {db : Database} (h : AtVersion 7 db) :
    ∃ db', performing db migrateV7ToV8 = .ok (fresh db') ∧ Climbed 8 db db' := by
  have hState : schemaAt 7 bootstrapState = some (bootstrapStateShape
      [(text workspaceState).required] [text ownerId]) := rfl
  obtain ⟨dropped, hOwner, hDropped, hFirst⟩ :=
    h.exec_dropColumn hState ownerId (by decide) (by decide) (by decide) (by decide)
  have hRest : Function.update (schemaAt 7) bootstrapState _ bootstrapState =
      some (bootstrapStateShape [(text workspaceState).required] []) := Function.update_self _ _ _
  obtain ⟨db', hWorkspace, hMatches, hSecond⟩ :=
    hDropped.exec_dropColumn hRest workspaceState (by decide) (by decide) (by decide) (by decide)
  have hDiffer : DifferAt bootstrapState db db' :=
    ⟨fun other hOther => (hSecond.tables other hOther).trans (hFirst.tables other hOther),
      hSecond.userVersion.trans hFirst.userVersion⟩
  refine ⟨db', performAll_executescript_of_ok ?_, .of_differAt hMatches hDiffer (by decide) ?_⟩
  · rw [execAll_cons_of_ok hOwner, execAll_cons_of_ok hWorkspace]
    rfl
  · intro name
    cases name <;> rfl

theorem migrateV8ToV9_ok {db : Database} (h : AtVersion 8 db) {table : Table ColumnName}
    (hTable : db.tables commissioningSessions = some table) :
    performing db migrateV8ToV9 =
        .ok (fresh (db.rebuilt commissioningSessions currentSessionsShape table.rows)) ∧
      AtVersion 9 (db.rebuilt commissioningSessions currentSessionsShape table.rows) := by
  obtain ⟨found, hFound, hFits⟩ := h.exists_table (show schemaAt 8 commissioningSessions =
    some (sessionsShape (text expiresAt).required [text claimedControllerId, failedAttemptsColumn])
    from rfl)
  rw [hTable] at hFound
  cases hFound
  have hMovable : Movable db commissioningSessions commissioningSessionsV8 :=
    h.movable (by decide) rfl (by decide) (by decide)
  have hRows := rebuildable_sessions hFits
  have hListed : ∀ c ∈ currentSessionsShape.names, c ∈ table.names :=
    fun _ hC => hFits.mem_names.mpr hC
  constructor
  · exact (hMovable.performAll_rebuild_iff hTable hListed).mpr ⟨hRows, rfl⟩
  · refine (Matches.rebuilt h hRows).of_eq fun name => ?_
    cases name <;> rfl

/-- The operation types a version 10 database no longer carries. -/
def normalized (row : Row ColumnName) : Row ColumnName :=
  setWhere operationType (.text "initial_network") (.text "change_network") row

theorem migrateV8ToV9_climbs {db : Database} (h : AtVersion 8 db) :
    ∃ db', performing db migrateV8ToV9 = .ok (fresh db') ∧ Climbed 9 db db' := by
  obtain ⟨table, hTable, _⟩ := h.exists_table (show schemaAt 8 commissioningSessions =
    some (sessionsShape (text expiresAt).required [text claimedControllerId, failedAttemptsColumn])
    from rfl)
  obtain ⟨hStep, hNine⟩ := migrateV8ToV9_ok h hTable
  exact ⟨_, hStep, hNine, iff_of_true (hNine.identified (by decide)) (h.identified (by decide)), rfl⟩

theorem normalized_admits {row : Row ColumnName} (h : operationsShape.Admits row) :
    operationsShape.Admits (normalized row) := by
  intro column hColumn
  unfold normalized setWhere
  split
  · by_cases hName : column.name = operationType
    · rw [hName, Function.update_self]
      have hOnly : ∀ c ∈ operationsShape.columns, c.name = operationType →
          c.Admits (.text "change_network") := by decide
      exact hOnly column hColumn hName
    · rw [Function.update_of_ne hName]
      exact h column hColumn
  · exact h column hColumn

theorem exec_migrateV9ToV10 {db : Database} (h : AtVersion 9 db) {table : Table ColumnName}
    (hTable : db.tables bootstrapOperations = some table) :
    Statement.exec db (.update bootstrapOperations operationType (.text "initial_network")
        (.text "change_network")) =
      .ok (db.put bootstrapOperations { table with rows := table.rows.map normalized }) := by
  obtain ⟨found, hFound, hFits⟩ :=
    h.exists_table (show schemaAt 9 bootstrapOperations = some operationsShape from rfl)
  rw [hTable] at hFound
  cases hFound
  exact Statement.exec_update hTable hFits (by decide) (by decide) fun _ => normalized_admits

theorem normalized_atVersion {db : Database} (h : AtVersion 9 db) {table : Table ColumnName}
    (hFits : Fits operationsShape table) : AtVersion schemaVersion
      (db.put bootstrapOperations { table with rows := table.rows.map normalized }) := by
  have hKeys : ∀ key ∈ table.keys, operationType ∉ key := by
    rw [hFits.keys]
    decide
  have hNormalized : Fits operationsShape { table with rows := table.rows.map normalized } := by
    refine ⟨hFits.columns, hFits.keys, ?_, ?_⟩
    · refine List.forall_mem_map.mpr fun row hRow => hFits.admits_iff.mpr ?_
      exact normalized_admits (hFits.admits_iff.mp (hFits.admitted row hRow))
    · refine List.pairwise_map.mpr (hFits.distinct.imp fun hPair => ?_)
      exact distinct_setWhere hKeys _ _ hPair
  refine (Matches.put h bootstrapOperations hNormalized).of_eq fun name => ?_
  cases name <;> rfl

end EidolonAdmin.Bootstrap.Migration
