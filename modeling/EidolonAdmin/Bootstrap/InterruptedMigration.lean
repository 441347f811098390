import EidolonAdmin.Bootstrap.Migration
import Mathlib.Tactic.IntervalCases

/-! # Stopping the schema ladder and starting it again

No transaction surrounds the ladder and the version is stamped last, so a process
that stops between two statements leaves a database that still carries the old
version and has part of the new schema. Starting again performs every step from
the first, and the result below says for which stops that leads where an
uninterrupted run leads.
-/

namespace EidolonAdmin.Bootstrap.Migration

open Foundation Foundation.Sql Foundation.Connection
open TableName ColumnName

/-! ## Uninterrupted runs -/

def Reaches (now : String) (version : Nat) (db : Database) : Prop :=
  ∃ c, performing db (program now version) = .ok c

theorem performing_program {now : String} {version : Nat} {db db' : Database}
    {step : List (Call SqlStatement)} (hStep : performing db step = .ok (fresh db'))
    (hProgram : program now version = step ++ program now (version + 1)) :
    performing db (program now version) = performing db' (program now (version + 1)) := by
  rw [hProgram]
  exact performAll_append_of_ok hStep _

/-- An uninterrupted run ends at the current schema if every stored Grant names its
Controller, and fails otherwise. -/
structure Upgrades (now : String) (version : Nat) (db : Database) : Prop where
  current : Identified db → ∃ final, performing db (program now version) = .ok (fresh final) ∧
    AtVersion schemaVersion final
  identified : Reaches now version db → Identified db

theorem upgrades_of_climbs (now : String) {version : Nat} {step : List (Call SqlStatement)}
    (hProgram : program now version = step ++ program now (version + 1))
    (hClimbs : ∀ db, AtVersion version db →
      ∃ db', performing db step = .ok (fresh db') ∧ Climbed (version + 1) db db')
    (hNext : ∀ db, AtVersion (version + 1) db → Upgrades now (version + 1) db)
    (db : Database) (h : AtVersion version db) : Upgrades now version db := by
  obtain ⟨db', hStep, hClimbed⟩ := hClimbs db h
  have hRun := performing_program hStep hProgram
  have hRest := hNext db' hClimbed.atVersion
  constructor
  · intro hIdentified
    rw [hRun]
    exact hRest.current (hClimbed.identified.mpr hIdentified)
  · rintro ⟨c, hOk⟩
    exact hClimbed.identified.mp (hRest.identified ⟨c, hRun ▸ hOk⟩)

theorem upgrades_v9 (now : String) (db : Database) (h : AtVersion 9 db) :
    Upgrades now 9 db := by
  obtain ⟨table, hTable, hFits⟩ :=
    h.exists_table (show schemaAt 9 bootstrapOperations = some operationsShape from rfl)
  refine ⟨fun _ => ?_, fun _ => h.identified (by decide)⟩
  have hUpdate := exec_migrateV9ToV10 h hTable
  have hTen := normalized_atVersion h hFits
  refine ⟨{ db.put bootstrapOperations { table with rows := table.rows.map normalized } with
    userVersion := schemaVersion }, ?_, hTen.tables, hTen.indexes⟩
  have hView : (fresh db).view = db := rfl
  have hProgram : program now 9 = migrateV9ToV10 ++
    [.execute (.setUserVersion schemaVersion), .commit] := rfl
  rw [performing, hProgram, migrateV9ToV10, List.singleton_append, performAll, perform, hView,
    hUpdate]
  rfl

theorem upgrades_v6 (now : String) (hNext : ∀ db, AtVersion 7 db → Upgrades now 7 db)
    (db : Database) (h : AtVersion 6 db) : Upgrades now 6 db := by
  obtain ⟨table, hTable, _⟩ :=
    h.exists_table (show schemaAt 6 controllerGrants = some globalGrantsShape from rfl)
  have hProgram : program now 6 = migrateV6ToV7 ++ program now 7 := rfl
  constructor
  · intro hIdentified
    have hStep := (migrateV6ToV7_ok_iff h hTable).mpr ⟨hIdentified, rfl⟩
    have hSeven := rebuiltGrants_atVersion h hTable hIdentified
    rw [performing_program hStep hProgram]
    exact (hNext _ hSeven).current (hSeven.identified (by decide))
  · rintro ⟨c, hRun⟩
    rw [performing, hProgram] at hRun
    obtain ⟨next, hStep, _⟩ := exists_of_performAll_append hRun
    exact ((migrateV6ToV7_ok_iff h hTable).mp hStep).1

theorem upgrades (now : String) {version : Nat} (hFirst : 1 ≤ version) (hLast : version ≤ 9)
    {db : Database} (h : AtVersion version db) : Upgrades now version db := by
  have h9 := upgrades_v9 now
  have h8 := upgrades_of_climbs now rfl (fun _ => migrateV8ToV9_climbs) h9
  have h7 := upgrades_of_climbs now rfl (fun _ => migrateV7ToV8_climbs) h8
  have h6 := upgrades_v6 now h7
  have h5 := upgrades_of_climbs now rfl (fun _ => migrateV5ToV6_climbs) h6
  have h4 := upgrades_of_climbs now rfl (fun _ => migrateV4ToV5_climbs) h5
  have h3 := upgrades_of_climbs now rfl (fun _ => migrateV3ToV4_climbs) h4
  have h2 := upgrades_of_climbs now rfl (fun _ => migrateV2ToV3_climbs) h3
  have h1 := upgrades_of_climbs now rfl (fun _ => migrateV1ToV2_climbs) h2
  interval_cases version
  · exact h1 db h
  · exact h2 db h
  · exact h3 db h
  · exact h4 db h
  · exact h5 db h
  · exact h6 db h
  · exact h7 db h
  · exact h8 db h
  · exact h9 db h

theorem eq_empty_of_atVersion_zero {db : Database} (h : AtVersion 0 db)
    (hVersion : db.userVersion = 0) : db = Db.empty := by
  have hTables : db.tables = fun _ => none := by
    funext name
    exact h.table_eq_none (by cases name <;> rfl)
  have hIndexes : db.indexes = [] := by
    refine List.eq_nil_iff_forall_not_mem.mpr fun index hIndex => ?_
    have hSome := (h.indexes index hIndex).2
    rw [hTables] at hSome
    cases hSome
  obtain ⟨tables, indexes, userVersion⟩ := db
  cases hTables
  cases hIndexes
  cases hVersion
  rfl

theorem reaches_v0 (now : String) : Reaches now 0 Db.empty := ⟨_, rfl⟩

theorem initializeStore_eq_ok_iff {now : String} {db final : Database}
    (hVersion : db.userVersion ≤ schemaVersion) :
    initializeStore now db = .ok final ↔
      ∃ c, performing db (program now db.userVersion) = .ok c ∧ c.durable = final := by
  rw [initializeStore, if_neg (not_lt.mpr hVersion), performing]
  cases (fresh db).performAll Statement.exec Statement.opens (program now db.userVersion) with
  | error e => simp
  | ok c => simp

theorem rerun_of_performing {now : String} {version : Nat} {db : Database}
    {c : Connection Database} (h : performing db (program now version) = .ok c) :
    initializeStore now c.durable = .ok c.durable := by
  obtain ⟨⟨durable, pending⟩, _, hStamp⟩ := exists_of_performAll_append h
  cases pending with
  | none => cases hStamp; rfl
  | some d => cases hStamp; rfl

/-! ## Stops that a rerun does not survive -/

def ResumesAlike (now : String) (k : Nat) (db : Database) : Prop :=
  ∃ final stopped, initializeStore now db = .ok final ∧ interrupted now k db = .ok stopped ∧
    initializeStore now stopped = .ok final

/-- Nothing has been made durable yet, all of it has, or what has been made durable
is a whole step that can be performed twice. -/
def Resumable (now : String) (version k : Nat) : Prop :=
  k = 0 ∨ (program now version).length ≤ k ∨ (version = 1 ∧ k = 1) ∨ (version = 6 ∧ k = 4) ∨
    (version = 8 ∧ 4 ≤ k) ∨ version = 9

instance (now : String) (version k : Nat) : Decidable (Resumable now version k) :=
  inferInstanceAs (Decidable (_ ∨ _))

def layoutAt (version : Nat) : Layout TableName ColumnName :=
  ⟨fun name => (schemaAt version name).map Shape.lists, version⟩

def rerunRefused (now : String) (version k : Nat) : Bool :=
  match stoppedAfter Layout.reshape Statement.opens k (layoutAt version) (program now version) with
  | .error _ => false
  | .ok stopped =>
    match (fresh stopped).performAll Layout.reshape Statement.opens (program now version) with
    | .error _ => stopped.userVersion == version
    | .ok _ => false

theorem rerunRefused_zero (now : String) {k : Nat} (hFirst : 1 ≤ k) (hLast : k < 8) :
    rerunRefused now 0 k = true := by
  interval_cases k <;> rfl

theorem rerunRefused_upgrade : ∀ version < 10, ∀ k < (program "" version).length,
    ¬ Resumable "" version k → rerunRefused "" version k = true := by
  decide +kernel

theorem program_eq {version : Nat} (h : version ≠ 0) (now now' : String) :
    program now version = program now' version := by
  simp only [program, if_neg h]

theorem rerunRefused_of_not_resumable {now : String} {version k : Nat} (hVersion : version ≤ 9)
    (h : ¬ Resumable now version k) : rerunRefused now version k = true := by
  have hLength : k < (program now version).length := not_le.mp fun hLe => h (.inr (.inl hLe))
  by_cases hZero : version = 0
  · subst hZero
    exact rerunRefused_zero now (Nat.pos_of_ne_zero fun hK => h (.inl hK)) hLength
  · rw [Resumable, program_eq hZero now ""] at h
    rw [rerunRefused, program_eq hZero now ""]
    rw [program_eq hZero now ""] at hLength
    exact rerunRefused_upgrade version (by omega) k hLength h

theorem resumable_of_resumesAlike {now : String} {k : Nat} {db : Database}
    (h : AtVersion db.userVersion db) (hVersion : db.userVersion ≤ 9)
    (hResumes : ResumesAlike now k db) : Resumable now db.userVersion k := by
  obtain ⟨final, stopped, _, hStop, hRerun⟩ := hResumes
  by_contra hNot
  have hRefused := rerunRefused_of_not_resumable hVersion hNot
  have hLayout : db.layout = layoutAt db.userVersion := h.layout_eq
  have hStopLayout := stoppedAfter_simulates Statement.exec_layout hStop
  rw [hLayout] at hStopLayout
  rw [rerunRefused, hStopLayout] at hRefused
  cases hRefusal : (fresh stopped.layout).performAll Layout.reshape Statement.opens
      (program now db.userVersion) with
  | ok c =>
    simp only [hRefusal] at hRefused
    cases hRefused
  | error e =>
    simp only [hRefusal] at hRefused
    have hStamp : stopped.userVersion = db.userVersion := of_decide_eq_true hRefused
    obtain ⟨c, hRun, _⟩ := (initializeStore_eq_ok_iff (by rw [hStamp, schemaVersion]; omega)).mp hRerun
    rw [hStamp] at hRun
    have hSimulated := performAll_simulates Statement.exec_layout hRun
    have hMap : (fresh stopped).map Db.layout = fresh stopped.layout := rfl
    rw [hMap, hRefusal] at hSimulated
    cases hSimulated

/-! ## Stops that it does survive -/

/-- What the stop left is what the first calls of the program leave, and these
calls leave it as it is. -/
theorem resumesAlike_of_settled {now : String} {k : Nat} {db stopped : Database}
    {first rest : List (Call SqlStatement)} (hVersion : db.userVersion ≤ schemaVersion)
    (hReaches : Reaches now db.userVersion db)
    (hProgram : program now db.userVersion = first ++ rest)
    (hFirst : performing db first = .ok (fresh stopped))
    (hAgain : performing stopped first = .ok (fresh stopped))
    (hStamp : stopped.userVersion = db.userVersion)
    (hStop : interrupted now k db = .ok stopped) : ResumesAlike now k db := by
  obtain ⟨c, hRun⟩ := hReaches
  refine ⟨c.durable, stopped, (initializeStore_eq_ok_iff hVersion).mpr ⟨c, hRun, rfl⟩, hStop,
    (initializeStore_eq_ok_iff (hStamp ▸ hVersion)).mpr ⟨c, ?_, rfl⟩⟩
  rw [hStamp, performing, hProgram, performAll_append_of_ok hAgain]
  rw [performing, hProgram, performAll_append_of_ok hFirst] at hRun
  exact hRun

theorem interrupted_of_take {now : String} {k : Nat} {db stopped : Database}
    {c : Connection Database} (hTake : performing db ((program now db.userVersion).take k) = .ok c)
    (hDurable : c.durable = stopped) : interrupted now k db = .ok stopped :=
  stoppedAfter_eq_ok.mpr ⟨c, hTake, hDurable⟩

theorem performing_take {now : String} {version k : Nat} {db : Database}
    (h : Reaches now version db) : ∃ c, performing db ((program now version).take k) = .ok c := by
  obtain ⟨c, hRun⟩ := h
  rw [← List.take_append_drop k (program now version)] at hRun
  obtain ⟨next, hTake, _⟩ := exists_of_performAll_append hRun
  exact ⟨next, hTake⟩

theorem resumesAlike_zero {now : String} {db : Database} (hVersion : db.userVersion ≤ schemaVersion)
    (h : Reaches now db.userVersion db) : ResumesAlike now 0 db :=
  resumesAlike_of_settled hVersion h (List.nil_append _).symm rfl rfl rfl rfl

theorem resumesAlike_complete {now : String} {k : Nat} {db : Database}
    (hVersion : db.userVersion ≤ schemaVersion) (h : Reaches now db.userVersion db)
    (hLength : (program now db.userVersion).length ≤ k) : ResumesAlike now k db := by
  obtain ⟨c, hRun⟩ := h
  refine ⟨c.durable, c.durable, (initializeStore_eq_ok_iff hVersion).mpr ⟨c, hRun, rfl⟩, ?_,
    rerun_of_performing hRun⟩
  exact interrupted_of_take (by rw [List.take_of_length_le hLength]; exact hRun) rfl

theorem resumesAlike_v1 {now : String} {db : Database} (h : AtVersion 1 db)
    (hStamp : db.userVersion = 1) (hReaches : Reaches now db.userVersion db) :
    ResumesAlike now 1 db := by
  obtain ⟨stopped, hStep, hClimbed⟩ := migrateV1ToV2_climbs h
  have hGone : stopped.tables daemonRuns = none := hClimbed.atVersion.table_eq_none rfl
  have hDrop : Statement.exec stopped (.dropTable daemonRuns true) = .ok stopped := by
    simp [Statement.exec, Statement.execDropTable, hGone]
  have hProgram : program now db.userVersion = migrateV1ToV2 ++ program now 2 := by
    rw [hStamp]
    rfl
  have hTake : performing db ((program now db.userVersion).take 1) = .ok (fresh stopped) := by
    rw [hProgram]
    exact hStep
  exact resumesAlike_of_settled (by rw [hStamp]; decide) hReaches hProgram hStep
    (performAll_execute_of_ok hDrop rfl) hClimbed.userVersion (interrupted_of_take hTake rfl)

theorem resumesAlike_v6 {now : String} {db : Database} (h : AtVersion 6 db)
    (hStamp : db.userVersion = 6) (hReaches : Reaches now db.userVersion db)
    (hIdentified : Identified db) : ResumesAlike now 4 db := by
  obtain ⟨table, hTable, hFits⟩ :=
    h.exists_table (show schemaAt 6 controllerGrants = some globalGrantsShape from rfl)
  have hStep := (migrateV6ToV7_ok_iff h hTable).mpr ⟨hIdentified, rfl⟩
  have hMovable : Movable _ controllerGrants controllerGrantsPreV7 :=
    (rebuiltGrants_atVersion h hTable hIdentified).movable (by decide) rfl (by decide) (by decide)
  have hRows := (rebuildable_grants_iff hFits).mpr (hIdentified table hTable)
  have hProgram : program now db.userVersion = migrateV6ToV7 ++ program now 7 := by
    rw [hStamp]
    rfl
  have hTake : performing db ((program now db.userVersion).take 4) =
      .ok (fresh (db.rebuilt controllerGrants controllerGrantsShape table.rows)) := by
    rw [hProgram]
    exact hStep
  exact resumesAlike_of_settled (by rw [hStamp]; decide) hReaches hProgram hStep
    (performAll_rebuild_again hMovable hRows) rfl (interrupted_of_take hTake rfl)

theorem durable_of_stamping {now : String} {d : Database} {c : Connection Database} {k : Nat}
    (hK : k ≤ 2) (h : performing d ((program now 9).take k) = .ok c) : c.durable = d := by
  have hTake : (program now 9).take k =
      (([.update bootstrapOperations operationType (.text "initial_network")
        (.text "change_network"), .setUserVersion schemaVersion] : List SqlStatement).take k).map
        Call.execute := by
    interval_cases k <;> rfl
  rw [hTake] at h
  cases k with
  | zero =>
    cases h
    rfl
  | succ n => exact durable_of_opens rfl h

theorem resumesAlike_v8 {now : String} {k : Nat} {db : Database} (h : AtVersion 8 db)
    (hStamp : db.userVersion = 8) (hReaches : Reaches now db.userVersion db) (hFirst : 4 ≤ k)
    (hLast : k < 7) : ResumesAlike now k db := by
  obtain ⟨table, hTable, hFits⟩ := h.exists_table (show schemaAt 8 commissioningSessions =
    some (sessionsShape (text expiresAt).required [text claimedControllerId, failedAttemptsColumn])
    from rfl)
  obtain ⟨hStep, hNine⟩ := migrateV8ToV9_ok h hTable
  have hMovable : Movable _ commissioningSessions commissioningSessionsV8 :=
    hNine.movable (by decide) rfl (by decide) (by decide)
  have hProgram : program now db.userVersion = migrateV8ToV9 ++ program now 9 := by
    rw [hStamp]
    rfl
  obtain ⟨c, hTake⟩ : ∃ c, performing db ((program now db.userVersion).take k) = .ok c :=
    performing_take hReaches
  refine resumesAlike_of_settled (by rw [hStamp]; decide) hReaches hProgram hStep
    (performAll_rebuild_again hMovable (rebuildable_sessions hFits)) rfl
    (interrupted_of_take hTake ?_)
  have hLength : migrateV8ToV9.length = 4 := rfl
  rw [performing, hProgram, List.take_append, hLength, List.take_of_length_le (by omega),
    performAll_append_of_ok hStep] at hTake
  exact durable_of_stamping (show k - 4 ≤ 2 by omega) hTake

theorem resumesAlike_v9 {now : String} {k : Nat} {db : Database} (hStamp : db.userVersion = 9)
    (hReaches : Reaches now db.userVersion db) (hLast : k < 3) : ResumesAlike now k db := by
  obtain ⟨c, hTake⟩ : ∃ c, performing db ((program now db.userVersion).take k) = .ok c :=
    performing_take hReaches
  refine resumesAlike_of_settled (by rw [hStamp]; decide) hReaches (List.nil_append _).symm rfl rfl
    rfl (interrupted_of_take hTake ?_)
  rw [hStamp] at hTake
  exact durable_of_stamping (show k ≤ 2 by omega) hTake

theorem reaches_of_identified (now : String) {db : Database} (h : AtVersion db.userVersion db)
    (hVersion : db.userVersion ≤ 9) (hIdentified : Identified db) :
    Reaches now db.userVersion db := by
  by_cases hZero : db.userVersion = 0
  · rw [hZero] at h
    rw [eq_empty_of_atVersion_zero h hZero]
    exact reaches_v0 now
  · obtain ⟨final, hRun, _⟩ :=
      (upgrades now (Nat.pos_of_ne_zero hZero) hVersion h).current hIdentified
    exact ⟨fresh final, hRun⟩

theorem identified_of_reaches {now : String} {db : Database} (h : AtVersion db.userVersion db)
    (hVersion : db.userVersion ≤ 9) (hReaches : Reaches now db.userVersion db) :
    Identified db := by
  by_cases hEarly : db.userVersion < 3
  · exact h.identified_of_lt hEarly
  · exact (upgrades now (by omega) hVersion h).identified hReaches

theorem resumesAlike_of_resumable {now : String} {k : Nat} {db : Database}
    (h : AtVersion db.userVersion db) (hVersion : db.userVersion ≤ 9) (hIdentified : Identified db)
    (hResumable : Resumable now db.userVersion k) : ResumesAlike now k db := by
  have hReaches := reaches_of_identified now h hVersion hIdentified
  have hSupported : db.userVersion ≤ schemaVersion := hVersion.trans (by decide)
  by_cases hComplete : (program now db.userVersion).length ≤ k
  · exact resumesAlike_complete hSupported hReaches hComplete
  have hPartial := not_le.mp hComplete
  rcases hResumable with rfl | hDone | ⟨hOne, rfl⟩ | ⟨hSix, rfl⟩ | ⟨hEight, hRebuilt⟩ | hNine
  · exact resumesAlike_zero hSupported hReaches
  · exact absurd hDone hComplete
  · exact resumesAlike_v1 (hOne ▸ h) hOne hReaches
  · exact resumesAlike_v6 (hSix ▸ h) hSix hReaches hIdentified
  · rw [hEight] at hPartial
    exact resumesAlike_v8 (hEight ▸ h) hEight hReaches hRebuilt hPartial
  · rw [hNine] at hPartial
    exact resumesAlike_v9 hNine hReaches hPartial

/-- From any database of an older version, whatever its rows and wherever the process
stops, starting again ends where an uninterrupted run ends exactly if the stop is
one of the few resumable ones and every stored Grant names its Controller. -/
theorem interrupted_migration_resumes_iff (now : String) (k : Nat) {db : Database}
    (hDb : AtVersion db.userVersion db) (hVersion : db.userVersion ≤ 9) :
    ResumesAlike now k db ↔ Resumable now db.userVersion k ∧ Identified db := by
  constructor
  · intro hResumes
    refine ⟨resumable_of_resumesAlike hDb hVersion hResumes, ?_⟩
    obtain ⟨final, _, hRun, _⟩ := hResumes
    obtain ⟨c, hPerformed, _⟩ :=
      (initializeStore_eq_ok_iff (hVersion.trans (by decide))).mp hRun
    exact identified_of_reaches hDb hVersion ⟨c, hPerformed⟩
  · rintro ⟨hResumable, hIdentified⟩
    exact resumesAlike_of_resumable hDb hVersion hIdentified hResumable

/-! ## The version 1 database of the adapter's migration test -/

namespace Sample

def stateRow : Row ColumnName := Statement.valueRow
  [(singleton, .integer 1), (resetEpoch, .integer 7), (claimState, .text "claimed"),
    (networkState, .text "connected"), (workspaceState, .text "ready"),
    (recoveryState, .text "normal"), (updatedAt, .text "2026-08-05T00:00:00Z")]

def runRow : Row ColumnName := Statement.valueRow
  [(runId, .text "old-run"), (pid, .integer 42), (startedAt, .text "2026-08-05T00:00:00Z")]

def sessionRow : Row ColumnName := Statement.valueRow
  [(sessionId, .text "session-1"), (secretHash, .text "hash-only"),
    (createdAt, .text "2026-08-05T00:00:00Z"), (expiresAt, .text "2026-08-05T00:05:00Z")]

def v1 : Database where
  tables
    | bootstrapState => some ⟨bootstrapStateShape
        [(text workspaceState).required, (text recoveryState).required] [], [stateRow]⟩
    | commissioningSessions => some ⟨sessionsShape (text expiresAt).required [], [sessionRow]⟩
    | daemonRuns => some ⟨daemonRunsShape, [runRow]⟩
    | _ => none
  indexes := []
  userVersion := 1

def now : String := "2026-08-05T01:00:00Z"

theorem v1_atVersion : AtVersion 1 v1 where
  tables := by
    intro name
    cases name with
    | bootstrapState => exact .some ⟨.refl _, rfl, by decide, by decide⟩
    | commissioningSessions => exact .some ⟨.refl _, rfl, by decide, by decide⟩
    | daemonRuns => exact .some ⟨.refl _, rfl, by decide, by decide⟩
    | commissioningSessionsV8 => exact .none
    | bootstrapOperations => exact .none
    | controllerGrants => exact .none
    | controllerGrantsPreV7 => exact .none
    | commissioningSessionsCreatedIdx => exact .none
  indexes := fun _ h => absurd h List.not_mem_nil

theorem v1_resumes_after_first_statement_only :
    ResumesAlike now 1 v1 ∧ ¬ ResumesAlike now 2 v1 := by
  have hIdentified : Identified v1 := v1_atVersion.identified_of_lt (by decide)
  constructor
  · exact (interrupted_migration_resumes_iff now 1 v1_atVersion (by decide)).mpr
      ⟨by decide, hIdentified⟩
  · intro hResumes
    have hResumable :=
      ((interrupted_migration_resumes_iff now 2 v1_atVersion (by decide)).mp hResumes).1
    revert hResumable
    decide

/-- A Host that loses power after the second statement of its upgrade never starts
again: the column that the first attempt added is in the way of every later one. -/
theorem v1_stuck_after_second_statement :
    AtVersion 1 v1 ∧ (∃ final, initializeStore now v1 = .ok final) ∧
      (∃ stopped, interrupted now 2 v1 = .ok stopped ∧
        initializeStore now stopped = .error (.sql (.duplicateColumn claimedControllerId))) ∧
      ¬ ResumesAlike now 2 v1 := by
  refine ⟨v1_atVersion, ⟨_, rfl⟩, ⟨_, rfl, rfl⟩, ?_⟩
  rintro ⟨final, stopped, _, hStop, hRerun⟩
  cases hStop
  cases hRerun

end Sample

end EidolonAdmin.Bootstrap.Migration
