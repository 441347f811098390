import EidolonAdmin.Bootstrap.StoreKeys
import EidolonAdmin.Bootstrap.Migration

/-! # The records of the store as rows of the current schema

The SQLite adapter is modelled on records; here each record is the row that holds
it. Every store the adapter can reach is a database that meets the constraints of
schema version 10, and `initialize` of an empty database creates the one that
holds the record of a new Host.
-/

namespace EidolonAdmin.Bootstrap

open Foundation Foundation.Sql Migration

def ClaimState.value : ClaimState → String
  | .unclaimed => "unclaimed"
  | .claimed => "claimed"

def NetworkState.value : NetworkState → String
  | .unconfigured => "unconfigured"
  | .staging => "staging"
  | .connected => "connected"
  | .degraded => "degraded"
  | .rollingBack => "rolling_back"

def ControllerRole.value : ControllerRole → String
  | .hostAdmin => "host_admin"

def BootstrapOperationType.value : BootstrapOperationType → String
  | .changeNetwork => "change_network"

def BootstrapOperationState.value : BootstrapOperationState → String
  | .pending => "pending"
  | .running => "running"
  | .waitingConfirmation => "waiting_confirmation"
  | .succeeded => "succeeded"
  | .failed => "failed"
  | .compensating => "compensating"

def nullable : Option String → Value
  | none => .null
  | some s => .text s

def BootstrapState.row (state : BootstrapState) : Row ColumnName
  | .singleton => .integer 1
  | .resetEpoch => .integer state.resetEpoch
  | .claimState => .text state.claimState.value
  | .networkState => .text state.networkState.value
  | .updatedAt => .text state.updatedAt
  | _ => .null

def SessionRow.row (session : SessionRow) : Row ColumnName
  | .sessionId => .text session.sessionId
  | .secretHash => .text session.secretHash
  | .createdAt => .text session.createdAt
  | .expiresAt => nullable session.expiresAt
  | .consumedAt => nullable session.consumedAt
  | .revokedAt => nullable session.revokedAt
  | .claimedControllerId => nullable session.claimedControllerId
  | .failedAttempts => .integer session.failedAttempts
  | _ => .null

def ControllerGrant.row (grant : ControllerGrant) : Row ColumnName
  | .controllerId => .text grant.controllerId
  | .publicKey => .text grant.publicKey
  | .publicKeyFingerprint => .text grant.publicKeyFingerprint
  | .role => .text grant.role.value
  | .displayName => .text grant.displayName
  | .platform => .text grant.platform
  | .resetEpoch => .integer grant.resetEpoch
  | .createdAt => .text grant.createdAt
  | .revokedAt => nullable grant.revokedAt
  | _ => .null

def BootstrapOperation.row (operation : BootstrapOperation) : Row ColumnName
  | .operationId => .text operation.operationId
  | .operationType => .text operation.operationType.value
  | .state => .text operation.state.value
  | .target => .text operation.target
  | .resetEpoch => .integer operation.resetEpoch
  | .createdAt => .text operation.createdAt
  | .updatedAt => .text operation.updatedAt
  | .errorCode => nullable operation.errorCode
  | _ => .null

def Store.database (s : Store) : Database where
  tables
    | .bootstrapState => some ⟨bootstrapStateShape [] [], [s.state.row]⟩
    | .commissioningSessions => some ⟨currentSessionsShape, s.sessions.map SessionRow.row⟩
    | .bootstrapOperations => some ⟨operationsShape, s.operations.map BootstrapOperation.row⟩
    | .controllerGrants => some ⟨controllerGrantsShape, s.grants.map ControllerGrant.row⟩
    | _ => none
  indexes := [createdIdx]
  userVersion := schemaVersion

theorem initialize_empty (now : String) :
    initializeStore now Db.empty = .ok (Store.create now).database := by
  obtain ⟨created, hRun, hTables, hIndexes, hVersion⟩ : ∃ created : Database,
      initializeStore now Db.empty = .ok created ∧
        (∀ name, created.tables name = (Store.create now).database.tables name) ∧
        created.indexes = [createdIdx] ∧ created.userVersion = schemaVersion := by
    refine ⟨_, rfl, fun name => ?_, rfl, rfl⟩
    cases name with
    | bootstrapState =>
      refine congrArg (fun row => some (Table.mk (bootstrapStateShape [] []) [row])) ?_
      funext c
      cases c <;> rfl
    | commissioningSessions => rfl
    | commissioningSessionsV8 => rfl
    | bootstrapOperations => rfl
    | controllerGrants => rfl
    | controllerGrantsPreV7 => rfl
    | daemonRuns => rfl
    | commissioningSessionsCreatedIdx => rfl
  obtain ⟨tables, indexes, userVersion⟩ := created
  cases hIndexes
  cases hVersion
  rw [hRun, Store.database, Except.ok.injEq, Db.mk.injEq]
  exact ⟨funext hTables, rfl, rfl⟩

/-! ## The constraints of the schema -/

theorem pairwise_not_collide {ρ κ : Type} {row : ρ → Row ColumnName} {records : List ρ}
    {columns : List ColumnName} {key : ρ → κ} (hNodup : (records.map key).Nodup)
    (hKey : ∀ a b, Collide columns (row a) (row b) → key a = key b) :
    records.Pairwise fun a b => ¬ Collide columns (row a) (row b) :=
  (List.pairwise_map.mp hNodup).imp fun hNe hCollide => hNe (hKey _ _ hCollide)

theorem BootstrapState.row_admits (state : BootstrapState) :
    (bootstrapStateShape [] []).Admits state.row := by
  intro column hColumn
  simp only [bootstrapStateShape, List.append_nil, List.mem_append, List.mem_cons,
    List.not_mem_nil, or_false] at hColumn
  rcases hColumn with (rfl | rfl | rfl | rfl) | rfl
  all_goals simp [Column.Admits, Column.required, Column.checked, text, integer, Column.plain,
    singletonColumn, resetEpochColumn, BootstrapState.row, Sql.Check.passes]

theorem SessionRow.row_admits (session : SessionRow) :
    currentSessionsShape.Admits session.row := by
  intro column hColumn
  simp only [currentSessionsShape, sessionsShape, List.cons_append, List.nil_append,
    List.mem_cons, List.not_mem_nil, or_false] at hColumn
  rcases hColumn with rfl | rfl | rfl | rfl | rfl | rfl | rfl | rfl
  all_goals simp [Column.Admits, Column.required, Column.checked, Column.defaulted, text, integer,
    Column.plain, failedAttemptsColumn, SessionRow.row, Sql.Check.passes]

theorem ControllerGrant.row_admits (grant : ControllerGrant) :
    controllerGrantsShape.Admits grant.row := by
  intro column hColumn
  simp only [controllerGrantsShape, grantsShape, List.mem_cons, List.not_mem_nil,
    or_false] at hColumn
  rcases hColumn with rfl | rfl | rfl | rfl | rfl | rfl | rfl | rfl | rfl
  all_goals simp [Column.Admits, Column.required, Column.checked, text, integer, Column.plain,
    resetEpochColumn, ControllerGrant.row, Sql.Check.passes]

theorem BootstrapOperation.row_admits (operation : BootstrapOperation) :
    operationsShape.Admits operation.row := by
  intro column hColumn
  simp only [operationsShape, List.mem_cons, List.not_mem_nil, or_false] at hColumn
  rcases hColumn with rfl | rfl | rfl | rfl | rfl | rfl | rfl | rfl
  all_goals simp [Column.Admits, Column.required, Column.checked, text, integer, Column.plain,
    resetEpochColumn, BootstrapOperation.row, Sql.Check.passes]

theorem collide_pair {a b : ControllerGrant} {c : ColumnName} {key : ControllerGrant → String}
    (hRow : ∀ grant : ControllerGrant, grant.row c = .text (key grant))
    (h : Collide [c, .resetEpoch] a.row b.row) :
    (key a, a.resetEpoch) = (key b, b.resetEpoch) := by
  have hKey := (h c List.mem_cons_self).1
  have hEpoch := (h .resetEpoch (List.mem_cons_of_mem _ List.mem_cons_self)).1
  rw [hRow, hRow, Value.text.injEq] at hKey
  have hSame : (a.resetEpoch : Int) = b.resetEpoch := Value.integer.inj hEpoch
  rw [hKey, Int.ofNat_inj.mp hSame]

theorem grants_distinct {s : Store} (h : s.Keyed) :
    (s.grants.map ControllerGrant.row).Pairwise controllerGrantsShape.Distinct := by
  have hIdentity : s.grants.Pairwise fun a b =>
      ¬ Collide [.controllerId, .resetEpoch] a.row b.row :=
    pairwise_not_collide h.grants fun _ _ hCollide => collide_pair (fun _ => rfl) hCollide
  have hFingerprint : s.grants.Pairwise fun a b =>
      ¬ Collide [.publicKeyFingerprint, .resetEpoch] a.row b.row :=
    pairwise_not_collide h.fingerprints fun _ _ hCollide => collide_pair (fun _ => rfl) hCollide
  refine List.pairwise_map.mpr ((hIdentity.and hFingerprint).imp ?_)
  rintro a b ⟨hFirst, hSecond⟩ key hKey
  rcases List.mem_cons.mp hKey with rfl | hRest
  · exact hFirst
  · rw [List.mem_singleton.mp hRest]
    exact hSecond

theorem sessions_distinct {s : Store} (h : s.Keyed) :
    (s.sessions.map SessionRow.row).Pairwise currentSessionsShape.Distinct := by
  have hIdentity : s.sessions.Pairwise fun a b => ¬ Collide [.sessionId] a.row b.row :=
    pairwise_not_collide h.sessions fun _ _ hCollide =>
      Value.text.inj (hCollide .sessionId List.mem_cons_self).1
  refine List.pairwise_map.mpr (hIdentity.imp fun hPair key hKey => ?_)
  rw [List.mem_singleton.mp hKey]
  exact hPair

theorem operations_distinct {s : Store} (h : s.Keyed) :
    (s.operations.map BootstrapOperation.row).Pairwise operationsShape.Distinct := by
  have hIdentity : s.operations.Pairwise fun a b => ¬ Collide [.operationId] a.row b.row :=
    pairwise_not_collide h.operations fun _ _ hCollide =>
      Value.text.inj (hCollide .operationId List.mem_cons_self).1
  refine List.pairwise_map.mpr (hIdentity.imp fun hPair key hKey => ?_)
  rw [List.mem_singleton.mp hKey]
  exact hPair

theorem Store.Keyed.atVersion {s : Store} (h : s.Keyed) : AtVersion schemaVersion s.database where
  tables := by
    intro name
    cases name with
    | bootstrapState =>
      refine .some ⟨.refl _, rfl, ?_, List.pairwise_singleton _ _⟩
      intro row hRow
      rw [List.mem_singleton.mp hRow]
      exact s.state.row_admits
    | commissioningSessions =>
      refine .some ⟨.refl _, rfl, ?_, sessions_distinct h⟩
      exact List.forall_mem_map.mpr fun session _ => session.row_admits
    | bootstrapOperations =>
      refine .some ⟨.refl _, rfl, ?_, operations_distinct h⟩
      exact List.forall_mem_map.mpr fun operation _ => operation.row_admits
    | controllerGrants =>
      refine .some ⟨.refl _, rfl, ?_, grants_distinct h⟩
      exact List.forall_mem_map.mpr fun grant _ => grant.row_admits
    | commissioningSessionsV8 => exact .none
    | controllerGrantsPreV7 => exact .none
    | daemonRuns => exact .none
    | commissioningSessionsCreatedIdx => exact .none
  indexes := by
    intro index hIndex
    rw [List.mem_singleton.mp hIndex]
    exact ⟨List.mem_singleton.mpr rfl, rfl⟩

theorem reachable_atVersion (now : String) (calls : List StoreCall) :
    AtVersion schemaVersion (Transition.run Store.apply (Store.create now) calls).database :=
  Store.Keyed.atVersion (Transition.run_invariant Store.keyed_apply (Store.keyed_create now) calls)

end EidolonAdmin.Bootstrap
