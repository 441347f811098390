import Mathlib.Data.List.MinMax
import Mathlib.Data.Prod.Lex
import EidolonAdmin.Foundation.Table
import EidolonAdmin.Bootstrap.StatePort

/-! # The SQLite adapter of the bootstrap state store

Each method of `SQLiteBootstrapStateStore` is a function from the four tables to
its outcome and the tables afterwards. A transaction that raises is rolled back,
so an error returns the tables it was given; the counting of a wrong secret is
the one write that is committed before its error is raised.
-/

namespace EidolonAdmin.Bootstrap

open Foundation.Table

/-- The database: the `bootstrap_state` singleton and the other tables in rowid order. -/
structure Store where
  state : BootstrapState
  sessions : List SessionRow := []
  grants : List ControllerGrant := []
  operations : List BootstrapOperation := []
deriving DecidableEq, Repr

namespace Store

/-- `_create_at_current_schema`. -/
def create (now : String) : Store where
  state := ⟨0, .unclaimed, .unconfigured, now⟩

/-- `UPDATE commissioning_sessions SET revoked_at = ? WHERE consumed_at IS NULL
AND revoked_at IS NULL`. -/
def revokeUnspent (now : String) (rows : List SessionRow) : List SessionRow :=
  updateWhere (fun row => row.unspent) (fun row => { row with revokedAt := some now }) rows

def sessionRow? (s : Store) (sessionId : String) : Option SessionRow :=
  lookup (fun row => row.sessionId) sessionId s.sessions

def issueCommissioningSession (sessionId secretHash createdAt : String) (expiresAt : Option String)
    (s : Store) : Except StoreError Unit × Store :=
  if (s.sessionRow? sessionId).isSome then (.error .integrity, s)
  else
    (.ok (), { s with
      sessions := revokeUnspent createdAt s.sessions ++
        [{ sessionId, createdAt, expiresAt, secretHash }] })

/-- `ORDER BY created_at DESC, session_id DESC LIMIT 1`. -/
def latestCommissioningSession (s : Store) : Option CommissioningSessionMetadata :=
  (s.sessions.argmax fun row => toLex (row.createdAt, row.sessionId)).map
    SessionRow.toCommissioningSessionMetadata

def countFailedAttempt (sessionId : String) (s : Store) : Store :=
  { s with
    sessions := updateWhere (fun row => row.sessionId = sessionId)
      (fun row => { row with failedAttempts := row.failedAttempts + 1 }) s.sessions }

def authorizeCommissioningSession (sessionId secretHash now : String) (s : Store) :
    Except StoreError CommissioningSessionMetadata × Store :=
  match s.sessionRow? sessionId with
  | none => (.error (.conflict .sessionUnavailable), s)
  | some row =>
    if row.isOpen now then
      if row.secretHash = secretHash then (.ok row.toCommissioningSessionMetadata, s)
      else (.error (.conflict .sessionUnavailable), s.countFailedAttempt sessionId)
    else (.error (.conflict .sessionUnavailable), s)

def grantRow? (s : Store) (controllerId : String) (resetEpoch : Nat) : Option ControllerGrant :=
  lookup (fun grant => (grant.controllerId, grant.resetEpoch)) (controllerId, resetEpoch) s.grants

def getController (s : Store) (controllerId : String) : Option ControllerGrant :=
  s.grantRow? controllerId s.state.resetEpoch

/-- `_grant_in_epoch`. The `OR` is answered from the index on the primary key
first and from the one on the fingerprint second. -/
def grantInEpoch (grant : ControllerGrant) (resetEpoch : Nat) (s : Store) :
    Except StoreError (Option ControllerGrant) :=
  match (s.grantRow? grant.controllerId resetEpoch).or
      (lookup (fun row => (row.publicKeyFingerprint, row.resetEpoch))
        (grant.publicKeyFingerprint, resetEpoch) s.grants) with
  | none => .ok none
  | some held =>
    if held.publicKey ≠ grant.publicKey then .error (.conflict .identityHeld)
    else if held.revokedAt.isNone then .ok (some held)
    else .ok none

/-- `UPDATE commissioning_sessions SET consumed_at = ?, claimed_controller_id = ?`. -/
def consumeSession (sessionId controllerId now : String) (s : Store) : Store :=
  { s with
    sessions := updateWhere (fun row => row.sessionId = sessionId)
      (fun row => { row with consumedAt := some now, claimedControllerId := some controllerId })
      s.sessions }

/-- The `DO UPDATE` of the upsert: the key and the role of the stored row stay. -/
def reviveGrant (grant row : ControllerGrant) : ControllerGrant :=
  { row with
    displayName := grant.displayName, platform := grant.platform,
    createdAt := grant.createdAt, revokedAt := none }

/-- `INSERT INTO controller_grants ... ON CONFLICT(controller_id, reset_epoch) DO
UPDATE`; a fingerprint already used in the epoch violates the other constraint. -/
def insertGrant (grant : ControllerGrant) (s : Store) : Option Store :=
  if (s.grantRow? grant.controllerId grant.resetEpoch).isSome then
    some { s with
      grants := updateWhere
        (fun row => (row.controllerId, row.resetEpoch) = (grant.controllerId, grant.resetEpoch))
        (reviveGrant grant) s.grants }
  else if s.grants.any fun row =>
      (row.publicKeyFingerprint, row.resetEpoch) = (grant.publicKeyFingerprint, grant.resetEpoch)
  then none
  else some { s with grants := s.grants ++ [grant] }

def setClaimed (now : String) (s : Store) : Store :=
  { s with state := { s.state with claimState := .claimed, updatedAt := now } }

/-- The part of `claim_controller` that runs on a session already consumed. -/
def replayClaim (session : SessionRow) (consumedAt secretHash : String) (grant : ControllerGrant)
    (s : Store) : Except StoreError ControllerGrant :=
  if session.claimedControllerId = some grant.controllerId then
    match s.getController grant.controllerId with
    | some existing =>
      if existing.publicKey = grant.publicKey ∧ existing.revokedAt = none ∧
          session.secretHash = secretHash ∧ existing.createdAt ≤ consumedAt then .ok existing
      else .error (.conflict .sessionUnavailable)
    | none => .error (.conflict .sessionUnavailable)
  else .error (.conflict .sessionUnavailable)

/-- The part of `claim_controller` after the secret has been accepted. -/
def completeClaim (sessionId : String) (grant : ControllerGrant) (now : String) (s : Store) :
    Except StoreError ControllerGrant × Store :=
  if grant.resetEpoch ≠ s.state.resetEpoch then (.error (.conflict .epochMismatch), s)
  else
    match s.grantInEpoch grant s.state.resetEpoch with
    | .error error => (.error error, s)
    | .ok (some held) => (.ok held, s.consumeSession sessionId held.controllerId now)
    | .ok none =>
      match s.insertGrant grant with
      | none => (.error .integrity, s)
      | some inserted =>
        (.ok grant, (inserted.consumeSession sessionId grant.controllerId now).setClaimed now)

def claimController (sessionId secretHash : String) (grant : ControllerGrant) (now : String)
    (s : Store) : Except StoreError ControllerGrant × Store :=
  match (s.sessionRow? sessionId).bind fun row => row.consumedAt.map (row, ·) with
  | some (session, consumedAt) => (s.replayClaim session consumedAt secretHash grant, s)
  | none =>
    match s.authorizeCommissioningSession sessionId secretHash now with
    | (.error error, after) => (.error error, after)
    | (.ok _, after) => after.completeClaim sessionId grant now

def activeGrants (s : Store) : List ControllerGrant :=
  s.grants.filter fun grant => grant.revokedAt.isNone && grant.resetEpoch == s.state.resetEpoch

def revokeController (controllerId now : String) (s : Store) :
    Except StoreError ControllerGrant × Store :=
  match s.activeGrants.find? fun grant => grant.controllerId = controllerId with
  | none => (.error (.conflict .controllerNotAuthorized), s)
  | some target =>
    if s.activeGrants.length = 1 then (.error (.conflict .lastController), s)
    else
      (.ok { target with revokedAt := some now }, { s with
        grants := updateWhere
          (fun row => (row.controllerId, row.resetEpoch) = (controllerId, s.state.resetEpoch))
          (fun row => { row with revokedAt := some now }) s.grants })

def getOperation (s : Store) (operationId : String) : Option BootstrapOperation :=
  lookup (fun operation => operation.operationId) operationId s.operations

def createOperation (operation : BootstrapOperation) (s : Store) :
    Except StoreError BootstrapOperation × Store :=
  match s.getOperation operation.operationId with
  | some current =>
    if current.operationType = operation.operationType ∧ current.target = operation.target ∧
        current.resetEpoch = operation.resetEpoch then (.ok current, s)
    else (.error (.conflict .operationIdInUse), s)
  | none =>
    if operation.resetEpoch ≠ s.state.resetEpoch then
      (.error (.conflict .operationEpochMismatch), s)
    else if s.operations.any fun row => row.state.active then
      (.error (.conflict .anotherOperationActive), s)
    else (.ok operation, { s with operations := s.operations ++ [operation] })

def writeOperation (state : BootstrapOperationState) (updatedAt : String)
    (errorCode : Option String) (row : BootstrapOperation) : BootstrapOperation :=
  { row with state, updatedAt, errorCode }

def setNetworkState (networkState : NetworkState) (now : String) (s : Store) : Store :=
  { s with state := { s.state with networkState, updatedAt := now } }

def updateOperation (operationId : String) (state : BootstrapOperationState)
    (networkState : NetworkState) (updatedAt : String) (errorCode : Option String) (s : Store) :
    Except StoreError BootstrapOperation × Store :=
  match s.getOperation operationId with
  | none => (.error (.conflict .operationMissing), s)
  | some current =>
    (.ok (writeOperation state updatedAt errorCode current),
      ({ s with
        operations := updateWhere (fun row => row.operationId = operationId)
          (writeOperation state updatedAt errorCode) s.operations }).setNetworkState
        networkState updatedAt)

/-- `UPDATE bootstrap_operations ... WHERE state IN (<the active states>)`. -/
def failActive (now errorCode : String) (rows : List BootstrapOperation) :
    List BootstrapOperation :=
  updateWhere (fun row => row.state.active) (writeOperation .failed now (some errorCode)) rows

def failInterruptedOperations (now : String) (s : Store) : Nat × Store :=
  let interrupted := (s.operations.filter fun row => row.state.active).length
  let failed := { s with operations := failActive now "daemon_restarted" s.operations }
  (interrupted, if interrupted = 0 then failed else failed.setNetworkState .degraded now)

def reconcileNetworkState (networkState : NetworkState) (now : String) (s : Store) :
    Except StoreError Unit × Store :=
  if networkState = .staging ∨ networkState = .rollingBack then
    (.error (.conflict .activeTransition), s)
  else (.ok (), s.setNetworkState networkState now)

/-- The three updates and the epoch that `reset_authority` writes before the
recovery session is inserted. -/
def withdrawAuthority (networkState : NetworkState) (now : String) (s : Store) : Store where
  state :=
    { resetEpoch := s.state.resetEpoch + 1, claimState := .unclaimed, networkState,
      updatedAt := now }
  sessions := revokeUnspent now s.sessions
  grants := updateWhere (fun row => row.revokedAt.isNone)
    (fun row => { row with revokedAt := some now }) s.grants
  operations := failActive now "authority_reset" s.operations

def resetAuthority (networkState : NetworkState) (now : String)
    (recoverySession : Option CommissioningSessionSeed) (s : Store) :
    Except StoreError BootstrapState × Store :=
  let withdrawn := s.withdrawAuthority networkState now
  match recoverySession with
  | none => (.ok withdrawn.state, withdrawn)
  | some seed =>
    if (s.sessionRow? seed.sessionId).isSome then (.error .integrity, s)
    else
      (.ok withdrawn.state, { withdrawn with
        sessions := withdrawn.sessions ++
          [{ sessionId := seed.sessionId, createdAt := now, expiresAt := seed.expiresAt,
             secretHash := seed.secretHash }] })

end Store

namespace Store

def perform (s : Store) : StoreCall → Except StoreError StoreReply × Store
  | .issueCommissioningSession sessionId secretHash createdAt expiresAt =>
    (s.issueCommissioningSession sessionId secretHash createdAt expiresAt).map
      (·.map fun _ => .done) id
  | .authorizeCommissioningSession sessionId secretHash now =>
    (s.authorizeCommissioningSession sessionId secretHash now).map (·.map .session) id
  | .claimController sessionId secretHash grant now =>
    (s.claimController sessionId secretHash grant now).map (·.map .grant) id
  | .revokeController controllerId now =>
    (s.revokeController controllerId now).map (·.map .grant) id
  | .createOperation operation => (s.createOperation operation).map (·.map .operation) id
  | .updateOperation operationId state networkState updatedAt errorCode =>
    (s.updateOperation operationId state networkState updatedAt errorCode).map
      (·.map .operation) id
  | .failInterruptedOperations now =>
    (s.failInterruptedOperations now).map (.ok ∘ .interrupted) id
  | .reconcileNetworkState networkState now =>
    (s.reconcileNetworkState networkState now).map (·.map fun _ => .done) id
  | .resetAuthority networkState now recoverySession =>
    (s.resetAuthority networkState now recoverySession).map (·.map .state) id

def apply (s : Store) (call : StoreCall) : Store := (s.perform call).2

inductive Effect (s : Store) : StoreCall → Store → Prop where
  | refused (call : StoreCall) : Effect s call s
  | issued {sessionId secretHash createdAt : String} {expiresAt : Option String}
      (hFresh : s.sessionRow? sessionId = none) :
      Effect s (.issueCommissioningSession sessionId secretHash createdAt expiresAt)
        { s with
          sessions := revokeUnspent createdAt s.sessions ++
            [{ sessionId, createdAt, expiresAt, secretHash }] }
  | counted {call : StoreCall} (sessionId : String) : Effect s call (s.countFailedAttempt sessionId)
  | resumed {sessionId secretHash now : String} {grant held : ControllerGrant} {row : SessionRow}
      (hRow : s.sessionRow? sessionId = some row) (hOpen : row.isOpen now = true)
      (hSecret : row.secretHash = secretHash) (hHeld : held ∈ s.activeGrants) :
      Effect s (.claimController sessionId secretHash grant now)
        (s.consumeSession sessionId held.controllerId now)
  | claimed {sessionId secretHash now : String} {grant : ControllerGrant} {row : SessionRow}
      {inserted : Store} (hRow : s.sessionRow? sessionId = some row)
      (hOpen : row.isOpen now = true) (hSecret : row.secretHash = secretHash)
      (hEpoch : grant.resetEpoch = s.state.resetEpoch) (hInsert : s.insertGrant grant = some inserted) :
      Effect s (.claimController sessionId secretHash grant now)
        ((inserted.consumeSession sessionId grant.controllerId now).setClaimed now)
  | revoked {controllerId now : String} {target : ControllerGrant}
      (hTarget : target ∈ s.activeGrants) (hId : target.controllerId = controllerId)
      (hOthers : s.activeGrants.length ≠ 1) :
      Effect s (.revokeController controllerId now)
        { s with
          grants := updateWhere
            (fun row => (row.controllerId, row.resetEpoch) = (controllerId, s.state.resetEpoch))
            (fun row => { row with revokedAt := some now }) s.grants }
  | created {operation : BootstrapOperation}
      (hNew : s.getOperation operation.operationId = none)
      (hIdle : ∀ row ∈ s.operations, row.state.active = false) :
      Effect s (.createOperation operation) { s with operations := s.operations ++ [operation] }
  | updated {operationId : String} {state : BootstrapOperationState} {networkState : NetworkState}
      {updatedAt : String} {errorCode : Option String} {current : BootstrapOperation}
      (hFound : s.getOperation operationId = some current) :
      Effect s (.updateOperation operationId state networkState updatedAt errorCode)
        (({ s with
          operations := updateWhere (fun row => row.operationId = operationId)
            (writeOperation state updatedAt errorCode) s.operations }).setNetworkState
          networkState updatedAt)
  | interrupted (now : String) (networkState : NetworkState) (updatedAt : String) :
      Effect s (.failInterruptedOperations now)
        (({ s with operations := failActive now "daemon_restarted" s.operations }).setNetworkState
          networkState updatedAt)
  | reconciled {networkState : NetworkState} {now : String} :
      Effect s (.reconcileNetworkState networkState now) (s.setNetworkState networkState now)
  | reset {networkState : NetworkState} {now : String} :
      Effect s (.resetAuthority networkState now none) (s.withdrawAuthority networkState now)
  | recovered {networkState : NetworkState} {now : String} {seed : CommissioningSessionSeed}
      (hFresh : s.sessionRow? seed.sessionId = none) :
      Effect s (.resetAuthority networkState now (some seed))
        { s.withdrawAuthority networkState now with
          sessions := revokeUnspent now s.sessions ++
            [{ sessionId := seed.sessionId, createdAt := now, expiresAt := seed.expiresAt,
               secretHash := seed.secretHash }] }

theorem authorize_cases (sessionId secretHash now : String) (s : Store) :
    (∃ row, s.sessionRow? sessionId = some row ∧ row.isOpen now = true ∧
      row.secretHash = secretHash ∧
      s.authorizeCommissioningSession sessionId secretHash now =
        (.ok row.toCommissioningSessionMetadata, s)) ∨
    s.authorizeCommissioningSession sessionId secretHash now =
      (.error (.conflict .sessionUnavailable), s) ∨
    s.authorizeCommissioningSession sessionId secretHash now =
      (.error (.conflict .sessionUnavailable), s.countFailedAttempt sessionId) := by
  unfold authorizeCommissioningSession
  split
  · exact .inr (.inl rfl)
  · rename_i row hRow
    split
    · rename_i hOpen
      split
      · rename_i hSecret
        exact .inl ⟨row, hRow, hOpen, hSecret, rfl⟩
      · exact .inr (.inr rfl)
    · exact .inr (.inl rfl)

theorem grantRow?_mem {s : Store} {controllerId : String} {resetEpoch : Nat}
    {row : ControllerGrant} (h : s.grantRow? controllerId resetEpoch = some row) :
    row ∈ s.grants ∧ row.controllerId = controllerId ∧ row.resetEpoch = resetEpoch := by
  obtain ⟨hMem, hKey⟩ := lookup_mem h
  exact ⟨hMem, congrArg Prod.fst hKey, congrArg Prod.snd hKey⟩

theorem mem_activeGrants {s : Store} {grant : ControllerGrant} :
    grant ∈ s.activeGrants ↔
      grant ∈ s.grants ∧ grant.revokedAt = none ∧ grant.resetEpoch = s.state.resetEpoch := by
  simp [activeGrants]

theorem grantInEpoch_active {s : Store} {grant held : ControllerGrant}
    (h : s.grantInEpoch grant s.state.resetEpoch = .ok (some held)) : held ∈ s.activeGrants := by
  unfold grantInEpoch at h
  split at h
  · cases h
  · rename_i found hFound
    split at h
    · cases h
    · split at h
      · rename_i hLive
        cases h
        rcases Option.or_eq_some_iff.mp hFound with hRow | ⟨_, hRow⟩
        · obtain ⟨hMem, _, hEpoch⟩ := grantRow?_mem hRow
          exact mem_activeGrants.mpr ⟨hMem, by simpa using hLive, hEpoch⟩
        · obtain ⟨hMem, hKey⟩ := lookup_mem hRow
          exact mem_activeGrants.mpr ⟨hMem, by simpa using hLive, congrArg Prod.snd hKey⟩
      · cases h

theorem claimController_effect (sessionId secretHash : String) (grant : ControllerGrant)
    (now : String) (s : Store) :
    Effect s (.claimController sessionId secretHash grant now)
      (s.claimController sessionId secretHash grant now).2 := by
  unfold claimController
  split
  · exact .refused _
  · rcases authorize_cases sessionId secretHash now s with
      ⟨row, hRow, hOpen, hSecret, hEq⟩ | hEq | hEq
    · rw [hEq]
      simp only [completeClaim]
      split
      · exact .refused _
      · rename_i hEpoch
        split
        · exact .refused _
        · rename_i held hHeld
          exact .resumed hRow hOpen hSecret (grantInEpoch_active hHeld)
        · split
          · exact .refused _
          · rename_i inserted hInsert
            exact .claimed hRow hOpen hSecret (not_not.mp hEpoch) hInsert
    · rw [hEq]
      exact .refused _
    · rw [hEq]
      exact .counted sessionId

theorem claimController_ok {s t : Store} {sessionId secretHash now : String}
    {grant given : ControllerGrant}
    (h : s.claimController sessionId secretHash grant now = (.ok given, t)) :
    (∃ row consumedAt, s.sessionRow? sessionId = some row ∧ row.consumedAt = some consumedAt ∧
      s.replayClaim row consumedAt secretHash grant = .ok given ∧ t = s) ∨
    (∃ row, s.sessionRow? sessionId = some row ∧ row.isOpen now = true ∧
      row.secretHash = secretHash ∧ grant.resetEpoch = s.state.resetEpoch ∧
      ((given ∈ s.activeGrants ∧ t = s.consumeSession sessionId given.controllerId now) ∨
       (given = grant ∧ ∃ inserted, s.insertGrant grant = some inserted ∧
          t = (inserted.consumeSession sessionId grant.controllerId now).setClaimed now))) := by
  unfold claimController at h
  split at h
  · rename_i session consumedAt hSession
    obtain ⟨row, hRow, hConsumed⟩ := Option.bind_eq_some_iff.mp hSession
    obtain ⟨_, hTime, hPair⟩ := Option.map_eq_some_iff.mp hConsumed
    cases hPair
    exact .inl ⟨_, _, hRow, hTime, congrArg Prod.fst h, (congrArg Prod.snd h).symm⟩
  · rcases authorize_cases sessionId secretHash now s with
      ⟨row, hRow, hOpen, hSecret, hEq⟩ | hEq | hEq
    · rw [hEq] at h
      simp only [completeClaim] at h
      split at h
      · cases h
      · rename_i hEpoch
        refine .inr ⟨row, hRow, hOpen, hSecret, not_not.mp hEpoch, ?_⟩
        split at h
        · cases h
        · rename_i held hHeld
          cases h
          exact .inl ⟨grantInEpoch_active hHeld, rfl⟩
        · split at h
          · cases h
          · rename_i inserted hInsert
            cases h
            exact .inr ⟨rfl, inserted, hInsert, rfl⟩
    · rw [hEq] at h
      cases h
    · rw [hEq] at h
      cases h

theorem claimController_error {s t : Store} {sessionId secretHash now : String}
    {grant : ControllerGrant} {error : StoreError}
    (h : s.claimController sessionId secretHash grant now = (.error error, t)) :
    t = s ∨ t = s.countFailedAttempt sessionId := by
  unfold claimController at h
  split at h
  · exact .inl (congrArg Prod.snd h).symm
  · rcases authorize_cases sessionId secretHash now s with ⟨_, _, _, _, hEq⟩ | hEq | hEq
    · rw [hEq] at h
      simp only [completeClaim] at h
      split at h
      · exact .inl (congrArg Prod.snd h).symm
      · split at h
        · exact .inl (congrArg Prod.snd h).symm
        · cases h
        · split at h
          · exact .inl (congrArg Prod.snd h).symm
          · cases h
    · rw [hEq] at h
      exact .inl (congrArg Prod.snd h).symm
    · rw [hEq] at h
      exact .inr (congrArg Prod.snd h).symm

theorem revokeController_effect (controllerId now : String) (s : Store) :
    Effect s (.revokeController controllerId now) (s.revokeController controllerId now).2 := by
  unfold revokeController
  split
  · exact .refused _
  · rename_i target hTarget
    split
    · exact .refused _
    · rename_i hOthers
      exact .revoked (List.mem_of_find?_eq_some hTarget) (by simpa using List.find?_some hTarget)
        hOthers

theorem createOperation_effect (operation : BootstrapOperation) (s : Store) :
    Effect s (.createOperation operation) (s.createOperation operation).2 := by
  unfold createOperation
  split
  · split
    · exact .refused _
    · exact .refused _
  · rename_i hNew
    split
    · exact .refused _
    · split
      · exact .refused _
      · rename_i hActive
        exact .created hNew (by simpa using hActive)

theorem createOperation_error {s t : Store} {operation : BootstrapOperation} {error : StoreError}
    (h : s.createOperation operation = (.error error, t)) : t = s := by
  unfold createOperation at h
  split at h
  · split at h
    · cases h
    · cases h
      rfl
  · split at h
    · cases h
      rfl
    · split at h
      · cases h
        rfl
      · cases h

theorem createOperation_new {s t : Store} {operation stored : BootstrapOperation}
    (hNew : s.getOperation operation.operationId = none)
    (h : s.createOperation operation = (.ok stored, t)) :
    t = s.apply (.createOperation operation) ∧
      t.getOperation operation.operationId = some operation := by
  refine ⟨by simp [apply, perform, h], ?_⟩
  simp only [createOperation, hNew] at h
  split at h
  · cases h
  · split at h
    · cases h
    · cases h
      rw [getOperation] at hNew ⊢
      rw [lookup_append, hNew]
      simp [lookup]

theorem updateOperation_found {s : Store} {operationId : String} {current : BootstrapOperation}
    (hFound : s.getOperation operationId = some current) (state : BootstrapOperationState)
    (networkState : NetworkState) (updatedAt : String) (errorCode : Option String) :
    s.updateOperation operationId state networkState updatedAt errorCode =
      (.ok (writeOperation state updatedAt errorCode current),
        s.apply (.updateOperation operationId state networkState updatedAt errorCode)) := by
  simp [apply, perform, updateOperation, hFound]

theorem updateOperation_missing {s : Store} {operationId : String}
    (hMissing : s.getOperation operationId = none) (state : BootstrapOperationState)
    (networkState : NetworkState) (updatedAt : String) (errorCode : Option String) :
    s.updateOperation operationId state networkState updatedAt errorCode =
      (.error (.conflict .operationMissing), s) := by
  simp [updateOperation, hMissing]

theorem failInterruptedOperations_effect (now : String) (s : Store) :
    Effect s (.failInterruptedOperations now) (s.failInterruptedOperations now).2 := by
  simp only [failInterruptedOperations]
  split
  · exact .interrupted now s.state.networkState s.state.updatedAt
  · exact .interrupted now .degraded now

theorem resetAuthority_effect (networkState : NetworkState) (now : String)
    (recoverySession : Option CommissioningSessionSeed) (s : Store) :
    Effect s (.resetAuthority networkState now recoverySession)
      (s.resetAuthority networkState now recoverySession).2 := by
  cases recoverySession with
  | none => exact .reset
  | some seed =>
    simp only [resetAuthority]
    split
    · exact .refused _
    · rename_i hFresh
      exact .recovered (by simpa using hFresh)

theorem apply_effect (s : Store) (call : StoreCall) : Effect s call (s.apply call) := by
  cases call with
  | issueCommissioningSession sessionId secretHash createdAt expiresAt =>
    simp only [apply, perform, issueCommissioningSession]
    split
    · exact .refused _
    · rename_i hFresh
      exact .issued (by simpa using hFresh)
  | authorizeCommissioningSession sessionId secretHash now =>
    simp only [apply, perform]
    rcases authorize_cases sessionId secretHash now s with ⟨_, _, _, _, hEq⟩ | hEq | hEq
    · rw [hEq]
      exact .refused _
    · rw [hEq]
      exact .refused _
    · rw [hEq]
      exact .counted sessionId
  | claimController sessionId secretHash grant now =>
    exact claimController_effect sessionId secretHash grant now s
  | revokeController controllerId now => exact revokeController_effect controllerId now s
  | createOperation operation => exact createOperation_effect operation s
  | updateOperation operationId state networkState updatedAt errorCode =>
    simp only [apply, perform, updateOperation]
    split
    · exact .refused _
    · rename_i hFound
      exact .updated hFound
  | failInterruptedOperations now => exact failInterruptedOperations_effect now s
  | reconcileNetworkState networkState now =>
    simp only [apply, perform, reconcileNetworkState]
    split
    · exact .refused _
    · exact .reconciled
  | resetAuthority networkState now recoverySession =>
    exact resetAuthority_effect networkState now recoverySession s

end Store

def sqliteStore : StateStore where
  σ := Store
  create := Store.create
  perform := Store.perform
  state := Store.state
  sessions := Store.sessions
  grants := Store.grants
  operations := Store.operations

end EidolonAdmin.Bootstrap
