import EidolonAdmin.Foundation.Dict
import EidolonAdmin.Bootstrap.StatePort

/-! # The in-memory adapter of the bootstrap state store

`InMemoryBootstrapStateStore` while it is open. Sessions are an append-only list
beside the dictionary of the Controllers that claimed them; grants are keyed by
the epoch and the Controller. Nothing here rejects a session id that is already
in the list.
-/

namespace EidolonAdmin.Bootstrap

open Foundation Foundation.Table

structure MemoryStore where
  state : BootstrapState
  sessions : List (CommissioningSessionMetadata × String) := []
  sessionControllerIds : List (String × String) := []
  controllers : List ((Nat × String) × ControllerGrant) := []
  operations : List (String × BootstrapOperation) := []
deriving DecidableEq, Repr

namespace MemoryStore

def create (now : String) : MemoryStore where
  state := ⟨0, .unclaimed, .unconfigured, now⟩

/-- Every open window superseded: the comprehension of `issue_commissioning_session`
and `reset_authority`. -/
def revokeUnspent (now : String) (sessions : List (CommissioningSessionMetadata × String)) :
    List (CommissioningSessionMetadata × String) :=
  updateWhere (fun entry => entry.1.unspent)
    (fun entry => ({ entry.1 with revokedAt := some now }, entry.2)) sessions

def issueCommissioningSession (sessionId secretHash createdAt : String) (expiresAt : Option String)
    (s : MemoryStore) : MemoryStore :=
  { s with
    sessions := revokeUnspent createdAt s.sessions ++
      [({ sessionId, createdAt, expiresAt }, secretHash)] }

/-- The first window of this id, which is where the loop of
`authorize_commissioning_session` stops. -/
def firstSession? (s : MemoryStore) (sessionId : String) :
    Option (CommissioningSessionMetadata × String) :=
  lookup (fun entry => entry.1.sessionId) sessionId s.sessions

/-- `self._sessions[index] = replace(...)` at the first window of this id. -/
def countFirst (sessionId : String) :
    List (CommissioningSessionMetadata × String) → List (CommissioningSessionMetadata × String)
  | [] => []
  | (metadata, storedHash) :: rest =>
    if metadata.sessionId = sessionId then
      ({ metadata with failedAttempts := metadata.failedAttempts + 1 }, storedHash) :: rest
    else (metadata, storedHash) :: countFirst sessionId rest

def authorizeCommissioningSession (sessionId secretHash now : String) (s : MemoryStore) :
    Except StoreError CommissioningSessionMetadata × MemoryStore :=
  match s.firstSession? sessionId with
  | none => (.error (.conflict .sessionUnavailable), s)
  | some (metadata, storedHash) =>
    if metadata.isOpen now then
      if storedHash = secretHash then (.ok metadata, s)
      else
        (.error (.conflict .sessionUnavailable),
          { s with sessions := countFirst sessionId s.sessions })
    else (.error (.conflict .sessionUnavailable), s)

def getController (s : MemoryStore) (controllerId : String) : Option ControllerGrant :=
  Dict.get s.controllers (s.state.resetEpoch, controllerId)

/-- `_grant_in_epoch`: by the Controller id first, else by the fingerprint. -/
def grantInEpoch (grant : ControllerGrant) (resetEpoch : Nat) (s : MemoryStore) :
    Except StoreError (Option ControllerGrant) :=
  match (Dict.get s.controllers (resetEpoch, grant.controllerId)).or
      ((s.controllers.find? fun item => item.1.1 = resetEpoch ∧
        item.2.publicKeyFingerprint = grant.publicKeyFingerprint).map Prod.snd) with
  | none => .ok none
  | some held =>
    if held.publicKey ≠ grant.publicKey then .error (.conflict .identityHeld)
    else if held.revokedAt.isNone then .ok (some held)
    else .ok none

def consumeSession (sessionId controllerId now : String) (s : MemoryStore) : MemoryStore :=
  { s with
    sessionControllerIds := Dict.set s.sessionControllerIds sessionId controllerId
    sessions := updateWhere (fun entry => entry.1.sessionId = sessionId)
      (fun entry => ({ entry.1 with consumedAt := some now }, entry.2)) s.sessions }

/-- The part of `claim_controller` that runs on a session a Controller has claimed. -/
def replayClaim (claimedControllerId sessionId secretHash : String) (grant : ControllerGrant)
    (s : MemoryStore) : Except StoreError ControllerGrant :=
  match s.getController claimedControllerId with
  | some existing =>
    if claimedControllerId = grant.controllerId ∧ existing.publicKey = grant.publicKey ∧
        existing.revokedAt = none ∧
        s.sessions.any (fun entry => entry.1.sessionId = sessionId ∧ entry.2 = secretHash ∧
          entry.1.consumedAt.any fun consumedAt => decide (existing.createdAt ≤ consumedAt)) then
      .ok existing
    else .error (.conflict .sessionUnavailable)
  | none => .error (.conflict .sessionUnavailable)

def insertGrant (grant : ControllerGrant) (s : MemoryStore) : MemoryStore :=
  { s with
    controllers := Dict.set s.controllers (s.state.resetEpoch, grant.controllerId) grant }

def setClaimed (now : String) (s : MemoryStore) : MemoryStore :=
  { s with state := { s.state with claimState := .claimed, updatedAt := now } }

def completeClaim (sessionId : String) (grant : ControllerGrant) (now : String)
    (s : MemoryStore) : Except StoreError ControllerGrant × MemoryStore :=
  if grant.resetEpoch ≠ s.state.resetEpoch then (.error (.conflict .epochMismatch), s)
  else
    match s.grantInEpoch grant s.state.resetEpoch with
    | .error error => (.error error, s)
    | .ok (some held) => (.ok held, s.consumeSession sessionId held.controllerId now)
    | .ok none =>
      (.ok grant,
        ((s.insertGrant grant).consumeSession sessionId grant.controllerId now).setClaimed now)

def claimController (sessionId secretHash : String) (grant : ControllerGrant) (now : String)
    (s : MemoryStore) : Except StoreError ControllerGrant × MemoryStore :=
  match Dict.get s.sessionControllerIds sessionId with
  | some claimedControllerId =>
    (s.replayClaim claimedControllerId sessionId secretHash grant, s)
  | none =>
    match s.authorizeCommissioningSession sessionId secretHash now with
    | (.error error, after) => (.error error, after)
    | (.ok _, after) => after.completeClaim sessionId grant now

def activeGrants (s : MemoryStore) : List ControllerGrant :=
  (s.controllers.map Prod.snd).filter fun grant =>
    grant.revokedAt.isNone && grant.resetEpoch == s.state.resetEpoch

def revokeController (controllerId now : String) (s : MemoryStore) :
    Except StoreError ControllerGrant × MemoryStore :=
  match s.activeGrants.find? fun grant => grant.controllerId = controllerId with
  | none => (.error (.conflict .controllerNotAuthorized), s)
  | some target =>
    if s.activeGrants.length = 1 then (.error (.conflict .lastController), s)
    else
      let revoked := { target with revokedAt := some now }
      (.ok revoked, { s with
        controllers := Dict.set s.controllers (s.state.resetEpoch, controllerId) revoked })

def createOperation (operation : BootstrapOperation) (s : MemoryStore) :
    Except StoreError BootstrapOperation × MemoryStore :=
  match Dict.get s.operations operation.operationId with
  | some current =>
    if current.operationType = operation.operationType ∧ current.target = operation.target ∧
        current.resetEpoch = operation.resetEpoch then (.ok current, s)
    else (.error (.conflict .operationIdInUse), s)
  | none =>
    if operation.resetEpoch ≠ s.state.resetEpoch then
      (.error (.conflict .operationEpochMismatch), s)
    else if s.operations.any fun item => item.2.state.active then
      (.error (.conflict .anotherOperationActive), s)
    else
      (.ok operation,
        { s with operations := Dict.set s.operations operation.operationId operation })

def setNetworkState (networkState : NetworkState) (now : String) (s : MemoryStore) : MemoryStore :=
  { s with state := { s.state with networkState, updatedAt := now } }

def updateOperation (operationId : String) (state : BootstrapOperationState)
    (networkState : NetworkState) (updatedAt : String) (errorCode : Option String)
    (s : MemoryStore) : Except StoreError BootstrapOperation × MemoryStore :=
  match Dict.get s.operations operationId with
  | none => (.error (.conflict .operationMissing), s)
  | some current =>
    let updated := { current with state, updatedAt, errorCode }
    (.ok updated,
      ({ s with operations := Dict.set s.operations operationId updated }).setNetworkState
        networkState updatedAt)

def failActive (now errorCode : String) (operations : List (String × BootstrapOperation)) :
    List (String × BootstrapOperation) :=
  updateWhere (fun item => item.2.state.active)
    (fun item =>
      (item.1, { item.2 with state := .failed, updatedAt := now, errorCode := some errorCode }))
    operations

def failInterruptedOperations (now : String) (s : MemoryStore) : Nat × MemoryStore :=
  let interrupted := (s.operations.filter fun item => item.2.state.active).length
  let failed := { s with operations := failActive now "daemon_restarted" s.operations }
  (interrupted, if interrupted = 0 then failed else failed.setNetworkState .degraded now)

def reconcileNetworkState (networkState : NetworkState) (now : String) (s : MemoryStore) :
    Except StoreError Unit × MemoryStore :=
  if networkState = .staging ∨ networkState = .rollingBack then
    (.error (.conflict .activeTransition), s)
  else (.ok (), s.setNetworkState networkState now)

def resetAuthority (networkState : NetworkState) (now : String)
    (recoverySession : Option CommissioningSessionSeed) (s : MemoryStore) :
    BootstrapState × MemoryStore :=
  let state : BootstrapState :=
    { resetEpoch := s.state.resetEpoch + 1, claimState := .unclaimed, networkState,
      updatedAt := now }
  (state, { s with
    state
    sessions := revokeUnspent now s.sessions ++
      (recoverySession.map fun seed =>
        ({ sessionId := seed.sessionId, createdAt := now, expiresAt := seed.expiresAt },
          seed.secretHash)).toList
    controllers := updateWhere (fun item => item.2.revokedAt.isNone)
      (fun item => (item.1, { item.2 with revokedAt := some now })) s.controllers
    operations := failActive now "authority_reset" s.operations })

def perform (s : MemoryStore) : StoreCall → Except StoreError StoreReply × MemoryStore
  | .issueCommissioningSession sessionId secretHash createdAt expiresAt =>
    (.ok .done, s.issueCommissioningSession sessionId secretHash createdAt expiresAt)
  | .authorizeCommissioningSession sessionId secretHash now =>
    (s.authorizeCommissioningSession sessionId secretHash now).map (·.map .session) id
  | .claimController sessionId secretHash grant now =>
    (s.claimController sessionId secretHash grant now).map (·.map .grant) id
  | .revokeController controllerId now =>
    (s.revokeController controllerId now).map (·.map .grant) id
  | .createOperation operation => (s.createOperation operation).map (·.map .operation) id
  | .updateOperation operationId state networkState updatedAt errorCode =>
    (s.updateOperation operationId state networkState updatedAt errorCode).map
      (·.map .operation) id
  | .failInterruptedOperations now =>
    (s.failInterruptedOperations now).map (.ok ∘ .interrupted) id
  | .reconcileNetworkState networkState now =>
    (s.reconcileNetworkState networkState now).map (·.map fun _ => .done) id
  | .resetAuthority networkState now recoverySession =>
    (s.resetAuthority networkState now recoverySession).map (.ok ∘ .state) id

inductive Effect (s : MemoryStore) : StoreCall → MemoryStore → Prop where
  | refused (call : StoreCall) : Effect s call s
  | issued {sessionId secretHash createdAt : String} {expiresAt : Option String} :
      Effect s (.issueCommissioningSession sessionId secretHash createdAt expiresAt)
        (s.issueCommissioningSession sessionId secretHash createdAt expiresAt)
  | counted {call : StoreCall} (sessionId : String) :
      Effect s call { s with sessions := countFirst sessionId s.sessions }
  | resumed {sessionId secretHash now : String} {grant held : ControllerGrant}
      {metadata : CommissioningSessionMetadata}
      (hUnclaimed : Dict.get s.sessionControllerIds sessionId = none)
      (hFirst : s.firstSession? sessionId = some (metadata, secretHash))
      (hOpen : metadata.isOpen now = true) (hHeld : held ∈ s.activeGrants) :
      Effect s (.claimController sessionId secretHash grant now)
        (s.consumeSession sessionId held.controllerId now)
  | claimed {sessionId secretHash now : String} {grant : ControllerGrant}
      {metadata : CommissioningSessionMetadata}
      (hUnclaimed : Dict.get s.sessionControllerIds sessionId = none)
      (hFirst : s.firstSession? sessionId = some (metadata, secretHash))
      (hOpen : metadata.isOpen now = true) (hEpoch : grant.resetEpoch = s.state.resetEpoch) :
      Effect s (.claimController sessionId secretHash grant now)
        (((s.insertGrant grant).consumeSession sessionId grant.controllerId now).setClaimed now)
  | revoked {controllerId now : String} {target : ControllerGrant}
      (hTarget : target ∈ s.activeGrants) (hId : target.controllerId = controllerId)
      (hOthers : s.activeGrants.length ≠ 1) :
      Effect s (.revokeController controllerId now)
        { s with
          controllers := Dict.set s.controllers (s.state.resetEpoch, controllerId)
            { target with revokedAt := some now } }
  | created {operation : BootstrapOperation}
      (hIdle : ∀ item ∈ s.operations, item.2.state.active = false) :
      Effect s (.createOperation operation)
        { s with operations := Dict.set s.operations operation.operationId operation }
  | updated {operationId : String} {state : BootstrapOperationState} {networkState : NetworkState}
      {updatedAt : String} {errorCode : Option String} {current : BootstrapOperation}
      (hFound : Dict.get s.operations operationId = some current) :
      Effect s (.updateOperation operationId state networkState updatedAt errorCode)
        (({ s with
          operations := Dict.set s.operations operationId
            { current with state, updatedAt, errorCode } }).setNetworkState
          networkState updatedAt)
  | interrupted (now : String) (networkState : NetworkState) (updatedAt : String) :
      Effect s (.failInterruptedOperations now)
        (({ s with operations := failActive now "daemon_restarted" s.operations }).setNetworkState
          networkState updatedAt)
  | reconciled {networkState : NetworkState} {now : String} :
      Effect s (.reconcileNetworkState networkState now) (s.setNetworkState networkState now)
  | reset {networkState : NetworkState} {now : String}
      {recoverySession : Option CommissioningSessionSeed} :
      Effect s (.resetAuthority networkState now recoverySession)
        (s.resetAuthority networkState now recoverySession).2

theorem authorize_cases (sessionId secretHash now : String) (s : MemoryStore) :
    (∃ metadata, s.firstSession? sessionId = some (metadata, secretHash) ∧
      metadata.isOpen now = true ∧
      s.authorizeCommissioningSession sessionId secretHash now = (.ok metadata, s)) ∨
    s.authorizeCommissioningSession sessionId secretHash now =
      (.error (.conflict .sessionUnavailable), s) ∨
    s.authorizeCommissioningSession sessionId secretHash now =
      (.error (.conflict .sessionUnavailable),
        { s with sessions := countFirst sessionId s.sessions }) := by
  unfold authorizeCommissioningSession
  split
  · exact .inr (.inl rfl)
  · rename_i metadata storedHash hFirst
    split
    · rename_i hOpen
      split
      · rename_i hSecret
        exact .inl ⟨metadata, hSecret ▸ hFirst, hOpen, rfl⟩
      · exact .inr (.inr rfl)
    · exact .inr (.inl rfl)

theorem mem_activeGrants {s : MemoryStore} {grant : ControllerGrant} :
    grant ∈ s.activeGrants ↔ (∃ item ∈ s.controllers, item.2 = grant) ∧
      grant.revokedAt = none ∧ grant.resetEpoch = s.state.resetEpoch := by
  simp only [activeGrants, List.mem_filter, List.mem_map, Bool.and_eq_true, beq_iff_eq,
    Option.isNone_iff_eq_none]

theorem grantInEpoch_active {s : MemoryStore} {grant held : ControllerGrant}
    (hKeys : ∀ item ∈ s.controllers, item.1 = (item.2.resetEpoch, item.2.controllerId))
    (h : s.grantInEpoch grant s.state.resetEpoch = .ok (some held)) : held ∈ s.activeGrants := by
  unfold grantInEpoch at h
  split at h
  · cases h
  · rename_i found hFound
    split at h
    · cases h
    · split at h
      · rename_i hLive
        cases h
        rcases Option.or_eq_some_iff.mp hFound with hItem | ⟨_, hItem⟩
        · have hMem := Dict.get_mem hItem
          exact mem_activeGrants.mpr ⟨⟨_, hMem, rfl⟩, by simpa using hLive,
            (congrArg Prod.fst (hKeys _ hMem)).symm⟩
        · obtain ⟨item, hSearch, rfl⟩ := Option.map_eq_some_iff.mp hItem
          have hMem := List.mem_of_find?_eq_some hSearch
          have hEpoch : item.1.1 = s.state.resetEpoch := by
            have hTest := List.find?_some hSearch
            simp only [decide_eq_true_eq] at hTest
            exact hTest.1
          refine mem_activeGrants.mpr ⟨⟨item, hMem, rfl⟩, by simpa using hLive, ?_⟩
          rw [← hEpoch, hKeys item hMem]
      · cases h

theorem claimController_effect {s : MemoryStore}
    (hKeys : ∀ item ∈ s.controllers, item.1 = (item.2.resetEpoch, item.2.controllerId))
    (sessionId secretHash : String) (grant : ControllerGrant) (now : String) :
    Effect s (.claimController sessionId secretHash grant now)
      (s.claimController sessionId secretHash grant now).2 := by
  unfold claimController
  split
  · exact .refused _
  · rename_i hUnclaimed
    rcases authorize_cases sessionId secretHash now s with ⟨metadata, hFirst, hOpen, hEq⟩ | hEq | hEq
    · rw [hEq]
      simp only [completeClaim]
      split
      · exact .refused _
      · rename_i hEpoch
        split
        · exact .refused _
        · rename_i held hHeld
          exact .resumed hUnclaimed hFirst hOpen (grantInEpoch_active hKeys hHeld)
        · exact .claimed hUnclaimed hFirst hOpen (not_not.mp hEpoch)
    · rw [hEq]
      exact .refused _
    · rw [hEq]
      exact .counted sessionId

theorem claimController_ok {s t : MemoryStore} {sessionId secretHash now : String}
    {grant given : ControllerGrant}
    (h : s.claimController sessionId secretHash grant now = (.ok given, t)) :
    (∃ claimed, Dict.get s.sessionControllerIds sessionId = some claimed ∧
      s.replayClaim claimed sessionId secretHash grant = .ok given ∧ t = s) ∨
    (Dict.get s.sessionControllerIds sessionId = none ∧
      ((t = s.consumeSession sessionId given.controllerId now) ∨
       (t = ((s.insertGrant given).consumeSession sessionId given.controllerId now).setClaimed
          now))) := by
  unfold claimController at h
  split at h
  · rename_i claimed hClaimed
    exact .inl ⟨claimed, hClaimed, congrArg Prod.fst h, (congrArg Prod.snd h).symm⟩
  · rename_i hUnclaimed
    refine .inr ⟨hUnclaimed, ?_⟩
    rcases authorize_cases sessionId secretHash now s with ⟨metadata, _, _, hEq⟩ | hEq | hEq
    · rw [hEq] at h
      simp only [completeClaim] at h
      split at h
      · cases h
      · split at h
        · cases h
        · cases h
          exact .inl rfl
        · cases h
          exact .inr rfl
    · rw [hEq] at h
      cases h
    · rw [hEq] at h
      cases h

theorem revokeController_effect (controllerId now : String) (s : MemoryStore) :
    Effect s (.revokeController controllerId now) (s.revokeController controllerId now).2 := by
  unfold revokeController
  split
  · exact .refused _
  · rename_i target hTarget
    split
    · exact .refused _
    · rename_i hOthers
      exact .revoked (List.mem_of_find?_eq_some hTarget) (by simpa using List.find?_some hTarget)
        hOthers

theorem createOperation_effect (operation : BootstrapOperation) (s : MemoryStore) :
    Effect s (.createOperation operation) (s.createOperation operation).2 := by
  unfold createOperation
  split
  · split
    · exact .refused _
    · exact .refused _
  · split
    · exact .refused _
    · split
      · exact .refused _
      · rename_i hActive
        exact .created (by simpa using hActive)

theorem failInterruptedOperations_effect (now : String) (s : MemoryStore) :
    Effect s (.failInterruptedOperations now) (s.failInterruptedOperations now).2 := by
  simp only [failInterruptedOperations]
  split
  · exact .interrupted now s.state.networkState s.state.updatedAt
  · exact .interrupted now .degraded now

def apply (s : MemoryStore) (call : StoreCall) : MemoryStore := (s.perform call).2

theorem apply_effect {s : MemoryStore}
    (hKeys : ∀ item ∈ s.controllers, item.1 = (item.2.resetEpoch, item.2.controllerId))
    (call : StoreCall) : Effect s call (s.apply call) := by
  cases call with
  | issueCommissioningSession sessionId secretHash createdAt expiresAt => exact .issued
  | authorizeCommissioningSession sessionId secretHash now =>
    simp only [apply, perform]
    rcases authorize_cases sessionId secretHash now s with ⟨_, _, _, hEq⟩ | hEq | hEq
    · rw [hEq]
      exact .refused _
    · rw [hEq]
      exact .refused _
    · rw [hEq]
      exact .counted sessionId
  | claimController sessionId secretHash grant now =>
    exact claimController_effect hKeys sessionId secretHash grant now
  | revokeController controllerId now => exact revokeController_effect controllerId now s
  | createOperation operation => exact createOperation_effect operation s
  | updateOperation operationId state networkState updatedAt errorCode =>
    simp only [apply, perform, updateOperation]
    split
    · exact .refused _
    · rename_i hFound
      exact .updated hFound
  | failInterruptedOperations now => exact failInterruptedOperations_effect now s
  | reconcileNetworkState networkState now =>
    simp only [apply, perform, reconcileNetworkState]
    split
    · exact .refused _
    · exact .reconciled
  | resetAuthority networkState now recoverySession => exact .reset

def sessionRow (s : MemoryStore) (entry : CommissioningSessionMetadata × String) : SessionRow where
  toCommissioningSessionMetadata := entry.1
  secretHash := entry.2
  claimedControllerId := Dict.get s.sessionControllerIds entry.1.sessionId

end MemoryStore

def memoryStore : StateStore where
  σ := MemoryStore
  create := MemoryStore.create
  perform := MemoryStore.perform
  state := MemoryStore.state
  sessions s := s.sessions.map s.sessionRow
  grants s := s.controllers.map Prod.snd
  operations s := s.operations.map Prod.snd

end EidolonAdmin.Bootstrap
