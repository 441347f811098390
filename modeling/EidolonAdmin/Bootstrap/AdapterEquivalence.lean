import Mathlib.Data.List.Sort
import EidolonAdmin.Bootstrap.SessionLinearity
import EidolonAdmin.Bootstrap.ClaimWindow
import EidolonAdmin.Bootstrap.Refusals

/-! # The two adapters give the same answers

The in-memory adapter is read as the tables it stands for. A call then does the
same to those tables and returns the same in both adapters, except where it
stores a window under an id in use or revives a revoked grant with a grant that
is itself revoked.
-/

namespace EidolonAdmin.Bootstrap

open Foundation Foundation.Table Foundation.Transition

namespace Store

/-- The store's own `list_controllers`: `ORDER BY created_at, controller_id`. -/
def listControllersByCreation (s : Store) : List ControllerGrant :=
  s.grants.insertionSort fun a b =>
    toLex (a.createdAt, a.controllerId) ≤ toLex (b.createdAt, b.controllerId)

/-- The claim takes an open window with its code for a Controller whose grant of
this epoch was revoked. -/
def Revives (s : Store) (sessionId secretHash : String) (grant : ControllerGrant) (now : String) :
    Prop :=
  (∃ row, s.sessionRow? sessionId = some row ∧ row.isOpen now = true ∧
    row.secretHash = secretHash) ∧
  grant.resetEpoch = s.state.resetEpoch ∧
  ∃ held, s.getController grant.controllerId = some held ∧ held.publicKey = grant.publicKey ∧
    held.revokedAt.isSome = true

/-- A new window has an id of its own, and a grant that revives a revoked one is
not itself revoked. -/
def Distinct (s : Store) : StoreCall → Prop
  | .issueCommissioningSession sessionId _ _ _ => s.sessionRow? sessionId = none
  | .resetAuthority _ _ (some seed) => s.sessionRow? seed.sessionId = none
  | .claimController sessionId secretHash grant now =>
    s.Revives sessionId secretHash grant now → grant.revokedAt = none
  | _ => True

end Store

namespace MemoryStore

def listControllersByCreation (s : MemoryStore) : List ControllerGrant :=
  (s.controllers.map Prod.snd).insertionSort fun a b =>
    toLex (a.createdAt, toLex (a.resetEpoch, a.controllerId)) ≤
      toLex (b.createdAt, toLex (b.resetEpoch, b.controllerId))

def latestCommissioningSession (s : MemoryStore) : Option CommissioningSessionMetadata :=
  s.sessions.getLast?.map Prod.fst

def getOperation (s : MemoryStore) (operationId : String) : Option BootstrapOperation :=
  Dict.get s.operations operationId

def tables (s : MemoryStore) : Store where
  state := s.state
  sessions := memoryStore.sessions s
  grants := memoryStore.grants s
  operations := memoryStore.operations s

/-- Both names of a Controller are functions of its key. -/
def Derived (idOf fingerprintOf : String → String) (grant : ControllerGrant) : Prop :=
  grant.controllerId = idOf grant.publicKey ∧
    grant.publicKeyFingerprint = fingerprintOf grant.publicKey

/-- What every run of the in-memory adapter keeps. -/
structure Indexed (idOf fingerprintOf : String → String) (s : MemoryStore) : Prop where
  keyed : s.Keyed
  operationKeys : ∀ item ∈ s.operations, item.1 = item.2.operationId
  claimed : s.ClaimedSpent
  consumed : s.ConsumedClaimed
  derived : ∀ item ∈ s.controllers, Derived idOf fingerprintOf item.2

section Tables

variable {s : MemoryStore} {idOf fingerprintOf : String → String}

theorem sessionRow?_tables (s : MemoryStore) (sessionId : String) :
    s.tables.sessionRow? sessionId = (s.firstSession? sessionId).map s.sessionRow :=
  lookup_sessions s sessionId

theorem grantRow?_tables (h : s.Keyed) (controllerId : String) (resetEpoch : Nat) :
    s.tables.grantRow? controllerId resetEpoch =
      Dict.get s.controllers (resetEpoch, controllerId) := by
  have hLookup := Dict.lookup_values
    (fun grant : ControllerGrant => (grant.resetEpoch, grant.controllerId))
    h.controllerKeys (resetEpoch, controllerId)
  rw [← hLookup]
  simp only [Store.grantRow?, lookup, tables, memoryStore, Prod.mk.injEq, and_comm]

theorem getController_tables (h : s.Keyed) (controllerId : String) :
    s.tables.getController controllerId = s.getController controllerId :=
  grantRow?_tables h controllerId s.state.resetEpoch

theorem getOperation_tables (h : ∀ item ∈ s.operations, item.1 = item.2.operationId)
    (operationId : String) :
    s.tables.getOperation operationId = Dict.get s.operations operationId :=
  Dict.lookup_values BootstrapOperation.operationId h operationId

theorem fingerprint_tables (h : s.Keyed) (fingerprint : String) (resetEpoch : Nat) :
    lookup (fun row => (row.publicKeyFingerprint, row.resetEpoch)) (fingerprint, resetEpoch)
        s.tables.grants =
      (s.controllers.find? fun item => item.1.1 = resetEpoch ∧
        item.2.publicKeyFingerprint = fingerprint).map Prod.snd := by
  have hKeys := h.controllerKeys
  change lookup _ _ (s.controllers.map Prod.snd) = _
  rw [lookup, List.find?_map]
  congr 1
  generalize s.controllers = items at hKeys ⊢
  induction items with
  | nil => rfl
  | cons item rest ih =>
    have hHead : item.1 = (item.2.resetEpoch, item.2.controllerId) := hKeys item List.mem_cons_self
    have hRest := ih fun other hOther => hKeys other (List.mem_cons_of_mem item hOther)
    simp only [List.find?_cons, Function.comp_apply, Prod.mk.injEq, hHead, and_comm] at hRest ⊢
    split
    · rfl
    · exact hRest

theorem grantInEpoch_tables (h : s.Keyed) (grant : ControllerGrant) (resetEpoch : Nat) :
    s.tables.grantInEpoch grant resetEpoch = s.grantInEpoch grant resetEpoch := by
  unfold Store.grantInEpoch grantInEpoch
  rewrite [grantRow?_tables h, fingerprint_tables h]
  rfl

theorem sessionIds_nodup (hTables : s.tables.Keyed) :
    (s.sessions.map fun entry => entry.1.sessionId).Nodup := by
  have hNodup : ((s.sessions.map s.sessionRow).map fun row => row.sessionId).Nodup :=
    hTables.sessions
  rwa [List.map_map] at hNodup

theorem countFirst_eq {sessionId : String}
    {entries : List (CommissioningSessionMetadata × String)}
    (hNodup : (entries.map fun entry => entry.1.sessionId).Nodup) :
    countFirst sessionId entries =
      updateWhere (fun entry => entry.1.sessionId = sessionId)
        (fun entry => ({ entry.1 with failedAttempts := entry.1.failedAttempts + 1 }, entry.2))
        entries := by
  induction entries with
  | nil => rfl
  | cons entry rest ih =>
    obtain ⟨metadata, storedHash⟩ := entry
    rw [List.map_cons, List.nodup_cons] at hNodup
    rw [countFirst]
    by_cases hId : metadata.sessionId = sessionId
    · have hRest : rest.map (fun entry => if decide (entry.1.sessionId = sessionId) then
          ({ entry.1 with failedAttempts := entry.1.failedAttempts + 1 }, entry.2) else entry) =
          rest := by
        refine (List.map_congr_left fun other hOther => ?_).trans (List.map_id rest)
        have hOtherId : other.1.sessionId ≠ sessionId := fun hSame =>
          hNodup.1 (List.mem_map.mpr ⟨other, hOther, hSame.trans hId.symm⟩)
        simp [hOtherId]
      rw [if_pos hId, updateWhere, List.map_cons, hRest]
      simp [hId]
    · rw [if_neg hId, ih hNodup.2, updateWhere, updateWhere, List.map_cons]
      simp [hId]

theorem countFailedAttempt_tables (hTables : s.tables.Keyed) (sessionId : String) :
    s.tables.countFailedAttempt sessionId =
      tables { s with sessions := countFirst sessionId s.sessions } := by
  have hSessions : (s.tables.countFailedAttempt sessionId).sessions =
      (countFirst sessionId s.sessions).map s.sessionRow := by
    rw [countFirst_eq (sessionIds_nodup hTables)]
    simp only [Store.countFailedAttempt, tables, memoryStore, updateWhere, List.map_map]
    apply List.map_congr_left
    intro entry _
    by_cases hId : entry.1.sessionId = sessionId
    · simp [sessionRow, hId]
    · simp [sessionRow, hId]
  rw [Store.countFailedAttempt] at hSessions ⊢
  exact congrArg (fun rows => { s.tables with sessions := rows }) hSessions

theorem authorize_tables (hTables : s.tables.Keyed) (sessionId secretHash now : String) :
    s.tables.authorizeCommissioningSession sessionId secretHash now =
      (s.authorizeCommissioningSession sessionId secretHash now).map id tables := by
  rw [Store.authorizeCommissioningSession, authorizeCommissioningSession, sessionRow?_tables]
  cases s.firstSession? sessionId with
  | none => rfl
  | some entry =>
    obtain ⟨metadata, storedHash⟩ := entry
    change (if metadata.isOpen now = true then _ else _) = _
    by_cases hOpen : metadata.isOpen now = true
    · by_cases hSecret : storedHash = secretHash
      · simp [hOpen, hSecret, sessionRow]
      · simp [hOpen, hSecret, sessionRow, countFailedAttempt_tables hTables]
    · simp [hOpen]

theorem consumeSession_tables (s : MemoryStore) (sessionId controllerId now : String) :
    s.tables.consumeSession sessionId controllerId now =
      (s.consumeSession sessionId controllerId now).tables := by
  have hSessions := sessions_consumeSession s sessionId controllerId now
  exact congrArg (fun rows => { s.tables with sessions := rows }) hSessions.symm

theorem controllers_set_stored (h : s.Keyed) {controllerId : String} {resetEpoch : Nat}
    {old grant : ControllerGrant} {f : ControllerGrant → ControllerGrant}
    (hStored : Dict.get s.controllers (resetEpoch, controllerId) = some old) (hWrite : f old = grant) :
    (Dict.set s.controllers (resetEpoch, controllerId) grant).map Prod.snd =
      updateWhere (fun row => (row.controllerId, row.resetEpoch) = (controllerId, resetEpoch)) f
        (s.controllers.map Prod.snd) := by
  rw [Dict.values_set_of_get_some (fun grant => (grant.resetEpoch, grant.controllerId))
    h.controllers h.controllerKeys hStored hWrite]
  simp only [updateWhere, Prod.mk.injEq, and_comm]

theorem replayClaim_tables (hTables : s.tables.Keyed) (h : s.Keyed) {sessionId claimed : String}
    {consumedAt : String} {entry : CommissioningSessionMetadata × String}
    (hClaimed : Dict.get s.sessionControllerIds sessionId = some claimed)
    (hFirst : s.firstSession? sessionId = some entry) (hConsumed : entry.1.consumedAt = some consumedAt)
    (secretHash : String) (grant : ControllerGrant) :
    s.tables.replayClaim (s.sessionRow entry) consumedAt secretHash grant =
      s.replayClaim claimed sessionId secretHash grant := by
  obtain ⟨hMem, hId⟩ := lookup_mem hFirst
  have hOnly : ∀ other ∈ s.sessions, other.1.sessionId = sessionId → other = entry :=
    fun other hOther hSame => List.inj_on_of_nodup_map (sessionIds_nodup hTables) hOther hMem
      (hSame.trans hId.symm)
  have hOwner : (s.sessionRow entry).claimedControllerId = some claimed := by
    rw [← hClaimed, ← hId]
    rfl
  have hAny : ∀ existing : ControllerGrant,
      s.sessions.any (fun entry => entry.1.sessionId = sessionId ∧ entry.2 = secretHash ∧
        entry.1.consumedAt.any fun consumedAt => decide (existing.createdAt ≤ consumedAt)) = true ↔
      entry.2 = secretHash ∧ existing.createdAt ≤ consumedAt := by
    intro existing
    rw [List.any_eq_true]
    constructor
    · rintro ⟨other, hOther, hTest⟩
      simp only [decide_eq_true_eq] at hTest
      obtain ⟨hSame, hSecret, hBefore⟩ := hTest
      rw [hOnly other hOther hSame] at hSecret hBefore
      rw [hConsumed] at hBefore
      exact ⟨hSecret, by simpa using hBefore⟩
    · rintro ⟨hSecret, hBefore⟩
      exact ⟨entry, hMem, by simp [hId, hSecret, hConsumed, hBefore]⟩
  rw [Store.replayClaim, replayClaim, hOwner]
  by_cases hSame : claimed = grant.controllerId
  · subst hSame
    rw [if_pos rfl, getController_tables h]
    cases s.getController grant.controllerId with
    | none => rfl
    | some existing =>
      simp only [hAny existing, true_and, sessionRow]
      congr
  · rw [if_neg (by simpa using hSame)]
    cases s.getController claimed with
    | none => rfl
    | some existing => simp [hSame]

theorem reviveGrant_eq (hInv : s.Indexed idOf fingerprintOf) {grant held : ControllerGrant}
    (hDerived : Derived idOf fingerprintOf grant) (hEpoch : grant.resetEpoch = s.state.resetEpoch)
    (hStored : Dict.get s.controllers (s.state.resetEpoch, grant.controllerId) = some held)
    (hPublic : held.publicKey = grant.publicKey) (hNone : grant.revokedAt = none) :
    Store.reviveGrant grant held = grant := by
  have hHeld := Dict.get_mem hStored
  have hRow : (s.state.resetEpoch, grant.controllerId) = (held.resetEpoch, held.controllerId) :=
    hInv.keyed.controllerKeys _ hHeld
  have hId : held.controllerId = grant.controllerId := (congrArg Prod.snd hRow).symm
  have hOwn : held.resetEpoch = grant.resetEpoch :=
    (congrArg Prod.fst hRow).symm.trans hEpoch.symm
  have hPrint : held.publicKeyFingerprint = grant.publicKeyFingerprint := by
    rw [(hInv.derived _ hHeld).2, hDerived.2, hPublic]
  rw [Store.reviveGrant, hPublic, hId, hOwn, hPrint, ← hNone]

theorem fingerprint_unused (hInv : s.Indexed idOf fingerprintOf) {grant : ControllerGrant}
    (hDerived : Derived idOf fingerprintOf grant)
    (hStored : Dict.get s.controllers (s.state.resetEpoch, grant.controllerId) = none)
    (hFree : s.grantInEpoch grant s.state.resetEpoch = .ok none) :
    s.tables.grants.any (fun row => (row.publicKeyFingerprint, row.resetEpoch) =
      (grant.publicKeyFingerprint, s.state.resetEpoch)) = false := by
  rw [grantInEpoch, hStored, Option.none_or, ← fingerprint_tables hInv.keyed] at hFree
  rw [List.any_eq_false]
  intro row hRow hSame
  cases hFound : lookup (fun row => (row.publicKeyFingerprint, row.resetEpoch))
      (grant.publicKeyFingerprint, s.state.resetEpoch) s.tables.grants with
  | none => exact lookup_eq_none_iff.mp hFound row hRow (by simpa using hSame)
  | some held =>
    rw [hFound] at hFree
    simp only at hFree
    split at hFree
    · cases hFree
    · rename_i hKey
      obtain ⟨hMem, hBoth⟩ := lookup_mem hFound
      obtain ⟨item, hItem, rfl⟩ := List.mem_map.mp hMem
      have hId : item.2.controllerId = grant.controllerId := by
        rw [(hInv.derived item hItem).1, hDerived.1, not_not.mp hKey]
      have hOwn : item.1 = (s.state.resetEpoch, grant.controllerId) := by
        rw [hInv.keyed.controllerKeys item hItem, hId]
        exact congrArg (fun epoch => (epoch, grant.controllerId)) (congrArg Prod.snd hBoth)
      exact Dict.get_eq_none_iff.mp hStored item hItem hOwn

theorem insertGrant_tables (hInv : s.Indexed idOf fingerprintOf) {grant : ControllerGrant}
    (hDerived : Derived idOf fingerprintOf grant) (hEpoch : grant.resetEpoch = s.state.resetEpoch)
    (hFree : s.grantInEpoch grant s.state.resetEpoch = .ok none)
    (hLive : ∀ held, s.getController grant.controllerId = some held →
      held.publicKey = grant.publicKey → held.revokedAt.isSome = true → grant.revokedAt = none) :
    s.tables.insertGrant grant = some (s.insertGrant grant).tables := by
  cases hStored : Dict.get s.controllers (s.state.resetEpoch, grant.controllerId) with
  | some held =>
    rw [grantInEpoch, hStored, Option.some_or] at hFree
    simp only at hFree
    split at hFree
    · cases hFree
    · rename_i hKey
      split at hFree
      · cases hFree
      · rename_i hRevoked
        have hPublic : held.publicKey = grant.publicKey := not_not.mp hKey
        have hNone := hLive held hStored hPublic (by
          simpa [Option.isSome_iff_ne_none] using hRevoked)
        have hSame := reviveGrant_eq hInv hDerived hEpoch hStored hPublic hNone
        have hWrite := controllers_set_stored hInv.keyed hStored hSame
        rw [Store.insertGrant, grantRow?_tables hInv.keyed, hEpoch, hStored, Option.isSome_some,
          if_pos rfl]
        exact congrArg (fun rows => some { s.tables with grants := rows }) hWrite.symm
  | none =>
    have hPrint := fingerprint_unused hInv hDerived hStored hFree
    have hWrite := Dict.values_set_of_get_none hStored grant
    rw [Store.insertGrant, grantRow?_tables hInv.keyed, hEpoch, hStored, Option.isSome_none,
      if_neg (by simp), hPrint, if_neg (by simp)]
    exact congrArg (fun rows => some { s.tables with grants := rows }) hWrite.symm

theorem completeClaim_tables (hInv : s.Indexed idOf fingerprintOf) {grant : ControllerGrant}
    (hDerived : Derived idOf fingerprintOf grant)
    (hLive : grant.resetEpoch = s.state.resetEpoch → ∀ held,
      s.getController grant.controllerId = some held → held.publicKey = grant.publicKey →
      held.revokedAt.isSome = true → grant.revokedAt = none)
    (sessionId now : String) :
    s.tables.completeClaim sessionId grant now =
      (s.completeClaim sessionId grant now).map id tables := by
  unfold Store.completeClaim completeClaim
  rw [show s.tables.state = s.state from rfl, grantInEpoch_tables hInv.keyed]
  by_cases hEpoch : grant.resetEpoch = s.state.resetEpoch
  · rw [if_neg (not_not.mpr hEpoch), if_neg (not_not.mpr hEpoch)]
    cases hHeld : s.grantInEpoch grant s.state.resetEpoch with
    | error => rfl
    | ok found =>
      cases found with
      | some held => exact congrArg (Prod.mk _) (consumeSession_tables s sessionId _ now)
      | none =>
        simp only [insertGrant_tables hInv hDerived hEpoch hHeld (hLive hEpoch)]
        rw [consumeSession_tables]
        rfl
  · rw [if_pos hEpoch, if_pos hEpoch]
    rfl

theorem unconsumed_tables (hInv : s.Indexed idOf fingerprintOf) {sessionId : String}
    (hUnclaimed : Dict.get s.sessionControllerIds sessionId = none) :
    ((s.tables.sessionRow? sessionId).bind fun row => row.consumedAt.map (row, ·)) = none := by
  rw [sessionRow?_tables]
  cases hFirst : s.firstSession? sessionId with
  | none => rfl
  | some entry =>
    obtain ⟨hMem, hId⟩ := lookup_mem hFirst
    have hNone := hInv.consumed entry hMem (by rw [← hUnclaimed]; exact congrArg _ hId)
    simp [sessionRow, hNone]

theorem claimController_tables (hTables : s.tables.Keyed) (hInv : s.Indexed idOf fingerprintOf)
    {grant : ControllerGrant} (hDerived : Derived idOf fingerprintOf grant)
    {sessionId secretHash now : String}
    (hLive : s.tables.Revives sessionId secretHash grant now → grant.revokedAt = none) :
    s.tables.claimController sessionId secretHash grant now =
      (s.claimController sessionId secretHash grant now).map id tables := by
  unfold Store.claimController claimController
  cases hClaimed : Dict.get s.sessionControllerIds sessionId with
  | some claimed =>
    obtain ⟨entry, hFirst, hConsumed⟩ := hInv.claimed sessionId (by rw [hClaimed]; rfl)
    obtain ⟨consumedAt, hTime⟩ := Option.isSome_iff_exists.mp hConsumed
    have hRow : ((s.tables.sessionRow? sessionId).bind fun row => row.consumedAt.map (row, ·)) =
        some (s.sessionRow entry, consumedAt) := by
      rw [sessionRow?_tables, hFirst]
      simp [sessionRow, hTime]
    rw [hRow]
    simp only
    rw [replayClaim_tables hTables hInv.keyed hClaimed hFirst hTime]
    rfl
  | none =>
    rw [unconsumed_tables hInv hClaimed]
    simp only
    rw [authorize_tables hTables]
    rcases authorize_cases sessionId secretHash now s with ⟨metadata, hFirst, hOpen, hEq⟩ | hEq | hEq
    · rw [hEq]
      refine completeClaim_tables hInv hDerived (fun hEpoch held hHeld hKey hRevoked => ?_) sessionId now
      refine hLive ⟨⟨s.sessionRow (metadata, secretHash), ?_, hOpen, rfl⟩, hEpoch, held, ?_, hKey,
        hRevoked⟩
      · rw [sessionRow?_tables, hFirst]
        rfl
      · rw [getController_tables hInv.keyed]
        exact hHeld
    · rw [hEq]
      rfl
    · rw [hEq]
      rfl

theorem revokeController_tables (h : s.Keyed) (controllerId now : String) :
    s.tables.revokeController controllerId now =
      (s.revokeController controllerId now).map id tables := by
  unfold Store.revokeController revokeController
  have hActive : s.tables.activeGrants = s.activeGrants := rfl
  rw [hActive]
  cases hFound : s.activeGrants.find? fun grant => grant.controllerId = controllerId with
  | none => rfl
  | some target =>
    simp only
    change (if s.activeGrants.length = 1 then _ else _) = _
    by_cases hLast : s.activeGrants.length = 1
    · rw [if_pos hLast, if_pos hLast]
      rfl
    · rw [if_neg hLast, if_neg hLast]
      obtain ⟨⟨item, hItem, hSame⟩, _, hEpoch⟩ := mem_activeGrants.mp (List.mem_of_find?_eq_some hFound)
      have hId : target.controllerId = controllerId := by simpa using List.find?_some hFound
      have hStored : Dict.get s.controllers (s.state.resetEpoch, controllerId) = some target := by
        rw [Dict.get_eq_some_iff h.controllers, ← hEpoch, ← hId, ← hSame,
          ← h.controllerKeys item hItem]
        exact hItem
      have hWrite := controllers_set_stored (f := fun row => { row with revokedAt := some now }) h
        hStored rfl
      exact congrArg (fun rows => (_, { s.tables with grants := rows })) hWrite.symm

theorem createOperation_tables (h : ∀ item ∈ s.operations, item.1 = item.2.operationId)
    (operation : BootstrapOperation) :
    s.tables.createOperation operation = (s.createOperation operation).map id tables := by
  unfold Store.createOperation createOperation
  rw [getOperation_tables h]
  cases hStored : Dict.get s.operations operation.operationId with
  | some current =>
    simp only
    split
    · rfl
    · rfl
  | none =>
    have hActive : (s.tables.operations.any fun row => row.state.active) =
        s.operations.any fun item => item.2.state.active := by
      change (s.operations.map Prod.snd).any _ = _
      rw [List.any_map]
      rfl
    simp only [hActive]
    change (if operation.resetEpoch ≠ s.state.resetEpoch then _ else _) = _
    split
    · rfl
    · split
      · rfl
      · have hWrite := Dict.values_set_of_get_none hStored operation
        exact congrArg (fun rows => (_, { s.tables with operations := rows })) hWrite.symm

theorem updateOperation_tables (hTables : s.tables.Keyed)
    (h : ∀ item ∈ s.operations, item.1 = item.2.operationId) (operationId : String)
    (state : BootstrapOperationState) (networkState : NetworkState) (updatedAt : String)
    (errorCode : Option String) :
    s.tables.updateOperation operationId state networkState updatedAt errorCode =
      (s.updateOperation operationId state networkState updatedAt errorCode).map id tables := by
  have hUnique : (s.operations.map Prod.fst).Nodup := by
    have hNodup : ((s.operations.map Prod.snd).map fun row => row.operationId).Nodup :=
      hTables.operations
    rw [List.map_map] at hNodup
    rwa [List.map_congr_left fun item hItem => h item hItem]
  unfold Store.updateOperation updateOperation
  rw [getOperation_tables h]
  cases hStored : Dict.get s.operations operationId with
  | none => rfl
  | some current =>
    have hWrite := Dict.values_set_of_get_some BootstrapOperation.operationId hUnique h hStored
      (f := Store.writeOperation state updatedAt errorCode) rfl
    exact congrArg (fun rows => (_, ({ s.tables with operations := rows } : Store).setNetworkState
      networkState updatedAt)) hWrite.symm

theorem failActive_tables (operations : List (String × BootstrapOperation)) (now errorCode : String) :
    Store.failActive now errorCode (operations.map Prod.snd) =
      (failActive now errorCode operations).map Prod.snd := by
  simp only [Store.failActive, failActive, updateWhere, List.map_map]
  apply List.map_congr_left
  intro item _
  simp only [Function.comp_apply]
  split
  · rfl
  · rfl

theorem failInterrupted_tables (s : MemoryStore) (now : String) :
    s.tables.failInterruptedOperations now = (s.failInterruptedOperations now).map id tables := by
  have hCount : (s.tables.operations.filter fun row => row.state.active).length =
      (s.operations.filter fun item => item.2.state.active).length := by
    change ((s.operations.map Prod.snd).filter _).length = _
    rw [List.filter_map, List.length_map]
    rfl
  have hFailed := failActive_tables s.operations now "daemon_restarted"
  simp only [Store.failInterruptedOperations, failInterruptedOperations, hCount]
  split
  · exact congrArg (fun rows => (_, { s.tables with operations := rows })) hFailed
  · exact congrArg (fun rows => (_, ({ s.tables with operations := rows } : Store).setNetworkState
      .degraded now)) hFailed

theorem unclaimed_of_fresh (h : s.ClaimedSpent) {sessionId : String}
    (hFresh : s.tables.sessionRow? sessionId = none) :
    Dict.get s.sessionControllerIds sessionId = none := by
  rw [sessionRow?_tables, Option.map_eq_none_iff] at hFresh
  cases hClaimed : Dict.get s.sessionControllerIds sessionId with
  | none => rfl
  | some claimed =>
    obtain ⟨entry, hFirst, _⟩ := h sessionId (by rw [hClaimed]; rfl)
    rw [hFresh] at hFirst
    cases hFirst

theorem addSession_tables (h : s.ClaimedSpent) (metadata : CommissioningSessionMetadata)
    (hFresh : s.tables.sessionRow? metadata.sessionId = none) (secretHash now : String) :
    Store.revokeUnspent now s.tables.sessions ++
        [({ toCommissioningSessionMetadata := metadata, secretHash } : SessionRow)] =
      (revokeUnspent now s.sessions ++ [(metadata, secretHash)]).map s.sessionRow := by
  rw [List.map_append, map_sessionRow_revokeUnspent, List.map_singleton, sessionRow,
    unclaimed_of_fresh h hFresh]
  rfl

theorem issue_tables (h : s.ClaimedSpent) {sessionId : String}
    (hFresh : s.tables.sessionRow? sessionId = none) (secretHash createdAt : String)
    (expiresAt : Option String) :
    s.tables.issueCommissioningSession sessionId secretHash createdAt expiresAt =
      (.ok (), (s.issueCommissioningSession sessionId secretHash createdAt expiresAt).tables) := by
  rw [Store.issueCommissioningSession, hFresh, if_neg (by simp)]
  have hAdded := addSession_tables h { sessionId, createdAt, expiresAt } hFresh
    secretHash createdAt
  exact congrArg (fun rows => (Except.ok (), { s.tables with sessions := rows })) hAdded

theorem withdrawGrants_tables (controllers : List ((Nat × String) × ControllerGrant)) (now : String) :
    updateWhere (fun row => row.revokedAt.isNone) (fun row => { row with revokedAt := some now })
        (controllers.map Prod.snd) =
      (updateWhere (fun item => item.2.revokedAt.isNone)
        (fun item => (item.1, { item.2 with revokedAt := some now })) controllers).map Prod.snd := by
  simp only [updateWhere, List.map_map]
  apply List.map_congr_left
  intro item _
  simp only [Function.comp_apply]
  split
  · rfl
  · rfl

theorem resetAuthority_tables (h : s.ClaimedSpent)
    {recoverySession : Option CommissioningSessionSeed}
    (hFresh : ∀ seed, recoverySession = some seed → s.tables.sessionRow? seed.sessionId = none)
    (networkState : NetworkState) (now : String) :
    s.tables.resetAuthority networkState now recoverySession =
      (.ok (s.resetAuthority networkState now recoverySession).1,
        (s.resetAuthority networkState now recoverySession).2.tables) := by
  have hGrants := withdrawGrants_tables s.controllers now
  have hOperations := failActive_tables s.operations now "authority_reset"
  have hTables : ∀ rows, { s.tables.withdrawAuthority networkState now with sessions := rows } =
      { (s.resetAuthority networkState now recoverySession).2.tables with sessions := rows } := by
    intro rows
    simp only [Store.withdrawAuthority, resetAuthority, tables, memoryStore]
    rw [hGrants, hOperations]
  cases recoverySession with
  | none =>
    have hSessions : Store.revokeUnspent now s.tables.sessions =
        (revokeUnspent now s.sessions ++ []).map s.sessionRow := by
      rw [List.append_nil, map_sessionRow_revokeUnspent]
      rfl
    refine congrArg (Prod.mk _) ((hTables _).trans ?_)
    exact congrArg
      (fun rows => { (s.resetAuthority networkState now none).2.tables with sessions := rows })
      hSessions
  | some seed =>
    have hNew := hFresh seed rfl
    have hSessions := addSession_tables h
      { sessionId := seed.sessionId, createdAt := now, expiresAt := seed.expiresAt }
      hNew seed.secretHash now
    rw [Store.resetAuthority]
    simp only [hNew, Option.isSome_none]
    refine congrArg (Prod.mk _) ((hTables _).trans ?_)
    exact congrArg
      (fun rows => { (s.resetAuthority networkState now (some seed)).2.tables with sessions := rows })
      hSessions

def offered : StoreCall → Option ControllerGrant
  | .claimController _ _ grant _ => some grant
  | _ => none

theorem perform_tables (hTables : s.tables.Keyed) (hInv : s.Indexed idOf fingerprintOf)
    {call : StoreCall} (hDerived : ∀ grant, offered call = some grant → Derived idOf fingerprintOf grant)
    (hDistinct : s.tables.Distinct call) :
    s.tables.perform call = (s.perform call).map id tables := by
  cases call with
  | issueCommissioningSession sessionId secretHash createdAt expiresAt =>
    simp only [Store.perform, perform, issue_tables hInv.claimed hDistinct]
    rfl
  | authorizeCommissioningSession sessionId secretHash now =>
    simp only [Store.perform, perform, authorize_tables hTables]
    rfl
  | claimController sessionId secretHash grant now =>
    simp only [Store.perform, perform, claimController_tables hTables hInv (hDerived grant rfl) hDistinct]
    rfl
  | revokeController controllerId now =>
    simp only [Store.perform, perform, revokeController_tables hInv.keyed]
    rfl
  | createOperation operation =>
    simp only [Store.perform, perform, createOperation_tables hInv.operationKeys]
    rfl
  | updateOperation operationId state networkState updatedAt errorCode =>
    simp only [Store.perform, perform, updateOperation_tables hTables hInv.operationKeys]
    rfl
  | failInterruptedOperations now =>
    simp only [Store.perform, perform, failInterrupted_tables]
    rfl
  | reconcileNetworkState networkState now =>
    simp only [Store.perform, perform, Store.reconcileNetworkState, reconcileNetworkState]
    split
    · rfl
    · rfl
  | resetAuthority networkState now recoverySession =>
    have hFresh : ∀ seed, recoverySession = some seed →
        s.tables.sessionRow? seed.sessionId = none := by
      rintro seed rfl
      exact hDistinct
    simp only [Store.perform, perform, resetAuthority_tables hInv.claimed hFresh]
    rfl

end Tables

section Runs

variable {s t : MemoryStore} {idOf fingerprintOf : String → String} {call : StoreCall}

theorem operationKeys_effect (hEffect : Effect s call t)
    (h : ∀ item ∈ s.operations, item.1 = item.2.operationId) :
    ∀ item ∈ t.operations, item.1 = item.2.operationId := by
  have hFail : ∀ now errorCode, ∀ item ∈ failActive now errorCode s.operations,
      item.1 = item.2.operationId := fun _ _ => forall_updateWhere h fun _ hItem => hItem
  cases hEffect with
  | refused | issued | counted | resumed | claimed | revoked | reconciled => exact h
  | created =>
    intro item hItem
    rcases Dict.mem_set.mp hItem with rfl | ⟨hOld, _⟩
    · rfl
    · exact h item hOld
  | updated hFound =>
    intro item hItem
    rcases Dict.mem_set.mp hItem with rfl | ⟨hOld, _⟩
    · have hKey := h _ (Dict.get_mem hFound)
      exact hKey
    · exact h item hOld
  | interrupted => exact hFail _ _
  | reset => exact hFail _ _

theorem derived_effect (hEffect : Effect s call t)
    (hCall : ∀ grant, offered call = some grant → Derived idOf fingerprintOf grant)
    (h : ∀ item ∈ s.controllers, Derived idOf fingerprintOf item.2) :
    ∀ item ∈ t.controllers, Derived idOf fingerprintOf item.2 := by
  cases hEffect with
  | refused | issued | counted | resumed | created | updated | interrupted | reconciled => exact h
  | claimed =>
    intro item hItem
    rcases Dict.mem_set.mp hItem with rfl | ⟨hOld, _⟩
    · exact hCall _ rfl
    · exact h item hOld
  | revoked hTarget =>
    intro item hItem
    rcases Dict.mem_set.mp hItem with rfl | ⟨hOld, _⟩
    · obtain ⟨⟨stored, hStored, rfl⟩, _⟩ := mem_activeGrants.mp hTarget
      exact h stored hStored
    · exact h item hOld
  | reset => exact forall_updateWhere h fun _ hItem => hItem

theorem indexed_create (now : String) : (create now).Indexed idOf fingerprintOf where
  keyed := keyed_create now
  operationKeys item hItem := absurd hItem List.not_mem_nil
  claimed _ hClaimed := by cases hClaimed
  consumed entry hEntry := absurd hEntry List.not_mem_nil
  derived item hItem := absurd hItem List.not_mem_nil

theorem indexed_apply (hInv : s.Indexed idOf fingerprintOf)
    (hCall : ∀ grant, offered call = some grant → Derived idOf fingerprintOf grant) :
    (s.apply call).Indexed idOf fingerprintOf := by
  have hEffect := apply_effect hInv.keyed.controllerKeys call
  exact ⟨keyed_effect hEffect hInv.keyed, operationKeys_effect hEffect hInv.operationKeys,
    claimedSpent_effect hEffect hInv.claimed, consumedClaimed_effect hEffect hInv.consumed,
    derived_effect hEffect hCall hInv.derived⟩

end Runs

end MemoryStore

section Divergence

variable {s : MemoryStore} {idOf fingerprintOf : String → String}
  {sessionId secretHash now : String} {grant : ControllerGrant}

theorem Store.getController_revived {s : Store}
    (h : s.Revives sessionId secretHash grant now) :
    ∃ stored, (s.apply (.claimController sessionId secretHash grant now)).getController
      grant.controllerId = some stored ∧ stored.revokedAt = none := by
  obtain ⟨⟨row, hRow, hOpen, hSecret⟩, hEpoch, held, hHeld, hKey, hRevoked⟩ := h
  have hUnspent := CommissioningSessionMetadata.unspent_of_isOpen hOpen
  have hUnconsumed := (CommissioningSessionMetadata.unspent_iff.mp hUnspent).1
  have hStored : s.grantRow? grant.controllerId grant.resetEpoch = some held := by
    rw [hEpoch]
    exact hHeld
  have hFree : s.grantInEpoch grant s.state.resetEpoch = .ok none := by
    rw [Store.grantInEpoch, ← hEpoch, hStored]
    obtain ⟨time, hTime⟩ := Option.isSome_iff_exists.mp hRevoked
    simp [hKey, hTime]
  have hInsert : s.insertGrant grant = some { s with
      grants := updateWhere
        (fun row => (row.controllerId, row.resetEpoch) = (grant.controllerId, grant.resetEpoch))
        (Store.reviveGrant grant) s.grants } := by
    rw [Store.insertGrant, hStored]
    rfl
  have hNext : s.apply (.claimController sessionId secretHash grant now) =
      (({ s with
        grants := updateWhere
          (fun row => (row.controllerId, row.resetEpoch) = (grant.controllerId, grant.resetEpoch))
          (Store.reviveGrant grant) s.grants } : Store).consumeSession sessionId grant.controllerId
        now).setClaimed now := by
    simp [Store.apply, Store.perform, Store.claimController, hRow, hUnconsumed,
      Store.authorizeCommissioningSession, hOpen, hSecret, Store.completeClaim, hEpoch, hFree,
      hInsert]
  refine ⟨Store.reviveGrant grant held, ?_, rfl⟩
  rw [hNext]
  have hFound : lookup (fun row => (row.controllerId, row.resetEpoch))
      (grant.controllerId, s.state.resetEpoch) s.grants = some held := hHeld
  have hRowKey : (held.controllerId, held.resetEpoch) = (grant.controllerId, grant.resetEpoch) :=
    (lookup_mem hStored).2
  change lookup (fun row => (row.controllerId, row.resetEpoch))
    (grant.controllerId, s.state.resetEpoch) (updateWhere _ _ s.grants) = _
  rw [lookup_updateWhere, hFound]
  · rw [Option.map_some, if_pos (decide_eq_true hRowKey)]
  · exact fun _ => rfl

theorem MemoryStore.getController_revived (hInv : s.Indexed idOf fingerprintOf)
    (h : s.tables.Revives sessionId secretHash grant now) :
    (s.apply (.claimController sessionId secretHash grant now)).getController
      grant.controllerId = some grant := by
  obtain ⟨⟨row, hRow, hOpen, hSecret⟩, hEpoch, held, hHeld, hKey, hRevoked⟩ := h
  rw [sessionRow?_tables] at hRow
  obtain ⟨⟨metadata, storedHash⟩, hFirst, rfl⟩ := Option.map_eq_some_iff.mp hRow
  have hMetadata : metadata.isOpen now = true := hOpen
  have hUnspent := CommissioningSessionMetadata.unspent_of_isOpen hMetadata
  have hUnclaimed : Dict.get s.sessionControllerIds sessionId = none := by
    cases hClaimed : Dict.get s.sessionControllerIds sessionId with
    | none => rfl
    | some claimed =>
      obtain ⟨entry, hEntry, hConsumed⟩ := hInv.claimed sessionId (by rw [hClaimed]; rfl)
      rw [hFirst] at hEntry
      cases hEntry
      rw [(CommissioningSessionMetadata.unspent_iff.mp hUnspent).1] at hConsumed
      cases hConsumed
  have hFree : s.grantInEpoch grant s.state.resetEpoch = .ok none := by
    rw [getController_tables hInv.keyed, getController] at hHeld
    rw [grantInEpoch, hHeld]
    obtain ⟨time, hTime⟩ := Option.isSome_iff_exists.mp hRevoked
    simp [hKey, hTime]
  have hAccepted : storedHash = secretHash := hSecret
  have hCurrent : grant.resetEpoch = s.state.resetEpoch := hEpoch
  have hNext : s.apply (.claimController sessionId secretHash grant now) =
      ((s.insertGrant grant).consumeSession sessionId grant.controllerId now).setClaimed now := by
    simp [apply, perform, claimController, hUnclaimed, authorizeCommissioningSession, hFirst,
      hMetadata, hAccepted, completeClaim, hCurrent, hFree]
  rw [hNext]
  change Dict.get (Dict.set s.controllers (s.state.resetEpoch, grant.controllerId) grant)
    (s.state.resetEpoch, grant.controllerId) = _
  rw [Dict.get_set, if_pos rfl]

/-- Outside the guard the two adapters part: in what they return, or in the grant
they hold. -/
theorem distinct_of_same (hInv : s.Indexed idOf fingerprintOf) {call : StoreCall}
    (hNext : (s.apply call).Keyed) (hResult : (s.tables.perform call).1 = (s.perform call).1)
    (hTables : s.tables.apply call = (s.apply call).tables) : s.tables.Distinct call := by
  cases call with
  | issueCommissioningSession sessionId secretHash createdAt expiresAt =>
    cases hRow : s.tables.sessionRow? sessionId with
    | none => exact hRow
    | some row => simp [Store.perform, Store.issueCommissioningSession, hRow, MemoryStore.perform,
        Except.map] at hResult
  | claimController sessionId secretHash grant now =>
    intro hRevives
    obtain ⟨stored, hStored, hLive⟩ := Store.getController_revived hRevives
    have hHeld := MemoryStore.getController_revived hInv hRevives
    rw [hTables, MemoryStore.getController_tables hNext, hHeld] at hStored
    cases hStored
    exact hLive
  | resetAuthority networkState now recoverySession =>
    cases recoverySession with
    | none => trivial
    | some seed =>
      cases hRow : s.tables.sessionRow? seed.sessionId with
      | none => exact hRow
      | some row => simp [Store.perform, Store.resetAuthority, hRow, MemoryStore.perform,
          Except.map] at hResult
  | authorizeCommissioningSession | revokeController | createOperation | updateOperation
  | failInterruptedOperations | reconcileNetworkState => trivial

end Divergence

/-! ## Readers -/

def StoreCall.time : StoreCall → String
  | .issueCommissioningSession _ _ createdAt _ => createdAt
  | .authorizeCommissioningSession _ _ now => now
  | .claimController _ _ _ now => now
  | .revokeController _ now => now
  | .createOperation operation => operation.updatedAt
  | .updateOperation _ _ _ updatedAt _ => updatedAt
  | .failInterruptedOperations now => now
  | .reconcileNetworkState _ now => now
  | .resetAuthority _ now _ => now

/-- Times increase from call to call, and grants offered with one creation time
are one Controller's grant of one epoch. -/
structure Stamped (calls : List StoreCall) : Prop where
  increasing : calls.Pairwise fun earlier later => earlier.time < later.time
  grants : ∀ first ∈ calls, ∀ second ∈ calls, ∀ grant other,
    MemoryStore.offered first = some grant → MemoryStore.offered second = some other →
    grant.createdAt = other.createdAt →
      grant.controllerId = other.controllerId ∧ grant.resetEpoch = other.resetEpoch

theorem Stamped.of_append {calls more : List StoreCall} (h : Stamped (calls ++ more)) :
    Stamped calls where
  increasing := (List.pairwise_append.mp h.increasing).1
  grants first hFirst second hSecond := h.grants first (List.mem_append_left more hFirst) second
    (List.mem_append_left more hSecond)

structure Recorded (calls : List StoreCall) (s : Store) : Prop where
  sessions : (s.sessions.map fun row => row.createdAt).Sublist (calls.map StoreCall.time)
  grants : ∀ row ∈ s.grants, ∃ call ∈ calls, ∃ grant, MemoryStore.offered call = some grant ∧
    grant.createdAt = row.createdAt ∧ grant.controllerId = row.controllerId ∧
    grant.resetEpoch = row.resetEpoch

namespace Store

variable {s t : Store} {calls : List StoreCall} {call : StoreCall}

theorem sessionTimes_effect (hEffect : Effect s call t) :
    (t.sessions.map fun row => row.createdAt).Sublist
      ((s.sessions.map fun row => row.createdAt) ++ [call.time]) := by
  have hKept : t.sessions.map (fun row => row.createdAt) = s.sessions.map (fun row => row.createdAt) →
      (t.sessions.map fun row => row.createdAt).Sublist
        ((s.sessions.map fun row => row.createdAt) ++ [call.time]) := by
    intro hSame
    rw [hSame]
    exact List.sublist_append_left _ _
  have hRevoked : ∀ now, (revokeUnspent now s.sessions).map (fun row => row.createdAt) =
      s.sessions.map fun row => row.createdAt := fun now => map_updateWhere _ fun _ => rfl
  cases hEffect with
  | refused | revoked | created | updated | interrupted | reconciled => exact hKept rfl
  | counted => exact hKept (map_updateWhere _ fun _ => rfl)
  | resumed => exact hKept (map_updateWhere _ fun _ => rfl)
  | claimed _ _ _ _ hInsert =>
    rw [insertGrant_frame hInsert] at hKept ⊢
    exact hKept (map_updateWhere _ fun _ => rfl)
  | reset => exact hKept (hRevoked _)
  | issued =>
    rw [List.map_append, hRevoked]
    exact List.Sublist.refl _
  | recovered =>
    rw [List.map_append, hRevoked]
    exact List.Sublist.refl _

theorem recorded_effect (hEffect : Effect s call t) (h : Recorded calls s) :
    Recorded (calls ++ [call]) t := by
  have hOld : ∀ row ∈ s.grants, ∃ given ∈ calls ++ [call], ∃ grant,
      MemoryStore.offered given = some grant ∧ grant.createdAt = row.createdAt ∧
      grant.controllerId = row.controllerId ∧ grant.resetEpoch = row.resetEpoch := by
    intro row hRow
    obtain ⟨given, hGiven, hGrant⟩ := h.grants row hRow
    exact ⟨given, List.mem_append_left _ hGiven, hGrant⟩
  refine ⟨?_, ?_⟩
  · rw [List.map_append]
    exact (sessionTimes_effect hEffect).trans (h.sessions.append_right _)
  · cases hEffect with
    | refused | issued | counted | resumed | created | updated | interrupted | reconciled =>
      exact hOld
    | revoked => exact forall_updateWhere hOld fun _ hRow => hRow
    | reset => exact forall_updateWhere hOld fun _ hRow => hRow
    | recovered => exact forall_updateWhere hOld fun _ hRow => hRow
    | @claimed sessionId secretHash now grant _ _ _ _ _ _ hInsert =>
      have hNew : ∀ row : ControllerGrant, row.createdAt = grant.createdAt →
          row.controllerId = grant.controllerId → row.resetEpoch = grant.resetEpoch →
          ∃ given ∈ calls ++ [.claimController sessionId secretHash grant now], ∃ offer,
            MemoryStore.offered given = some offer ∧ offer.createdAt = row.createdAt ∧
            offer.controllerId = row.controllerId ∧ offer.resetEpoch = row.resetEpoch :=
        fun row hTime hId hEpoch => ⟨_, List.mem_append_right _ (List.mem_singleton.mpr rfl), grant,
          rfl, hTime.symm, hId.symm, hEpoch.symm⟩
      rcases insertGrant_cases hInsert with ⟨_, rfl⟩ | ⟨_, _, rfl⟩
      · intro row hRow
        obtain ⟨old, hStored, rfl⟩ := mem_updateWhere.mp hRow
        split
        · rename_i hKey
          have hBoth : (old.controllerId, old.resetEpoch) = (grant.controllerId, grant.resetEpoch) :=
            by simpa using hKey
          exact hNew _ rfl (congrArg Prod.fst hBoth) (congrArg Prod.snd hBoth)
        · exact hOld old hStored
      · intro row hRow
        rcases List.mem_append.mp hRow with hStored | hAdded
        · exact hOld row hStored
        · rw [List.mem_singleton.mp hAdded]
          exact hNew grant rfl rfl rfl

theorem recorded_after (now : String) (calls : List StoreCall) :
    Recorded calls (sqliteStore.after now calls) := by
  induction calls using List.reverseRecOn with
  | nil => exact ⟨List.Sublist.refl _, fun row hRow => absurd hRow List.not_mem_nil⟩
  | append_singleton calls call ih =>
    rw [StateStore.after, run_append]
    exact recorded_effect (apply_effect _ call) ih

end Store

structure Agree (s : Store) (m : MemoryStore) : Prop where
  state : s.state = m.state
  sessions : s.sessions = memoryStore.sessions m
  grants : s.grants = memoryStore.grants m
  operations : s.operations = memoryStore.operations m
  latestSession : s.latestCommissioningSession = m.latestCommissioningSession
  controller : ∀ controllerId, s.getController controllerId = m.getController controllerId
  controllers : s.listControllersByCreation = m.listControllersByCreation
  operation : ∀ operationId, s.getOperation operationId = m.getOperation operationId

theorem Agree.eq_tables {s : Store} {m : MemoryStore} (h : Agree s m) : s = m.tables := by
  obtain ⟨state, sessions, grants, operations⟩ := s
  obtain ⟨hState, hSessions, hGrants, hOperations, _⟩ := h
  simp only at hState hSessions hGrants hOperations
  subst hState hSessions hGrants hOperations
  rfl

theorem pairwise_insertionSort_key {κ : Type} [LinearOrder κ] (key : ControllerGrant → κ)
    (rows : List ControllerGrant) :
    (rows.insertionSort fun a b => key a ≤ key b).Pairwise fun a b => key a ≤ key b := by
  have hTotal : Std.Total fun a b : ControllerGrant => key a ≤ key b :=
    ⟨fun a b => le_total (key a) (key b)⟩
  have hTrans : IsTrans ControllerGrant fun a b => key a ≤ key b :=
    ⟨fun a b c hLeft hRight => hLeft.trans hRight⟩
  exact List.pairwise_insertionSort _ rows

namespace MemoryStore

variable {m : MemoryStore} {calls : List StoreCall}

theorem listControllersByCreation_tables
    (hTimes : ∀ a ∈ m.tables.grants, ∀ b ∈ m.tables.grants, a.createdAt = b.createdAt → a = b) :
    m.tables.listControllersByCreation = m.listControllersByCreation := by
  have hLeft := pairwise_insertionSort_key
    (fun grant => toLex (grant.createdAt, grant.controllerId)) m.tables.grants
  have hRight := pairwise_insertionSort_key
    (fun grant => toLex (grant.createdAt, toLex (grant.resetEpoch, grant.controllerId)))
    m.tables.grants
  have hLeftTimes : m.tables.listControllersByCreation.Pairwise fun a b => a.createdAt ≤ b.createdAt :=
    hLeft.imp fun h => Prod.Lex.monotone_fst _ _ h
  have hRightTimes : m.listControllersByCreation.Pairwise fun a b => a.createdAt ≤ b.createdAt :=
    hRight.imp fun h => Prod.Lex.monotone_fst _ _ h
  refine List.Perm.eq_of_pairwise ?_ hLeftTimes hRightTimes
    ((List.perm_insertionSort _ _).trans (List.perm_insertionSort _ _).symm)
  intro a b hA hB hLe hGe
  have hFirst : a ∈ m.tables.grants := (List.mem_insertionSort _).mp hA
  have hSecond : b ∈ m.tables.grants := (List.mem_insertionSort _).mp hB
  exact hTimes a hFirst b hSecond (le_antisymm hLe hGe)

theorem latestSession_tables (hKeyed : m.tables.Keyed)
    (hTimes : (m.tables.sessions.map fun row => row.createdAt).Pairwise (· < ·)) :
    m.tables.latestCommissioningSession = m.latestCommissioningSession := by
  rcases List.eq_nil_or_concat m.sessions with hNone | ⟨earlier, last, hSplit⟩
  · rw [latestCommissioningSession, hNone, Store.latestCommissioningSession]
    simp [tables, memoryStore, hNone]
  · have hRows : m.tables.sessions = earlier.map m.sessionRow ++ [m.sessionRow last] := by
      change m.sessions.map m.sessionRow = _
      rw [hSplit, List.concat_eq_append, List.map_append]
      rfl
    rw [hRows, List.map_append, List.pairwise_append] at hTimes
    have hLast : ∀ old ∈ m.tables.sessions, Store.sortKey old ≤ Store.sortKey (m.sessionRow last) := by
      intro old hOld
      rw [hRows] at hOld
      rcases List.mem_append.mp hOld with hEarlier | hSame
      · have hBefore := hTimes.2.2 old.createdAt (List.mem_map.mpr ⟨old, hEarlier, rfl⟩)
          (m.sessionRow last).createdAt (by simp)
        exact le_of_lt (Prod.Lex.toLex_lt_toLex.mpr (.inl hBefore))
      · rw [List.mem_singleton.mp hSame]
    rw [Store.latest_eq hKeyed (by rw [hRows]; simp) hLast, latestCommissioningSession, hSplit]
    simp [sessionRow]

theorem agree_tables {idOf fingerprintOf : String → String} (hInv : m.Indexed idOf fingerprintOf)
    (hKeyed : m.tables.Keyed) (hStamped : Stamped calls) (hRecorded : Recorded calls m.tables) :
    Agree m.tables m where
  state := rfl
  sessions := rfl
  grants := rfl
  operations := rfl
  latestSession := by
    refine latestSession_tables hKeyed (List.Pairwise.sublist hRecorded.sessions ?_)
    exact List.pairwise_map.mpr hStamped.increasing
  controller := getController_tables hInv.keyed
  controllers := by
    refine listControllersByCreation_tables fun a hA b hB hTime => ?_
    obtain ⟨first, hFirst, grant, hGrant, hCreated, hId, hEpoch⟩ := hRecorded.grants a hA
    obtain ⟨second, hSecond, other, hOther, hCreated', hId', hEpoch'⟩ := hRecorded.grants b hB
    have hSame := hStamped.grants first hFirst second hSecond grant other hGrant hOther
      (hCreated.trans (hTime.trans hCreated'.symm))
    refine List.inj_on_of_nodup_map hKeyed.grants hA hB (Prod.ext ?_ ?_)
    · exact hId.symm.trans (hSame.1.trans hId')
    · exact hEpoch.symm.trans (hSame.2.trans hEpoch')
  operation := getOperation_tables hInv.operationKeys

end MemoryStore

/-! ## Runs -/

/-- Along the run the adapters agree before and after every call, and every call
returns or raises the same in both. -/
def AdaptersAgree (now : String) (calls : List StoreCall) : Prop :=
  ∀ before after, calls = before ++ after →
    Agree (sqliteStore.after now before) (memoryStore.after now before) ∧
    ∀ call rest, after = call :: rest →
      (sqliteStore.perform (sqliteStore.after now before) call).1 =
        (memoryStore.perform (memoryStore.after now before) call).1

section Runs

variable {idOf fingerprintOf : String → String} {calls : List StoreCall}

theorem indexed_after (now : String) (hDerived : ∀ call ∈ calls, ∀ grant,
      MemoryStore.offered call = some grant → MemoryStore.Derived idOf fingerprintOf grant) :
    MemoryStore.Indexed idOf fingerprintOf (memoryStore.after now calls) := by
  have hMeets : Meets MemoryStore.apply (fun _ call => ∀ grant,
      MemoryStore.offered call = some grant → MemoryStore.Derived idOf fingerprintOf grant)
      (MemoryStore.create now) calls := Meets.of_mem _ hDerived
  refine Meets.run_invariant ?_ (MemoryStore.indexed_create now) hMeets
  exact fun s call hCall hInv => MemoryStore.indexed_apply hInv hCall

theorem after_eq_tables (now : String) (hDerived : ∀ call ∈ calls, ∀ grant,
      MemoryStore.offered call = some grant → MemoryStore.Derived idOf fingerprintOf grant)
    (hMeets : Meets Store.apply Store.Distinct (Store.create now) calls) :
    sqliteStore.after now calls = (memoryStore.after now calls).tables := by
  induction calls using List.reverseRecOn with
  | nil => rfl
  | append_singleton calls call ih =>
    rw [meets_append] at hMeets
    have hBefore := ih (fun given hGiven => hDerived given (List.mem_append_left _ hGiven)) hMeets.1
    have hIndexed := indexed_after now fun given hGiven =>
      hDerived given (List.mem_append_left [call] hGiven)
    have hKeyed : Store.Keyed (sqliteStore.after now calls) :=
      run_invariant Store.keyed_apply (Store.keyed_create now) calls
    have hDistinct : Store.Distinct (sqliteStore.after now calls) call := hMeets.2.1
    rw [hBefore] at hKeyed hDistinct
    have hStep := MemoryStore.perform_tables hKeyed hIndexed
      (hDerived call (List.mem_append_right _ (List.mem_singleton.mpr rfl))) hDistinct
    have hSqlite : sqliteStore.after now (calls ++ [call]) =
        Store.apply (sqliteStore.after now calls) call := run_append _ _ calls [call]
    have hMemory : memoryStore.after now (calls ++ [call]) =
        MemoryStore.apply (memoryStore.after now calls) call := run_append _ _ calls [call]
    rw [hSqlite, hMemory, hBefore]
    exact congrArg Prod.snd hStep

/-- For every sequence of calls with increasing times and with grants named by
their keys, the two adapters agree all along if and only if every new window has an
id that is not stored yet and a grant that revives a revoked one is not itself
revoked. -/
theorem adapters_agree_iff (idOf fingerprintOf : String → String) (now : String)
    (calls : List StoreCall) (hStamped : Stamped calls)
    (hDerived : ∀ call ∈ calls, ∀ grant, MemoryStore.offered call = some grant →
      MemoryStore.Derived idOf fingerprintOf grant) :
    AdaptersAgree now calls ↔ Meets Store.apply Store.Distinct (Store.create now) calls := by
  have hIndexed : ∀ before after, calls = before ++ after →
      MemoryStore.Indexed idOf fingerprintOf (memoryStore.after now before) := by
    rintro before after rfl
    exact indexed_after now fun given hGiven => hDerived given (List.mem_append_left after hGiven)
  have hKeyed : ∀ before, Store.Keyed (sqliteStore.after now before) := fun before =>
    run_invariant Store.keyed_apply (Store.keyed_create now) before
  constructor
  · intro hAgree
    rw [meets_iff]
    intro before call after hSplit
    obtain ⟨hHere, hResult⟩ := hAgree before (call :: after) hSplit
    have hSplitNext : calls = (before ++ [call]) ++ after := by rw [hSplit]; simp
    have hNext := (hAgree (before ++ [call]) after hSplitNext).1.eq_tables
    have hReply := hResult call after rfl
    have hTables := hHere.eq_tables
    have hSqlite : sqliteStore.after now (before ++ [call]) =
        Store.apply (sqliteStore.after now before) call := run_append _ _ before [call]
    have hMemory : memoryStore.after now (before ++ [call]) =
        MemoryStore.apply (memoryStore.after now before) call := run_append _ _ before [call]
    have hNextIndexed := hIndexed (before ++ [call]) after hSplitNext
    rw [hMemory] at hNextIndexed hNext
    rw [hSqlite, hTables] at hNext
    rw [hTables] at hReply
    have hDistinct := distinct_of_same (hIndexed before (call :: after) hSplit) hNextIndexed.keyed
      hReply hNext
    rw [← hTables] at hDistinct
    exact hDistinct
  · rintro hMeets before after rfl
    rw [meets_append] at hMeets
    have hTables := after_eq_tables now
      (fun given hGiven => hDerived given (List.mem_append_left after hGiven)) hMeets.1
    have hBefore := hIndexed before after rfl
    have hTablesKeyed := hTables ▸ hKeyed before
    refine ⟨?_, ?_⟩
    · rw [hTables]
      exact MemoryStore.agree_tables hBefore hTablesKeyed hStamped.of_append
        (hTables ▸ Store.recorded_after now before)
    · rintro call rest rfl
      have hDistinct : Store.Distinct (sqliteStore.after now before) call := hMeets.2.1
      rw [hTables] at hDistinct ⊢
      exact congrArg Prod.fst (MemoryStore.perform_tables hTablesKeyed hBefore
        (hDerived call (List.mem_append_right _ List.mem_cons_self)) hDistinct)

end Runs

namespace Reissued

def window (sessionId : String) (microsecond : Nat) : StoreCall :=
  .issueCommissioningSession sessionId "4f1c" (timestamp ⟨2026, 8, 5, 0, 0, 7, microsecond⟩) none

def phone : ControllerGrant where
  controllerId := "ectrl-29abe130cd7f5663b31f"
  publicKey :=
    "MFkwEwYHKoZIzj0CAQYIKoZIzj0DAQcDQgAEHWqbDKyMhNvM22tVh9dvxyfVh007fPXro543U-dcQ0knoOd_2LRODd0HT" ++
    "j76QYOnxcaaE0vh9rm-wzpTOoNDhw"
  publicKeyFingerprint := "sha256:29abe130cd7f5663b31f4130a8d1f3cee6ace665d36e54494f964e88c1867a1c"
  role := .hostAdmin
  displayName := "Phone"
  platform := "ios"
  resetEpoch := 0
  createdAt := timestamp ⟨2026, 8, 5, 0, 0, 7, 2⟩

def claimed : List StoreCall :=
  [window "w-1" 1,
   .claimController "w-1" "4f1c" phone (timestamp ⟨2026, 8, 5, 0, 0, 7, 2⟩),
   .revokeController phone.controllerId (timestamp ⟨2026, 8, 5, 0, 0, 7, 3⟩)]

theorem offered_claimed {call : StoreCall} (hCall : call ∈ claimed) {grant : ControllerGrant}
    (hGrant : MemoryStore.offered call = some grant) : grant = phone := by
  have hOffers : ∀ call ∈ claimed,
      MemoryStore.offered call = none ∨ MemoryStore.offered call = some phone := by
    simp [claimed, window, MemoryStore.offered]
  rcases hOffers call hCall with hNone | hPhone
  · rw [hNone] at hGrant
    cases hGrant
  · exact Option.some.inj (hGrant.symm.trans hPhone)

theorem stamped_claimed : Stamped claimed where
  increasing := by decide
  grants first hFirst second hSecond grant other hGrant hOther _ := by
    rw [offered_claimed hFirst hGrant, offered_claimed hSecond hOther]
    exact ⟨rfl, rfl⟩

theorem adapters_agree_iff_claimed :
    AdaptersAgree "2026-08-05T00:00:00.000001Z" claimed ↔
      Meets Store.apply Store.Distinct (Store.create "2026-08-05T00:00:00.000001Z") claimed := by
  refine adapters_agree_iff (fun _ => phone.controllerId) (fun _ => phone.publicKeyFingerprint) _ _
    stamped_claimed fun call hCall grant hGrant => ?_
  rw [offered_claimed hCall hGrant]
  exact ⟨rfl, rfl⟩

def twice : List StoreCall := [window "w-1" 1, window "w-1" 2]

/-- The second window takes an id in use: the primary key refuses it, the list
takes it. -/
theorem window_id_issued_twice :
    Stamped twice ∧ (∀ call ∈ twice, MemoryStore.offered call = none) ∧
      ¬ AdaptersAgree "2026-08-05T00:00:00.000001Z" twice := by
  refine ⟨⟨by decide, ?_⟩, by decide, ?_⟩
  · intro first hFirst second hSecond grant other hGrant
    have hNone : ∀ call ∈ twice, MemoryStore.offered call = none := by decide
    rw [hNone first hFirst] at hGrant
    cases hGrant
  · intro hAgree
    have hSame := (hAgree [window "w-1" 1] [window "w-1" 2] rfl).2 _ _ rfl
    revert hSame
    decide

end Reissued

end EidolonAdmin.Bootstrap
