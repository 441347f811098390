import EidolonAdmin.Bootstrap.Host

/-! # Exclusivity and finality of network operations

`update_operation` does not look at the state it replaces. An ended operation
stays as it ended, and at most one operation is active, over exactly the runs in
which no use case writes on an operation that has already ended otherwise.
-/

namespace EidolonAdmin.Bootstrap

open Foundation Foundation.Table Foundation.Transition

namespace Store

def Exclusive (s : Store) : Prop := s.operations.countP (fun row => row.state.active) ≤ 1

def Settled (s t : Store) : Prop :=
  ∀ operationId operation, s.getOperation operationId = some operation →
    operation.state.active = false →
      ∃ later, t.getOperation operationId = some later ∧ later.state = operation.state

theorem settled_refl (s : Store) : s.Settled s := fun _ operation hFound _ => ⟨operation, hFound, rfl⟩

theorem settled_trans {s t u : Store} (h : s.Settled t) (hNext : t.Settled u) : s.Settled u := by
  intro operationId operation hFound hEnded
  obtain ⟨later, hLater, hState⟩ := h operationId operation hFound hEnded
  obtain ⟨last, hLast, hLastState⟩ := hNext operationId later hLater (hState ▸ hEnded)
  exact ⟨last, hLast, hLastState.trans hState⟩

def Respects (s : Store) : StoreCall → Prop
  | .updateOperation operationId state _ _ _ =>
    ∀ current, s.getOperation operationId = some current → current.state.active = false →
      state = current.state
  | _ => True

theorem countP_active_updateWhere_le {rows : List BootstrapOperation} {p : BootstrapOperation → Bool}
    {f : BootstrapOperation → BootstrapOperation}
    (h : ∀ row ∈ rows, p row = true → (f row).state.active = true → row.state.active = true) :
    (updateWhere p f rows).countP (fun row => row.state.active) ≤
      rows.countP fun row => row.state.active := by
  rw [updateWhere, List.countP_map]
  apply List.countP_mono_left
  intro row hRow hActive
  simp only [Function.comp_apply] at hActive
  split at hActive
  · rename_i hWritten
    exact h row hRow hWritten hActive
  · exact hActive

theorem exclusive_effect {s t : Store} {call : StoreCall} (hEffect : Effect s call t)
    (hKeyed : s.Keyed) (hRespects : s.Respects call) (h : s.Exclusive) : t.Exclusive := by
  have hFail : ∀ now errorCode,
      (failActive now errorCode s.operations).countP (fun row => row.state.active) ≤ 1 :=
    fun now errorCode => (countP_active_updateWhere_le fun row _ hActive _ => hActive).trans h
  cases hEffect with
  | refused | issued | counted | resumed | revoked | reconciled => exact h
  | claimed _ _ _ _ hInsert =>
    rw [insertGrant_frame hInsert]
    exact h
  | @created operation _ hIdle =>
    have hNone : s.operations.countP (fun row => row.state.active) = 0 := by
      rw [List.countP_eq_zero]
      exact fun row hRow => by simp [hIdle row hRow]
    simp only [Exclusive, List.countP_append, hNone]
    exact (Nat.zero_add _).trans_le List.countP_le_length
  | @updated operationId state _ _ _ current hFound =>
    refine (countP_active_updateWhere_le fun row hRow hId hActive => ?_).trans h
    have hRow' : s.getOperation operationId = some row :=
      (lookup_eq_some_iff hKeyed.operations).mpr ⟨hRow, by simpa using hId⟩
    by_contra hEnded
    have hSame := hRespects row hRow' (by simpa using hEnded)
    rw [show state = row.state from hSame] at hActive
    exact hEnded hActive
  | interrupted => exact hFail _ _
  | reset => exact hFail _ _
  | recovered => exact hFail _ _

theorem settled_updateWhere {s t : Store} {p : BootstrapOperation → Bool}
    {f : BootstrapOperation → BootstrapOperation} (hOps : t.operations = updateWhere p f s.operations)
    (hKey : ∀ row, (f row).operationId = row.operationId)
    (h : ∀ operationId row, s.getOperation operationId = some row → row.state.active = false →
      p row = true → (f row).state = row.state) : s.Settled t := by
  intro operationId row hFound hEnded
  refine ⟨if p row then f row else row, ?_, ?_⟩
  · rw [getOperation, hOps, lookup_updateWhere hKey]
    rw [getOperation] at hFound
    rw [hFound]
    rfl
  · split
    · rename_i hWritten
      exact h operationId row hFound hEnded hWritten
    · rfl

theorem settled_effect {s t : Store} {call : StoreCall} (hEffect : Effect s call t)
    (hRespects : s.Respects call) : s.Settled t := by
  have hFail : ∀ u : Store, ∀ now errorCode,
      u.operations = failActive now errorCode s.operations → s.Settled u := by
    intro u now errorCode hOps
    refine settled_updateWhere hOps (fun _ => rfl) fun _ row _ hEnded hActive => ?_
    rw [hEnded] at hActive
    cases hActive
  cases hEffect with
  | refused | issued | counted | resumed | revoked | reconciled => exact settled_refl s
  | claimed _ _ _ _ hInsert =>
    rw [insertGrant_frame hInsert]
    exact settled_refl s
  | created =>
    intro operationId operation hFound _
    refine ⟨operation, ?_, rfl⟩
    rw [getOperation] at hFound ⊢
    rw [lookup_append, hFound]
    rfl
  | @updated operationId state _ _ _ current hFound =>
    refine settled_updateWhere rfl (fun _ => rfl) fun id row hRow hEnded hId => ?_
    have hSameId : id = operationId := (lookup_mem hRow).2.symm.trans (by simpa using hId)
    exact hRespects row (hSameId ▸ hRow) hEnded
  | interrupted => exact hFail _ _ _ rfl
  | reset => exact hFail _ _ _ rfl
  | recovered => exact hFail _ _ _ rfl

theorem getOperation_apply_create {s : Store} {operation : BootstrapOperation}
    (hNew : s.getOperation operation.operationId = none) :
    (s.apply (.createOperation operation)).getOperation operation.operationId = none ∨
      (s.apply (.createOperation operation)).getOperation operation.operationId =
        some operation := by
  have hEffect := apply_effect s (.createOperation operation)
  generalize s.apply (.createOperation operation) = t at hEffect ⊢
  cases hEffect with
  | refused | counted => exact .inl hNew
  | created =>
    right
    rw [getOperation] at hNew ⊢
    rw [lookup_append, hNew]
    simp [lookup]

theorem getOperation_apply_update {s : Store} {operationId : String} {current : BootstrapOperation}
    (hFound : s.getOperation operationId = some current) (state : BootstrapOperationState)
    (networkState : NetworkState) (updatedAt : String) (errorCode : Option String) :
    (s.apply (.updateOperation operationId state networkState updatedAt errorCode)).getOperation
      operationId = some (writeOperation state updatedAt errorCode current) := by
  have hId := (lookup_mem hFound).2
  simp only [apply, perform, updateOperation, hFound, Prod.map, id]
  rw [getOperation] at hFound
  rw [getOperation, setNetworkState, lookup_updateWhere]
  · simp [hFound, hId]
  · exact fun _ => rfl

end Store

def Suspended.operationId? : Suspended → Option String
  | .configure request _ => some request.operationId
  | .confirm operationId | .rollback operationId => some operationId
  | .resetRead _ | .resetForget | .resetReread => none

/-- Whether a call may write what the port's answer leads to, given the state its
operation is stored in: it has not ended otherwise while the call was waiting. -/
def Suspended.undisturbed : Suspended → PortOutcome → BootstrapOperationState → Bool
  | .configure _ _, .returned _, stored => stored.active
  | .configure _ _, .provisioningError _, stored => stored != .succeeded
  | .confirm _, .returned _, stored => stored != .failed
  | .rollback _, .returned _, stored => stored != .succeeded
  | _, _, _ => true

namespace Host

variable (platform : Platform) (settings : BootstrapSettings)

/-- A rollback is not asked of a succeeded operation, and a waiting call is not
resumed on an operation that ended otherwise in the meantime. -/
def Orderly (h : Host) : Action → Prop
  | .rollbackNetwork access operationId now =>
    ∀ operation t, h.store.namedOperation platform access operationId now = (.ok operation, t) →
      operation.state ≠ .succeeded
  | .resume i outcome _ _ =>
    ∀ call operationId current, h.calls[i]? = some call → call.operationId? = some operationId →
      h.store.getOperation operationId = some current →
        call.undisturbed outcome current.state = true
  | _ => True

variable {platform} {settings}

theorem active_of_ne {state : BootstrapOperationState} (hSucceeded : state ≠ .succeeded)
    (hFailed : state ≠ .failed) : state.active = true := by
  cases state with
  | pending | running | waitingConfirmation | compensating => rfl
  | succeeded => exact absurd rfl hSucceeded
  | failed => exact absurd rfl hFailed

theorem writes_operationId {call : Suspended} {outcome : PortOutcome} {operationId : String}
    {state : BootstrapOperationState} (h : writes call outcome = some (operationId, state)) :
    call.operationId? = some operationId := by
  unfold writes at h
  split at h
  all_goals cases h
  all_goals rfl

theorem writes_state {call : Suspended} {outcome : PortOutcome} {operationId : String}
    {state stored : BootstrapOperationState}
    (h : writes call outcome = some (operationId, state))
    (hUndisturbed : call.undisturbed outcome stored = true) (hEnded : stored.active = false) :
    state = stored := by
  unfold writes at h
  split at h
  all_goals cases h
  all_goals cases stored with
    | pending | running | waitingConfirmation | compensating => cases hEnded
    | succeeded | failed => first | rfl | cases hUndisturbed

theorem writes_of_disturbed {call : Suspended} {outcome : PortOutcome} {operationId : String}
    {stored : BootstrapOperationState} (hId : call.operationId? = some operationId)
    (h : call.undisturbed outcome stored = false) :
    stored.active = false ∧ ∃ state, writes call outcome = some (operationId, state) ∧
      state ≠ stored := by
  unfold Suspended.undisturbed at h
  split at h
  · cases hId
    exact ⟨h, _, rfl, fun hSame => by rw [← hSame] at h; cases h⟩
  · cases hId
    obtain rfl : stored = .succeeded := by simpa using h
    exact ⟨rfl, _, rfl, by decide⟩
  · cases hId
    obtain rfl : stored = .failed := by simpa using h
    exact ⟨rfl, _, rfl, by decide⟩
  · cases hId
    obtain rfl : stored = .succeeded := by simpa using h
    exact ⟨rfl, _, rfl, by decide⟩
  · cases h

theorem resumed_store {s : Store} {call : Suspended} {outcome : PortOutcome} {operationId : String}
    {state : BootstrapOperationState} {current : BootstrapOperation}
    (hWrites : writes call outcome = some (operationId, state))
    (hFound : s.getOperation operationId = some current) (now failedAt : String) :
    ∃ networkState updatedAt errorCode, (call.resumed outcome now failedAt s).2 =
      s.apply (.updateOperation operationId state networkState updatedAt errorCode) := by
  unfold writes at hWrites
  split at hWrites
  · cases hWrites
    refine ⟨.staging, now, none, ?_⟩
    simp [Suspended.resumed, Store.configureResumed, Store.updateOperation_found hFound]
  · cases hWrites
    rename_i request previous message
    exact ⟨_, failedAt, _, configureFailed_store request.operationId previous
      "network_stage_failed" message failedAt s⟩
  · cases hWrites
    exact ⟨.connected, now, none, rfl⟩
  · cases hWrites
    exact ⟨_, now, _, rfl⟩
  · cases hWrites

theorem served_respects {h : Host} {a : Action} {calls : List StoreCall}
    (hServed : h.Served platform a calls) (hOrderly : h.Orderly platform a) :
    Meets Store.apply Store.Respects h.store calls := by
  cases hServed with
  | nothing => trivial
  | issued | authorized | recovered | revoked | reset | reconciled => exact ⟨trivial, trivial⟩
  | claimed _ reopened =>
    refine ⟨trivial, ?_⟩
    cases reopened with
    | none => trivial
    | some => exact ⟨trivial, trivial⟩
  | restarted opened =>
    refine ⟨trivial, ?_⟩
    cases opened with
    | none => trivial
    | some => exact ⟨trivial, trivial⟩
  | configured operation hState hNew =>
    refine ⟨trivial, ?_, trivial⟩
    intro current hFound hEnded
    rcases Store.getOperation_apply_create hNew with hNone | hCreated
    · rw [hNone] at hFound
      cases hFound
    · rw [hCreated] at hFound
      cases hFound
      rw [hState] at hEnded
      cases hEnded
  | @rolledBack access operationId now operation hNamed hState =>
    refine ⟨?_, trivial⟩
    intro current hFound hEnded
    have hStored := (Store.namedOperation_ok hNamed).2
    rw [hStored] at hFound
    cases hFound
    have hNotSucceeded := hOrderly operation h.store hNamed
    exact absurd hEnded (by simp [active_of_ne hNotSucceeded hState])
  | wrote hCall hWrites =>
    refine ⟨?_, trivial⟩
    intro current hFound hEnded
    exact writes_state hWrites (hOrderly _ _ current hCall (writes_operationId hWrites) hFound) hEnded

theorem step_settled {h : Host} {a : Action} (hKeyed : h.store.Keyed)
    (hOrderly : h.Orderly platform a) :
    (h.store.Exclusive → (h.step platform settings a).store.Exclusive) ∧
      h.store.Settled (h.step platform settings a).store := by
  obtain ⟨calls, hServed, hStore⟩ := step_reaches platform settings h a
  have hMeets := served_respects hServed hOrderly
  rw [hStore]
  constructor
  · intro hExclusive
    refine (Meets.run_invariant (P := fun s => s.Keyed ∧ s.Exclusive) ?_ ⟨hKeyed, hExclusive⟩
      hMeets).2
    intro s call hRespects hInv
    exact ⟨Store.keyed_apply s call hInv.1,
      Store.exclusive_effect (Store.apply_effect s call) hInv.1 hRespects hInv.2⟩
  · refine Meets.run_related (P := fun _ => True) Store.settled_refl
      (fun _ _ _ => Store.settled_trans) (fun _ _ _ _ => trivial) ?_ trivial hMeets
    exact fun s call hRespects _ => Store.settled_effect (Store.apply_effect s call) hRespects

theorem orderly_of_settled {h : Host} {a : Action}
    (hSettled : h.store.Settled (h.step platform settings a).store) : h.Orderly platform a := by
  have hWrite : ∀ operationId current state networkState updatedAt errorCode,
      h.store.getOperation operationId = some current → current.state.active = false →
      (h.step platform settings a).store = h.store.apply
        (.updateOperation operationId state networkState updatedAt errorCode) →
      state = current.state := by
    intro operationId current state networkState updatedAt errorCode hFound hEnded hStore
    obtain ⟨later, hLater, hState⟩ := hSettled operationId current hFound hEnded
    rw [hStore, Store.getOperation_apply_update hFound] at hLater
    cases hLater
    exact hState
  cases a with
  | rollbackNetwork access operationId now =>
    intro operation t hNamed hSucceeded
    obtain ⟨rfl, hFound⟩ := Store.namedOperation_ok hNamed
    have hState := hWrite operation.operationId operation .compensating .rollingBack now none hFound
      (by rw [hSucceeded]; rfl) ?_
    · rw [hSucceeded] at hState
      cases hState
    · simp [step, pursue_store, Store.rollbackNetwork, hNamed, hSucceeded,
        Store.updateOperation_found hFound]
  | resume i outcome now failedAt =>
    intro call operationId current hCall hId hFound
    by_contra hDisturbed
    obtain ⟨hEnded, state, hWrites, hNe⟩ := writes_of_disturbed hId (by simpa using hDisturbed)
    obtain ⟨networkState, updatedAt, errorCode, hStore⟩ :=
      resumed_store hWrites hFound now failedAt
    refine hNe (hWrite operationId current state networkState updatedAt errorCode hFound hEnded ?_)
    simp only [step, hCall, pursue_store]
    exact hStore
  | _ => trivial

end Host

/-- Over a run of the service, in any interleaving at its awaits: at most one
operation is active in every state and no ended operation changes its state
between two states, exactly when every step is orderly. -/
theorem network_operations_exclusive_final_iff (platform : Platform) (settings : BootstrapSettings)
    (now : String) (actions : List Action) :
    (∀ first second rest, actions = first ++ second ++ rest →
      (Host.after platform settings now first).store.Exclusive ∧
      (Host.after platform settings now first).store.Settled
        (Host.after platform settings now (first ++ second)).store) ↔
    Meets (Host.step platform settings) (Host.Orderly platform) (Host.create now) actions := by
  constructor
  · intro h
    rw [meets_iff]
    intro before a rest hSplit
    have hNext := (h before [a] rest (by simp [hSplit])).2
    rw [Host.after, Host.after, run_append] at hNext
    exact Host.orderly_of_settled hNext
  · intro hMeets first second rest hSplit
    rw [hSplit, meets_append, meets_append] at hMeets
    obtain ⟨⟨hFirst, hSecond⟩, _⟩ := hMeets
    have hInv : (Host.after platform settings now first).store.Keyed ∧
        (Host.after platform settings now first).store.Exclusive := by
      refine Meets.run_invariant (P := fun h : Host => h.store.Keyed ∧ h.store.Exclusive) ?_ ?_
        hFirst
      · intro h a hOrderly hInv
        exact ⟨Host.keyed_step a hInv.1, (Host.step_settled hInv.1 hOrderly).1 hInv.2⟩
      · exact ⟨Store.keyed_create now, Nat.zero_le 1⟩
    refine ⟨hInv.2, ?_⟩
    rw [Host.after, Host.after, run_append]
    refine Meets.run_related (P := fun h : Host => h.store.Keyed)
      (R := fun h t => h.store.Settled t.store) (fun h => Store.settled_refl h.store)
      (fun _ _ _ => Store.settled_trans) (fun _ a _ => Host.keyed_step a)
      (fun _ _ hOrderly hKeyed => (Host.step_settled hKeyed hOrderly).2) hInv.1 hSecond

namespace RollbackAfterConfirm

def platform : Platform where
  sha256 text := text
  readControllerKey _ := .ok "0123456789abcdef0123456789abcdef"
  readsAsUuid _ := false
  verifySignature _ _ _ _ _ := true

def grant : ControllerGrant where
  controllerId := "ectrl-0123456789abcdef0123"
  publicKey := "key"
  publicKeyFingerprint := "sha256:0123456789abcdef0123456789abcdef"
  role := .hostAdmin
  displayName := "Phone"
  platform := "ios"
  resetEpoch := 0
  createdAt := "2026-08-05T00:00:01Z"

def operationId : String := "11111111-2222-3333-4444-555555555555"

/-- A phone claims the Host, changes the network and confirms the change. -/
def confirmed : List Action :=
  [.issueSetupCode "13572468" "s1" "2026-08-05T00:00:00Z",
   .claimController "s1" "13572468"
    (.obj [("public_key", .str "key"), ("display_name", .str "Phone"), ("platform", .str "ios")])
    "2026-08-05T00:00:01Z" ⟨none, "", "", ""⟩,
   .configureNetwork (.controller grant)
    (.obj [("operation_id", .str operationId), ("ssid", .str "Home")])
    "2026-08-05T00:00:02Z" "2026-08-05T00:00:02Z",
   .resume 0 (.returned ⟨.staging, some operationId, none, some "Home"⟩)
    "2026-08-05T00:00:03Z" "2026-08-05T00:00:03Z",
   .confirmNetwork (.controller grant) (.str operationId) "2026-08-05T00:00:04Z",
   .resume 0 (.returned ⟨.connected, none, some "Home", none⟩)
    "2026-08-05T00:00:05Z" "2026-08-05T00:00:05Z"]

/-- The rollback that finds the operation succeeded and sets it compensating. -/
def rollback : Action :=
  .rollbackNetwork (.controller grant) (.str operationId) "2026-08-05T00:00:06Z"

def stateAfter (actions : List Action) : Option BootstrapOperationState :=
  ((Host.after platform {} "" actions).store.getOperation operationId).map fun operation =>
    operation.state

theorem stateAfter_confirmed : stateAfter confirmed = some .succeeded := by decide

theorem stateAfter_rollback : stateAfter (confirmed ++ [rollback]) = some .compensating := by decide

theorem confirmed_operation_reopened_by_rollback :
    ¬ (∀ first second,
      (Host.after platform {} "" first).store.Exclusive ∧
      (Host.after platform {} "" first).store.Settled
        (Host.after platform {} "" (first ++ second)).store) := by
  intro h
  obtain ⟨operation, hFound, hState⟩ := Option.map_eq_some_iff.mp stateAfter_confirmed
  obtain ⟨later, hLater, hLaterState⟩ :=
    (h confirmed [rollback]).2 operationId operation hFound (by rw [hState]; rfl)
  have hAfter := stateAfter_rollback
  rw [stateAfter, hLater, Option.map_some, hLaterState, hState] at hAfter
  cases hAfter

end RollbackAfterConfirm

end EidolonAdmin.Bootstrap
