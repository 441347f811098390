import EidolonAdmin.Bootstrap.NetworkOperations

/-! # The network phase and the operation behind it

`network_state` is written beside an operation, by reconciliation and by an
authority reset. Only the reset writes a phase while it fails every operation, so
the phase can outlive the change it speaks of.
-/

namespace EidolonAdmin.Bootstrap

open Foundation Foundation.Table Foundation.Transition

def NetworkState.transitional : NetworkState → Bool
  | staging | rollingBack => true
  | unconfigured | connected | degraded => false

namespace Store

def PhaseBacked (s : Store) : Prop :=
  s.state.networkState.transitional = true → ∃ row ∈ s.operations, row.state.active = true

theorem phaseBacked_of_settledPhase {s : Store} (h : s.state.networkState.transitional = false) :
    s.PhaseBacked := by
  intro hPhase
  rw [h] at hPhase
  cases hPhase

theorem failActive_inactive {now errorCode : String} {rows : List BootstrapOperation}
    {row : BootstrapOperation} (h : row ∈ failActive now errorCode rows) :
    row.state.active = false := by
  rw [failActive, updateWhere, List.mem_map] at h
  obtain ⟨old, _, rfl⟩ := h
  split
  · rfl
  · rename_i hEnded
    simpa using hEnded

theorem phaseBacked_failed {s : Store} {now errorCode : String} {rows : List BootstrapOperation}
    (hRows : s.operations = failActive now errorCode rows) :
    s.PhaseBacked ↔ s.state.networkState.transitional = false := by
  refine ⟨fun h => ?_, phaseBacked_of_settledPhase⟩
  by_contra hPhase
  obtain ⟨row, hRow, hActive⟩ := h (by simpa using hPhase)
  rw [hRows] at hRow
  rw [failActive_inactive hRow] at hActive
  cases hActive

theorem phaseBacked_update {s : Store} {operationId : String} {current : BootstrapOperation}
    (hFound : s.getOperation operationId = some current) (state : BootstrapOperationState)
    (networkState : NetworkState) (updatedAt : String) (errorCode : Option String) :
    (s.updateOperation operationId state networkState updatedAt errorCode).2.PhaseBacked ↔
      (networkState.transitional = true → state.active = true ∨
        ∃ row ∈ s.operations, row.operationId ≠ operationId ∧ row.state.active = true) := by
  obtain ⟨hMem, hId⟩ := lookup_mem hFound
  simp only [updateOperation, hFound, PhaseBacked, setNetworkState, updateWhere]
  refine imp_congr_right fun _ => ?_
  constructor
  · rintro ⟨written, hWritten, hActive⟩
    obtain ⟨row, hRow, rfl⟩ := List.mem_map.mp hWritten
    by_cases hSame : row.operationId = operationId
    · simp only [hSame, decide_true, if_true, writeOperation] at hActive
      exact .inl hActive
    · simp only [hSame, decide_false, Bool.false_eq_true, if_false] at hActive
      exact .inr ⟨row, hRow, hSame, hActive⟩
  · rintro (hActive | ⟨row, hRow, hOther, hActive⟩)
    · refine ⟨_, List.mem_map.mpr ⟨current, hMem, rfl⟩, ?_⟩
      simpa [hId, writeOperation] using hActive
    · refine ⟨_, List.mem_map.mpr ⟨row, hRow, rfl⟩, ?_⟩
      simpa [hOther] using hActive

theorem phaseBacked_endOperation {s : Store} {operationId : String} {state : BootstrapOperationState}
    {networkState : NetworkState} {updatedAt : String} {errorCode : Option String}
    (h : s.PhaseBacked)
    (hKeeps : ∀ current, s.getOperation operationId = some current →
      networkState.transitional = true → state.active = true ∨
        ∃ row ∈ s.operations, row.operationId ≠ operationId ∧ row.state.active = true) :
    (s.updateOperation operationId state networkState updatedAt errorCode).2.PhaseBacked := by
  cases hFound : s.getOperation operationId with
  | none =>
    rw [updateOperation_missing hFound]
    exact h
  | some current => exact (phaseBacked_update hFound state _ _ _).mpr (hKeeps current hFound)

def LeavesNetwork : StoreCall → Prop
  | .issueCommissioningSession .. | .authorizeCommissioningSession .. | .claimController .. |
    .revokeController .. => True
  | .createOperation .. | .updateOperation .. | .failInterruptedOperations .. |
    .reconcileNetworkState .. | .resetAuthority .. => False

theorem apply_leavesNetwork {call : StoreCall} (hLeaves : LeavesNetwork call) (s : Store) :
    (s.apply call).operations = s.operations ∧
      (s.apply call).state.networkState = s.state.networkState := by
  have hEffect := apply_effect s call
  generalize s.apply call = t at hEffect
  cases hEffect with
  | refused | counted | issued | resumed | revoked => exact ⟨rfl, rfl⟩
  | claimed _ _ _ _ hInsert =>
    rw [insertGrant_frame hInsert]
    exact ⟨rfl, rfl⟩
  | created | updated | interrupted | reconciled | reset | recovered => cases hLeaves

theorem phaseBacked_leavesNetwork {calls : List StoreCall}
    (hLeaves : ∀ call ∈ calls, LeavesNetwork call) {s : Store} (h : s.PhaseBacked) :
    (run apply s calls).PhaseBacked := by
  refine Meets.run_invariant (P := PhaseBacked) ?_ h (Meets.of_mem s hLeaves)
  intro t call hCall hBacked
  obtain ⟨hOps, hPhase⟩ := apply_leavesNetwork hCall t
  rw [PhaseBacked, hOps, hPhase]
  exact hBacked

theorem phaseBacked_create {s : Store} (h : s.PhaseBacked) (operation : BootstrapOperation) :
    (s.apply (.createOperation operation)).PhaseBacked := by
  have hEffect := apply_effect s (.createOperation operation)
  generalize s.apply (.createOperation operation) = t at hEffect
  cases hEffect with
  | refused | counted => exact h
  | created =>
    intro hPhase
    obtain ⟨row, hRow, hActive⟩ := h hPhase
    exact ⟨row, List.mem_append_left _ hRow, hActive⟩

theorem phaseBacked_reconcile {s : Store} (h : s.PhaseBacked) (networkState : NetworkState)
    (now : String) : (s.reconcileNetworkState networkState now).2.PhaseBacked := by
  unfold reconcileNetworkState
  split
  · exact h
  · rename_i hPhase
    apply phaseBacked_of_settledPhase
    cases networkState with
    | unconfigured | connected | degraded => rfl
    | staging | rollingBack => simp at hPhase

theorem phaseBacked_interrupted {s : Store} (h : s.PhaseBacked) (now : String) :
    (s.failInterruptedOperations now).2.PhaseBacked := by
  simp only [failInterruptedOperations]
  split
  · rename_i hNone
    apply phaseBacked_of_settledPhase
    by_contra hPhase
    obtain ⟨row, hRow, hActive⟩ := h (by simpa using hPhase)
    have hMem : row ∈ s.operations.filter fun row => row.state.active :=
      List.mem_filter.mpr ⟨hRow, hActive⟩
    rw [List.length_eq_zero_iff.mp hNone] at hMem
    cases hMem
  · exact phaseBacked_of_settledPhase rfl

end Store

def Suspended.KeepsPhase (s : Store) (snapshot : NetworkProvisioningSnapshot) : Suspended → Prop
  | .resetRead _ => snapshot.state.transitional = false
  | .rollback operationId => ∀ current, s.getOperation operationId = some current →
    snapshot.state.transitional = true →
      ∃ row ∈ s.operations, row.operationId ≠ operationId ∧ row.state.active = true
  | .configure .. | .confirm _ | .resetForget | .resetReread => True

/-- The actions whose writes of the phase are looked at one by one. -/
def Action.writesPhase : Action → Bool
  | .openControllerRecoveryWindow .. | .resume .. => true
  | _ => false

namespace Host

/-- A recovery window is not opened in a transitional phase (unless it is refused),
and no phase of a change comes from the port where its operation ends. -/
def KeepsPhase (h : Host) : Action → Prop
  | .openControllerRecoveryWindow ttlSeconds _ sessionId _ _ =>
    h.store.state.networkState.transitional = true →
      (60 ≤ (ttlSeconds.filter (· ≠ 0)).getD recoveryWindowTtlSeconds ∧
        (ttlSeconds.filter (· ≠ 0)).getD recoveryWindowTtlSeconds ≤ 86400) →
      (h.store.sessionRow? sessionId).isSome = true
  | .resume i (.returned snapshot) _ _ =>
    ∀ call, h.calls[i]? = some call → call.KeepsPhase h.store snapshot
  | _ => True

variable {platform : Platform} {settings : BootstrapSettings}

theorem phaseBacked_configureFailed {s : Store} (h : s.PhaseBacked) (operationId : String)
    (previous : NetworkState) (code message failedAt : String) :
    (s.configureFailed operationId previous code message failedAt).2.PhaseBacked := by
  rw [configureFailed_store]
  refine Store.phaseBacked_endOperation h fun _ _ hPhase => ?_
  split at hPhase
  · cases hPhase
  · cases hPhase

theorem phaseBacked_resumed {s : Store} (h : s.PhaseBacked) (call : Suspended)
    (outcome : PortOutcome) (now failedAt : String)
    (hKeeps : ∀ snapshot, outcome = .returned snapshot → call.KeepsPhase s snapshot) :
    (call.resumed outcome now failedAt s).2.PhaseBacked := by
  cases outcome with
  | raised =>
    cases call with
    | configure | confirm | rollback | resetRead | resetForget | resetReread => exact h
  | provisioningError message =>
    cases call with
    | configure request previous => exact phaseBacked_configureFailed h _ _ _ _ _
    | confirm | rollback | resetRead | resetForget | resetReread => exact h
  | returned snapshot =>
    have hCall := hKeeps snapshot rfl
    cases call with
    | configure request previous =>
      cases hFound : s.getOperation request.operationId with
      | none =>
        simp only [Suspended.resumed, Store.configureResumed, Store.updateOperation_missing hFound]
        exact phaseBacked_configureFailed h _ _ _ _ _
      | some current =>
        have hWritten := (Store.phaseBacked_update hFound .waitingConfirmation .staging now
          none).mpr fun _ => .inl rfl
        simp only [Suspended.resumed, Store.configureResumed,
          Store.updateOperation_found hFound] at hWritten ⊢
        exact hWritten
    | confirm operationId =>
      exact Store.phaseBacked_endOperation h fun _ _ hPhase => by cases hPhase
    | rollback operationId =>
      exact Store.phaseBacked_endOperation h fun current hFound hPhase =>
        .inr (hCall current hFound hPhase)
    | resetRead forgetWifiProfiles =>
      have hReset : (s.withdrawAuthority snapshot.state now).PhaseBacked :=
        (Store.phaseBacked_failed rfl).mpr hCall
      simp only [Suspended.resumed, Store.resetReadResumed, Store.resetAuthority]
      split
      · exact hReset
      · exact hReset
    | resetForget => exact Store.phaseBacked_reconcile h snapshot.state now
    | resetReread =>
      have hReconciled : (s.reconcileNetwork snapshot.state now).2.PhaseBacked :=
        Store.phaseBacked_reconcile h snapshot.state now
      simp only [Suspended.resumed, Store.resetRereadResumed]
      split
      · rename_i hEq
        rwa [hEq] at hReconciled
      · rename_i hEq
        rwa [hEq] at hReconciled

theorem phaseBacked_recovered {s : Store} (h : s.PhaseBacked) {ttlSeconds : Option Int}
    {sessionId : String}
    (hKeeps : s.state.networkState.transitional = true →
      (60 ≤ (ttlSeconds.filter (· ≠ 0)).getD recoveryWindowTtlSeconds ∧
        (ttlSeconds.filter (· ≠ 0)).getD recoveryWindowTtlSeconds ≤ 86400) →
      (s.sessionRow? sessionId).isSome = true) (setupCode issuedAt expiresAt : String) :
    (s.openControllerRecoveryWindow platform ttlSeconds setupCode sessionId issuedAt
      expiresAt).2.PhaseBacked := by
  unfold Store.openControllerRecoveryWindow
  simp only
  split
  · rename_i hTtl
    simp only [Store.resetAuthority]
    split
    · exact h
    · rename_i hNew
      refine (Store.phaseBacked_failed (rfl : _ = Store.failActive issuedAt "authority_reset"
        s.operations)).mpr ?_
      change s.state.networkState.transitional = false
      by_contra hPhase
      exact hNew (hKeeps (by simpa using hPhase) hTtl)
  · exact h

theorem phaseBacked_served {h : Host} {a : Action} {calls : List StoreCall}
    (hServed : h.Served platform a calls) (hOther : a.writesPhase = false)
    (hBacked : h.store.PhaseBacked) : (run Store.apply h.store calls).PhaseBacked := by
  have hOpened := Store.forall_opened (P := Store.LeavesNetwork) fun _ _ _ => trivial
  cases hServed with
  | nothing => exact hBacked
  | issued | authorized | revoked =>
    exact Store.phaseBacked_leavesNetwork (by simp [Store.LeavesNetwork]) hBacked
  | claimed _ reopened =>
    refine Store.phaseBacked_leavesNetwork (fun call hCall => ?_) hBacked
    rcases List.mem_cons.mp hCall with rfl | hReopened
    · trivial
    · exact hOpened reopened call hReopened
  | configured operation =>
    exact Store.phaseBacked_endOperation (Store.phaseBacked_create hBacked operation)
      fun _ _ _ => .inl rfl
  | rolledBack => exact Store.phaseBacked_endOperation hBacked fun _ _ _ => .inl rfl
  | reconciled networkState now => exact Store.phaseBacked_reconcile hBacked networkState now
  | restarted opened =>
    exact Store.phaseBacked_leavesNetwork (hOpened opened)
      (Store.phaseBacked_interrupted hBacked _)
  | recovered | wrote | reset => cases hOther

theorem phaseBacked_step {h : Host} {a : Action} (hKeeps : h.KeepsPhase a)
    (hBacked : h.store.PhaseBacked) : (h.step platform settings a).store.PhaseBacked := by
  cases hWrites : a.writesPhase with
  | false =>
    obtain ⟨calls, hServed, hStore⟩ := step_reaches platform settings h a
    rw [hStore]
    exact phaseBacked_served hServed hWrites hBacked
  | true =>
    cases a with
    | openControllerRecoveryWindow => exact phaseBacked_recovered hBacked hKeeps _ _ _
    | resume i outcome now failedAt =>
      simp only [step]
      split
      · exact hBacked
      · rename_i call hCall
        rw [pursue_store]
        refine phaseBacked_resumed hBacked call outcome now failedAt fun snapshot hOutcome => ?_
        subst hOutcome
        exact hKeeps call hCall
    | _ => cases hWrites

theorem keepsPhase_of_phaseBacked {h : Host} {a : Action}
    (hBacked : (h.step platform settings a).store.PhaseBacked) : h.KeepsPhase a := by
  cases a with
  | openControllerRecoveryWindow ttlSeconds setupCode sessionId issuedAt expiresAt =>
    intro hPhase hTtl
    by_contra hNew
    simp only [step, Store.openControllerRecoveryWindow, hTtl, and_self, if_true,
      Store.resetAuthority, hNew, if_false] at hBacked
    have hSettled := (Store.phaseBacked_failed (rfl : _ = Store.failActive issuedAt
      "authority_reset" h.store.operations)).mp hBacked
    exact absurd (hPhase.symm.trans hSettled) (by decide)
  | resume i outcome now failedAt =>
    cases outcome with
    | provisioningError | raised => trivial
    | returned snapshot =>
      intro call hCall
      simp only [step, hCall, pursue_store] at hBacked
      cases call with
      | configure | confirm | resetForget | resetReread => trivial
      | resetRead forgetWifiProfiles =>
        have hReset : (h.store.withdrawAuthority snapshot.state now).PhaseBacked := by
          simp only [Suspended.resumed, Store.resetReadResumed, Store.resetAuthority] at hBacked
          split at hBacked
          · exact hBacked
          · exact hBacked
        exact (Store.phaseBacked_failed rfl).mp hReset
      | rollback operationId =>
        intro current hFound hPhase
        rcases (Store.phaseBacked_update hFound .failed snapshot.state now (some "cancelled")).mp
          hBacked hPhase with hActive | hOther
        · cases hActive
        · exact hOther
  | _ => trivial

end Host

/-- Over a run of the service, in any interleaving at its awaits: the phase has an
active operation wherever it is transitional, in every state of the run, exactly
when every step keeps the phase. -/
theorem network_phase_backed_iff (platform : Platform) (settings : BootstrapSettings)
    (now : String) (actions : List Action) :
    (∀ first rest, actions = first ++ rest →
      (Host.after platform settings now first).store.PhaseBacked) ↔
    Meets (Host.step platform settings) Host.KeepsPhase (Host.create now) actions := by
  constructor
  · intro h
    rw [meets_iff]
    intro before a rest hSplit
    have hNext := h (before ++ [a]) rest (by simp [hSplit])
    rw [Host.after, run_append] at hNext
    exact Host.keepsPhase_of_phaseBacked hNext
  · intro hMeets first rest hSplit
    rw [hSplit, meets_append] at hMeets
    exact Meets.run_invariant (P := fun h : Host => h.store.PhaseBacked)
      (fun _ _ hKeeps => Host.phaseBacked_step hKeeps)
      (Store.phaseBacked_of_settledPhase rfl) hMeets.1

namespace RecoveryDuringChange

open RollbackAfterConfirm (platform grant operationId confirmed)

/-- The change is staged and waits for its confirmation; then the operator opens a
recovery window. -/
def recovered : List Action :=
  confirmed.take 4 ++
    [.openControllerRecoveryWindow none "24681357" "s2" "2026-08-05T00:00:06Z"
      "2026-08-05T00:15:06Z"]

theorem staging_left_without_operation :
    ¬ (∀ actions, (Host.after platform {} "" actions).calls = [] →
      (Host.after platform {} "" actions).store.PhaseBacked) := by
  intro h
  have hIdle : (Host.after platform {} "" recovered).calls = [] := by decide +kernel
  have hPhase : (Host.after platform {} "" recovered).store.state.networkState.transitional =
      true := by decide +kernel
  have hNone : (Host.after platform {} "" recovered).store.operations.all
      (fun row => !row.state.active) = true := by decide +kernel
  obtain ⟨row, hRow, hActive⟩ := h recovered hIdle hPhase
  have hEnded := List.all_eq_true.mp hNone row hRow
  rw [hActive] at hEnded
  cases hEnded

end RecoveryDuringChange

end EidolonAdmin.Bootstrap
