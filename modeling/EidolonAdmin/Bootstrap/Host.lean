import EidolonAdmin.Bootstrap.Service

/-! # Runs of the bootstrap service

The daemon's state, its actions and what one action does to the store. `Served`
says once which store calls an action can make and what was checked before them;
the properties of runs are derived from it.
-/

namespace EidolonAdmin.Bootstrap

open Foundation Foundation.Table Foundation.Transition

/-- The store, the LAN challenges and the calls that wait for the network port. -/
structure Host where
  store : Store
  challenges : Challenges := []
  calls : List Suspended := []

inductive Action where
  | issueSetupCode (setupCode sessionId issuedAt : String)
  | openControllerRecoveryWindow (ttlSeconds : Option Int)
      (setupCode sessionId issuedAt expiresAt : String)
  | resetDevelopmentState (forgetWifiProfiles : Bool)
  | revokeController (controllerId : Json) (targetId now : String)
  | issueControllerChallenge (controllerId : Json) (challenge : String) (now : Rat)
  | authenticateController (payload : Json) (now : Rat)
  | authorize (sessionId secret : Json) (now : String)
  | requireAuthorized (access : Access) (now : String)
  | claimController (sessionId secretHash : String) (payload : Json) (now : String)
      (draw : WindowDraw)
  | configureNetwork (access : Access) (payload : Json) (now failedAt : String)
  | confirmNetwork (access : Access) (operationId : Json) (now : String)
  | rollbackNetwork (access : Access) (operationId : Json) (now : String)
  | resume (call : Nat) (outcome : PortOutcome) (now failedAt : String)
  | reconcileNetworkState (networkState : NetworkState) (now : String)
  | restart (now : String) (draw : WindowDraw)

def Suspended.resumed (call : Suspended) (outcome : PortOutcome) (now failedAt : String)
    (s : Store) : Progress × Store :=
  match call with
  | .configure request previous =>
    (s.configureResumed request previous outcome now failedAt).map .ended id
  | .confirm operationId => (s.confirmResumed operationId outcome now).map .ended id
  | .rollback operationId => (s.rollbackResumed operationId outcome now).map .ended id
  | .resetRead forgetWifiProfiles => s.resetReadResumed forgetWifiProfiles outcome now
  | .resetForget => s.resetForgetResumed outcome now
  | .resetReread => s.resetRereadResumed outcome now

namespace Host

def create (now : String) : Host := ⟨Store.create now, [], []⟩

def pursue (h : Host) (progress : Progress × Store) : Host :=
  match progress with
  | (.ended _, t) => { h with store := t }
  | (.suspended call, t) => { h with store := t, calls := h.calls ++ [call] }

variable (platform : Platform) (settings : BootstrapSettings)

def step (h : Host) : Action → Host
  | .issueSetupCode setupCode sessionId issuedAt =>
    { h with store := (h.store.issueNamedSetupCode platform setupCode sessionId issuedAt).2 }
  | .openControllerRecoveryWindow ttlSeconds setupCode sessionId issuedAt expiresAt =>
    { h with
      store := (h.store.openControllerRecoveryWindow platform ttlSeconds setupCode sessionId
        issuedAt expiresAt).2 }
  | .resetDevelopmentState forgetWifiProfiles =>
    h.pursue (Store.resetDevelopmentState settings forgetWifiProfiles, h.store)
  | .revokeController controllerId targetId now =>
    { h with store := (h.store.revokePeer controllerId targetId now).2 }
  | .issueControllerChallenge controllerId challenge now =>
    { h with
      challenges :=
        (issueControllerChallenge controllerId challenge now h.store h.challenges).2 }
  | .authenticateController payload now =>
    { h with challenges := (authenticateController platform payload now h.store h.challenges).2 }
  | .authorize sessionId secret now =>
    { h with store := (h.store.authorize platform sessionId secret now).2 }
  | .requireAuthorized access now => { h with store := (h.store.requireAuthorized access now).2 }
  | .claimController sessionId secretHash payload now draw =>
    { h with
      store := (h.store.claimAccess platform settings sessionId secretHash payload now draw).2 }
  | .configureNetwork access payload now failedAt =>
    h.pursue (h.store.configureNetwork platform access payload now failedAt)
  | .confirmNetwork access operationId now =>
    h.pursue (h.store.confirmNetwork platform access operationId now)
  | .rollbackNetwork access operationId now =>
    h.pursue (h.store.rollbackNetwork platform access operationId now)
  | .resume i outcome now failedAt =>
    match h.calls[i]? with
    | none => h
    | some call =>
      { h with calls := h.calls.eraseIdx i }.pursue (call.resumed outcome now failedAt h.store)
  | .reconcileNetworkState networkState now =>
    { h with store := (h.store.reconcileNetwork networkState now).2 }
  | .restart now draw => ⟨(h.store.restart platform settings now draw).2, [], []⟩

def writes : Suspended → PortOutcome → Option (String × BootstrapOperationState)
  | .configure request _, .returned _ => some (request.operationId, .waitingConfirmation)
  | .configure request _, .provisioningError _ => some (request.operationId, .failed)
  | .confirm operationId, .returned _ => some (operationId, .succeeded)
  | .rollback operationId, .returned _ => some (operationId, .failed)
  | _, _ => none

/-- The store calls an action can make, with what was checked before them. -/
inductive Served (h : Host) : Action → List StoreCall → Prop where
  | nothing (a : Action) : Served h a []
  | issued {setupCode sessionId issuedAt : String} :
      Served h (.issueSetupCode setupCode sessionId issuedAt)
        [.issueCommissioningSession sessionId (platform.sha256 setupCode) issuedAt none]
  | authorized {a : Action} (sessionId secretHash now : String) :
      Served h a [.authorizeCommissioningSession sessionId secretHash now]
  | recovered {ttlSeconds : Option Int} {setupCode sessionId issuedAt expiresAt : String}
      (seed : CommissioningSessionSeed) :
      Served h (.openControllerRecoveryWindow ttlSeconds setupCode sessionId issuedAt expiresAt)
        [.resetAuthority h.store.state.networkState issuedAt (some seed)]
  | revoked {controllerId : Json} {targetId now : String} {grant : ControllerGrant}
      (hActive : h.store.activeController controllerId = .ok grant) :
      Served h (.revokeController controllerId targetId now) [.revokeController targetId now]
  | claimed {sessionId secretHash now : String} {payload : Json} {draw : WindowDraw}
      {grant : ControllerGrant}
      (hGrant : controllerGrant platform payload h.store.state.resetEpoch now = .ok grant)
      (reopened : Option (String × String × String)) :
      Served h (.claimController sessionId secretHash payload now draw)
        (.claimController sessionId secretHash grant now ::
          (reopened.map fun (sessionId, secretHash, issuedAt) =>
            .issueCommissioningSession sessionId secretHash issuedAt none).toList)
  | configured {access : Access} {payload : Json} {now failedAt : String}
      (operation : BootstrapOperation) (hState : operation.state = .pending)
      (hNew : h.store.getOperation operation.operationId = none) :
      Served h (.configureNetwork access payload now failedAt)
        [.createOperation operation,
         .updateOperation operation.operationId .running .staging now none]
  | rolledBack {access : Access} {operationId : Json} {now : String}
      {operation : BootstrapOperation}
      (hNamed : h.store.namedOperation platform access operationId now = (.ok operation, h.store))
      (hState : operation.state ≠ .failed) :
      Served h (.rollbackNetwork access operationId now)
        [.updateOperation operation.operationId .compensating .rollingBack now none]
  | wrote {i : Nat} {outcome : PortOutcome} {now failedAt : String} {call : Suspended}
      {operationId : String} {state : BootstrapOperationState} (hCall : h.calls[i]? = some call)
      (hWrites : writes call outcome = some (operationId, state)) (networkState : NetworkState)
      (updatedAt : String) (errorCode : Option String) :
      Served h (.resume i outcome now failedAt)
        [.updateOperation operationId state networkState updatedAt errorCode]
  | reset {i : Nat} {snapshot : NetworkProvisioningSnapshot} {now failedAt : String}
      {forgetWifiProfiles : Bool} (hCall : h.calls[i]? = some (.resetRead forgetWifiProfiles)) :
      Served h (.resume i (.returned snapshot) now failedAt) [.resetAuthority snapshot.state now none]
  | reconciled {a : Action} (networkState : NetworkState) (now : String) :
      Served h a [.reconcileNetworkState networkState now]
  | restarted {now : String} {draw : WindowDraw} (opened : Option (String × String × String)) :
      Served h (.restart now draw)
        (.failInterruptedOperations now ::
          (opened.map fun (sessionId, secretHash, issuedAt) =>
            .issueCommissioningSession sessionId secretHash issuedAt none).toList)

def Reaches (h : Host) (a : Action) (t : Store) : Prop :=
  ∃ calls, Served platform h a calls ∧ t = run Store.apply h.store calls

end Host

namespace Store

def Checked (s t : Store) : Prop :=
  t = s ∨ ∃ sessionId secretHash now,
    t = s.apply (.authorizeCommissioningSession sessionId secretHash now)

theorem requireAuthorized_checked (access : Access) (now : String) (s : Store) :
    s.Checked (s.requireAuthorized access now).2 := by
  cases access with
  | setup sessionId secretHash => exact .inr ⟨sessionId, secretHash, now, rfl⟩
  | controller grant =>
    simp only [requireAuthorized]
    split
    · exact .inl rfl
    · split
      · exact .inl rfl
      · exact .inl rfl

theorem requireAuthorized_controller (grant : ControllerGrant) (now : String) (s : Store) :
    (s.requireAuthorized (.controller grant) now).2 = s := by
  simp only [requireAuthorized]
  split
  · rfl
  · split
    · rfl
    · rfl

theorem requireHostAdmin_checked (access : Access) (now : String) (s : Store) :
    s.Checked (s.requireHostAdmin access now).2 := by
  have hChecked := requireAuthorized_checked access now s
  unfold requireHostAdmin
  split
  · rename_i error t hEq
    rw [hEq] at hChecked
    exact hChecked
  · rename_i t hEq
    rw [hEq] at hChecked
    cases access with
    | setup => exact hChecked
    | controller => exact hChecked

theorem requireHostAdmin_ok {access : Access} {now : String} {s t : Store}
    (h : s.requireHostAdmin access now = (.ok (), t)) : t = s := by
  unfold requireHostAdmin at h
  split at h
  · cases h
  · rename_i u hEq
    cases access with
    | setup => cases h
    | controller grant =>
      have hSame := requireAuthorized_controller grant now s
      rw [hEq] at hSame
      cases h
      exact hSame

theorem namedOperation_ok {platform : Platform} {access : Access} {operationId : Json}
    {now : String} {s t : Store} {operation : BootstrapOperation}
    (h : s.namedOperation platform access operationId now = (.ok operation, t)) :
    t = s ∧ s.getOperation operation.operationId = some operation := by
  unfold namedOperation at h
  split at h
  · cases h
  · rename_i u hAdmin
    obtain rfl := requireHostAdmin_ok hAdmin
    split at h
    · cases h
    · split at h
      · cases h
      · rename_i hFound
        cases h
        refine ⟨rfl, ?_⟩
        rw [(lookup_mem hFound).2]
        exact hFound

theorem namedOperation_error {platform : Platform} {access : Access} {operationId : Json}
    {now : String} {s t : Store} {error : ServiceError}
    (h : s.namedOperation platform access operationId now = (.error error, t)) : s.Checked t := by
  have hChecked := requireHostAdmin_checked access now s
  unfold namedOperation at h
  split at h
  · rename_i hEq
    rw [hEq] at hChecked
    cases h
    exact hChecked
  · rename_i hEq
    rw [hEq] at hChecked
    split at h
    · cases h
      exact hChecked
    · split at h
      · cases h
        exact hChecked
      · cases h

theorem openWindow_cases {sha256 : String → String} {settings : BootstrapSettings}
    {draw : WindowDraw} {s t : Store}
    (h : t = (s.openFactoryWindow sha256 settings draw).2 ∨
      t = (s.reopenStandingClaimWindow sha256 settings draw).2) :
    ∃ opened : Option (String × String × String),
      t = run apply s (opened.map fun (sessionId, secretHash, issuedAt) =>
        StoreCall.issueCommissioningSession sessionId secretHash issuedAt none).toList := by
  have hIssue : ∀ code : String, ∃ opened : Option (String × String × String),
      (s.issueSetupCode sha256 code draw.sessionId draw.issuedAt).2 =
        run apply s (opened.map fun (sessionId, secretHash, issuedAt) =>
          StoreCall.issueCommissioningSession sessionId secretHash issuedAt none).toList :=
    fun code => ⟨some (draw.sessionId, sha256 code, draw.issuedAt), rfl⟩
  rcases h with rfl | rfl
  · unfold openFactoryWindow
    split
    · exact ⟨none, rfl⟩
    · split
      · exact ⟨none, rfl⟩
      · split
        · exact ⟨none, rfl⟩
        · exact hIssue _
  · unfold reopenStandingClaimWindow
    split
    · exact ⟨none, rfl⟩
    · split
      · exact ⟨none, rfl⟩
      · split
        · exact ⟨none, rfl⟩
        · exact hIssue _

theorem forall_opened {P : StoreCall → Prop} (h : ∀ sessionId secretHash issuedAt,
      P (.issueCommissioningSession sessionId secretHash issuedAt none))
    (opened : Option (String × String × String)) :
    ∀ call ∈ (opened.map fun (sessionId, secretHash, issuedAt) =>
      StoreCall.issueCommissioningSession sessionId secretHash issuedAt none).toList, P call := by
  intro call hCall
  cases opened with
  | none => cases hCall
  | some drawn =>
    rw [Option.map_some, Option.toList_some, List.mem_singleton] at hCall
    rw [hCall]
    exact h drawn.1 drawn.2.1 drawn.2.2

end Store

namespace Host

variable {platform : Platform} {settings : BootstrapSettings}

theorem Reaches.nothing {h : Host} {a : Action} : h.Reaches platform a h.store :=
  ⟨[], .nothing a, rfl⟩

theorem Reaches.of_checked {h : Host} {a : Action} {t : Store} (hChecked : h.store.Checked t) :
    h.Reaches platform a t := by
  rcases hChecked with rfl | ⟨sessionId, secretHash, now, rfl⟩
  · exact .nothing
  · exact ⟨_, .authorized sessionId secretHash now, rfl⟩

theorem pursue_store (h : Host) (progress : Progress × Store) :
    (h.pursue progress).store = progress.2 := by
  obtain ⟨progress, t⟩ := progress
  cases progress with
  | ended => rfl
  | suspended => rfl

theorem reaches_authorize (h : Host) (sessionId secret : Json) (now : String) :
    h.Reaches platform (.authorize sessionId secret now)
      (h.store.authorize platform sessionId secret now).2 := by
  unfold Store.authorize
  split
  · split
    · exact .nothing
    · exact ⟨_, .authorized _ _ now, rfl⟩
  · exact .nothing

theorem reaches_revokePeer (h : Host) (controllerId : Json) (targetId now : String) :
    h.Reaches platform (.revokeController controllerId targetId now)
      (h.store.revokePeer controllerId targetId now).2 := by
  unfold Store.revokePeer
  split
  · exact .nothing
  · rename_i grant hActive
    exact ⟨_, .revoked hActive, rfl⟩

theorem reaches_claimAccess (h : Host) (sessionId secretHash : String) (payload : Json)
    (now : String) (draw : WindowDraw) :
    h.Reaches platform (.claimController sessionId secretHash payload now draw)
      (h.store.claimAccess platform settings sessionId secretHash payload now draw).2 := by
  unfold Store.claimAccess
  split
  · exact .nothing
  · rename_i grant hGrant
    have hClaim : (h.store.claimController sessionId secretHash grant now).2 =
        h.store.apply (.claimController sessionId secretHash grant now) := rfl
    split
    · rename_i given t hEq
      obtain ⟨opened, hOpened⟩ := Store.openWindow_cases (.inr (rfl :
        (t.reopenStandingClaimWindow platform.sha256 settings draw).2 = _))
      refine ⟨_, .claimed hGrant opened, ?_⟩
      rw [run_cons, ← hClaim, hEq]
      exact hOpened
    · rename_i hEq
      refine ⟨_, .claimed hGrant none, ?_⟩
      rw [run_cons, ← hClaim, hEq]
      rfl
    · rename_i hEq
      refine ⟨_, .claimed hGrant none, ?_⟩
      rw [run_cons, ← hClaim, hEq]
      rfl

theorem reaches_configureNetwork (h : Host) (access : Access) (payload : Json)
    (now failedAt : String) :
    h.Reaches platform (.configureNetwork access payload now failedAt)
      (h.store.configureNetwork platform access payload now failedAt).2 := by
  have hChecked := Store.requireHostAdmin_checked access now h.store
  unfold Store.configureNetwork
  split
  · rename_i hEq
    rw [hEq] at hChecked
    exact .of_checked hChecked
  · rename_i t hEq
    obtain rfl := Store.requireHostAdmin_ok hEq
    split
    · exact .nothing
    · split
      · split
        · exact .nothing
        · exact .nothing
      · rename_i request _ hNew
        simp only
        split
        · rename_i hEq
          rw [Store.createOperation_error hEq]
          exact .nothing
        · rename_i hEq
          rw [Store.createOperation_error hEq]
          exact .nothing
        · rename_i stored u hEq
          obtain ⟨rfl, hStored⟩ := Store.createOperation_new hNew hEq
          rw [Store.updateOperation_found hStored]
          exact ⟨_, .configured _ rfl hNew, rfl⟩

theorem reaches_confirmNetwork (h : Host) (access : Access) (operationId : Json) (now : String) :
    h.Reaches platform (.confirmNetwork access operationId now)
      (h.store.confirmNetwork platform access operationId now).2 := by
  unfold Store.confirmNetwork
  split
  · rename_i hEq
    exact .of_checked (Store.namedOperation_error hEq)
  · rename_i operation t hEq
    obtain ⟨rfl, _⟩ := Store.namedOperation_ok hEq
    split
    · exact .nothing
    · split
      · exact .nothing
      · exact .nothing

theorem reaches_rollbackNetwork (h : Host) (access : Access) (operationId : Json) (now : String) :
    h.Reaches platform (.rollbackNetwork access operationId now)
      (h.store.rollbackNetwork platform access operationId now).2 := by
  unfold Store.rollbackNetwork
  split
  · rename_i hEq
    exact .of_checked (Store.namedOperation_error hEq)
  · rename_i operation t hEq
    obtain ⟨rfl, hFound⟩ := Store.namedOperation_ok hEq
    split
    · exact .nothing
    · rename_i hState
      rw [Store.updateOperation_found hFound]
      exact ⟨_, .rolledBack hEq hState, rfl⟩

theorem reaches_update {h : Host} {i : Nat} {outcome : PortOutcome} {now failedAt : String}
    {call : Suspended} {operationId : String} {state : BootstrapOperationState}
    (hCall : h.calls[i]? = some call) (hWrites : writes call outcome = some (operationId, state))
    (networkState : NetworkState) (updatedAt : String) (errorCode : Option String) :
    h.Reaches platform (.resume i outcome now failedAt)
      (h.store.updateOperation operationId state networkState updatedAt errorCode).2 :=
  ⟨_, .wrote hCall hWrites networkState updatedAt errorCode, rfl⟩

theorem configureFailed_store (operationId : String) (previous : NetworkState)
    (code message failedAt : String) (s : Store) :
    (s.configureFailed operationId previous code message failedAt).2 =
      (s.updateOperation operationId .failed
        (if previous = .connected then .connected else .degraded) failedAt (some code)).2 := by
  simp only [Store.configureFailed]
  split
  · rename_i hEq
    rw [hEq]
  · rename_i hEq
    rw [hEq]

theorem reaches_configureResumed {h : Host} {i : Nat} {outcome : PortOutcome}
    {request : NetworkChangeRequest} {previous : NetworkState} (now failedAt : String)
    (hCall : h.calls[i]? = some (.configure request previous)) :
    h.Reaches platform (.resume i outcome now failedAt)
      (h.store.configureResumed request previous outcome now failedAt).2 := by
  cases outcome with
  | returned snapshot =>
    cases hFound : h.store.getOperation request.operationId with
    | none =>
      have hFailed := configureFailed_store request.operationId previous
        "operation_conflict" Conflict.operationMissing.message failedAt h.store
      simp only [Store.configureResumed, Store.updateOperation_missing hFound] at hFailed ⊢
      rw [hFailed]
      exact .nothing
    | some current =>
      have hReaches : h.Reaches platform (.resume i (.returned snapshot) now failedAt) _ :=
        reaches_update hCall rfl .staging now none
      simp only [Store.configureResumed, Store.updateOperation_found hFound] at hReaches ⊢
      exact hReaches
  | provisioningError message =>
    simp only [Store.configureResumed]
    rw [configureFailed_store]
    exact reaches_update hCall rfl _ failedAt _
  | raised => exact .nothing

theorem reaches_confirmResumed {h : Host} {i : Nat} {outcome : PortOutcome}
    {operationId : String} (now failedAt : String)
    (hCall : h.calls[i]? = some (.confirm operationId)) :
    h.Reaches platform (.resume i outcome now failedAt)
      (h.store.confirmResumed operationId outcome now).2 := by
  cases outcome with
  | returned snapshot =>
    exact reaches_update hCall rfl .connected now none
  | provisioningError => exact .nothing
  | raised => exact .nothing

theorem reaches_rollbackResumed {h : Host} {i : Nat} {outcome : PortOutcome}
    {operationId : String} (now failedAt : String)
    (hCall : h.calls[i]? = some (.rollback operationId)) :
    h.Reaches platform (.resume i outcome now failedAt)
      (h.store.rollbackResumed operationId outcome now).2 := by
  cases outcome with
  | returned snapshot =>
    exact reaches_update hCall rfl snapshot.state now _
  | provisioningError => exact .nothing
  | raised => exact .nothing

theorem reaches_resetReadResumed {h : Host} {i : Nat} {outcome : PortOutcome}
    {forgetWifiProfiles : Bool} (now failedAt : String)
    (hCall : h.calls[i]? = some (.resetRead forgetWifiProfiles)) :
    h.Reaches platform (.resume i outcome now failedAt)
      (h.store.resetReadResumed forgetWifiProfiles outcome now).2 := by
  cases outcome with
  | returned snapshot =>
    refine ⟨_, .reset hCall, ?_⟩
    simp only [Store.resetReadResumed, Store.resetAuthority]
    split
    · rfl
    · rfl
  | provisioningError => exact .nothing
  | raised => exact .nothing

theorem reaches_reconcileNetwork (h : Host) (a : Action) (networkState : NetworkState)
    (now : String) : h.Reaches platform a (h.store.reconcileNetwork networkState now).2 :=
  ⟨_, .reconciled networkState now, rfl⟩

theorem reaches_resumed {h : Host} {i : Nat} {call : Suspended} (outcome : PortOutcome)
    (now failedAt : String) (hCall : h.calls[i]? = some call) :
    h.Reaches platform (.resume i outcome now failedAt)
      (call.resumed outcome now failedAt h.store).2 := by
  cases call with
  | configure request previous => exact reaches_configureResumed now failedAt hCall
  | confirm operationId => exact reaches_confirmResumed now failedAt hCall
  | rollback operationId => exact reaches_rollbackResumed now failedAt hCall
  | resetRead forgetWifiProfiles => exact reaches_resetReadResumed now failedAt hCall
  | resetForget =>
    cases outcome with
    | returned snapshot => exact reaches_reconcileNetwork h _ snapshot.state now
    | provisioningError => exact .nothing
    | raised => exact .nothing
  | resetReread =>
    cases outcome with
    | returned snapshot =>
      have hReaches : h.Reaches platform (.resume i (.returned snapshot) now failedAt) _ :=
        reaches_reconcileNetwork h _ snapshot.state now
      simp only [Suspended.resumed, Store.resetRereadResumed]
      split
      · rename_i hEq
        rwa [hEq] at hReaches
      · rename_i hEq
        rwa [hEq] at hReaches
    | provisioningError => exact .nothing
    | raised => exact .nothing

theorem step_reaches (platform : Platform) (settings : BootstrapSettings) (h : Host)
    (a : Action) :
    h.Reaches platform a (h.step platform settings a).store := by
  cases a with
  | issueSetupCode setupCode sessionId issuedAt =>
    simp only [step, Store.issueNamedSetupCode]
    split
    · exact ⟨_, .issued, rfl⟩
    · exact .nothing
  | openControllerRecoveryWindow ttlSeconds setupCode sessionId issuedAt expiresAt =>
    simp only [step, Store.openControllerRecoveryWindow]
    split
    · exact ⟨_, .recovered _, rfl⟩
    · exact .nothing
  | resetDevelopmentState forgetWifiProfiles =>
    simp only [step, pursue_store]
    exact .nothing
  | revokeController controllerId targetId now => exact reaches_revokePeer h controllerId targetId now
  | issueControllerChallenge => exact .nothing
  | authenticateController => exact .nothing
  | authorize sessionId secret now => exact reaches_authorize h sessionId secret now
  | requireAuthorized access now => exact .of_checked (Store.requireAuthorized_checked access now h.store)
  | claimController sessionId secretHash payload now draw =>
    exact reaches_claimAccess h sessionId secretHash payload now draw
  | configureNetwork access payload now failedAt =>
    simp only [step, pursue_store]
    exact reaches_configureNetwork h access payload now failedAt
  | confirmNetwork access operationId now =>
    simp only [step, pursue_store]
    exact reaches_confirmNetwork h access operationId now
  | rollbackNetwork access operationId now =>
    simp only [step, pursue_store]
    exact reaches_rollbackNetwork h access operationId now
  | resume i outcome now failedAt =>
    simp only [step]
    split
    · exact .nothing
    · rename_i call hCall
      rw [pursue_store]
      exact reaches_resumed outcome now failedAt hCall
  | reconcileNetworkState networkState now => exact reaches_reconcileNetwork h _ networkState now
  | restart now draw =>
    obtain ⟨opened, hOpened⟩ := Store.openWindow_cases (.inl (rfl :
      ((h.store.failInterruptedOperations now).2.openFactoryWindow platform.sha256 settings draw).2
        = _))
    exact ⟨_, .restarted opened, hOpened⟩

def after (platform : Platform) (settings : BootstrapSettings) (now : String)
    (actions : List Action) : Host :=
  run (step platform settings) (create now) actions

theorem keyed_step {h : Host} (a : Action) (hKeyed : h.store.Keyed) :
    (h.step platform settings a).store.Keyed := by
  obtain ⟨calls, _, hStore⟩ := step_reaches platform settings h a
  rw [hStore]
  exact run_invariant Store.keyed_apply hKeyed calls

end Host

end EidolonAdmin.Bootstrap
