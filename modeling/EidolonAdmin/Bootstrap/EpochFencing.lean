import EidolonAdmin.Bootstrap.ClaimInvariant
import EidolonAdmin.Bootstrap.Host

/-! # A reset or a revocation withdraws authority until a new claim

Authority is remembered in grants, LAN challenges, commissioning authorizations
and Local API sessions. Each check reads the store again, so what was obtained
before a reset or a revocation passes no check until the Controller completes a
new claim on an open window with its secret.
-/

namespace EidolonAdmin.Bootstrap

open Foundation Foundation.Table Foundation.Transition

inductive Check where
  | activeController (controllerId : Json)
  | validateController (controllerId resetEpoch : Json)
  | authenticateController (payload : Json) (now : Rat)
  | authorize (sessionId secret : Json) (now : String)
  | authorizeController (controllerId : Json)
  | requireAuthorized (access : Access) (now : String)

inductive Authority where
  | controller (controllerId : String)
  | session (sessionId : String) (now : String)
deriving DecidableEq, Repr

def Access.authority (now : String) : Access → Authority
  | .setup sessionId _ => .session sessionId now
  | .controller grant => .controller grant.controllerId

namespace Store

def HoldsHost (s : Store) (controllerId : String) : Prop :=
  ∃ grant ∈ s.activeGrants, grant.controllerId = controllerId

def Backs (s : Store) : Authority → Prop
  | .controller controllerId => s.HoldsHost controllerId
  | .session sessionId now => ∃ row, s.sessionRow? sessionId = some row ∧ row.isOpen now = true

theorem getController_active {s : Store} {controllerId : String} {grant : ControllerGrant}
    (hFound : s.getController controllerId = some grant) (hLive : grant.revokedAt = none) :
    grant ∈ s.activeGrants ∧ grant.controllerId = controllerId := by
  obtain ⟨hMem, hId, hEpoch⟩ := grantRow?_mem hFound
  exact ⟨mem_activeGrants.mpr ⟨hMem, hLive, hEpoch⟩, hId⟩

theorem heldBy_ok {s : Store} {refusal : ServiceError} {controllerId : Json}
    {grant : ControllerGrant} (h : s.heldBy refusal controllerId = .ok grant) :
    s.HoldsHost grant.controllerId := by
  unfold heldBy at h
  split at h
  · split at h
    · split at h
      · rename_i hFound
        split at h
        · rename_i hHolds
          cases h
          exact ⟨grant, (getController_active hFound (by simpa using hHolds.1)).1, rfl⟩
        · cases h
      · cases h
    · cases h
  · cases h

theorem heldBy_named {s : Store} {refusal : ServiceError} {controllerId : String}
    {grant : ControllerGrant} (h : s.heldBy refusal (.str controllerId) = .ok grant) :
    grant.controllerId = controllerId := by
  unfold heldBy at h
  simp only at h
  split at h
  · split at h
    · rename_i hFound
      split at h
      · cases h
        exact (grantRow?_mem hFound).2.1
      · cases h
    · cases h
  · cases h

theorem validateController_ok {s : Store} {controllerId resetEpoch : Json}
    {principal : ControllerPrincipal}
    (h : s.validateController controllerId resetEpoch = .ok principal) :
    s.HoldsHost principal.controllerId := by
  unfold validateController at h
  split at h
  · cases h
  · rename_i grant hHeld
    split at h
    · cases h
      exact heldBy_ok hHeld
    · cases h

theorem authorizeCommissioningSession_ok {s : Store} {sessionId secretHash now : String}
    (h : denySetup (s.authorizeCommissioningSession sessionId secretHash now).1 = .ok ()) :
    s.Backs (.session sessionId now) := by
  rcases authorize_cases sessionId secretHash now s with ⟨row, hRow, hOpen, _, hEq⟩ | hEq | hEq
  · exact ⟨row, hRow, hOpen⟩
  · rw [hEq] at h
    cases h
  · rw [hEq] at h
    cases h

theorem requireAuthorized_ok {s : Store} {access : Access} {now : String}
    (h : (s.requireAuthorized access now).1 = .ok ()) : s.Backs (access.authority now) := by
  cases access with
  | setup sessionId secretHash => exact authorizeCommissioningSession_ok h
  | controller grant =>
    simp only [requireAuthorized] at h
    split at h
    · cases h
    · rename_i current hFound
      split at h
      · rename_i hCurrent
        obtain ⟨hMem, hId⟩ := getController_active hFound (by simpa using hCurrent.1)
        exact ⟨current, hMem, hId⟩
      · cases h

end Store

theorem authenticateController_ok {platform : Platform} {payload : Json} {now : Rat} {s : Store}
    {challenges : Challenges} {principal : ControllerPrincipal}
    (h : (authenticateController platform payload now s challenges).1 = .ok principal) :
    s.HoldsHost principal.controllerId := by
  unfold authenticateController at h
  split at h
  · simp only at h
    split at h
    · cases h
    · split at h
      · cases h
      · split at h
        · split at h
          · cases h
          · rename_i grant hHeld
            split at h
            · cases h
              exact Store.heldBy_ok hHeld
            · cases h
        · cases h
  · cases h

theorem authorize_ok {platform : Platform} {sessionId secret : Json} {now : String} {s : Store}
    {access : Access} (h : (s.authorize platform sessionId secret now).1 = .ok access) :
    s.Backs (access.authority now) := by
  unfold Store.authorize at h
  split at h
  · split at h
    · cases h
    · rename_i sessionId secret _
      simp only at h
      cases hDenied : Store.denySetup (s.authorizeCommissioningSession sessionId
          (platform.sha256 secret) now).1 with
      | error error =>
        rw [hDenied] at h
        cases h
      | ok =>
        rw [hDenied] at h
        cases h
        exact Store.authorizeCommissioningSession_ok hDenied
  · cases h

namespace Check

def passes (platform : Platform) (h : Host) : Check → Option Authority
  | activeController controllerId =>
    (h.store.activeController controllerId).toOption.map fun grant => .controller grant.controllerId
  | validateController controllerId resetEpoch =>
    (h.store.validateController controllerId resetEpoch).toOption.map fun principal =>
      .controller principal.controllerId
  | authenticateController payload now =>
    (Bootstrap.authenticateController platform payload now h.store h.challenges).1.toOption.map
      fun principal => .controller principal.controllerId
  | authorize sessionId secret now =>
    (h.store.authorize platform sessionId secret now).1.toOption.map (Access.authority now)
  | authorizeController controllerId =>
    (h.store.heldBy .controllerDenied controllerId).toOption.map fun grant =>
      .controller grant.controllerId
  | requireAuthorized access now =>
    (h.store.requireAuthorized access now).1.toOption.map fun _ => access.authority now

theorem toOption_eq_some {ε α : Type} {x : Except ε α} {a : α} (h : x.toOption = some a) :
    x = .ok a := by
  cases x with
  | error => cases h
  | ok => exact congrArg _ (Option.some.inj h)

theorem passes_backed {platform : Platform} {h : Host} {check : Check} {authority : Authority}
    (hPasses : check.passes platform h = some authority) : h.store.Backs authority := by
  cases check with
  | activeController controllerId =>
    obtain ⟨grant, hGrant, rfl⟩ := Option.map_eq_some_iff.mp hPasses
    exact Store.heldBy_ok (toOption_eq_some hGrant)
  | validateController controllerId resetEpoch =>
    obtain ⟨principal, hPrincipal, rfl⟩ := Option.map_eq_some_iff.mp hPasses
    exact Store.validateController_ok (toOption_eq_some hPrincipal)
  | authenticateController payload now =>
    obtain ⟨principal, hPrincipal, rfl⟩ := Option.map_eq_some_iff.mp hPasses
    exact authenticateController_ok (toOption_eq_some hPrincipal)
  | authorize sessionId secret now =>
    obtain ⟨access, hAccess, rfl⟩ := Option.map_eq_some_iff.mp hPasses
    exact authorize_ok (toOption_eq_some hAccess)
  | authorizeController controllerId =>
    obtain ⟨grant, hGrant, rfl⟩ := Option.map_eq_some_iff.mp hPasses
    exact Store.heldBy_ok (toOption_eq_some hGrant)
  | requireAuthorized access now =>
    obtain ⟨_, hPassed, rfl⟩ := Option.map_eq_some_iff.mp hPasses
    exact Store.requireAuthorized_ok (toOption_eq_some hPassed)

end Check

namespace StoreCall

def isReset : StoreCall → Bool
  | .resetAuthority .. => true
  | _ => false

def isClaim : StoreCall → Bool
  | .claimController .. => true
  | _ => false

end StoreCall

namespace Store

def Spent (s : Store) (sessionId : String) : Prop :=
  ∃ row, s.sessionRow? sessionId = some row ∧ row.unspent = false

theorem not_backs_of_spent {s : Store} {sessionId : String} (h : s.Spent sessionId) (now : String) :
    ¬ s.Backs (.session sessionId now) := by
  rintro ⟨row, hRow, hOpen⟩
  obtain ⟨spent, hSpent, hUnspent⟩ := h
  rw [hRow] at hSpent
  cases hSpent
  rw [CommissioningSessionMetadata.unspent_of_isOpen hOpen] at hUnspent
  cases hUnspent

theorem spent_updateWhere {s t : Store} {p : SessionRow → Bool} {f : SessionRow → SessionRow}
    {extra : List SessionRow} (hSessions : t.sessions = updateWhere p f s.sessions ++ extra)
    (hKey : ∀ row, (f row).sessionId = row.sessionId)
    (hKeeps : ∀ row : SessionRow, row.unspent = false → (f row).unspent = false) {sessionId : String}
    (h : s.Spent sessionId) : t.Spent sessionId := by
  obtain ⟨row, hRow, hSpent⟩ := h
  refine ⟨if p row then f row else row, ?_, ?_⟩
  · rw [sessionRow?] at hRow
    rw [sessionRow?, hSessions, lookup_append, lookup_updateWhere hKey, hRow]
    rfl
  · split
    · exact hKeeps row hSpent
    · exact hSpent

theorem spent_effect {s t : Store} {call : StoreCall} (hEffect : Effect s call t)
    {sessionId : String} (h : s.Spent sessionId) : t.Spent sessionId := by
  cases hEffect with
  | refused | revoked | created | updated | interrupted | reconciled => exact h
  | issued | recovered =>
    refine spent_updateWhere rfl ?_ ?_ h
    · exact fun _ => rfl
    · exact fun row _ => by simp [CommissioningSessionMetadata.unspent]
  | counted =>
    refine spent_updateWhere (List.append_nil _).symm ?_ ?_ h
    · exact fun _ => rfl
    · exact fun _ hRow => hRow
  | resumed | reset =>
    refine spent_updateWhere (List.append_nil _).symm ?_ ?_ h
    · exact fun _ => rfl
    · exact fun row _ => by simp [CommissioningSessionMetadata.unspent]
  | claimed _ _ _ _ hInsert =>
    rw [insertGrant_frame hInsert]
    refine spent_updateWhere (List.append_nil _).symm ?_ ?_ h
    · exact fun _ => rfl
    · exact fun row _ => by simp [CommissioningSessionMetadata.unspent]

theorem spent_of_revokeUnspent {s t : Store} {now : String} {extra : List SessionRow}
    (hSessions : t.sessions = revokeUnspent now s.sessions ++ extra) {row : SessionRow}
    (hRow : row ∈ s.sessions) : t.Spent row.sessionId := by
  cases hFound : lookup (fun row => row.sessionId) row.sessionId s.sessions with
  | none => exact absurd rfl (lookup_eq_none_iff.mp hFound row hRow)
  | some found =>
    refine ⟨if found.unspent then { found with revokedAt := some now } else found, ?_, ?_⟩
    · rw [sessionRow?, hSessions, lookup_append, revokeUnspent, lookup_updateWhere, hFound]
      · rfl
      · exact fun _ => rfl
    · split
      · simp [CommissioningSessionMetadata.unspent]
      · rename_i hSpent
        simpa using hSpent

theorem resetEpoch_effect {s t : Store} {call : StoreCall} (hEffect : Effect s call t) :
    t.state.resetEpoch = s.state.resetEpoch ∨
    (call.isReset = true ∧ t.state.resetEpoch = s.state.resetEpoch + 1 ∧ t.activeGrants = [] ∧
      ∀ row ∈ s.sessions, t.Spent row.sessionId) := by
  cases hEffect with
  | refused | issued | counted | resumed | revoked | created | updated | interrupted | reconciled =>
    exact .inl rfl
  | claimed _ _ _ _ hInsert =>
    rw [insertGrant_frame hInsert]
    exact .inl rfl
  | reset =>
    exact .inr ⟨rfl, rfl, withdrawAuthority_activeGrants s _ _,
      fun row hRow => spent_of_revokeUnspent (List.append_nil _).symm hRow⟩
  | recovered =>
    exact .inr ⟨rfl, rfl, withdrawAuthority_activeGrants s _ _,
      fun row hRow => spent_of_revokeUnspent rfl hRow⟩

theorem holdsHost_effect {s t : Store} {call : StoreCall} (hEffect : Effect s call t)
    (hClaim : call.isClaim = false) {controllerId : String} (h : t.HoldsHost controllerId) :
    s.HoldsHost controllerId := by
  cases hEffect with
  | refused | issued | counted | created | updated | interrupted | reconciled => exact h
  | resumed | claimed => cases hClaim
  | revoked =>
    obtain ⟨grant, hGrant, hId⟩ := h
    obtain ⟨hMem, hLive, hEpoch⟩ := mem_activeGrants.mp hGrant
    obtain ⟨old, hOld, rfl⟩ := mem_updateWhere.mp hMem
    split at hLive
    · cases hLive
    · rename_i hOther
      simp only [hOther] at hId hEpoch
      exact ⟨old, mem_activeGrants.mpr ⟨hOld, hLive, hEpoch⟩, hId⟩
  | @reset networkState now | @recovered networkState now =>
    obtain ⟨grant, hGrant, _⟩ := h
    have hStored : grant ∈ (s.withdrawAuthority networkState now).activeGrants := hGrant
    rw [withdrawAuthority_activeGrants] at hStored
    cases hStored

theorem claimController_holdsHost {s t : Store} {sessionId secretHash now : String}
    {grant : ControllerGrant} {result : Except StoreError ControllerGrant}
    (hClaim : s.claimController sessionId secretHash grant now = (result, t)) {controllerId : String}
    (h : t.HoldsHost controllerId) (hBefore : ¬ s.HoldsHost controllerId) :
    ∃ given row, result = .ok given ∧ given.controllerId = controllerId ∧
      s.sessionRow? sessionId = some row ∧ row.isOpen now = true ∧ row.secretHash = secretHash := by
  cases result with
  | error error =>
    exfalso
    rcases claimController_error hClaim with rfl | rfl
    · exact hBefore h
    · exact hBefore h
  | ok given =>
    rcases claimController_ok hClaim with ⟨_, _, _, _, _, rfl⟩ |
      ⟨row, hRow, hOpen, hSecret, _, ⟨_, rfl⟩ | ⟨rfl, inserted, hInsert, rfl⟩⟩
    · exact absurd h hBefore
    · exact absurd h hBefore
    · refine ⟨given, row, rfl, ?_, hRow, hOpen, hSecret⟩
      obtain ⟨active, hActive, hId⟩ := h
      by_contra hOther
      apply hBefore
      rcases insertGrant_cases hInsert with ⟨_, rfl⟩ | ⟨_, _, rfl⟩
      · obtain ⟨hMem, hLive, hEpoch⟩ := mem_activeGrants.mp hActive
        obtain ⟨old, hOld, rfl⟩ := mem_updateWhere.mp hMem
        split at hId
        · rename_i hKey
          simp only [decide_eq_true_eq, Prod.mk.injEq] at hKey
          exact absurd (hKey.1.symm.trans hId) hOther
        · rename_i hKey
          simp only [hKey] at hLive hEpoch
          exact ⟨old, mem_activeGrants.mpr ⟨hOld, hLive, hEpoch⟩, hId⟩
      · obtain ⟨hMem, hLive, hEpoch⟩ := mem_activeGrants.mp hActive
        rcases List.mem_append.mp hMem with hOld | hNew
        · exact ⟨active, mem_activeGrants.mpr ⟨hOld, hLive, hEpoch⟩, hId⟩
        · rw [List.mem_singleton.mp hNew] at hId
          exact absurd hId hOther

theorem revokeController_ok {s t : Store} {controllerId now : String} {revoked : ControllerGrant}
    (h : s.revokeController controllerId now = (.ok revoked, t)) : ¬ t.HoldsHost controllerId := by
  unfold revokeController at h
  split at h
  · cases h
  · split at h
    · cases h
    · cases h
      rintro ⟨grant, hGrant, hId⟩
      obtain ⟨hMem, hLive, hEpoch⟩ := mem_activeGrants.mp hGrant
      obtain ⟨old, _, rfl⟩ := mem_updateWhere.mp hMem
      split at hLive
      · cases hLive
      · rename_i hKey
        simp only [hKey] at hId hEpoch
        have hOldId : old.controllerId = controllerId := hId
        have hOldEpoch : old.resetEpoch = s.state.resetEpoch := hEpoch
        exact hKey (by simp [hOldId, hOldEpoch])

end Store

namespace Host

variable (platform : Platform) (settings : BootstrapSettings)

/-- The action calls `reset_authority`: it opens a recovery window, or it is the
part of a development reset behind the reading of the network. -/
def Resets (h : Host) : Action → Prop
  | .openControllerRecoveryWindow .. => True
  | .resume i (.returned _) _ _ => ∃ forget, h.calls[i]? = some (.resetRead forget)
  | _ => False

/-- The action is a claim that returns a grant of the Controller, on a window that
is open and whose secret was presented. -/
def CompletesClaim (h : Host) (a : Action) (controllerId : String) : Prop :=
  ∃ sessionId secretHash payload now draw given row,
    a = .claimController sessionId secretHash payload now draw ∧
    (h.store.claimAccess platform settings sessionId secretHash payload now draw).1 = .ok given ∧
    given.controllerId = controllerId ∧ h.store.sessionRow? sessionId = some row ∧
    row.isOpen now = true ∧ row.secretHash = secretHash

/-- The action took the authority of the Controller away: it changed the epoch, or
it revoked this Controller. -/
def Withdraws (h : Host) (a : Action) (controllerId : String) : Prop :=
  (h.step platform settings a).store.state.resetEpoch ≠ h.store.state.resetEpoch ∨
  ∃ actor now revoked, a = .revokeController actor controllerId now ∧
    (h.store.revokePeer actor controllerId now).1 = .ok revoked

variable {platform} {settings}

theorem step_resetEpoch (h : Host) (a : Action) :
    (h.step platform settings a).store.state.resetEpoch = h.store.state.resetEpoch ∨
    (h.Resets a ∧
      (h.step platform settings a).store.state.resetEpoch = h.store.state.resetEpoch + 1 ∧
      (h.step platform settings a).store.activeGrants = [] ∧
      ∀ row ∈ h.store.sessions, (h.step platform settings a).store.Spent row.sessionId) := by
  obtain ⟨calls, hServed, hStore⟩ := step_reaches platform settings h a
  rw [hStore]
  have hSame : ∀ calls : List StoreCall, (∀ call ∈ calls, call.isReset = false) →
      (run Store.apply h.store calls).state.resetEpoch = h.store.state.resetEpoch := by
    intro calls hCalls
    refine Meets.run_invariant (P := fun s => s.state.resetEpoch = h.store.state.resetEpoch) ?_ rfl
      (Meets.of_mem h.store hCalls)
    intro s call hNot hEpoch
    rcases Store.resetEpoch_effect (Store.apply_effect s call) with hKept | ⟨hReset, _⟩
    · exact hKept.trans hEpoch
    · rw [hNot] at hReset
      cases hReset
  cases hServed with
  | nothing => exact .inl rfl
  | issued | authorized | revoked | configured | rolledBack | wrote | reconciled =>
    exact .inl (hSame _ (by simp [StoreCall.isReset]))
  | claimed _ reopened =>
    refine .inl (hSame _ ?_)
    cases reopened with
    | none => simp [StoreCall.isReset]
    | some => simp [StoreCall.isReset]
  | restarted opened =>
    refine .inl (hSame _ ?_)
    cases opened with
    | none => simp [StoreCall.isReset]
    | some => simp [StoreCall.isReset]
  | recovered seed =>
    rcases Store.resetEpoch_effect (Store.apply_effect h.store
      (.resetAuthority h.store.state.networkState _ (some seed))) with hKept | ⟨_, hReset⟩
    · exact .inl hKept
    · exact .inr ⟨trivial, hReset⟩
  | reset hCall =>
    rcases Store.resetEpoch_effect (Store.apply_effect h.store
      (.resetAuthority _ _ none)) with hKept | ⟨_, hReset⟩
    · exact .inl hKept
    · exact .inr ⟨⟨_, hCall⟩, hReset⟩

theorem run_holdsHost {s : Store} {calls : List StoreCall}
    (hCalls : ∀ call ∈ calls, call.isClaim = false) {controllerId : String}
    (h : (run Store.apply s calls).HoldsHost controllerId) : s.HoldsHost controllerId := by
  by_contra hBefore
  refine Meets.run_invariant (P := fun s => ¬ s.HoldsHost controllerId) ?_ hBefore
    (Meets.of_mem s hCalls) h
  intro s call hNot hInactive hActive
  exact hInactive (Store.holdsHost_effect (Store.apply_effect s call) hNot hActive)

theorem step_holdsHost {h : Host} {a : Action} {controllerId : String}
    (hAfter : (h.step platform settings a).store.HoldsHost controllerId)
    (hBefore : ¬ h.store.HoldsHost controllerId) :
    h.CompletesClaim platform settings a controllerId := by
  obtain ⟨calls, hServed, hStore⟩ := step_reaches platform settings h a
  cases hServed with
  | nothing =>
    rw [hStore] at hAfter
    exact absurd hAfter hBefore
  | issued | authorized | recovered | revoked | configured | rolledBack | wrote | reset |
    reconciled =>
    rw [hStore] at hAfter
    exact absurd (run_holdsHost (by simp [StoreCall.isClaim]) hAfter) hBefore
  | restarted opened =>
    rw [hStore] at hAfter
    refine absurd (run_holdsHost ?_ hAfter) hBefore
    cases opened with
    | none => simp [StoreCall.isClaim]
    | some => simp [StoreCall.isClaim]
  | @claimed sessionId secretHash now payload draw grant hGrant reopened =>
    rw [hStore, run_cons] at hAfter
    have hClaimed : (h.store.apply (.claimController sessionId secretHash grant now)).HoldsHost
        controllerId := by
      refine run_holdsHost ?_ hAfter
      cases reopened with
      | none => simp
      | some => simp [StoreCall.isClaim]
    obtain ⟨given, row, hGiven, hId, hRow, hOpen, hSecret⟩ :=
      Store.claimController_holdsHost (Prod.mk.eta.symm :
        h.store.claimController sessionId secretHash grant now = _) hClaimed hBefore
    refine ⟨sessionId, secretHash, payload, now, draw, given, row, rfl, ?_, hId, hRow, hOpen, hSecret⟩
    simp only [Store.claimAccess, hGrant]
    generalize h.store.claimController sessionId secretHash grant now = outcome at hGiven
    obtain ⟨result, t⟩ := outcome
    cases hGiven
    rfl

theorem not_holdsHost_of_withdraws {h : Host} {a : Action} {controllerId : String}
    (hWithdraws : h.Withdraws platform settings a controllerId) :
    ¬ (h.step platform settings a).store.HoldsHost controllerId := by
  rcases hWithdraws with hEpoch | ⟨actor, now, revoked, rfl, hRevoked⟩
  · rcases step_resetEpoch h a with hKept | ⟨_, _, hNone, _⟩
    · exact absurd hKept hEpoch
    · rintro ⟨grant, hGrant, _⟩
      rw [hNone] at hGrant
      cases hGrant
  · simp only [step, Store.revokePeer] at hRevoked ⊢
    split at hRevoked
    · cases hRevoked
    · generalize hOutcome : h.store.revokeController controllerId now = outcome at hRevoked ⊢
      obtain ⟨result, t⟩ := outcome
      cases result with
      | error => cases hRevoked
      | ok => exact Store.revokeController_ok hOutcome

theorem spent_step {h : Host} (a : Action) {sessionId : String} (hSpent : h.store.Spent sessionId) :
    (h.step platform settings a).store.Spent sessionId := by
  obtain ⟨calls, _, hStore⟩ := step_reaches platform settings h a
  rw [hStore]
  exact run_invariant (fun s call => Store.spent_effect (Store.apply_effect s call)) hSpent calls

end Host

structure EpochFencing (platform : Platform) (settings : BootstrapSettings) : Prop where
  /-- The epoch grows by one, in a reset, and stays as it is in any other action. -/
  epochGrowsByReset : ∀ (h : Host) (a : Action),
    (h.step platform settings a).store.state.resetEpoch = h.store.state.resetEpoch ∨
    (h.Resets a ∧
      (h.step platform settings a).store.state.resetEpoch = h.store.state.resetEpoch + 1)
  epochMonotone : ∀ now first rest,
    (Host.after platform settings now first).store.state.resetEpoch ≤
      (Host.after platform settings now (first ++ rest)).store.state.resetEpoch
  /-- Whatever is presented, a check passes only on authority the store holds now. -/
  passesOnlyBacked : ∀ (h : Host) (check : Check) authority,
    check.passes platform h = some authority → h.store.Backs authority
  /-- Behind a withdrawal, no check passes for the Controller before it completes a
  claim. -/
  controllerFenced : ∀ now before a rest controllerId (check : Check),
    (Host.after platform settings now before).Withdraws platform settings a controllerId →
    check.passes platform (Host.after platform settings now (before ++ a :: rest)) =
      some (.controller controllerId) →
    ∃ middle claim more, rest = middle ++ claim :: more ∧
      (Host.after platform settings now (before ++ a :: middle)).CompletesClaim platform settings
        claim controllerId
  /-- Behind a reset, no check ever passes for a window there was before it. -/
  setupFenced : ∀ now before a rest (check : Check) time,
    (Host.after platform settings now (before ++ [a])).store.state.resetEpoch ≠
      (Host.after platform settings now before).store.state.resetEpoch →
    ∀ row ∈ (Host.after platform settings now before).store.sessions,
      check.passes platform (Host.after platform settings now (before ++ a :: rest)) ≠
        some (.session row.sessionId time)

theorem bootstrap_epoch_fencing (platform : Platform) (settings : BootstrapSettings) :
    EpochFencing platform settings := by
  refine ⟨?_, ?_, fun h check authority => Check.passes_backed, ?_, ?_⟩
  · intro h a
    rcases Host.step_resetEpoch h a with hKept | ⟨hResets, hEpoch, _⟩
    · exact .inl hKept
    · exact .inr ⟨hResets, hEpoch⟩
  · intro now first rest
    rw [Host.after, Host.after, run_append]
    refine run_invariant (P := fun h : Host =>
      (run (Host.step platform settings) (Host.create now) first).store.state.resetEpoch ≤
        h.store.state.resetEpoch) ?_ le_rfl rest
    intro h a hLe
    rcases Host.step_resetEpoch h a with hKept | ⟨_, hEpoch, _⟩
    · exact hLe.trans hKept.ge
    · exact hLe.trans (by omega)
  · intro now before a rest controllerId check hWithdraws hPasses
    have hHolds := Check.passes_backed hPasses
    rw [Host.after, run_append, run_cons] at hHolds
    obtain ⟨middle, claim, more, hSplit, hBefore, hAfter⟩ := exists_step_of_run
      (P := fun h : Host => h.store.HoldsHost controllerId)
      (Host.not_holdsHost_of_withdraws hWithdraws) hHolds
    refine ⟨middle, claim, more, hSplit, ?_⟩
    rw [Host.after, run_append, run_cons]
    exact Host.step_holdsHost hAfter hBefore
  · intro now before a rest check time hEpoch row hRow hPasses
    have hBacked := Check.passes_backed hPasses
    rw [Host.after, run_append, run_cons] at hBacked
    rw [Host.after, Host.after, run_append] at hEpoch
    rcases Host.step_resetEpoch (Host.after platform settings now before) a with
      hKept | ⟨_, _, _, hSpent⟩
    · exact hEpoch hKept
    · refine Store.not_backs_of_spent ?_ time hBacked
      exact run_invariant (P := fun h : Host => h.store.Spent row.sessionId)
        (fun h a => Host.spent_step a) (hSpent row hRow) rest

end EidolonAdmin.Bootstrap
