import EidolonAdmin.Bootstrap.StoreKeys

/-! # The claim state and the active Controllers agree

`claim_state` is written by a claim and by a reset, the grants also by a
revocation. Over every run of store calls whose claims offer a live grant, the
Host is `claimed` exactly while the current epoch has an active Controller.
-/

namespace EidolonAdmin.Bootstrap

open Foundation Foundation.Table Foundation.Transition

def StoreCall.offersLiveGrant : StoreCall → Bool
  | .claimController _ _ grant _ => grant.revokedAt.isNone
  | _ => true

namespace StateStore

variable (store : StateStore)

def ClaimAgrees (s : store.σ) : Prop :=
  (store.state s).claimState = .claimed ↔ store.activeGrants s ≠ []

def RevokeKeepsOne (s : store.σ) : Prop :=
  ∀ controllerId now, store.activeGrants s ≠ [] →
    store.activeGrants (store.apply s (.revokeController controllerId now)) ≠ []

end StateStore

namespace Store

theorem activeGrants_exists_other {s : Store} (h : s.Keyed) {target : ControllerGrant}
    (hTarget : target ∈ s.activeGrants) (hOthers : s.activeGrants.length ≠ 1) :
    ∃ other ∈ s.activeGrants, other.controllerId ≠ target.controllerId := by
  have hUnique : (s.activeGrants.map fun row => (row.controllerId, row.resetEpoch)).Nodup :=
    h.grants.sublist (List.filter_sublist.map _)
  obtain ⟨other, hOther, hKey⟩ := exists_other_key hUnique hTarget hOthers
  refine ⟨other, hOther, fun hId => hKey ?_⟩
  rw [hId, (mem_activeGrants.mp hOther).2.2, (mem_activeGrants.mp hTarget).2.2]

theorem insertGrant_activeGrants {s inserted : Store} {grant : ControllerGrant}
    (hInsert : s.insertGrant grant = some inserted) (hEpoch : grant.resetEpoch = s.state.resetEpoch)
    (hLive : grant.revokedAt = none) : inserted.activeGrants ≠ [] := by
  rcases insertGrant_cases hInsert with ⟨hStored, rfl⟩ | ⟨_, _, rfl⟩
  · obtain ⟨row, hRow⟩ := Option.isSome_iff_exists.mp hStored
    obtain ⟨hMem, hId, hRowEpoch⟩ := grantRow?_mem hRow
    have hRevived : reviveGrant grant row ∈ updateWhere
        (fun row => (row.controllerId, row.resetEpoch) = (grant.controllerId, grant.resetEpoch))
        (reviveGrant grant) s.grants :=
      mem_updateWhere.mpr ⟨row, hMem, by simp [hId, hRowEpoch]⟩
    exact List.ne_nil_of_mem (mem_activeGrants.mpr ⟨hRevived, rfl, hRowEpoch.trans hEpoch⟩)
  · exact List.ne_nil_of_mem (mem_activeGrants.mpr ⟨by simp, hLive, hEpoch⟩)

theorem withdrawAuthority_activeGrants (s : Store) (networkState : NetworkState) (now : String) :
    (s.withdrawAuthority networkState now).activeGrants = [] := by
  rw [List.eq_nil_iff_forall_not_mem]
  intro grant hGrant
  obtain ⟨hMem, hLive, _⟩ := mem_activeGrants.mp hGrant
  obtain ⟨old, _, rfl⟩ := mem_updateWhere.mp hMem
  split at hLive
  · cases hLive
  · rename_i hRevoked
    simp [hLive] at hRevoked

theorem revokeKeepsOne {s : Store} (h : s.Keyed) : sqliteStore.RevokeKeepsOne s := by
  intro controllerId now hSome
  have hEffect := apply_effect s (.revokeController controllerId now)
  change (s.apply (.revokeController controllerId now)).activeGrants ≠ []
  generalize s.apply (.revokeController controllerId now) = t at hEffect ⊢
  cases hEffect with
  | refused => exact hSome
  | counted => exact hSome
  | revoked hTarget hId hOthers =>
    obtain ⟨other, hOther, hNe⟩ := activeGrants_exists_other h hTarget hOthers
    obtain ⟨hMem, hLive, hEpoch⟩ := mem_activeGrants.mp hOther
    have hKept : other ∈ updateWhere
        (fun row => (row.controllerId, row.resetEpoch) = (controllerId, s.state.resetEpoch))
        (fun row => { row with revokedAt := some now }) s.grants :=
      mem_updateWhere.mpr ⟨other, hMem, by simp [hId ▸ hNe]⟩
    exact List.ne_nil_of_mem (mem_activeGrants.mpr ⟨hKept, hLive, hEpoch⟩)

theorem claimAgrees_apply {s : Store} (hKeyed : s.Keyed) {call : StoreCall}
    (hOffer : call.offersLiveGrant = true) (h : sqliteStore.ClaimAgrees s) :
    sqliteStore.ClaimAgrees (s.apply call) := by
  have hEffect := apply_effect s call
  have hKeeps := revokeKeepsOne hKeyed
  generalize hAfter : s.apply call = t at hEffect
  cases hEffect with
  | refused | issued | counted | resumed | created | updated | interrupted | reconciled =>
    exact h
  | @claimed _ _ now grant _ inserted _ _ _ hEpoch hInsert =>
    have hLive : grant.revokedAt = none := by simpa [StoreCall.offersLiveGrant] using hOffer
    have hActive : inserted.activeGrants ≠ [] := insertGrant_activeGrants hInsert hEpoch hLive
    exact iff_of_true rfl hActive
  | @revoked controllerId now target hTarget =>
    have hBefore : s.activeGrants ≠ [] := List.ne_nil_of_mem hTarget
    have hKept := hKeeps controllerId now hBefore
    refine iff_of_true (h.mpr hBefore) ?_
    rw [← hAfter]
    exact hKept
  | reset | recovered =>
    exact iff_of_false nofun (not_not.mpr (withdrawAuthority_activeGrants s _ _))

end Store

namespace MemoryStore

theorem activeGrants_exists_other {s : MemoryStore} (h : s.Keyed) {target : ControllerGrant}
    (hTarget : target ∈ s.activeGrants) (hOthers : s.activeGrants.length ≠ 1) :
    ∃ other ∈ s.activeGrants, other.controllerId ≠ target.controllerId := by
  have hKeys : (s.controllers.map Prod.snd).map (fun row => (row.resetEpoch, row.controllerId)) =
      s.controllers.map Prod.fst := by
    rw [List.map_map]
    exact List.map_congr_left fun item hItem => (h.controllerKeys item hItem).symm
  have hUnique : (s.activeGrants.map fun row => (row.resetEpoch, row.controllerId)).Nodup := by
    refine List.Nodup.sublist (List.filter_sublist.map _) ?_
    rw [hKeys]
    exact h.controllers
  obtain ⟨other, hOther, hKey⟩ := exists_other_key hUnique hTarget hOthers
  refine ⟨other, hOther, fun hId => hKey ?_⟩
  rw [hId, (mem_activeGrants.mp hOther).2.2, (mem_activeGrants.mp hTarget).2.2]

theorem resetAuthority_activeGrants (s : MemoryStore) (networkState : NetworkState) (now : String)
    (recoverySession : Option CommissioningSessionSeed) :
    (s.resetAuthority networkState now recoverySession).2.activeGrants = [] := by
  rw [List.eq_nil_iff_forall_not_mem]
  intro grant hGrant
  obtain ⟨⟨item, hMem, rfl⟩, hLive, _⟩ := mem_activeGrants.mp hGrant
  obtain ⟨old, _, rfl⟩ := mem_updateWhere.mp hMem
  split at hLive
  · cases hLive
  · rename_i hRevoked
    simp [hLive] at hRevoked

theorem revokeKeepsOne {s : MemoryStore} (h : s.Keyed) : memoryStore.RevokeKeepsOne s := by
  intro controllerId now hSome
  have hEffect := apply_effect h.controllerKeys (.revokeController controllerId now)
  change (s.apply (.revokeController controllerId now)).activeGrants ≠ []
  generalize s.apply (.revokeController controllerId now) = t at hEffect ⊢
  cases hEffect with
  | refused => exact hSome
  | counted => exact hSome
  | @revoked _ _ target hTarget hId hOthers =>
    obtain ⟨other, hOther, hNe⟩ := activeGrants_exists_other h hTarget hOthers
    obtain ⟨⟨item, hMem, rfl⟩, hLive, hEpoch⟩ := mem_activeGrants.mp hOther
    have hKey : item.1 ≠ (s.state.resetEpoch, controllerId) := by
      rw [h.controllerKeys item hMem]
      exact fun hSame => hNe ((congrArg Prod.snd hSame).trans hId.symm)
    have hKept : item ∈ Dict.set s.controllers (s.state.resetEpoch, controllerId)
        { target with revokedAt := some now } := Dict.mem_set.mpr (.inr ⟨hMem, hKey⟩)
    exact List.ne_nil_of_mem (mem_activeGrants.mpr ⟨⟨item, hKept, rfl⟩, hLive, hEpoch⟩)

theorem claimAgrees_apply {s : MemoryStore} (hKeyed : s.Keyed) {call : StoreCall}
    (hOffer : call.offersLiveGrant = true) (h : memoryStore.ClaimAgrees s) :
    memoryStore.ClaimAgrees (s.apply call) := by
  have hEffect := apply_effect hKeyed.controllerKeys call
  have hKeeps := revokeKeepsOne hKeyed
  generalize hAfter : s.apply call = t at hEffect
  cases hEffect with
  | refused | issued | counted | resumed | created | updated | interrupted | reconciled =>
    exact h
  | @claimed _ _ now grant _ _ _ _ hEpoch =>
    have hLive : grant.revokedAt = none := by simpa [StoreCall.offersLiveGrant] using hOffer
    have hStored : ((s.state.resetEpoch, grant.controllerId), grant) ∈
        Dict.set s.controllers (s.state.resetEpoch, grant.controllerId) grant :=
      Dict.mem_set.mpr (.inl rfl)
    have hActive : (s.insertGrant grant).activeGrants ≠ [] :=
      List.ne_nil_of_mem (mem_activeGrants.mpr ⟨⟨_, hStored, rfl⟩, hLive, hEpoch⟩)
    exact iff_of_true rfl hActive
  | @revoked controllerId now target hTarget =>
    have hBefore : s.activeGrants ≠ [] := List.ne_nil_of_mem hTarget
    have hKept := hKeeps controllerId now hBefore
    refine iff_of_true (h.mpr hBefore) ?_
    rw [← hAfter]
    exact hKept
  | reset => exact iff_of_false nofun (not_not.mpr (resetAuthority_activeGrants s _ _ _))

end MemoryStore

theorem sqliteStore_claimAgrees (now : String) {calls : List StoreCall}
    (hOffers : ∀ call ∈ calls, call.offersLiveGrant = true) :
    sqliteStore.ClaimAgrees (sqliteStore.after now calls) ∧
      sqliteStore.RevokeKeepsOne (sqliteStore.after now calls) := by
  have hInv : (run Store.apply (Store.create now) calls).Keyed ∧
      sqliteStore.ClaimAgrees (run Store.apply (Store.create now) calls) := by
    refine Meets.run_invariant (P := fun s => s.Keyed ∧ sqliteStore.ClaimAgrees s) ?_ ?_
      (Meets.of_mem (Store.create now) hOffers)
    · intro s call hOffer h
      exact ⟨Store.keyed_apply s call h.1, Store.claimAgrees_apply h.1 hOffer h.2⟩
    · exact ⟨Store.keyed_create now, iff_of_false nofun (not_not.mpr rfl)⟩
  exact ⟨hInv.2, Store.revokeKeepsOne hInv.1⟩

theorem memoryStore_claimAgrees (now : String) {calls : List StoreCall}
    (hOffers : ∀ call ∈ calls, call.offersLiveGrant = true) :
    memoryStore.ClaimAgrees (memoryStore.after now calls) ∧
      memoryStore.RevokeKeepsOne (memoryStore.after now calls) := by
  have hInv : (run MemoryStore.apply (MemoryStore.create now) calls).Keyed ∧
      memoryStore.ClaimAgrees (run MemoryStore.apply (MemoryStore.create now) calls) := by
    refine Meets.run_invariant (P := fun s => s.Keyed ∧ memoryStore.ClaimAgrees s) ?_ ?_
      (Meets.of_mem (MemoryStore.create now) hOffers)
    · intro s call hOffer h
      exact ⟨MemoryStore.keyed_apply s call h.1, MemoryStore.claimAgrees_apply h.1 hOffer h.2⟩
    · exact ⟨MemoryStore.keyed_create now, iff_of_false nofun (not_not.mpr rfl)⟩
  exact ⟨hInv.2, MemoryStore.revokeKeepsOne hInv.1⟩

/-- In every state either adapter reaches, the Host is claimed exactly while an
active Controller exists, and no revocation removes the last one. -/
theorem claimed_iff_active_controller (now : String) (calls : List StoreCall)
    (hOffers : ∀ call ∈ calls, call.offersLiveGrant = true) :
    (sqliteStore.ClaimAgrees (sqliteStore.after now calls) ∧
      sqliteStore.RevokeKeepsOne (sqliteStore.after now calls)) ∧
    (memoryStore.ClaimAgrees (memoryStore.after now calls) ∧
      memoryStore.RevokeKeepsOne (memoryStore.after now calls)) :=
  ⟨sqliteStore_claimAgrees now hOffers, memoryStore_claimAgrees now hOffers⟩

def firstClaim (revokedAt : Option String) : List StoreCall :=
  [.issueCommissioningSession "s1" "h1" "2026-08-05T00:00:00Z" none,
   .claimController "s1" "h1"
    { controllerId := "c1", publicKey := "k1", publicKeyFingerprint := "f1", role := .hostAdmin,
      displayName := "Phone", platform := "ios", resetEpoch := 0,
      createdAt := "2026-08-05T00:01:00Z", revokedAt } "2026-08-05T00:01:00Z"]

theorem claimed_iff_active_controller_firstClaim :
    (∀ call ∈ firstClaim none, call.offersLiveGrant = true) ∧
    (sqliteStore.state (sqliteStore.after "" (firstClaim none))).claimState = .claimed ∧
    sqliteStore.ClaimAgrees (sqliteStore.after "" (firstClaim none)) :=
  ⟨by decide, by decide,
    (claimed_iff_active_controller "" (firstClaim none) (by decide)).1.1⟩

/-- A claim that offers a grant already marked revoked stores it and sets
`claimed`, so the Host is claimed with no active Controller. -/
theorem claimed_without_active_controller :
    ¬ (∀ calls : List StoreCall, sqliteStore.ClaimAgrees (sqliteStore.after "" calls)) := by
  intro h
  have hClaimed : (sqliteStore.state (sqliteStore.after ""
      (firstClaim (some "2026-08-05T00:00:30Z")))).claimState = .claimed := by decide
  have hNone : sqliteStore.activeGrants (sqliteStore.after ""
      (firstClaim (some "2026-08-05T00:00:30Z"))) = [] := by decide
  exact (h _).mp hClaimed hNone

end EidolonAdmin.Bootstrap
