import EidolonAdmin.Bootstrap.SqliteStore
import EidolonAdmin.Bootstrap.MemoryStore

/-! # The keys both adapters keep unique

The primary keys and unique constraints of the SQLite schema, and the agreement
of each dictionary key of the in-memory adapter with the record stored under it.
-/

namespace EidolonAdmin.Bootstrap

open Foundation Foundation.Table Foundation.Transition

namespace Store

structure Keyed (s : Store) : Prop where
  sessions : (s.sessions.map fun row => row.sessionId).Nodup
  grants : (s.grants.map fun row => (row.controllerId, row.resetEpoch)).Nodup
  fingerprints : (s.grants.map fun row => (row.publicKeyFingerprint, row.resetEpoch)).Nodup
  operations : (s.operations.map fun row => row.operationId).Nodup

theorem keyed_create (now : String) : (create now).Keyed :=
  ⟨List.nodup_nil, List.nodup_nil, List.nodup_nil, List.nodup_nil⟩

theorem insertGrant_cases {s inserted : Store} {grant : ControllerGrant}
    (h : s.insertGrant grant = some inserted) :
    ((s.grantRow? grant.controllerId grant.resetEpoch).isSome ∧
      inserted = { s with
        grants := updateWhere
          (fun row => (row.controllerId, row.resetEpoch) = (grant.controllerId, grant.resetEpoch))
          (reviveGrant grant) s.grants }) ∨
    ((∀ row ∈ s.grants,
        (row.controllerId, row.resetEpoch) ≠ (grant.controllerId, grant.resetEpoch)) ∧
      (∀ row ∈ s.grants, (row.publicKeyFingerprint, row.resetEpoch) ≠
        (grant.publicKeyFingerprint, grant.resetEpoch)) ∧
      inserted = { s with grants := s.grants ++ [grant] }) := by
  unfold insertGrant at h
  split at h
  · rename_i hStored
    exact .inl ⟨hStored, (Option.some.inj h).symm⟩
  · rename_i hNew
    split at h
    · cases h
    · rename_i hFingerprint
      refine .inr ⟨?_, by simpa using hFingerprint, (Option.some.inj h).symm⟩
      exact lookup_eq_none_iff.mp (Option.not_isSome_iff_eq_none.mp hNew)

theorem insertGrant_frame {s inserted : Store} {grant : ControllerGrant}
    (h : s.insertGrant grant = some inserted) : inserted = { s with grants := inserted.grants } := by
  rcases insertGrant_cases h with ⟨_, rfl⟩ | ⟨_, _, rfl⟩
  · rfl
  · rfl

theorem keyed_issue {s : Store} (h : s.Keyed) {now : String} {row : SessionRow}
    (hFresh : s.sessionRow? row.sessionId = none) :
    ((revokeUnspent now s.sessions ++ [row]).map fun row => row.sessionId).Nodup := by
  have hIds : (revokeUnspent now s.sessions).map (fun row => row.sessionId) =
      s.sessions.map fun row => row.sessionId := map_updateWhere _ fun _ => rfl
  apply nodup_append_row
  · rw [hIds]
    exact h.sessions
  · intro old hOld hSame
    have hMem : old.sessionId ∈ (revokeUnspent now s.sessions).map fun row => row.sessionId :=
      List.mem_map.mpr ⟨old, hOld, rfl⟩
    rw [hIds] at hMem
    obtain ⟨stored, hStored, hId⟩ := List.mem_map.mp hMem
    exact lookup_eq_none_iff.mp hFresh stored hStored (hId.trans hSame)

theorem keyed_update {s t : Store} (h : s.Keyed)
    (hSessions : t.sessions.map (fun row => row.sessionId) =
      s.sessions.map fun row => row.sessionId)
    (hGrants : t.grants.map (fun row => (row.controllerId, row.resetEpoch)) =
      s.grants.map fun row => (row.controllerId, row.resetEpoch))
    (hFingerprints : t.grants.map (fun row => (row.publicKeyFingerprint, row.resetEpoch)) =
      s.grants.map fun row => (row.publicKeyFingerprint, row.resetEpoch))
    (hOperations : t.operations.map (fun row => row.operationId) =
      s.operations.map fun row => row.operationId) : t.Keyed where
  sessions := hSessions ▸ h.sessions
  grants := hGrants ▸ h.grants
  fingerprints := hFingerprints ▸ h.fingerprints
  operations := hOperations ▸ h.operations

theorem keyed_insert {s inserted : Store} {grant : ControllerGrant} (h : s.Keyed)
    (hInsert : s.insertGrant grant = some inserted) : inserted.Keyed := by
  rcases insertGrant_cases hInsert with ⟨_, rfl⟩ | ⟨hNew, hFingerprint, rfl⟩
  · exact keyed_update h rfl (map_updateWhere _ fun _ => rfl) (map_updateWhere _ fun _ => rfl) rfl
  · exact { h with
      grants := nodup_append_row h.grants hNew
      fingerprints := nodup_append_row h.fingerprints hFingerprint }

theorem keyed_withdraw {s : Store} (h : s.Keyed) (networkState : NetworkState) (now : String) :
    (s.withdrawAuthority networkState now).Keyed :=
  keyed_update h (map_updateWhere _ fun _ => rfl) (map_updateWhere _ fun _ => rfl)
    (map_updateWhere _ fun _ => rfl) (map_updateWhere _ fun _ => rfl)

theorem keyed_effect {s t : Store} {call : StoreCall} (hEffect : Effect s call t) (h : s.Keyed) :
    t.Keyed := by
  cases hEffect with
  | refused => exact h
  | issued hFresh => exact { h with sessions := keyed_issue h hFresh }
  | counted sessionId =>
    exact keyed_update h (map_updateWhere _ fun _ => rfl) rfl rfl rfl
  | resumed => exact keyed_update h (map_updateWhere _ fun _ => rfl) rfl rfl rfl
  | claimed _ _ _ _ hInsert =>
    exact keyed_update (keyed_insert h hInsert) (map_updateWhere _ fun _ => rfl) rfl rfl rfl
  | revoked =>
    exact keyed_update h rfl (map_updateWhere _ fun _ => rfl) (map_updateWhere _ fun _ => rfl) rfl
  | created hNew =>
    exact { h with operations := nodup_append_row h.operations (lookup_eq_none_iff.mp hNew) }
  | updated => exact keyed_update h rfl rfl rfl (map_updateWhere _ fun _ => rfl)
  | interrupted => exact keyed_update h rfl rfl rfl (map_updateWhere _ fun _ => rfl)
  | reconciled => exact keyed_update h rfl rfl rfl rfl
  | reset => exact keyed_withdraw h _ _
  | @recovered networkState now _ hFresh =>
    exact { keyed_withdraw h networkState now with sessions := keyed_issue h hFresh }

theorem keyed_apply (s : Store) (call : StoreCall) (h : s.Keyed) : (s.apply call).Keyed :=
  keyed_effect (apply_effect s call) h

end Store

namespace MemoryStore

structure Keyed (s : MemoryStore) : Prop where
  controllers : (s.controllers.map Prod.fst).Nodup
  controllerKeys : ∀ item ∈ s.controllers, item.1 = (item.2.resetEpoch, item.2.controllerId)

theorem keyed_create (now : String) : (create now).Keyed := ⟨List.nodup_nil, by simp [create]⟩

theorem keyed_set {s : MemoryStore} (h : s.Keyed) (grant : ControllerGrant) {controllerId : String}
    (hId : grant.controllerId = controllerId) (hEpoch : grant.resetEpoch = s.state.resetEpoch) :
    ((Dict.set s.controllers (s.state.resetEpoch, controllerId) grant).map Prod.fst).Nodup ∧
    ∀ item ∈ Dict.set s.controllers (s.state.resetEpoch, controllerId) grant,
      item.1 = (item.2.resetEpoch, item.2.controllerId) := by
  refine ⟨Dict.nodup_set h.controllers _ _, ?_⟩
  intro item hItem
  rcases Dict.mem_set.mp hItem with rfl | ⟨hOld, _⟩
  · rw [hId, hEpoch]
  · exact h.controllerKeys item hOld

theorem keyed_effect {s t : MemoryStore} {call : StoreCall} (hEffect : Effect s call t)
    (h : s.Keyed) : t.Keyed := by
  cases hEffect with
  | refused | issued | counted | resumed | created | updated | interrupted | reconciled =>
    exact ⟨h.controllers, h.controllerKeys⟩
  | claimed _ _ _ hEpoch =>
    obtain ⟨hNodup, hKeys⟩ := keyed_set h _ rfl hEpoch
    exact ⟨hNodup, hKeys⟩
  | @revoked _ now target hTarget hId =>
    have hEpoch := (mem_activeGrants.mp hTarget).2.2
    obtain ⟨hNodup, hKeys⟩ := keyed_set h { target with revokedAt := some now } hId hEpoch
    exact ⟨hNodup, hKeys⟩
  | reset =>
    refine ⟨?_, ?_⟩
    · change ((updateWhere _ _ s.controllers).map Prod.fst).Nodup
      rw [map_updateWhere Prod.fst]
      · exact h.controllers
      · exact fun _ => rfl
    · intro item hItem
      obtain ⟨old, hOld, rfl⟩ := mem_updateWhere.mp hItem
      split
      · exact h.controllerKeys old hOld
      · exact h.controllerKeys old hOld

theorem keyed_apply (s : MemoryStore) (call : StoreCall) (h : s.Keyed) : (s.apply call).Keyed :=
  keyed_effect (apply_effect h.controllerKeys call) h

end MemoryStore

end EidolonAdmin.Bootstrap
