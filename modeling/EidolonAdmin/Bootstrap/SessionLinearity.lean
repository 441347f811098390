import EidolonAdmin.Bootstrap.StoreKeys

/-! # A setup window is used at most once

Issuing, counting, claiming, replaying and resetting all write the session
table. Over every run of either adapter at most one window stays unspent, what a
claim wrote on a window is never written again, all claims a window ever grants
go to one Controller, and a claim on a consumed window changes nothing.
-/

namespace EidolonAdmin.Bootstrap

open Foundation Foundation.Table Foundation.Transition

namespace SessionRow

structure RetainedBy (row later : SessionRow) : Prop where
  sessionId : later.sessionId = row.sessionId
  consumedAt : ∀ time, row.consumedAt = some time → later.consumedAt = some time
  claimedControllerId : ∀ controllerId, row.claimedControllerId = some controllerId →
    later.claimedControllerId = some controllerId

theorem RetainedBy.refl (row : SessionRow) : row.RetainedBy row :=
  ⟨rfl, fun _ h => h, fun _ h => h⟩

theorem RetainedBy.trans {row later last : SessionRow} (h : row.RetainedBy later)
    (hLast : later.RetainedBy last) : row.RetainedBy last where
  sessionId := hLast.sessionId.trans h.sessionId
  consumedAt time hTime := hLast.consumedAt time (h.consumedAt time hTime)
  claimedControllerId id hId := hLast.claimedControllerId id (h.claimedControllerId id hId)

def uncounted (row : SessionRow) : SessionRow := { row with failedAttempts := 0 }

end SessionRow

def Retained (before after : List SessionRow) : Prop :=
  ∀ (i : Nat) (row : SessionRow), before[i]? = some row →
    ∃ later, after[i]? = some later ∧ row.RetainedBy later

theorem Retained.refl (rows : List SessionRow) : Retained rows rows :=
  fun _ row hRow => ⟨row, hRow, .refl row⟩

theorem Retained.trans {first second third : List SessionRow} (h : Retained first second)
    (hThird : Retained second third) : Retained first third := by
  intro i row hRow
  obtain ⟨later, hLater, hKept⟩ := h i row hRow
  obtain ⟨last, hLast, hKeptLast⟩ := hThird i later hLater
  exact ⟨last, hLast, hKept.trans hKeptLast⟩

theorem Retained.of_map {rows : List SessionRow} {f : SessionRow → SessionRow}
    (h : ∀ row ∈ rows, row.RetainedBy (f row)) (extra : List SessionRow) :
    Retained rows (rows.map f ++ extra) := by
  intro i row hRow
  have hBound : i < (rows.map f).length := by
    rw [List.length_map]
    exact (List.getElem?_eq_some_iff.mp hRow).1
  refine ⟨f row, ?_, h row (List.mem_of_getElem? hRow)⟩
  rw [List.getElem?_append_left hBound, List.getElem?_map, hRow]
  rfl

def unspentCount (rows : List SessionRow) : Nat := rows.countP fun row => row.unspent

theorem unspentCount_map_le {rows : List SessionRow} {f : SessionRow → SessionRow}
    (h : ∀ row, (f row).unspent = true → row.unspent = true) :
    unspentCount (rows.map f) ≤ unspentCount rows := by
  rw [unspentCount, List.countP_map]
  exact List.countP_mono_left fun row _ => h row

theorem unspentCount_uncounted (rows : List SessionRow) :
    unspentCount rows = unspentCount (rows.map SessionRow.uncounted) := by
  rw [unspentCount, unspentCount, List.countP_map]
  rfl

/-- Everything one call does to the windows, in either adapter. Windows that a
consumption writes on have not been claimed before. -/
inductive SessionEffect (before : List SessionRow) : List SessionRow → Prop where
  | kept : SessionEffect before before
  | superseded (now : String) (added : List SessionRow) (hAdded : added.length ≤ 1) :
      SessionEffect before (Store.revokeUnspent now before ++ added)
  | counted {after : List SessionRow}
      (hCounted : after.map SessionRow.uncounted = before.map SessionRow.uncounted) :
      SessionEffect before after
  | consumed (sessionId controllerId now : String)
      (hUnclaimed : ∀ row ∈ before, row.sessionId = sessionId →
        row.consumedAt = none ∧ row.claimedControllerId = none) :
      SessionEffect before (updateWhere (fun row => row.sessionId = sessionId)
        (fun row => { row with consumedAt := some now, claimedControllerId := some controllerId })
        before)

namespace SessionEffect

theorem retained {before after : List SessionRow} (h : SessionEffect before after) :
    Retained before after := by
  cases h with
  | kept => exact .refl before
  | superseded now added =>
    refine Retained.of_map (fun row _ => ?_) added
    split
    · exact ⟨rfl, fun _ h => h, fun _ h => h⟩
    · exact .refl row
  | counted hCounted =>
    intro i row hRow
    have hSame : (after.map SessionRow.uncounted)[i]? = some row.uncounted := by
      rw [hCounted, List.getElem?_map, hRow]
      rfl
    rw [List.getElem?_map] at hSame
    obtain ⟨later, hLater, hRest⟩ := Option.map_eq_some_iff.mp hSame
    refine ⟨later, hLater, ⟨congrArg (·.sessionId) hRest, fun time hTime => ?_, fun id hId => ?_⟩⟩
    · exact (congrArg (·.consumedAt) hRest).trans hTime
    · exact (congrArg (·.claimedControllerId) hRest).trans hId
  | consumed sessionId controllerId now hUnclaimed =>
    rw [← List.append_nil (updateWhere _ _ before)]
    refine Retained.of_map (fun row hRow => ?_) []
    split
    · rename_i hId
      obtain ⟨hConsumed, hClaimed⟩ := hUnclaimed row hRow (by simpa using hId)
      exact ⟨rfl, by simp [hConsumed], by simp [hClaimed]⟩
    · exact .refl row

theorem unspentCount_le_one {before after : List SessionRow} (h : SessionEffect before after)
    (hOne : unspentCount before ≤ 1) : unspentCount after ≤ 1 := by
  cases h with
  | kept => exact hOne
  | superseded now added hAdded =>
    have hNone : unspentCount (Store.revokeUnspent now before) = 0 := by
      rw [unspentCount, List.countP_eq_zero]
      intro row hRow hUnspent
      obtain ⟨old, _, rfl⟩ := mem_updateWhere.mp hRow
      split at hUnspent
      · simp [CommissioningSessionMetadata.unspent] at hUnspent
      · contradiction
    have hNew : unspentCount added ≤ added.length := List.countP_le_length
    simp only [unspentCount, List.countP_append] at hNone hNew ⊢
    omega
  | counted hCounted =>
    have hSame : unspentCount after = unspentCount before := by
      rw [unspentCount_uncounted, hCounted, ← unspentCount_uncounted]
    exact hSame.trans_le hOne
  | consumed sessionId controllerId now =>
    refine (unspentCount_map_le fun row hUnspent => ?_).trans hOne
    split at hUnspent
    · simp [CommissioningSessionMetadata.unspent] at hUnspent
    · exact hUnspent

end SessionEffect

namespace StateStore

structure SessionLinearity (store : StateStore) : Prop where
  oneUnspent : ∀ now calls, unspentCount (store.sessions (store.after now calls)) ≤ 1
  writtenOnce : ∀ now calls more,
    Retained (store.sessions (store.after now calls))
      (store.sessions (store.after now (calls ++ more)))
  oneController : ∀ now calls more sessionId secretHash secretHash' grant grant' time time'
      given given',
    (store.perform (store.after now calls)
      (.claimController sessionId secretHash grant time)).1 = .ok (.grant given) →
    (store.perform
      (store.after now (calls ++ .claimController sessionId secretHash grant time :: more))
      (.claimController sessionId secretHash' grant' time')).1 = .ok (.grant given') →
    given'.controllerId = given.controllerId
  spentUnchanged : ∀ now calls, ∀ row ∈ store.sessions (store.after now calls),
    row.consumedAt.isSome → ∀ secretHash grant time,
      store.apply (store.after now calls)
        (.claimController row.sessionId secretHash grant time) = store.after now calls

/-- Linearity from what single calls do: `claimedBy` remembers the Controller of
every window that was ever granted. -/
theorem sessionLinearity_of {store : StateStore} (Inv : store.σ → Prop)
    (claimedBy : store.σ → String → Option String)
    (hCreate : ∀ now, Inv (store.create now)) (hApply : ∀ s call, Inv s → Inv (store.apply s call))
    (hEmpty : ∀ now, store.sessions (store.create now) = [])
    (hEffect : ∀ s call, Inv s → SessionEffect (store.sessions s) (store.sessions (store.apply s call)))
    (hSpent : ∀ s, Inv s → ∀ row ∈ store.sessions s, row.consumedAt.isSome →
      ∀ secretHash grant time,
        store.apply s (.claimController row.sessionId secretHash grant time) = s)
    (hKept : ∀ s call sessionId controllerId, Inv s → claimedBy s sessionId = some controllerId →
      claimedBy (store.apply s call) sessionId = some controllerId)
    (hGranted : ∀ s sessionId secretHash grant time given, Inv s →
      (store.perform s (.claimController sessionId secretHash grant time)).1 = .ok (.grant given) →
      claimedBy (store.apply s (.claimController sessionId secretHash grant time)) sessionId =
        some given.controllerId) : SessionLinearity store := by
  have hInv : ∀ now calls, Inv (store.after now calls) :=
    fun now calls => run_invariant hApply (hCreate now) calls
  refine ⟨fun now calls => ?_, fun now calls more => ?_, ?_, fun now calls => ?_⟩
  · refine (run_invariant (P := fun s => Inv s ∧ unspentCount (store.sessions s) ≤ 1) ?_ ?_ calls).2
    · exact fun s call h => ⟨hApply s call h.1, (hEffect s call h.1).unspentCount_le_one h.2⟩
    · exact ⟨hCreate now, by simp [hEmpty, unspentCount]⟩
  · rw [after, after, run_append]
    refine (run_invariant (P := fun s => Inv s ∧ Retained (store.sessions (store.after now calls))
      (store.sessions s)) ?_ ⟨hInv now calls, .refl _⟩ more).2
    exact fun s call h => ⟨hApply s call h.1, h.2.trans (hEffect s call h.1).retained⟩
  · intro now calls more sessionId secretHash secretHash' grant grant' time time' given given'
      hFirst hSecond
    have hAfter : Inv (store.after now (calls ++ .claimController sessionId secretHash grant time ::
        more)) ∧ claimedBy (store.after now (calls ++ .claimController sessionId secretHash grant time ::
        more)) sessionId = some given.controllerId := by
      rw [after, run_append, run_cons]
      refine run_invariant (P := fun s => Inv s ∧ claimedBy s sessionId = some given.controllerId)
        ?_ ⟨hApply _ _ (hInv now calls), ?_⟩ more
      · exact fun s call h => ⟨hApply s call h.1, hKept s call _ _ h.1 h.2⟩
      · exact hGranted _ _ _ _ _ _ (hInv now calls) hFirst
    have hStill := hKept _ (.claimController sessionId secretHash' grant' time') _ _ hAfter.1 hAfter.2
    have hGiven := hGranted _ _ _ _ _ _ hAfter.1 hSecond
    exact Option.some.inj (hGiven.symm.trans hStill)
  · exact hSpent _ (hInv now calls)

end StateStore

theorem eq_of_map_grant {σ : Type} {result : Except StoreError ControllerGrant × σ}
    {given : ControllerGrant}
    (h : (result.map (·.map StoreReply.grant) id).1 = .ok (.grant given)) :
    result = (.ok given, (result.map (·.map StoreReply.grant) id).2) := by
  obtain ⟨outcome, t⟩ := result
  cases outcome with
  | error => cases h
  | ok granted =>
    cases h
    rfl

namespace Store

def ClaimedConsumed (s : Store) : Prop :=
  ∀ row ∈ s.sessions, row.consumedAt = none → row.claimedControllerId = none

theorem sessionRow?_unclaimed {s : Store} (hKeyed : s.Keyed) (hConsumed : s.ClaimedConsumed)
    {sessionId now : String} {found : SessionRow} (hRow : s.sessionRow? sessionId = some found)
    (hOpen : found.isOpen now = true) :
    ∀ row ∈ s.sessions, row.sessionId = sessionId →
      row.consumedAt = none ∧ row.claimedControllerId = none := by
  intro row hMem hId
  obtain rfl : found = row := by
    have hStored := (lookup_eq_some_iff hKeyed.sessions).mpr ⟨hMem, hId⟩
    exact Option.some.inj (hRow.symm.trans hStored)
  have hUnspent := CommissioningSessionMetadata.unspent_of_isOpen hOpen
  have hUnconsumed := (CommissioningSessionMetadata.unspent_iff.mp hUnspent).1
  exact ⟨hUnconsumed, hConsumed found hMem hUnconsumed⟩

theorem sessionEffect {s t : Store} {call : StoreCall} (hEffect : Effect s call t)
    (hKeyed : s.Keyed) (hConsumed : s.ClaimedConsumed) : SessionEffect s.sessions t.sessions := by
  cases hEffect with
  | refused | revoked | created | updated | interrupted | reconciled => exact .kept
  | issued => exact .superseded _ [_] (by simp)
  | counted =>
    apply SessionEffect.counted
    exact map_updateWhere SessionRow.uncounted fun _ => rfl
  | resumed hRow hOpen =>
    exact .consumed _ _ _ (sessionRow?_unclaimed hKeyed hConsumed hRow hOpen)
  | claimed hRow hOpen _ _ hInsert =>
    rw [insertGrant_frame hInsert]
    exact .consumed _ _ _ (sessionRow?_unclaimed hKeyed hConsumed hRow hOpen)
  | @reset _ now =>
    have hSuperseded : SessionEffect s.sessions (revokeUnspent now s.sessions ++ []) :=
      .superseded now [] (by simp)
    rw [List.append_nil] at hSuperseded
    exact hSuperseded
  | recovered => exact .superseded _ [_] (by simp)

theorem claimedConsumed_effect {s t : Store} {call : StoreCall} (hEffect : Effect s call t)
    (h : s.ClaimedConsumed) : t.ClaimedConsumed := by
  have hIssue : ∀ now, ∀ row : SessionRow, row.claimedControllerId = none →
      ∀ stored ∈ revokeUnspent now s.sessions ++ [row],
        stored.consumedAt = none → stored.claimedControllerId = none := by
    intro now row hRow stored hStored
    rcases List.mem_append.mp hStored with hOld | hNew
    · refine forall_updateWhere h ?_ stored hOld
      exact fun _ hUnclaimed => hUnclaimed
    · rw [List.mem_singleton.mp hNew]
      exact fun _ => hRow
  cases hEffect with
  | refused | revoked | created | updated | interrupted | reconciled => exact h
  | issued => exact hIssue _ _ rfl
  | counted => exact forall_updateWhere h fun _ hRow => hRow
  | resumed => exact forall_updateWhere h fun _ _ hNone => nomatch hNone
  | claimed _ _ _ _ hInsert =>
    rw [insertGrant_frame hInsert]
    exact forall_updateWhere h fun _ _ hNone => nomatch hNone
  | reset => exact forall_updateWhere h fun _ hRow => hRow
  | recovered => exact hIssue _ _ rfl

def claimedBy (s : Store) (sessionId : String) : Option String :=
  (s.sessionRow? sessionId).bind fun row => row.claimedControllerId

theorem claimedBy_consumeSession {s : Store} {sessionId controllerId now : String} {row : SessionRow}
    (hRow : s.sessionRow? sessionId = some row) :
    (s.consumeSession sessionId controllerId now).claimedBy sessionId = some controllerId := by
  unfold claimedBy sessionRow? consumeSession
  simp only
  rw [lookup_updateWhere]
  · rw [sessionRow?] at hRow
    simp [hRow, (lookup_mem hRow).2]
  · exact fun _ => rfl

theorem replayClaim_ok {s : Store} {session : SessionRow} {consumedAt secretHash : String}
    {grant given : ControllerGrant}
    (h : s.replayClaim session consumedAt secretHash grant = .ok given) :
    session.claimedControllerId = some given.controllerId := by
  unfold replayClaim at h
  split at h
  · rename_i hClaimed
    split at h
    · rename_i existing hExisting
      split at h
      · cases h
        rw [hClaimed, (grantRow?_mem hExisting).2.1]
      · cases h
    · cases h
  · cases h

theorem claimController_spent {s : Store} {sessionId consumedAt : String} {row : SessionRow}
    (hRow : s.sessionRow? sessionId = some row) (hConsumed : row.consumedAt = some consumedAt)
    (secretHash : String) (grant : ControllerGrant) (now : String) :
    s.claimController sessionId secretHash grant now =
      (s.replayClaim row consumedAt secretHash grant, s) := by
  simp [claimController, hRow, hConsumed]

theorem claimController_claimedBy {s t : Store} {sessionId secretHash now : String}
    {grant given : ControllerGrant}
    (h : s.claimController sessionId secretHash grant now = (.ok given, t)) :
    t.claimedBy sessionId = some given.controllerId := by
  rcases claimController_ok h with ⟨row, consumedAt, hRow, _, hReplay, rfl⟩ |
    ⟨row, hRow, _, _, _, ⟨_, rfl⟩ | ⟨rfl, inserted, hInsert, rfl⟩⟩
  · simp only [claimedBy, hRow, Option.bind_some]
    exact replayClaim_ok hReplay
  · exact claimedBy_consumeSession hRow
  · rw [insertGrant_frame hInsert]
    exact claimedBy_consumeSession hRow

theorem claimedBy_retained {s t : Store} {sessionId controllerId : String} (hKeyed : t.Keyed)
    (hRetained : Retained s.sessions t.sessions) (h : s.claimedBy sessionId = some controllerId) :
    t.claimedBy sessionId = some controllerId := by
  obtain ⟨row, hRow, hClaimed⟩ := Option.bind_eq_some_iff.mp h
  obtain ⟨hMem, hId⟩ := lookup_mem hRow
  obtain ⟨i, hAt⟩ := List.mem_iff_getElem?.mp hMem
  obtain ⟨later, hLater, hKept⟩ := hRetained i row hAt
  have hStored : t.sessionRow? sessionId = some later :=
    (lookup_eq_some_iff hKeyed.sessions).mpr
      ⟨List.mem_of_getElem? hLater, hKept.sessionId.trans hId⟩
  rw [claimedBy, hStored]
  exact hKept.claimedControllerId controllerId hClaimed

theorem perform_claim_ok {s : Store} {sessionId secretHash time : String}
    {grant given : ControllerGrant}
    (h : (s.perform (.claimController sessionId secretHash grant time)).1 = .ok (.grant given)) :
    s.claimController sessionId secretHash grant time =
      (.ok given, s.apply (.claimController sessionId secretHash grant time)) :=
  eq_of_map_grant h

theorem apply_claim_spent {s : Store} (hKeyed : s.Keyed) {row : SessionRow}
    (hRow : row ∈ s.sessions) (hConsumed : row.consumedAt.isSome) (secretHash : String)
    (grant : ControllerGrant) (time : String) :
    s.apply (.claimController row.sessionId secretHash grant time) = s := by
  obtain ⟨consumedAt, hTime⟩ := Option.isSome_iff_exists.mp hConsumed
  have hFound : s.sessionRow? row.sessionId = some row :=
    (lookup_eq_some_iff hKeyed.sessions).mpr ⟨hRow, rfl⟩
  simp only [apply, perform, claimController_spent hFound hTime, Prod.map, id]

theorem sessionLinearity : sqliteStore.SessionLinearity := by
  refine StateStore.sessionLinearity_of (fun s : Store => s.Keyed ∧ s.ClaimedConsumed) claimedBy
    (fun now => ⟨keyed_create now, nofun⟩) ?_ (fun _ => rfl) ?_ ?_ ?_ ?_
  · exact fun s call h =>
      ⟨keyed_apply s call h.1, claimedConsumed_effect (apply_effect s call) h.2⟩
  · exact fun s call h => sessionEffect (apply_effect s call) h.1 h.2
  · exact fun s h row hRow hConsumed => apply_claim_spent h.1 hRow hConsumed
  · intro s call sessionId controllerId h hClaimed
    have hRetained := (sessionEffect (apply_effect s call) h.1 h.2).retained
    exact claimedBy_retained (keyed_apply s call h.1) hRetained hClaimed
  · exact fun s sessionId secretHash grant time given _ hGiven =>
      claimController_claimedBy (perform_claim_ok hGiven)

end Store

namespace MemoryStore

def ConsumedClaimed (s : MemoryStore) : Prop :=
  ∀ entry ∈ s.sessions, Dict.get s.sessionControllerIds entry.1.sessionId = none →
    entry.1.consumedAt = none

theorem map_sessionRow_revokeUnspent (s : MemoryStore) (now : String)
    (entries : List (CommissioningSessionMetadata × String)) :
    (revokeUnspent now entries).map s.sessionRow =
      Store.revokeUnspent now (entries.map s.sessionRow) := by
  simp only [revokeUnspent, Store.revokeUnspent, updateWhere, List.map_map]
  apply List.map_congr_left
  intro entry _
  simp only [Function.comp_apply]
  split
  · rename_i hUnspent
    simp [sessionRow, hUnspent]
  · rename_i hSpent
    simp [sessionRow, hSpent]

theorem map_uncounted_countFirst (s : MemoryStore) (sessionId : String)
    (entries : List (CommissioningSessionMetadata × String)) :
    ((countFirst sessionId entries).map s.sessionRow).map SessionRow.uncounted =
      (entries.map s.sessionRow).map SessionRow.uncounted := by
  induction entries with
  | nil => rfl
  | cons entry rest ih =>
    obtain ⟨metadata, storedHash⟩ := entry
    unfold countFirst
    split
    · rfl
    · simp only [List.map_cons, ih]

theorem sessions_consumeSession (s : MemoryStore) (sessionId controllerId now : String) :
    memoryStore.sessions (s.consumeSession sessionId controllerId now) =
      updateWhere (fun row => row.sessionId = sessionId)
        (fun row => { row with consumedAt := some now, claimedControllerId := some controllerId })
        (memoryStore.sessions s) := by
  simp only [memoryStore, consumeSession, updateWhere, List.map_map]
  apply List.map_congr_left
  intro entry _
  by_cases hId : entry.1.sessionId = sessionId
  · simp [sessionRow, hId, Dict.get_set]
  · simp [sessionRow, hId, Dict.get_set]

theorem sessions_unclaimed {s : MemoryStore} (h : s.ConsumedClaimed) {sessionId : String}
    (hUnclaimed : Dict.get s.sessionControllerIds sessionId = none) :
    ∀ row ∈ memoryStore.sessions s, row.sessionId = sessionId →
      row.consumedAt = none ∧ row.claimedControllerId = none := by
  intro row hRow hId
  obtain ⟨entry, hEntry, rfl⟩ := List.mem_map.mp hRow
  have hNone : Dict.get s.sessionControllerIds entry.1.sessionId = none := by
    rw [← hUnclaimed]
    exact congrArg _ hId
  exact ⟨h entry hEntry hNone, hNone⟩

theorem sessionEffect_superseded {s t : MemoryStore} {now : String}
    {added : List (CommissioningSessionMetadata × String)}
    (hSessions : t.sessions = revokeUnspent now s.sessions ++ added)
    (hIds : t.sessionControllerIds = s.sessionControllerIds) (hAdded : added.length ≤ 1) :
    SessionEffect (memoryStore.sessions s) (memoryStore.sessions t) := by
  have hRows : memoryStore.sessions t =
      Store.revokeUnspent now (memoryStore.sessions s) ++ added.map t.sessionRow := by
    have hRow : t.sessionRow = s.sessionRow := by
      funext entry
      rw [sessionRow, sessionRow, hIds]
    simp only [memoryStore]
    rw [hSessions, List.map_append, hRow, map_sessionRow_revokeUnspent]
  rw [hRows]
  exact .superseded now _ (by rwa [List.length_map])

theorem sessionEffect {s t : MemoryStore} {call : StoreCall} (hEffect : Effect s call t)
    (h : s.ConsumedClaimed) : SessionEffect (memoryStore.sessions s) (memoryStore.sessions t) := by
  cases hEffect with
  | refused | revoked | created | updated | interrupted | reconciled => exact .kept
  | issued => exact sessionEffect_superseded rfl rfl (by simp)
  | counted sessionId => exact .counted (map_uncounted_countFirst s sessionId s.sessions)
  | resumed hUnclaimed =>
    rw [sessions_consumeSession]
    exact .consumed _ _ _ (sessions_unclaimed h hUnclaimed)
  | @claimed sessionId _ now grant _ hUnclaimed =>
    have hConsumed := SessionEffect.consumed sessionId grant.controllerId now
      (sessions_unclaimed h hUnclaimed)
    rw [← sessions_consumeSession] at hConsumed
    exact hConsumed
  | @reset _ _ recoverySession =>
    refine sessionEffect_superseded rfl rfl ?_
    cases recoverySession with
    | none => simp
    | some => simp

theorem mem_countFirst {sessionId : String}
    {entries : List (CommissioningSessionMetadata × String)}
    {entry : CommissioningSessionMetadata × String} (h : entry ∈ countFirst sessionId entries) :
    ∃ old ∈ entries, old.1.sessionId = entry.1.sessionId ∧
      old.1.consumedAt = entry.1.consumedAt := by
  induction entries with
  | nil => cases h
  | cons first rest ih =>
    obtain ⟨metadata, storedHash⟩ := first
    unfold countFirst at h
    split at h
    · rcases List.mem_cons.mp h with rfl | hRest
      · exact ⟨_, List.mem_cons_self, rfl, rfl⟩
      · exact ⟨entry, List.mem_cons_of_mem _ hRest, rfl, rfl⟩
    · rcases List.mem_cons.mp h with rfl | hRest
      · exact ⟨_, List.mem_cons_self, rfl, rfl⟩
      · obtain ⟨old, hOld, hSame⟩ := ih hRest
        exact ⟨old, List.mem_cons_of_mem _ hOld, hSame⟩

theorem consumedClaimed_effect {s t : MemoryStore} {call : StoreCall} (hEffect : Effect s call t)
    (h : s.ConsumedClaimed) : t.ConsumedClaimed := by
  have hConsume : ∀ sessionId controllerId now,
      (s.consumeSession sessionId controllerId now).ConsumedClaimed := by
    intro sessionId controllerId now entry hEntry
    obtain ⟨old, hOld, rfl⟩ := mem_updateWhere.mp hEntry
    by_cases hSame : old.1.sessionId = sessionId
    · simp [hSame, consumeSession, Dict.get_set]
    · simpa [hSame, consumeSession, Dict.get_set] using h old hOld
  have hSuperseded : ∀ now, ∀ entry ∈ revokeUnspent now s.sessions,
      Dict.get s.sessionControllerIds entry.1.sessionId = none → entry.1.consumedAt = none :=
    fun now => forall_updateWhere h fun _ hEntry => hEntry
  cases hEffect with
  | refused | revoked | created | updated | interrupted | reconciled => exact h
  | issued =>
    intro entry hEntry
    rcases List.mem_append.mp hEntry with hOld | hNew
    · exact hSuperseded _ entry hOld
    · rw [List.mem_singleton.mp hNew]
      exact fun _ => rfl
  | counted =>
    intro entry hEntry hNone
    obtain ⟨old, hOld, hId, hConsumed⟩ := mem_countFirst hEntry
    rw [← hConsumed]
    exact h old hOld (hId ▸ hNone)
  | resumed => exact hConsume _ _ _
  | claimed => exact hConsume _ _ _
  | @reset _ _ recoverySession =>
    intro entry hEntry
    rcases List.mem_append.mp hEntry with hOld | hNew
    · exact hSuperseded _ entry hOld
    · obtain ⟨_, _, rfl⟩ := Option.map_eq_some_iff.mp (Option.mem_toList.mp hNew)
      exact fun _ => rfl

def claimedBy (s : MemoryStore) (sessionId : String) : Option String :=
  Dict.get s.sessionControllerIds sessionId

theorem claimedBy_effect {s t : MemoryStore} {call : StoreCall} (hEffect : Effect s call t)
    {sessionId controllerId : String} (h : s.claimedBy sessionId = some controllerId) :
    t.claimedBy sessionId = some controllerId := by
  have hConsume : ∀ {other : String} (claimed now : String), s.claimedBy other = none →
      (s.consumeSession other claimed now).claimedBy sessionId = some controllerId := by
    intro other claimed now hOther
    rw [claimedBy, consumeSession, Dict.get_set]
    split
    · rename_i hSame
      rw [hSame, hOther] at h
      cases h
    · exact h
  cases hEffect with
  | refused | issued | counted | revoked | created | updated | interrupted | reconciled | reset =>
    exact h
  | resumed hUnclaimed => exact hConsume _ _ hUnclaimed
  | @claimed _ _ now _ _ hUnclaimed => exact hConsume _ now hUnclaimed

theorem replayClaim_ok {s : MemoryStore} (hKeyed : s.Keyed)
    {claimed sessionId secretHash : String} {grant given : ControllerGrant}
    (h : s.replayClaim claimed sessionId secretHash grant = .ok given) :
    claimed = given.controllerId := by
  unfold replayClaim at h
  split at h
  · rename_i existing hExisting
    split at h
    · cases h
      exact congrArg Prod.snd (hKeyed.controllerKeys _ (Dict.get_mem hExisting))
    · cases h
  · cases h

theorem claimController_claimedBy {s t : MemoryStore} (hKeyed : s.Keyed)
    {sessionId secretHash now : String} {grant given : ControllerGrant}
    (h : s.claimController sessionId secretHash grant now = (.ok given, t)) :
    t.claimedBy sessionId = some given.controllerId := by
  rcases claimController_ok h with ⟨claimed, hClaimed, hReplay, rfl⟩ | ⟨_, rfl | rfl⟩
  · rw [claimedBy, hClaimed, replayClaim_ok hKeyed hReplay]
  · simp [claimedBy, consumeSession, Dict.get_set]
  · simp [claimedBy, consumeSession, setClaimed, Dict.get_set]

theorem perform_claim_ok {s : MemoryStore} {sessionId secretHash time : String}
    {grant given : ControllerGrant}
    (h : (s.perform (.claimController sessionId secretHash grant time)).1 = .ok (.grant given)) :
    s.claimController sessionId secretHash grant time =
      (.ok given, s.apply (.claimController sessionId secretHash grant time)) :=
  eq_of_map_grant h

theorem apply_claim_spent {s : MemoryStore} (h : s.ConsumedClaimed) {row : SessionRow}
    (hRow : row ∈ memoryStore.sessions s) (hConsumed : row.consumedAt.isSome)
    (secretHash : String) (grant : ControllerGrant) (time : String) :
    s.apply (.claimController row.sessionId secretHash grant time) = s := by
  obtain ⟨entry, hEntry, rfl⟩ := List.mem_map.mp hRow
  cases hClaimed : Dict.get s.sessionControllerIds entry.1.sessionId with
  | none =>
    have hNone : entry.1.consumedAt = none := h entry hEntry hClaimed
    simp [sessionRow, hNone] at hConsumed
  | some claimed => simp [apply, perform, claimController, sessionRow, hClaimed]

theorem sessionLinearity : memoryStore.SessionLinearity := by
  refine StateStore.sessionLinearity_of (fun s : MemoryStore => s.Keyed ∧ s.ConsumedClaimed)
    claimedBy (fun now => ⟨keyed_create now, nofun⟩) ?_ (fun _ => rfl) ?_ ?_ ?_ ?_
  · exact fun s call h =>
      ⟨keyed_apply s call h.1, consumedClaimed_effect (apply_effect h.1.controllerKeys call) h.2⟩
  · exact fun s call h => sessionEffect (apply_effect h.1.controllerKeys call) h.2
  · exact fun s h row hRow hConsumed => apply_claim_spent h.2 hRow hConsumed
  · exact fun s call _ _ h => claimedBy_effect (apply_effect h.1.controllerKeys call)
  · exact fun s sessionId secretHash grant time given h hGiven =>
      claimController_claimedBy h.1 (perform_claim_ok hGiven)

end MemoryStore

/-- Both adapters keep every setup window linear over every run. -/
theorem commissioning_session_linearity :
    sqliteStore.SessionLinearity ∧ memoryStore.SessionLinearity :=
  ⟨Store.sessionLinearity, MemoryStore.sessionLinearity⟩

end EidolonAdmin.Bootstrap
