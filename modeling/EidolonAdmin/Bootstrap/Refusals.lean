import EidolonAdmin.Bootstrap.StoreKeys

/-! # A refused call changes nothing

Whatever a run of calls has stored, a call that either adapter refuses as a
conflict leaves every record as it was, except that a wrong code presented to an
open window is counted on that window.
-/

namespace EidolonAdmin.Bootstrap

open Foundation Foundation.Table Foundation.Transition

def StoreCall.presented : StoreCall → Option (String × String × String)
  | .authorizeCommissioningSession sessionId secretHash now => some (sessionId, secretHash, now)
  | .claimController sessionId secretHash _ now => some (sessionId, secretHash, now)
  | _ => none

/-- The call presents another code than the one that opens this window, which is
open. -/
def WrongSecret (rows : List SessionRow) (call : StoreCall) (row : SessionRow) : Prop :=
  ∃ sessionId secretHash now, call.presented = some (sessionId, secretHash, now) ∧
    lookup (fun row => row.sessionId) sessionId rows = some row ∧ row.isOpen now = true ∧
    row.secretHash ≠ secretHash

def SessionRow.counted (row : SessionRow) : SessionRow :=
  { row with failedAttempts := row.failedAttempts + 1 }

def CountedAt (row : SessionRow) (before after : List SessionRow) : Prop :=
  ∃ earlier later, before = earlier ++ row :: later ∧
    (∀ other ∈ earlier, other.sessionId ≠ row.sessionId) ∧
    after = earlier ++ row.counted :: later

namespace StateStore

variable (store : StateStore)

/-- What a call that was refused may have left behind. -/
structure Harmless (s : store.σ) (call : StoreCall) : Prop where
  state : store.state (store.apply s call) = store.state s
  grants : store.grants (store.apply s call) = store.grants s
  operations : store.operations (store.apply s call) = store.operations s
  sessions : (∀ row, ¬ WrongSecret (store.sessions s) call row) →
    store.sessions (store.apply s call) = store.sessions s
  counted : ∀ row, WrongSecret (store.sessions s) call row →
    CountedAt row (store.sessions s) (store.sessions (store.apply s call))

def RefusalsHarmless : Prop :=
  ∀ now calls call conflict,
    (store.perform (store.after now calls) call).1 = .error (.conflict conflict) →
      store.Harmless (store.after now calls) call

variable {store}

theorem Harmless.of_eq {s : store.σ} {call : StoreCall} (hEq : store.apply s call = s)
    (hRight : ∀ row, ¬ WrongSecret (store.sessions s) call row) : store.Harmless s call where
  state := by rw [hEq]
  grants := by rw [hEq]
  operations := by rw [hEq]
  sessions _ := by rw [hEq]
  counted row hWrong := absurd hWrong (hRight row)

theorem not_wrongSecret {rows : List SessionRow} {call : StoreCall} (h : call.presented = none)
    (row : SessionRow) : ¬ WrongSecret rows call row := by
  rintro ⟨sessionId, secretHash, now, hPresented, _⟩
  rw [h] at hPresented
  cases hPresented

section Presented

variable {s : store.σ} {call : StoreCall} {sessionId secretHash now : String}

theorem Harmless.of_right (hCall : call.presented = some (sessionId, secretHash, now))
    (hEq : store.apply s call = s)
    (hRight : ∀ row, lookup (fun row => row.sessionId) sessionId (store.sessions s) = some row →
      row.isOpen now = true → row.secretHash = secretHash) : store.Harmless s call := by
  refine .of_eq hEq ?_
  rintro row ⟨id, secret, time, hPresented, hRow, hOpen, hWrong⟩
  rw [hCall] at hPresented
  cases hPresented
  exact hWrong (hRight row hRow hOpen)

theorem Harmless.of_counted (hCall : call.presented = some (sessionId, secretHash, now))
    {row : SessionRow}
    (hRow : lookup (fun row => row.sessionId) sessionId (store.sessions s) = some row)
    (hOpen : row.isOpen now = true) (hSecret : row.secretHash ≠ secretHash)
    (hState : store.state (store.apply s call) = store.state s)
    (hGrants : store.grants (store.apply s call) = store.grants s)
    (hOperations : store.operations (store.apply s call) = store.operations s)
    (hCounted : CountedAt row (store.sessions s) (store.sessions (store.apply s call))) :
    store.Harmless s call := by
  have hWrong : WrongSecret (store.sessions s) call row :=
    ⟨sessionId, secretHash, now, hCall, hRow, hOpen, hSecret⟩
  refine ⟨hState, hGrants, hOperations, fun hNone => absurd hWrong (hNone row), ?_⟩
  rintro found ⟨id, secret, time, hPresented, hFound, _, _⟩
  rw [hCall] at hPresented
  cases hPresented
  rw [hRow] at hFound
  cases hFound
  exact hCounted

end Presented

end StateStore

theorem exists_split_of_lookup {rows : List SessionRow} {sessionId : String} {row : SessionRow}
    (h : lookup (fun row => row.sessionId) sessionId rows = some row) :
    row.sessionId = sessionId ∧ ∃ earlier later, rows = earlier ++ row :: later ∧
      ∀ other ∈ earlier, other.sessionId ≠ sessionId := by
  obtain ⟨hKey, earlier, later, hSplit, hEarlier⟩ := List.find?_eq_some_iff_append.mp h
  refine ⟨by simpa using hKey, earlier, later, hSplit, fun other hOther => ?_⟩
  simpa using hEarlier other hOther

namespace Store

variable {s t : Store} {sessionId secretHash now : String}

theorem authorize_error {error : StoreError}
    (h : s.authorizeCommissioningSession sessionId secretHash now = (.error error, t)) :
    (t = s ∧ ∀ row, s.sessionRow? sessionId = some row → row.isOpen now = true →
      row.secretHash = secretHash) ∨
    ∃ row, s.sessionRow? sessionId = some row ∧ row.isOpen now = true ∧
      row.secretHash ≠ secretHash ∧ t = s.countFailedAttempt sessionId := by
  unfold authorizeCommissioningSession at h
  split at h
  · rename_i hMissing
    cases h
    refine .inl ⟨rfl, fun row hRow => ?_⟩
    rw [hMissing] at hRow
    cases hRow
  · rename_i row hRow
    split at h
    · rename_i hOpen
      split at h
      · cases h
      · rename_i hSecret
        cases h
        exact .inr ⟨row, hRow, hOpen, hSecret, rfl⟩
    · rename_i hClosed
      cases h
      refine .inl ⟨rfl, fun found hFound hOpen => ?_⟩
      rw [hRow] at hFound
      cases hFound
      exact absurd hOpen hClosed

theorem completeClaim_error {grant : ControllerGrant} {error : StoreError}
    (h : s.completeClaim sessionId grant now = (.error error, t)) : t = s := by
  unfold completeClaim at h
  split at h
  · cases h
    rfl
  · split at h
    · cases h
      rfl
    · cases h
    · split at h
      · cases h
        rfl
      · cases h

theorem claim_error {grant : ControllerGrant} {error : StoreError}
    (h : s.claimController sessionId secretHash grant now = (.error error, t)) :
    (t = s ∧ ∀ row, s.sessionRow? sessionId = some row → row.isOpen now = true →
      row.secretHash = secretHash) ∨
    ∃ row, s.sessionRow? sessionId = some row ∧ row.isOpen now = true ∧
      row.secretHash ≠ secretHash ∧ t = s.countFailedAttempt sessionId := by
  unfold claimController at h
  split at h
  · rename_i session consumedAt hSession
    obtain ⟨row, hRow, hConsumed⟩ := Option.bind_eq_some_iff.mp hSession
    obtain ⟨time, hTime, _⟩ := Option.map_eq_some_iff.mp hConsumed
    refine .inl ⟨(congrArg Prod.snd h).symm, fun found hFound hOpen => ?_⟩
    rw [hRow] at hFound
    cases hFound
    have hUnspent := CommissioningSessionMetadata.unspent_of_isOpen hOpen
    rw [(CommissioningSessionMetadata.unspent_iff.mp hUnspent).1] at hTime
    cases hTime
  · split at h
    · rename_i failure after hAuthorize
      cases h
      exact authorize_error hAuthorize
    · rename_i metadata after hAuthorize
      rcases authorize_cases sessionId secretHash now s with ⟨row, hRow, _, hSecret, hEq⟩ | hEq | hEq
      · rw [hEq] at hAuthorize
        cases hAuthorize
        refine .inl ⟨completeClaim_error h, fun found hFound _ => ?_⟩
        rw [hRow] at hFound
        cases hFound
        exact hSecret
      · rw [hEq] at hAuthorize
        cases hAuthorize
      · rw [hEq] at hAuthorize
        cases hAuthorize

theorem countFailedAttempt_countedAt (hKeyed : s.Keyed) {row : SessionRow}
    (hRow : s.sessionRow? sessionId = some row) :
    CountedAt row s.sessions (s.countFailedAttempt sessionId).sessions := by
  obtain ⟨hId, earlier, later, hSplit, hEarlier⟩ := exists_split_of_lookup hRow
  refine ⟨earlier, later, hSplit, fun other hOther => hId ▸ hEarlier other hOther, ?_⟩
  have hLater : ∀ other ∈ later, other.sessionId ≠ sessionId := by
    have hNodup := hKeyed.sessions
    rw [hSplit, List.map_append, List.map_cons, List.nodup_append] at hNodup
    intro other hOther hSame
    exact (List.nodup_cons.mp hNodup.2.1).1 (List.mem_map.mpr ⟨other, hOther, hSame.trans hId.symm⟩)
  have hKept : ∀ rows : List SessionRow, (∀ other ∈ rows, other.sessionId ≠ sessionId) →
      updateWhere (fun row => row.sessionId = sessionId) SessionRow.counted rows = rows := by
    intro rows hOthers
    refine (List.map_congr_left fun other hOther => ?_).trans (List.map_id rows)
    simp [hOthers other hOther]
  change updateWhere _ SessionRow.counted s.sessions = _
  rw [hSplit, updateWhere, List.map_append, List.map_cons]
  change updateWhere _ SessionRow.counted earlier ++ _ :: updateWhere _ SessionRow.counted later = _
  rw [hKept earlier hEarlier, hKept later hLater]
  simp [hId]

theorem harmless_of_presented {call : StoreCall} (hKeyed : s.Keyed)
    (hCall : call.presented = some (sessionId, secretHash, now))
    (h : (s.apply call = s ∧ ∀ row, s.sessionRow? sessionId = some row → row.isOpen now = true →
      row.secretHash = secretHash) ∨
    ∃ row, s.sessionRow? sessionId = some row ∧ row.isOpen now = true ∧
      row.secretHash ≠ secretHash ∧ s.apply call = s.countFailedAttempt sessionId) :
    sqliteStore.Harmless s call := by
  rcases h with ⟨hEq, hRight⟩ | ⟨row, hRow, hOpen, hSecret, hEq⟩
  · exact .of_right hCall hEq hRight
  · have hApply : sqliteStore.apply s call = s.countFailedAttempt sessionId := hEq
    refine .of_counted hCall hRow hOpen hSecret ?_ ?_ ?_ ?_
    all_goals rw [hApply]
    · rfl
    · rfl
    · rfl
    · exact countFailedAttempt_countedAt hKeyed hRow

theorem resetAuthority_conflict {networkState : NetworkState}
    {recoverySession : Option CommissioningSessionSeed} {conflict : Conflict}
    (h : (s.resetAuthority networkState now recoverySession).1 = .error (.conflict conflict)) :
    False := by
  cases recoverySession with
  | none => cases h
  | some seed =>
    simp only [resetAuthority] at h
    split at h
    · cases h
    · cases h

theorem map_eq_error {α β : Type} {x : Except StoreError α} {f : α → β} {error : StoreError}
    (h : x.map f = .error error) : x = .error error := by
  cases x with
  | ok a => cases h
  | error e => exact congrArg Except.error (Except.error.inj h)

theorem harmless_of_conflict (hKeyed : s.Keyed) {call : StoreCall} {conflict : Conflict}
    (h : (s.perform call).1 = .error (.conflict conflict)) : sqliteStore.Harmless s call := by
  cases call with
  | issueCommissioningSession id secret createdAt expiresAt =>
    have hError : (s.issueCommissioningSession id secret createdAt expiresAt).1 =
        .error (.conflict conflict) := map_eq_error h
    unfold issueCommissioningSession at hError
    split at hError
    · cases hError
    · cases hError
  | authorizeCommissioningSession id secret time =>
    exact harmless_of_presented hKeyed rfl (authorize_error (Prod.ext (map_eq_error h) rfl))
  | claimController id secret grant time =>
    exact harmless_of_presented hKeyed rfl (claim_error (Prod.ext (map_eq_error h) rfl))
  | revokeController id time =>
    refine .of_eq ?_ (StateStore.not_wrongSecret rfl)
    have hError := map_eq_error h
    change (s.revokeController id time).2 = s
    unfold revokeController at hError ⊢
    split at hError
    · rfl
    · split at hError
      · rename_i hLast
        simp [hLast]
      · cases hError
  | createOperation operation =>
    refine .of_eq ?_ (StateStore.not_wrongSecret rfl)
    exact createOperation_error (Prod.ext (map_eq_error h) rfl)
  | updateOperation id state networkState updatedAt errorCode =>
    refine .of_eq ?_ (StateStore.not_wrongSecret rfl)
    have hError := map_eq_error h
    change (s.updateOperation id state networkState updatedAt errorCode).2 = s
    unfold updateOperation at hError ⊢
    split at hError
    · rfl
    · cases hError
  | failInterruptedOperations time => cases h
  | reconcileNetworkState networkState time =>
    refine .of_eq ?_ (StateStore.not_wrongSecret rfl)
    have hError : (s.reconcileNetworkState networkState time).1 = .error (.conflict conflict) :=
      map_eq_error h
    change (s.reconcileNetworkState networkState time).2 = s
    unfold reconcileNetworkState at hError ⊢
    split at hError
    · rename_i hTransition
      rw [if_pos hTransition]
    · cases hError
  | resetAuthority networkState time recoverySession =>
    exact (resetAuthority_conflict (map_eq_error h)).elim

theorem refusalsHarmless : sqliteStore.RefusalsHarmless := by
  intro now calls call conflict h
  have hKeyed : Keyed (sqliteStore.after now calls) :=
    run_invariant keyed_apply (keyed_create now) calls
  exact harmless_of_conflict hKeyed h

end Store

namespace MemoryStore

def ClaimedSpent (s : MemoryStore) : Prop :=
  ∀ sessionId, (Dict.get s.sessionControllerIds sessionId).isSome = true →
    ∃ entry, s.firstSession? sessionId = some entry ∧ entry.1.consumedAt.isSome = true

theorem lookup_countFirst (sessionId other : String)
    (entries : List (CommissioningSessionMetadata × String)) :
    (lookup (fun entry => entry.1.sessionId) other (countFirst sessionId entries)).map
        (fun entry => entry.1.consumedAt) =
      (lookup (fun entry => entry.1.sessionId) other entries).map
        fun entry => entry.1.consumedAt := by
  induction entries with
  | nil => rfl
  | cons entry rest ih =>
    obtain ⟨metadata, storedHash⟩ := entry
    rw [countFirst]
    split
    · by_cases hOther : metadata.sessionId = other
      · simp [lookup, hOther]
      · simp [lookup, hOther]
    · by_cases hOther : metadata.sessionId = other
      · simp [lookup, hOther]
      · simpa [lookup, hOther] using ih

theorem claimedSpent_superseded {s t : MemoryStore} {now : String}
    {added : List (CommissioningSessionMetadata × String)}
    (hSessions : t.sessions = revokeUnspent now s.sessions ++ added)
    (hIds : t.sessionControllerIds = s.sessionControllerIds) (h : s.ClaimedSpent) :
    t.ClaimedSpent := by
  intro sessionId hClaimed
  rw [hIds] at hClaimed
  obtain ⟨entry, hFirst, hConsumed⟩ := h sessionId hClaimed
  have hKept : lookup (fun entry => entry.1.sessionId) sessionId (revokeUnspent now s.sessions) =
      some entry := by
    rw [revokeUnspent, lookup_updateWhere]
    · rw [firstSession?] at hFirst
      rw [hFirst]
      have hSpent : entry.1.unspent = false := by
        rw [Option.isSome_iff_exists] at hConsumed
        obtain ⟨time, hTime⟩ := hConsumed
        simp [CommissioningSessionMetadata.unspent, hTime]
      simp [hSpent]
    · exact fun _ => rfl
  refine ⟨entry, ?_, hConsumed⟩
  rw [firstSession?, hSessions, lookup_append, hKept]
  rfl

theorem claimedSpent_consumeSession {s : MemoryStore} (h : s.ClaimedSpent)
    {sessionId controllerId now : String} {entry : CommissioningSessionMetadata × String}
    (hFirst : s.firstSession? sessionId = some entry) :
    (s.consumeSession sessionId controllerId now).ClaimedSpent := by
  intro other hClaimed
  have hLookup : (s.consumeSession sessionId controllerId now).firstSession? other =
      (s.firstSession? other).map fun entry =>
        if entry.1.sessionId = sessionId then
          ({ entry.1 with consumedAt := some now }, entry.2) else entry := by
    rw [firstSession?, consumeSession, lookup_updateWhere]
    · simp [firstSession?]
    · exact fun _ => rfl
  rw [hLookup]
  by_cases hOther : other = sessionId
  · subst hOther
    rw [hFirst]
    have hId : entry.1.sessionId = other := (lookup_mem hFirst).2
    exact ⟨_, rfl, by simp [hId]⟩
  · have hOld : (Dict.get s.sessionControllerIds other).isSome = true := by
      simpa [consumeSession, Dict.get_set, hOther] using hClaimed
    obtain ⟨kept, hKept, hConsumed⟩ := h other hOld
    have hId : kept.1.sessionId ≠ sessionId := fun hEq =>
      hOther ((lookup_mem hKept).2.symm.trans hEq)
    rw [hKept]
    exact ⟨kept, by simp [hId], hConsumed⟩

theorem claimedSpent_effect {s t : MemoryStore} {call : StoreCall} (hEffect : Effect s call t)
    (h : s.ClaimedSpent) : t.ClaimedSpent := by
  cases hEffect with
  | refused | revoked | created | updated | interrupted | reconciled => exact h
  | issued => exact claimedSpent_superseded rfl rfl h
  | reset => exact claimedSpent_superseded rfl rfl h
  | counted sessionId =>
    intro other hClaimed
    obtain ⟨entry, hFirst, hConsumed⟩ := h other hClaimed
    have hSame := lookup_countFirst sessionId other s.sessions
    rw [firstSession?] at hFirst
    rw [hFirst] at hSame
    obtain ⟨found, hFound, hTime⟩ := Option.map_eq_some_iff.mp hSame
    exact ⟨found, hFound, by rw [hTime]; exact hConsumed⟩
  | resumed hUnclaimed hFirst => exact claimedSpent_consumeSession h hFirst
  | claimed hUnclaimed hFirst => exact claimedSpent_consumeSession h hFirst

variable {s t : MemoryStore} {sessionId secretHash now : String}

theorem lookup_sessions (s : MemoryStore) (sessionId : String) :
    lookup (fun row => row.sessionId) sessionId (memoryStore.sessions s) =
      (s.firstSession? sessionId).map s.sessionRow := by
  change (s.sessions.map s.sessionRow).find? _ = _
  rw [List.find?_map]
  rfl

theorem authorize_error {error : StoreError}
    (h : s.authorizeCommissioningSession sessionId secretHash now = (.error error, t)) :
    (t = s ∧ ∀ entry, s.firstSession? sessionId = some entry → entry.1.isOpen now = true →
      entry.2 = secretHash) ∨
    ∃ entry, s.firstSession? sessionId = some entry ∧ entry.1.isOpen now = true ∧
      entry.2 ≠ secretHash ∧ t = { s with sessions := countFirst sessionId s.sessions } := by
  unfold authorizeCommissioningSession at h
  split at h
  · rename_i hMissing
    cases h
    refine .inl ⟨rfl, fun entry hEntry => ?_⟩
    rw [hMissing] at hEntry
    cases hEntry
  · rename_i metadata storedHash hFirst
    split at h
    · rename_i hOpen
      split at h
      · cases h
      · rename_i hSecret
        cases h
        exact .inr ⟨(metadata, storedHash), hFirst, hOpen, hSecret, rfl⟩
    · rename_i hClosed
      cases h
      refine .inl ⟨rfl, fun entry hEntry hOpen => ?_⟩
      rw [hFirst] at hEntry
      cases hEntry
      exact absurd hOpen hClosed

theorem completeClaim_error {grant : ControllerGrant} {error : StoreError}
    (h : s.completeClaim sessionId grant now = (.error error, t)) : t = s := by
  unfold completeClaim at h
  split at h
  · cases h
    rfl
  · split at h
    · cases h
      rfl
    · cases h
    · cases h

theorem claim_error (hSpent : s.ClaimedSpent) {grant : ControllerGrant} {error : StoreError}
    (h : s.claimController sessionId secretHash grant now = (.error error, t)) :
    (t = s ∧ ∀ entry, s.firstSession? sessionId = some entry → entry.1.isOpen now = true →
      entry.2 = secretHash) ∨
    ∃ entry, s.firstSession? sessionId = some entry ∧ entry.1.isOpen now = true ∧
      entry.2 ≠ secretHash ∧ t = { s with sessions := countFirst sessionId s.sessions } := by
  unfold claimController at h
  split at h
  · rename_i claimed hClaimed
    refine .inl ⟨(congrArg Prod.snd h).symm, fun entry hEntry hOpen => ?_⟩
    obtain ⟨found, hFound, hConsumed⟩ := hSpent sessionId (by rw [hClaimed]; rfl)
    rw [hEntry] at hFound
    cases hFound
    have hUnspent := CommissioningSessionMetadata.unspent_of_isOpen hOpen
    rw [(CommissioningSessionMetadata.unspent_iff.mp hUnspent).1] at hConsumed
    cases hConsumed
  · split at h
    · rename_i failure after hAuthorize
      cases h
      exact authorize_error hAuthorize
    · rename_i accepted after hAuthorize
      rcases authorize_cases sessionId secretHash now s with ⟨metadata, hFirst, _, hEq⟩ | hEq | hEq
      · rw [hEq] at hAuthorize
        cases hAuthorize
        refine .inl ⟨completeClaim_error h, fun entry hEntry _ => ?_⟩
        rw [hFirst] at hEntry
        cases hEntry
        rfl
      · rw [hEq] at hAuthorize
        cases hAuthorize
      · rw [hEq] at hAuthorize
        cases hAuthorize

theorem countFirst_countedAt (s : MemoryStore) {entry : CommissioningSessionMetadata × String}
    {entries : List (CommissioningSessionMetadata × String)}
    (hFirst : lookup (fun entry => entry.1.sessionId) sessionId entries = some entry) :
    CountedAt (s.sessionRow entry) (entries.map s.sessionRow)
      ((countFirst sessionId entries).map s.sessionRow) := by
  induction entries with
  | nil => cases hFirst
  | cons first rest ih =>
    obtain ⟨metadata, storedHash⟩ := first
    by_cases hId : metadata.sessionId = sessionId
    · have hEntry : (metadata, storedHash) = entry := by simpa [lookup, hId] using hFirst
      subst hEntry
      refine ⟨[], rest.map s.sessionRow, rfl, fun _ hNone => absurd hNone List.not_mem_nil, ?_⟩
      rw [countFirst, if_pos hId]
      rfl
    · have hRest : lookup (fun entry => entry.1.sessionId) sessionId rest = some entry := by
        simpa [lookup, hId] using hFirst
      obtain ⟨earlier, later, hSplit, hEarlier, hAfter⟩ := ih hRest
      have hEntryId : (s.sessionRow entry).sessionId = sessionId := (lookup_mem hRest).2
      refine ⟨s.sessionRow (metadata, storedHash) :: earlier, later, ?_, ?_, ?_⟩
      · rw [List.map_cons, hSplit, List.cons_append]
      · rintro other (_ | ⟨_, hOther⟩)
        · rw [hEntryId]
          exact hId
        · exact hEarlier other hOther
      · rw [countFirst, if_neg hId, List.map_cons, hAfter, List.cons_append]

theorem harmless_of_presented {call : StoreCall}
    (hCall : call.presented = some (sessionId, secretHash, now))
    (h : (s.apply call = s ∧ ∀ entry, s.firstSession? sessionId = some entry →
      entry.1.isOpen now = true → entry.2 = secretHash) ∨
    ∃ entry, s.firstSession? sessionId = some entry ∧ entry.1.isOpen now = true ∧
      entry.2 ≠ secretHash ∧ s.apply call = { s with sessions := countFirst sessionId s.sessions }) :
    memoryStore.Harmless s call := by
  rcases h with ⟨hEq, hRight⟩ | ⟨entry, hFirst, hOpen, hSecret, hEq⟩
  · refine .of_right hCall hEq fun row hRow hOpen => ?_
    rw [lookup_sessions] at hRow
    obtain ⟨entry, hEntry, rfl⟩ := Option.map_eq_some_iff.mp hRow
    exact hRight entry hEntry hOpen
  · have hApply : memoryStore.apply s call =
        { s with sessions := countFirst sessionId s.sessions } := hEq
    have hRow : lookup (fun row => row.sessionId) sessionId (memoryStore.sessions s) =
        some (s.sessionRow entry) := by
      rw [lookup_sessions, hFirst]
      rfl
    refine .of_counted hCall hRow hOpen hSecret ?_ ?_ ?_ ?_
    all_goals rw [hApply]
    · rfl
    · rfl
    · rfl
    · exact countFirst_countedAt s hFirst

theorem createOperation_error {operation : BootstrapOperation} {error : StoreError}
    (h : s.createOperation operation = (.error error, t)) : t = s := by
  unfold createOperation at h
  split at h
  · split at h
    · cases h
    · cases h
      rfl
  · split at h
    · cases h
      rfl
    · split at h
      · cases h
        rfl
      · cases h

theorem harmless_of_conflict (hSpent : s.ClaimedSpent) {call : StoreCall} {conflict : Conflict}
    (h : (s.perform call).1 = .error (.conflict conflict)) : memoryStore.Harmless s call := by
  cases call with
  | issueCommissioningSession id secret createdAt expiresAt => cases h
  | authorizeCommissioningSession id secret time =>
    exact harmless_of_presented rfl (authorize_error (Prod.ext (Store.map_eq_error h) rfl))
  | claimController id secret grant time =>
    exact harmless_of_presented rfl (claim_error hSpent (Prod.ext (Store.map_eq_error h) rfl))
  | revokeController id time =>
    refine .of_eq ?_ (StateStore.not_wrongSecret rfl)
    have hError := Store.map_eq_error h
    change (s.revokeController id time).2 = s
    unfold revokeController at hError ⊢
    split at hError
    · rfl
    · split at hError
      · rename_i hLast
        simp [hLast]
      · cases hError
  | createOperation operation =>
    refine .of_eq ?_ (StateStore.not_wrongSecret rfl)
    exact createOperation_error (Prod.ext (Store.map_eq_error h) rfl)
  | updateOperation id state networkState updatedAt errorCode =>
    refine .of_eq ?_ (StateStore.not_wrongSecret rfl)
    have hError := Store.map_eq_error h
    change (s.updateOperation id state networkState updatedAt errorCode).2 = s
    unfold updateOperation at hError ⊢
    split at hError
    · rfl
    · cases hError
  | failInterruptedOperations time => cases h
  | reconcileNetworkState networkState time =>
    refine .of_eq ?_ (StateStore.not_wrongSecret rfl)
    have hError : (s.reconcileNetworkState networkState time).1 = .error (.conflict conflict) :=
      Store.map_eq_error h
    change (s.reconcileNetworkState networkState time).2 = s
    unfold reconcileNetworkState at hError ⊢
    split at hError
    · rename_i hTransition
      rw [if_pos hTransition]
    · cases hError
  | resetAuthority networkState time recoverySession => cases h

theorem refusalsHarmless : memoryStore.RefusalsHarmless := by
  intro now calls call conflict h
  have hStep : ∀ s call, Keyed s ∧ ClaimedSpent s → Keyed (s.apply call) ∧
      ClaimedSpent (s.apply call) := fun s call hInv =>
    ⟨keyed_apply s call hInv.1, claimedSpent_effect (apply_effect hInv.1.controllerKeys call) hInv.2⟩
  have hRun : Keyed (memoryStore.after now calls) ∧ ClaimedSpent (memoryStore.after now calls) :=
    run_invariant hStep ⟨keyed_create now, fun _ hClaimed => by cases hClaimed⟩ calls
  exact harmless_of_conflict hRun.2 h

end MemoryStore

/-- In both adapters and after every run, a conflict leaves every record as it was,
and a wrong code presented to an open window is counted there and nowhere else. -/
theorem refused_call_changes_nothing :
    sqliteStore.RefusalsHarmless ∧ memoryStore.RefusalsHarmless :=
  ⟨Store.refusalsHarmless, MemoryStore.refusalsHarmless⟩

end EidolonAdmin.Bootstrap
