import EidolonAdmin.Bootstrap.StoreKeys

/-! # Finding the open claim window

The readers of `BootstrapService` take the window from
`latest_commissioning_session`, which orders the rows by the text of their
creation time. They see the open window in every state of a run exactly when
each window that can be open sorts after all windows stored before it.
-/

namespace EidolonAdmin.Bootstrap

open Foundation Foundation.Table Foundation.Transition

inductive BootstrapMode where
  | development
  | production
deriving DecidableEq, Repr

inductive ClaimWindowPolicy where
  | onDemand
  | alwaysOpen
deriving DecidableEq, Repr

structure BootstrapSettings where
  mode : BootstrapMode := .production
  claimWindow : ClaimWindowPolicy := .onDemand
deriving DecidableEq, Repr

/-- `_read_factory_setup_code`, from the text of the file or from a file that
cannot be read. -/
def readFactorySetupCode (text : Option String) : Option String :=
  (text.map strip).filter isUsableSetupCode

/-- What `_open_factory_window` and `reopen_standing_claim_window` take from the
file system, the clock and `uuid4`. -/
structure WindowDraw where
  factoryText : Option String
  now : String
  sessionId : String
  issuedAt : String
deriving DecidableEq, Repr

namespace Store

variable (sha256 : String → String)

/-- The store side of `_issue_setup_code`. -/
def issueSetupCode (setupCode sessionId issuedAt : String) (s : Store) :
    Except StoreError Unit × Store :=
  s.issueCommissioningSession sessionId (sha256 setupCode) issuedAt none

/-- `session is not None and session.is_open(now)` of the latest session. -/
def windowOpen (now : String) (s : Store) : Bool :=
  s.latestCommissioningSession.any fun session => session.isOpen now

def openFactoryWindow (settings : BootstrapSettings) (draw : WindowDraw) (s : Store) :
    Except StoreError Unit × Store :=
  match readFactorySetupCode draw.factoryText with
  | none => (.ok (), s)
  | some code =>
    if settings.claimWindow ≠ .alwaysOpen ∧ s.state.claimState ≠ .unclaimed then (.ok (), s)
    else if s.windowOpen draw.now then (.ok (), s)
    else s.issueSetupCode sha256 code draw.sessionId draw.issuedAt

def reopenStandingClaimWindow (settings : BootstrapSettings) (draw : WindowDraw) (s : Store) :
    Except StoreError Unit × Store :=
  if settings.claimWindow ≠ .alwaysOpen then (.ok (), s)
  else if s.windowOpen draw.now then (.ok (), s)
  else
    match readFactorySetupCode draw.factoryText with
    | none => (.ok (), s)
    | some code => s.issueSetupCode sha256 code draw.sessionId draw.issuedAt

/-- `_active_setup_session`: the id and the expiry a phone is told. -/
def activeSetupSession (now : String) (s : Store) : Option (String × Option String) :=
  match s.latestCommissioningSession with
  | none => none
  | some session =>
    if session.isOpen now then some (session.sessionId, session.expiresAt) else none

def sortKey (row : SessionRow) : String ×ₗ String := toLex (row.createdAt, row.sessionId)

/-- Every open window is the one the query returns and the three readers see. -/
def FindsOpenWindow (s : Store) : Prop :=
  ∀ row ∈ s.sessions, ∀ now, row.isOpen now = true →
    s.latestCommissioningSession = some row.toCommissioningSessionMetadata ∧
    s.activeSetupSession now = some (row.sessionId, row.expiresAt) ∧
    ∀ sha256 settings draw, draw.now = now →
      s.openFactoryWindow sha256 settings draw = (.ok (), s) ∧
      s.reopenStandingClaimWindow sha256 settings draw = (.ok (), s)

def newWindow (s : Store) : StoreCall → Option SessionRow
  | .issueCommissioningSession sessionId secretHash createdAt expiresAt =>
    if (s.sessionRow? sessionId).isSome then none
    else some { sessionId, createdAt, expiresAt, secretHash }
  | .resetAuthority _ now (some seed) =>
    if (s.sessionRow? seed.sessionId).isSome then none
    else
      some { sessionId := seed.sessionId, createdAt := now, expiresAt := seed.expiresAt,
             secretHash := seed.secretHash }
  | _ => none

/-- A window the call stores and that is open at some time sorts after every
stored window. -/
def SortsLast (s : Store) (call : StoreCall) : Prop :=
  ∀ row, s.newWindow call = some row → (∃ now, row.isOpen now = true) →
    ∀ old ∈ s.sessions, sortKey old < sortKey row

def OpenLast (s : Store) : Prop :=
  ∀ row ∈ s.sessions, (∃ now, row.isOpen now = true) →
    ∀ old ∈ s.sessions, sortKey old ≤ sortKey row

theorem latest_eq {s : Store} (hKeyed : s.Keyed) {row : SessionRow} (hRow : row ∈ s.sessions)
    (hLast : ∀ old ∈ s.sessions, sortKey old ≤ sortKey row) :
    s.latestCommissioningSession = some row.toCommissioningSessionMetadata := by
  cases hMax : s.sessions.argmax sortKey with
  | none =>
    rw [List.argmax_eq_none.mp hMax] at hRow
    cases hRow
  | some found =>
    have hFound : found ∈ s.sessions := List.argmax_mem hMax
    have hKey : sortKey found = sortKey row :=
      le_antisymm (hLast found hFound) (List.le_of_mem_argmax hRow hMax)
    have hId : found.sessionId = row.sessionId := congrArg (fun key => (ofLex key).2) hKey
    have hSame := List.inj_on_of_nodup_map hKeyed.sessions hFound hRow hId
    rw [latestCommissioningSession]
    change (s.sessions.argmax sortKey).map _ = _
    rw [hMax, hSame]
    rfl

theorem findsOpenWindow_of_openLast {s : Store} (hKeyed : s.Keyed) (h : s.OpenLast) :
    s.FindsOpenWindow := by
  intro row hRow now hOpen
  have hLatest := latest_eq hKeyed hRow (h row hRow ⟨now, hOpen⟩)
  have hWindow : s.windowOpen now = true := by
    rw [windowOpen, hLatest]
    exact hOpen
  refine ⟨hLatest, by simp [activeSetupSession, hLatest, hOpen], ?_⟩
  rintro sha256 settings draw rfl
  constructor
  · unfold openFactoryWindow
    split
    · rfl
    · simp [hWindow]
  · simp [reopenStandingClaimWindow, hWindow]

theorem openLast_updateWhere {rows : List SessionRow} {p : SessionRow → Bool}
    {f : SessionRow → SessionRow} (hKey : ∀ row, sortKey (f row) = sortKey row)
    (hOpens : ∀ row now, (f row).isOpen now = true → row.isOpen now = true)
    (h : ∀ row ∈ rows, (∃ now, row.isOpen now = true) → ∀ old ∈ rows, sortKey old ≤ sortKey row) :
    ∀ row ∈ updateWhere p f rows, (∃ now, row.isOpen now = true) →
      ∀ old ∈ updateWhere p f rows, sortKey old ≤ sortKey row := by
  have hBefore : ∀ row ∈ updateWhere p f rows, ∃ old ∈ rows, sortKey row = sortKey old ∧
      ∀ now, row.isOpen now = true → old.isOpen now = true := by
    intro row hRow
    obtain ⟨old, hOld, rfl⟩ := mem_updateWhere.mp hRow
    split
    · exact ⟨old, hOld, hKey old, hOpens old⟩
    · exact ⟨old, hOld, rfl, fun _ hOpen => hOpen⟩
  rintro row hRow ⟨now, hOpen⟩ old hOld
  obtain ⟨row', hRow', hRowKey, hRowOpen⟩ := hBefore row hRow
  obtain ⟨old', hOld', hOldKey, _⟩ := hBefore old hOld
  rw [hRowKey, hOldKey]
  exact h row' hRow' ⟨now, hRowOpen now hOpen⟩ old' hOld'

theorem not_isOpen_of_mem_revokeUnspent {rows : List SessionRow} {time : String} {row : SessionRow}
    (hRow : row ∈ revokeUnspent time rows) (now : String) : row.isOpen now = false := by
  obtain ⟨old, _, rfl⟩ := mem_updateWhere.mp hRow
  split
  · simp [CommissioningSessionMetadata.isOpen]
  · rename_i hSpent
    rw [← Bool.not_eq_true]
    exact fun hOpen => hSpent (CommissioningSessionMetadata.unspent_of_isOpen hOpen)

theorem exists_sortKey_of_mem_revokeUnspent {rows : List SessionRow} {time : String}
    {row : SessionRow} (hRow : row ∈ revokeUnspent time rows) :
    ∃ old ∈ rows, sortKey old = sortKey row := by
  obtain ⟨old, hOld, rfl⟩ := mem_updateWhere.mp hRow
  refine ⟨old, hOld, ?_⟩
  split
  · rfl
  · rfl

theorem openLast_append {rows : List SessionRow} {time : String} {added : SessionRow}
    (hLast : (∃ now, added.isOpen now = true) → ∀ old ∈ rows, sortKey old < sortKey added) :
    ∀ row ∈ revokeUnspent time rows ++ [added], (∃ now, row.isOpen now = true) →
      ∀ old ∈ revokeUnspent time rows ++ [added], sortKey old ≤ sortKey row := by
  rintro row hRow ⟨now, hOpen⟩ old hOld
  rcases List.mem_append.mp hRow with hSpent | hNew
  · rw [not_isOpen_of_mem_revokeUnspent hSpent now] at hOpen
    cases hOpen
  · obtain rfl := List.mem_singleton.mp hNew
    rcases List.mem_append.mp hOld with hStored | hSame
    · obtain ⟨stored, hMem, hKey⟩ := exists_sortKey_of_mem_revokeUnspent hStored
      rw [← hKey]
      exact (hLast ⟨now, hOpen⟩ stored hMem).le
    · rw [List.mem_singleton.mp hSame]

theorem openLast_effect {s t : Store} {call : StoreCall} (hEffect : Effect s call t)
    (hSorts : s.SortsLast call) (h : s.OpenLast) : t.OpenLast := by
  cases hEffect with
  | refused | revoked | created | updated | interrupted | reconciled => exact h
  | issued hFresh => exact openLast_append (hSorts _ (by simp [newWindow, hFresh]))
  | counted => exact openLast_updateWhere (fun _ => rfl) (fun _ _ hOpen => hOpen) h
  | resumed =>
    refine openLast_updateWhere (fun _ => rfl) (fun _ _ hOpen => ?_) h
    simp [CommissioningSessionMetadata.isOpen] at hOpen
  | claimed _ _ _ _ hInsert =>
    rw [insertGrant_frame hInsert]
    refine openLast_updateWhere (fun _ => rfl) (fun _ _ hOpen => ?_) h
    simp [CommissioningSessionMetadata.isOpen] at hOpen
  | reset =>
    refine openLast_updateWhere (fun _ => rfl) (fun _ _ hOpen => ?_) h
    simp [CommissioningSessionMetadata.isOpen] at hOpen
  | recovered hFresh => exact openLast_append (hSorts _ (by simp [newWindow, hFresh]))

theorem sessions_of_newWindow {s : Store} {call : StoreCall} {row : SessionRow}
    (h : s.newWindow call = some row) :
    s.sessionRow? row.sessionId = none ∧
      ∃ now, (s.apply call).sessions = revokeUnspent now s.sessions ++ [row] := by
  cases call with
  | issueCommissioningSession sessionId secretHash createdAt expiresAt =>
    simp only [newWindow] at h
    split at h
    · cases h
    · rename_i hFresh
      cases h
      refine ⟨by simpa using hFresh, createdAt, ?_⟩
      simp [apply, perform, issueCommissioningSession, hFresh]
  | resetAuthority networkState now recoverySession =>
    cases recoverySession with
    | none => cases h
    | some seed =>
      simp only [newWindow] at h
      split at h
      · cases h
      · rename_i hFresh
        cases h
        refine ⟨by simpa using hFresh, now, ?_⟩
        simp [apply, perform, resetAuthority, withdrawAuthority, hFresh]
  | _ => cases h

theorem sortKey_le_of_latest {s : Store} {row old : SessionRow}
    (h : s.latestCommissioningSession = some row.toCommissioningSessionMetadata)
    (hOld : old ∈ s.sessions) : sortKey old ≤ sortKey row := by
  obtain ⟨found, hMax, hSame⟩ := Option.map_eq_some_iff.mp h
  have hKey : sortKey found = sortKey row :=
    congrArg (fun session : CommissioningSessionMetadata =>
      toLex (session.createdAt, session.sessionId)) hSame
  rw [← hKey]
  exact List.le_of_mem_argmax hOld hMax

/-- A window stored out of order hides itself: it is open, and another is returned. -/
theorem sortsLast_of_findsOpenWindow {s : Store} {call : StoreCall}
    (h : (s.apply call).FindsOpenWindow) : s.SortsLast call := by
  rintro row hNew ⟨now, hOpen⟩ old hOld
  obtain ⟨hFresh, time, hSessions⟩ := sessions_of_newWindow hNew
  have hStored : row ∈ (s.apply call).sessions := by simp [hSessions]
  have hLatest := (h row hStored now hOpen).1
  have hKept : ∃ kept ∈ (s.apply call).sessions, sortKey kept = sortKey old := by
    obtain ⟨kept, hKept, hKey⟩ : ∃ kept ∈ revokeUnspent time s.sessions, sortKey kept = sortKey old := by
      refine ⟨_, mem_updateWhere.mpr ⟨old, hOld, rfl⟩, ?_⟩
      split
      · rfl
      · rfl
    exact ⟨kept, by simp [hSessions, hKept], hKey⟩
  obtain ⟨kept, hMem, hKey⟩ := hKept
  refine lt_of_le_of_ne (hKey ▸ sortKey_le_of_latest hLatest hMem) fun hSame => ?_
  exact lookup_eq_none_iff.mp hFresh old hOld (congrArg (fun key => (ofLex key).2) hSame)

end Store

/-- Over a run, the open window is found in every state reached exactly when every
window that can be open was stored with a key above all earlier ones. -/
theorem open_window_found_iff (now : String) (calls : List StoreCall) :
    (∀ before rest, calls = before ++ rest → (sqliteStore.after now before).FindsOpenWindow) ↔
      Meets Store.apply Store.SortsLast (Store.create now) calls := by
  constructor
  · intro h
    rw [meets_iff]
    intro before call rest hSplit
    apply Store.sortsLast_of_findsOpenWindow
    have hNext := h (before ++ [call]) rest (by simp [hSplit])
    rw [StateStore.after, run_append] at hNext
    exact hNext
  · intro hMeets before rest hSplit
    rw [hSplit, meets_append] at hMeets
    have hInv : (run Store.apply (Store.create now) before).Keyed ∧
        (run Store.apply (Store.create now) before).OpenLast := by
      refine Meets.run_invariant (P := fun s => s.Keyed ∧ s.OpenLast) ?_
        ⟨Store.keyed_create now, nofun⟩ hMeets.1
      intro s call hSorts h
      exact ⟨Store.keyed_apply s call h.1, Store.openLast_effect (Store.apply_effect s call) hSorts h.2⟩
    exact Store.findsOpenWindow_of_openLast hInv.1 hInv.2

/-- Two windows issued half a second apart, the first at a whole second: its text
ends in `Z` where the other has a fraction, and sorts after it. -/
def halfSecondApart : List StoreCall :=
  [.issueCommissioningSession "a" "h1" (timestamp ⟨2026, 8, 5, 0, 0, 7, 0⟩) none,
   .issueCommissioningSession "b" "h2" (timestamp ⟨2026, 8, 5, 0, 0, 7, 500000⟩) none]

def halfSecondLater : SessionRow where
  sessionId := "b"
  createdAt := timestamp ⟨2026, 8, 5, 0, 0, 7, 500000⟩
  secretHash := "h2"

theorem open_window_missed_half_second_apart :
    ¬ (∀ calls, (sqliteStore.after "" calls).FindsOpenWindow) := by
  intro h
  have hRow : halfSecondLater ∈ (sqliteStore.after "" halfSecondApart).sessions := by decide
  have hOpen : halfSecondLater.isOpen (timestamp ⟨2026, 8, 5, 0, 0, 8, 0⟩) = true := by decide
  have hSeen := (h halfSecondApart halfSecondLater hRow _ hOpen).2.1
  revert hSeen
  decide

end EidolonAdmin.Bootstrap
