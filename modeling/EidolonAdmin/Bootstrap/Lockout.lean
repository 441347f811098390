import EidolonAdmin.Bootstrap.ClaimInvariant
import EidolonAdmin.Bootstrap.NetworkOperations

/-! # The way into a Host that keeps a window standing

A Host that nobody holds and that no window opens cannot be managed or claimed.
Every operation but the development reset leaves a Controller or an unspent
window; what is left for the clock is the end of a recovery window.
-/

namespace EidolonAdmin.Bootstrap

open Foundation Foundation.Table Foundation.Transition

def SessionRow.Stands (row : SessionRow) (now : String) : Prop :=
  row.unspent = true → ∀ expiresAt, row.expiresAt = some expiresAt → now < expiresAt

theorem SessionRow.isOpen_of_stands {row : SessionRow} {now : String}
    (hUnspent : row.unspent = true) (h : row.Stands now) : row.isOpen now = true := by
  obtain ⟨hConsumed, hRevoked⟩ := CommissioningSessionMetadata.unspent_iff.mp hUnspent
  simp only [CommissioningSessionMetadata.isOpen, hConsumed, hRevoked, Option.isSome_none,
    Bool.or_self, Bool.false_eq_true, if_false]
  split
  · rfl
  · rename_i expiresAt hEnd
    exact decide_eq_true (h hUnspent expiresAt hEnd)

namespace Store

/-- An active Controller, or a window that is open at this time. -/
def WayIn (s : Store) (now : String) : Prop :=
  s.activeGrants ≠ [] ∨ ∃ row ∈ s.sessions, row.isOpen now = true

instance (s : Store) (now : String) : Decidable (s.WayIn now) :=
  inferInstanceAs (Decidable (s.activeGrants ≠ [] ∨ ∃ row ∈ s.sessions, row.isOpen now = true))

def Held (s : Store) : Prop :=
  s.activeGrants ≠ [] ∨ ∃ row ∈ s.sessions, row.unspent = true

def Standing (s : Store) (now : String) : Prop :=
  s.activeGrants = [] → ∀ row ∈ s.sessions, row.Stands now

theorem wayIn_of_held {s : Store} {now : String} (hHeld : s.Held) (h : s.Standing now) :
    s.WayIn now := by
  by_cases hGrants : s.activeGrants = []
  · rcases hHeld with hActive | ⟨row, hRow, hUnspent⟩
    · exact absurd hGrants hActive
    · exact .inr ⟨row, hRow, SessionRow.isOpen_of_stands hUnspent (h hGrants row hRow)⟩
  · exact .inl hGrants

/-- The calls that open no window with an end, store no grant that is withdrawn
already and withdraw nothing themselves. -/
def KeepsWay : StoreCall → Prop
  | .issueCommissioningSession _ _ _ expiresAt => expiresAt = none
  | .claimController _ _ grant _ => grant.revokedAt = none
  | .resetAuthority .. => False
  | _ => True

theorem revokeUnspent_spent {now : String} {rows : List SessionRow} {row : SessionRow}
    (h : row ∈ revokeUnspent now rows) : row.unspent = false := by
  obtain ⟨old, _, rfl⟩ := mem_updateWhere.mp h
  split
  · simp [CommissioningSessionMetadata.unspent]
  · rename_i hSpent
    simpa using hSpent

theorem stands_superseded {rows : List SessionRow} {now time : String} {opened : SessionRow}
    (hOpened : opened.Stands time) : ∀ row ∈ revokeUnspent now rows ++ [opened], row.Stands time := by
  intro row hRow
  rcases List.mem_append.mp hRow with hOld | hNew
  · intro hUnspent
    rw [revokeUnspent_spent hOld] at hUnspent
    cases hUnspent
  · obtain rfl := List.mem_singleton.mp hNew
    exact hOpened

theorem held_apply {s : Store} (hKeyed : s.Keyed) {call : StoreCall} (hKeeps : KeepsWay call)
    (h : s.Held) : (s.apply call).Held := by
  have hEffect := apply_effect s call
  have hRevoke := revokeKeepsOne hKeyed
  generalize hAfter : s.apply call = t at hEffect
  cases hEffect with
  | refused | created | updated | interrupted | reconciled => exact h
  | issued => exact .inr ⟨_, List.mem_append_right _ List.mem_cons_self, rfl⟩
  | counted sessionId =>
    rcases h with hActive | ⟨row, hRow, hUnspent⟩
    · exact .inl hActive
    · refine .inr ⟨_, mem_updateWhere.mpr ⟨row, hRow, rfl⟩, ?_⟩
      split
      · exact hUnspent
      · exact hUnspent
  | resumed _ _ _ hHeld => exact .inl (List.ne_nil_of_mem hHeld)
  | claimed _ _ _ hEpoch hInsert =>
    have hActive := insertGrant_activeGrants hInsert hEpoch hKeeps
    exact .inl hActive
  | @revoked controllerId now target hTarget =>
    left
    rw [← hAfter]
    exact hRevoke controllerId now (List.ne_nil_of_mem hTarget)
  | reset | recovered => cases hKeeps

theorem standing_apply {s : Store} (hKeyed : s.Keyed) {call : StoreCall} (hKeeps : KeepsWay call)
    {now : String} (h : s.Standing now) : (s.apply call).Standing now := by
  have hEffect := apply_effect s call
  have hRevoke := revokeKeepsOne hKeyed
  generalize hAfter : s.apply call = t at hEffect
  cases hEffect with
  | refused | created | updated | interrupted | reconciled => exact h
  | issued =>
    intro _
    refine stands_superseded fun _ expiresAt hEnd => ?_
    rw [show _ = none from hKeeps] at hEnd
    cases hEnd
  | counted sessionId =>
    intro hNone
    exact forall_updateWhere (h hNone) fun row hStands => hStands
  | resumed _ _ _ hHeld =>
    intro hNone
    exact absurd hNone (List.ne_nil_of_mem hHeld)
  | claimed _ _ _ hEpoch hInsert =>
    have hActive := insertGrant_activeGrants hInsert hEpoch hKeeps
    exact fun hNone => absurd hNone hActive
  | @revoked controllerId time target hTarget =>
    intro hNone
    rw [← hAfter] at hNone
    exact absurd hNone (hRevoke controllerId time (List.ne_nil_of_mem hTarget))
  | reset | recovered => cases hKeeps

theorem standing_issued {s : Store} {sessionId : String} (hFresh : s.sessionRow? sessionId = none)
    (secretHash createdAt now : String) :
    (s.issueCommissioningSession sessionId secretHash createdAt none).2.Standing now := by
  simp only [issueCommissioningSession, hFresh, Option.isSome_none, Bool.false_eq_true, if_false]
  intro _
  refine stands_superseded fun _ expiresAt hEnd => ?_
  cases hEnd

theorem run_keepsWay {s : Store} {calls : List StoreCall} (hKeeps : ∀ call ∈ calls, KeepsWay call)
    (hKeyed : s.Keyed) (hHeld : s.Held) :
    (run apply s calls).Held ∧
      ∀ now, s.Standing now → (run apply s calls).Standing now := by
  constructor
  · refine (Meets.run_invariant (P := fun t => t.Keyed ∧ t.Held) ?_ ⟨hKeyed, hHeld⟩
      (Meets.of_mem s hKeeps)).2
    intro t call hCall hInv
    exact ⟨keyed_apply t call hInv.1, held_apply hInv.1 hCall hInv.2⟩
  · intro now hStanding
    refine (Meets.run_invariant (P := fun t => t.Keyed ∧ t.Standing now) ?_ ⟨hKeyed, hStanding⟩
      (Meets.of_mem s hKeeps)).2
    intro t call hCall hInv
    exact ⟨keyed_apply t call hInv.1, standing_apply hInv.1 hCall hInv.2⟩

end Store

theorem controllerGrant_live {platform : Platform} {payload : Json} {resetEpoch : Nat}
    {createdAt : String} {grant : ControllerGrant}
    (h : controllerGrant platform payload resetEpoch createdAt = .ok grant) :
    grant.revokedAt = none := by
  simp only [controllerGrant, bind, Except.bind, pure, Except.pure] at h
  repeat' split at h
  all_goals cases h
  all_goals rfl

namespace Host

variable {platform : Platform} {settings : BootstrapSettings}

/-- What an operation that completes at the given time must find: it is not the
authority reset of a development reset, a window it opens does not end by then, and
otherwise the way in that there was has not come to its end. -/
def KeepsWayIn (settings : BootstrapSettings) (h : Host) : Action × String → Prop
  | (.issueSetupCode setupCode sessionId _, done) =>
    (isUsableSetupCode setupCode = true ∧ h.store.sessionRow? sessionId = none) ∨
      h.store.Standing done
  | (.openControllerRecoveryWindow ttlSeconds _ sessionId _ expiresAt, done) =>
    (60 ≤ (ttlSeconds.filter (· ≠ 0)).getD recoveryWindowTtlSeconds ∧
        (ttlSeconds.filter (· ≠ 0)).getD recoveryWindowTtlSeconds ≤ 86400 ∧
        h.store.sessionRow? sessionId = none ∧ done < expiresAt) ∨
      (¬ (60 ≤ (ttlSeconds.filter (· ≠ 0)).getD recoveryWindowTtlSeconds ∧
          (ttlSeconds.filter (· ≠ 0)).getD recoveryWindowTtlSeconds ≤ 86400 ∧
          h.store.sessionRow? sessionId = none) ∧ h.store.Standing done)
  | (.resume i (.returned _) _ _, done) =>
    (∀ forgetWifiProfiles, h.calls[i]? ≠ some (.resetRead forgetWifiProfiles)) ∧
      h.store.Standing done
  | (.restart _ draw, done) =>
    (settings.claimWindow = .alwaysOpen ∧ (readFactorySetupCode draw.factoryText).isSome = true ∧
        h.store.windowOpen draw.now = false ∧ h.store.sessionRow? draw.sessionId = none) ∨
      h.store.Standing done
  | (_, done) => h.store.Standing done

def Withdrawing (h : Host) : Action → Prop
  | .openControllerRecoveryWindow .. => True
  | .resume i (.returned _) _ _ =>
    ∃ forgetWifiProfiles, h.calls[i]? = some (.resetRead forgetWifiProfiles)
  | _ => False

theorem served_keepsWay {h : Host} {a : Action} {calls : List StoreCall}
    (hServed : h.Served platform a calls) (hOther : ¬ h.Withdrawing a) :
    ∀ call ∈ calls, Store.KeepsWay call := by
  have hOpened := Store.forall_opened (P := Store.KeepsWay) fun _ _ _ => rfl
  cases hServed with
  | nothing => simp
  | issued | authorized | revoked | configured | rolledBack | wrote | reconciled =>
    simp [Store.KeepsWay]
  | claimed hGrant reopened =>
    intro call hCall
    rcases List.mem_cons.mp hCall with rfl | hReopened
    · exact controllerGrant_live hGrant
    · exact hOpened reopened call hReopened
  | restarted opened =>
    intro call hCall
    rcases List.mem_cons.mp hCall with rfl | hNew
    · trivial
    · exact hOpened opened call hNew
  | recovered => exact absurd trivial hOther
  | reset hCall => exact absurd ⟨_, hCall⟩ hOther

theorem step_keepsWay {h : Host} (hKeyed : h.store.Keyed) (hHeld : h.store.Held) {a : Action}
    (hOther : ¬ h.Withdrawing a) :
    (h.step platform settings a).store.Held ∧
      ∀ now, h.store.Standing now → (h.step platform settings a).store.Standing now := by
  obtain ⟨calls, hServed, hStore⟩ := step_reaches platform settings h a
  rw [hStore]
  exact Store.run_keepsWay (served_keepsWay hServed hOther) hKeyed hHeld

theorem step_recovered {h : Host} {ttlSeconds : Option Int}
    {setupCode sessionId issuedAt expiresAt done : String}
    (hTtl : 60 ≤ (ttlSeconds.filter (· ≠ 0)).getD recoveryWindowTtlSeconds ∧
      (ttlSeconds.filter (· ≠ 0)).getD recoveryWindowTtlSeconds ≤ 86400)
    (hFresh : h.store.sessionRow? sessionId = none) (hEnd : done < expiresAt) :
    (h.step platform settings (.openControllerRecoveryWindow ttlSeconds setupCode sessionId issuedAt
      expiresAt)).store.Held ∧
    (h.step platform settings (.openControllerRecoveryWindow ttlSeconds setupCode sessionId issuedAt
      expiresAt)).store.Standing done := by
  simp only [step, Store.openControllerRecoveryWindow, hTtl, and_self, if_true,
    Store.resetAuthority, hFresh, Option.isSome_none, Bool.false_eq_true, if_false]
  refine ⟨.inr ⟨_, List.mem_append_right _ List.mem_cons_self, rfl⟩, fun _ => ?_⟩
  refine Store.stands_superseded fun _ ending hEnding => ?_
  cases hEnding
  exact hEnd

theorem step_recovery_refused {h : Host} {ttlSeconds : Option Int}
    {setupCode sessionId issuedAt expiresAt : String}
    (hRefused : ¬ (60 ≤ (ttlSeconds.filter (· ≠ 0)).getD recoveryWindowTtlSeconds ∧
      (ttlSeconds.filter (· ≠ 0)).getD recoveryWindowTtlSeconds ≤ 86400 ∧
      h.store.sessionRow? sessionId = none)) :
    (h.step platform settings (.openControllerRecoveryWindow ttlSeconds setupCode sessionId issuedAt
      expiresAt)).store = h.store := by
  simp only [step, Store.openControllerRecoveryWindow]
  split
  · rename_i hTtl
    have hUsed : (h.store.sessionRow? sessionId).isSome = true := by
      by_contra hNew
      exact hRefused ⟨hTtl.1, hTtl.2, by simpa using hNew⟩
    simp [Store.resetAuthority, hUsed]
  · rfl

theorem step_restarted {h : Host} {now done : String} {draw : WindowDraw}
    (hPolicy : settings.claimWindow = .alwaysOpen)
    (hCode : (readFactorySetupCode draw.factoryText).isSome = true)
    (hClosed : h.store.windowOpen draw.now = false)
    (hFresh : h.store.sessionRow? draw.sessionId = none) :
    (h.step platform settings (.restart now draw)).store.Standing done := by
  obtain ⟨code, hRead⟩ := Option.isSome_iff_exists.mp hCode
  have hSessions : (h.store.failInterruptedOperations now).2.sessions = h.store.sessions := by
    simp only [Store.failInterruptedOperations]
    split
    · rfl
    · rfl
  have hStillClosed : (h.store.failInterruptedOperations now).2.windowOpen draw.now = false := by
    rw [Store.windowOpen, Store.latestCommissioningSession, hSessions]
    exact hClosed
  have hStillFresh : (h.store.failInterruptedOperations now).2.sessionRow? draw.sessionId = none := by
    rw [Store.sessionRow?, hSessions]
    exact hFresh
  simp only [step, Store.restart, Store.openFactoryWindow, hRead, hPolicy, ne_eq, not_true_eq_false,
    false_and, if_false, hStillClosed, Bool.false_eq_true]
  exact Store.standing_issued hStillFresh _ _ _

theorem step_issued {h : Host} {setupCode sessionId issuedAt done : String}
    (hCode : isUsableSetupCode setupCode = true) (hFresh : h.store.sessionRow? sessionId = none) :
    (h.step platform settings (.issueSetupCode setupCode sessionId issuedAt)).store.Standing
      done := by
  simp only [step, Store.issueNamedSetupCode, hCode, if_true]
  exact Store.standing_issued hFresh _ _ _

theorem step_wayIn (platform : Platform) {h : Host} (hKeyed : h.store.Keyed)
    (hHeld : h.store.Held) {a : Action} {done : String} (hKeeps : h.KeepsWayIn settings (a, done)) :
    (h.step platform settings a).store.Held ∧
      (h.step platform settings a).store.Standing done := by
  have hOther : ¬ h.Withdrawing a → (h.store.Standing done ∨
      (h.step platform settings a).store.Standing done) →
      (h.step platform settings a).store.Held ∧
        (h.step platform settings a).store.Standing done := by
    intro hKept hStanding
    have hStep : (h.step platform settings a).store.Held ∧
        ∀ now, h.store.Standing now → (h.step platform settings a).store.Standing now :=
      step_keepsWay hKeyed hHeld hKept
    obtain ⟨hStillHeld, hStands⟩ := hStep
    rcases hStanding with hBefore | hAfter
    · exact ⟨hStillHeld, hStands done hBefore⟩
    · exact ⟨hStillHeld, hAfter⟩
  cases a with
  | openControllerRecoveryWindow ttlSeconds setupCode sessionId issuedAt expiresAt =>
    rcases hKeeps with ⟨hLow, hHigh, hFresh, hEnd⟩ | ⟨hRefused, hStanding⟩
    · exact step_recovered ⟨hLow, hHigh⟩ hFresh hEnd
    · rw [step_recovery_refused hRefused]
      exact ⟨hHeld, hStanding⟩
  | issueSetupCode setupCode sessionId issuedAt =>
    rcases hKeeps with ⟨hCode, hFresh⟩ | hStanding
    · exact hOther id (.inr (step_issued hCode hFresh))
    · exact hOther id (.inl hStanding)
  | restart now draw =>
    rcases hKeeps with ⟨hPolicy, hCode, hClosed, hFresh⟩ | hStanding
    · exact hOther id (.inr (step_restarted hPolicy hCode hClosed hFresh))
    · exact hOther id (.inl hStanding)
  | resume i outcome now failedAt =>
    cases outcome with
    | returned snapshot =>
      exact hOther (fun ⟨forgetWifiProfiles, hCall⟩ => hKeeps.1 forgetWifiProfiles hCall)
        (.inl hKeeps.2)
    | provisioningError | raised => exact hOther id (.inl hKeeps)
  | _ => exact hOther id (.inl hKeeps)

def timedStep (platform : Platform) (settings : BootstrapSettings) (h : Host)
    (event : Action × String) : Host :=
  h.step platform settings event.1

end Host

/-- A Host whose daemon has started, with a usable factory code to read. -/
structure InitializedHost (platform : Platform) (settings : BootstrapSettings) where
  created : String
  earlier : List Action
  now : String
  draw : WindowDraw
  code : String
  usable : readFactorySetupCode draw.factoryText = some code
  returned :
    ((Host.after platform settings created earlier).store.restart platform settings now draw).1 =
      .ok ()

namespace InitializedHost

variable {platform : Platform} {settings : BootstrapSettings}

def host (start : InitializedHost platform settings) : Host :=
  (Host.after platform settings start.created start.earlier).step platform settings
    (.restart start.now start.draw)

theorem keyed (start : InitializedHost platform settings) : start.host.store.Keyed :=
  Host.keyed_step _ (run_invariant (P := fun h : Host => h.store.Keyed)
    (fun _ => Host.keyed_step) (Store.keyed_create start.created) start.earlier)

theorem held (start : InitializedHost platform settings)
    (hPolicy : settings.claimWindow = .alwaysOpen) : start.host.store.Held := by
  have hReturned := start.returned
  simp only [host, Host.step]
  simp only [Store.restart, Store.openFactoryWindow, start.usable, hPolicy, ne_eq,
    not_true_eq_false, false_and, if_false] at hReturned ⊢
  split
  · rename_i hOpen
    simp only [Store.windowOpen, Store.latestCommissioningSession, Option.any_map] at hOpen
    obtain ⟨row, hRow, hRowOpen⟩ := (Option.any_eq_true _ _).mp hOpen
    exact .inr ⟨row, List.argmax_mem hRow, CommissioningSessionMetadata.unspent_of_isOpen hRowOpen⟩
  · rename_i hClosed
    rw [if_neg hClosed] at hReturned
    simp only [Store.issueSetupCode, Store.issueCommissioningSession] at hReturned ⊢
    split at hReturned
    · cases hReturned
    · rename_i hFresh
      rw [if_neg hFresh]
      exact .inr ⟨_, List.mem_append_right _ List.mem_cons_self, rfl⟩

end InitializedHost

def alwaysOpen (mode : BootstrapMode) : BootstrapSettings := { mode, claimWindow := .alwaysOpen }

/-- From an initialized Host with a usable factory code that keeps its window open, in
every run whose operations meet the condition, each completed operation leaves a
Controller or an open window. -/
theorem host_never_locked_out (platform : Platform) (mode : BootstrapMode)
    (start : InitializedHost platform (alwaysOpen mode)) (events : List (Action × String))
    (hMeets : Meets (Host.timedStep platform (alwaysOpen mode)) (Host.KeepsWayIn (alwaysOpen mode))
      start.host events) :
    ∀ before a done rest, events = before ++ (a, done) :: rest →
      (run (Host.timedStep platform (alwaysOpen mode)) start.host
        (before ++ [(a, done)])).store.WayIn done := by
  intro before a done rest hSplit
  rw [hSplit, meets_append] at hMeets
  obtain ⟨hBefore, hKeeps, _⟩ := hMeets
  obtain ⟨hKeyed, hHeld⟩ := Meets.run_invariant
    (P := fun h : Host => h.store.Keyed ∧ h.store.Held)
    (fun h event hEvent hInv =>
      ⟨Host.keyed_step event.1 hInv.1, (Host.step_wayIn platform hInv.1 hInv.2 hEvent).1⟩)
    ⟨start.keyed, start.held rfl⟩ hBefore
  rw [run_append]
  have hStep := Host.step_wayIn platform hKeyed hHeld hKeeps
  exact Store.wayIn_of_held hStep.1 hStep.2

namespace StandingWindow

open RollbackAfterConfirm (platform)

def unboxed (mode : BootstrapMode) : InitializedHost platform (alwaysOpen mode) where
  created := "2026-08-05T00:00:00Z"
  earlier := []
  now := "2026-08-05T00:00:00Z"
  draw := ⟨some "13572468", "2026-08-05T00:00:00Z", "s1", "2026-08-05T00:00:00Z"⟩
  code := "13572468"
  usable := by decide +kernel
  returned := by cases mode <;> rfl

def recovery : Action × String :=
  (.openControllerRecoveryWindow none "24681357" "s2" "2026-08-05T00:01:00Z"
    "2026-08-05T00:16:00Z", "2026-08-05T00:01:01Z")

theorem host_never_locked_out_recovery :
    Meets (Host.timedStep platform (alwaysOpen .production))
      (Host.KeepsWayIn (alwaysOpen .production)) (unboxed .production).host [recovery] ∧
    (run (Host.timedStep platform (alwaysOpen .production)) (unboxed .production).host
      [recovery]).store.WayIn "2026-08-05T00:01:01Z" := by
  have hMeets : Meets (Host.timedStep platform (alwaysOpen .production))
      (Host.KeepsWayIn (alwaysOpen .production)) (unboxed .production).host [recovery] := by
    refine ⟨.inl ⟨?_, ?_, ?_, ?_⟩, trivial⟩
    · decide
    · decide
    · decide +kernel
    · decide +kernel
  exact ⟨hMeets, host_never_locked_out platform .production (unboxed .production) [recovery] hMeets
    [] recovery.1 recovery.2 [] rfl⟩

def reset : List (Action × String) :=
  [(.resetDevelopmentState false, "2026-08-05T00:01:00Z"),
   (.resume 0 (.returned ⟨.connected, none, some "Home", none⟩) "2026-08-05T00:01:01Z"
      "2026-08-05T00:01:01Z", "2026-08-05T00:01:01Z")]

/-- A refused Setup code after the recovery window has come to its end. -/
def lapsed : List (Action × String) :=
  [recovery, (.authorize (.str "s2") (.str "24681357") "2026-08-05T00:20:00Z",
    "2026-08-05T00:20:00Z")]

/-- The development reset leaves neither a Controller nor a window, and nothing puts
the standing window back where a recovery window comes to its end. -/
theorem locked_out_after_reset_and_after_recovery :
    ¬ (run (Host.timedStep platform (alwaysOpen .development)) (unboxed .development).host
      reset).store.WayIn "2026-08-05T00:01:01Z" ∧
    ¬ (run (Host.timedStep platform (alwaysOpen .production)) (unboxed .production).host
      lapsed).store.WayIn "2026-08-05T00:20:00Z" := by
  constructor
  · decide +kernel
  · decide +kernel

end StandingWindow

end EidolonAdmin.Bootstrap
