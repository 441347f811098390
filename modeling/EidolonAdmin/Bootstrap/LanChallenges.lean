import Mathlib.Data.List.Induction
import EidolonAdmin.Bootstrap.EpochFencing

/-! # A LAN challenge is used once

Challenges are issued, purged, evicted and taken out of the table on paths of
their own, while grants come and go underneath. What ties them together is where
an entry of the table can come from: an earlier issue of the same challenge that
no attempt to authenticate has named since.
-/

namespace EidolonAdmin.Bootstrap

open Foundation Foundation.Table Foundation.Transition

def Action.attempts : Action → Option String
  | .authenticateController payload _ =>
    match payload.get "challenge" with
    | .str challenge => some challenge
    | _ => none
  | _ => none

theorem mem_of_mem_dropOldest {challenges : Challenges} {item : String × Challenge}
    (h : item ∈ dropOldest challenges) : item ∈ challenges := by
  unfold dropOldest at h
  split at h
  · exact h
  · exact (List.mem_filter.mp h).1

theorem length_dropOldest {challenges : Challenges} (h : challenges ≠ []) :
    (dropOldest challenges).length < challenges.length := by
  unfold dropOldest
  split
  · rename_i hNone
    exact absurd (List.argmin_eq_none.mp hNone) h
  · rename_i oldest hOldest
    apply List.length_filter_lt_length_iff_exists.mpr
    exact ⟨oldest, List.argmin_mem hOldest, by simp⟩

theorem length_set_le (challenges : Challenges) (challenge : String) (record : Challenge) :
    (Dict.set challenges challenge record).length ≤ challenges.length + 1 := by
  unfold Dict.set
  split
  · simp [updateWhere]
  · simp

section Issue

variable {controllerId : Json} {challenge : String} {now : Rat} {s : Store} {challenges : Challenges}

theorem mem_issueControllerChallenge {item : String × Challenge}
    (h : item ∈ (issueControllerChallenge controllerId challenge now s challenges).2) :
    item ∈ challenges ∨
      (item.1 = challenge ∧ item.2.expiresAt = now + 60 ∧
        (issueControllerChallenge controllerId challenge now s challenges).1 = .ok item.2) := by
  unfold issueControllerChallenge at h ⊢
  split at h
  · exact .inl h
  · rename_i grant hActive
    rcases Dict.mem_set.mp h with rfl | ⟨hRoom, _⟩
    · exact .inr ⟨rfl, rfl, rfl⟩
    · have hLive : item ∈ purgeChallenges now challenges := by
        split at hRoom
        · exact mem_of_mem_dropOldest hRoom
        · exact hRoom
      exact .inl (List.mem_filter.mp hLive).1

theorem length_issueControllerChallenge (h : challenges.length ≤ challengeLimit) :
    (issueControllerChallenge controllerId challenge now s challenges).2.length ≤
      challengeLimit := by
  unfold issueControllerChallenge
  split
  · exact h
  · refine (length_set_le _ _ _).trans ?_
    have hLive : (purgeChallenges now challenges).length ≤ challengeLimit :=
      (List.length_filter_le _ _).trans h
    split
    · rename_i hFull
      have hSome : purgeChallenges now challenges ≠ [] := by
        intro hNone
        rw [hNone] at hFull
        exact absurd hFull (by decide)
      have hDropped := length_dropOldest hSome
      omega
    · rename_i hRoom
      omega

end Issue

section Authenticate

variable {platform : Platform} {payload : Json} {now : Rat} {s : Store} {challenges : Challenges}

/-- Whatever an attempt finds, the challenge it names is gone afterwards and nothing
is added. -/
theorem authenticateController_challenges :
    (∃ challenge, payload.get "challenge" = .str challenge ∧
      (authenticateController platform payload now s challenges).2 =
        (purgeChallenges now challenges).filter fun item => item.1 ≠ challenge) ∨
    ((Action.authenticateController payload now).attempts = none ∧
      (authenticateController platform payload now s challenges).2 = challenges) := by
  simp only [authenticateController, Action.attempts]
  cases payload.get "challenge" with
  | str challenge =>
    refine .inl ⟨challenge, rfl, ?_⟩
    simp only
    split
    · rfl
    · split
      · rfl
      · split
        · split
          · rfl
          · split
            · rfl
            · rfl
        · rfl
  | null | bool | int | float | arr | obj => exact .inr ⟨rfl, rfl⟩

theorem authenticateController_record {principal : ControllerPrincipal}
    (h : (authenticateController platform payload now s challenges).1 = .ok principal) :
    ∃ challenge record, payload.get "challenge" = .str challenge ∧
      (challenge, record) ∈ challenges ∧ now < record.expiresAt ∧
      record.controllerId = principal.controllerId := by
  unfold authenticateController at h
  split at h
  · rename_i challenge hChallenge
    simp only at h
    split at h
    · cases h
    · rename_i record hRecord
      have hLive := Dict.get_mem hRecord
      split at h
      · cases h
      · rename_i hTime
        split at h
        · split at h
          · cases h
          · rename_i grant hHeld
            split at h
            · cases h
              exact ⟨challenge, record, hChallenge, (List.mem_filter.mp hLive).1,
                not_le.mp hTime, (Store.heldBy_named hHeld).symm⟩
            · cases h
        · cases h
  · cases h

end Authenticate

namespace Host

variable {platform : Platform} {settings : BootstrapSettings}

def authenticates (platform : Platform) (h : Host) :
    Action → Option (String × ControllerPrincipal × Rat)
  | .authenticateController payload now =>
    (Action.authenticateController payload now).attempts.bind fun challenge =>
      (authenticateController platform payload now h.store h.challenges).1.toOption.map
        fun principal => (challenge, principal, now)
  | _ => none

def Issues (h : Host) (a : Action) (challenge : String) (record : Challenge) : Prop :=
  ∃ asked issuedAt, a = .issueControllerChallenge asked challenge issuedAt ∧
    record.expiresAt = issuedAt + 60 ∧
    (issueControllerChallenge asked challenge issuedAt h.store h.challenges).1 = .ok record

theorem pursue_challenges (h : Host) (progress : Progress × Store) :
    (h.pursue progress).challenges = h.challenges := by
  obtain ⟨progress, t⟩ := progress
  cases progress with
  | ended => rfl
  | suspended => rfl

theorem mem_challenges_step {h : Host} {a : Action} {item : String × Challenge}
    (hItem : item ∈ (h.step platform settings a).challenges) :
    (item ∈ h.challenges ∧ a.attempts ≠ some item.1) ∨ h.Issues a item.1 item.2 := by
  have hNamesNone : none ≠ some item.1 := (Option.some_ne_none item.1).symm
  cases a with
  | issueControllerChallenge controllerId challenge now =>
    rcases mem_issueControllerChallenge hItem with hOld | ⟨rfl, hTime, hOk⟩
    · exact .inl ⟨hOld, hNamesNone⟩
    · exact .inr ⟨controllerId, now, rfl, hTime, hOk⟩
  | authenticateController payload now =>
    refine .inl ?_
    simp only [step] at hItem
    rcases authenticateController_challenges with ⟨challenge, hNamed, hRest⟩ | ⟨hNone, hSame⟩
    · rw [hRest] at hItem
      obtain ⟨hLive, hOther⟩ := List.mem_filter.mp hItem
      refine ⟨(List.mem_filter.mp hLive).1, fun hAttempt => ?_⟩
      simp only [Action.attempts, hNamed, Option.some.injEq] at hAttempt
      simp only [decide_eq_true_eq] at hOther
      exact hOther hAttempt.symm
    · rw [hSame] at hItem
      rw [hNone]
      exact ⟨hItem, hNamesNone⟩
  | resetDevelopmentState | configureNetwork | confirmNetwork | rollbackNetwork =>
    simp only [step, pursue_challenges] at hItem
    exact .inl ⟨hItem, hNamesNone⟩
  | resume i outcome now failedAt =>
    simp only [step] at hItem
    split at hItem
    · exact .inl ⟨hItem, hNamesNone⟩
    · rw [pursue_challenges] at hItem
      exact .inl ⟨hItem, hNamesNone⟩
  | restart => cases hItem
  | issueSetupCode | openControllerRecoveryWindow | revokeController | authorize
  | requireAuthorized | claimController | reconcileNetworkState => exact .inl ⟨hItem, hNamesNone⟩

theorem length_challenges_step {h : Host} (a : Action)
    (hLength : h.challenges.length ≤ challengeLimit) :
    (h.step platform settings a).challenges.length ≤ challengeLimit := by
  cases a with
  | issueControllerChallenge => exact length_issueControllerChallenge hLength
  | authenticateController payload now =>
    simp only [step]
    rcases authenticateController_challenges with ⟨challenge, _, hRest⟩ | ⟨_, hSame⟩
    · rw [hRest]
      exact (List.length_filter_le _ _).trans ((List.length_filter_le _ _).trans hLength)
    · rw [hSame]
      exact hLength
  | resetDevelopmentState | configureNetwork | confirmNetwork | rollbackNetwork =>
    simp only [step, pursue_challenges]
    exact hLength
  | resume i outcome now failedAt =>
    simp only [step]
    split
    · exact hLength
    · rw [pursue_challenges]
      exact hLength
  | restart => exact Nat.zero_le _
  | issueSetupCode | openControllerRecoveryWindow | revokeController | authorize
  | requireAuthorized | claimController | reconcileNetworkState => exact hLength

/-- The challenge was issued in this run, with this record, and no attempt has named
it since. -/
def Outstanding (platform : Platform) (settings : BootstrapSettings) (created : String)
    (actions : List Action) (challenge : String) (record : Challenge) : Prop :=
  ∃ earlier issue since, actions = earlier ++ issue :: since ∧
    (after platform settings created earlier).Issues issue challenge record ∧
    ∀ a ∈ since, a.attempts ≠ some challenge

theorem outstanding_of_mem {created : String} {actions : List Action} {item : String × Challenge}
    (hItem : item ∈ (after platform settings created actions).challenges) :
    Outstanding platform settings created actions item.1 item.2 := by
  induction actions using List.reverseRecOn with
  | nil => cases hItem
  | append_singleton actions a ih =>
    rw [after, run_append] at hItem
    rcases mem_challenges_step hItem with ⟨hOld, hAttempts⟩ | hIssues
    · obtain ⟨earlier, issue, since, rfl, hIssue, hSince⟩ := ih hOld
      refine ⟨earlier, issue, since ++ [a], by simp, hIssue, fun b hB => ?_⟩
      rcases List.mem_append.mp hB with hBefore | hLast
      · exact hSince b hBefore
      · rw [List.mem_singleton.mp hLast]
        exact hAttempts
    · exact ⟨actions, a, [], rfl, hIssues, fun b hB => absurd hB List.not_mem_nil⟩

structure ChallengesOneTime (platform : Platform) (settings : BootstrapSettings)
    (created : String) : Prop where
  bound : ∀ actions a challenge principal now,
    (after platform settings created actions).authenticates platform a =
        some (challenge, principal, now) →
      (∃ record, Outstanding platform settings created actions challenge record ∧
        record.controllerId = principal.controllerId ∧ now < record.expiresAt) ∧
      ((after platform settings created actions).store.HoldsHost principal.controllerId)
  once : ∀ actions first between second challenge principal principal' now now',
    (after platform settings created actions).authenticates platform first =
        some (challenge, principal, now) →
    (after platform settings created (actions ++ first :: between)).authenticates platform second =
        some (challenge, principal', now') →
      ∃ earlier issue later record, between = earlier ++ issue :: later ∧
        (after platform settings created (actions ++ first :: earlier)).Issues issue challenge record
  bounded : ∀ actions, (after platform settings created actions).challenges.length ≤ 256

theorem authenticates_cases {h : Host} {a : Action} {challenge : String}
    {principal : ControllerPrincipal} {now : Rat}
    (hAuth : h.authenticates platform a = some (challenge, principal, now)) :
    a.attempts = some challenge ∧ (∃ record, (challenge, record) ∈ h.challenges ∧
      record.controllerId = principal.controllerId ∧ now < record.expiresAt) ∧
      h.store.HoldsHost principal.controllerId := by
  cases a with
  | authenticateController payload time =>
    obtain ⟨named, hNamed, hResult⟩ := Option.bind_eq_some_iff.mp hAuth
    obtain ⟨given, hGiven, hSame⟩ := Option.map_eq_some_iff.mp hResult
    cases hSame
    have hOk := Check.toOption_eq_some hGiven
    obtain ⟨found, record, hFound, hMem, hTime, hController⟩ := authenticateController_record hOk
    have hText : found = challenge := by
      simp only [Action.attempts, hFound] at hNamed
      exact Option.some.inj hNamed
    rw [hText] at hMem
    exact ⟨hNamed, ⟨record, hMem, hController, hTime⟩, authenticateController_ok hOk⟩
  | issueSetupCode | openControllerRecoveryWindow | resetDevelopmentState | revokeController
  | issueControllerChallenge | authorize | requireAuthorized | claimController | configureNetwork
  | confirmNetwork | rollbackNetwork | resume | reconcileNetworkState | restart => cases hAuth

end Host

/-- Over any interleaving of actions, a LAN authentication that succeeds answers a
challenge issued earlier in the run to the same Controller, less than 60 seconds
before on the monotonic clock and not named by any attempt since, while that
Controller has an active grant of the current epoch; between two that use the same
text it was issued anew; and the table holds at most 256 challenges. -/
theorem lan_challenges_one_time (platform : Platform) (settings : BootstrapSettings)
    (created : String) : Host.ChallengesOneTime platform settings created where
  bound actions a challenge principal now hAuth := by
    obtain ⟨_, ⟨record, hMem, hController, hTime⟩, hHolds⟩ := Host.authenticates_cases hAuth
    exact ⟨⟨record, Host.outstanding_of_mem hMem, hController, hTime⟩, hHolds⟩
  once actions first between second challenge principal principal' now now' hFirst hSecond := by
    obtain ⟨hNamed, _, _⟩ := Host.authenticates_cases hFirst
    obtain ⟨_, ⟨record, hMem, _, _⟩, _⟩ := Host.authenticates_cases hSecond
    obtain ⟨earlier, issue, since, hSplit, hIssue, hSince⟩ := Host.outstanding_of_mem hMem
    have hNotFirst : issue ≠ first := by
      rintro rfl
      obtain ⟨asked, issuedAt, rfl, _⟩ := hIssue
      cases hNamed
    rcases List.append_eq_append_iff.mp hSplit with ⟨rest, hEarlier, hRest⟩ | ⟨rest, _, hRest⟩
    · cases rest with
      | nil => exact absurd (List.cons.inj hRest).1.symm hNotFirst
      | cons head rest =>
        obtain ⟨rfl, hBetween⟩ := List.cons.inj hRest
        rw [hEarlier] at hIssue
        exact ⟨rest, issue, since, record, hBetween, hIssue⟩
    · cases rest with
      | nil => exact absurd (List.cons.inj hRest).1 hNotFirst
      | cons head rest =>
        obtain ⟨rfl, hTail⟩ := List.cons.inj hRest
        have hMemSince : first ∈ since := by
          rw [hTail]
          exact List.mem_append_right _ List.mem_cons_self
        exact absurd hNamed (hSince first hMemSince)
  bounded actions :=
    run_invariant (P := fun h : Host => h.challenges.length ≤ challengeLimit)
      (fun _ a hLength => Host.length_challenges_step a hLength) (Nat.zero_le _) actions

end EidolonAdmin.Bootstrap
