import Mathlib.Logic.Function.Basic
import EidolonAdmin.Removal.Mounts

/-! # Two runs of one removal at once

Two runs of `remove_controller_device` with the same payload and context, cut at
their awaits. A schedule says which of the two goes on next; Hub takes up a command
at a step of its own, so the two answers come and return in any order.
-/

namespace EidolonAdmin.Removal

open Foundation.Transition

/-- A Hub that records the first use of a command and replays it afterwards. -/
structure ReplayingHub where
  committed : HubClaimRevocationResult
  replayed : HubClaimRevocationResult
  committed_outcome : committed.outcome = .committed
  replayed_outcome : replayed.outcome = .replayed

def ReplayingHub.answer (hub : ReplayingHub) (used : Bool) : HubClaimRevocationResult :=
  if used then hub.replayed else hub.committed

theorem ReplayingHub.committed_ne_replayed (hub : ReplayingHub) : hub.committed ≠ hub.replayed := by
  intro hSame
  have hOutcome := congrArg HubClaimRevocationResult.outcome hSame
  rw [hub.committed_outcome, hub.replayed_outcome] at hOutcome
  cases hOutcome

/-- Where a run stands: not begun, its command under way to Hub, the answer under way
back, observing the mount, ended. -/
inductive RunPhase where
  | idle
  | asking (intent : RemovalIntent) (authorization : String)
  | answered (intent : RemovalIntent) (authorization : String) (result : HubClaimRevocationResult)
  | observing (intent : RemovalIntent) (authorization : String) (result : HubClaimRevocationResult)
  | returned (outcome : Except Raised DeviceRemovalResult)

/-- An intent that has its Hub result is not sent again. -/
def RunPhase.opened (intent : RemovalIntent) (authorization : String) : RunPhase :=
  match intent.hubResult with
  | some result => .observing intent authorization result
  | none => .asking intent authorization

theorem RunPhase.opened_some {intent : RemovalIntent} {authorization : String}
    {result : HubClaimRevocationResult} (h : intent.hubResult = some result) :
    opened intent authorization = .observing intent authorization result := by
  simp only [opened, h]

theorem RunPhase.opened_none {intent : RemovalIntent} {authorization : String}
    (h : intent.hubResult = none) :
    opened intent authorization = .asking intent authorization := by
  simp only [opened, h]

structure Pair where
  ledger : Ledger
  used : Bool
  phase : Bool → RunPhase

section Machine

variable (encoding : Encoding) (ports : HubPorts) (hub : ReplayingHub)
  (payload : ControllerDeviceRemovalRequest) (workloadPrincipalId : String)
  (context : RemovalOwnerAuthorizationContext) (around : Bool → Surroundings)

/-- The slice up to the first await. -/
def beginRun (startedAt : Int) (ledger : Ledger) : RunPhase × Ledger :=
  match ports.hubCredentials with
  | none =>
    (.returned (.error (.authority
      { authority := .hub, kind := .configuration, statusCode := 503
        detail := "Hub Owner credential issuer is unavailable" })), ledger)
  | some issueRemovalIntent =>
    match openIntent encoding payload workloadPrincipalId context startedAt ledger with
    | (.error raised, next) => (.returned (.error raised), next)
    | (.ok intent, next) =>
      match issueRemovalIntent (credentialCall payload intent) with
      | .error raised => (.returned (.error raised), next)
      | .ok authorization => (.opened intent authorization, next)

def commitAnswer (intent : RemovalIntent) (authorization : String)
    (result : HubClaimRevocationResult) (now : Int) (ledger : Ledger) : RunPhase × Ledger :=
  match ledger.markHubCommitted intent.intentId result now with
  | (.error error, next) => (.returned (.error error.raised), next)
  | (.ok committed, next) => (.observing committed authorization result, next)

def Pair.put (pair : Pair) (who : Bool) (phase : RunPhase) (ledger : Ledger) (used : Bool) : Pair :=
  { ledger, used, phase := Function.update pair.phase who phase }

def Pair.step (pair : Pair) (who : Bool) : Pair :=
  match pair.phase who with
  | .idle =>
    let slice := beginRun encoding ports payload workloadPrincipalId context (around who).startedAt
      pair.ledger
    pair.put who slice.1 slice.2 pair.used
  | .asking intent authorization =>
    pair.put who (.answered intent authorization (hub.answer pair.used)) pair.ledger true
  | .answered intent authorization result =>
    let slice := commitAnswer intent authorization result (around who).committedAt pair.ledger
    pair.put who slice.1 slice.2 pair.used
  | .observing intent authorization result =>
    match observeRemoval ports payload intent result authorization (around who) with
    | none => pair
    | some outcome => pair.put who (.returned outcome) pair.ledger pair.used
  | .returned _ => pair

end Machine

def Pair.start (ledger : Ledger) (used : Bool) : Pair := ⟨ledger, used, fun _ => .idle⟩

def storedResult (payload : ControllerDeviceRemovalRequest)
    (context : RemovalOwnerAuthorizationContext) (ledger : Ledger) :
    Option HubClaimRevocationResult :=
  (ledger.findRequest context.targetDeviceRef.ownerDomainId payload.requestId).bind fun row =>
    row.hubResult

section Stored

variable (encoding : Encoding) (payload : ControllerDeviceRemovalRequest)
  (workloadPrincipalId : String) (context : RemovalOwnerAuthorizationContext)

structure IsOf (intent : RemovalIntent) : Prop where
  content : intent.toIntentContent = intentContent encoding payload workloadPrincipalId context
  identity : intent.intentId = context.intentId

structure Holds (stored : Option HubClaimRevocationResult) (ledger : Ledger) : Prop where
  sound : ledger.Sound encoding.toDigests
  row : ∃ row, ledger.findRequest context.targetDeviceRef.ownerDomainId payload.requestId = some row ∧
    IsOf encoding payload workloadPrincipalId context row ∧ row.hubResult = stored

variable {encoding payload workloadPrincipalId context} {ledger next : Ledger}
  {stored : Option HubClaimRevocationResult} {result : HubClaimRevocationResult} {now : Int}

theorem Holds.storedResult_eq (h : Holds encoding payload workloadPrincipalId context stored ledger) :
    storedResult payload context ledger = stored := by
  obtain ⟨row, hFound, _, hStored⟩ := h.row
  rw [storedResult, hFound]
  exact hStored

theorem Holds.findIntent_eq (h : Holds encoding payload workloadPrincipalId context stored ledger) :
    ∃ row, ledger.findIntent context.intentId = some row ∧
      IsOf encoding payload workloadPrincipalId context row ∧ row.hubResult = stored := by
  obtain ⟨row, hFound, hOf, hStored⟩ := h.row
  exact ⟨row, (Foundation.Table.lookup_eq_some_iff h.sound.unique).mpr
    ⟨(Foundation.Table.lookup_mem hFound).1, hOf.identity⟩, hOf, hStored⟩

theorem Holds.openIntent_eq (h : Holds encoding payload workloadPrincipalId context stored ledger)
    (now : Int) :
    ∃ row, openIntent encoding payload workloadPrincipalId context now ledger = (.ok row, ledger) ∧
      IsOf encoding payload workloadPrincipalId context row ∧ row.hubResult = stored := by
  obtain ⟨row, hFound, hOf, hStored⟩ := h.row
  exact ⟨row, openIntent_stored hFound hOf.content hOf.identity, hOf, hStored⟩

theorem holds_of_openIntent {intent : RemovalIntent} (hSound : ledger.Sound encoding.toDigests)
    (h : openIntent encoding payload workloadPrincipalId context now ledger = (.ok intent, next)) :
    IsOf encoding payload workloadPrincipalId context intent ∧
      Holds encoding payload workloadPrincipalId context intent.hubResult next := by
  obtain ⟨hCreated, hIdentity⟩ := openIntent_ok_iff.mp h
  obtain ⟨hFound, hContent, _⟩ := Ledger.getOrCreate_ok hCreated
  have hNext := Ledger.sound_getOrCreate hSound
    (intentContent encoding payload workloadPrincipalId context) now
  rw [hCreated] at hNext
  exact ⟨⟨hContent, hIdentity⟩, hNext, intent, hFound, ⟨hContent, hIdentity⟩, rfl⟩

theorem Holds.markHubCommitted_eq
    (h : Holds encoding payload workloadPrincipalId context stored ledger)
    (hStored : stored = none ∨ stored = some result) (now : Int) :
    ∃ row next, ledger.markHubCommitted context.intentId result now = (.ok row, next) ∧
      IsOf encoding payload workloadPrincipalId context row ∧
      Holds encoding payload workloadPrincipalId context (some result) next := by
  obtain ⟨row, hIntent, hOf, hRow⟩ := h.findIntent_eq
  obtain ⟨found, hFound, hFoundOf, _⟩ := h.row
  have hSame : ¬ (row.hubResult.isSome ∧ row.hubResult ≠ some result) := by
    rw [hRow]
    rcases hStored with rfl | rfl <;> simp
  have hMarked : ledger.markHubCommitted context.intentId result now =
      (.ok (Ledger.committed result now row), Foundation.Table.updateWhere
        (fun row => row.intentId = context.intentId) (Ledger.committed result now) ledger) := by
    unfold Ledger.markHubCommitted
    rw [hIntent]
    exact if_neg hSame
  have hSound := Ledger.sound_apply ledger (.markHubCommitted context.intentId result now) h.sound
  rw [Ledger.apply, hMarked] at hSound
  refine ⟨_, _, hMarked, ⟨hOf.content, hOf.identity⟩, hSound, Ledger.committed result now found, ?_,
    ⟨hFoundOf.content, hFoundOf.identity⟩, rfl⟩
  rw [Ledger.findRequest, Foundation.Table.lookup_updateWhere, ← Ledger.findRequest, hFound,
    Option.map_some, if_pos (by simpa using hFoundOf.identity)]
  exact fun _ => rfl

theorem Holds.results_eq (h : Holds encoding payload workloadPrincipalId context (some result) ledger) :
    ledger.filterMap (fun row => if row.intentId = context.intentId then row.hubResult else none) =
      [result] := by
  obtain ⟨row, hFound, hOf, hRow⟩ := h.row
  have hOnly : ledger.filterMap (fun other =>
      if other.intentId = row.intentId then other.hubResult else none) = row.hubResult.toList :=
    Foundation.Table.filterMap_key h.sound.unique (Foundation.Table.lookup_mem hFound).1
  rw [hOf.identity, hRow] at hOnly
  exact hOnly

end Stored

def RunPhase.rank : RunPhase → Nat
  | idle => 4
  | asking _ _ => 3
  | answered _ _ _ => 2
  | observing _ _ _ => 1
  | returned _ => 0

theorem returned_of_rank {phase : RunPhase} (h : phase.rank ≤ 0) :
    ∃ outcome, phase = .returned outcome := by
  cases phase with
  | returned outcome => exact ⟨outcome, rfl⟩
  | _ => simp [RunPhase.rank] at h

def RunPhase.Pending : RunPhase → Prop
  | asking _ _ => True
  | answered _ _ _ => True
  | _ => False

def RunPhase.Settled : RunPhase → Prop
  | observing _ _ _ => True
  | returned _ => True
  | _ => False

section Phases

variable {ledger : Ledger} {used : Bool} {phase : RunPhase}

@[simp] theorem Pair.put_phase_self (pair : Pair) (who : Bool) :
    (pair.put who phase ledger used).phase who = phase := Function.update_self ..

@[simp] theorem Pair.put_phase_other (pair : Pair) (who : Bool) :
    (pair.put who phase ledger used).phase (!who) = pair.phase (!who) :=
  Function.update_of_ne (Bool.not_ne_self who) ..

@[simp] theorem Pair.put_ledger (pair : Pair) (who : Bool) :
    (pair.put who phase ledger used).ledger = ledger := rfl

@[simp] theorem Pair.put_used (pair : Pair) (who : Bool) :
    (pair.put who phase ledger used).used = used := rfl

theorem forall_runs {P : Bool → Prop} (who : Bool) : (∀ other, P other) ↔ P who ∧ P (!who) := by
  constructor
  · exact fun h => ⟨h who, h (!who)⟩
  · rintro ⟨hWho, hOther⟩ other
    by_cases hSame : other = who
    · rw [hSame]
      exact hWho
    · rw [Bool.eq_not_of_ne hSame]
      exact hOther

variable {encoding : Encoding} {ports : HubPorts} {hub : ReplayingHub}
  {payload : ControllerDeviceRemovalRequest} {workloadPrincipalId : String}
  {context : RemovalOwnerAuthorizationContext} {around : Bool → Surroundings}
  {pair : Pair} {who : Bool}

theorem Pair.step_idle (h : pair.phase who = .idle) :
    pair.step encoding ports hub payload workloadPrincipalId context around who =
      pair.put who
        (beginRun encoding ports payload workloadPrincipalId context (around who).startedAt
          pair.ledger).1
        (beginRun encoding ports payload workloadPrincipalId context (around who).startedAt
          pair.ledger).2 pair.used := by
  simp only [Pair.step, h]

theorem Pair.step_asking {intent : RemovalIntent} {authorization : String}
    (h : pair.phase who = .asking intent authorization) :
    pair.step encoding ports hub payload workloadPrincipalId context around who =
      pair.put who (.answered intent authorization (hub.answer pair.used)) pair.ledger true := by
  simp only [Pair.step, h]

theorem Pair.step_answered {intent : RemovalIntent} {authorization : String}
    {result : HubClaimRevocationResult} (h : pair.phase who = .answered intent authorization result) :
    pair.step encoding ports hub payload workloadPrincipalId context around who =
      pair.put who
        (commitAnswer intent authorization result (around who).committedAt pair.ledger).1
        (commitAnswer intent authorization result (around who).committedAt pair.ledger).2
        pair.used := by
  simp only [Pair.step, h]

theorem Pair.step_observing {intent : RemovalIntent} {authorization : String}
    {result : HubClaimRevocationResult} {outcome : Except Raised DeviceRemovalResult}
    (h : pair.phase who = .observing intent authorization result)
    (hObserved : observeRemoval ports payload intent result authorization (around who) = some outcome) :
    pair.step encoding ports hub payload workloadPrincipalId context around who =
      pair.put who (.returned outcome) pair.ledger pair.used := by
  simp only [Pair.step, h, hObserved]

theorem Pair.step_returned {outcome : Except Raised DeviceRemovalResult}
    (h : pair.phase who = .returned outcome) :
    pair.step encoding ports hub payload workloadPrincipalId context around who = pair := by
  simp only [Pair.step, h]

theorem Pair.step_phase_other :
    (pair.step encoding ports hub payload workloadPrincipalId context around who).phase (!who) =
      pair.phase (!who) := by
  cases h : pair.phase who with
  | idle => rw [step_idle h]; exact put_phase_other ..
  | asking intent authorization => rw [step_asking h]; exact put_phase_other ..
  | answered intent authorization result => rw [step_answered h]; exact put_phase_other ..
  | observing intent authorization result =>
    cases hObserved : observeRemoval ports payload intent result authorization (around who) with
    | none => simp only [Pair.step, h, hObserved]
    | some outcome => rw [step_observing h hObserved]; exact put_phase_other ..
  | returned outcome => rw [step_returned h]

theorem run_returned {outcome : Except Raised DeviceRemovalResult} {n : Nat}
    (h : pair.phase who = .returned outcome) :
    run (Pair.step encoding ports hub payload workloadPrincipalId context around) pair
      (List.replicate n who) = pair := by
  induction n with
  | zero => rfl
  | succ n ih => rw [List.replicate_succ, run_cons, Pair.step_returned h, ih]

theorem run_observing {intent : RemovalIntent} {authorization : String}
    {result : HubClaimRevocationResult} {outcome : Except Raised DeviceRemovalResult} {n : Nat}
    (h : pair.phase who = .observing intent authorization result)
    (hObserved : observeRemoval ports payload intent result authorization (around who) = some outcome) :
    run (Pair.step encoding ports hub payload workloadPrincipalId context around) pair
      (List.replicate (n + 1) who) = pair.put who (.returned outcome) pair.ledger pair.used := by
  rw [List.replicate_succ, run_cons, Pair.step_observing h hObserved]
  exact run_returned (Pair.put_phase_self ..)

theorem alone_opened {intent : RemovalIntent} {authorization : String}
    {credentials : Option (CredentialCall → Except Raised String)}
    {outcome : Except Raised DeviceRemovalResult} {next : Ledger}
    (hPhase : pair.phase who = .opened intent authorization) (hAlone : (around who).meanwhile = [])
    (h : revokeAndObserve encoding
      { ports with hubCredentials := credentials, revoke := fun _ => .ok (hub.answer pair.used) }
      payload intent authorization (around who) pair.ledger = (some outcome, next)) :
    (run (Pair.step encoding ports hub payload workloadPrincipalId context around) pair
        (List.replicate 3 who)).phase who = .returned outcome ∧
      (run (Pair.step encoding ports hub payload workloadPrincipalId context around) pair
        (List.replicate 3 who)).ledger = next := by
  unfold revokeAndObserve at h
  cases hResult : intent.hubResult with
  | some result =>
    simp only [hResult, Prod.mk.injEq] at h
    have hObserved : observeRemoval ports payload intent result authorization (around who) =
      some outcome := h.1
    rw [RunPhase.opened_some hResult] at hPhase
    rw [run_observing hPhase hObserved]
    exact ⟨Pair.put_phase_self .., h.2⟩
  | none =>
    simp only [hResult, ledgerAtAnswer, hAlone, run_nil] at h
    rw [RunPhase.opened_none hResult] at hPhase
    rw [List.replicate_succ, run_cons, Pair.step_asking hPhase,
      List.replicate_succ, run_cons, Pair.step_answered (Pair.put_phase_self ..)]
    unfold commitAnswer
    simp only [Pair.put_ledger, Pair.put_used]
    rcases hMarked : Ledger.markHubCommitted intent.intentId (hub.answer pair.used)
      (around who).committedAt pair.ledger with ⟨marked, last⟩
    cases marked with
    | error error =>
      simp only [hMarked, Prod.mk.injEq, Option.some.injEq] at h ⊢
      obtain ⟨rfl, rfl⟩ := h
      rw [run_returned (Pair.put_phase_self ..)]
      exact ⟨Pair.put_phase_self .., rfl⟩
    | ok committed =>
      simp only [hMarked, Prod.mk.injEq] at h ⊢
      have hObserved : observeRemoval ports payload committed (hub.answer pair.used)
        authorization (around who) = some outcome := h.1
      rw [run_observing (Pair.put_phase_self ..) hObserved]
      exact ⟨Pair.put_phase_self .., h.2⟩

/-- A run alone is `remove_controller_device`. -/
theorem alone_eq_removeControllerDevice {outcome : Except Raised DeviceRemovalResult}
    {next : Ledger} (hIdle : pair.phase who = .idle) (hAlone : (around who).meanwhile = [])
    (h : removeControllerDevice encoding { ports with revoke := fun _ => .ok (hub.answer pair.used) }
      payload workloadPrincipalId context (around who) pair.ledger = (some outcome, next)) :
    (run (Pair.step encoding ports hub payload workloadPrincipalId context around) pair
        (List.replicate 4 who)).phase who = .returned outcome ∧
      (run (Pair.step encoding ports hub payload workloadPrincipalId context around) pair
        (List.replicate 4 who)).ledger = next := by
  have hStays : ∀ raised ledger, some (.error raised) = some outcome ∧ ledger = next →
      (run (Pair.step encoding ports hub payload workloadPrincipalId context around)
        (pair.put who (.returned (.error raised)) ledger pair.used) (List.replicate 3 who)).phase who =
          .returned outcome ∧
      (run (Pair.step encoding ports hub payload workloadPrincipalId context around)
        (pair.put who (.returned (.error raised)) ledger pair.used) (List.replicate 3 who)).ledger =
          next := by
    rintro raised ledger ⟨hOutcome, rfl⟩
    obtain rfl := Option.some.inj hOutcome
    rw [run_returned (Pair.put_phase_self ..)]
    exact ⟨Pair.put_phase_self .., rfl⟩
  rw [List.replicate_succ, run_cons, Pair.step_idle hIdle]
  unfold removeControllerDevice at h
  unfold beginRun
  cases hCredentials : ports.hubCredentials with
  | none =>
    simp only [hCredentials, Prod.mk.injEq] at h ⊢
    exact hStays _ _ h
  | some issue =>
    simp only [hCredentials] at h ⊢
    rcases hOpened : openIntent encoding payload workloadPrincipalId context (around who).startedAt
      pair.ledger with ⟨opening, opened⟩
    rw [hOpened] at h
    cases opening with
    | error raised => exact hStays _ _ (Prod.mk.inj h)
    | ok intent =>
      simp only at h ⊢
      cases hIssued : issue (credentialCall payload intent) with
      | error raised =>
        simp only [hIssued] at h ⊢
        exact hStays _ _ (Prod.mk.inj h)
      | ok authorization =>
        simp only [hIssued] at h ⊢
        exact alone_opened (Pair.put_phase_self ..) hAlone h

end Phases

def RefFits (result : HubClaimRevocationResult) : Prop :=
  (orElse result.eventId result.commandId).length ≤ 255

section Observation

variable {ports : HubPorts} {payload : ControllerDeviceRemovalRequest} {intent : RemovalIntent}
  {result : HubClaimRevocationResult} {authorization : String}

def EraseReadable (ports : HubPorts) : Prop :=
  ∀ call, (∃ failure, ports.getDeviceControlOperation call = .error (.authority failure)) ∨
    ∃ operation, ports.getDeviceControlOperation call = .ok operation ∧
      operation.operationId.length ≤ 255

theorem observeDeviceErase_readable (hErase : EraseReadable ports) (hFits : RefFits result) :
    ∃ state ref, observeDeviceErase ports intent result authorization = .ok (state, ref) ∧
      ref.all fun text => text.length ≤ 255 := by
  unfold observeDeviceErase
  cases hEvent : result.eventId with
  | none => exact ⟨_, _, rfl, rfl⟩
  | some eventId =>
    have hLength : eventId.length ≤ 255 := by
      unfold RefFits orElse at hFits
      simp only [hEvent] at hFits
      split at hFits
      · rename_i hEmpty
        simp [hEmpty]
      · exact hFits
    rcases hErase ⟨intent.deviceRef, eventId, authorization⟩ with
      ⟨failure, hFailure⟩ | ⟨operation, hOperation, hId⟩
    · simp only [hFailure]
      exact ⟨_, _, rfl, by simpa using hLength⟩
    · simp only [hOperation]
      split
      · exact ⟨_, _, rfl, by simpa using hId⟩
      · exact ⟨_, _, rfl, by simpa using hId⟩

theorem validated_revokedResult {mount erase : ConditionState} {ref : Option String}
    {observedAt : Int} (hFits : RefFits result) (hRef : ref.all fun text => text.length ≤ 255) :
    validated (revokedResult payload intent result mount erase ref observedAt) =
      .ok (revokedResult payload intent result mount erase ref observedAt) := by
  refine validated_eq_ok_iff.mpr ⟨rfl, ?_⟩
  unfold RefFits at hFits
  simp only [revokedResult, removalConditions, List.all_cons, List.all_nil, RemovalCondition.valid,
    Option.all_some, Option.all_none, Bool.and_true, Bool.true_and, Bool.and_eq_true,
    decide_eq_true_eq]
  exact ⟨hFits, hRef⟩

theorem observeRemoval_returns {around : Surroundings}
    {answer : Except AuthorityFailure (Option KernelMount)} (hErase : EraseReadable ports)
    (hFits : RefFits result) (hEnds : waitForMountRemoval payload.ownerId payload.deviceId
      around.deadline around.polls = some answer) :
    ∃ value, observeRemoval ports payload intent result authorization around = some (.ok value) ∧
      value.intentId = intent.intentId ∧ value.deviceRef = intent.deviceRef ∧
      value.hub = some result := by
  cases answer with
  | error failure =>
    refine ⟨revokedResult payload intent result .unknown .unknown none
      (around.observedAt .platformAccessRevoked), ?_, rfl, rfl, rfl⟩
    rw [observeRemoval_of_failure hEnds, validated_revokedResult hFits rfl]
  | ok mount =>
    obtain ⟨state, ref, hObserved, hRef⟩ := observeDeviceErase_readable hErase hFits
    refine ⟨revokedResult payload intent result (mountState mount) state ref
      (around.observedAt .platformAccessRevoked), ?_, rfl, rfl, rfl⟩
    rw [observeRemoval_of_mount hEnds, hObserved]
    exact congrArg some (validated_revokedResult hFits hRef)

end Observation

section Schedules

variable (encoding : Encoding) (ports : HubPorts) (hub : ReplayingHub)
  (payload : ControllerDeviceRemovalRequest) (workloadPrincipalId : String)
  (context : RemovalOwnerAuthorizationContext) (around : Bool → Surroundings)

def BothAnswer (pair : Pair) : Prop :=
  ∃ stored, pair.ledger.filterMap (fun row =>
      if row.intentId = context.intentId then row.hubResult else none) = [stored] ∧
    ∀ who, ∃ result, pair.phase who = .returned (.ok result) ∧
      result.intentId = context.intentId ∧ result.deviceRef = context.targetDeviceRef ∧
      result.hub = some stored

/-- A run that begins after the other finds the result of the command in the ledger;
it does not matter where Hub had the command before the two runs. -/
def InTurn (used : Bool) (pair : Pair) (who : Bool) : Prop :=
  pair.phase who = .idle →
    pair.phase (!who) = .idle ∨ (storedResult payload context pair.ledger).isSome ∨ used = true

/-- The surroundings answer: the ledger opens the intent, the issuer issues, the
Kernel's mount is read to an end and the references fit their conditions. -/
structure Served (ledger : Ledger) : Prop where
  sound : ledger.Sound encoding.toDigests
  opens : ∀ who, ∃ intent next, openIntent encoding payload workloadPrincipalId context
    (around who).startedAt ledger = (.ok intent, next)
  issues : ∃ issue, ports.hubCredentials = some issue ∧
    ∀ intent, IsOf encoding payload workloadPrincipalId context intent →
      ∃ authorization, issue (credentialCall payload intent) = .ok authorization
  ends : ∀ who, ∃ answer, waitForMountRemoval payload.ownerId payload.deviceId
    (around who).deadline (around who).polls = some answer
  erase : EraseReadable ports
  fits : RefFits hub.committed ∧ RefFits hub.replayed ∧
    ∀ result, storedResult payload context ledger = some result → RefFits result

def Stands (stored : Option HubClaimRevocationResult) : RunPhase → Prop
  | .idle => True
  | .asking intent _ => IsOf encoding payload workloadPrincipalId context intent
  | .answered intent _ result =>
    IsOf encoding payload workloadPrincipalId context intent ∧ RefFits result
  | .observing intent _ result =>
    IsOf encoding payload workloadPrincipalId context intent ∧ stored = some result
  | .returned outcome => ∃ result value, outcome = .ok value ∧ stored = some result ∧
    value.intentId = context.intentId ∧ value.deviceRef = context.targetDeviceRef ∧
    value.hub = some result

/-- Hub had the command before the two runs: it replays whatever they send. -/
structure Replays (stored : Option HubClaimRevocationResult) (pair : Pair) : Prop where
  used : pair.used = true
  pending : ∀ who, (pair.phase who).Pending → stored = none ∨ stored = some hub.replayed
  answers : ∀ who intent authorization result,
    pair.phase who = .answered intent authorization result → result = hub.replayed

/-- Hub sees the command first from one of the two runs, while the other has not begun. -/
structure FirstUse (stored : Option HubClaimRevocationResult) (pair : Pair) : Prop where
  fresh : stored = none → (∀ who, pair.phase who = .idle) → pair.used = false
  pending : ∀ who, (pair.phase who).Pending → stored = none ∧ pair.phase (!who) = .idle
  asks : ∀ who intent authorization, pair.phase who = .asking intent authorization →
    pair.used = false
  answers : ∀ who intent authorization result,
    pair.phase who = .answered intent authorization result → result = hub.committed ∧ pair.used = true

structure Good (used : Bool) (stored : Option HubClaimRevocationResult) (pair : Pair) : Prop where
  holds : Holds encoding payload workloadPrincipalId context stored pair.ledger
  fits : ∀ result, stored = some result → RefFits result
  stands : ∀ who, Stands encoding payload workloadPrincipalId context stored (pair.phase who)
  replays : used = true → Replays hub stored pair
  firstUse : used = false → FirstUse hub stored pair

def Compatible (ledger : Ledger) (used : Bool) (pair : Pair) : Prop :=
  pair = Pair.start ledger used ∨
    ∃ stored, Good encoding hub payload workloadPrincipalId context used stored pair

variable {encoding ports hub payload workloadPrincipalId context around}
  {ledger next : Ledger} {used who : Bool} {pair : Pair} {intent : RemovalIntent}
  {stored : Option HubClaimRevocationResult}

theorem beginRun_opened (hServed : Served encoding ports hub payload workloadPrincipalId context
      around ledger) {now : Int} {opened : Ledger}
    (hOpened : openIntent encoding payload workloadPrincipalId context now opened =
      (.ok intent, next)) (hOf : IsOf encoding payload workloadPrincipalId context intent) :
    ∃ authorization, beginRun encoding ports payload workloadPrincipalId context now opened =
      (.opened intent authorization, next) := by
  obtain ⟨issue, hIssue, hIssues⟩ := hServed.issues
  obtain ⟨authorization, hIssued⟩ := hIssues intent hOf
  refine ⟨authorization, ?_⟩
  unfold beginRun
  simp only [hIssue, hOpened, hIssued]

theorem step_begins (pair : Pair)
    (hServed : Served encoding ports hub payload workloadPrincipalId context around ledger)
    (hIdle : pair.phase who = .idle)
    (hOpened : openIntent encoding payload workloadPrincipalId context (around who).startedAt
      pair.ledger = (.ok intent, next))
    (hOf : IsOf encoding payload workloadPrincipalId context intent)
    (hNone : intent.hubResult = none) :
    ∃ authorization, pair.step encoding ports hub payload workloadPrincipalId context around who =
      pair.put who (.asking intent authorization) next pair.used := by
  obtain ⟨authorization, hBegun⟩ := beginRun_opened hServed hOpened hOf
  refine ⟨authorization, ?_⟩
  rw [Pair.step_idle hIdle, hBegun, RunPhase.opened_none hNone]

theorem Stands.kept {phase : RunPhase} {result : HubClaimRevocationResult}
    (hStored : stored = none ∨ stored = some result)
    (h : Stands encoding payload workloadPrincipalId context stored phase) :
    Stands encoding payload workloadPrincipalId context (some result) phase := by
  rcases hStored with rfl | rfl
  · cases phase with
    | idle => trivial
    | asking intent authorization => exact h
    | answered intent authorization result => exact h
    | observing intent authorization result => exact absurd h.2 (by simp)
    | returned outcome =>
      obtain ⟨_, _, _, hNone, _⟩ := h
      cases hNone
  · exact h

theorem Good.begin_asking
    (hIdle : pair.phase who = .idle) {authorization : String}
    (hOf : IsOf encoding payload workloadPrincipalId context intent)
    (hHolds : Holds encoding payload workloadPrincipalId context none next)
    (hStands : Stands encoding payload workloadPrincipalId context none (pair.phase (!who)))
    (hReplays : used = true → Replays hub none pair)
    (hFirst : used = false → FirstUse hub none pair)
    (hTurn : used = false → pair.phase (!who) = .idle) :
    Good encoding hub payload workloadPrincipalId context used none
      (pair.put who (.asking intent authorization) next pair.used) := by
  refine ⟨hHolds, fun _ hSome => absurd hSome (by simp), ?_, ?_, ?_⟩
  · rw [forall_runs who]
    simpa [Stands, hOf] using hStands
  · intro hUsed
    obtain ⟨hPairUsed, _, hAnswers⟩ := hReplays hUsed
    refine ⟨hPairUsed, fun _ _ => .inl rfl, ?_⟩
    rw [forall_runs who]
    simpa using hAnswers (!who)
  · intro hUsed
    have hOther := hTurn hUsed
    have hFresh : pair.used = false :=
      (hFirst hUsed).fresh rfl ((forall_runs who).mpr ⟨hIdle, hOther⟩)
    refine ⟨fun _ _ => hFresh, ?_, fun _ _ _ _ => hFresh, ?_⟩
    · rw [forall_runs who]
      simp [hOther, RunPhase.Pending]
    · rw [forall_runs who]
      simp [hOther]

theorem Good.settled {phase : RunPhase} {result : HubClaimRevocationResult}
    (hSettled : phase.Settled)
    (hPhase : Stands encoding payload workloadPrincipalId context (some result) phase)
    (hHolds : Holds encoding payload workloadPrincipalId context (some result) next)
    (hFits : RefFits result)
    (hStands : Stands encoding payload workloadPrincipalId context (some result) (pair.phase (!who)))
    (hReplays : used = true → Replays hub stored pair ∧
      ((pair.phase (!who)).Pending → result = hub.replayed))
    (hFirst : used = false → ¬ (pair.phase (!who)).Pending) :
    Good encoding hub payload workloadPrincipalId context used (some result)
      (pair.put who phase next pair.used) := by
  have hNotPending : ¬ phase.Pending := by
    cases phase with
    | observing intent authorization result => exact id
    | returned outcome => exact id
    | _ => exact hSettled.elim
  refine ⟨hHolds, ?_, ?_, ?_, ?_⟩
  · rintro _ ⟨⟩
    exact hFits
  · rw [forall_runs who, Pair.put_phase_self, Pair.put_phase_other]
    exact ⟨hPhase, hStands⟩
  · intro hUsed
    obtain ⟨⟨hPairUsed, _, hAnswers⟩, hPending⟩ := hReplays hUsed
    refine ⟨hPairUsed, ?_, ?_⟩
    · rw [forall_runs who, Pair.put_phase_self, Pair.put_phase_other]
      exact ⟨fun hWho => absurd hWho hNotPending, fun hOther => .inr (by rw [hPending hOther])⟩
    · rw [forall_runs who, Pair.put_phase_self, Pair.put_phase_other]
      exact ⟨fun _ _ _ hAnswered => absurd (by rw [hAnswered]; trivial) hNotPending, hAnswers (!who)⟩
  · intro hUsed
    have hOther := hFirst hUsed
    have hBoth : ∀ run, ¬ ((pair.put who phase next pair.used).phase run).Pending := by
      rw [forall_runs who, Pair.put_phase_self, Pair.put_phase_other]
      exact ⟨hNotPending, hOther⟩
    refine ⟨fun hNone => absurd hNone (by simp), fun run hPending => absurd hPending (hBoth run), ?_, ?_⟩
    · exact fun run _ _ hAsking => absurd (by rw [hAsking]; trivial) (hBoth run)
    · exact fun run _ _ _ hAnswered => absurd (by rw [hAnswered]; trivial) (hBoth run)

theorem Good.ask {authorization : String}
    (h : Good encoding hub payload workloadPrincipalId context used stored pair)
    (hServed : Served encoding ports hub payload workloadPrincipalId context around ledger)
    (hAsking : pair.phase who = .asking intent authorization) :
    Good encoding hub payload workloadPrincipalId context used stored
      (pair.put who (.answered intent authorization (hub.answer pair.used)) pair.ledger true) := by
  have hStands := h.stands who
  rw [hAsking] at hStands
  refine ⟨h.holds, h.fits, ?_, ?_, ?_⟩
  · have hFits : RefFits (hub.answer pair.used) := by
      unfold ReplayingHub.answer
      split
      · exact hServed.fits.2.1
      · exact hServed.fits.1
    rw [forall_runs who]
    simp only [Pair.put_phase_self, Pair.put_phase_other]
    exact ⟨⟨hStands, hFits⟩, h.stands (!who)⟩
  · intro hUsed
    obtain ⟨hPairUsed, hPending, hAnswers⟩ := h.replays hUsed
    have hNow := hPending who (by rw [hAsking]; trivial)
    refine ⟨rfl, fun _ _ => hNow, ?_⟩
    rw [forall_runs who]
    simp only [Pair.put_phase_self, Pair.put_phase_other]
    refine ⟨?_, hAnswers (!who)⟩
    rintro _ _ _ ⟨⟩
    simp [ReplayingHub.answer, hPairUsed]
  · intro hUsed
    obtain ⟨_, hPending, hAsks, _⟩ := h.firstUse hUsed
    obtain ⟨hNone, hOther⟩ := hPending who (by rw [hAsking]; trivial)
    have hFresh := hAsks who _ _ hAsking
    refine ⟨fun _ hIdle => ?_, ?_, ?_, ?_⟩
    · simpa using hIdle who
    all_goals rw [forall_runs who]
    · simp [hNone, hOther, RunPhase.Pending]
    · simp [hOther]
    · simp [hOther, ReplayingHub.answer, hFresh]

theorem Good.commit {authorization : String} {result : HubClaimRevocationResult}
    {row : RemovalIntent}
    (h : Good encoding hub payload workloadPrincipalId context used stored pair)
    (hAnswered : pair.phase who = .answered intent authorization result)
    (hOf : IsOf encoding payload workloadPrincipalId context row)
    (hStored : stored = none ∨ stored = some result)
    (hHolds : Holds encoding payload workloadPrincipalId context (some result) next) :
    Good encoding hub payload workloadPrincipalId context used (some result)
      (pair.put who (.observing row authorization result) next pair.used) := by
  have hStands := h.stands who
  rw [hAnswered] at hStands
  have hPending : (pair.phase who).Pending := by
    rw [hAnswered]
    trivial
  have hReplays : used = true → Replays hub stored pair ∧
      ((pair.phase (!who)).Pending → result = hub.replayed) := by
    intro hUsed
    have hReplays := h.replays hUsed
    exact ⟨hReplays, fun _ => hReplays.answers who _ _ _ hAnswered⟩
  refine Good.settled trivial ⟨hOf, rfl⟩ hHolds hStands.2 ((h.stands (!who)).kept hStored) hReplays ?_
  intro hUsed
  rw [((h.firstUse hUsed).pending who hPending).2]
  exact id

theorem Good.stay_settled {phase : RunPhase} {result : HubClaimRevocationResult}
    (h : Good encoding hub payload workloadPrincipalId context used (some result) pair)
    (hSettled : phase.Settled)
    (hPhase : Stands encoding payload workloadPrincipalId context (some result) phase) :
    Good encoding hub payload workloadPrincipalId context used (some result)
      (pair.put who phase pair.ledger pair.used) := by
  have hReplays : used = true → Replays hub (some result) pair ∧
      ((pair.phase (!who)).Pending → result = hub.replayed) := by
    intro hUsed
    refine ⟨h.replays hUsed, fun hPending => ?_⟩
    simpa using (h.replays hUsed).pending (!who) hPending
  refine Good.settled hSettled hPhase h.holds (h.fits result rfl) (h.stands (!who)) hReplays ?_
  intro hUsed hPending
  exact absurd ((h.firstUse hUsed).pending (!who) hPending).1 (by simp)

theorem Good.begin (h : Good encoding hub payload workloadPrincipalId context used stored pair)
    (hServed : Served encoding ports hub payload workloadPrincipalId context around ledger)
    (hTurn : InTurn payload context used pair who) (hIdle : pair.phase who = .idle) :
    Good encoding hub payload workloadPrincipalId context used stored
      (pair.step encoding ports hub payload workloadPrincipalId context around who) := by
  obtain ⟨row, hOpened, hOf, hRow⟩ := h.holds.openIntent_eq (around who).startedAt
  obtain ⟨authorization, hBegun⟩ := beginRun_opened hServed hOpened hOf
  rw [Pair.step_idle hIdle, hBegun]
  cases stored with
  | some result =>
    rw [RunPhase.opened_some hRow]
    exact h.stay_settled trivial ⟨hOf, rfl⟩
  | none =>
    rw [RunPhase.opened_none hRow]
    refine Good.begin_asking hIdle hOf h.holds (h.stands (!who)) h.replays h.firstUse ?_
    intro hUsed
    rcases hTurn hIdle with hOther | hStored | hBefore
    · exact hOther
    · rw [h.holds.storedResult_eq] at hStored
      cases hStored
    · exact absurd (hUsed.symm.trans hBefore) (by simp)

theorem Good.step (h : Good encoding hub payload workloadPrincipalId context used stored pair)
    (hServed : Served encoding ports hub payload workloadPrincipalId context around ledger)
    (hTurn : InTurn payload context used pair who) :
    ∃ stored', Good encoding hub payload workloadPrincipalId context used stored'
      (pair.step encoding ports hub payload workloadPrincipalId context around who) := by
  have hStands := h.stands who
  cases hPhase : pair.phase who with
  | idle => exact ⟨stored, h.begin hServed hTurn hPhase⟩
  | asking intent authorization =>
    rw [Pair.step_asking hPhase]
    exact ⟨stored, h.ask hServed hPhase⟩
  | answered intent authorization result =>
    rw [hPhase] at hStands
    have hPending : (pair.phase who).Pending := by
      rw [hPhase]
      trivial
    have hStored : stored = none ∨ stored = some result := by
      cases hUsed : used with
      | true =>
        rw [(h.replays hUsed).answers who _ _ _ hPhase]
        exact (h.replays hUsed).pending who hPending
      | false => exact .inl ((h.firstUse hUsed).pending who hPending).1
    obtain ⟨row, next, hMarked, hOf, hNext⟩ :=
      h.holds.markHubCommitted_eq hStored (around who).committedAt
    rw [Pair.step_answered hPhase]
    unfold commitAnswer
    rw [hStands.1.identity, hMarked]
    exact ⟨some result, h.commit hPhase hOf hStored hNext⟩
  | observing intent authorization result =>
    rw [hPhase] at hStands
    obtain ⟨hOf, rfl⟩ := hStands
    obtain ⟨answer, hEnds⟩ := hServed.ends who
    obtain ⟨value, hObserved, hIdentity, hDevice, hHub⟩ :=
      observeRemoval_returns hServed.erase (h.fits result rfl) hEnds
    rw [Pair.step_observing hPhase hObserved]
    refine ⟨some result, h.stay_settled trivial ⟨result, value, rfl, rfl, ?_, ?_, hHub⟩⟩
    · rw [hIdentity, hOf.identity]
    · rw [hDevice]
      exact congrArg IntentContent.deviceRef hOf.content
  | returned outcome =>
    rw [Pair.step_returned hPhase]
    exact ⟨stored, h⟩

theorem Served.opened_fits
    (hServed : Served encoding ports hub payload workloadPrincipalId context around ledger) {now : Int}
    (hOpened : openIntent encoding payload workloadPrincipalId context now ledger =
      (.ok intent, next)) {result : HubClaimRevocationResult} (hResult : intent.hubResult = some result) :
    RefFits result := by
  have hHolds := (holds_of_openIntent hServed.sound hOpened).2
  obtain ⟨_, _, rfl | ⟨_, rfl⟩⟩ := Ledger.getOrCreate_ok (openIntent_ok_iff.mp hOpened).1
  · exact hServed.fits.2.2 result (hHolds.storedResult_eq.trans hResult)
  · cases hResult

theorem Good.start
    (hServed : Served encoding ports hub payload workloadPrincipalId context around ledger) :
    ∃ stored, Good encoding hub payload workloadPrincipalId context used stored
      ((Pair.start ledger used).step encoding ports hub payload workloadPrincipalId context around
        who) := by
  obtain ⟨intent, next, hOpened⟩ := hServed.opens who
  obtain ⟨hOf, hHolds⟩ := holds_of_openIntent hServed.sound hOpened
  obtain ⟨authorization, hBegun⟩ := beginRun_opened hServed hOpened hOf
  have hReplays : ∀ stored, used = true → Replays hub stored (Pair.start ledger used) :=
    fun stored hUsed => ⟨hUsed, fun _ hPending => hPending.elim, fun _ _ _ _ hPhase => by cases hPhase⟩
  have hFirst : used = false → FirstUse hub none (Pair.start ledger used) :=
    fun hUsed => ⟨fun _ _ => hUsed, fun _ hPending => hPending.elim, fun _ _ _ _ => hUsed,
      fun _ _ _ _ hPhase => by cases hPhase⟩
  refine ⟨intent.hubResult, ?_⟩
  rw [Pair.step_idle rfl, show (Pair.start ledger used).ledger = ledger from rfl, hBegun]
  cases hResult : intent.hubResult with
  | some result =>
    rw [hResult] at hHolds
    rw [RunPhase.opened_some hResult]
    exact Good.settled trivial ⟨hOf, rfl⟩ hHolds (hServed.opened_fits hOpened hResult) trivial
      (fun hUsed => ⟨hReplays none hUsed, fun hPending => hPending.elim⟩) fun _ => id
  | none =>
    rw [hResult] at hHolds
    rw [RunPhase.opened_none hResult]
    exact Good.begin_asking rfl hOf hHolds trivial (hReplays none) hFirst fun _ => rfl

theorem RunPhase.rank_opened {authorization : String} : (opened intent authorization).rank ≤ 3 := by
  unfold opened
  split <;> simp [rank]

theorem rank_beginRun {now : Int} :
    (beginRun encoding ports payload workloadPrincipalId context now ledger).1.rank ≤ 3 := by
  unfold beginRun
  repeat' split
  all_goals first | exact RunPhase.rank_opened | exact Nat.zero_le _

theorem rank_commitAnswer {authorization : String} {result : HubClaimRevocationResult} {now : Int} :
    (commitAnswer intent authorization result now ledger).1.rank ≤ 1 := by
  unfold commitAnswer
  split <;> simp [RunPhase.rank]

theorem observeRemoval_ends {around : Surroundings} {authorization : String}
    {result : HubClaimRevocationResult} {answer : Except AuthorityFailure (Option KernelMount)}
    (hEnds : waitForMountRemoval payload.ownerId payload.deviceId around.deadline around.polls =
      some answer) :
    ∃ outcome, observeRemoval ports payload intent result authorization around = some outcome := by
  cases answer with
  | error failure => exact ⟨_, observeRemoval_of_failure hEnds⟩
  | ok mount => exact ⟨_, observeRemoval_of_mount hEnds⟩

theorem rank_step
    (hServed : Served encoding ports hub payload workloadPrincipalId context around ledger)
    (pair : Pair) (who : Bool) :
    ((pair.step encoding ports hub payload workloadPrincipalId context around who).phase who).rank ≤
      (pair.phase who).rank - 1 := by
  cases hPhase : pair.phase who with
  | idle =>
    rw [Pair.step_idle hPhase, Pair.put_phase_self]
    exact rank_beginRun
  | asking intent authorization =>
    rw [Pair.step_asking hPhase, Pair.put_phase_self]
    exact le_rfl
  | answered intent authorization result =>
    rw [Pair.step_answered hPhase, Pair.put_phase_self]
    exact rank_commitAnswer
  | observing intent authorization result =>
    obtain ⟨answer, hEnds⟩ := hServed.ends who
    obtain ⟨outcome, hObserved⟩ := observeRemoval_ends hEnds
    rw [Pair.step_observing hPhase hObserved, Pair.put_phase_self]
    exact le_rfl
  | returned outcome =>
    rw [Pair.step_returned hPhase, hPhase]
    exact Nat.zero_le _

theorem rank_run
    (hServed : Served encoding ports hub payload workloadPrincipalId context around ledger)
    (pair : Pair) (who : Bool) (schedule : List Bool) :
    ((run (Pair.step encoding ports hub payload workloadPrincipalId context around) pair
      schedule).phase who).rank ≤ (pair.phase who).rank - schedule.count who := by
  induction schedule generalizing pair with
  | nil => exact le_rfl
  | cons next rest ih =>
    rw [run_cons]
    refine (ih _).trans ?_
    by_cases hNext : next = who
    · subst hNext
      have hStep := rank_step hServed pair next
      rw [List.count_cons_self]
      omega
    · obtain rfl : next = !who := Bool.eq_not_of_ne hNext
      have hOther : (pair.step encoding ports hub payload workloadPrincipalId context around
          (!who)).phase (!!who) = pair.phase (!!who) := Pair.step_phase_other
      rw [Bool.not_not] at hOther
      rw [hOther, List.count_cons_of_ne (Bool.not_ne_self who)]

theorem returned_of_count
    (hServed : Served encoding ports hub payload workloadPrincipalId context around ledger)
    {schedule : List Bool} (hEnough : 4 ≤ schedule.count who) :
    ∃ outcome, (run (Pair.step encoding ports hub payload workloadPrincipalId context around)
      (Pair.start ledger used) schedule).phase who = .returned outcome := by
  have hRank := rank_run hServed (Pair.start ledger used) who schedule
  have hStart : ((Pair.start ledger used).phase who).rank = 4 := rfl
  rw [hStart, Nat.sub_eq_zero_of_le hEnough] at hRank
  exact returned_of_rank hRank

theorem Good.bothAnswer (h : Good encoding hub payload workloadPrincipalId context used stored pair)
    (hReturned : ∀ who, ∃ outcome, pair.phase who = .returned outcome) : BothAnswer context pair := by
  have hEach : ∀ who, ∃ result value, pair.phase who = .returned (.ok value) ∧
      stored = some result ∧ value.intentId = context.intentId ∧
      value.deviceRef = context.targetDeviceRef ∧ value.hub = some result := by
    intro who
    obtain ⟨outcome, hPhase⟩ := hReturned who
    have hStands := h.stands who
    rw [hPhase] at hStands
    obtain ⟨result, value, rfl, hRest⟩ := hStands
    exact ⟨result, value, hPhase, hRest⟩
  obtain ⟨result, _, _, rfl, _⟩ := hEach true
  refine ⟨result, h.holds.results_eq, fun who => ?_⟩
  obtain ⟨other, value, hPhase, hStored, hRest⟩ := hEach who
  obtain rfl := Option.some.inj hStored
  exact ⟨value, hPhase, hRest⟩

def Bound (answer : HubClaimRevocationResult) : RunPhase → Prop
  | .answered _ _ result => result = answer
  | .observing _ _ result => result = answer
  | .returned outcome => ∀ value, outcome = .ok value → value.hub = some answer
  | _ => False

theorem Bound.step {answer : HubClaimRevocationResult} (h : Bound answer (pair.phase who)) :
    Bound answer ((pair.step encoding ports hub payload workloadPrincipalId context around
      who).phase who) := by
  cases hPhase : pair.phase who with
  | answered intent authorization result =>
    rw [hPhase] at h
    rw [Pair.step_answered hPhase, Pair.put_phase_self]
    unfold commitAnswer
    split
    · rintro value ⟨⟩
    · exact h
  | observing intent authorization result =>
    rw [hPhase] at h
    obtain rfl := h
    cases hObserved : observeRemoval ports payload intent result authorization (around who) with
    | none =>
      simp only [Pair.step, hPhase, hObserved]
      rfl
    | some outcome =>
      rw [Pair.step_observing hPhase hObserved, Pair.put_phase_self]
      rintro value rfl
      obtain ⟨_, ⟨_, _, rfl⟩ | ⟨_, _, _, _, _, rfl⟩⟩ := observeRemoval_ok hObserved
      · rfl
      · rfl
  | returned outcome =>
    rw [Pair.step_returned hPhase]
    exact h
  | _ =>
    rw [hPhase] at h
    exact h.elim

inductive Split (hub : ReplayingHub) (pair : Pair) : Prop where
  | asking (unused : pair.used = false)
      (asks : ∀ who, ∃ intent authorization, pair.phase who = .asking intent authorization)
  | late (who : Bool) (used : pair.used = true)
      (asks : ∃ intent authorization, pair.phase who = .asking intent authorization)
      (first : Bound hub.committed (pair.phase (!who)))
  | apart (who : Bool) (repeated : Bound hub.replayed (pair.phase who))
      (first : Bound hub.committed (pair.phase (!who)))

theorem Bound.step_other {answer : HubClaimRevocationResult} (h : Bound answer (pair.phase (!who))) :
    Bound answer ((pair.step encoding ports hub payload workloadPrincipalId context around
      who).phase (!who)) := by
  rw [Pair.step_phase_other]
  exact h

theorem Bound.step_used {answer : HubClaimRevocationResult} (h : Bound answer (pair.phase who)) :
    (pair.step encoding ports hub payload workloadPrincipalId context around who).used =
      pair.used := by
  cases hPhase : pair.phase who with
  | answered intent authorization result =>
    rw [Pair.step_answered hPhase]
    rfl
  | observing intent authorization result =>
    cases hObserved : observeRemoval ports payload intent result authorization (around who) with
    | none => simp only [Pair.step, hPhase, hObserved]
    | some outcome =>
      rw [Pair.step_observing hPhase hObserved]
      rfl
  | returned outcome => rw [Pair.step_returned hPhase]
  | _ =>
    rw [hPhase] at h
    exact h.elim

theorem Split.step (h : Split hub pair) (who : Bool) :
    Split hub (pair.step encoding ports hub payload workloadPrincipalId context around who) := by
  cases h with
  | asking hUnused hAsks =>
    obtain ⟨intent, authorization, hPhase⟩ := hAsks who
    rw [Pair.step_asking hPhase, hUnused]
    refine .late (!who) rfl ?_ ?_
    · rw [Pair.put_phase_other]
      exact hAsks (!who)
    · rw [Bool.not_not, Pair.put_phase_self]
      exact rfl
  | late late hUsed hAsks hFirst =>
    by_cases hWho : who = late
    · subst hWho
      obtain ⟨intent, authorization, hPhase⟩ := hAsks
      rw [Pair.step_asking hPhase, hUsed]
      refine .apart who ?_ ?_
      · rw [Pair.put_phase_self]
        exact rfl
      · rw [Pair.put_phase_other]
        exact hFirst
    · obtain rfl : late = !who := Bool.eq_not_of_ne fun hLate => hWho hLate.symm
      rw [Bool.not_not] at hFirst
      refine .late (!who) (hFirst.step_used.trans hUsed) ?_ ?_
      · rw [Pair.step_phase_other]
        exact hAsks
      · rw [Bool.not_not]
        exact hFirst.step
  | apart replayed hRepeated hFirst =>
    by_cases hWho : who = replayed
    · subst hWho
      exact .apart who hRepeated.step hFirst.step_other
    · obtain rfl : replayed = !who := Bool.eq_not_of_ne fun hSame => hWho hSame.symm
      rw [Bool.not_not] at hFirst
      refine .apart (!who) hRepeated.step_other ?_
      rw [Bool.not_not]
      exact hFirst.step

theorem Good.split (h : Good encoding hub payload workloadPrincipalId context used stored pair)
    (hServed : Served encoding ports hub payload workloadPrincipalId context around ledger)
    (hMiss : ¬ InTurn payload context used pair who) :
    Split hub (pair.step encoding ports hub payload workloadPrincipalId context around who) := by
  simp only [InTurn, Classical.not_imp, not_or, Bool.not_eq_true] at hMiss
  obtain ⟨hIdle, hOther, hStored, hUsed⟩ := hMiss
  rw [h.holds.storedResult_eq, Option.isSome_eq_false_iff, Option.isNone_iff_eq_none] at hStored
  subst hStored
  obtain ⟨_, _, hAsks, hAnswers⟩ := h.firstUse hUsed
  obtain ⟨row, hOpened, hOf, hRow⟩ := h.holds.openIntent_eq (around who).startedAt
  obtain ⟨authorization, hStep⟩ := step_begins pair hServed hIdle hOpened hOf hRow
  rw [hStep]
  have hStands := h.stands (!who)
  cases hPhase : pair.phase (!who) with
  | idle => exact absurd hPhase hOther
  | asking intent authorization =>
    refine .asking (hAsks (!who) _ _ hPhase) ?_
    rw [forall_runs who, Pair.put_phase_self, Pair.put_phase_other]
    exact ⟨⟨_, _, rfl⟩, _, _, hPhase⟩
  | answered intent authorization result =>
    obtain ⟨rfl, hSent⟩ := hAnswers (!who) _ _ _ hPhase
    refine .late who hSent ?_ ?_
    · rw [Pair.put_phase_self]
      exact ⟨_, _, rfl⟩
    · rw [Pair.put_phase_other, hPhase]
      exact rfl
  | observing intent authorization result =>
    rw [hPhase] at hStands
    cases hStands.2
  | returned outcome =>
    rw [hPhase] at hStands
    obtain ⟨_, _, _, hNone, _⟩ := hStands
    cases hNone

theorem Split.not_bothAnswer (h : Split hub pair) : ¬ BothAnswer context pair := by
  rintro ⟨stored, _, hReturned⟩
  cases h with
  | asking hUnused hAsks =>
    obtain ⟨_, _, hPhase⟩ := hAsks true
    obtain ⟨_, hOther, _⟩ := hReturned true
    cases hPhase.symm.trans hOther
  | late late hUsed hAsks hFirst =>
    obtain ⟨_, _, hPhase⟩ := hAsks
    obtain ⟨_, hOther, _⟩ := hReturned late
    cases hPhase.symm.trans hOther
  | apart who hRepeated hFirst =>
    obtain ⟨value, hPhase, _, _, hHub⟩ := hReturned who
    obtain ⟨value', hPhase', _, _, hHub'⟩ := hReturned (!who)
    rw [hPhase] at hRepeated
    rw [hPhase'] at hFirst
    have hSame : hub.committed = hub.replayed := Option.some.inj <|
      calc some hub.committed = value'.hub := (hFirst value' rfl).symm
        _ = value.hub := hHub'.trans hHub.symm
        _ = some hub.replayed := hRepeated value rfl
    exact hub.committed_ne_replayed hSame

/-- Two runs of one removal both answer, with the one result that is stored, exactly in
the orders in which the second to begin finds the Hub result of the first. -/
theorem bothAnswer_iff_inTurn
    (hServed : Served encoding ports hub payload workloadPrincipalId context around ledger)
    {schedule : List Bool} (hEnough : ∀ who, 4 ≤ schedule.count who) :
    BothAnswer context (run (Pair.step encoding ports hub payload workloadPrincipalId context around)
        (Pair.start ledger used) schedule) ↔
      Meets (Pair.step encoding ports hub payload workloadPrincipalId context around)
        (InTurn payload context used) (Pair.start ledger used) schedule := by
  have hStep : ∀ pair who, InTurn payload context used pair who →
      Compatible encoding hub payload workloadPrincipalId context ledger used pair →
      Compatible encoding hub payload workloadPrincipalId context ledger used
        (pair.step encoding ports hub payload workloadPrincipalId context around who) := by
    rintro pair who hTurn (rfl | ⟨stored, hGood⟩)
    · exact .inr (Good.start hServed)
    · exact .inr (hGood.step hServed hTurn)
  have hMiss : ∀ pair who, ¬ InTurn payload context used pair who →
      Compatible encoding hub payload workloadPrincipalId context ledger used pair →
      Split hub (pair.step encoding ports hub payload workloadPrincipalId context around who) := by
    rintro pair who hNot (rfl | ⟨stored, hGood⟩)
    · exact absurd (fun _ => .inl rfl) hNot
    · exact hGood.split hServed hNot
  constructor
  · intro hBoth
    by_contra hNot
    have hSplit : Split hub (run (Pair.step encoding ports hub payload workloadPrincipalId context
        around) (Pair.start ledger used) schedule) :=
      run_of_not_meets hStep hMiss (fun _ who hSplit => hSplit.step who) (.inl rfl) hNot
    exact hSplit.not_bothAnswer hBoth
  · intro hTurns
    have hReturned : ∀ who, ∃ outcome, (run (Pair.step encoding ports hub payload
        workloadPrincipalId context around) (Pair.start ledger used) schedule).phase who =
          .returned outcome :=
      fun who => returned_of_count hServed (hEnough who)
    rcases Meets.run_invariant hStep (.inl rfl) hTurns with hStart | ⟨stored, hGood⟩
    · obtain ⟨outcome, hPhase⟩ := hReturned true
      rw [hStart] at hPhase
      cases hPhase
    · exact hGood.bothAnswer hReturned

/-- Both runs open the intent before either has an answer. -/
theorem split_of_overlap
    (hServed : Served encoding ports hub payload workloadPrincipalId context around ledger)
    (hOpened : openIntent encoding payload workloadPrincipalId context (around who).startedAt
      ledger = (.ok intent, next)) (hNone : intent.hubResult = none) :
    Split hub (run (Pair.step encoding ports hub payload workloadPrincipalId context around)
      (Pair.start ledger false) [who, !who]) := by
  obtain ⟨hOf, hHolds⟩ := holds_of_openIntent hServed.sound hOpened
  rw [hNone] at hHolds
  obtain ⟨authorization, hFirst⟩ := step_begins (Pair.start ledger false) hServed rfl
    hOpened hOf hNone
  obtain ⟨row, hAgain, hRowOf, hRow⟩ := hHolds.openIntent_eq (around (!who)).startedAt
  obtain ⟨_, hSecond⟩ := step_begins ((Pair.start ledger false).put who
    (.asking intent authorization) next false) hServed (Pair.put_phase_other ..) hAgain hRowOf hRow
  rw [run_cons, run_cons, run_nil, hFirst, show (Pair.start ledger false).used = false from rfl,
    hSecond]
  refine .asking rfl ?_
  rw [forall_runs (!who), Pair.put_phase_self, Pair.put_phase_other, Bool.not_not, Pair.put_phase_self]
  exact ⟨⟨_, _, rfl⟩, _, _, rfl⟩

end Schedules

namespace Sample

def replayingHub : ReplayingHub where
  committed := hub
  replayed := { hub with outcome := .replayed }
  committed_outcome := rfl
  replayed_outcome := rfl

theorem served : Served encoding ports replayingHub payload "eidolon-local-api" context
    (fun _ => around []) [] where
  sound := Ledger.sound_nil
  opens _ := ⟨intent, [intent], openIntent_new rfl (by decide) rfl⟩
  issues := ⟨_, rfl, fun _ _ => ⟨_, rfl⟩⟩
  ends _ := ⟨.ok none, rfl⟩
  erase _ := .inr ⟨_, rfl, show "erase_1f2e3d4c".length ≤ 255 by decide⟩
  fits := ⟨by unfold RefFits; decide, by unfold RefFits; decide, fun _ hStored => by cases hStored⟩

def step : Pair → Bool → Pair :=
  Pair.step encoding ports replayingHub payload "eidolon-local-api" context fun _ => around []

end Sample

/-- Hub had the command before: the two runs may take turns as they like. -/
theorem bothAnswer_iff_inTurn_repeated :
    BothAnswer Sample.context (run Sample.step (Pair.start [] true)
      [true, false, true, false, true, false, true, false]) := by
  refine (bothAnswer_iff_inTurn Sample.served (by decide)).mpr ?_
  rw [meets_iff]
  intro _ _ _ _ _
  exact .inr (.inr rfl)

/-- Both runs end, and one of them does not answer. -/
theorem overlapping_runs_clash :
    (∀ who, ∃ outcome, (run Sample.step (Pair.start [] false)
      [true, false, true, false, true, false, true, false]).phase who = .returned outcome) ∧
    ¬ BothAnswer Sample.context (run Sample.step (Pair.start [] false)
      [true, false, true, false, true, false, true, false]) := by
  have hOverlap : Split Sample.replayingHub (run Sample.step (Pair.start [] false) [true, false]) :=
    split_of_overlap Sample.served (openIntent_new rfl (by decide) rfl) rfl
  have hLast : Split Sample.replayingHub (run Sample.step (Pair.start [] false)
      ([true, false] ++ [true, false, true, false, true, false])) := by
    rw [run_append]
    exact run_invariant (fun _ who hSplit => hSplit.step who) hOverlap _
  have hEnough : ∀ who, 4 ≤ [true, false, true, false, true, false, true, false].count who := by
    decide
  refine ⟨?_, hLast.not_bothAnswer⟩
  unfold Sample.step
  exact fun who => returned_of_count Sample.served (hEnough who)

end EidolonAdmin.Removal
