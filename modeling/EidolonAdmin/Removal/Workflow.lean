import EidolonAdmin.Removal.Ledger

/-! # The removal workflow

`ControlPlaneService.remove_controller_device` over the ports it drives: the
credential issuer and the two Hub calls, the Kernel's mount listing, and the
ledger. A run is a function of what these answer and of its clock readings; the
ledger operations of other requests that fall into the Hub call are an argument.
-/

namespace EidolonAdmin.Removal

open Foundation.Transition

def LedgerError.raised : LedgerError → Raised
  | unknownIntent intentId => .key intentId
  | integrity => .integrity
  | overflow => .overflow
  | error => .value (error.valueError?.getD "")

def conflict (detail : String) : Raised :=
  .authority { authority := .hub, kind := .conflict, detail, statusCode := 409 }

structure Surroundings where
  startedAt : Int
  committedAt : Int
  observedAt : ConditionName → Int
  meanwhile : List LedgerOp
  deadline : Int
  polls : List Poll

/-- The digests, and `json.dumps` of the dumped context with sorted keys. -/
structure Encoding extends Digests where
  contextJson : RemovalOwnerAuthorizationContext → String

def pageLimit : Nat := 100

/-- `KernelMountClient.list_mounts`: one page, whose cursor is not followed. -/
def listMounts (ownerId : String) (held : List KernelMount) :
    Except AuthorityFailure (List KernelMount) :=
  if (held.take pageLimit).any fun mount => mount.ownerId ≠ ownerId then
    .error { authority := .kernel, kind := .contractViolation, statusCode := 502
             detail := "Kernel Mount page crossed the requested owner scope" }
  else .ok (held.take pageLimit)

def ownerMount (ownerId deviceId : String) (activeOnly : Bool)
    (held : Except AuthorityFailure (List KernelMount)) :
    Except AuthorityFailure (Option KernelMount) := do
  let mounts ← listMounts ownerId (← held)
  return mounts.find? fun mount => mount.deviceId = deviceId ∧ (mount.active ∨ ¬ activeOnly)

/-- `_wait_for_mount_removal`, which has not returned while the reads are used up. -/
def waitForMountRemoval (ownerId deviceId : String) (deadline : Int) :
    List Poll → Option (Except AuthorityFailure (Option KernelMount))
  | [] => none
  | poll :: rest =>
    match ownerMount ownerId deviceId false poll.held with
    | .error failure => some (.error failure)
    | .ok none => some (.ok none)
    | .ok (some mount) =>
      if mount.active = false ∨ deadline ≤ poll.clock then some (.ok (some mount))
      else waitForMountRemoval ownerId deviceId deadline rest

/-- The length that `RemovalCondition` allows a reference. -/
def RemovalCondition.valid (condition : RemovalCondition) : Bool :=
  condition.authorityRef.all fun ref => ref.length ≤ 255

def validated (result : DeviceRemovalResult) : Except Raised DeviceRemovalResult :=
  if result.conditions.all RemovalCondition.valid then .ok result else .error .validation

theorem validated_eq_ok_iff {result valid : DeviceRemovalResult} :
    validated result = .ok valid ↔ valid = result ∧ result.conditions.all RemovalCondition.valid := by
  unfold validated
  split
  · rename_i hValid
    simp [hValid, eq_comm]
  · rename_i hInvalid
    simp [hInvalid]

/-- Python's `a or b` on texts. -/
def orElse (first : Option String) (second : String) : String :=
  match first with
  | none => second
  | some text => if text = "" then second else text

def removalConditions (hub : HubClaimRevocationResult) (mountState eraseState : ConditionState)
    (eraseRef : Option String) (observedAt : Int) : List RemovalCondition :=
  [{ name := .platformAccessRevoked, state := .yes, authority := .hub
     authorityRef := some (orElse hub.eventId hub.commandId), observedAt },
   { name := .mountRemoved, state := mountState, authority := .kernel
     authorityRef := none, observedAt },
   { name := .deviceEraseAcknowledged, state := eraseState, authority := .deviceControl
     authorityRef := eraseRef, observedAt }]

section Run

variable (encoding : Encoding) (ports : HubPorts) (payload : ControllerDeviceRemovalRequest)

def intentContent (workloadPrincipalId : String) (context : RemovalOwnerAuthorizationContext) :
    IntentContent where
  ingressRequestId := payload.requestId
  ownerDomainId := context.targetDeviceRef.ownerDomainId
  deviceRef := context.targetDeviceRef
  actorControllerId := payload.controllerId
  workloadPrincipalId
  controllerResetEpoch := context.resetEpoch
  authorizationContextJson := encoding.contextJson context
  authorizationContextSha256 := encoding.sha256 (encoding.contextJson context)
  reason := payload.reason

/-- The first part of `remove_controller_device`: the stored intent of the request. -/
def openIntent (workloadPrincipalId : String) (context : RemovalOwnerAuthorizationContext)
    (now : Int) (ledger : Ledger) : Except Raised RemovalIntent × Ledger :=
  match ledger.getOrCreate encoding.toDigests
    (intentContent encoding payload workloadPrincipalId context) now with
  | (.error error, next) =>
    match error.valueError? with
    | some text => (.error (conflict text), next)
    | none => (.error error.raised, next)
  | (.ok intent, next) =>
    if intent.intentId ≠ context.intentId then
      (.error (conflict "Removal intent identity changed"), next)
    else (.ok intent, next)

def credentialCall (intent : RemovalIntent) : CredentialCall where
  controllerId := payload.controllerId
  intentId := intent.intentId
  deviceRef := intent.deviceRef
  businessOwnerId := payload.ownerId

def revokeCall (intent : RemovalIntent) (authorization : String) : RevokeCall where
  deviceRef := intent.deviceRef
  reason := intent.reason
  commandId := intent.hubCommandId
  correlationId := intent.intentId
  authorization

def refusedResult (intent : RemovalIntent) (failure : AuthorityFailure)
    (observedAt : ConditionName → Int) : DeviceRemovalResult where
  requestId := payload.requestId
  intentId := intent.intentId
  deviceRef := intent.deviceRef
  outcome := if failure.retryable then .accepted else .blocked
  completedStage := .received
  recovery := if failure.retryable then .retryForwardSameRequestId else .operatorActionRequired
  steps := [{ state := .failed, requestId := intent.hubCommandId
              failure := some failure.toWire }]
  hub := none
  conditions :=
    [{ name := .platformAccessRevoked, state := .no, authority := .hub
       authorityRef := some intent.hubCommandId
       observedAt := observedAt .platformAccessRevoked },
     { name := .mountRemoved, state := .unknown, authority := .kernel
       authorityRef := none, observedAt := observedAt .mountRemoved },
     { name := .deviceEraseAcknowledged, state := .unknown, authority := .deviceControl
       authorityRef := none, observedAt := observedAt .deviceEraseAcknowledged }]

def observeDeviceErase (intent : RemovalIntent) (hub : HubClaimRevocationResult)
    (authorization : String) : Except Raised (ConditionState × Option String) :=
  match hub.eventId with
  | none => .ok (.unknown, none)
  | some eventId =>
    match ports.getDeviceControlOperation
      { deviceRef := intent.deviceRef, sourceClaimEventId := eventId, authorization } with
    | .error (.authority _) => .ok (.unknown, some eventId)
    | .error raised => .error raised
    | .ok operation =>
      if operation.state = "acknowledged" ∧ operation.terminalResult = some "erased" then
        .ok (.yes, some operation.operationId)
      else .ok (.no, some operation.operationId)

def stepState : RevocationOutcome → StepState
  | .committed => .committed
  | .replayed => .replayed

def revokedResult (intent : RemovalIntent) (hub : HubClaimRevocationResult)
    (mountState eraseState : ConditionState) (eraseRef : Option String) (observedAt : Int) :
    DeviceRemovalResult where
  requestId := payload.requestId
  intentId := intent.intentId
  deviceRef := intent.deviceRef
  outcome := if mountState = .yes then .completed else .accepted
  completedStage := if mountState = .yes then .converged else .claimRevoked
  recovery := if mountState = .yes then .none else .retryForwardSameRequestId
  steps := [{ state := stepState hub.outcome, requestId := intent.hubCommandId, failure := none }]
  hub := some hub
  conditions := removalConditions hub mountState eraseState eraseRef observedAt

def mountState (mount : Option KernelMount) : ConditionState :=
  if mount.all fun found => !found.active then .yes else .no

/-- The last part of `remove_controller_device`: the Kernel's mount, then the
device's own erase. -/
def observeRemoval (intent : RemovalIntent) (hub : HubClaimRevocationResult)
    (authorization : String) (around : Surroundings) :
    Option (Except Raised DeviceRemovalResult) :=
  match waitForMountRemoval payload.ownerId payload.deviceId around.deadline around.polls with
  | none => none
  | some (.error _) =>
    some (validated (revokedResult payload intent hub .unknown .unknown none
      (around.observedAt .platformAccessRevoked)))
  | some (.ok mount) =>
    some <|
      match observeDeviceErase ports intent hub authorization with
      | .error raised => .error raised
      | .ok (eraseState, eraseRef) =>
        validated (revokedResult payload intent hub (mountState mount) eraseState eraseRef
          (around.observedAt .platformAccessRevoked))

def ledgerAtAnswer (around : Surroundings) (ledger : Ledger) : Ledger :=
  run (Ledger.apply encoding.toDigests) ledger around.meanwhile

/-- The part after the credential was issued: a stored Hub result is not asked for
again. -/
def revokeAndObserve (intent : RemovalIntent) (authorization : String) (around : Surroundings)
    (ledger : Ledger) : Option (Except Raised DeviceRemovalResult) × Ledger :=
  match intent.hubResult with
  | some hub => (observeRemoval ports payload intent hub authorization around, ledger)
  | none =>
    match ports.revoke (revokeCall intent authorization) with
    | .error (.authority failure) =>
      (some (validated (refusedResult payload intent failure around.observedAt)),
        ledgerAtAnswer encoding around ledger)
    | .error raised => (some (.error raised), ledgerAtAnswer encoding around ledger)
    | .ok hub =>
      match (ledgerAtAnswer encoding around ledger).markHubCommitted intent.intentId hub
        around.committedAt with
      | (.error error, last) => (some (.error error.raised), last)
      | (.ok committed, last) =>
        (observeRemoval ports payload committed hub authorization around, last)

def removeControllerDevice (workloadPrincipalId : String)
    (context : RemovalOwnerAuthorizationContext) (around : Surroundings) (ledger : Ledger) :
    Option (Except Raised DeviceRemovalResult) × Ledger :=
  match ports.hubCredentials with
  | none =>
    (some (.error (.authority
      { authority := .hub, kind := .configuration, statusCode := 503
        detail := "Hub Owner credential issuer is unavailable" })), ledger)
  | some issueRemovalIntent =>
    match openIntent encoding payload workloadPrincipalId context around.startedAt ledger with
    | (.error raised, next) => (some (.error raised), next)
    | (.ok intent, next) =>
      match issueRemovalIntent (credentialCall payload intent) with
      | .error raised => (some (.error raised), next)
      | .ok authorization =>
        revokeAndObserve encoding ports payload intent authorization around next

variable {encoding payload} {workloadPrincipalId : String}
  {context : RemovalOwnerAuthorizationContext} {now : Int} {ledger next : Ledger}
  {intent : RemovalIntent}

theorem openIntent_ok_iff :
    openIntent encoding payload workloadPrincipalId context now ledger = (.ok intent, next) ↔
      ledger.getOrCreate encoding.toDigests
          (intentContent encoding payload workloadPrincipalId context) now = (.ok intent, next) ∧
        intent.intentId = context.intentId := by
  constructor
  · intro h
    unfold openIntent at h
    split at h
    · split at h <;> cases h
    · rename_i hCreated
      split at h
      · cases h
      · rename_i hIdentity
        cases h
        exact ⟨hCreated, not_not.mp hIdentity⟩
  · rintro ⟨hCreated, hIdentity⟩
    unfold openIntent
    rw [hCreated]
    exact if_neg (not_not.mpr hIdentity)

theorem openIntent_new
    (hNone : ledger.findRequest context.targetDeviceRef.ownerDomainId payload.requestId = none)
    (hAccepts : ledger.accepts (Ledger.newIntent encoding.toDigests
      (intentContent encoding payload workloadPrincipalId context) now))
    (hIdentity : context.intentId = encoding.removalIntentId payload.requestId
      context.targetDeviceRef.ownerDomainId) :
    openIntent encoding payload workloadPrincipalId context now ledger =
      (.ok (Ledger.newIntent encoding.toDigests
          (intentContent encoding payload workloadPrincipalId context) now),
        ledger ++ [Ledger.newIntent encoding.toDigests
          (intentContent encoding payload workloadPrincipalId context) now]) :=
  openIntent_ok_iff.mpr ⟨Ledger.getOrCreate_new rfl hNone hAccepts, hIdentity.symm⟩

theorem openIntent_stored
    (hStored : ledger.findRequest context.targetDeviceRef.ownerDomainId payload.requestId = some intent)
    (hContent : intent.toIntentContent = intentContent encoding payload workloadPrincipalId context)
    (hIdentity : intent.intentId = context.intentId) :
    openIntent encoding payload workloadPrincipalId context now ledger = (.ok intent, ledger) := by
  have hFound : ledger.getOrCreate encoding.toDigests
      (intentContent encoding payload workloadPrincipalId context) now = _ :=
    Ledger.getOrCreate_found rfl hStored
  rw [if_pos hContent] at hFound
  exact openIntent_ok_iff.mpr ⟨hFound, hIdentity⟩

theorem openIntent_reused
    (h : ledger.getOrCreate encoding.toDigests
      (intentContent encoding payload workloadPrincipalId context) now =
        (.error .requestReused, next)) :
    openIntent encoding payload workloadPrincipalId context now ledger =
      (.error (conflict "request_id was reused with different removal content"), next) := by
  unfold openIntent
  rw [h]
  rfl

variable {ports} {around : Surroundings} {result : DeviceRemovalResult}
  {hub : HubClaimRevocationResult} {authorization : String}

theorem removeControllerDevice_issued {issue : CredentialCall → Except Raised String}
    (hCredentials : ports.hubCredentials = some issue)
    (hOpened : openIntent encoding payload workloadPrincipalId context around.startedAt ledger =
      (.ok intent, next))
    (hIssued : issue (credentialCall payload intent) = .ok authorization) :
    removeControllerDevice encoding ports payload workloadPrincipalId context around ledger =
      revokeAndObserve encoding ports payload intent authorization around next := by
  unfold removeControllerDevice
  simp only [hCredentials, hOpened, hIssued]

theorem revokeAndObserve_committed {committed : RemovalIntent} (hNone : intent.hubResult = none)
    (hRevoke : ports.revoke (revokeCall intent authorization) = .ok hub)
    (hMarked : (ledgerAtAnswer encoding around ledger).markHubCommitted intent.intentId hub
      around.committedAt = (.ok committed, next)) :
    revokeAndObserve encoding ports payload intent authorization around ledger =
      (observeRemoval ports payload committed hub authorization around, next) := by
  unfold revokeAndObserve
  simp only [hNone, hRevoke, hMarked]

theorem observeRemoval_of_failure {failure : AuthorityFailure}
    (hWait : waitForMountRemoval payload.ownerId payload.deviceId around.deadline around.polls =
      some (.error failure)) :
    observeRemoval ports payload intent hub authorization around =
      some (validated (revokedResult payload intent hub .unknown .unknown none
        (around.observedAt .platformAccessRevoked))) := by
  unfold observeRemoval
  rw [hWait]

theorem observeRemoval_of_mount {mount : Option KernelMount}
    (hWait : waitForMountRemoval payload.ownerId payload.deviceId around.deadline around.polls =
      some (.ok mount)) :
    observeRemoval ports payload intent hub authorization around =
      some (match observeDeviceErase ports intent hub authorization with
        | .error raised => .error raised
        | .ok (eraseState, eraseRef) =>
          validated (revokedResult payload intent hub (mountState mount) eraseState eraseRef
            (around.observedAt .platformAccessRevoked))) := by
  unfold observeRemoval
  rw [hWait]

theorem observeRemoval_ok
    (h : observeRemoval ports payload intent hub authorization around = some (.ok result)) :
    result.conditions.all RemovalCondition.valid ∧
    ((∃ failure, waitForMountRemoval payload.ownerId payload.deviceId around.deadline
        around.polls = some (.error failure) ∧
      result = revokedResult payload intent hub .unknown .unknown none
        (around.observedAt .platformAccessRevoked)) ∨
    (∃ mount eraseState eraseRef, waitForMountRemoval payload.ownerId payload.deviceId
        around.deadline around.polls = some (.ok mount) ∧
      observeDeviceErase ports intent hub authorization = .ok (eraseState, eraseRef) ∧
      result = revokedResult payload intent hub (mountState mount) eraseState eraseRef
        (around.observedAt .platformAccessRevoked))) := by
  cases hWait : waitForMountRemoval payload.ownerId payload.deviceId around.deadline
      around.polls with
  | none =>
    unfold observeRemoval at h
    rw [hWait] at h
    cases h
  | some answer =>
    cases answer with
    | error failure =>
      rw [observeRemoval_of_failure hWait, Option.some.injEq, validated_eq_ok_iff] at h
      obtain ⟨rfl, hValid⟩ := h
      exact ⟨hValid, .inl ⟨failure, rfl, rfl⟩⟩
    | ok mount =>
      rw [observeRemoval_of_mount hWait, Option.some.injEq] at h
      split at h
      · cases h
      · rename_i eraseState eraseRef hErase
        obtain ⟨rfl, hValid⟩ := validated_eq_ok_iff.mp h
        exact ⟨hValid, .inr ⟨mount, eraseState, eraseRef, rfl, hErase, rfl⟩⟩

theorem revokeAndObserve_ok
    (h : revokeAndObserve encoding ports payload intent authorization around ledger =
      (some (.ok result), next)) :
    (∃ failure, ports.revoke (revokeCall intent authorization) = .error (.authority failure) ∧
      result = refusedResult payload intent failure around.observedAt) ∨
    (∃ intent hub, observeRemoval ports payload intent hub authorization around =
      some (.ok result)) := by
  unfold revokeAndObserve at h
  split at h
  · exact .inr ⟨_, _, (Prod.mk.inj h).1⟩
  · split at h
    · rename_i failure hRevoke
      exact .inl ⟨failure, hRevoke, (validated_eq_ok_iff.mp (Option.some.inj (Prod.mk.inj h).1)).1⟩
    · cases h
    · split at h
      · cases h
      · exact .inr ⟨_, _, (Prod.mk.inj h).1⟩

theorem removeControllerDevice_returned
    (h : removeControllerDevice encoding ports payload workloadPrincipalId context around
      ledger = (some (.ok result), next)) :
    ∃ issue intent opened authorization, ports.hubCredentials = some issue ∧
      openIntent encoding payload workloadPrincipalId context around.startedAt ledger =
        (.ok intent, opened) ∧
      issue (credentialCall payload intent) = .ok authorization ∧
      revokeAndObserve encoding ports payload intent authorization around opened =
        (some (.ok result), next) := by
  unfold removeControllerDevice at h
  split at h
  · cases h
  · rename_i issue hCredentials
    split at h
    · cases h
    · rename_i intent opened hOpened
      split at h
      · cases h
      · rename_i authorization hIssued
        exact ⟨issue, intent, opened, authorization, hCredentials, hOpened, hIssued, h⟩

theorem removeControllerDevice_ok
    (h : removeControllerDevice encoding ports payload workloadPrincipalId context around
      ledger = (some (.ok result), next)) :
    (∃ intent failure, result = refusedResult payload intent failure around.observedAt) ∨
    (∃ intent hub authorization,
      observeRemoval ports payload intent hub authorization around = some (.ok result)) := by
  obtain ⟨_, intent, _, authorization, _, _, _, hReturned⟩ := removeControllerDevice_returned h
  rcases revokeAndObserve_ok hReturned with ⟨failure, _, hRefused⟩ | ⟨intent, hub, hObserved⟩
  · exact .inl ⟨intent, failure, hRefused⟩
  · exact .inr ⟨intent, hub, authorization, hObserved⟩

end Run

end EidolonAdmin.Removal
