import EidolonAdmin.Removal.Capability

/-! # The brokered removal beside the direct one

The same run on the Hub client and through the broker. The broker forgets that a
failure is retryable, cannot carry an owner id with a colon, and cannot observe
the delivery at all; where none of these is reached the two runs agree.
-/

namespace EidolonAdmin.Removal

open Foundation.Transition
open Bootstrap (isLowerHex isControllerId)

structure Verdict where
  outcome : RemovalOutcome
  completedStage : CompletedStage
  recovery : Recovery
  conditions : List (ConditionName × ConditionState)
deriving DecidableEq, Repr

def DeviceRemovalResult.verdict (result : DeviceRemovalResult) : Verdict where
  outcome := result.outcome
  completedStage := result.completedStage
  recovery := result.recovery
  conditions := result.conditions.map fun condition => (condition.name, condition.state)

/-- Hub has no delivery to report that the broker would hide: the revocation has no
event, the Kernel did not answer, or the observation fails on Hub itself. An empty
event id is refused by the broker's own call, once the marker can be read. -/
def DeliveryUnreported (service : HubService) (payload : ControllerDeviceRemovalRequest)
    (intent : RemovalIntent) (hub : HubClaimRevocationResult) (authorization : String)
    (around : Surroundings) : Prop :=
  ∀ mount eventId, waitForMountRemoval payload.ownerId payload.deviceId around.deadline
      around.polls = some (.ok mount) → hub.eventId = some eventId →
    (∃ failure, service.getDeviceControlOperation
        { deviceRef := intent.deviceRef, sourceClaimEventId := eventId, authorization } =
      .error failure) ∧
    (eventId = "" → ':' ∈ payload.ownerId.toList)

section Observation

variable {wire : Wire} {service : HubService} {payload : ControllerDeviceRemovalRequest}
  {intent : RemovalIntent} {hub : HubClaimRevocationResult} {authorization : String}
  {around : Surroundings} {result : DeviceRemovalResult} {credential : CredentialCall}

theorem observeDeviceErase_direct (service : HubService) (intent : RemovalIntent)
    (authorization : String) {eventId : String} (hEvent : hub.eventId = some eventId) :
    (∃ failure, service.getDeviceControlOperation
        { deviceRef := intent.deviceRef, sourceClaimEventId := eventId, authorization } =
          .error failure ∧
      observeDeviceErase service.direct intent hub authorization =
        .ok (.unknown, some eventId)) ∨
    (∃ operation state ref, service.getDeviceControlOperation
        { deviceRef := intent.deviceRef, sourceClaimEventId := eventId, authorization } =
          .ok operation ∧
      observeDeviceErase service.direct intent hub authorization = .ok (state, ref) ∧
      state ≠ .unknown) := by
  unfold observeDeviceErase
  rw [hEvent]
  cases hObserved : service.getDeviceControlOperation
      { deviceRef := intent.deviceRef, sourceClaimEventId := eventId, authorization } with
  | error failure =>
    left
    exact ⟨failure, rfl, by simp [HubService.direct, hObserved, raising]⟩
  | ok operation =>
    right
    simp only [HubService.direct, hObserved, raising]
    split
    · exact ⟨operation, .yes, _, rfl, rfl, nofun⟩
    · exact ⟨operation, .no, _, rfl, rfl, nofun⟩

theorem observeDeviceErase_brokered {eventId : String}
    (hController : isControllerId credential.controllerId)
    (hIntent : isIntentId credential.intentId) (hEvent : hub.eventId = some eventId) :
    observeDeviceErase (service.brokered wire) intent hub (marker credential) =
      if ':' ∈ credential.businessOwnerId.toList ∨ lengthWithin 255 eventId then
        .ok (.unknown, some eventId)
      else .error .validation := by
  unfold observeDeviceErase
  rw [hEvent]
  simp only [HubService.brokered]
  by_cases hReadable : ':' ∈ credential.businessOwnerId.toList ∨ lengthWithin 255 eventId
  · obtain ⟨failure, hFailure⟩ : ∃ failure, brokeredObserve wire service
        { deviceRef := intent.deviceRef, sourceClaimEventId := eventId
          authorization := marker credential } = .error (.authority failure) :=
      brokeredObserve_failure rfl hController hIntent hReadable
    rw [hFailure, if_pos hReadable]
  · have hInvalid : brokeredObserve wire service
        { deviceRef := intent.deviceRef, sourceClaimEventId := eventId
          authorization := marker credential } = .error .validation := by
      rw [not_or, Bool.not_eq_true] at hReadable
      exact brokeredObserve_invalid rfl hController hIntent hReadable.1 hReadable.2
    rw [hInvalid, if_neg hReadable]

theorem valid_eventId {mountState eraseState : ConditionState} {ref : Option String} {at' : Int}
    {eventId : String} (hEvent : hub.eventId = some eventId)
    (h : (revokedResult payload intent hub mountState eraseState ref at').conditions.all
      RemovalCondition.valid) : eventId = "" ∨ lengthWithin 255 eventId := by
  by_cases hEmpty : eventId = ""
  · exact .inl hEmpty
  · right
    have hPos : 0 < eventId.length := by
      rw [Nat.pos_iff_ne_zero, ne_eq, String.length_eq_zero_iff]
      exact hEmpty
    simp only [revokedResult, removalConditions, hEvent, orElse, if_neg hEmpty,
      RemovalCondition.valid, List.all_cons, Bool.and_eq_true, Option.all_some,
      decide_eq_true_eq] at h
    rw [lengthWithin, decide_eq_true_eq]
    exact ⟨hPos, h.1⟩

theorem verdict_revokedResult_ne {mountState state : ConditionState} {ref ref' : Option String}
    {at' : Int} (h : state ≠ .unknown) :
    (revokedResult payload intent hub mountState .unknown ref at').verdict ≠
      (revokedResult payload intent hub mountState state ref' at').verdict := by
  intro hSame
  have hConditions := congrArg Verdict.conditions hSame
  simp only [DeviceRemovalResult.verdict, revokedResult, removalConditions, List.map_cons,
    List.map_nil, List.cons.injEq, Prod.mk.injEq, true_and, and_true] at hConditions
  exact h hConditions.symm

theorem observeRemoval_event_iff {mount : Option KernelMount} {eventId : String}
    (hController : isControllerId credential.controllerId)
    (hIntent : isIntentId credential.intentId) (hOwner : credential.businessOwnerId = payload.ownerId)
    (hWait : waitForMountRemoval payload.ownerId payload.deviceId around.deadline around.polls =
      some (.ok mount)) (hEvent : hub.eventId = some eventId)
    (hDirect : observeRemoval service.direct payload intent hub authorization around =
      some (.ok result)) :
    (∃ other, observeRemoval (service.brokered wire) payload intent hub (marker credential)
        around = some (.ok other) ∧ other.verdict = result.verdict) ↔
      (∃ failure, service.getDeviceControlOperation
          { deviceRef := intent.deviceRef, sourceClaimEventId := eventId, authorization } =
        .error failure) ∧ (eventId = "" → ':' ∈ payload.ownerId.toList) := by
  rw [observeRemoval_of_mount hWait, Option.some.injEq] at hDirect
  rw [observeRemoval_of_mount hWait, observeDeviceErase_brokered hController hIntent hEvent, hOwner]
  rcases observeDeviceErase_direct service intent authorization hEvent with
    ⟨failure, hFails, hUnknown⟩ | ⟨operation, state, ref, hObserved, hState, hKnown⟩
  · rw [hUnknown] at hDirect
    obtain ⟨rfl, hValid⟩ := validated_eq_ok_iff.mp hDirect
    by_cases hReadable : ':' ∈ payload.ownerId.toList ∨ lengthWithin 255 eventId
    · rw [if_pos hReadable]
      refine ⟨fun _ => ⟨⟨failure, hFails⟩, ?_⟩, fun _ => ⟨_, congrArg some hDirect, rfl⟩⟩
      rintro rfl
      exact hReadable.resolve_right (by decide)
    · rw [if_neg hReadable]
      constructor
      · rintro ⟨other, hOther, _⟩
        cases hOther
      · intro hHidden
        refine absurd ?_ hReadable
        rcases valid_eventId hEvent hValid with hEmpty | hLength
        · exact .inl (hHidden.2 hEmpty)
        · exact .inr hLength
  · rw [hState] at hDirect
    obtain ⟨rfl, _⟩ := validated_eq_ok_iff.mp hDirect
    refine ⟨?_, fun hHidden => ?_⟩
    · rintro ⟨other, hOther, hVerdict⟩
      split at hOther
      · cases hOther
      · rename_i hErase
        split at hErase
        · cases hErase
          obtain ⟨rfl, _⟩ := validated_eq_ok_iff.mp (Option.some.inj hOther)
          exact absurd hVerdict (verdict_revokedResult_ne hKnown)
        · cases hErase
    · obtain ⟨⟨failure, hFails⟩, _⟩ := hHidden
      rw [hObserved] at hFails
      cases hFails

theorem observeRemoval_brokered_iff (hController : isControllerId credential.controllerId)
    (hIntent : isIntentId credential.intentId) (hOwner : credential.businessOwnerId = payload.ownerId)
    (hDirect : observeRemoval service.direct payload intent hub authorization around =
      some (.ok result)) :
    (∃ other, observeRemoval (service.brokered wire) payload intent hub (marker credential)
        around = some (.ok other) ∧ other.verdict = result.verdict) ↔
      DeliveryUnreported service payload intent hub authorization around := by
  obtain ⟨_, ⟨failure, hWait, _⟩ | ⟨mount, _, _, hWait, _, _⟩⟩ := observeRemoval_ok hDirect
  · refine ⟨fun _ mount eventId hMount => ?_, fun _ => ⟨result, ?_, rfl⟩⟩
    · rw [hWait] at hMount
      cases hMount
    · rw [← hDirect, observeRemoval_of_failure hWait, observeRemoval_of_failure hWait]
  · cases hEvent : hub.eventId with
    | none =>
      refine ⟨fun _ _ eventId _ hSome => ?_, fun _ => ⟨result, ?_, rfl⟩⟩
      · rw [hEvent] at hSome
        cases hSome
      · rw [← hDirect, observeRemoval_of_mount hWait, observeRemoval_of_mount hWait]
        simp only [observeDeviceErase, hEvent]
    | some eventId =>
      rw [observeRemoval_event_iff hController hIntent hOwner hWait hEvent hDirect]
      constructor
      · intro hHidden other id _ hSome
        rw [hEvent] at hSome
        cases hSome
        exact hHidden
      · intro hHidden
        exact hHidden mount eventId hWait hEvent

end Observation

/-! ### What the contract and the digests give -/

/-- `Field(min_length=1, max_length=128, pattern=r"^[A-Za-z0-9._:-]+$")`. -/
def isReference (text : String) : Bool :=
  lengthWithin 128 text ∧ text.toList.all fun c => c.isAlphanum ∨ c ∈ ['.', '_', ':', '-']

def ControllerDeviceRemovalRequest.valid (payload : ControllerDeviceRemovalRequest) : Bool :=
  isReference payload.requestId ∧ lengthWithin 64 payload.ownerId ∧
    isControllerId payload.controllerId ∧ isReference payload.deviceId ∧
    lengthWithin 128 payload.reason

/-- `UUID.hex` is 32 lower-case hexadecimal digits. -/
def Digests.Hexadecimal (digests : Digests) : Prop :=
  ∀ space name, (digests.uuid5 space name).toList.length = 32 ∧
    (digests.uuid5 space name).toList.all isLowerHex

theorem isIntentId_removalIntentId {digests : Digests} (h : digests.Hexadecimal)
    (ingressRequestId ownerDomainId : String) :
    isIntentId (digests.removalIntentId ingressRequestId ownerDomainId) := by
  obtain ⟨hLength, hDigits⟩ := h intentNamespace
    ("eidolon-removal-intent-v1:" ++ ownerDomainId ++ ":" ++ ingressRequestId)
  have hLead : "removal-intent-".toList.length = 15 := by decide
  delta Digests.removalIntentId
  rw [isIntentId, decide_eq_true_eq, String.toList_append, List.take_left' hLead,
    List.drop_left' hLead]
  exact ⟨rfl, hLength, hDigits⟩

theorem lengthWithin_hubCommandId {digests : Digests} (h : digests.Hexadecimal)
    (intentId : String) (deviceRef : DeviceRef) :
    lengthWithin 128 (digests.hubCommandId intentId deviceRef) := by
  delta Digests.hubCommandId
  rw [lengthWithin, decide_eq_true_eq, String.length_append,
    ← String.length_toList (s := digests.uuid5 _ _), (h _ _).1]
  decide

theorem removalTarget_valid {digests : Digests} {payload : ControllerDeviceRemovalRequest}
    {intent : RemovalIntent} (hHex : digests.Hexadecimal) (hPayload : payload.valid)
    (hIntent : intent.intentId =
      digests.removalIntentId intent.ingressRequestId intent.ownerDomainId)
    (hCommand : intent.hubCommandId = digests.hubCommandId intent.intentId intent.deviceRef)
    (hReason : intent.reason = payload.reason) : (removalTarget payload intent).valid := by
  rw [ControllerDeviceRemovalRequest.valid, decide_eq_true_eq] at hPayload
  obtain ⟨_, hOwner, hController, _, hLength⟩ := hPayload
  rw [RevokeRemovalTarget.valid, decide_eq_true_eq]
  refine ⟨hController, ?_, hOwner, ?_, ?_⟩
  · simp only [removalTarget, hIntent]
    exact isIntentId_removalIntentId hHex _ _
  · simp only [removalTarget, hReason]
    exact hLength
  · simp only [removalTarget, hCommand]
    exact lengthWithin_hubCommandId hHex _ _

/-! ### Whole runs -/

/-- The run reaches none of the places at which the broker differs. -/
def PassesUnchanged (wire : Wire) (service : HubService)
    (payload : ControllerDeviceRemovalRequest) (intent : RemovalIntent) (authorization : String)
    (around : Surroundings) : Prop :=
  match intent.hubResult with
  | some hub => DeliveryUnreported service payload intent hub authorization around
  | none =>
    match service.revoke (revokeCall intent authorization) with
    | .error failure => failure.retryable = false
    | .ok hub => Crosses wire payload intent hub ∧
        DeliveryUnreported service payload intent hub authorization around

section Runs

variable {encoding : Encoding} {wire : Wire} {service : HubService}
  {payload : ControllerDeviceRemovalRequest} {intent : RemovalIntent} {authorization : String}
  {around : Surroundings} {ledger next : Ledger} {result : DeviceRemovalResult}
  {issue : CredentialCall → Except Raised String}

theorem verdict_refusedResult_iff {failure back : AuthorityFailure} (h : back.retryable = false) :
    (refusedResult payload intent back around.observedAt).verdict =
        (refusedResult payload intent failure around.observedAt).verdict ↔
      failure.retryable = false := by
  cases hRetry : failure.retryable with
  | false => simp [DeviceRemovalResult.verdict, refusedResult, h, hRetry]
  | true => simp [DeviceRemovalResult.verdict, refusedResult, h, hRetry]

theorem verdict_refusedResult_ne {committed : RemovalIntent} {hub : HubClaimRevocationResult}
    {failure : AuthorityFailure} {other : String}
    (hObserved : observeRemoval service.direct payload committed hub other around =
      some (.ok result)) :
    (refusedResult payload intent failure around.observedAt).verdict ≠ result.verdict := by
  intro hSame
  have hStage : CompletedStage.received = result.completedStage :=
    congrArg Verdict.completedStage hSame
  obtain ⟨_, ⟨_, _, rfl⟩ | ⟨_, _, _, _, _, rfl⟩⟩ := observeRemoval_ok hObserved
  · cases hStage
  · simp only [revokedResult] at hStage
    split at hStage <;> cases hStage

theorem revokeAndObserve_refused {failure : AuthorityFailure} {ports : HubPorts}
    (hNone : intent.hubResult = none)
    (hRevoke : ports.revoke (revokeCall intent authorization) = .error (.authority failure)) :
    revokeAndObserve encoding ports payload intent authorization around ledger =
      (some (validated (refusedResult payload intent failure around.observedAt)),
        ledgerAtAnswer encoding around ledger) := by
  unfold revokeAndObserve
  simp only [hNone, hRevoke]

theorem revokeAndObserve_failure_iff {failure : AuthorityFailure}
    (hValid : (removalTarget payload intent).valid)
    (hCredentials : service.hubCredentials = some issue)
    (hIssued : issue (credentialCall payload intent) = .ok authorization)
    (hNone : intent.hubResult = none)
    (hRevoke : service.revoke (revokeCall intent authorization) = .error failure)
    (hDirect : revokeAndObserve encoding service.direct payload intent authorization around
      ledger = (some (.ok result), next)) :
    (∃ other, revokeAndObserve encoding (service.brokered wire) payload intent
        (marker (credentialCall payload intent)) around ledger = (some (.ok other), next) ∧
      other.verdict = result.verdict) ↔ failure.retryable = false := by
  have hRaised : service.direct.revoke (revokeCall intent authorization) =
      .error (.authority failure) := by
    simp only [HubService.direct, hRevoke, raising]
  rw [revokeAndObserve_refused hNone hRaised, Prod.mk.injEq, Option.some.injEq,
    validated_eq_ok_iff] at hDirect
  obtain ⟨⟨rfl, hConditions⟩, rfl⟩ := hDirect
  rcases brokeredRevoke_cases wire hValid hCredentials hIssued with ⟨hub, hOk, _⟩ |
    ⟨back, hBack, hFinal, _⟩
  · rw [hRevoke] at hOk
    cases hOk
  · have hBlocked : revokeAndObserve encoding (service.brokered wire) payload intent
        (marker (credentialCall payload intent)) around ledger =
        (some (.ok (refusedResult payload intent back around.observedAt)),
          ledgerAtAnswer encoding around ledger) := by
      have hSent : validated (refusedResult payload intent back around.observedAt) = .ok _ :=
        validated_eq_ok_iff.mpr ⟨rfl, hConditions⟩
      rw [revokeAndObserve_refused hNone hBack, hSent]
    rw [hBlocked, ← verdict_refusedResult_iff hFinal]
    constructor
    · rintro ⟨other, hOther, hVerdict⟩
      cases hOther
      exact hVerdict
    · intro hVerdict
      exact ⟨_, rfl, hVerdict⟩

theorem revokeAndObserve_revocation_iff {hub : HubClaimRevocationResult}
    (hValid : (removalTarget payload intent).valid)
    (hCredentials : service.hubCredentials = some issue)
    (hIssued : issue (credentialCall payload intent) = .ok authorization)
    (hSound : ledger.Sound encoding.toDigests)
    (hStored : ledger.findRequest intent.ownerDomainId intent.ingressRequestId = some intent)
    (hNone : intent.hubResult = none)
    (hRevoke : service.revoke (revokeCall intent authorization) = .ok hub)
    (hDirect : revokeAndObserve encoding service.direct payload intent authorization around
      ledger = (some (.ok result), next)) :
    (∃ other, revokeAndObserve encoding (service.brokered wire) payload intent
        (marker (credentialCall payload intent)) around ledger = (some (.ok other), next) ∧
      other.verdict = result.verdict) ↔
      Crosses wire payload intent hub ∧
        DeliveryUnreported service payload intent hub authorization around := by
  have hReturned : service.direct.revoke (revokeCall intent authorization) = .ok hub := by
    simp only [HubService.direct, hRevoke, raising]
  cases hMarked : (ledgerAtAnswer encoding around ledger).markHubCommitted intent.intentId hub
      around.committedAt with
  | mk marked last =>
    cases marked with
    | error error =>
      simp [revokeAndObserve, hNone, hReturned, hMarked] at hDirect
    | ok committed =>
      rw [revokeAndObserve_committed hNone hReturned hMarked, Prod.mk.injEq] at hDirect
      obtain ⟨hObserved, rfl⟩ := hDirect
      rcases brokeredRevoke_cases wire hValid hCredentials hIssued with
        ⟨other, hOk, hCrosses, hBack⟩ | ⟨failure, hBack, _, hLost⟩
      · rw [hRevoke, Except.ok.injEq] at hOk
        subst hOk
        obtain ⟨row, hFound, rfl⟩ := Ledger.markHubCommitted_ok hMarked
        have hFrozen := Ledger.findIntent_run hSound hStored around.meanwhile hFound
        have hRef : row.deviceRef = intent.deviceRef :=
          congrArg (fun parts => parts.1.deviceRef) hFrozen
        have hIds := ids_of_valid hValid
        have hIff : (∃ other, observeRemoval (service.brokered wire) payload _ hub
            (marker (credentialCall payload intent)) around = some (.ok other) ∧
            other.verdict = result.verdict) ↔ _ :=
          observeRemoval_brokered_iff hIds.1 hIds.2 rfl hObserved
        have hUnreported : DeliveryUnreported service payload intent hub authorization around ↔
            DeliveryUnreported service payload
              (Ledger.committed hub around.committedAt row) hub authorization around := by
          simp only [DeliveryUnreported, Ledger.committed, hRef]
        rw [hUnreported, ← hIff, revokeAndObserve_committed hNone hBack hMarked]
        simp only [Prod.mk.injEq, and_true, hCrosses, true_and]
      · rw [revokeAndObserve_refused hNone hBack]
        constructor
        · rintro ⟨other, hOther, hVerdict⟩
          obtain ⟨rfl, _⟩ := validated_eq_ok_iff.mp (Option.some.inj (Prod.mk.inj hOther).1)
          exact absurd hVerdict (verdict_refusedResult_ne hObserved)
        · rintro ⟨hCrosses, _⟩
          exact absurd hCrosses (hLost hub hRevoke)

theorem revokeAndObserve_brokered_iff (hValid : (removalTarget payload intent).valid)
    (hCredentials : service.hubCredentials = some issue)
    (hIssued : issue (credentialCall payload intent) = .ok authorization)
    (hSound : ledger.Sound encoding.toDigests)
    (hStored : ledger.findRequest intent.ownerDomainId intent.ingressRequestId = some intent)
    (hDirect : revokeAndObserve encoding service.direct payload intent authorization around
      ledger = (some (.ok result), next)) :
    (∃ other, revokeAndObserve encoding (service.brokered wire) payload intent
        (marker (credentialCall payload intent)) around ledger = (some (.ok other), next) ∧
      other.verdict = result.verdict) ↔
      PassesUnchanged wire service payload intent authorization around := by
  unfold PassesUnchanged
  cases hHub : intent.hubResult with
  | none =>
    cases hRevoke : service.revoke (revokeCall intent authorization) with
    | error failure =>
      exact revokeAndObserve_failure_iff hValid hCredentials hIssued hHub hRevoke hDirect
    | ok hub =>
      exact revokeAndObserve_revocation_iff hValid hCredentials hIssued hSound hStored hHub
        hRevoke hDirect
  | some hub =>
    have hIds := ids_of_valid hValid
    simp only [revokeAndObserve, hHub, Prod.mk.injEq] at hDirect ⊢
    obtain ⟨hObserved, rfl⟩ := hDirect
    have hIff : (∃ other, observeRemoval (service.brokered wire) payload intent hub
        (marker (credentialCall payload intent)) around = some (.ok other) ∧
        other.verdict = result.verdict) ↔ _ :=
      observeRemoval_brokered_iff hIds.1 hIds.2 rfl hObserved
    rw [← hIff]
    simp only [and_true]

variable {workloadPrincipalId : String} {context : RemovalOwnerAuthorizationContext}

/-- On every ledger that a run can have left, and for every request the contract
admits, the brokered removal ends with the verdict and the ledger of the direct one
exactly if Hub's failure is not retryable, or its revocation crosses the broker and
leaves no delivery to report. -/
theorem brokered_removal_agrees_iff (wire : Wire) (history : List LedgerOp)
    (hHex : encoding.toDigests.Hexadecimal) (hPayload : payload.valid)
    (hDirect : removeControllerDevice encoding service.direct payload workloadPrincipalId context
      around (run (Ledger.apply encoding.toDigests) [] history) = (some (.ok result), next)) :
    (∃ other, removeControllerDevice encoding (service.brokered wire) payload
        workloadPrincipalId context around
        (run (Ledger.apply encoding.toDigests) [] history) = (some (.ok other), next) ∧
      other.verdict = result.verdict) ↔
    ∃ intent opened issue authorization,
      openIntent encoding payload workloadPrincipalId context around.startedAt
        (run (Ledger.apply encoding.toDigests) [] history) = (.ok intent, opened) ∧
      service.hubCredentials = some issue ∧
      issue (credentialCall payload intent) = .ok authorization ∧
      PassesUnchanged wire service payload intent authorization around := by
  obtain ⟨issue, intent, opened, authorization, hCredentials, hOpened, hIssued, hReturned⟩ :=
    removeControllerDevice_returned hDirect
  have hCredentials : service.hubCredentials = some issue := hCredentials
  have hBrokered : removeControllerDevice encoding (service.brokered wire) payload
      workloadPrincipalId context around (run (Ledger.apply encoding.toDigests) [] history) =
      revokeAndObserve encoding (service.brokered wire) payload intent
        (marker (credentialCall payload intent)) around opened :=
    removeControllerDevice_issued rfl hOpened rfl
  obtain ⟨hCreated, _⟩ := openIntent_ok_iff.mp hOpened
  obtain ⟨hStored, hContent, _⟩ := Ledger.getOrCreate_ok hCreated
  have hSound : opened.Sound encoding.toDigests := by
    have hBefore : Ledger.Sound encoding.toDigests _ := Ledger.sound_run history
    have hKept := Ledger.sound_getOrCreate hBefore
      (intentContent encoding payload workloadPrincipalId context) around.startedAt
    rwa [hCreated] at hKept
  have hRow := (Foundation.Table.lookup_mem hStored).1
  have hValid : (removalTarget payload intent).valid :=
    removalTarget_valid hHex hPayload (hSound.intentIds intent hRow)
      (hSound.commandIds intent hRow) (congrArg IntentContent.reason hContent)
  rw [← hContent] at hStored
  rw [hBrokered, revokeAndObserve_brokered_iff hValid hCredentials hIssued hSound hStored hReturned]
  constructor
  · intro hPasses
    exact ⟨intent, opened, issue, authorization, hOpened, hCredentials, hIssued, hPasses⟩
  · rintro ⟨_, _, _, _, hOther, hOtherCredentials, hOtherIssued, hPasses⟩
    rw [hOpened] at hOther
    cases hOther
    rw [hCredentials] at hOtherCredentials
    cases hOtherCredentials
    rw [hIssued] at hOtherIssued
    cases hOtherIssued
    exact hPasses

end Runs

namespace Sample

def failing (failure : AuthorityFailure) : HubService where
  hubCredentials := some fun _ => .ok "Bearer removal-intent"
  revoke _ := .error failure
  getDeviceControlOperation _ := .error failure

def wire : Wire where
  callBytes _ := 441
  replyBytes _ := 122
  connected _ := true
  received _ := true
  answered _ := true

def hubUnavailable : AuthorityFailure where
  authority := .hub
  kind := .unavailable
  detail := "Hub unavailable"
  statusCode := 503
  retryable := true

def staleGeneration : AuthorityFailure where
  authority := .hub
  kind := .conflict
  detail := "Claim generation is stale"
  statusCode := 409
  code := some "GENERATION_CONFLICT"

theorem openIntent_submission :
    openIntent encoding payload "eidolon-local-api" context (around []).startedAt [] =
      (.ok intent, [intent]) := by
  have hAccepts : Ledger.accepts [] intent := by decide
  exact openIntent_new rfl hAccepts rfl

theorem removeControllerDevice_failing {ports : HubPorts} {authorization : String}
    {issue : CredentialCall → Except Raised String} {failure : AuthorityFailure}
    (hCredentials : ports.hubCredentials = some issue)
    (hIssued : issue (credentialCall payload intent) = .ok authorization)
    (hRevoke : ports.revoke (revokeCall intent authorization) = .error (.authority failure)) :
    removeControllerDevice encoding ports payload "eidolon-local-api" context (around []) [] =
      (some (.ok (refusedResult payload intent failure (around []).observedAt)), [intent]) := by
  rw [removeControllerDevice_issued hCredentials openIntent_submission hIssued,
    revokeAndObserve_refused rfl hRevoke]
  rfl

/-- While Hub cannot be reached, the direct removal is to be retried and the
brokered one is blocked. -/
theorem retryable_failure_blocked_by_broker :
    ∃ direct brokered,
      removeControllerDevice encoding (failing hubUnavailable).direct payload
        "eidolon-local-api" context (around []) [] = (some (.ok direct), [intent]) ∧
      removeControllerDevice encoding ((failing hubUnavailable).brokered wire) payload
        "eidolon-local-api" context (around []) [] = (some (.ok brokered), [intent]) ∧
      direct.outcome = .accepted ∧ direct.recovery = .retryForwardSameRequestId ∧
      brokered.outcome = .blocked ∧ brokered.recovery = .operatorActionRequired := by
  have hRaised : ((failing hubUnavailable).brokered wire).revoke
      (revokeCall intent (marker (credentialCall payload intent))) =
      .error (.authority { hubUnavailable with retryable := false }) := by
    decide +kernel
  have hBrokered : removeControllerDevice encoding ((failing hubUnavailable).brokered wire)
      payload "eidolon-local-api" context (around []) [] = (some (.ok (refusedResult payload intent
        { hubUnavailable with retryable := false } (around []).observedAt)), [intent]) :=
    removeControllerDevice_failing rfl rfl hRaised
  exact ⟨_, _, removeControllerDevice_failing rfl rfl rfl, hBrokered, rfl, rfl, rfl, rfl⟩

theorem hexadecimal_encoding : encoding.toDigests.Hexadecimal := by
  intro space name
  change (uuid5 space name).toList.length = 32 ∧ (uuid5 space name).toList.all isLowerHex
  unfold uuid5
  split
  · decide
  · decide

theorem brokered_removal_agrees_iff_staleGeneration :
    ∃ other, removeControllerDevice encoding ((failing staleGeneration).brokered wire) payload
        "eidolon-local-api" context (around []) [] = (some (.ok other), [intent]) ∧
      other.verdict =
        (refusedResult payload intent staleGeneration (around []).observedAt).verdict := by
  have hDirect : removeControllerDevice encoding (failing staleGeneration).direct payload
      "eidolon-local-api" context (around []) [] =
      (some (.ok (refusedResult payload intent staleGeneration (around []).observedAt)),
        [intent]) := removeControllerDevice_failing rfl rfl rfl
  exact (brokered_removal_agrees_iff wire [] hexadecimal_encoding (by decide) hDirect).mpr
    ⟨intent, [intent], _, _, openIntent_submission, rfl, rfl, rfl⟩

end Sample

end EidolonAdmin.Removal
