import EidolonAdmin.Bootstrap.Domain
import EidolonAdmin.Removal.Mounts

/-! # The removal capability broker

The workflow reaches Hub through `BrokeredRemovalHubClient` and
`RemovalCapabilityBroker`. Every call and every failure is written as a frame and
read back; what the frames lose is what tells a brokered removal from a direct
one. A frame carries its value unchanged or is not readable; how long it is and
whether it comes in time are parameters. The broker is seen by a peer it has
authenticated.
-/

namespace EidolonAdmin.Removal

open Foundation.Transition
open Bootstrap (isLowerHex isControllerId)

/-- The Admin process: its credential issuer and its Hub client. -/
structure HubService where
  hubCredentials : Option (CredentialCall → Except Raised String)
  revoke : RevokeCall → Except AuthorityFailure HubClaimRevocationResult
  getDeviceControlOperation :
    ObserveCall → Except AuthorityFailure DeviceLocalEraseOperationStatus

def raising {α : Type} : Except AuthorityFailure α → Except Raised α
  | .ok value => .ok value
  | .error failure => .error (.authority failure)

def HubService.direct (service : HubService) : HubPorts where
  hubCredentials := service.hubCredentials
  revoke call := raising (service.revoke call)
  getDeviceControlOperation call := raising (service.getDeviceControlOperation call)

structure RevokeRemovalTarget where
  controllerId : String
  intentId : String
  deviceRef : DeviceRef
  businessOwnerId : String
  reason : String
  commandId : String
deriving DecidableEq, Repr

structure ObserveRemovalDelivery where
  controllerId : String
  intentId : String
  deviceRef : DeviceRef
  sourceClaimEventId : String
deriving DecidableEq, Repr

inductive RemovalCapabilityCall where
  | ready
  | revoke (target : RevokeRemovalTarget)
  | observe (delivery : ObserveRemovalDelivery)
deriving DecidableEq, Repr

/-- `Field(min_length=1, max_length=bound)`. -/
def lengthWithin (bound : Nat) (text : String) : Bool := 1 ≤ text.length ∧ text.length ≤ bound

/-- `^removal-intent-[0-9a-f]{32}$`. -/
def isIntentId (value : String) : Bool :=
  value.toList.take 15 = "removal-intent-".toList ∧ (value.toList.drop 15).length = 32 ∧
    (value.toList.drop 15).all isLowerHex

def RevokeRemovalTarget.valid (target : RevokeRemovalTarget) : Bool :=
  isControllerId target.controllerId ∧ isIntentId target.intentId ∧
    lengthWithin 64 target.businessOwnerId ∧ lengthWithin 128 target.reason ∧
    lengthWithin 128 target.commandId

def ObserveRemovalDelivery.valid (delivery : ObserveRemovalDelivery) : Bool :=
  isControllerId delivery.controllerId ∧ isIntentId delivery.intentId ∧
    lengthWithin 255 delivery.sourceClaimEventId

structure RemovalCapabilityProblem where
  kind : FailureKind
  detail : String
  statusCode : Int
deriving DecidableEq, Repr

def RemovalCapabilityProblem.valid (problem : RemovalCapabilityProblem) : Bool :=
  lengthWithin 512 problem.detail ∧ 400 ≤ problem.statusCode ∧ problem.statusCode ≤ 599

inductive RemovalCapabilityReply where
  | ready
  | revocation (result : HubClaimRevocationResult)
  | delivery (operation : DeviceLocalEraseOperationStatus)
  | problem (problem : RemovalCapabilityProblem)
deriving DecidableEq, Repr

/-- The lengths of the JSON bodies, and what comes through in time: the connection with the call on
it, the call at the broker, and the broker's answer at the client. -/
structure Wire where
  callBytes : RemovalCapabilityCall → Nat
  replyBytes : RemovalCapabilityReply → Nat
  connected : RemovalCapabilityCall → Bool
  received : RemovalCapabilityCall → Bool
  answered : RemovalCapabilityCall → Bool

def maxFrameBytes : Nat := 256 * 1024

def framed (bytes : Nat) : Bool := 0 < bytes ∧ bytes ≤ maxFrameBytes

/-- The part of `_dispatch` in front of the Hub call. -/
def withCredential (service : HubService)
    (issueFor : (CredentialCall → Except Raised String) → Except Raised String)
    (next : String → Except Raised RemovalCapabilityReply) :
    Except Raised RemovalCapabilityReply :=
  match service.hubCredentials with
  | none =>
    .error (.authority { authority := .hub, kind := .configuration, statusCode := 503
                         detail := "Hub issuer unavailable" })
  | some issue =>
    match issueFor issue with
    | .error raised => .error raised
    | .ok authorization => next authorization

def dispatch (service : HubService) :
    RemovalCapabilityCall → Except Raised RemovalCapabilityReply
  | .ready => .ok .ready
  | .revoke target =>
    withCredential service
      (fun issue => issue
        { controllerId := target.controllerId, intentId := target.intentId
          deviceRef := target.deviceRef, businessOwnerId := target.businessOwnerId })
      fun authorization =>
        match service.revoke
          { deviceRef := target.deviceRef, reason := target.reason
            commandId := target.commandId, correlationId := target.intentId, authorization } with
        | .error failure => .error (.authority failure)
        | .ok result => .ok (.revocation result)
  | .observe delivery =>
    withCredential service
      -- This call has no `business_owner_id`, which the arguments of the issuer read.
      (fun _ => .error .attribute)
      fun authorization =>
        match service.getDeviceControlOperation
          { deviceRef := delivery.deviceRef
            sourceClaimEventId := delivery.sourceClaimEventId, authorization } with
        | .error failure => .error (.authority failure)
        | .ok operation => .ok (.delivery operation)

def problemOf : Raised → RemovalCapabilityProblem
  | .authority failure =>
    { kind := failure.kind, detail := failure.detail, statusCode := failure.statusCode }
  | .value _ | .validation =>
    { kind := .invalidRequest, detail := "Removal capability request is invalid"
      statusCode := 422 }
  | .key _ | .integrity | .overflow | .attribute | .assertion =>
    { kind := .unavailable, detail := "Removal capability broker is unavailable"
      statusCode := 503 }

/-- The answer to a call that is not read within five seconds: `TimeoutError` is an `OSError`. -/
def authenticationFailed : RemovalCapabilityProblem where
  kind := .unauthorized
  detail := "Lifecycle Workflow authentication failed"
  statusCode := 401

def writtenProblem (wire : Wire) (problem : RemovalCapabilityProblem) : Option RemovalCapabilityReply :=
  if problem.valid ∧ framed (wire.replyBytes (.problem problem)) then some (.problem problem) else none

/-- `_handle`: the reply, if one is written. -/
def handle (wire : Wire) (service : HubService) (call : RemovalCapabilityCall) :
    Option RemovalCapabilityReply :=
  if wire.received call = false then writtenProblem wire authenticationFailed
  else
    match dispatch service call with
    | .ok reply => if framed (wire.replyBytes reply) then some reply else none
    | .error raised => writtenProblem wire (problemOf raised)

def brokerUnavailable : AuthorityFailure where
  authority := .hub
  kind := .unavailable
  detail := "Removal capability broker is unavailable"
  statusCode := 503

/-- `_exchange`: what does not come through, or not in time, and a problem, which comes back as a
failure of its kind, detail and status. -/
def exchange (wire : Wire) (service : HubService) (call : RemovalCapabilityCall) :
    Except Raised RemovalCapabilityReply :=
  if wire.connected call = false ∨ framed (wire.callBytes call) = false then
    .error (.authority brokerUnavailable)
  else if wire.answered call = false then .error (.authority brokerUnavailable)
  else
    match handle wire service call with
    | none => .error (.authority brokerUnavailable)
    | some (.problem problem) =>
      .error (.authority
        { authority := .hub, kind := problem.kind, detail := problem.detail
          statusCode := problem.statusCode })
    | some reply => .ok reply

/-- The marker that `BrokerMarkerIssuer` hands out instead of a credential. -/
def marker (call : CredentialCall) : String :=
  "broker:" ++ call.controllerId ++ ":" ++ call.intentId ++ ":" ++ call.businessOwnerId

def invalidMarker : AuthorityFailure where
  authority := .hub
  kind := .configuration
  detail := "Broker marker is invalid"
  statusCode := 503

def brokerMarker (text : String) : Except AuthorityFailure (String × String × String) :=
  match text.toList.splitOn ':' with
  | [lead, controllerId, intentId, businessOwnerId] =>
    if lead = "broker".toList then
      .ok (String.ofList controllerId, String.ofList intentId, String.ofList businessOwnerId)
    else .error invalidMarker
  | _ => .error invalidMarker

def revocationOf : Except Raised RemovalCapabilityReply → Except Raised HubClaimRevocationResult
  | .error raised => .error raised
  | .ok (.revocation result) => .ok result
  | .ok _ => .error .assertion

def deliveryOf :
    Except Raised RemovalCapabilityReply → Except Raised DeviceLocalEraseOperationStatus
  | .error raised => .error raised
  | .ok (.delivery operation) => .ok operation
  | .ok _ => .error .assertion

def brokeredRevoke (wire : Wire) (service : HubService) (call : RevokeCall) :
    Except Raised HubClaimRevocationResult :=
  match brokerMarker call.authorization with
  | .error failure => .error (.authority failure)
  | .ok (controllerId, _, businessOwnerId) =>
    if RevokeRemovalTarget.valid
        { controllerId, intentId := call.correlationId, deviceRef := call.deviceRef
          businessOwnerId, reason := call.reason, commandId := call.commandId } = false then
      .error .validation
    else
      revocationOf (exchange wire service (.revoke
        { controllerId, intentId := call.correlationId, deviceRef := call.deviceRef
          businessOwnerId, reason := call.reason, commandId := call.commandId }))

def brokeredObserve (wire : Wire) (service : HubService) (call : ObserveCall) :
    Except Raised DeviceLocalEraseOperationStatus :=
  match brokerMarker call.authorization with
  | .error failure => .error (.authority failure)
  | .ok (controllerId, intentId, _) =>
    if ObserveRemovalDelivery.valid
        { controllerId, intentId, deviceRef := call.deviceRef
          sourceClaimEventId := call.sourceClaimEventId } = false then
      .error .validation
    else
      deliveryOf (exchange wire service (.observe
        { controllerId, intentId, deviceRef := call.deviceRef
          sourceClaimEventId := call.sourceClaimEventId }))

def HubService.brokered (wire : Wire) (service : HubService) : HubPorts where
  hubCredentials := some fun call => .ok (marker call)
  revoke := brokeredRevoke wire service
  getDeviceControlOperation := brokeredObserve wire service

/-! ### The marker -/

theorem ne_colon_of_isLowerHex {c : Char} (h : isLowerHex c = true) : c ≠ ':' := by
  rintro rfl
  exact absurd h (by decide)

theorem colon_notMem_of_hex {value : String} {n : Nat} (hLead : ':' ∉ value.toList.take n)
    (hRest : (value.toList.drop n).all isLowerHex = true) : ':' ∉ value.toList := by
  intro hMem
  rw [← List.take_append_drop n value.toList] at hMem
  rcases List.mem_append.mp hMem with hTake | hDrop
  · exact hLead hTake
  · exact ne_colon_of_isLowerHex (List.all_eq_true.mp hRest ':' hDrop) rfl

theorem colon_notMem_controllerId {value : String} (h : isControllerId value = true) :
    ':' ∉ value.toList := by
  simp only [isControllerId, Bool.and_eq_true, beq_iff_eq] at h
  refine colon_notMem_of_hex ?_ h.2
  rw [h.1.1]
  decide

theorem colon_notMem_intentId {value : String} (h : isIntentId value = true) :
    ':' ∉ value.toList := by
  rw [isIntentId, decide_eq_true_eq] at h
  refine colon_notMem_of_hex ?_ h.2.2
  rw [h.1]
  decide

theorem splitOn_marker {call : CredentialCall} (hController : ':' ∉ call.controllerId.toList)
    (hIntent : ':' ∉ call.intentId.toList) :
    (marker call).toList.splitOn ':' = "broker".toList :: call.controllerId.toList ::
      call.intentId.toList :: call.businessOwnerId.toList.splitOn ':' := by
  have hText : (marker call).toList = "broker".toList ++ ':' :: (call.controllerId.toList ++
      ':' :: (call.intentId.toList ++ ':' :: call.businessOwnerId.toList)) := by
    have hLead : "broker:".toList = "broker".toList ++ [':'] := by decide
    have hColon : ":".toList = [':'] := by decide
    simp only [marker, String.toList_append, hLead, hColon, List.append_assoc, List.cons_append,
      List.nil_append]
  have hBroker : ':' ∉ "broker".toList := by decide
  rw [hText, List.splitOn_append_cons_self_of_not_mem hBroker,
    List.splitOn_append_cons_self_of_not_mem hController,
    List.splitOn_append_cons_self_of_not_mem hIntent]

theorem brokerMarker_marker {call : CredentialCall} (hController : ':' ∉ call.controllerId.toList)
    (hIntent : ':' ∉ call.intentId.toList) :
    brokerMarker (marker call) =
      if ':' ∈ call.businessOwnerId.toList then .error invalidMarker
      else .ok (call.controllerId, call.intentId, call.businessOwnerId) := by
  unfold brokerMarker
  rw [splitOn_marker hController hIntent]
  by_cases hOwner : ':' ∈ call.businessOwnerId.toList
  · rw [if_pos hOwner]
    obtain ⟨before, after, hSplit⟩ := List.append_of_mem hOwner
    have hFirst := List.length_pos_of_ne_nil (List.splitOn_ne_nil ':' before)
    have hSecond := List.length_pos_of_ne_nil (List.splitOn_ne_nil ':' after)
    rw [hSplit, List.splitOn_append_cons_self]
    split
    · rename_i hFour
      have hLength := congrArg List.length hFour
      simp only [List.length_cons, List.length_append, List.length_nil] at hLength
      omega
    · rfl
  · rw [if_neg hOwner, List.splitOn_eq_singleton hOwner]
    simp

/-! ### The calls through the broker -/

section Broker

variable {wire : Wire} {service : HubService}

/-- What comes back of a problem, and where nothing comes back, is never retryable. -/
theorem exchange_final {call : RemovalCapabilityCall} {problem : RemovalCapabilityProblem}
    (h : handle wire service call = writtenProblem wire problem) :
    ∃ failure, exchange wire service call = .error (.authority failure) ∧
      failure.retryable = false := by
  unfold exchange
  split
  · exact ⟨brokerUnavailable, rfl, rfl⟩
  · split
    · exact ⟨brokerUnavailable, rfl, rfl⟩
    · rw [h]
      unfold writtenProblem
      by_cases hWritten : problem.valid ∧ framed (wire.replyBytes (.problem problem))
      · simp only [if_pos hWritten]
        exact ⟨_, rfl, rfl⟩
      · simp only [if_neg hWritten]
        exact ⟨brokerUnavailable, rfl, rfl⟩

theorem exchange_error (wire : Wire) {call : RemovalCapabilityCall} {raised : Raised}
    (h : dispatch service call = .error raised) :
    ∃ failure, exchange wire service call = .error (.authority failure) ∧
      failure.retryable = false := by
  cases hReceived : wire.received call with
  | false => exact exchange_final (if_pos hReceived)
  | true =>
    have hHandle : handle wire service call = writtenProblem wire (problemOf raised) := by
      simp only [handle, hReceived, h]
      rfl
    exact exchange_final hHandle

/-- The call comes to the broker and the reply to the client, both in time and within a frame. -/
def Wire.Carries (wire : Wire) (call : RemovalCapabilityCall) (reply : RemovalCapabilityReply) : Prop :=
  wire.connected call ∧ framed (wire.callBytes call) ∧ wire.received call ∧ wire.answered call ∧
    framed (wire.replyBytes reply)

theorem exchange_revocation {call : RemovalCapabilityCall} {result : HubClaimRevocationResult}
    (h : dispatch service call = .ok (.revocation result)) (hCarries : wire.Carries call (.revocation result)) :
    exchange wire service call = .ok (.revocation result) := by
  obtain ⟨hConnected, hCall, hReceived, hAnswered, hReply⟩ := hCarries
  simp [exchange, handle, h, hConnected, hCall, hReceived, hAnswered, hReply]

theorem exchange_lost {call : RemovalCapabilityCall} {result : HubClaimRevocationResult}
    (h : dispatch service call = .ok (.revocation result)) (hLost : ¬ wire.Carries call (.revocation result)) :
    ∃ failure, exchange wire service call = .error (.authority failure) ∧
      failure.retryable = false := by
  cases hReceived : wire.received call with
  | false => exact exchange_final (if_pos hReceived)
  | true =>
    refine ⟨brokerUnavailable, ?_, rfl⟩
    have hHandle : handle wire service call =
        if framed (wire.replyBytes (.revocation result)) then some (.revocation result) else none := by
      simp only [handle, hReceived, h]
      rfl
    unfold exchange
    split
    case isTrue => rfl
    case isFalse hOpen =>
      split
      case isTrue => rfl
      case isFalse hAnswered =>
        rw [not_or, Bool.not_eq_false, Bool.not_eq_false] at hOpen
        rw [Bool.not_eq_false] at hAnswered
        rw [hHandle, if_neg fun hReply => hLost ⟨hOpen.1, hOpen.2, hReceived, hAnswered, hReply⟩]

theorem dispatch_observe (service : HubService) (delivery : ObserveRemovalDelivery) :
    ∃ raised, dispatch service (.observe delivery) = .error raised := by
  unfold dispatch withCredential
  cases service.hubCredentials with
  | none => exact ⟨_, rfl⟩
  | some issue => exact ⟨_, rfl⟩

variable {credential : CredentialCall}

theorem brokeredObserve_failure {call : ObserveCall} (hMarker : call.authorization = marker credential)
    (hController : isControllerId credential.controllerId) (hIntent : isIntentId credential.intentId)
    (h : ':' ∈ credential.businessOwnerId.toList ∨ lengthWithin 255 call.sourceClaimEventId) :
    ∃ failure, brokeredObserve wire service call = .error (.authority failure) := by
  unfold brokeredObserve
  rw [hMarker, brokerMarker_marker (colon_notMem_controllerId hController)
    (colon_notMem_intentId hIntent)]
  by_cases hOwner : ':' ∈ credential.businessOwnerId.toList
  · rw [if_pos hOwner]
    exact ⟨invalidMarker, rfl⟩
  · have hLength := h.resolve_left hOwner
    obtain ⟨raised, hRaised⟩ := dispatch_observe service
      { controllerId := credential.controllerId, intentId := credential.intentId
        deviceRef := call.deviceRef, sourceClaimEventId := call.sourceClaimEventId }
    obtain ⟨failure, hFailure, _⟩ := exchange_error wire hRaised
    rw [if_neg hOwner]
    simp only [ObserveRemovalDelivery.valid, hController, hIntent, hLength, hFailure]
    exact ⟨failure, rfl⟩

theorem brokeredObserve_invalid {call : ObserveCall} (hMarker : call.authorization = marker credential)
    (hController : isControllerId credential.controllerId) (hIntent : isIntentId credential.intentId)
    (hOwner : ':' ∉ credential.businessOwnerId.toList)
    (hLength : lengthWithin 255 call.sourceClaimEventId = false) :
    brokeredObserve wire service call = .error .validation := by
  unfold brokeredObserve
  rw [hMarker, brokerMarker_marker (colon_notMem_controllerId hController)
    (colon_notMem_intentId hIntent), if_neg hOwner]
  simp [ObserveRemovalDelivery.valid, hLength]

variable {payload : ControllerDeviceRemovalRequest} {intent : RemovalIntent}

def removalTarget (payload : ControllerDeviceRemovalRequest) (intent : RemovalIntent) :
    RevokeRemovalTarget where
  controllerId := payload.controllerId
  intentId := intent.intentId
  deviceRef := intent.deviceRef
  businessOwnerId := payload.ownerId
  reason := intent.reason
  commandId := intent.hubCommandId

/-- Hub's revocation comes back through the broker: the marker can be read, and the
call and the reply come through. -/
def Crosses (wire : Wire) (payload : ControllerDeviceRemovalRequest) (intent : RemovalIntent)
    (hub : HubClaimRevocationResult) : Prop :=
  ':' ∉ payload.ownerId.toList ∧
    wire.Carries (.revoke (removalTarget payload intent)) (.revocation hub)

theorem dispatch_revoke {issue : CredentialCall → Except Raised String} {authorization : String}
    (hCredentials : service.hubCredentials = some issue)
    (hIssued : issue (credentialCall payload intent) = .ok authorization) :
    dispatch service (.revoke (removalTarget payload intent)) =
      match service.revoke (revokeCall intent authorization) with
      | .error failure => .error (.authority failure)
      | .ok result => .ok (.revocation result) := by
  unfold credentialCall at hIssued
  simp only [dispatch, withCredential, hCredentials, removalTarget, hIssued, revokeCall]

theorem ids_of_valid (h : (removalTarget payload intent).valid) :
    isControllerId payload.controllerId ∧ isIntentId intent.intentId := by
  rw [RevokeRemovalTarget.valid, decide_eq_true_eq] at h
  exact ⟨h.1, h.2.1⟩

theorem brokeredRevoke_eq (wire : Wire) (hValid : (removalTarget payload intent).valid) :
    brokeredRevoke wire service (revokeCall intent (marker (credentialCall payload intent))) =
      if ':' ∈ payload.ownerId.toList then .error (.authority invalidMarker)
      else revocationOf (exchange wire service (.revoke (removalTarget payload intent))) := by
  have hIds := ids_of_valid hValid
  have hMarker : brokerMarker (marker (credentialCall payload intent)) =
      if ':' ∈ payload.ownerId.toList then .error invalidMarker
      else .ok (payload.controllerId, intent.intentId, payload.ownerId) :=
    brokerMarker_marker (colon_notMem_controllerId hIds.1) (colon_notMem_intentId hIds.2)
  have hSent : ¬ (removalTarget payload intent).valid = false := by simp [hValid]
  simp only [brokeredRevoke, revokeCall, hMarker]
  by_cases hOwner : ':' ∈ payload.ownerId.toList
  · rw [if_pos hOwner, if_pos hOwner]
  · rw [if_neg hOwner, if_neg hOwner]
    exact if_neg hSent

theorem brokeredRevoke_cases {issue : CredentialCall → Except Raised String}
    {authorization : String} (wire : Wire) (hValid : (removalTarget payload intent).valid)
    (hCredentials : service.hubCredentials = some issue)
    (hIssued : issue (credentialCall payload intent) = .ok authorization) :
    (∃ hub, service.revoke (revokeCall intent authorization) = .ok hub ∧
      Crosses wire payload intent hub ∧
      (service.brokered wire).revoke
        (revokeCall intent (marker (credentialCall payload intent))) = .ok hub) ∨
    (∃ failure, (service.brokered wire).revoke
        (revokeCall intent (marker (credentialCall payload intent))) =
          .error (.authority failure) ∧ failure.retryable = false ∧
      ∀ hub, service.revoke (revokeCall intent authorization) = .ok hub →
        ¬ Crosses wire payload intent hub) := by
  simp only [HubService.brokered]
  rw [brokeredRevoke_eq wire hValid]
  by_cases hOwner : ':' ∈ payload.ownerId.toList
  · rw [if_pos hOwner]
    exact .inr ⟨invalidMarker, rfl, rfl, fun _ _ hCrosses => hCrosses.1 hOwner⟩
  · rw [if_neg hOwner]
    have hDispatch := dispatch_revoke hCredentials hIssued
    cases hRevoke : service.revoke (revokeCall intent authorization) with
    | error failure =>
      rw [hRevoke] at hDispatch
      obtain ⟨back, hBack, hFinal⟩ := exchange_error wire hDispatch
      rw [hBack]
      exact .inr ⟨back, rfl, hFinal, nofun⟩
    | ok hub =>
      rw [hRevoke] at hDispatch
      by_cases hCarries : wire.Carries (.revoke (removalTarget payload intent)) (.revocation hub)
      · rw [exchange_revocation hDispatch hCarries]
        exact .inl ⟨hub, rfl, ⟨hOwner, hCarries⟩, rfl⟩
      · obtain ⟨back, hBack, hFinal⟩ := exchange_lost hDispatch hCarries
        rw [hBack]
        refine .inr ⟨back, rfl, hFinal, ?_⟩
        intro other hOther hCrosses
        cases hOther
        exact hCarries hCrosses.2

end Broker

end EidolonAdmin.Removal
