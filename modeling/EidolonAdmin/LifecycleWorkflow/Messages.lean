import EidolonAdmin.Foundation.Model
import EidolonAdmin.Removal.Contracts

/-! # The messages of the lifecycle workflow

What the Local API, the workflow and the removal capability send one another, each model with its
fields in the order in which they are declared and with the constraints that validation checks.
-/

namespace EidolonAdmin.LifecycleWorkflow

open Foundation
open Text (ofChar ofString Bounded)

/-- The models of the SDK that the messages carry, `datetime`, whose values are those that ISO 8601
can write, and what validation takes for an integer or a truth value that is none. In an SDK model
every field that may be none is none by default, so that validation undoes `exclude_none`. -/
structure Sdk where
  deviceRef : Model
  ownerAuthorizationContext : Model
  hubClaimRevocationResult : Model
  deviceLocalEraseOperationStatus : Model
  refusal : Model
  datetime : Model
  laxInt : Document → Option Int
  laxBool : Document → Option Bool

/-! ## Constraints -/

def isLetter (point : CodePoint) : Bool :=
  (ofChar 'A' ≤ point && point ≤ ofChar 'Z') || (ofChar 'a' ≤ point && point ≤ ofChar 'z')

def isDigit (point : CodePoint) : Bool := ofChar '0' ≤ point && point ≤ ofChar '9'

/-- `^[A-Za-z0-9._:-]+$` with `min_length=1` and `max_length=128` -/
def Token (text : Text) : Prop :=
  Bounded 1 128 text ∧ ∀ point ∈ text, (isLetter point || isDigit point || (ofString "._:-").contains point) = true

instance : DecidablePred Token := fun _ => inferInstanceAs (Decidable (_ ∧ _))

/-- `^head[0-9a-f]{digits}$` -/
def Digest (head : String) (digits : Nat) (text : Text) : Prop :=
  match (ofString head).isPrefixOf? text with
  | some rest => rest.length = digits ∧ ∀ point ∈ rest, (isDigit point || (ofChar 'a' ≤ point && point ≤ ofChar 'f')) = true
  | none => False

instance (head : String) (digits : Nat) : DecidablePred (Digest head digits) := fun text => by
  unfold Digest
  split <;> infer_instance

abbrev BoundedText (least most : Nat) := { text : Text // Bounded least most text }

abbrev ControllerId := { text : Text // Digest "ectrl-" 20 text }

abbrev IntentId := { text : Text // Digest "removal-intent-" 32 text }

/-! ## Removals -/

structure ControllerDeviceRemovalRequest where
  requestId : { text : Text // Token text }
  ownerId : BoundedText 1 64
  controllerId : ControllerId
  deviceId : { text : Text // Token text }
  reason : BoundedText 1 128

def ControllerDeviceRemovalRequest.model : Model :=
  .refine ControllerDeviceRemovalRequest
    (.object [
      .required "contract_version" (.constant "1"),
      .required "request_id" (.text Token),
      .required "owner_id" (.text (Bounded 1 64)),
      .required "controller_id" (.text (Digest "ectrl-" 20)),
      .required "device_id" (.text Token),
      .withDefault "reason" (.text (Bounded 1 128)) ⟨ofString "owner-removed", by decide⟩] (by decide))
    (fun request =>
      ((), request.requestId, request.ownerId, request.controllerId, request.deviceId, request.reason, ()))
    (fun (_, requestId, ownerId, controllerId, deviceId, reason, _) =>
      some ⟨requestId, ownerId, controllerId, deviceId, reason⟩)
    fun _ => rfl

section Messages

variable (sdk : Sdk)

structure RemovalOwnerAuthorizationContext where
  controllerGrantGeneration : { n : Int // 0 ≤ n }
  resetEpoch : { n : Int // 0 ≤ n }
  ownerAuthorizationContext : sdk.ownerAuthorizationContext.Carrier

def RemovalOwnerAuthorizationContext.model : Model :=
  .refine (RemovalOwnerAuthorizationContext sdk)
    (.object [
      .withDefault "contract_version" (.constant "1") (),
      .withDefault "issuer_workload_principal_id" (.constant "eidolon-local-api") (),
      .withDefault "presenter_workload_principal_id" (.constant "eidolon-lifecycle-workflow") (),
      .required "controller_grant_generation" (.integer sdk.laxInt (0 ≤ ·)),
      .required "reset_epoch" (.integer sdk.laxInt (0 ≤ ·)),
      .required "owner_authorization_context" sdk.ownerAuthorizationContext]
      (by simp only [List.map, Model.Field.name]; decide))
    (fun context =>
      ((), (), (), context.controllerGrantGeneration, context.resetEpoch, context.ownerAuthorizationContext, ()))
    (fun (_, _, _, controllerGrantGeneration, resetEpoch, ownerAuthorizationContext, _) =>
      some ⟨controllerGrantGeneration, resetEpoch, ownerAuthorizationContext⟩)
    fun _ => rfl

structure LifecycleRemovalCall where
  payload : ControllerDeviceRemovalRequest
  authorizationContext : RemovalOwnerAuthorizationContext sdk

def LifecycleRemovalCall.model : Model :=
  .refine (LifecycleRemovalCall sdk)
    (.object [
      .withDefault "operation" (.constant "lifecycle.removal.create-or-resume") (),
      .withDefault "contract_version" (.constant "1") (),
      .required "payload" ControllerDeviceRemovalRequest.model,
      .required "authorization_context" (RemovalOwnerAuthorizationContext.model sdk)]
      (by simp only [List.map, Model.Field.name]; decide))
    (fun call => ((), (), call.payload, call.authorizationContext, ()))
    (fun (_, _, payload, authorizationContext, _) => some ⟨payload, authorizationContext⟩)
    fun _ => rfl

/-! ## Results -/

def authorityName : Removal.Authority → String
  | .directory => "directory"
  | .data => "data"
  | .hub => "hub"
  | .kernel => "kernel"
  | .memory => "memory"
  | .agent => "agent"

def authority : Model :=
  .literal [.directory, .data, .hub, .kernel, .memory, .agent] authorityName
    (fun value => by cases value <;> decide) (by decide)

def failureKindName : Removal.FailureKind → String
  | .unauthorized => "unauthorized"
  | .forbidden => "forbidden"
  | .notFound => "not_found"
  | .conflict => "conflict"
  | .invalidRequest => "invalid_request"
  | .unavailable => "unavailable"
  | .runtimeMissing => "runtime_missing"
  | .upstreamFailure => "upstream_failure"
  | .contractViolation => "contract_violation"
  | .configuration => "configuration"

def failureKind : Model :=
  .literal [.unauthorized, .forbidden, .notFound, .conflict, .invalidRequest, .unavailable, .runtimeMissing,
    .upstreamFailure, .contractViolation, .configuration] failureKindName
    (fun value => by cases value <;> decide) (by decide)

structure WorkflowFailure where
  authority : Removal.Authority
  kind : Removal.FailureKind
  detail : Text
  refusal : sdk.refusal.Carrier
  code : Option Text
  upstreamStatus : Option Int
  retryable : Bool

def WorkflowFailure.model : Model :=
  .refine (WorkflowFailure sdk)
    (.object [
      .required "authority" LifecycleWorkflow.authority,
      .required "kind" failureKind,
      .required "detail" .string,
      .required "refusal" sdk.refusal,
      .optional "code" .string,
      .optional "upstream_status" (.number sdk.laxInt),
      .required "retryable" (.boolean sdk.laxBool)] (by simp only [List.map, Model.Field.name]; decide))
    (fun failure =>
      (failure.authority, failure.kind, failure.detail, failure.refusal, failure.code, failure.upstreamStatus,
        failure.retryable, ()))
    (fun (authority, kind, detail, refusal, code, upstreamStatus, retryable, _) =>
      some ⟨authority, kind, detail, refusal, code, upstreamStatus, retryable⟩)
    fun _ => rfl

inductive StepName where
  | hubApproval
  | kernelMount
  | bodyAssignment
  | hubRevocation

def stepNameName : StepName → String
  | .hubApproval => "hub_approval"
  | .kernelMount => "kernel_mount"
  | .bodyAssignment => "body_assignment"
  | .hubRevocation => "hub_revocation"

def stepName : Model :=
  .literal [.hubApproval, .kernelMount, .bodyAssignment, .hubRevocation] stepNameName
    (fun value => by cases value <;> simp) (by decide)

inductive StepState where
  | committed
  | replayed
  | failed
  | notRequested
  | notAttempted

def stepStateName : StepState → String
  | .committed => "committed"
  | .replayed => "replayed"
  | .failed => "failed"
  | .notRequested => "not_requested"
  | .notAttempted => "not_attempted"

def stepState : Model :=
  .literal [.committed, .replayed, .failed, .notRequested, .notAttempted] stepStateName
    (fun value => by cases value <;> simp) (by decide)

structure WorkflowStep where
  name : StepName
  state : StepState
  requestId : Option Text
  revision : Option Int
  failure : Option (WorkflowFailure sdk)

def WorkflowStep.model : Model :=
  .refine (WorkflowStep sdk)
    (.object [
      .required "name" stepName,
      .required "state" stepState,
      .optional "request_id" .string,
      .optional "revision" (.number sdk.laxInt),
      .optional "failure" (WorkflowFailure.model sdk)] (by simp only [List.map, Model.Field.name]; decide))
    (fun step => (step.name, step.state, step.requestId, step.revision, step.failure, ()))
    (fun (name, state, requestId, revision, failure, _) => some ⟨name, state, requestId, revision, failure⟩)
    fun _ => rfl

def conditionNameName : Removal.ConditionName → String
  | .platformAccessRevoked => "platform_access_revoked"
  | .mountRemoved => "mount_removed"
  | .deviceEraseAcknowledged => "device_erase_acknowledged"

def conditionName : Model :=
  .literal [.platformAccessRevoked, .mountRemoved, .deviceEraseAcknowledged] conditionNameName
    (fun value => by cases value <;> decide) (by decide)

def conditionStateName : Removal.ConditionState → String
  | .yes => "true"
  | .no => "false"
  | .unknown => "unknown"

def conditionState : Model :=
  .literal [.yes, .no, .unknown] conditionStateName (fun value => by cases value <;> decide) (by decide)

def conditionAuthorityName : Removal.ConditionAuthority → String
  | .hub => "hub"
  | .kernel => "kernel"
  | .deviceControl => "device-control"

def conditionAuthority : Model :=
  .literal [.hub, .kernel, .deviceControl] conditionAuthorityName (fun value => by cases value <;> decide) (by decide)

structure RemovalCondition where
  name : Removal.ConditionName
  state : Removal.ConditionState
  authority : Removal.ConditionAuthority
  authorityRef : Option (BoundedText 0 255)
  observedAt : sdk.datetime.Carrier

def RemovalCondition.model : Model :=
  .refine (RemovalCondition sdk)
    (.object [
      .required "name" conditionName,
      .required "state" conditionState,
      .required "authority" conditionAuthority,
      .optional "authority_ref" (.text (Bounded 0 255)),
      .required "observed_at" sdk.datetime] (by simp only [List.map, Model.Field.name]; decide))
    (fun condition =>
      (condition.name, condition.state, condition.authority, condition.authorityRef, condition.observedAt, ()))
    (fun (name, state, authority, authorityRef, observedAt, _) =>
      some ⟨name, state, authority, authorityRef, observedAt⟩)
    fun _ => rfl

def outcomeName : Removal.RemovalOutcome → String
  | .completed => "completed"
  | .accepted => "accepted"
  | .blocked => "blocked"

def outcome : Model :=
  .literal [.completed, .accepted, .blocked] outcomeName (fun value => by cases value <;> decide) (by decide)

def completedStageName : Removal.CompletedStage → String
  | .received => "received"
  | .claimRevoked => "claim_revoked"
  | .converged => "converged"

def completedStage : Model :=
  .literal [.received, .claimRevoked, .converged] completedStageName
    (fun value => by cases value <;> decide) (by decide)

def recoveryName : Removal.Recovery → String
  | .none => "none"
  | .retryForwardSameRequestId => "retry-forward-same-request-id"
  | .operatorActionRequired => "operator-action-required"

def recovery : Model :=
  .literal [.none, .retryForwardSameRequestId, .operatorActionRequired] recoveryName
    (fun value => by cases value <;> decide) (by decide)

structure DeviceRemovalResult where
  requestId : Text
  intentId : BoundedText 1 128
  deviceRef : sdk.deviceRef.Carrier
  outcome : Removal.RemovalOutcome
  completedStage : Removal.CompletedStage
  recovery : Removal.Recovery
  steps : List (WorkflowStep sdk)
  hub : Option sdk.hubClaimRevocationResult.Carrier
  conditions : List (RemovalCondition sdk)

def DeviceRemovalResult.model : Model :=
  .refine (DeviceRemovalResult sdk)
    (.object [
      .withDefault "operation" (.constant "admin.device-removal-workflow") (),
      .required "request_id" .string,
      .required "intent_id" (.text (Bounded 1 128)),
      .required "device_ref" sdk.deviceRef,
      .required "outcome" LifecycleWorkflow.outcome,
      .required "completed_stage" LifecycleWorkflow.completedStage,
      .withDefault "distributed_atomic" (.flag false) (),
      .withDefault "compensation" (.constant "none-safe-intermediate") (),
      .withDefault "recovery" LifecycleWorkflow.recovery Removal.Recovery.none,
      .required "steps" (.tuple (WorkflowStep.model sdk)),
      .optional "hub" sdk.hubClaimRevocationResult,
      .withDefault "conditions" (.tuple (RemovalCondition.model sdk)) []]
      (by simp only [List.map, Model.Field.name]; decide))
    (fun result =>
      ((), result.requestId, result.intentId, result.deviceRef, result.outcome, result.completedStage, (), (),
        result.recovery, result.steps, result.hub, result.conditions, ()))
    (fun (_, requestId, intentId, deviceRef, outcome, completedStage, _, _, recovery, steps, hub, conditions, _) =>
      some ⟨requestId, intentId, deviceRef, outcome, completedStage, recovery, steps, hub, conditions⟩)
    fun _ => rfl

inductive ProblemCode where
  | authnInvalid
  | authzDenied
  | invalidRequest
  | workflowUnavailable
  | workflowFailure

def problemCodeName : ProblemCode → String
  | .authnInvalid => "AUTHN_INVALID"
  | .authzDenied => "AUTHZ_DENIED"
  | .invalidRequest => "INVALID_REQUEST"
  | .workflowUnavailable => "WORKFLOW_UNAVAILABLE"
  | .workflowFailure => "WORKFLOW_FAILURE"

def problemCode : Model :=
  .literal [.authnInvalid, .authzDenied, .invalidRequest, .workflowUnavailable, .workflowFailure] problemCodeName
    (fun value => by cases value <;> simp) (by decide)

abbrev ErrorStatus := { n : Int // 400 ≤ n ∧ n ≤ 599 }

structure LifecycleWorkflowProblem where
  code : ProblemCode
  detail : BoundedText 1 512
  statusCode : ErrorStatus

def LifecycleWorkflowProblem.model : Model :=
  .refine LifecycleWorkflowProblem
    (.object [
      .required "code" problemCode,
      .required "detail" (.text (Bounded 1 512)),
      .required "status_code" (.integer sdk.laxInt fun n => 400 ≤ n ∧ n ≤ 599)]
      (by simp only [List.map, Model.Field.name]; decide))
    (fun problem => (problem.code, problem.detail, problem.statusCode, ()))
    (fun (code, detail, statusCode, _) => some ⟨code, detail, statusCode⟩)
    fun _ => rfl

structure LifecycleWorkflowReply where
  result : Option (DeviceRemovalResult sdk)
  problem : Option LifecycleWorkflowProblem
  exactlyOne : result.isNone ≠ problem.isNone

def LifecycleWorkflowReply.postInit (result : Option (DeviceRemovalResult sdk))
    (problem : Option LifecycleWorkflowProblem) : Option (LifecycleWorkflowReply sdk) :=
  if h : result.isNone ≠ problem.isNone then some ⟨result, problem, h⟩ else none

theorem LifecycleWorkflowReply.postInit_self (reply : LifecycleWorkflowReply sdk) :
    postInit sdk reply.result reply.problem = some reply :=
  dif_pos reply.exactlyOne

def LifecycleWorkflowReply.model : Model :=
  .refine (LifecycleWorkflowReply sdk)
    (.object [
      .withDefault "operation" (.constant "lifecycle.workflow-reply") (),
      .withDefault "contract_version" (.constant "1") (),
      .optional "result" (DeviceRemovalResult.model sdk),
      .optional "problem" (LifecycleWorkflowProblem.model sdk)] (by simp only [List.map, Model.Field.name]; decide))
    (fun reply => ((), (), reply.result, reply.problem, ()))
    (fun (_, _, result, problem, _) => LifecycleWorkflowReply.postInit sdk result problem)
    fun reply => by exact LifecycleWorkflowReply.postInit_self sdk reply

/-! ## The removal capability -/

structure RemovalCapabilityReady where

def RemovalCapabilityReady.model : Model :=
  .refine RemovalCapabilityReady
    (.object [.withDefault "operation" (.constant "hub.removal-capability.ready") ()] (by decide))
    (fun _ => ((), ()))
    (fun _ => some ⟨⟩)
    fun _ => rfl

structure RevokeRemovalTarget where
  controllerId : ControllerId
  intentId : IntentId
  deviceRef : sdk.deviceRef.Carrier
  businessOwnerId : BoundedText 1 64
  reason : BoundedText 1 128
  commandId : BoundedText 1 128

def RevokeRemovalTarget.model : Model :=
  .refine (RevokeRemovalTarget sdk)
    (.object [
      .withDefault "operation" (.constant "hub.removal-target.revoke") (),
      .required "controller_id" (.text (Digest "ectrl-" 20)),
      .required "intent_id" (.text (Digest "removal-intent-" 32)),
      .required "device_ref" sdk.deviceRef,
      .required "business_owner_id" (.text (Bounded 1 64)),
      .required "reason" (.text (Bounded 1 128)),
      .required "command_id" (.text (Bounded 1 128))] (by simp only [List.map, Model.Field.name]; decide))
    (fun call =>
      ((), call.controllerId, call.intentId, call.deviceRef, call.businessOwnerId, call.reason, call.commandId, ()))
    (fun (_, controllerId, intentId, deviceRef, businessOwnerId, reason, commandId, _) =>
      some ⟨controllerId, intentId, deviceRef, businessOwnerId, reason, commandId⟩)
    fun _ => rfl

structure ObserveRemovalDelivery where
  controllerId : ControllerId
  intentId : IntentId
  deviceRef : sdk.deviceRef.Carrier
  sourceClaimEventId : BoundedText 1 255

def ObserveRemovalDelivery.model : Model :=
  .refine (ObserveRemovalDelivery sdk)
    (.object [
      .withDefault "operation" (.constant "hub.removal-delivery.observe") (),
      .required "controller_id" (.text (Digest "ectrl-" 20)),
      .required "intent_id" (.text (Digest "removal-intent-" 32)),
      .required "device_ref" sdk.deviceRef,
      .required "source_claim_event_id" (.text (Bounded 1 255))] (by simp only [List.map, Model.Field.name]; decide))
    (fun call => ((), call.controllerId, call.intentId, call.deviceRef, call.sourceClaimEventId, ()))
    (fun (_, controllerId, intentId, deviceRef, sourceClaimEventId, _) =>
      some ⟨controllerId, intentId, deviceRef, sourceClaimEventId⟩)
    fun _ => rfl

inductive Operation where
  | ready
  | revoke
  | observe

def Operation.name : Operation → String
  | .ready => "hub.removal-capability.ready"
  | .revoke => "hub.removal-target.revoke"
  | .observe => "hub.removal-delivery.observe"

def Operation.model : Operation → Model
  | .ready => RemovalCapabilityReady.model
  | .revoke => RevokeRemovalTarget.model sdk
  | .observe => ObserveRemovalDelivery.model sdk

theorem Operation.dump_model (operation : Operation) (value : (operation.model sdk).Carrier) :
    ∃ found, (operation.model sdk).dump value = .obj found ∧
      Dict.get found (ofString "operation") = some (.str (ofString operation.name)) := by
  cases operation with
  | ready => exact @Model.dump_object_constant "operation" "hub.removal-capability.ready" [] (by decide) ((), ())
  | revoke => exact Model.dump_object_constant (by simp only [List.map, Model.Field.name]; decide) _
  | observe => exact Model.dump_object_constant (by simp only [List.map, Model.Field.name]; decide) _

/-- The union of the three calls, discriminated by `operation`. -/
def RemovalCapabilityCall.model : Model :=
  .tagged "operation" [.ready, .revoke, .observe] Operation.name (Operation.model sdk)
    (fun operation => by cases operation <;> simp) (by decide) (Operation.dump_model sdk)

structure RemovalCapabilityProblem where
  kind : BoundedText 1 64
  detail : BoundedText 1 512
  statusCode : ErrorStatus

def RemovalCapabilityProblem.model : Model :=
  .refine RemovalCapabilityProblem
    (.object [
      .required "kind" (.text (Bounded 1 64)),
      .required "detail" (.text (Bounded 1 512)),
      .required "status_code" (.integer sdk.laxInt fun n => 400 ≤ n ∧ n ≤ 599)]
      (by simp only [List.map, Model.Field.name]; decide))
    (fun problem => (problem.kind, problem.detail, problem.statusCode, ()))
    (fun (kind, detail, statusCode, _) => some ⟨kind, detail, statusCode⟩)
    fun _ => rfl

structure RemovalCapabilityReply where
  ready : Option Unit
  revocation : Option sdk.hubClaimRevocationResult.Carrier
  delivery : Option sdk.deviceLocalEraseOperationStatus.Carrier
  problem : Option RemovalCapabilityProblem
  exactlyOne : [ready.isSome, revocation.isSome, delivery.isSome, problem.isSome].count true = 1

def RemovalCapabilityReply.postInit (ready : Option Unit) (revocation : Option sdk.hubClaimRevocationResult.Carrier)
    (delivery : Option sdk.deviceLocalEraseOperationStatus.Carrier) (problem : Option RemovalCapabilityProblem) :
    Option (RemovalCapabilityReply sdk) :=
  if h : [ready.isSome, revocation.isSome, delivery.isSome, problem.isSome].count true = 1 then
    some ⟨ready, revocation, delivery, problem, h⟩
  else none

theorem RemovalCapabilityReply.postInit_self (reply : RemovalCapabilityReply sdk) :
    postInit sdk reply.ready reply.revocation reply.delivery reply.problem = some reply :=
  dif_pos reply.exactlyOne

def RemovalCapabilityReply.model : Model :=
  .refine (RemovalCapabilityReply sdk)
    (.object [
      .withDefault "operation" (.constant "hub.removal-capability-reply") (),
      .optional "ready" (.flag true),
      .optional "revocation" sdk.hubClaimRevocationResult,
      .optional "delivery" sdk.deviceLocalEraseOperationStatus,
      .optional "problem" (RemovalCapabilityProblem.model sdk)] (by simp only [List.map, Model.Field.name]; decide))
    (fun reply => ((), reply.ready, reply.revocation, reply.delivery, reply.problem, ()))
    (fun (_, ready, revocation, delivery, problem, _) =>
      RemovalCapabilityReply.postInit sdk ready revocation delivery problem)
    fun reply => by exact RemovalCapabilityReply.postInit_self sdk reply

/-! ## Messages -/

inductive Kind where
  | removalCall
  | workflowReply
  | capabilityCall
  | capabilityReply

def Kind.model : Kind → Model
  | .removalCall => LifecycleRemovalCall.model sdk
  | .workflowReply => LifecycleWorkflowReply.model sdk
  | .capabilityCall => RemovalCapabilityCall.model sdk
  | .capabilityReply => RemovalCapabilityReply.model sdk

abbrev Message := (kind : Kind) × (kind.model sdk).Carrier

end Messages

end EidolonAdmin.LifecycleWorkflow
