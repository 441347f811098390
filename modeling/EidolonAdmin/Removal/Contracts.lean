import Mathlib.Data.String.Basic

/-! # The records of the removal workflow

What the Local API, the Lifecycle Workflow, Hub and the Kernel exchange in a
removal, with the fields that the modelled functions read. Instants are numbers.
-/

namespace EidolonAdmin.Removal

structure DeviceRef where
  deviceInstanceId : String
  ownerDomainId : String
  ownerDomainGeneration : Int
  claimGeneration : Int
  trustEpoch : Int
deriving DecidableEq, Repr

inductive RevocationOutcome where
  | committed
  | replayed
deriving DecidableEq, Repr

structure HubClaimRevocationResult where
  commandId : String
  outcome : RevocationOutcome
  deviceRef : DeviceRef
  aggregateRevision : Int
  occurredAt : Int
  eventId : Option String
deriving DecidableEq, Repr

inductive Authority where
  | directory
  | data
  | hub
  | kernel
  | memory
  | agent
deriving DecidableEq, Repr

inductive FailureKind where
  | unauthorized
  | forbidden
  | notFound
  | conflict
  | invalidRequest
  | unavailable
  | runtimeMissing
  | upstreamFailure
  | contractViolation
  | configuration
deriving DecidableEq, Repr

inductive RefusalKind where
  | denied
  | notFound
  | conflict
  | invalid
  | notRunning
  | upstream
  | notConfigured
deriving DecidableEq, Repr

def publicRefusalKind : FailureKind → RefusalKind
  | .unauthorized => .denied
  | .forbidden => .denied
  | .notFound => .notFound
  | .conflict => .conflict
  | .invalidRequest => .invalid
  | .unavailable => .notRunning
  | .runtimeMissing => .notRunning
  | .upstreamFailure => .upstream
  | .contractViolation => .upstream
  | .configuration => .notConfigured

structure Refusal where
  kind : RefusalKind
  reason : String
  code : Option String
  retryable : Bool
deriving DecidableEq, Repr

structure AuthorityFailure where
  authority : Authority
  kind : FailureKind
  detail : String
  statusCode : Int
  upstreamStatus : Option Int := none
  retryable : Bool := false
  code : Option String := none
deriving DecidableEq, Repr

structure WorkflowFailure where
  authority : Authority
  kind : FailureKind
  detail : String
  refusal : Refusal
  code : Option String
  upstreamStatus : Option Int
  retryable : Bool
deriving DecidableEq, Repr

def AuthorityFailure.toRefusal (failure : AuthorityFailure) : Refusal where
  kind := publicRefusalKind failure.kind
  reason := failure.detail
  code := failure.code
  retryable := failure.retryable

def AuthorityFailure.toWire (failure : AuthorityFailure) : WorkflowFailure where
  authority := failure.authority
  kind := failure.kind
  detail := failure.detail
  refusal := failure.toRefusal
  code := failure.code
  upstreamStatus := failure.upstreamStatus
  retryable := failure.retryable

inductive Raised where
  | authority (failure : AuthorityFailure)
  | value (text : String)
  | validation
  | key (intentId : String)
  | integrity
  | overflow
  | attribute
  | assertion
deriving DecidableEq, Repr

structure ControllerDeviceRemovalRequest where
  requestId : String
  ownerId : String
  controllerId : String
  deviceId : String
  reason : String
deriving DecidableEq, Repr

structure ActorRef where
  principalId : String
  principalType : String
  ownerDomainId : String
  grantedScopes : List String
  authenticationStrength : String
deriving DecidableEq, Repr

structure OwnerAuthorizationContext where
  workloadPrincipalId : String
  audience : String := "eidolon-admission"
  actor : ActorRef
  authorizedOwnerDomainId : String
  scopes : List String
  intentId : String
  targetDeviceRef : DeviceRef
  issuedAt : Int
  expiresAt : Int
deriving DecidableEq, Repr

structure RemovalOwnerAuthorizationContext where
  contractVersion : String := "1"
  issuerWorkloadPrincipalId : String := "eidolon-local-api"
  presenterWorkloadPrincipalId : String := "eidolon-lifecycle-workflow"
  controllerGrantGeneration : Int
  resetEpoch : Int
  ownerAuthorizationContext : OwnerAuthorizationContext
deriving DecidableEq, Repr

namespace RemovalOwnerAuthorizationContext

variable (context : RemovalOwnerAuthorizationContext)

def authorizedOwnerDomainId : String :=
  context.ownerAuthorizationContext.authorizedOwnerDomainId

def actorControllerId : String := context.ownerAuthorizationContext.actor.principalId

def intentId : String := context.ownerAuthorizationContext.intentId

def targetDeviceRef : DeviceRef := context.ownerAuthorizationContext.targetDeviceRef

def deadline : Int := context.ownerAuthorizationContext.expiresAt

end RemovalOwnerAuthorizationContext

structure DeviceLocalEraseOperationStatus where
  operationId : String
  deviceRef : DeviceRef
  state : String
  terminalResult : Option String
deriving DecidableEq, Repr

structure RevokeCall where
  deviceRef : DeviceRef
  reason : String
  commandId : String
  correlationId : String
  authorization : String
deriving DecidableEq, Repr

structure ObserveCall where
  deviceRef : DeviceRef
  sourceClaimEventId : String
  authorization : String
deriving DecidableEq, Repr

structure CredentialCall where
  controllerId : String
  intentId : String
  deviceRef : DeviceRef
  businessOwnerId : String
deriving DecidableEq, Repr

/-- What the workflow is wired to: `hub_credentials`, which may be absent, and the
two operations of `hub`. -/
structure HubPorts where
  hubCredentials : Option (CredentialCall → Except Raised String)
  revoke : RevokeCall → Except Raised HubClaimRevocationResult
  getDeviceControlOperation : ObserveCall → Except Raised DeviceLocalEraseOperationStatus

structure KernelMount where
  deviceId : String
  ownerId : String
  active : Bool
deriving DecidableEq, Repr

/-- One read of the Kernel: the mounts it holds for the Owner in its own order, or
why the read failed, and the monotonic clock after it. -/
structure Poll where
  held : Except AuthorityFailure (List KernelMount)
  clock : Int

inductive RemovalOutcome where
  | completed
  | accepted
  | blocked
deriving DecidableEq, Repr

inductive CompletedStage where
  | received
  | claimRevoked
  | converged
deriving DecidableEq, Repr

inductive Recovery where
  | none
  | retryForwardSameRequestId
  | operatorActionRequired
deriving DecidableEq, Repr

inductive ConditionName where
  | platformAccessRevoked
  | mountRemoved
  | deviceEraseAcknowledged
deriving DecidableEq, Repr

inductive ConditionState where
  | yes
  | no
  | unknown
deriving DecidableEq, Repr

inductive ConditionAuthority where
  | hub
  | kernel
  | deviceControl
deriving DecidableEq, Repr

structure RemovalCondition where
  name : ConditionName
  state : ConditionState
  authority : ConditionAuthority
  authorityRef : Option String
  observedAt : Int
deriving DecidableEq, Repr

inductive StepState where
  | committed
  | replayed
  | failed
deriving DecidableEq, Repr

structure WorkflowStep where
  state : StepState
  requestId : String
  failure : Option WorkflowFailure
deriving DecidableEq, Repr

structure DeviceRemovalResult where
  requestId : String
  intentId : String
  deviceRef : DeviceRef
  outcome : RemovalOutcome
  completedStage : CompletedStage
  recovery : Recovery
  steps : List WorkflowStep
  hub : Option HubClaimRevocationResult
  conditions : List RemovalCondition
deriving DecidableEq, Repr

end EidolonAdmin.Removal
