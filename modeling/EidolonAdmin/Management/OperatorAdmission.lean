import EidolonAdmin.Admission.DecisionWorkflow
import EidolonAdmin.Management.CompanionLifecycle

/-! # Admitting a device, and the commands sent under derived request ids

`admit_operator_device` approves at Hub, mounts at the Kernel and assigns the Body,
each under an id made of the caller's. What is sent with an id is read anew in every
run; here a run is a function of its payload and of all that it reads.
-/

namespace EidolonAdmin.Management

open Admission (ApprovalDecision EnrollmentProposal ManifestRef)
open Removal (AuthorityFailure KernelMount WorkflowFailure)

structure OperatorDeviceAdmissionRequest where
  requestId : String
  ownerId : String
  deviceId : String
  companionId : Option String
  expectedMountRevision : Nat
  replaceExistingMount : Bool
deriving DecidableEq, Repr

structure OperatorProposal extends EnrollmentProposal where
  enrollmentId : String
  deviceInstanceCandidateId : String
deriving DecidableEq, Repr

structure OperatorEnrollment where
  proposal : OperatorProposal
  approvalDecision : Option ApprovalDecision
deriving DecidableEq, Repr

structure KernelMountRow extends KernelMount where
  revision : Nat
deriving DecidableEq, Repr

structure KernelMutationResult where
  mount : KernelMountRow
  replayed : Bool
deriving DecidableEq, Repr

structure DecideCall where
  enrollmentId : String
  expectedProposalRevision : Nat
  decision : String
  targetOwnerDomainId : String
  targetBusinessOwnerId : String
  reviewedManifestRef : ManifestRef
  commandId : String
  correlationId : String
deriving DecidableEq, Repr

structure MountCall where
  ownerId : String
  deviceId : String
  requestId : String
  expectedRevision : Nat
  replaceExisting : Bool
deriving DecidableEq, Repr

inductive Sent where
  | decide (call : DecideCall)
  | mount (call : MountCall)
  | assign (call : AssignmentCall)
deriving DecidableEq, Repr

def Sent.requestId : Sent → String
  | decide call => call.commandId
  | mount call => call.requestId
  | assign call => call.requestId

inductive AdmissionStepName where
  | hubApproval
  | kernelMount
  | bodyAssignment
deriving DecidableEq, Repr

inductive AdmissionStepState where
  | committed
  | replayed
  | failed
  | notRequested
  | notAttempted
deriving DecidableEq, Repr

structure AdmissionStep where
  name : AdmissionStepName
  state : AdmissionStepState
  requestId : Option String := none
  revision : Option Nat := none
  failure : Option WorkflowFailure := none
deriving DecidableEq, Repr

inductive AdmissionOutcome where
  | completed
  | retryRequired
  | blocked
deriving DecidableEq, Repr

inductive AdmissionStage where
  | hubApproved
  | kernelMounted
  | bodyAssigned
deriving DecidableEq, Repr

structure OperatorDeviceAdmissionResult where
  requestId : String
  outcome : AdmissionOutcome
  completedStage : AdmissionStage
  recovery : Removal.Recovery := .none
  steps : List AdmissionStep
  mount : Option KernelMountRow := none
deriving DecidableEq, Repr

/-- A part of a run: how it ended, and what it sent before. -/
structure Run (β : Type) where
  outcome : Except AuthorityFailure β
  sent : List Sent

namespace Run

variable {β γ : Type}

def read (answer : Except AuthorityFailure β) : Run β := ⟨answer, []⟩

def send (command : Sent) (answer : Except AuthorityFailure β) : Run β := ⟨answer, [command]⟩

/-- `try: … except AuthorityFailure`. -/
def attempt (part : Run β) : Run (Except AuthorityFailure β) := ⟨.ok part.outcome, part.sent⟩

def andThen (part : Run β) (next : β → Run γ) : Run γ :=
  match part.outcome with
  | .error failure => ⟨.error failure, part.sent⟩
  | .ok value => ⟨(next value).outcome, part.sent ++ (next value).sent⟩

instance : Monad Run where
  pure value := ⟨.ok value, []⟩
  bind := andThen

@[simp] theorem sent_pure (value : β) : (pure value : Run β).sent = [] := rfl

@[simp] theorem sent_read (answer : Except AuthorityFailure β) : (read answer).sent = [] := rfl

@[simp] theorem outcome_read (answer : Except AuthorityFailure β) : (read answer).outcome = answer :=
  rfl

@[simp] theorem sent_send (command : Sent) (answer : Except AuthorityFailure β) :
    (send command answer).sent = [command] := rfl

@[simp] theorem outcome_send (command : Sent) (answer : Except AuthorityFailure β) :
    (send command answer).outcome = answer := rfl

@[simp] theorem sent_attempt (part : Run β) : part.attempt.sent = part.sent := rfl

@[simp] theorem outcome_attempt (part : Run β) : part.attempt.outcome = .ok part.outcome := rfl

theorem mem_sent_bind {part : Run β} {next : β → Run γ} {command : Sent} :
    command ∈ (part >>= next).sent ↔
      command ∈ part.sent ∨ ∃ value, part.outcome = .ok value ∧ command ∈ (next value).sent := by
  change command ∈ (andThen part next).sent ↔ _
  unfold andThen
  cases part.outcome with
  | error failure => simp
  | ok value => simp

end Run

def operatorChildRequestId (requestId step : String) : String :=
  "admin:" ++ requestId ++ ":" ++ step

/-- What Hub and the Kernel answer in one run, whoever changed them before. -/
structure AdmissionAnswers where
  enrollments : Except AuthorityFailure (List OperatorEnrollment)
  decided : Except AuthorityFailure Nat
  recovery : Except AuthorityFailure OperatorEnrollment
  mounts : Except AuthorityFailure (List KernelMountRow)
  mounted : Except AuthorityFailure KernelMutationResult
  endpoints : Except AuthorityFailure (List KernelBodyEndpoint)
  assigned : Except AuthorityFailure KernelBodyEndpoint

def OperatorEnrollment.active (enrollment : OperatorEnrollment) : Bool :=
  enrollment.proposal.state ∈
    [.pendingReview, .approvedAwaitingHandoff, .grantDelivered, .grantAcknowledged]

section Admission

variable (payload : OperatorDeviceAdmissionRequest) (answers : AdmissionAnswers)

def activeEnrollment (page : List OperatorEnrollment) :
    Except AuthorityFailure OperatorEnrollment :=
  let found := page.filter fun item => item.proposal.deviceInstanceCandidateId = payload.deviceId
  if found.isEmpty then
    .error { authority := .hub, kind := .notFound, statusCode := 404
             detail := "Hub has no Enrollment for this device" }
  else
    match found.filter OperatorEnrollment.active with
    | [enrollment] => .ok enrollment
    | _ => .error (Admission.hubConflict "Hub Enrollment is terminal or ambiguous for this device")

def decideCall (proposal : OperatorProposal) : DecideCall where
  enrollmentId := proposal.enrollmentId
  expectedProposalRevision := proposal.proposalRevision
  decision := "approve"
  targetOwnerDomainId := proposal.requestedOwnerDomainId
  targetBusinessOwnerId := payload.ownerId
  reviewedManifestRef := proposal.manifestRef
  commandId := operatorChildRequestId payload.requestId "hub-approve"
  correlationId := payload.requestId

/-- `decide_enrollment`, which compares the revision that Hub answers. -/
def decideEnrollment (call : DecideCall) (answer : Except AuthorityFailure Nat) :
    Except AuthorityFailure Nat :=
  match answer with
  | .error failure => .error failure
  | .ok revision =>
    if revision ≠ call.expectedProposalRevision then
      .error (Admission.hubViolation
        "Hub Decision response changed the reviewed Proposal content revision")
    else .ok revision

def getEnrollmentRecovery (enrollmentId : String)
    (answer : Except AuthorityFailure OperatorEnrollment) :
    Except AuthorityFailure OperatorEnrollment :=
  match answer with
  | .error failure => .error failure
  | .ok enrollment =>
    if enrollment.proposal.enrollmentId ≠ enrollmentId then
      .error (Admission.hubViolation "Hub recovery query returned another Enrollment")
    else .ok enrollment

def approveEnrollment (enrollment : OperatorEnrollment) :
    Run (AdmissionStepState × OperatorEnrollment) :=
  if enrollment.proposal.state = .pendingReview then do
    let call := decideCall payload enrollment.proposal
    let _ ← Run.send (.decide call) (decideEnrollment call answers.decided)
    let recovery ← Run.read
      (getEnrollmentRecovery enrollment.proposal.enrollmentId answers.recovery)
    return (.committed, recovery)
  else return (.replayed, enrollment)

def approvedForOwner (enrollment : OperatorEnrollment) : Except AuthorityFailure Unit :=
  match enrollment.approvalDecision with
  | some decision =>
    if decision.decision = .approve ∧ decision.targetBusinessOwnerId = payload.ownerId then .ok ()
    else .error (Admission.hubConflict "Hub Enrollment was not approved for this Owner")
  | none => .error (Admission.hubConflict "Hub Enrollment was not approved for this Owner")

def ownerMountRow (ownerId deviceId : String)
    (answer : Except AuthorityFailure (List KernelMountRow)) :
    Except AuthorityFailure (Option KernelMountRow) :=
  match answer with
  | .error failure => .error failure
  | .ok mounts =>
    if mounts.any fun mount => mount.ownerId ≠ ownerId then
      .error (kernelViolation "Kernel Mount page crossed the requested owner scope")
    else .ok (mounts.find? fun mount => mount.deviceId = deviceId)

def mountCall : MountCall where
  ownerId := payload.ownerId
  deviceId := payload.deviceId
  requestId := operatorChildRequestId payload.requestId "kernel-mount"
  expectedRevision := payload.expectedMountRevision
  replaceExisting := payload.replaceExistingMount

def mountDevice (call : MountCall) (answer : Except AuthorityFailure KernelMutationResult) :
    Except AuthorityFailure KernelMutationResult :=
  match answer with
  | .error failure => .error failure
  | .ok result =>
    if result.mount.deviceId ≠ call.deviceId ∨ result.mount.ownerId ≠ call.ownerId ∨
        result.mount.active = false then
      .error (kernelViolation "Kernel Mount response did not confirm the requested owner/device")
    else .ok result

def assignRequestId : String := operatorChildRequestId payload.requestId "kernel-assign"

def waitingForClaim (failure : AuthorityFailure) : AuthorityFailure where
  authority := .kernel
  kind := .unavailable
  detail := "Hub has approved the Enrollment; waiting for the device to acknowledge its Claim"
  statusCode := 503
  upstreamStatus := failure.upstreamStatus
  retryable := true

/-- The result of a run whose mount was refused. -/
def unmountedResult (steps : List AdmissionStep) (failure : AuthorityFailure) :
    OperatorDeviceAdmissionResult :=
  let retryable := failure.retryable ∨ failure.kind ∈ [.notFound, .unavailable, .upstreamFailure]
  let waiting := if failure.kind = .notFound then waitingForClaim failure else failure
  { requestId := payload.requestId
    outcome := if retryable then .retryRequired else .blocked
    completedStage := .hubApproved
    recovery := if retryable then .retryForwardSameRequestId else .operatorActionRequired
    steps := steps ++
      [{ name := .kernelMount, state := .failed, requestId := some (mountCall payload).requestId
         failure := some waiting.toWire },
       { name := .bodyAssignment
         state := if payload.companionId.isSome then .notAttempted else .notRequested
         requestId := payload.companionId.map fun _ => assignRequestId payload }] }

def assignmentRevisionOf (endpoint : KernelBodyEndpoint) : Nat :=
  (endpoint.assignment.map fun assignment => assignment.revision).getD 0

/-- The revision of the Body as it was just read; zero where the Kernel lists none. -/
def bodyRevision (deviceId : String) (endpoints : List KernelBodyEndpoint) : Nat :=
  ((endpoints.find? fun endpoint => endpoint.deviceId = deviceId).map assignmentRevisionOf).getD 0

def assignCall (companionId : String) (revision : Nat) : AssignmentCall where
  ownerId := payload.ownerId
  deviceId := payload.deviceId
  companionId := some companionId
  requestId := assignRequestId payload
  expectedAssignmentRevision := revision
  origin := "owner"
  changeReason := none

/-- The result once the Kernel has answered the assignment; `steps` are done before. -/
def assignedResult (steps : List AdmissionStep) (mounted : KernelMountRow) :
    Except AuthorityFailure KernelBodyEndpoint → OperatorDeviceAdmissionResult
  | .error failure =>
    { requestId := payload.requestId
      outcome := if failure.retryable then .retryRequired else .blocked
      completedStage := .kernelMounted
      recovery := if failure.retryable then .retryForwardSameRequestId else .operatorActionRequired
      steps := steps ++
        [{ name := .bodyAssignment, state := .failed, requestId := some (assignRequestId payload)
           revision := some mounted.revision, failure := some failure.toWire }]
      mount := some mounted }
  | .ok assigned =>
    { requestId := payload.requestId, outcome := .completed, completedStage := .bodyAssigned
      steps := steps ++
        [{ name := .bodyAssignment, state := .committed, requestId := some (assignRequestId payload)
           revision := some (assignmentRevisionOf assigned) }]
      mount := some mounted }

def assignBody (steps : List AdmissionStep) (mounted : KernelMountRow) :
    Run OperatorDeviceAdmissionResult :=
  match payload.companionId with
  | none =>
    return { requestId := payload.requestId, outcome := .completed, completedStage := .kernelMounted
             steps := steps ++ [{ name := .bodyAssignment, state := .notRequested }]
             mount := some mounted }
  | some companionId => do
    let endpoints ← Run.read (listBodyEndpoints payload.ownerId answers.endpoints)
    let call := assignCall payload companionId (bodyRevision payload.deviceId endpoints)
    let answer ← (Run.send (.assign call) (replaceAssignment call answers.assigned)).attempt
    return assignedResult payload steps mounted answer

def mountAndAssign (steps : List AdmissionStep) (held : Option KernelMountRow) :
    Run OperatorDeviceAdmissionResult :=
  match held.filter fun mount => mount.active with
  | some mounted =>
    assignBody payload answers
      (steps ++ [{ name := .kernelMount, state := .replayed, revision := some mounted.revision }])
      mounted
  | none => do
    let call := mountCall payload
    match ← (Run.send (.mount call) (mountDevice call answers.mounted)).attempt with
    | .error failure => return unmountedResult payload steps failure
    | .ok result =>
      assignBody payload answers
        (steps ++
          [{ name := .kernelMount, state := if result.replayed then .replayed else .committed
             requestId := some call.requestId, revision := some result.mount.revision }])
        result.mount

def admitOperatorDevice : Run OperatorDeviceAdmissionResult := do
  let page ← Run.read answers.enrollments
  let enrollment ← Run.read (activeEnrollment payload page)
  let approval ← approveEnrollment payload answers enrollment
  let _ ← Run.read (approvedForOwner payload approval.2)
  let held ← Run.read (ownerMountRow payload.ownerId payload.deviceId answers.mounts)
  mountAndAssign payload answers
    [{ name := .hubApproval, state := approval.1
       requestId := some (operatorChildRequestId payload.requestId "hub-approve") }] held

def Approving (proposal : OperatorProposal) : Prop :=
  ∃ page enrollment, answers.enrollments = .ok page ∧
    activeEnrollment payload page = .ok enrollment ∧
    enrollment.proposal = proposal ∧ proposal.state = .pendingReview

/-- Hub has the enrollment approved for this Owner; the Kernel has told the mount. -/
def ReachesKernel (held : Option KernelMountRow) : Prop :=
  ∃ page enrollment approval, answers.enrollments = .ok page ∧
    activeEnrollment payload page = .ok enrollment ∧
    (approveEnrollment payload answers enrollment).outcome = .ok approval ∧
    approvedForOwner payload approval.2 = .ok () ∧
    ownerMountRow payload.ownerId payload.deviceId answers.mounts = .ok held

def Mounting : Prop :=
  ∃ held, ReachesKernel payload answers held ∧ held.filter (fun mount => mount.active) = none

def Assigning (companionId : String) (revision : Nat) : Prop :=
  (∃ held, ReachesKernel payload answers held ∧
    ((∃ mounted, held.filter (fun mount => mount.active) = some mounted) ∨
      held.filter (fun mount => mount.active) = none ∧
        ∃ result, mountDevice (mountCall payload) answers.mounted = .ok result)) ∧
  payload.companionId = some companionId ∧
  ∃ endpoints, listBodyEndpoints payload.ownerId answers.endpoints = .ok endpoints ∧
    revision = bodyRevision payload.deviceId endpoints

variable {payload answers}

theorem mem_sent_approveEnrollment {enrollment : OperatorEnrollment} {command : Sent} :
    command ∈ (approveEnrollment payload answers enrollment).sent ↔
      enrollment.proposal.state = .pendingReview ∧
        command = .decide (decideCall payload enrollment.proposal) := by
  unfold approveEnrollment
  split
  · rename_i hPending
    simp [Run.mem_sent_bind, hPending]
  · rename_i hOther
    simp [hOther]

theorem mem_sent_assignBody {steps : List AdmissionStep} {mounted : KernelMountRow}
    {command : Sent} :
    command ∈ (assignBody payload answers steps mounted).sent ↔
      ∃ companionId endpoints, payload.companionId = some companionId ∧
        listBodyEndpoints payload.ownerId answers.endpoints = .ok endpoints ∧
        command = .assign
          (assignCall payload companionId (bodyRevision payload.deviceId endpoints)) := by
  unfold assignBody
  cases payload.companionId with
  | none => simp
  | some companionId =>
    simp only [Run.mem_sent_bind, Run.sent_read, Run.outcome_read, Run.sent_attempt, Run.sent_send,
      Run.sent_pure, List.mem_singleton, List.not_mem_nil, and_false, exists_false, or_false,
      false_or, Option.some.injEq]
    constructor
    · rintro ⟨endpoints, hListed, rfl⟩
      exact ⟨companionId, endpoints, rfl, hListed, rfl⟩
    · rintro ⟨_, endpoints, rfl, hListed, rfl⟩
      exact ⟨endpoints, hListed, rfl⟩

theorem mem_sent_mountAndAssign {steps : List AdmissionStep} {held : Option KernelMountRow}
    {command : Sent} :
    command ∈ (mountAndAssign payload answers steps held).sent ↔
      held.filter (fun mount => mount.active) = none ∧ command = .mount (mountCall payload) ∨
      ((∃ mounted, held.filter (fun mount => mount.active) = some mounted) ∨
        held.filter (fun mount => mount.active) = none ∧
          ∃ result, mountDevice (mountCall payload) answers.mounted = .ok result) ∧
      ∃ companionId endpoints, payload.companionId = some companionId ∧
        listBodyEndpoints payload.ownerId answers.endpoints = .ok endpoints ∧
        command = .assign
          (assignCall payload companionId (bodyRevision payload.deviceId endpoints)) := by
  unfold mountAndAssign
  cases held.filter (fun mount => mount.active) with
  | some mounted => simp [mem_sent_assignBody]
  | none =>
    cases hAnswer : mountDevice (mountCall payload) answers.mounted with
    | error failure => simp [Run.mem_sent_bind, hAnswer]
    | ok result => simp [Run.mem_sent_bind, hAnswer, mem_sent_assignBody]

theorem mem_sent_admitOperatorDevice {command : Sent} :
    command ∈ (admitOperatorDevice payload answers).sent ↔
      (∃ proposal, Approving payload answers proposal ∧
        command = .decide (decideCall payload proposal)) ∨
      Mounting payload answers ∧ command = .mount (mountCall payload) ∨
      ∃ companionId revision, Assigning payload answers companionId revision ∧
        command = .assign (assignCall payload companionId revision) := by
  simp only [admitOperatorDevice, Run.mem_sent_bind, Run.sent_read, Run.outcome_read,
    List.not_mem_nil, false_or, mem_sent_approveEnrollment, mem_sent_mountAndAssign]
  constructor
  · rintro ⟨page, hPage, enrollment, hActive, ⟨hPending, rfl⟩ | ⟨approval, hApproval, _, hApproved,
      held, hHeld, ⟨hInactive, rfl⟩ | ⟨hMounted, companionId, endpoints, hCompanion, hListed, rfl⟩⟩⟩
    · exact .inl ⟨_, ⟨page, enrollment, hPage, hActive, rfl, hPending⟩, rfl⟩
    · exact .inr (.inl ⟨⟨held, ⟨page, enrollment, approval, hPage, hActive, hApproval, hApproved,
        hHeld⟩, hInactive⟩, rfl⟩)
    · exact .inr (.inr ⟨companionId, _, ⟨⟨held, ⟨page, enrollment, approval, hPage, hActive,
        hApproval, hApproved, hHeld⟩, hMounted⟩, hCompanion, endpoints, hListed, rfl⟩, rfl⟩)
  · rintro (⟨_, ⟨page, enrollment, hPage, hActive, rfl, hPending⟩, rfl⟩ |
      ⟨⟨held, ⟨page, enrollment, approval, hPage, hActive, hApproval, hApproved, hHeld⟩, hInactive⟩,
        rfl⟩ |
      ⟨companionId, _, ⟨⟨held, ⟨page, enrollment, approval, hPage, hActive, hApproval, hApproved,
        hHeld⟩, hMounted⟩, hCompanion, endpoints, hListed, rfl⟩, rfl⟩)
    · exact ⟨page, hPage, enrollment, hActive, .inl ⟨hPending, rfl⟩⟩
    · exact ⟨page, hPage, enrollment, hActive, .inr ⟨approval, hApproval, _, hApproved, held, hHeld,
        .inl ⟨hInactive, rfl⟩⟩⟩
    · exact ⟨page, hPage, enrollment, hActive, .inr ⟨approval, hApproval, _, hApproved, held, hHeld,
        .inr ⟨hMounted, companionId, endpoints, hCompanion, hListed, rfl⟩⟩⟩

end Admission

end EidolonAdmin.Management
