import EidolonAdmin.Management.OperatorAdmission

/-! # One content for each request id

All commands that any sequence of admissions and archives sends, against authorities
that anyone may have changed between two runs. An id is a function of the request;
what is sent with it also depends on what the run read.
-/

namespace EidolonAdmin.Management

open Admission (ApprovalDecision)
open Removal (AuthorityFailure)

inductive WorkflowRun where
  | admission (payload : OperatorDeviceAdmissionRequest) (answers : AdmissionAnswers)
  | archive (request : ArchiveRequest) (answers : ArchiveAnswers)

def WorkflowRun.sent (sha256 : String → String) : WorkflowRun → List Sent
  | admission payload answers => (admitOperatorDevice payload answers).sent
  | archive request answers =>
    (putAway sha256 request answers).2.map fun exchange => .assign exchange.call

def OneContentPerId (sha256 : String → String) (runs : List WorkflowRun) : Prop :=
  ∀ first ∈ runs.flatMap (WorkflowRun.sent sha256), ∀ second ∈ runs.flatMap (WorkflowRun.sent sha256),
    first.requestId = second.requestId → first = second

/-- The endpoints that a run lets go of: they answer as the Companion in the listing,
and all releases before were confirmed. -/
def Releasing (sha256 : String → String) (request : ArchiveRequest) (answers : ArchiveAnswers)
    (endpoint : KernelBodyEndpoint) : Prop :=
  ∃ earlier later released,
    listBodyEndpoints request.ownerId answers.endpoints = .ok (earlier ++ endpoint :: later) ∧
    endpoint.answersAs request.companionId ∧
    (releaseLoop sha256 request answers.release 0 earlier).1 = .ok released

theorem mem_releaseLoop_iff {sha256 : String → String} {request : ArchiveRequest}
    {release : Nat → Except AuthorityFailure KernelBodyEndpoint} {call : AssignmentCall} :
    ∀ {endpoints : List KernelBodyEndpoint} {i : Nat},
      (∃ exchange ∈ (releaseLoop sha256 request release i endpoints).2, exchange.call = call) ↔
        ∃ earlier endpoint later released, endpoints = earlier ++ endpoint :: later ∧
          endpoint.answersAs request.companionId ∧
          (releaseLoop sha256 request release i earlier).1 = .ok released ∧
          call = releaseCall sha256 request endpoint := by
  intro endpoints
  induction endpoints with
  | nil => simp [releaseLoop]
  | cons head rest ih =>
    intro i
    by_cases hAssigned : head.answersAs request.companionId
    · cases hAnswer : replaceAssignment (releaseCall sha256 request head) (release i) with
      | error failure =>
        rw [releaseLoop_refused hAssigned hAnswer]
        constructor
        · rintro ⟨exchange, hMem, rfl⟩
          rw [List.mem_singleton] at hMem
          exact ⟨[], head, rest, [], rfl, hAssigned, rfl, by rw [hMem]⟩
        · rintro ⟨earlier, endpoint, later, released, hSplit, _, hEarlier, rfl⟩
          rcases List.cons_eq_append_iff.mp hSplit with ⟨rfl, hHead⟩ | ⟨tail, rfl, _⟩
          · obtain ⟨rfl, rfl⟩ := List.cons.inj hHead
            exact ⟨_, List.mem_singleton.mpr rfl, rfl⟩
          · simp [releaseLoop_refused hAssigned hAnswer] at hEarlier
      | ok confirmed =>
        rw [releaseLoop_released hAssigned hAnswer]
        constructor
        · rintro ⟨exchange, hMem, hCall⟩
          rcases List.mem_cons.mp hMem with rfl | hTail
          · exact ⟨[], head, rest, [], rfl, hAssigned, rfl, hCall.symm⟩
          · obtain ⟨earlier, endpoint, later, released, rfl, hEndpoint, hEarlier, rfl⟩ :=
              ih.mp ⟨exchange, hTail, hCall⟩
            exact ⟨head :: earlier, endpoint, later, head.deviceId :: released, rfl, hEndpoint,
              by rw [releaseLoop_released hAssigned hAnswer, hEarlier]; rfl, rfl⟩
        · rintro ⟨earlier, endpoint, later, released, hSplit, hEndpoint, hEarlier, rfl⟩
          rcases List.cons_eq_append_iff.mp hSplit with ⟨rfl, hHead⟩ | ⟨tail, rfl, hTail⟩
          · obtain ⟨rfl, rfl⟩ := List.cons.inj hHead
            exact ⟨_, List.mem_cons_self, rfl⟩
          · rw [releaseLoop_released hAssigned hAnswer] at hEarlier
            cases hBefore : (releaseLoop sha256 request release (i + 1) tail).1 with
            | error failure => simp [hBefore, Except.map] at hEarlier
            | ok before =>
              obtain ⟨exchange, hMem, hCall⟩ :=
                ih.mpr ⟨tail, endpoint, later, before, hTail, hEndpoint, hBefore, rfl⟩
              exact ⟨exchange, List.mem_cons_of_mem _ hMem, hCall⟩
    · rw [releaseLoop_other hAssigned, ih]
      constructor
      · rintro ⟨earlier, endpoint, later, released, rfl, hEndpoint, hEarlier, rfl⟩
        exact ⟨head :: earlier, endpoint, later, released, rfl, hEndpoint,
          by rw [releaseLoop_other hAssigned, hEarlier], rfl⟩
      · rintro ⟨earlier, endpoint, later, released, hSplit, hEndpoint, hEarlier, rfl⟩
        rcases List.cons_eq_append_iff.mp hSplit with ⟨rfl, hHead⟩ | ⟨tail, rfl, hTail⟩
        · obtain ⟨rfl, rfl⟩ := List.cons.inj hHead
          exact absurd hEndpoint hAssigned
        · rw [releaseLoop_other hAssigned] at hEarlier
          exact ⟨tail, endpoint, later, released, hTail, hEndpoint, hEarlier, rfl⟩

section Runs

variable {sha256 : String → String} {request : ArchiveRequest} {answers : ArchiveAnswers}

theorem putAway_exchanges : (putAway sha256 request answers).2 = (releaseBodies sha256 request answers).2 := by
  unfold putAway
  generalize releaseBodies sha256 request answers = bodies
  obtain ⟨outcome, exchanges⟩ := bodies
  cases outcome with
  | error failure => rfl
  | ok released => dsimp only; split <;> rfl

theorem mem_sent_archive {command : Sent} :
    command ∈ (WorkflowRun.archive request answers).sent sha256 ↔
      ∃ endpoint, Releasing sha256 request answers endpoint ∧
        command = .assign (releaseCall sha256 request endpoint) := by
  simp only [WorkflowRun.sent, putAway_exchanges, releaseBodies, List.mem_map, Releasing]
  cases listBodyEndpoints request.ownerId answers.endpoints with
  | error failure => simp
  | ok endpoints =>
    constructor
    · rintro ⟨exchange, hMem, rfl⟩
      obtain ⟨earlier, endpoint, later, released, rfl, hEndpoint, hEarlier, hCall⟩ :=
        mem_releaseLoop_iff.mp ⟨exchange, hMem, rfl⟩
      exact ⟨endpoint, ⟨earlier, later, released, rfl, hEndpoint, hEarlier⟩, by rw [hCall]⟩
    · rintro ⟨endpoint, ⟨earlier, later, released, hListed, hEndpoint, hEarlier⟩, rfl⟩
      obtain rfl := Except.ok.inj hListed
      obtain ⟨exchange, hMem, hCall⟩ :=
        mem_releaseLoop_iff.mpr ⟨earlier, endpoint, later, released, rfl, hEndpoint, hEarlier, rfl⟩
      exact ⟨exchange, hMem, by rw [hCall]⟩

end Runs

theorem operatorChildRequestId_injective {first second step : String}
    (h : operatorChildRequestId first step = operatorChildRequestId second step) :
    first = second := by
  unfold operatorChildRequestId at h
  exact (String.append_right_inj _).mp ((String.append_left_inj _).mp ((String.append_left_inj _).mp h))

/-- Two steps whose names end in different letters never share an id. -/
theorem operatorChildRequestId_ne {first second step other : String} {a b : Char}
    (hStep : step.toList.getLast? = some a) (hOther : other.toList.getLast? = some b) (h : a ≠ b) :
    operatorChildRequestId first step ≠ operatorChildRequestId second other := by
  intro hEq
  have hLast := congrArg (fun text : String => text.toList.getLast?) hEq
  simp only [operatorChildRequestId, String.toList_append, List.getLast?_append, hStep, hOther,
    Option.some_or, Option.some.injEq] at hLast
  exact h hLast

theorem append_ne_of_head {first second rest other : String} {a b : Char}
    (hFirst : first.toList.head? = some a) (hSecond : second.toList.head? = some b) (h : a ≠ b) :
    first ++ rest ≠ second ++ other := by
  intro hEq
  have hHead := congrArg (fun text : String => text.toList.head?) hEq
  simp only [String.toList_append, List.head?_append, hFirst, hSecond, Option.some_or,
    Option.some.injEq] at hHead
  exact h hHead

theorem operatorChildRequestId_eq {requestId step : String} :
    operatorChildRequestId requestId step = "admin:" ++ (requestId ++ (":" ++ step)) := by
  simp only [operatorChildRequestId, String.append_assoc]

theorem releaseRequestId_ne_child {sha256 : String → String}
    {companionId deviceId requestId step : String} :
    releaseRequestId sha256 companionId deviceId ≠ operatorChildRequestId requestId step := by
  rw [operatorChildRequestId_eq]
  unfold releaseRequestId
  exact append_ne_of_head (a := 'c') (b := 'a') (by decide) (by decide) (by decide)

def OperatorProposal.reviewed (proposal : OperatorProposal) : String × Nat × String × Admission.ManifestRef :=
  (proposal.enrollmentId, proposal.proposalRevision, proposal.requestedOwnerDomainId,
    proposal.manifestRef)

/-- Two runs under one key found at the authorities what the earlier of them found. -/
structure SameReadings (sha256 : String → String) (runs : List WorkflowRun) : Prop where
  proposal : ∀ payload answers answers' proposal proposal',
    .admission payload answers ∈ runs → .admission payload answers' ∈ runs →
    Approving payload answers proposal → Approving payload answers' proposal' →
    proposal.reviewed = proposal'.reviewed
  revision : ∀ payload answers answers' companionId revision revision',
    .admission payload answers ∈ runs → .admission payload answers' ∈ runs →
    Assigning payload answers companionId revision →
    Assigning payload answers' companionId revision' → revision = revision'
  assignment : ∀ request request' answers answers' endpoint endpoint',
    .archive request answers ∈ runs → .archive request' answers' ∈ runs →
    request.companionId = request'.companionId →
    Releasing sha256 request answers endpoint → Releasing sha256 request' answers' endpoint' →
    endpoint.deviceId = endpoint'.deviceId →
    request.ownerId = request'.ownerId ∧
      assignmentRevisionOf endpoint = assignmentRevisionOf endpoint'

/-- A caller that sends a request id again sends the payload it stands for. -/
def SamePayload (runs : List WorkflowRun) : Prop :=
  ∀ payload payload' answers answers',
    .admission payload answers ∈ runs → .admission payload' answers' ∈ runs →
    payload.requestId = payload'.requestId → payload = payload'

/-- No two pairs that the runs release share a digest. -/
def DigestsApart (sha256 : String → String) (runs : List WorkflowRun) : Prop :=
  ∀ request request' answers answers' endpoint endpoint',
    .archive request answers ∈ runs → .archive request' answers' ∈ runs →
    Releasing sha256 request answers endpoint → Releasing sha256 request' answers' endpoint' →
    sha256 (request.companionId ++ "\x00" ++ endpoint.deviceId) =
      sha256 (request'.companionId ++ "\x00" ++ endpoint'.deviceId) →
    request.companionId = request'.companionId ∧ endpoint.deviceId = endpoint'.deviceId

theorem decideCall_eq_iff {payload : OperatorDeviceAdmissionRequest}
    {proposal proposal' : OperatorProposal} :
    decideCall payload proposal = decideCall payload proposal' ↔
      proposal.reviewed = proposal'.reviewed := by
  simp [decideCall, OperatorProposal.reviewed]

theorem releaseCall_eq_iff {sha256 : String → String} {request request' : ArchiveRequest}
    {endpoint endpoint' : KernelBodyEndpoint} (hCompanion : request.companionId = request'.companionId)
    (hDevice : endpoint.deviceId = endpoint'.deviceId) :
    releaseCall sha256 request endpoint = releaseCall sha256 request' endpoint' ↔
      request.ownerId = request'.ownerId ∧
        assignmentRevisionOf endpoint = assignmentRevisionOf endpoint' := by
  simp [releaseCall, assignmentRevisionOf, hCompanion, hDevice]

section Discipline

variable {sha256 : String → String} {runs : List WorkflowRun}

theorem hubApprove_ne_kernelMount {first second : String} :
    operatorChildRequestId first "hub-approve" ≠ operatorChildRequestId second "kernel-mount" :=
  operatorChildRequestId_ne (a := 'e') (b := 't') (by decide) (by decide) (by decide)

theorem hubApprove_ne_kernelAssign {first second : String} :
    operatorChildRequestId first "hub-approve" ≠ operatorChildRequestId second "kernel-assign" :=
  operatorChildRequestId_ne (a := 'e') (b := 'n') (by decide) (by decide) (by decide)

theorem kernelMount_ne_kernelAssign {first second : String} :
    operatorChildRequestId first "kernel-mount" ≠ operatorChildRequestId second "kernel-assign" :=
  operatorChildRequestId_ne (a := 't') (b := 'n') (by decide) (by decide) (by decide)

theorem SameReadings.admission_eq (hSame : SameReadings sha256 runs) (hPayload : SamePayload runs)
    {payload payload' : OperatorDeviceAdmissionRequest} {answers answers' : AdmissionAnswers}
    (hRun : .admission payload answers ∈ runs) (hRun' : .admission payload' answers' ∈ runs)
    {first second : Sent} (hFirst : first ∈ (admitOperatorDevice payload answers).sent)
    (hSecond : second ∈ (admitOperatorDevice payload' answers').sent)
    (hId : first.requestId = second.requestId) : first = second := by
  have hOnePayload := hPayload payload payload' answers answers' hRun hRun'
  rcases mem_sent_admitOperatorDevice.mp hFirst with ⟨proposal, hApproving, rfl⟩ | ⟨_, rfl⟩ |
      ⟨companionId, revision, hAssigning, rfl⟩ <;>
    rcases mem_sent_admitOperatorDevice.mp hSecond with ⟨proposal', hApproving', rfl⟩ | ⟨_, rfl⟩ |
      ⟨companionId', revision', hAssigning', rfl⟩
  · obtain rfl := hOnePayload (operatorChildRequestId_injective hId)
    rw [decideCall_eq_iff.mpr
      (hSame.proposal payload _ _ _ _ hRun hRun' hApproving hApproving')]
  · exact absurd hId hubApprove_ne_kernelMount
  · exact absurd hId hubApprove_ne_kernelAssign
  · exact absurd hId.symm hubApprove_ne_kernelMount
  · rw [hOnePayload (operatorChildRequestId_injective hId)]
  · exact absurd hId kernelMount_ne_kernelAssign
  · exact absurd hId.symm hubApprove_ne_kernelAssign
  · exact absurd hId.symm kernelMount_ne_kernelAssign
  · obtain rfl := hOnePayload (operatorChildRequestId_injective hId)
    obtain rfl : companionId = companionId' :=
      Option.some.inj (hAssigning.2.1.symm.trans hAssigning'.2.1)
    rw [hSame.revision payload _ _ _ _ _ hRun hRun' hAssigning hAssigning']

theorem requestId_of_mem_admit {payload : OperatorDeviceAdmissionRequest}
    {answers : AdmissionAnswers} {command : Sent}
    (h : command ∈ (admitOperatorDevice payload answers).sent) :
    ∃ step, command.requestId = operatorChildRequestId payload.requestId step := by
  rcases mem_sent_admitOperatorDevice.mp h with ⟨proposal, _, rfl⟩ | ⟨_, rfl⟩ | ⟨_, _, _, rfl⟩
  · exact ⟨"hub-approve", rfl⟩
  · exact ⟨"kernel-mount", rfl⟩
  · exact ⟨"kernel-assign", rfl⟩

theorem SameReadings.archive_eq (hSame : SameReadings sha256 runs)
    (hDigests : DigestsApart sha256 runs)
    {request request' : ArchiveRequest} {answers answers' : ArchiveAnswers}
    (hRun : .archive request answers ∈ runs) (hRun' : .archive request' answers' ∈ runs)
    {first second : Sent} (hFirst : first ∈ (WorkflowRun.archive request answers).sent sha256)
    (hSecond : second ∈ (WorkflowRun.archive request' answers').sent sha256)
    (hId : first.requestId = second.requestId) : first = second := by
  obtain ⟨endpoint, hReleasing, rfl⟩ := mem_sent_archive.mp hFirst
  obtain ⟨endpoint', hReleasing', rfl⟩ := mem_sent_archive.mp hSecond
  have hDigest := (String.append_right_inj _).mp hId
  obtain ⟨hCompanion, hDevice⟩ := hDigests request request' answers answers' endpoint endpoint'
    hRun hRun' hReleasing hReleasing' hDigest
  rw [(releaseCall_eq_iff hCompanion hDevice).mpr (hSame.assignment request request' answers
    answers' endpoint endpoint' hRun hRun' hCompanion hReleasing hReleasing' hDevice)]

theorem mem_sent_of_run {run : WorkflowRun} {command : Sent} (hRun : run ∈ runs)
    (h : command ∈ run.sent sha256) : command ∈ runs.flatMap (WorkflowRun.sent sha256) :=
  List.mem_flatMap.mpr ⟨run, hRun, h⟩

/-- An id carries one content exactly if what its runs read did not move. -/
theorem oneContentPerId_iff (hPayload : SamePayload runs) (hDigests : DigestsApart sha256 runs) :
    OneContentPerId sha256 runs ↔ SameReadings sha256 runs := by
  constructor
  · intro hOne
    constructor
    · intro payload answers answers' proposal proposal' hRun hRun' hApproving hApproving'
      have hEq := hOne (.decide (decideCall payload proposal))
        (mem_sent_of_run hRun (mem_sent_admitOperatorDevice.mpr (.inl ⟨_, hApproving, rfl⟩)))
        (.decide (decideCall payload proposal'))
        (mem_sent_of_run hRun' (mem_sent_admitOperatorDevice.mpr (.inl ⟨_, hApproving', rfl⟩))) rfl
      exact decideCall_eq_iff.mp (Sent.decide.inj hEq)
    · intro payload answers answers' companionId revision revision' hRun hRun' hAssigning hAssigning'
      have hEq := hOne (.assign (assignCall payload companionId revision))
        (mem_sent_of_run hRun
          (mem_sent_admitOperatorDevice.mpr (.inr (.inr ⟨_, _, hAssigning, rfl⟩))))
        (.assign (assignCall payload companionId revision'))
        (mem_sent_of_run hRun'
          (mem_sent_admitOperatorDevice.mpr (.inr (.inr ⟨_, _, hAssigning', rfl⟩)))) rfl
      exact congrArg AssignmentCall.expectedAssignmentRevision (Sent.assign.inj hEq)
    · intro request request' answers answers' endpoint endpoint' hRun hRun' hCompanion hReleasing
        hReleasing' hDevice
      have hEq := hOne (.assign (releaseCall sha256 request endpoint))
        (mem_sent_of_run hRun (mem_sent_archive.mpr ⟨_, hReleasing, rfl⟩))
        (.assign (releaseCall sha256 request' endpoint'))
        (mem_sent_of_run hRun' (mem_sent_archive.mpr ⟨_, hReleasing', rfl⟩))
        (by simp [Sent.requestId, releaseCall, hCompanion, hDevice])
      exact (releaseCall_eq_iff hCompanion hDevice).mp (Sent.assign.inj hEq)
  · intro hSame first hFirst second hSecond hId
    obtain ⟨run, hRun, hFirst⟩ := List.mem_flatMap.mp hFirst
    obtain ⟨run', hRun', hSecond⟩ := List.mem_flatMap.mp hSecond
    cases run with
    | admission payload answers =>
      cases run' with
      | admission payload' answers' => exact hSame.admission_eq hPayload hRun hRun' hFirst hSecond hId
      | archive request' answers' =>
        obtain ⟨step, hStep⟩ := requestId_of_mem_admit hFirst
        obtain ⟨endpoint, _, rfl⟩ := mem_sent_archive.mp hSecond
        exact absurd (hId.symm.trans hStep) releaseRequestId_ne_child
    | archive request answers =>
      cases run' with
      | admission payload' answers' =>
        obtain ⟨step, hStep⟩ := requestId_of_mem_admit hSecond
        obtain ⟨endpoint, _, rfl⟩ := mem_sent_archive.mp hFirst
        exact absurd (hId.trans hStep) releaseRequestId_ne_child
      | archive request' answers' =>
        exact hSame.archive_eq hDigests hRun hRun' hFirst hSecond hId

end Discipline

namespace Sample

def admission : OperatorDeviceAdmissionRequest :=
  ⟨"request-1", "owner-1", "speaker-study", some "companion-a", 0, false⟩

def approval : ApprovalDecision where
  decisionId := "decision-1"
  enrollmentId := "enrollment-1"
  decision := .approve
  actor := ⟨"ectrl-00000000000000000001", "owner-domain", ["device.claim.approve"], "software"⟩
  targetOwnerDomainId := "owner-domain"
  targetBusinessOwnerId := "owner-1"
  reviewedManifestRef := ⟨"manifest-1", 1, "d1"⟩
  expectedProposalRevision := 1

/-- A device admitted and mounted before; `revision` is that of its Body. -/
def answeredAt (revision : Nat) (assigned : Except AuthorityFailure KernelBodyEndpoint) :
    AdmissionAnswers where
  enrollments := .ok [{
    proposal := {
      proposalRevision := 1, state := .grantAcknowledged, requestedOwnerDomainId := "owner-domain"
      manifestRef := ⟨"manifest-1", 1, "d1"⟩, enrollmentId := "enrollment-1"
      deviceInstanceCandidateId := "speaker-study" }
    approvalDecision := some approval }]
  decided := .ok 1
  recovery := .error (kernelViolation "not asked")
  mounts := .ok [{ deviceId := "speaker-study", ownerId := "owner-1", active := true, revision := 1 }]
  mounted := .error (kernelViolation "not asked")
  endpoints := .ok [{ speaker ⟨none, revision⟩ with
    assignment := if revision = 0 then none else some ⟨some "companion-a", revision⟩ }]
  assigned

def answerLost : AuthorityFailure where
  authority := .kernel
  kind := .unavailable
  detail := "kernel authority is unreachable"
  statusCode := 503
  retryable := true

/-- The Kernel assigns the Body, its answer is lost, and the caller tries again. -/
def retried : List WorkflowRun :=
  [.admission admission (answeredAt 0 (.error answerLost)),
   .admission admission (answeredAt 1 (.ok (speaker ⟨some "companion-a", 2⟩)))]

end Sample

theorem samePayload_retried : SamePayload Sample.retried := by
  intro payload payload' answers answers' hRun hRun' _
  simp only [Sample.retried, List.mem_cons, WorkflowRun.admission.injEq, List.not_mem_nil,
    or_false] at hRun hRun'
  rcases hRun with ⟨rfl, _⟩ | ⟨rfl, _⟩ <;> rcases hRun' with ⟨rfl, _⟩ | ⟨rfl, _⟩ <;> rfl

theorem digestsApart_retried : DigestsApart id Sample.retried := by
  intro request request' answers answers' endpoint endpoint' hRun
  simp [Sample.retried] at hRun

theorem oneContentPerId_retried :
    SamePayload Sample.retried ∧ DigestsApart id Sample.retried ∧
      (OneContentPerId id Sample.retried ↔ SameReadings id Sample.retried) :=
  ⟨samePayload_retried, digestsApart_retried,
    oneContentPerId_iff samePayload_retried digestsApart_retried⟩

/-- The retry presents another expected revision under the same id. -/
theorem retry_changes_content :
    SamePayload Sample.retried ∧ DigestsApart id Sample.retried ∧
      Sample.retried.flatMap (WorkflowRun.sent id) =
        [.assign (assignCall Sample.admission "companion-a" 0),
         .assign (assignCall Sample.admission "companion-a" 1)] ∧
      ¬ OneContentPerId id Sample.retried := by
  have hSent : Sample.retried.flatMap (WorkflowRun.sent id) =
      [.assign (assignCall Sample.admission "companion-a" 0),
       .assign (assignCall Sample.admission "companion-a" 1)] := rfl
  refine ⟨samePayload_retried, digestsApart_retried, hSent, ?_⟩
  intro hOne
  have hEq := hOne (.assign (assignCall Sample.admission "companion-a" 0)) (by simp [hSent])
    (.assign (assignCall Sample.admission "companion-a" 1)) (by simp [hSent]) rfl
  exact absurd (congrArg AssignmentCall.expectedAssignmentRevision (Sent.assign.inj hEq))
    (by decide)

end EidolonAdmin.Management
