import EidolonAdmin.Foundation.Transition
import EidolonAdmin.Admission.DecisionLedger

/-! # The decision workflow

`decide_controller_enrollment`, cut at its three Hub calls. A call goes on with the
answer of Hub, or is lost: a crash loses every call in flight. Before it comes to
what the ledger holds, each call validates the Proposal as Hub reports it then.
-/

namespace EidolonAdmin.Admission

open Foundation Foundation.Table Foundation.Transition
open Removal (AuthorityFailure Raised)

inductive EnrollmentProposalState where
  | pendingReview
  | approvedAwaitingHandoff
  | grantDelivered
  | grantAcknowledged
  | rejected
  | expired
  | canceled
  | claimRevoked
deriving DecidableEq, Repr

structure EnrollmentProposal where
  proposalRevision : Nat
  state : EnrollmentProposalState
  requestedOwnerDomainId : String
  manifestRef : ManifestRef
deriving DecidableEq, Repr

structure ApprovalDecision where
  decisionId : String
  enrollmentId : String
  decision : Decision
  actor : ControllerActorRef
  targetOwnerDomainId : String
  targetBusinessOwnerId : String
  reviewedManifestRef : ManifestRef
  expectedProposalRevision : Nat
deriving DecidableEq, Repr

structure EnrollmentRecoveryProjection where
  proposal : EnrollmentProposal
  approvalDecision : Option ApprovalDecision
deriving DecidableEq, Repr

structure AdmissionDecisionWorkflowResult where
  requestId : String
  intentId : String
  commandId : String
  checkpoint : Checkpoint
  decisionResult : Option DecideEnrollmentResult
  recovery : EnrollmentRecoveryProjection
deriving DecidableEq, Repr

def hubConflict (detail : String) : AuthorityFailure :=
  { authority := .hub, kind := .conflict, detail, statusCode := 409 }

def hubViolation (detail : String) : AuthorityFailure :=
  { authority := .hub, kind := .contractViolation, detail, statusCode := 502 }

/-- The handlers catch a `ValueError` only. -/
def LedgerError.raised : LedgerError → Raised
  | requestReused =>
    .authority (hubConflict "Admission Decision request id was reused with different context")
  | resultChanged => .authority (hubConflict "Hub Decision result changed for an existing intent")
  | intentMissing => .authority (hubConflict "Admission Decision intent does not exist")
  | key intentId => .key intentId
  | integrity => .integrity

def ApprovalDecision.answers (committed : ApprovalDecision) (request : DecisionRequest) : Bool :=
  committed.enrollmentId = request.decision.enrollmentId ∧
  committed.actor = request.actor ∧
  committed.decision = request.decision.decision ∧
  committed.targetOwnerDomainId = request.decision.targetOwnerDomainId ∧
  committed.targetBusinessOwnerId = request.decision.targetBusinessOwnerId ∧
  committed.reviewedManifestRef = request.decision.reviewedManifestRef ∧
  committed.expectedProposalRevision = request.decision.expectedProposalRevision

def validateDecisionTarget (request : DecisionRequest) (recovery : EnrollmentRecoveryProjection) :
    Except AuthorityFailure Unit :=
  if recovery.proposal.requestedOwnerDomainId ≠ request.decision.targetOwnerDomainId ∨
      recovery.proposal.manifestRef ≠ request.decision.reviewedManifestRef then
    .error (hubConflict "Hub Proposal no longer matches the explicit Decision")
  else if recovery.proposal.state = .pendingReview then
    if recovery.proposal.proposalRevision ≠ request.decision.expectedProposalRevision then
      .error (hubConflict "Hub Proposal revision changed")
    else .ok ()
  else if (recovery.proposal.state = .approvedAwaitingHandoff ∨
        recovery.proposal.state = .grantDelivered) ∧
      recovery.approvalDecision.any (fun committed => committed.answers request) = true then .ok ()
  else .error (hubConflict "Hub Proposal is not decision-recoverable")

def validateCommittedDecision (request : DecisionRequest) (result : Option DecideEnrollmentResult)
    (recovery : EnrollmentRecoveryProjection) : Except AuthorityFailure Unit :=
  match result, recovery.approvalDecision with
  | some result, some decision =>
    if decision.decisionId ≠ result.decisionId ∨ result.decidedBy ≠ request.actor ∨
        result.decision ≠ request.decision.decision ∨ decision.actor ≠ request.actor ∨
        decision.decision ≠ request.decision.decision ∨
        decision.targetBusinessOwnerId ≠ request.decision.targetBusinessOwnerId ∨
        decision.targetOwnerDomainId ≠ request.decision.targetOwnerDomainId then
      .error (hubViolation "Hub recovery Decision changed identity or scope")
    else .ok ()
  | _, _ => .error (hubViolation "Hub omitted the committed Decision")

/-- The result model, whose validator compares the checkpoint with the result. -/
def workflowResult (request : DecisionRequest) (intent : AdmissionDecisionIntent)
    (recovery : EnrollmentRecoveryProjection) : Except Raised AdmissionDecisionWorkflowResult :=
  if intent.checkpoint = .decisionCommitted ↔ intent.result.isSome = true then
    .ok {
      requestId := request.requestId, intentId := intent.intentId, commandId := intent.commandId
      checkpoint := intent.checkpoint, decisionResult := intent.result, recovery }
  else .error .validation

inductive Phase where
  | target
  | decide
  | recovery
deriving DecidableEq, Repr

/-- A call in flight: its request, the result that was stored when it began, the
intent it holds and what it waits for. -/
structure Call where
  request : DecisionRequest
  stored : Option DecideEnrollmentResult
  intent : AdmissionDecisionIntent
  phase : Phase

def Call.outcome (call : Call) (answer : Except AuthorityFailure EnrollmentRecoveryProjection) :
    Except Raised AdmissionDecisionWorkflowResult :=
  match answer with
  | .error failure => .error (.authority failure)
  | .ok recovery =>
    match validateCommittedDecision call.request call.intent.result recovery with
    | .error failure => .error (.authority failure)
    | .ok () => workflowResult call.request call.intent recovery

structure SentCommand where
  request : DecisionRequest
  commandId : String
  correlationId : String

structure Returned where
  request : DecisionRequest
  stored : Option DecideEnrollmentResult
  outcome : Except Raised AdmissionDecisionWorkflowResult

structure Desk (codec : Codec) (store : DecisionStore codec) where
  ledger : store.σ
  waiting : List Call := []
  sent : List SentCommand := []
  returned : List Returned := []

inductive DecisionEvent where
  | submit (request : DecisionRequest) (now : Int)
  | recovered (call : Nat) (answer : Except AuthorityFailure EnrollmentRecoveryProjection)
  | decided (call : Nat) (answer : Except AuthorityFailure DecideEnrollmentResult) (now : Int)
  | lost (call : Nat)

namespace Desk

variable {codec : Codec} {store : DecisionStore codec}

def opened (store : DecisionStore codec) : Desk codec store := { ledger := store.empty }

def rows (desk : Desk codec store) : List AdmissionDecisionIntent := store.intents desk.ledger

def finish (desk : Desk codec store) (i : Nat) (call : Call)
    (outcome : Except Raised AdmissionDecisionWorkflowResult) : Desk codec store :=
  { desk with
    waiting := desk.waiting.eraseIdx i
    returned := desk.returned ++ [⟨call.request, call.stored, outcome⟩] }

def proceed (desk : Desk codec store) (i : Nat) (call : Call) : Desk codec store :=
  { desk with waiting := desk.waiting.set i call }

/-- Up to the first Hub call. -/
def submit (desk : Desk codec store) (request : DecisionRequest) (now : Int) : Desk codec store :=
  match store.getOrCreate request now desk.ledger with
  | (.error error, ledger) =>
    { desk with ledger, returned := desk.returned ++ [⟨request, none, .error error.raised⟩] }
  | (.ok intent, ledger) =>
    { desk with ledger, waiting := desk.waiting ++ [⟨request, intent.result, intent, .target⟩] }

/-- After the first reading: the command is sent unless a result is stored. -/
def targetRecovered (desk : Desk codec store) (i : Nat) (call : Call)
    (answer : Except AuthorityFailure EnrollmentRecoveryProjection) : Desk codec store :=
  match answer.bind (validateDecisionTarget call.request) with
  | .error failure => desk.finish i call (.error (.authority failure))
  | .ok () =>
    if call.intent.result.isNone then
      { desk.proceed i { call with phase := .decide } with
        sent := desk.sent ++ [⟨call.request, call.intent.commandId, call.intent.correlationId⟩] }
    else desk.proceed i { call with phase := .recovery }

/-- After the command: the result is recorded. -/
def decisionAnswered (desk : Desk codec store) (i : Nat) (call : Call)
    (answer : Except AuthorityFailure DecideEnrollmentResult) (now : Int) : Desk codec store :=
  match answer with
  | .error failure => desk.finish i call (.error (.authority failure))
  | .ok result =>
    match store.markDecisionCommitted call.intent.intentId result now desk.ledger with
    | (.error error, ledger) => { desk with ledger }.finish i call (.error error.raised)
    | (.ok intent, ledger) => { desk with ledger }.proceed i { call with intent, phase := .recovery }

/-- After the second reading: the recorded result is returned. -/
def decisionRecovered (desk : Desk codec store) (i : Nat) (call : Call)
    (answer : Except AuthorityFailure EnrollmentRecoveryProjection) : Desk codec store :=
  desk.finish i call (call.outcome answer)

def step (desk : Desk codec store) : DecisionEvent → Desk codec store
  | .submit request now => desk.submit request now
  | .recovered i answer =>
    match desk.waiting[i]? with
    | some call =>
      match call.phase with
      | .target => desk.targetRecovered i call answer
      | .recovery => desk.decisionRecovered i call answer
      | .decide => desk
    | none => desk
  | .decided i answer now =>
    match desk.waiting[i]? with
    | some call =>
      match call.phase with
      | .decide => desk.decisionAnswered i call answer now
      | .target | .recovery => desk
    | none => desk
  | .lost i => { desk with waiting := desk.waiting.eraseIdx i }

def after (store : DecisionStore codec) (events : List DecisionEvent) : Desk codec store :=
  run step (opened store) events

inductive Did (desk : Desk codec store) : DecisionEvent → Desk codec store → Prop where
  | ignored (event : DecisionEvent) : Did desk event desk
  | lost (i : Nat) : Did desk (.lost i) { desk with waiting := desk.waiting.eraseIdx i }
  | refused {request : DecisionRequest} {now : Int} {error : LedgerError}
      (hRefused : store.getOrCreate request now desk.ledger = (.error error, desk.ledger)) :
      Did desk (.submit request now)
        { desk with returned := desk.returned ++ [⟨request, none, .error error.raised⟩] }
  | submitted {request : DecisionRequest} {now : Int} {intent : AdmissionDecisionIntent}
      {ledger : store.σ} (hOk : store.getOrCreate request now desk.ledger = (.ok intent, ledger)) :
      Did desk (.submit request now)
        { desk with ledger, waiting := desk.waiting ++ [⟨request, intent.result, intent, .target⟩] }
  | targetRefused {i : Nat} {call : Call} {failure : AuthorityFailure}
      {answer : Except AuthorityFailure EnrollmentRecoveryProjection}
      (hCall : desk.waiting[i]? = some call) (hPhase : call.phase = .target)
      (hFailure : answer.bind (validateDecisionTarget call.request) = .error failure) :
      Did desk (.recovered i answer) (desk.finish i call (.error (.authority failure)))
  | commanded {i : Nat} {call : Call}
      {answer : Except AuthorityFailure EnrollmentRecoveryProjection}
      (hCall : desk.waiting[i]? = some call) (hPhase : call.phase = .target)
      (hNone : call.intent.result = none) :
      Did desk (.recovered i answer)
        { desk.proceed i { call with phase := .decide } with
          sent := desk.sent ++ [⟨call.request, call.intent.commandId, call.intent.correlationId⟩] }
  | resumed {i : Nat} {call : Call}
      {answer : Except AuthorityFailure EnrollmentRecoveryProjection}
      (hCall : desk.waiting[i]? = some call) (hPhase : call.phase = .target)
      (hSome : call.intent.result.isSome = true) :
      Did desk (.recovered i answer) (desk.proceed i { call with phase := .recovery })
  | undecided {i : Nat} {call : Call} {answer : Except AuthorityFailure DecideEnrollmentResult}
      {now : Int} (hCall : desk.waiting[i]? = some call) (hPhase : call.phase = .decide)
      (raised : Raised) : Did desk (.decided i answer now) (desk.finish i call (.error raised))
  | recorded {i : Nat} {call : Call} {result : DecideEnrollmentResult} {now : Int}
      {intent : AdmissionDecisionIntent} {ledger : store.σ}
      (hCall : desk.waiting[i]? = some call) (hPhase : call.phase = .decide)
      (hOk : store.markDecisionCommitted call.intent.intentId result now desk.ledger =
        (.ok intent, ledger)) :
      Did desk (.decided i (.ok result) now)
        ({ desk with ledger }.proceed i { call with intent, phase := .recovery })
  | ended {i : Nat} {call : Call}
      {answer : Except AuthorityFailure EnrollmentRecoveryProjection}
      (hCall : desk.waiting[i]? = some call) (hPhase : call.phase = .recovery) :
      Did desk (.recovered i answer) (desk.finish i call (call.outcome answer))

theorem submit_did (desk : Desk codec store) (request : DecisionRequest) (now : Int) :
    desk.Did (.submit request now) (desk.submit request now) := by
  unfold submit
  split
  · rename_i error ledger hRefused
    obtain rfl := store.getOrCreate_error hRefused
    exact .refused hRefused
  · rename_i intent ledger hOk
    exact .submitted hOk

theorem targetRecovered_did {desk : Desk codec store} {i : Nat} {call : Call}
    (hCall : desk.waiting[i]? = some call) (hPhase : call.phase = .target)
    (answer : Except AuthorityFailure EnrollmentRecoveryProjection) :
    desk.Did (.recovered i answer) (desk.targetRecovered i call answer) := by
  unfold targetRecovered
  split
  · rename_i failure hFailure
    exact .targetRefused hCall hPhase hFailure
  · split
    · rename_i hNone
      exact .commanded hCall hPhase (by simpa using hNone)
    · rename_i hSome
      exact .resumed hCall hPhase (by simpa [Option.isSome_iff_ne_none] using hSome)

theorem decisionAnswered_did {desk : Desk codec store} {i : Nat} {call : Call}
    (hCall : desk.waiting[i]? = some call) (hPhase : call.phase = .decide)
    (answer : Except AuthorityFailure DecideEnrollmentResult) (now : Int) :
    desk.Did (.decided i answer now) (desk.decisionAnswered i call answer now) := by
  unfold decisionAnswered
  split
  · exact .undecided hCall hPhase _
  · split
    · rename_i hRefused
      obtain rfl := store.mark_error hRefused
      exact .undecided hCall hPhase _
    · rename_i hOk
      exact .recorded hCall hPhase hOk

theorem step_did (desk : Desk codec store) (event : DecisionEvent) :
    desk.Did event (desk.step event) := by
  cases event with
  | submit request now => exact submit_did desk request now
  | lost i => exact .lost i
  | recovered i answer =>
    simp only [step]
    split
    · rename_i call hCall
      split
      · rename_i hPhase
        exact targetRecovered_did hCall hPhase answer
      · rename_i hPhase
        exact .ended hCall hPhase
      · exact .ignored _
    · exact .ignored _
  | decided i answer now =>
    simp only [step]
    split
    · rename_i call hCall
      split
      · rename_i hPhase
        exact decisionAnswered_did hCall hPhase answer now
      · exact .ignored _
      · exact .ignored _
    · exact .ignored _

end Desk

end EidolonAdmin.Admission
