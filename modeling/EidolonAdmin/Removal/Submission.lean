import EidolonAdmin.Removal.Workflow

/-! # Submitting a removal

From `AdminDeviceAdmissionClient.remove`, which stamps the authorization context,
through the checks of the Lifecycle Workflow daemon to the stored intent. The
context is part of what the ledger compares, so a repeated request resumes its
intent exactly when the stamped fields are the same.
-/

namespace EidolonAdmin.Removal

open Foundation.Transition

/-- One call of `remove` with the clock readings that it and the daemon take. -/
structure Submission where
  payload : ControllerDeviceRemovalRequest
  controllerResetEpoch : Int
  authorizationExpiresAt : Int
  targetDeviceRef : DeviceRef
  issuedAt : Int
  receivedAt : Int
  startedAt : Int
deriving DecidableEq, Repr

def removalScopes : List String := ["device.read", "device.claim.revoke"]

def Submission.authorizationContext (digests : Digests) (s : Submission) :
    RemovalOwnerAuthorizationContext where
  controllerGrantGeneration := s.controllerResetEpoch
  resetEpoch := s.controllerResetEpoch
  ownerAuthorizationContext :=
    { workloadPrincipalId := "eidolon-lifecycle-workflow"
      actor :=
        { principalId := s.payload.controllerId
          principalType := "controller"
          ownerDomainId := s.targetDeviceRef.ownerDomainId
          grantedScopes := removalScopes
          authenticationStrength := "software" }
      authorizedOwnerDomainId := s.targetDeviceRef.ownerDomainId
      scopes := removalScopes
      intentId := digests.removalIntentId s.payload.requestId s.targetDeviceRef.ownerDomainId
      targetDeviceRef := s.targetDeviceRef
      issuedAt := s.issuedAt
      expiresAt := s.authorizationExpiresAt }

/-- The comparison that the daemon makes before it runs the workflow. -/
def delegationMatches (digests : Digests) (principalId : String)
    (payload : ControllerDeviceRemovalRequest) (context : RemovalOwnerAuthorizationContext) :
    Bool :=
  context.issuerWorkloadPrincipalId = principalId ∧
  context.presenterWorkloadPrincipalId = "eidolon-lifecycle-workflow" ∧
  context.ownerAuthorizationContext.workloadPrincipalId = context.presenterWorkloadPrincipalId ∧
  context.ownerAuthorizationContext.audience = "eidolon-admission" ∧
  (context.ownerAuthorizationContext.scopes.all (· ∈ removalScopes) ∧
    removalScopes.all (· ∈ context.ownerAuthorizationContext.scopes)) ∧
  context.actorControllerId = payload.controllerId ∧
  context.ownerAuthorizationContext.actor.principalType = "controller" ∧
  context.targetDeviceRef.deviceInstanceId = payload.deviceId ∧
  context.intentId =
    digests.removalIntentId payload.requestId context.authorizedOwnerDomainId ∧
  context.controllerGrantGeneration = context.resetEpoch

inductive Rejection where
  | delegationExpired
  | principalNotAuthorized
  | delegationMismatch
deriving DecidableEq, Repr

/-- `_handle_connection` for an authenticated peer, up to the workflow. -/
def admitCall (digests : Digests) (principalId : String)
    (payload : ControllerDeviceRemovalRequest) (context : RemovalOwnerAuthorizationContext)
    (receivedAt : Int) : Except Rejection Unit :=
  if context.deadline ≤ receivedAt then .error .delegationExpired
  else if principalId ≠ "eidolon-local-api" then .error .principalNotAuthorized
  else if delegationMatches digests principalId payload context = false then
    .error .delegationMismatch
  else .ok ()

inductive SubmissionError where
  | rejected (rejection : Rejection)
  | raised (raised : Raised)
deriving DecidableEq, Repr

/-- A submission by the Local API, up to the intent it resolves to. -/
def resolve (encoding : Encoding) (s : Submission) (ledger : Ledger) :
    Except SubmissionError RemovalIntent × Ledger :=
  match admitCall encoding.toDigests "eidolon-local-api" s.payload
    (s.authorizationContext encoding.toDigests) s.receivedAt with
  | .error rejection => (.error (.rejected rejection), ledger)
  | .ok () =>
    match openIntent encoding s.payload "eidolon-local-api"
      (s.authorizationContext encoding.toDigests) s.startedAt ledger with
    | (.error raised, next) => (.error (.raised raised), next)
    | (.ok intent, next) => (.ok intent, next)

/-- The session is valid and the reference is that of the device. -/
def Submission.Valid (s : Submission) : Prop :=
  s.receivedAt < s.authorizationExpiresAt ∧
    s.targetDeviceRef.deviceInstanceId = s.payload.deviceId

def Submission.SameRemoval (first second : Submission) : Prop :=
  first.payload.requestId = second.payload.requestId ∧
  first.payload.reason = second.payload.reason ∧
  first.payload.controllerId = second.payload.controllerId ∧
  first.targetDeviceRef = second.targetDeviceRef

def Submission.SameStamps (first second : Submission) : Prop :=
  first.issuedAt = second.issuedAt ∧
  first.authorizationExpiresAt = second.authorizationExpiresAt ∧
  first.controllerResetEpoch = second.controllerResetEpoch

instance (first second : Submission) : Decidable (first.SameStamps second) :=
  inferInstanceAs (Decidable (_ ∧ _))

theorem admitCall_authorizationContext (digests : Digests) {s : Submission} (h : s.Valid) :
    admitCall digests "eidolon-local-api" s.payload (s.authorizationContext digests)
      s.receivedAt = .ok () := by
  obtain ⟨hOpen, hDevice⟩ := h
  have hDeadline : ¬ (s.authorizationContext digests).deadline ≤ s.receivedAt := not_le.mpr hOpen
  have hMatches : delegationMatches digests "eidolon-local-api" s.payload
      (s.authorizationContext digests) = true := by
    simp [delegationMatches, Submission.authorizationContext, removalScopes,
      RemovalOwnerAuthorizationContext.actorControllerId,
      RemovalOwnerAuthorizationContext.targetDeviceRef,
      RemovalOwnerAuthorizationContext.intentId,
      RemovalOwnerAuthorizationContext.authorizedOwnerDomainId, hDevice]
  unfold admitCall
  rw [if_neg hDeadline, if_neg (by decide), hMatches, if_neg (by decide)]

theorem resolve_ok {encoding : Encoding} {s : Submission} {ledger next : Ledger}
    {intent : RemovalIntent} (h : resolve encoding s ledger = (.ok intent, next)) :
    next.findRequest s.targetDeviceRef.ownerDomainId s.payload.requestId = some intent ∧
      intent.toIntentContent = intentContent encoding s.payload "eidolon-local-api"
        (s.authorizationContext encoding.toDigests) ∧
      intent.intentId =
        encoding.removalIntentId s.payload.requestId s.targetDeviceRef.ownerDomainId := by
  unfold resolve at h
  split at h
  · cases h
  · split at h
    · cases h
    · rename_i hOpened
      cases h
      obtain ⟨hCreated, hIdentity⟩ := openIntent_ok_iff.mp hOpened
      obtain ⟨hFound, hContent, _⟩ := Ledger.getOrCreate_ok hCreated
      exact ⟨hFound, hContent, hIdentity⟩

theorem authorizationContext_eq_iff (digests : Digests) {first second : Submission}
    (h : first.SameRemoval second) :
    first.authorizationContext digests = second.authorizationContext digests ↔
      first.SameStamps second := by
  obtain ⟨hRequest, _, hController, hRef⟩ := h
  simp only [Submission.authorizationContext, hRequest, hController, hRef, Submission.SameStamps,
    RemovalOwnerAuthorizationContext.mk.injEq, OwnerAuthorizationContext.mk.injEq, true_and]
  constructor
  · rintro ⟨hEpoch, _, hIssued, hExpires⟩
    exact ⟨hIssued, hExpires, hEpoch⟩
  · rintro ⟨hIssued, hExpires, hEpoch⟩
    exact ⟨hEpoch, hEpoch, hIssued, hExpires⟩

section Resubmission

variable {encoding : Encoding} {ledger mid : Ledger} {first second : Submission}
  {intent : RemovalIntent}

def ToldApart (encoding : Encoding) (first second : Submission) : Prop :=
  encoding.contextJson (first.authorizationContext encoding.toDigests) =
      encoding.contextJson (second.authorizationContext encoding.toDigests) →
    first.authorizationContext encoding.toDigests = second.authorizationContext encoding.toDigests

theorem intentContent_eq_iff (h : first.SameRemoval second) (hJson : ToldApart encoding first second) :
    intentContent encoding first.payload "eidolon-local-api"
        (first.authorizationContext encoding.toDigests) =
      intentContent encoding second.payload "eidolon-local-api"
        (second.authorizationContext encoding.toDigests) ↔ first.SameStamps second := by
  rw [← authorizationContext_eq_iff encoding.toDigests h]
  constructor
  · intro hContent
    exact hJson (congrArg IntentContent.authorizationContextJson hContent)
  · intro hContext
    obtain ⟨hRequest, hReason, hController, _⟩ := h
    simp only [intentContent, hContext, hRequest, hReason, hController]

theorem resolve_again (between : List LedgerOp) (hSame : first.SameRemoval second)
    (hValid : second.Valid) (hJson : ToldApart encoding first second)
    (hFirst : resolve encoding first ledger = (.ok intent, mid)) :
    ∃ row, Ledger.frozen row = Ledger.frozen intent ∧
      resolve encoding second (run (Ledger.apply encoding.toDigests) mid between) =
        (if first.SameStamps second then .ok row
          else .error (.raised (conflict "request_id was reused with different removal content")),
        run (Ledger.apply encoding.toDigests) mid between) := by
  obtain ⟨hStored, hContent, hIdentity⟩ := resolve_ok hFirst
  obtain ⟨row, hFound, hFrozen⟩ : ∃ row, (run (Ledger.apply encoding.toDigests) mid
      between).findRequest first.targetDeviceRef.ownerDomainId first.payload.requestId =
        some row ∧ Ledger.frozen row = Ledger.frozen intent :=
    Ledger.findRequest_run hStored between
  refine ⟨row, hFrozen, ?_⟩
  obtain ⟨hRowContent, hRowIntent, _⟩ : row.toIntentContent = intent.toIntentContent ∧
      row.intentId = intent.intentId ∧ row.hubCommandId = intent.hubCommandId := by
    simpa only [Ledger.frozen, Prod.mk.injEq] using hFrozen
  rw [hSame.1, hSame.2.2.2] at hFound hIdentity
  have hAgain : Ledger.getOrCreate encoding.toDigests
      (intentContent encoding second.payload "eidolon-local-api"
        (second.authorizationContext encoding.toDigests)) second.startedAt
      (run (Ledger.apply encoding.toDigests) mid between) = _ :=
    Ledger.getOrCreate_found rfl hFound
  rw [hRowContent, hContent] at hAgain
  unfold resolve
  rw [admitCall_authorizationContext encoding.toDigests hValid]
  by_cases hStamps : first.SameStamps second
  · rw [if_pos ((intentContent_eq_iff hSame hJson).mpr hStamps)] at hAgain
    have hOpened := openIntent_ok_iff.mpr ⟨hAgain, hRowIntent.trans hIdentity⟩
    rw [hOpened, if_pos hStamps]
  · rw [if_neg fun hEq => hStamps ((intentContent_eq_iff hSame hJson).mp hEq)] at hAgain
    rw [openIntent_reused hAgain, if_neg hStamps]

/-- A repeated submission of a removal resolves to the stored intent exactly if it
carries the issue time, the expiry and the reset epoch of the first; otherwise it
is refused as a reused request. -/
theorem resubmission_resumes_iff (between : List LedgerOp) (hSame : first.SameRemoval second)
    (hValid : second.Valid) (hJson : ToldApart encoding first second)
    (hFirst : resolve encoding first ledger = (.ok intent, mid)) :
    ((∃ resumed next, resolve encoding second
          (run (Ledger.apply encoding.toDigests) mid between) = (.ok resumed, next) ∧
        resumed.intentId = intent.intentId ∧ resumed.hubCommandId = intent.hubCommandId) ↔
      first.SameStamps second) ∧
    (¬ first.SameStamps second →
      (resolve encoding second (run (Ledger.apply encoding.toDigests) mid between)).1 =
        .error (.raised (conflict "request_id was reused with different removal content"))) := by
  obtain ⟨row, hFrozen, hAgain⟩ := resolve_again between hSame hValid hJson hFirst
  rw [hAgain]
  refine ⟨?_, fun hStamps => if_neg hStamps⟩
  constructor
  · rintro ⟨resumed, next, hResumed, _⟩
    by_contra hStamps
    rw [if_neg hStamps] at hResumed
    cases hResumed
  · intro hStamps
    simp only [Ledger.frozen, Prod.mk.injEq] at hFrozen
    exact ⟨row, _, by rw [if_pos hStamps], hFrozen.2.1, hFrozen.2.2⟩

def Submission.newIntent (encoding : Encoding) (s : Submission) : RemovalIntent :=
  Ledger.newIntent encoding.toDigests (intentContent encoding s.payload "eidolon-local-api"
    (s.authorizationContext encoding.toDigests)) s.startedAt

theorem resolve_new {s : Submission} (hValid : s.Valid)
    (hNone : ledger.findRequest s.targetDeviceRef.ownerDomainId s.payload.requestId = none)
    (hAccepts : ledger.accepts (s.newIntent encoding)) :
    resolve encoding s ledger = (.ok (s.newIntent encoding), ledger ++ [s.newIntent encoding]) := by
  unfold resolve
  rw [admitCall_authorizationContext encoding.toDigests hValid]
  rw [openIntent_new hNone hAccepts rfl]
  rfl

end Resubmission

namespace Sample

def deviceRef : DeviceRef where
  deviceInstanceId := "device-cb2f012772ec"
  ownerDomainId := "owner-domain-a"
  ownerDomainGeneration := 3
  claimGeneration := 2
  trustEpoch := 1

def payload : ControllerDeviceRemovalRequest where
  requestId := "device-removal-8b0d1f2e"
  ownerId := "owner_683f963f54885e868924"
  controllerId := "ectrl-0123456789abcdef0123"
  deviceId := "device-cb2f012772ec"
  reason := "owner-removed"

def submission : Submission where
  payload
  controllerResetEpoch := 4
  authorizationExpiresAt := 1787659500000000
  targetDeviceRef := deviceRef
  issuedAt := 1787659200000000
  receivedAt := 1787659200000000
  startedAt := 1787659200000000

/-- The same removal, repeated in the same session half a minute later. -/
def repeated : Submission :=
  { submission with
    issuedAt := 1787659230000000
    receivedAt := 1787659230000000
    startedAt := 1787659230000000 }

def quoted (text : String) : String := "\"" ++ text ++ "\""

def object (fields : List (String × String)) : String :=
  "\x7b" ++ ",".intercalate (fields.map fun field => quoted field.1 ++ ":" ++ field.2) ++ "\x7d"

def array (items : List String) : String := "[" ++ ",".intercalate (items.map quoted) ++ "]"

/-- The instants of the two submissions as `pydantic` writes them. -/
def isoformat (instant : Int) : String :=
  if instant = 1787659200000000 then "2026-08-25T12:00:00Z"
  else if instant = 1787659230000000 then "2026-08-25T12:00:30Z"
  else "2026-08-25T12:05:00Z"

def contextJson (context : RemovalOwnerAuthorizationContext) : String :=
  let owner := context.ownerAuthorizationContext
  object
    [("contract_version", quoted context.contractVersion),
     ("controller_grant_generation", toString context.controllerGrantGeneration),
     ("issuer_workload_principal_id", quoted context.issuerWorkloadPrincipalId),
     ("owner_authorization_context", object
       [("actor", object
          [("authentication_strength", quoted owner.actor.authenticationStrength),
           ("granted_scopes", array owner.actor.grantedScopes),
           ("owner_domain_id", quoted owner.actor.ownerDomainId),
           ("principal_id", quoted owner.actor.principalId),
           ("principal_type", quoted owner.actor.principalType)]),
        ("audience", quoted owner.audience),
        ("authorized_owner_domain_id", quoted owner.authorizedOwnerDomainId),
        ("expires_at", quoted (isoformat owner.expiresAt)),
        ("intent_id", quoted owner.intentId),
        ("issued_at", quoted (isoformat owner.issuedAt)),
        ("scopes", array owner.scopes),
        ("target_device_ref", object
          [("claim_generation", toString owner.targetDeviceRef.claimGeneration),
           ("device_instance_id", quoted owner.targetDeviceRef.deviceInstanceId),
           ("owner_domain_generation", toString owner.targetDeviceRef.ownerDomainGeneration),
           ("owner_domain_id", quoted owner.targetDeviceRef.ownerDomainId),
           ("trust_epoch", toString owner.targetDeviceRef.trustEpoch)]),
        ("workload_principal_id", quoted owner.workloadPrincipalId)]),
     ("presenter_workload_principal_id", quoted context.presenterWorkloadPrincipalId),
     ("reset_epoch", toString context.resetEpoch)]

def uuid5 (_ name : String) : String :=
  if name = "eidolon-removal-intent-v1:owner-domain-a:device-removal-8b0d1f2e" then
    "8a144dc4c54251528f79a6017a8b995f"
  else "c64e123364ba5364aab643c1873fb166"

def sha256 (text : String) : String :=
  if text = contextJson (submission.authorizationContext ⟨uuid5, id⟩) then
    "8b0e0816611e9b43f404465eef06ebd3885273806799bb804a5c233936e0abd4"
  else "575d0d6e0b8a8733924e737f4b608dabdfc370f24c1e6874ebf0a6bf3c06c91b"

def encoding : Encoding := { uuid5, sha256, contextJson }

def context : RemovalOwnerAuthorizationContext :=
  submission.authorizationContext encoding.toDigests

def intent : RemovalIntent := submission.newIntent encoding

theorem sameRemoval_repeated : submission.SameRemoval repeated := ⟨rfl, rfl, rfl, rfl⟩

theorem valid_submission : submission.Valid := ⟨by decide, rfl⟩

theorem valid_repeated : repeated.Valid := ⟨by decide, rfl⟩

theorem toldApart_repeated : ToldApart encoding submission repeated := by
  intro hSame
  exact absurd hSame (by decide +kernel)

theorem resolve_submission : resolve encoding submission [] = (.ok intent, [intent]) :=
  resolve_new valid_submission rfl (by decide)

/-- Half a minute later, in the same session, the same removal is refused. -/
theorem repeated_removal_refused :
    submission.SameRemoval repeated ∧ repeated.Valid ∧
    resolve encoding submission [] = (.ok intent, [intent]) ∧
    resolve encoding repeated [intent] =
      (.error (.raised (conflict "request_id was reused with different removal content")),
        [intent]) := by
  refine ⟨sameRemoval_repeated, valid_repeated, resolve_submission, ?_⟩
  obtain ⟨row, _, hAgain⟩ := resolve_again [] sameRemoval_repeated valid_repeated
    toldApart_repeated resolve_submission
  rw [if_neg (by decide)] at hAgain
  exact hAgain

theorem resubmission_resumes_iff_repeated :
    ¬ ∃ resumed next, resolve encoding repeated (run (Ledger.apply encoding.toDigests)
        [intent] []) = (.ok resumed, next) ∧
      resumed.intentId = intent.intentId ∧ resumed.hubCommandId = intent.hubCommandId := by
  intro hResumed
  have hStamps := (resubmission_resumes_iff [] sameRemoval_repeated valid_repeated
    toldApart_repeated resolve_submission).1.mp hResumed
  exact absurd hStamps (by decide)

end Sample

end EidolonAdmin.Removal
