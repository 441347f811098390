import EidolonAdmin.Admission.CommissioningStanding
import EidolonAdmin.Bootstrap.Service

/-! # Revoking a Controller at two authorities

`_WithdrawingControllers.revoke_controller`: Hub is told first that the Controller's
standing ends, then the bootstrap service revokes its grant. Nothing the bootstrap
service would refuse is asked before Hub has been told.
-/

namespace EidolonAdmin.LocalApi

open Foundation Foundation.Transition Admission Bootstrap
open Removal (Raised)

inductive LocalError where
  | http (statusCode : Nat) (detail : String)
  | validation
  | refused (raised : Raised)
  | bootstrap (error : ServiceError)

structure ControllerWithdrawalRequest where
  actor : ControllerActorRef
  businessOwnerId : String
  ownerDomainId : String
  principalId : String

structure ControllerWithdrawn where
  ownerDomainId : String
  principalId : String
  withdrawnAt : Int
deriving DecidableEq, Repr

/-- Readers of the values whose types the SDK and pydantic define. -/
structure Readers where
  isOwnerDomainId : String → Bool
  isBusinessOwnerId : String → Bool
  isPrincipalId : String → Bool
  instant : Json → Option Int

/-- `ControllerWithdrawn.model_validate`, which allows no member besides its own. -/
def Readers.withdrawn (readers : Readers) : Json → Except Raised ControllerWithdrawn
  | .obj members =>
    let document := Json.obj members
    match document.get "owner_domain_id", document.get "principal_id",
        readers.instant (document.get "withdrawn_at") with
    | .str ownerDomainId, .str principalId, some withdrawnAt =>
      if members.all (fun item => item.1 ∈
            ["contract_version", "owner_domain_id", "principal_id", "withdrawn_at"]) ∧
          ((document.get? "contract_version").all fun version => version.isText "1") ∧
          readers.isOwnerDomainId ownerDomainId then
        .ok { ownerDomainId, principalId, withdrawnAt }
      else .error .validation
    | _, _, _ => .error .validation
  | _ => .error .validation

/-- The hop from the Local API to the control plane; an answer may be lost on it. -/
inductive Link where
  | delivered
  | unreachable
  | answerLost
deriving DecidableEq, Repr

structure LocalHost where
  readers : Readers
  admission : AdmissionHost
  onboardingTarget : Option String
  hostOwnerId : Except (Nat × String) (Option String)

def admissionActor (controllerId ownerDomainId : String) : ControllerActorRef where
  principalId := controllerId
  ownerDomainId
  grantedScopes := ["device.read", "device.claim.approve", "device.output-policy.write",
    "device.shared-session.control", "device.conversation.control"]
  authenticationStrength := "software"

namespace LocalHost

variable (host : LocalHost) (hub : AdmissionHub) (link : Link) (controllerId targetId : String)

/-- `ControlPlaneService.withdraw_controller`. -/
def withdrawAtHub (payload : ControllerWithdrawalRequest) : Except Raised ControllerWithdrawn := do
  let issuer ← host.admission.admissionIssuer
  let authorization ← issuer ⟨payload.actor, payload.businessOwnerId⟩
  let answered ← hub.withdrawController ⟨authorization, payload.principalId⟩
  host.readers.withdrawn answered

/-- `AdminDeviceAdmissionClient.withdraw_controller`. -/
def withdrawController (payload : ControllerWithdrawalRequest) :
    Except LocalError ControllerWithdrawn :=
  match link with
  | .unreachable | .answerLost =>
    .error (.http 503 "Admin Device admission control plane is unavailable")
  | .delivered =>
    match host.withdrawAtHub hub payload with
    | .error raised => .error (.refused raised)
    | .ok withdrawn =>
      if withdrawn.principalId ≠ payload.principalId ∨
          withdrawn.ownerDomainId ≠ payload.ownerDomainId then
        .error (.http 502 "Admin Controller withdrawal answered about another Controller")
      else .ok withdrawn

def withdrawalRequest (ownerDomainId businessOwnerId : String) : ControllerWithdrawalRequest where
  actor := admissionActor controllerId ownerDomainId
  businessOwnerId
  ownerDomainId
  principalId := targetId

/-- The scope and the request that `withdraw_standing_of` builds before it asks. -/
def withdrawalFor (ownerDomainId ownerId : String) :
    Except LocalError ControllerWithdrawalRequest :=
  if host.readers.isOwnerDomainId ownerDomainId ∧ host.readers.isBusinessOwnerId ownerId then
    if host.readers.isPrincipalId controllerId ∧ isControllerId targetId then
      .ok (withdrawalRequest controllerId targetId ownerDomainId ownerId)
    else .error .validation
  else .error (.http 503 "Host Owner Domain or business Owner identity is invalid")

/-- What is to be asked of Hub: nothing on a Host that never signed a voucher. -/
def withdrawal : Except LocalError (Option ControllerWithdrawalRequest) :=
  match host.onboardingTarget with
  | none => .ok none
  | some ownerDomainId =>
    match host.hostOwnerId with
    | .error (statusCode, detail) => .error (.http statusCode detail)
    | .ok none => .ok none
    | .ok (some ownerId) =>
      (host.withdrawalFor controllerId targetId ownerDomainId ownerId).map some

def withdrawStandingOf : Except LocalError Unit :=
  match host.withdrawal controllerId targetId with
  | .error error => .error error
  | .ok none => .ok ()
  | .ok (some payload) => (host.withdrawController hub link payload).map fun _ => ()

/-- `_WithdrawingControllers.revoke_controller`. -/
def revokeController (now : String) (s : Store) : Except LocalError ControllerGrant × Store :=
  match host.withdrawStandingOf hub link controllerId targetId with
  | .error error => (.error error, s)
  | .ok () =>
    (s.revokePeer (.str controllerId) targetId now).map (·.mapError .bootstrap) id

/-- The answer of Hub to the withdrawal that this call asks for, if it is asked. -/
def withdrawalResponse? : Option Response :=
  match host.withdrawal controllerId targetId, host.admission.hubCredentials with
  | .ok (some payload), some issuer =>
    if link = .unreachable then none
    else
      match issuer ⟨payload.actor, payload.businessOwnerId⟩ with
      | .ok authorization =>
        (hub.controllerWithdrawals ⟨authorization, payload.principalId⟩).toOption
      | .error _ => none
  | _, _ => none

/-- The content of the answer reads as the withdrawal that was asked for. -/
def Confirms (response : Response) : Prop :=
  ∃ payload document withdrawn,
    host.withdrawal controllerId targetId = .ok (some payload) ∧ response.body = some document ∧
    host.readers.withdrawn document = .ok withdrawn ∧
    withdrawn.principalId = payload.principalId ∧ withdrawn.ownerDomainId = payload.ownerDomainId

/-- A grant goes only after its standing, and the standing of a grant that the store
keeps does not go. -/
structure SpansBothAuthorities (now : String) (s : Store) : Prop where
  revoked : ∀ ownerDomainId ownerId grant, host.onboardingTarget = some ownerDomainId →
    host.hostOwnerId = .ok (some ownerId) →
    (host.revokeController hub link controllerId targetId now s).1 = .ok grant →
    ∃ response, host.withdrawalResponse? hub link controllerId targetId = some response ∧
      response.accepted
  refused : ∀ error asking target response,
    (host.revokeController hub link controllerId targetId now s).1 = .error (.bootstrap error) →
    s.activeController (.str controllerId) = .ok asking →
    target ∈ s.activeGrants → target.controllerId = targetId →
    host.withdrawalResponse? hub link controllerId targetId = some response →
    response.accepted = false

end LocalHost

theorem revokePeer_isOk_iff {s : Store} {controllerId : Json} {targetId now : String} :
    (∃ grant, (s.revokePeer controllerId targetId now).1 = .ok grant) ↔
      (∃ asking, s.activeController controllerId = .ok asking) ∧
      (∃ target ∈ s.activeGrants, target.controllerId = targetId) ∧ s.activeGrants.length ≠ 1 := by
  unfold Store.revokePeer Store.revokeController
  cases hAsking : s.activeController controllerId with
  | error error => simp
  | ok asking =>
    cases hTarget : s.activeGrants.find? fun grant => grant.controllerId = targetId with
    | none =>
      have hNone : ∀ target ∈ s.activeGrants, target.controllerId ≠ targetId := by
        simpa using List.find?_eq_none.mp hTarget
      simp only [Prod.map, Except.mapError, reduceCtorEq, exists_false, false_iff, not_and]
      intro _ ⟨target, hMem, hId⟩
      exact absurd hId (hNone target hMem)
    | some target =>
      have hId : target.controllerId = targetId := by simpa using List.find?_some hTarget
      have hHeld : ∃ target ∈ s.activeGrants, target.controllerId = targetId :=
        ⟨target, List.mem_of_find?_eq_some hTarget, hId⟩
      by_cases hLast : s.activeGrants.length = 1
      · simp [hLast, Prod.map, Except.mapError]
      · simp [hLast, hHeld, Prod.map, Except.mapError]

namespace LocalHost

variable {host : LocalHost} {hub : AdmissionHub} {link : Link} {controllerId targetId now : String}
  {s : Store}

theorem withdrawAtHub_eq_ok_iff {payload : ControllerWithdrawalRequest}
    {withdrawn : ControllerWithdrawn} :
    host.withdrawAtHub hub payload = .ok withdrawn ↔
      ∃ issuer authorization response document,
        host.admission.hubCredentials = some issuer ∧
        issuer ⟨payload.actor, payload.businessOwnerId⟩ = .ok authorization ∧
        hub.controllerWithdrawals ⟨authorization, payload.principalId⟩ = .ok response ∧
        response.body = some document ∧ host.readers.withdrawn document = .ok withdrawn := by
  unfold withdrawAtHub AdmissionHub.withdrawController
  simp only [bind_eq_ok_iff, AdmissionHost.admissionIssuer_eq_ok_iff, answered_eq_ok_iff]
  constructor
  · rintro ⟨issuer, hIssuer, authorization, hIssued, document, ⟨response, hReply, hBody⟩, hReads⟩
    exact ⟨issuer, authorization, response, document, hIssuer, hIssued, hReply, hBody, hReads⟩
  · rintro ⟨issuer, authorization, response, document, hIssuer, hIssued, hReply, hBody, hReads⟩
    exact ⟨issuer, hIssuer, authorization, hIssued, document, ⟨response, hReply, hBody⟩, hReads⟩

theorem withdrawalResponse?_eq_some_iff {response : Response} :
    host.withdrawalResponse? hub link controllerId targetId = some response ↔
      link ≠ .unreachable ∧ ∃ payload issuer authorization,
        host.withdrawal controllerId targetId = .ok (some payload) ∧
        host.admission.hubCredentials = some issuer ∧
        issuer ⟨payload.actor, payload.businessOwnerId⟩ = .ok authorization ∧
        hub.controllerWithdrawals ⟨authorization, payload.principalId⟩ = .ok response := by
  constructor
  · intro hResponse
    unfold withdrawalResponse? at hResponse
    split at hResponse
    · rename_i payload issuer hPayload hIssuer
      split at hResponse
      · simp at hResponse
      · rename_i hLink
        split at hResponse
        · rename_i authorization hIssued
          refine ⟨hLink, payload, issuer, authorization, hPayload, hIssuer, hIssued, ?_⟩
          cases hReply : hub.controllerWithdrawals ⟨authorization, payload.principalId⟩ with
          | error failure => simp [hReply, Except.toOption] at hResponse
          | ok answer => simpa [hReply, Except.toOption] using hResponse
        · simp at hResponse
    · simp at hResponse
  · rintro ⟨hLink, payload, issuer, authorization, hPayload, hIssuer, hIssued, hReply⟩
    simp [withdrawalResponse?, hPayload, hIssuer, hLink, hIssued, hReply, Except.toOption]

theorem withdrawController_isOk_iff {payload : ControllerWithdrawalRequest} :
    (∃ withdrawn, host.withdrawController hub link payload = .ok withdrawn) ↔
      link = .delivered ∧ ∃ withdrawn, host.withdrawAtHub hub payload = .ok withdrawn ∧
        withdrawn.principalId = payload.principalId ∧
        withdrawn.ownerDomainId = payload.ownerDomainId := by
  cases link with
  | unreachable => simp [withdrawController]
  | answerLost => simp [withdrawController]
  | delivered =>
    cases hHub : host.withdrawAtHub hub payload with
    | error raised => simp [withdrawController, hHub]
    | ok withdrawn =>
      by_cases hPrincipal : withdrawn.principalId = payload.principalId
      · by_cases hDomain : withdrawn.ownerDomainId = payload.ownerDomainId
        · simp [withdrawController, hHub, hPrincipal, hDomain]
        · simp [withdrawController, hHub, hDomain]
      · simp [withdrawController, hHub, hPrincipal]

/-- The call goes on to the bootstrap service in two cases only. -/
theorem withdrawStandingOf_eq_ok_iff :
    host.withdrawStandingOf hub link controllerId targetId = .ok () ↔
      host.withdrawal controllerId targetId = .ok none ∨
      link = .delivered ∧ ∃ response,
        host.withdrawalResponse? hub link controllerId targetId = some response ∧
        host.Confirms controllerId targetId response := by
  unfold withdrawStandingOf
  cases hPayload : host.withdrawal controllerId targetId with
  | error error => simp [withdrawalResponse?, hPayload]
  | ok payload? =>
    cases payload? with
    | none => simp
    | some payload =>
      have hMap : (host.withdrawController hub link payload).map (fun _ => ()) = .ok () ↔
          ∃ withdrawn, host.withdrawController hub link payload = .ok withdrawn := by
        cases host.withdrawController hub link payload <;> simp [Except.map]
      simp only [hMap, withdrawController_isOk_iff, withdrawAtHub_eq_ok_iff,
        withdrawalResponse?_eq_some_iff, Confirms, hPayload, Except.ok.injEq, reduceCtorEq,
        false_or, Option.some.injEq]
      refine and_congr_right fun hLink => ?_
      constructor
      · rintro ⟨withdrawn, ⟨issuer, authorization, response, document, hIssuer, hIssued, hReply,
          hBody, hReads⟩, hPrincipal, hDomain⟩
        exact ⟨response, ⟨by simp [hLink], payload, issuer, authorization, rfl, hIssuer, hIssued,
          hReply⟩, payload, document, withdrawn, rfl, hBody, hReads, hPrincipal, hDomain⟩
      · rintro ⟨response, ⟨_, _, issuer, authorization, rfl, hIssuer, hIssued, hReply⟩, _, document,
          withdrawn, rfl, hBody, hReads, hPrincipal, hDomain⟩
        exact ⟨withdrawn, ⟨issuer, authorization, response, document, hIssuer, hIssued, hReply,
          hBody, hReads⟩, hPrincipal, hDomain⟩

theorem withdrawal_eq_none_iff :
    host.withdrawal controllerId targetId = .ok none ↔
      host.onboardingTarget = none ∨ host.hostOwnerId = .ok none := by
  unfold withdrawal
  cases host.onboardingTarget with
  | none => simp
  | some ownerDomainId =>
    cases host.hostOwnerId with
    | error error => simp
    | ok owner? =>
      cases owner? with
      | none => simp
      | some ownerId =>
        cases hFor : host.withdrawalFor controllerId targetId ownerDomainId ownerId <;>
          simp [hFor, Except.map]

theorem exists_scope_of_response {response : Response}
    (h : host.withdrawalResponse? hub link controllerId targetId = some response) :
    ∃ ownerDomainId ownerId, host.onboardingTarget = some ownerDomainId ∧
      host.hostOwnerId = .ok (some ownerId) := by
  obtain ⟨_, payload, _, _, hPayload, _⟩ := withdrawalResponse?_eq_some_iff.mp h
  unfold withdrawal at hPayload
  split at hPayload
  · simp at hPayload
  · rename_i ownerDomainId hOnboards
    split at hPayload
    · simp at hPayload
    · simp at hPayload
    · rename_i ownerId hOwner
      exact ⟨ownerDomainId, ownerId, hOnboards, hOwner⟩

theorem revokeController_eq_ok_iff {grant : ControllerGrant} :
    (host.revokeController hub link controllerId targetId now s).1 = .ok grant ↔
      host.withdrawStandingOf hub link controllerId targetId = .ok () ∧
        (s.revokePeer (.str controllerId) targetId now).1 = .ok grant := by
  unfold revokeController
  cases host.withdrawStandingOf hub link controllerId targetId with
  | error error => simp
  | ok =>
    cases hPeer : (s.revokePeer (.str controllerId) targetId now).1 <;>
      simp [hPeer, Prod.map, Except.mapError]

theorem withdrawal_ne_bootstrap (error : ServiceError) :
    host.withdrawal controllerId targetId ≠ .error (.bootstrap error) := by
  unfold withdrawal withdrawalFor
  repeat' split
  all_goals simp [Except.map]

theorem withdrawStandingOf_ne_bootstrap (error : ServiceError) :
    host.withdrawStandingOf hub link controllerId targetId ≠ .error (.bootstrap error) := by
  unfold withdrawStandingOf
  split
  · rename_i other hOther
    intro hError
    obtain rfl := Except.error.inj hError
    exact withdrawal_ne_bootstrap error hOther
  · simp
  · unfold withdrawController
    repeat' split
    all_goals simp [Except.map]

theorem revokeController_eq_bootstrap_iff {error : ServiceError} :
    (host.revokeController hub link controllerId targetId now s).1 = .error (.bootstrap error) ↔
      host.withdrawStandingOf hub link controllerId targetId = .ok () ∧
        (s.revokePeer (.str controllerId) targetId now).1 = .error error := by
  unfold revokeController
  cases hStanding : host.withdrawStandingOf hub link controllerId targetId with
  | error other =>
    simp only [Except.error.injEq, reduceCtorEq, false_and, iff_false]
    rintro rfl
    exact withdrawStandingOf_ne_bootstrap error hStanding
  | ok =>
    cases hPeer : (s.revokePeer (.str controllerId) targetId now).1 <;>
      simp [hPeer, Prod.map, Except.mapError]

theorem activeGrants_length_of_revokePeer_error {error : ServiceError} {asking target : ControllerGrant}
    (hPeer : (s.revokePeer (.str controllerId) targetId now).1 = .error error)
    (hAsking : s.activeController (.str controllerId) = .ok asking)
    (hTarget : target ∈ s.activeGrants) (hId : target.controllerId = targetId) :
    s.activeGrants.length = 1 := by
  by_contra hMany
  obtain ⟨grant, hGrant⟩ : ∃ grant, (s.revokePeer (.str controllerId) targetId now).1 = .ok grant :=
    revokePeer_isOk_iff.mpr ⟨⟨asking, hAsking⟩, ⟨target, hTarget, hId⟩, hMany⟩
  simp [hPeer] at hGrant

/-- Where the target is active and Hub's answer reads as the withdrawal, the two
authorities agree exactly if Hub accepts what the store will not refuse. -/
theorem spansBothAuthorities_iff :
    host.SpansBothAuthorities hub link controllerId targetId now s ↔
      ∀ response asking target, link = .delivered →
        host.withdrawalResponse? hub link controllerId targetId = some response →
        host.Confirms controllerId targetId response →
        s.activeController (.str controllerId) = .ok asking →
        target ∈ s.activeGrants → target.controllerId = targetId →
        (response.accepted ↔ s.activeGrants.length ≠ 1) := by
  constructor
  · intro hSpans response asking target hLink hResponse hConfirms hAsking hTarget hId
    have hStanding : host.withdrawStandingOf hub link controllerId targetId = .ok () :=
      withdrawStandingOf_eq_ok_iff.mpr (.inr ⟨hLink, response, hResponse, hConfirms⟩)
    constructor
    · intro hAccepted hLast
      cases hPeer : (s.revokePeer (.str controllerId) targetId now).1 with
      | ok grant => exact (revokePeer_isOk_iff.mp ⟨grant, hPeer⟩).2.2 hLast
      | error error =>
        have hRefused := hSpans.refused error asking target response
          (revokeController_eq_bootstrap_iff.mpr ⟨hStanding, hPeer⟩) hAsking hTarget hId hResponse
        simp [hAccepted] at hRefused
    · intro hMany
      obtain ⟨grant, hPeer⟩ :=
        revokePeer_isOk_iff.mpr ⟨⟨asking, hAsking⟩, ⟨target, hTarget, hId⟩, hMany⟩
      obtain ⟨ownerDomainId, ownerId, hOnboards, hOwner⟩ := exists_scope_of_response hResponse
      obtain ⟨answer, hAnswer, hAccepted⟩ := hSpans.revoked ownerDomainId ownerId grant hOnboards
        hOwner (revokeController_eq_ok_iff.mpr ⟨hStanding, hPeer⟩)
      obtain rfl : answer = response := Option.some.inj (hAnswer.symm.trans hResponse)
      exact hAccepted
  · intro hAgree
    constructor
    · intro ownerDomainId ownerId grant hOnboards hOwner hOk
      obtain ⟨hStanding, hPeer⟩ := revokeController_eq_ok_iff.mp hOk
      obtain ⟨⟨asking, hAsking⟩, ⟨target, hTarget, hId⟩, hMany⟩ :=
        revokePeer_isOk_iff.mp ⟨grant, hPeer⟩
      have hAsked : host.withdrawal controllerId targetId ≠ .ok none := by
        simp [withdrawal_eq_none_iff, hOnboards, hOwner]
      obtain ⟨hLink, response, hResponse, hConfirms⟩ :=
        (withdrawStandingOf_eq_ok_iff.mp hStanding).resolve_left hAsked
      exact ⟨response, hResponse,
        (hAgree response asking target hLink hResponse hConfirms hAsking hTarget hId).mpr hMany⟩
    · intro error asking target response hError hAsking hTarget hId hResponse
      obtain ⟨hStanding, hPeer⟩ := revokeController_eq_bootstrap_iff.mp hError
      have hLast := activeGrants_length_of_revokePeer_error hPeer hAsking hTarget hId
      have hAsked : host.withdrawal controllerId targetId ≠ .ok none := by
        obtain ⟨_, payload, _, _, hPayload, _⟩ := withdrawalResponse?_eq_some_iff.mp hResponse
        simp [hPayload]
      obtain ⟨hLink, answer, hAnswer, hConfirms⟩ :=
        (withdrawStandingOf_eq_ok_iff.mp hStanding).resolve_left hAsked
      obtain rfl : answer = response := Option.some.inj (hAnswer.symm.trans hResponse)
      have hIff := hAgree answer asking target hLink hResponse hConfirms hAsking hTarget hId
      simpa [hLast] using hIff

end LocalHost

namespace Sample

def phone : ControllerGrant where
  controllerId := "ectrl-00000000000000000001"
  publicKey := "k1"
  publicKeyFingerprint := "f1"
  role := .hostAdmin
  displayName := "phone"
  platform := "ios"
  resetEpoch := 0
  createdAt := "2026-08-05T00:00:00Z"

def claimed (grants : List ControllerGrant) : Store where
  state := ⟨0, .claimed, .connected, "2026-08-05T00:00:00Z"⟩
  grants

def host : LocalHost where
  readers := ⟨fun _ => true, fun _ => true, fun _ => true, fun _ => some 0⟩
  admission := Admission.Sample.host
  onboardingTarget := some "owner-domain"
  hostOwnerId := .ok (some "owner_1")

def withdrawnAnswer (status : Nat) (principalId : String) : Response where
  status
  body := some (.obj [("owner_domain_id", .str "owner-domain"), ("principal_id", .str principalId),
    ("withdrawn_at", .str "2026-08-05T00:00:01Z")])

end Sample

/-- The only phone revokes itself: Hub ends its standing, and the store keeps its grant. -/
theorem standing_of_last_controller_withdrawn :
    ¬ Sample.host.SpansBothAuthorities
        (Admission.Sample.answering (Sample.withdrawnAnswer 200 Sample.phone.controllerId))
        .delivered Sample.phone.controllerId Sample.phone.controllerId "2026-08-05T00:00:02Z"
        (Sample.claimed [Sample.phone]) := by
  intro hSpans
  exact absurd (hSpans.refused (.rejected Conflict.lastController.message) Sample.phone Sample.phone
    _ rfl rfl (by decide) rfl rfl) (by decide)

end EidolonAdmin.LocalApi
