import EidolonAdmin.Foundation.Json
import EidolonAdmin.Removal.Workflow
import EidolonAdmin.Admission.DecisionLedger

/-! # Standing recorded at Hub, and the voucher signed on its answer

`issue_commissioning_voucher` and `withdraw_controller` read the Hub's answer as
`response.json()`. Neither client method looks at the status of the response.
-/

namespace EidolonAdmin.Admission

open Foundation Foundation.Transition
open Removal (AuthorityFailure Raised orElse)

/-- An HTTP answer: its status, and its content when that is JSON. -/
structure Response where
  status : Nat
  body : Option Json

namespace Response

def accepted (response : Response) : Bool := 200 ≤ response.status ∧ response.status < 300

def json (response : Response) : Except Raised Json :=
  match response.body with
  | some document => .ok document
  | none => .error (.value "Expecting value")

end Response

structure AdmissionCall where
  actor : ControllerActorRef
  businessOwnerId : String

structure StandingCall where
  authorization : String
  jti : String
  operationalKeyId : String

structure WithdrawalCall where
  authorization : String
  principalId : String

/-- The two routes of Hub, each of which may be unreachable. -/
structure AdmissionHub where
  commissioningStandings : StandingCall → Except AuthorityFailure Response
  controllerWithdrawals : WithdrawalCall → Except AuthorityFailure Response

def answered (reply : Except AuthorityFailure Response) : Except Raised Json :=
  match reply with
  | .error failure => .error (.authority failure)
  | .ok response => response.json

def AdmissionHub.recordCommissioningStanding (hub : AdmissionHub) (call : StandingCall) :
    Except Raised Json :=
  answered (hub.commissioningStandings call)

def AdmissionHub.withdrawController (hub : AdmissionHub) (call : WithdrawalCall) :
    Except Raised Json :=
  answered (hub.controllerWithdrawals call)

/-- `answered.get(name)`, which only an object has. -/
def member (document : Json) (name : String) : Except Raised Json :=
  if document.isObject then .ok (document.get name) else .error .attribute

structure VoucherClaims where
  deviceBaseId : Json
  ownerDomainId : String
  operationalSpkiSha256 : String
  jti : String
  expiresAtUnix : Int
  provenance : String

structure CommissioningVoucher where
  voucher : String
  jti : String
  deviceBaseId : Json
  expiresAt : Int

structure CommissioningVoucherIssued where
  voucher : String
  jti : String
  deviceBaseId : String
  expiresAt : Int
deriving DecidableEq, Repr

/-- What one call draws: the hex of two secrets, and its clock in microseconds. -/
structure Draws where
  jti : String
  base : String
  now : Int

/-- `sign` is the SDK's claim set, key derivation and signature for the secret held. -/
structure CommissioningVoucherIssuer where
  sign : VoucherClaims → Except Raised String
  ttl : Int := 86400000000

def newJti (draws : Draws) : String := "jti-" ++ draws.jti

def freshBaseId (draws : Draws) : String := "device-base-" ++ draws.base

namespace CommissioningVoucherIssuer

variable (issuer : CommissioningVoucherIssuer)

/-- `device_base_id or "device-base-" + …`, whatever the answer held. -/
def baseId (deviceBaseId : Json) (draws : Draws) : Json :=
  if deviceBaseId.truthy then deviceBaseId else .str (freshBaseId draws)

def claims (ownerDomainId operationalSpkiSha256 : String) (deviceBaseId : Json)
    (jti : Option String) (draws : Draws) : VoucherClaims where
  deviceBaseId := baseId deviceBaseId draws
  ownerDomainId
  operationalSpkiSha256
  jti := orElse jti (newJti draws)
  expiresAtUnix := (draws.now + issuer.ttl).tdiv 1000000
  provenance := "minted"

def issue (ownerDomainId operationalSpkiSha256 : String) (deviceBaseId : Json)
    (jti : Option String) (draws : Draws) : Except Raised CommissioningVoucher := do
  let claims := issuer.claims ownerDomainId operationalSpkiSha256 deviceBaseId jti draws
  let voucher ← issuer.sign claims
  return {
    voucher, jti := claims.jti, deviceBaseId := claims.deviceBaseId
    expiresAt := draws.now + issuer.ttl }

end CommissioningVoucherIssuer

/-- The result model, which admits a text only as the identity. -/
def CommissioningVoucher.issued (voucher : CommissioningVoucher) :
    Except Raised CommissioningVoucherIssued :=
  match voucher.deviceBaseId with
  | .str deviceBaseId =>
    .ok { voucher := voucher.voucher, jti := voucher.jti, deviceBaseId
          expiresAt := voucher.expiresAt }
  | _ => .error .validation

structure ControllerCommissioningVoucherRequest where
  actor : ControllerActorRef
  businessOwnerId : String
  ownerDomainId : String
  operationalSpkiSha256 : String

structure AdmissionHost where
  hubCredentials : Option (AdmissionCall → Except Raised String)
  commissioningVouchers : Option CommissioningVoucherIssuer

def unconfigured (detail : String) : Raised :=
  .authority { authority := .hub, kind := .configuration, detail, statusCode := 503 }

namespace AdmissionHost

variable (host : AdmissionHost) (hub : AdmissionHub)

def admissionIssuer : Except Raised (AdmissionCall → Except Raised String) :=
  match host.hubCredentials with
  | some issuer => .ok issuer
  | none => .error (unconfigured "Hub Admission credential issuer is unavailable")

def voucherIssuer : Except Raised CommissioningVoucherIssuer :=
  match host.commissioningVouchers with
  | some vouchers => .ok vouchers
  | none => .error (unconfigured "commissioning voucher signing key is unavailable")

variable (payload : ControllerCommissioningVoucherRequest) (draws : Draws)

def standingCall (authorization : String) : StandingCall where
  authorization
  jti := newJti draws
  operationalKeyId := payload.operationalSpkiSha256

def issueCommissioningVoucher : Except Raised CommissioningVoucherIssued := do
  let issuer ← host.admissionIssuer
  let vouchers ← host.voucherIssuer
  let authorization ← issuer ⟨payload.actor, payload.businessOwnerId⟩
  let answered ← hub.recordCommissioningStanding (standingCall payload draws authorization)
  let deviceBaseId ← member answered "device_base_id"
  let voucher ← vouchers.issue payload.ownerDomainId payload.operationalSpkiSha256 deviceBaseId
    (some (newJti draws)) draws
  voucher.issued

/-- The Hub's answer to the call that this Host makes, if it gets to make one. -/
def response? : Option Response :=
  match host.hubCredentials, host.commissioningVouchers with
  | some issuer, some _ =>
    match issuer ⟨payload.actor, payload.businessOwnerId⟩ with
    | .ok authorization =>
      (hub.commissioningStandings (standingCall payload draws authorization)).toOption
    | .error _ => none
  | _, _ => none

/-- Whether the content of an answer, whatever its status, ends in a signed voucher:
an object that names a text, or nothing, which the SDK then signs. -/
def Signable (response : Response) : Prop :=
  ∃ vouchers document text voucher,
    host.commissioningVouchers = some vouchers ∧
    response.body = some document ∧ document.isObject ∧
    CommissioningVoucherIssuer.baseId (document.get "device_base_id") draws = .str text ∧
    vouchers.sign (vouchers.claims payload.ownerDomainId payload.operationalSpkiSha256
      (document.get "device_base_id") (some (newJti draws)) draws) = .ok voucher

/-- The content names `id`, or it names nothing and `id` is what the Host has drawn. -/
def Names (response : Response) (id : String) : Prop :=
  ∃ document, response.body = some document ∧
    CommissioningVoucherIssuer.baseId (document.get "device_base_id") draws = .str id

/-- A voucher stands on an accepting answer, and names the identity that Hub holds. -/
structure VoucherOnStanding (held : String → Option String) : Prop where
  accepted : ∀ issued, host.issueCommissioningVoucher hub payload draws = .ok issued →
    ∃ response, host.response? hub payload draws = some response ∧ response.accepted
  identity : ∀ issued id, host.issueCommissioningVoucher hub payload draws = .ok issued →
    held payload.operationalSpkiSha256 = some id → issued.deviceBaseId = id
  notMinted : ∀ issued response,
    host.issueCommissioningVoucher hub payload draws = .ok issued →
    host.response? hub payload draws = some response → response.accepted = false →
    issued.deviceBaseId ≠ freshBaseId draws

end AdmissionHost

theorem answered_eq_ok_iff {reply : Except AuthorityFailure Response} {document : Json} :
    answered reply = .ok document ↔ ∃ response, reply = .ok response ∧ response.body = some document := by
  cases reply with
  | error failure => simp [answered]
  | ok response => cases hBody : response.body <;> simp [answered, Response.json, hBody]

theorem member_eq_ok_iff {document value : Json} {name : String} :
    member document name = .ok value ↔ document.isObject ∧ document.get name = value := by
  unfold member
  split <;> simp [*]

theorem orElse_self (text : String) : orElse (some text) text = text := by
  unfold orElse
  split <;> simp_all

theorem CommissioningVoucher.issued_eq_ok_iff {voucher : CommissioningVoucher}
    {issued : CommissioningVoucherIssued} :
    voucher.issued = .ok issued ↔ ∃ text, voucher.deviceBaseId = .str text ∧
      issued = { voucher := voucher.voucher, jti := voucher.jti, deviceBaseId := text
                 expiresAt := voucher.expiresAt } := by
  unfold CommissioningVoucher.issued
  split
  · rename_i text hText
    simp [hText, eq_comm]
  · rename_i hOther
    simp only [reduceCtorEq, false_iff, not_exists, not_and]
    intro text hText
    exact absurd hText (hOther text)

namespace AdmissionHost

variable {host : AdmissionHost} {hub : AdmissionHub}
  {payload : ControllerCommissioningVoucherRequest} {draws : Draws} {response : Response}

theorem response?_eq_some_iff :
    host.response? hub payload draws = some response ↔
      ∃ issuer vouchers authorization,
        host.hubCredentials = some issuer ∧ host.commissioningVouchers = some vouchers ∧
        issuer ⟨payload.actor, payload.businessOwnerId⟩ = .ok authorization ∧
        hub.commissioningStandings (standingCall payload draws authorization) = .ok response := by
  constructor
  · intro hResponse
    unfold response? at hResponse
    split at hResponse
    · rename_i issuer vouchers hIssuer hVouchers
      split at hResponse
      · rename_i authorization hIssued
        refine ⟨issuer, vouchers, authorization, hIssuer, hVouchers, hIssued, ?_⟩
        cases hReply : hub.commissioningStandings (standingCall payload draws authorization) with
        | error failure => simp [hReply, Except.toOption] at hResponse
        | ok answer => simpa [hReply, Except.toOption] using hResponse
      · simp at hResponse
    · simp at hResponse
  · rintro ⟨issuer, vouchers, authorization, hIssuer, hVouchers, hIssued, hReply⟩
    simp [response?, hIssuer, hVouchers, hIssued, hReply, Except.toOption]

theorem admissionIssuer_eq_ok_iff {issuer : AdmissionCall → Except Raised String} :
    host.admissionIssuer = .ok issuer ↔ host.hubCredentials = some issuer := by
  unfold admissionIssuer
  split <;> simp [*]

theorem voucherIssuer_eq_ok_iff {vouchers : CommissioningVoucherIssuer} :
    host.voucherIssuer = .ok vouchers ↔ host.commissioningVouchers = some vouchers := by
  unfold voucherIssuer
  split <;> simp [*]

theorem issueCommissioningVoucher_eq_ok_iff {issued : CommissioningVoucherIssued} :
    host.issueCommissioningVoucher hub payload draws = .ok issued ↔
      ∃ response vouchers document text voucher,
        host.response? hub payload draws = some response ∧
        host.commissioningVouchers = some vouchers ∧
        response.body = some document ∧ document.isObject ∧
        CommissioningVoucherIssuer.baseId (document.get "device_base_id") draws = .str text ∧
        vouchers.sign (vouchers.claims payload.ownerDomainId payload.operationalSpkiSha256
          (document.get "device_base_id") (some (newJti draws)) draws) = .ok voucher ∧
        issued = { voucher, jti := newJti draws, deviceBaseId := text
                   expiresAt := draws.now + vouchers.ttl } := by
  unfold issueCommissioningVoucher CommissioningVoucherIssuer.issue
    AdmissionHub.recordCommissioningStanding
  simp only [bind_eq_ok_iff, admissionIssuer_eq_ok_iff, voucherIssuer_eq_ok_iff,
    answered_eq_ok_iff, member_eq_ok_iff,
    CommissioningVoucher.issued_eq_ok_iff, pure, Except.pure, Except.ok.injEq]
  constructor
  · rintro ⟨issuer, hIssuer, vouchers, hVouchers, authorization, hIssued, document,
      ⟨response, hReply, hBody⟩, base, ⟨hObject, rfl⟩, _, ⟨voucher, hSigned, rfl⟩, text, hText, rfl⟩
    refine ⟨response, vouchers, document, text, voucher, ?_, hVouchers, hBody, hObject, hText,
      hSigned, ?_⟩
    · exact response?_eq_some_iff.mpr
        ⟨issuer, vouchers, authorization, hIssuer, hVouchers, hIssued, hReply⟩
    · simp [CommissioningVoucherIssuer.claims, orElse_self]
  · rintro ⟨response, vouchers, document, text, voucher, hResponse, hKey, hBody, hObject, hText,
      hSigned, rfl⟩
    obtain ⟨issuer, _, authorization, hCredentials, _, hIssued, hReply⟩ :=
      response?_eq_some_iff.mp hResponse
    refine ⟨issuer, hCredentials, vouchers, hKey, authorization, hIssued, document,
      ⟨response, hReply, hBody⟩, _, ⟨hObject, rfl⟩, _, ⟨voucher, hSigned, rfl⟩, text, hText, ?_⟩
    simp [CommissioningVoucherIssuer.claims, orElse_self]

theorem exists_voucher_iff :
    (∃ issued, host.issueCommissioningVoucher hub payload draws = .ok issued) ↔
      ∃ response, host.response? hub payload draws = some response ∧
        host.Signable payload draws response := by
  simp only [issueCommissioningVoucher_eq_ok_iff, Signable]
  constructor
  · rintro ⟨_, response, vouchers, document, text, voucher, hResponse, hKey, hBody, hObject, hText,
      hSigned, _⟩
    exact ⟨response, hResponse, vouchers, document, text, voucher, hKey, hBody, hObject, hText, hSigned⟩
  · rintro ⟨response, hResponse, vouchers, document, text, voucher, hKey, hBody, hObject, hText,
      hSigned⟩
    exact ⟨_, response, vouchers, document, text, voucher, hResponse, hKey, hBody, hObject, hText,
      hSigned, rfl⟩

theorem deviceBaseId_eq_iff {issued : CommissioningVoucherIssued} {id : String}
    (hIssued : host.issueCommissioningVoucher hub payload draws = .ok issued)
    (hResponse : host.response? hub payload draws = some response) :
    issued.deviceBaseId = id ↔ Names draws response id := by
  obtain ⟨answer, _, document, text, _, hAnswer, _, hBody, _, hText, _, rfl⟩ :=
    issueCommissioningVoucher_eq_ok_iff.mp hIssued
  obtain rfl : answer = response := Option.some.inj (hAnswer.symm.trans hResponse)
  constructor
  · rintro rfl
    exact ⟨document, hBody, hText⟩
  · rintro ⟨named, hNamed, hId⟩
    obtain rfl : document = named := Option.some.inj (hBody.symm.trans hNamed)
    exact Json.str.inj (hText.symm.trans hId)

/-- An answer that refuses, or that leaves out the identity Hub holds, still leads to a
voucher whenever its content can be signed. -/
theorem voucherOnStanding_iff {held : String → Option String} :
    host.VoucherOnStanding hub payload draws held ↔
      ∀ response, host.response? hub payload draws = some response →
        host.Signable payload draws response → response.accepted ∧
          ∀ id, held payload.operationalSpkiSha256 = some id → Names draws response id := by
  constructor
  · intro hStanding response hResponse hSignable
    obtain ⟨issued, hIssued⟩ := exists_voucher_iff.mpr ⟨response, hResponse, hSignable⟩
    obtain ⟨answer, hAnswer, hAccepted⟩ := hStanding.accepted issued hIssued
    obtain rfl : answer = response := Option.some.inj (hAnswer.symm.trans hResponse)
    refine ⟨hAccepted, fun id hHeld => ?_⟩
    exact (deviceBaseId_eq_iff hIssued hResponse).mp (hStanding.identity issued id hIssued hHeld)
  · intro hAnswers
    have hStands : ∀ issued, host.issueCommissioningVoucher hub payload draws = .ok issued →
        ∃ response, host.response? hub payload draws = some response ∧ response.accepted ∧
          ∀ id, held payload.operationalSpkiSha256 = some id → Names draws response id := by
      intro issued hIssued
      obtain ⟨response, hResponse, hSignable⟩ := exists_voucher_iff.mp ⟨issued, hIssued⟩
      exact ⟨response, hResponse, hAnswers response hResponse hSignable⟩
    refine ⟨?_, ?_, ?_⟩
    · intro issued hIssued
      obtain ⟨response, hResponse, hAccepted, _⟩ := hStands issued hIssued
      exact ⟨response, hResponse, hAccepted⟩
    · intro issued id hIssued hHeld
      obtain ⟨response, hResponse, _, hNames⟩ := hStands issued hIssued
      exact (deviceBaseId_eq_iff hIssued hResponse).mpr (hNames id hHeld)
    · intro issued response hIssued hResponse hRefused
      obtain ⟨answer, hAnswer, hAccepted, _⟩ := hStands issued hIssued
      obtain rfl : answer = response := Option.some.inj (hAnswer.symm.trans hResponse)
      simp [hAccepted] at hRefused

end AdmissionHost

namespace Sample

def keyId : String :=
  "sha256:0000000000000000000000000000000000000000000000000000000000000001"

def request : ControllerCommissioningVoucherRequest where
  actor := ⟨"ectrl-00000000000000000001", "owner-domain", ["device.claim.approve"], "paired"⟩
  businessOwnerId := "owner_1"
  ownerDomainId := "owner-domain"
  operationalSpkiSha256 := keyId

def draws : Draws := ⟨"0f", "2a", 0⟩

def host : AdmissionHost where
  hubCredentials := some fun call => .ok call.businessOwnerId
  commissioningVouchers := some { sign := fun claims => .ok claims.jti }

def held (operationalKeyId : String) : Option String :=
  if operationalKeyId = keyId then some "device-base-2b" else none

def answering (response : Response) : AdmissionHub where
  commissioningStandings := fun _ => .ok response
  controllerWithdrawals := fun _ => .ok response

def unavailable : Response where
  status := 503
  body := some (.obj [("detail", .str "standing ledger is unavailable")])

def unnamed : Response where
  status := 200
  body := some (.obj [])

end Sample

/-- Hub refuses to record the standing, and the Host signs a new identity for a key
that has one. -/
theorem voucher_on_refused_standing :
    Sample.held Sample.request.operationalSpkiSha256 = some "device-base-2b" ∧
      Sample.host.issueCommissioningVoucher (Sample.answering Sample.unavailable) Sample.request
        Sample.draws = .ok ⟨"jti-0f", "jti-0f", "device-base-2a", 86400000000⟩ ∧
      ¬ Sample.host.VoucherOnStanding (Sample.answering Sample.unavailable) Sample.request
        Sample.draws Sample.held := by
  have hIssued : Sample.host.issueCommissioningVoucher (Sample.answering Sample.unavailable)
      Sample.request Sample.draws = .ok ⟨"jti-0f", "jti-0f", "device-base-2a", 86400000000⟩ := rfl
  refine ⟨rfl, hIssued, fun hStanding => ?_⟩
  exact absurd (hStanding.identity _ "device-base-2b" hIssued rfl) (by decide)

example :
    Sample.host.issueCommissioningVoucher (Sample.answering Sample.unnamed) Sample.request
      Sample.draws = .ok ⟨"jti-0f", "jti-0f", "device-base-2a", 86400000000⟩ := rfl

end EidolonAdmin.Admission
