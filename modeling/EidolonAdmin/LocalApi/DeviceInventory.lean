import EidolonAdmin.Foundation.Table
import EidolonAdmin.LocalApi.ControllerRevocation

/-! # The devices of an Owner

The Local API finds a device in Hub's Claims in two ways: `_owned_device_ref` takes
the first Claim of the device, the inventory a dictionary entry. Both read one page.
The inventory answers for all present Bodies of the Owner or for none. What the views
copy without reading it is content.
-/

namespace EidolonAdmin.LocalApi

open Foundation.Table (lookup)
open Removal (DeviceRef)
open Admission (ControllerActorRef)

inductive ClaimState where
  | active
  | suspended
  | revoked
  | other (name : String)
deriving DecidableEq, Repr

structure ClaimRecord (γ : Type) where
  deviceRef : DeviceRef
  state : ClaimState
  content : γ

structure ClaimQuery where
  ownerDomainId : String
  states : List ClaimState
  limit : Nat

structure ClaimPage (γ : Type) where
  ownerDomainId : String
  items : List (ClaimRecord γ)

structure ControllerClaimQuery where
  actor : ControllerActorRef
  businessOwnerId : String
  query : ClaimQuery

structure ControllerDeviceOutputPolicyQuery where
  actor : ControllerActorRef
  businessOwnerId : String
  deviceRef : DeviceRef

structure BodyEndpoint (β : Type) where
  ownerId : String
  deviceId : String
  deviceRef : DeviceRef
  present : Bool
  content : β

structure DeviceOutputConfiguration (δ : Type) where
  deviceRef : DeviceRef
  content : δ

structure LocalDeviceView (γ β δ : Type) where
  claim : ClaimRecord γ
  body : β
  outputs : DeviceOutputConfiguration δ

inductive DeviceFailure where
  | http (detail : String) (statusCode : Nat)
  | inventory (detail : String) (statusCode : Nat)
  | admission (detail : String) (statusCode : Nat)
  | management (detail : String) (statusCode : Nat)
  | validation
  | key (deviceId : String)

/-- The configuration of the Host, and what Admin answers to the three calls. -/
structure DeviceHost (γ β δ : Type) where
  onboardingTarget : Option String
  isOwnerDomainId : String → Bool
  isBusinessOwnerId : String → Bool
  bodyEndpoints : String → Except DeviceFailure (List (BodyEndpoint β))
  claimPage : ControllerClaimQuery → Except DeviceFailure (ClaimPage γ)
  outputConfiguration :
    ControllerDeviceOutputPolicyQuery → Except DeviceFailure (DeviceOutputConfiguration δ)

variable {γ β δ : Type}

def listedStates : List ClaimState := [.active, .suspended, .revoked]

def claimLimit : Nat := 200

def syncing : DeviceFailure :=
  .inventory "设备授权已更新，主机正在同步设备配置，请稍候。" 503

abbrev ClaimRecord.deviceId (claim : ClaimRecord γ) : String := claim.deviceRef.deviceInstanceId

/-- The dictionary of the Claims by device, which keeps the last one of each. -/
def claimed (items : List (ClaimRecord γ)) (deviceId : String) : Option (ClaimRecord γ) :=
  lookup ClaimRecord.deviceId deviceId items.reverse

def presentOf (endpoints : List (BodyEndpoint β)) : List (BodyEndpoint β) :=
  endpoints.filter fun endpoint => endpoint.present

def validateInventoryMembership (endpoints : List (BodyEndpoint β)) (boundOwnerId : String)
    (claims : List (ClaimRecord γ)) : Except DeviceFailure Unit :=
  if endpoints.any fun endpoint => endpoint.ownerId ≠ boundOwnerId then
    .error (.inventory "Host Owner scope does not match Kernel Device membership" 409)
  else if (presentOf endpoints).any fun endpoint =>
      (claimed claims endpoint.deviceId).all fun claim => claim.deviceRef ≠ endpoint.deviceRef then
    .error syncing
  else .ok ()

def deviceView (claims : List (ClaimRecord γ))
    (outputs : List (String × DeviceOutputConfiguration δ)) (endpoint : BodyEndpoint β) :
    Except DeviceFailure (LocalDeviceView γ β δ) :=
  match claimed claims endpoint.deviceId, lookup Prod.fst endpoint.deviceId outputs.reverse with
  | some claim, some configuration =>
    .ok { claim, body := endpoint.content, outputs := configuration.2 }
  | _, _ => .error (.key endpoint.deviceId)

def ownerDeviceInventoryView (endpoints : List (BodyEndpoint β)) (boundOwnerId : String)
    (claims : List (ClaimRecord γ)) (outputs : List (String × DeviceOutputConfiguration δ)) :
    Except DeviceFailure (List (LocalDeviceView γ β δ)) := do
  validateInventoryMembership endpoints boundOwnerId claims
  if (presentOf endpoints).any fun endpoint =>
      (lookup Prod.fst endpoint.deviceId outputs.reverse).isNone then
    .error (.inventory "Device output configuration is missing for a claimed device" 502)
  (presentOf endpoints).mapM (deviceView claims outputs)

namespace DeviceHost

variable (host : DeviceHost γ β δ) (ownerId controllerId : String)

def admissionScope : Except DeviceFailure (String × String) :=
  match host.onboardingTarget with
  | none =>
    .error (.http ("这台主机没有配置设备接入所需的 Owner Domain 信任材料，" ++
      "手机这边重试不会有别的结果。要在主机上重新生成配置。") 503)
  | some ownerDomainId =>
    if host.isOwnerDomainId ownerDomainId ∧ host.isBusinessOwnerId ownerId then
      .ok (ownerDomainId, ownerId)
    else .error (.http "Host Owner Domain or business Owner identity is invalid" 503)

def listBodyEndpoints : Except DeviceFailure (List (BodyEndpoint β)) := do
  let endpoints ← host.bodyEndpoints ownerId
  if endpoints.any fun endpoint => endpoint.ownerId ≠ ownerId then
    .error (.inventory "Admin Device membership response returned another Owner" 409)
  return endpoints

/-- The query that both lookups send: the first page of the three states. -/
def claimQuery (scope : String × String) : ControllerClaimQuery where
  actor := admissionActor controllerId scope.1
  businessOwnerId := scope.2
  query := { ownerDomainId := scope.1, states := listedStates, limit := claimLimit }

def queryClaims (payload : ControllerClaimQuery) : Except DeviceFailure (ClaimPage γ) := do
  let page ← host.claimPage payload
  if page.ownerDomainId ≠ payload.query.ownerDomainId then
    .error (.admission "Admin Claim query returned another Owner Domain" 502)
  return page

/-- A device of another Owner Domain than the actor's does not get as far as a query. -/
def readOutputConfiguration (scope : String × String) (deviceRef : DeviceRef) :
    Except DeviceFailure (DeviceOutputConfiguration δ) := do
  if deviceRef.ownerDomainId ≠ scope.1 then
    .error .validation
  let configuration ← host.outputConfiguration
    { actor := admissionActor controllerId scope.1, businessOwnerId := scope.2, deviceRef }
  if configuration.deviceRef ≠ deviceRef then
    .error (.inventory "Admin Device output configuration answered about another device" 502)
  return configuration

def outputOf (scope : String × String) (endpoint : BodyEndpoint β) :
    Except DeviceFailure (String × DeviceOutputConfiguration δ) := do
  let configuration ← host.readOutputConfiguration controllerId scope endpoint.deviceRef
  return (endpoint.deviceId, configuration)

/-- `composed_device_inventory`; of several readings that fail, one is raised. -/
def composedDeviceInventory : Except DeviceFailure (List (LocalDeviceView γ β δ)) := do
  let scope ← host.admissionScope ownerId
  let endpoints ← host.listBodyEndpoints ownerId
  let claims ← host.queryClaims (claimQuery controllerId scope)
  validateInventoryMembership endpoints ownerId claims.items
  let outputs ← (presentOf endpoints).mapM (host.outputOf controllerId scope)
  ownerDeviceInventoryView endpoints ownerId claims.items outputs

/-- `_owned_device_ref`: a refusal of the query is passed on as one of the backend. -/
def ownedDeviceRef (deviceId : String) : Except DeviceFailure DeviceRef := do
  let scope ← host.admissionScope ownerId
  match host.queryClaims (claimQuery controllerId scope) with
  | .error (.admission detail statusCode) => .error (.management detail statusCode)
  | .error failure => .error failure
  | .ok page =>
    match lookup ClaimRecord.deviceId deviceId page.items with
    | some candidate => .ok candidate.deviceRef
    | none => .error (.management "Device does not exist" 404)

def inventoryRef (deviceId : String) : Except DeviceFailure (Option DeviceRef) := do
  let scope ← host.admissionScope ownerId
  let page ← host.queryClaims (claimQuery controllerId scope)
  return (claimed page.items deviceId).map ClaimRecord.deviceRef

end DeviceHost

def listed (claims : List (ClaimRecord γ)) : List (ClaimRecord γ) :=
  claims.filter fun claim => claim.state ∈ listedStates

/-- Hub answers a query without a cursor with the first Claims in its order. -/
def DeviceHost.Lists (host : DeviceHost γ β δ) (claims : List (ClaimRecord γ)) : Prop :=
  ∀ payload, host.claimPage payload = .ok
    { ownerDomainId := payload.query.ownerDomainId
      items := (claims.filter fun claim => claim.state ∈ payload.query.states).take
        payload.query.limit }

/-- Every device is found, as the inventory has it, and every claimed Body is listed. -/
structure EveryDeviceReachable (host : DeviceHost γ β δ) (ownerId controllerId : String)
    (claims : List (ClaimRecord γ)) : Prop where
  found : ∀ claim ∈ listed claims, ∃ ref,
    host.ownedDeviceRef ownerId controllerId claim.deviceId = .ok ref ∧
    host.inventoryRef ownerId controllerId claim.deviceId = .ok (some ref)
  listed : ∀ endpoints, host.bodyEndpoints ownerId = .ok endpoints →
    ∀ endpoint ∈ presentOf endpoints, (∃ claim ∈ listed claims, claim.deviceRef = endpoint.deviceRef) →
    ∃ views view, host.composedDeviceInventory ownerId controllerId = .ok views ∧ view ∈ views ∧
      view.body = endpoint.content ∧ view.claim.deviceRef = endpoint.deviceRef

def OneRef (claims : List (ClaimRecord γ)) (deviceId : String) : Prop :=
  ∀ claim ∈ listed claims, ∀ other ∈ listed claims,
    claim.deviceId = deviceId → other.deviceId = deviceId → claim.deviceRef = other.deviceRef

def Mounted (claims : List (ClaimRecord γ)) (endpoint : BodyEndpoint β) : Prop :=
  ∃ claim ∈ listed claims, claim.deviceId = endpoint.deviceId ∧ claim.deviceRef = endpoint.deviceRef

section Lookups

variable {claims items : List (ClaimRecord γ)} {claim : ClaimRecord γ} {deviceId : String}

theorem exists_lookup (h : claim ∈ items) :
    ∃ found, lookup ClaimRecord.deviceId claim.deviceId items = some found := by
  cases hFound : lookup ClaimRecord.deviceId claim.deviceId items with
  | some found => exact ⟨found, rfl⟩
  | none => exact absurd rfl (Foundation.Table.lookup_eq_none_iff.mp hFound claim h)

theorem exists_claimed (h : claim ∈ items) : ∃ found, claimed items claim.deviceId = some found :=
  exists_lookup (List.mem_reverse.mpr h)

theorem mem_of_claimed (h : claimed items deviceId = some claim) :
    claim ∈ items ∧ claim.deviceId = deviceId := by
  obtain ⟨hMem, hId⟩ := Foundation.Table.lookup_mem h
  exact ⟨List.mem_reverse.mp hMem, hId⟩

/-- With one DeviceRef, the entry of the dictionary is as good as any Claim. -/
theorem claimed_matches_iff {endpoint : BodyEndpoint β} (hOne : OneRef claims endpoint.deviceId) :
    ((claimed (listed claims) endpoint.deviceId).all fun claim =>
      claim.deviceRef ≠ endpoint.deviceRef) = false ↔ Mounted claims endpoint := by
  constructor
  · intro hMatches
    cases hFound : claimed (listed claims) endpoint.deviceId with
    | none => simp [hFound] at hMatches
    | some found =>
      obtain ⟨hMem, hId⟩ := mem_of_claimed hFound
      exact ⟨found, hMem, hId, by simpa [hFound] using hMatches⟩
  · rintro ⟨claim, hMem, hId, hRef⟩
    obtain ⟨found, hFound⟩ := exists_claimed hMem
    obtain ⟨hFoundMem, hFoundId⟩ := mem_of_claimed hFound
    rw [hId] at hFound hFoundId
    simp [hFound, hOne found hFoundMem claim hMem hFoundId hId, hRef]

end Lookups

section Page

variable {host : DeviceHost γ β δ} {ownerId controllerId : String} {claims : List (ClaimRecord γ)}
  {scope : String × String}

theorem queryClaims_listed (hLists : host.Lists claims) (hFits : (listed claims).length ≤ claimLimit) :
    host.queryClaims (DeviceHost.claimQuery controllerId scope) = .ok ⟨scope.1, listed claims⟩ := by
  have hItems : (claims.filter fun claim => claim.state ∈ listedStates).take claimLimit =
    listed claims := List.take_of_length_le hFits
  have hPage : host.claimPage (DeviceHost.claimQuery controllerId scope) =
      .ok ⟨scope.1, listed claims⟩ := by
    rw [hLists]
    exact congrArg (fun items => Except.ok (ClaimPage.mk scope.1 items)) hItems
  unfold DeviceHost.queryClaims
  rw [hPage]
  exact if_neg (not_not_intro rfl)

theorem ownedDeviceRef_eq (hScope : host.admissionScope ownerId = .ok scope)
    (hLists : host.Lists claims) (hFits : (listed claims).length ≤ claimLimit) {deviceId : String}
    {found : ClaimRecord γ} (hFound : lookup ClaimRecord.deviceId deviceId (listed claims) = some found) :
    host.ownedDeviceRef ownerId controllerId deviceId = .ok found.deviceRef := by
  unfold DeviceHost.ownedDeviceRef
  rw [hScope]
  simp only [bind, Except.bind, queryClaims_listed hLists hFits, hFound]

theorem inventoryRef_eq (hScope : host.admissionScope ownerId = .ok scope)
    (hLists : host.Lists claims) (hFits : (listed claims).length ≤ claimLimit) (deviceId : String) :
    host.inventoryRef ownerId controllerId deviceId =
      .ok ((claimed (listed claims) deviceId).map ClaimRecord.deviceRef) := by
  unfold DeviceHost.inventoryRef
  rw [hScope]
  simp only [bind, Except.bind, queryClaims_listed hLists hFits]
  rfl

theorem mapM_eq_ok {ε α ρ : Type} {f : α → Except ε ρ} {R : α → ρ → Prop} {xs : List α}
    (h : ∀ x ∈ xs, ∃ y, f x = .ok y ∧ R x y) : ∃ ys, xs.mapM f = .ok ys ∧ List.Forall₂ R xs ys := by
  induction xs with
  | nil => exact ⟨[], rfl, .nil⟩
  | cons x rest ih =>
    obtain ⟨y, hY, hRel⟩ := h x List.mem_cons_self
    obtain ⟨ys, hYs, hRels⟩ := ih fun x' hX' => h x' (List.mem_cons_of_mem x hX')
    refine ⟨y :: ys, ?_, .cons hRel hRels⟩
    simp only [List.mapM_cons, hY, hYs]
    rfl

variable {endpoints : List (BodyEndpoint β)}

theorem composedDeviceInventory_eq (hScope : host.admissionScope ownerId = .ok scope)
    (hLists : host.Lists claims) (hFits : (listed claims).length ≤ claimLimit)
    (hEndpoints : host.listBodyEndpoints ownerId = .ok endpoints) :
    host.composedDeviceInventory ownerId controllerId = (do
      validateInventoryMembership endpoints ownerId (listed claims)
      let outputs ← (presentOf endpoints).mapM (host.outputOf controllerId scope)
      ownerDeviceInventoryView endpoints ownerId (listed claims) outputs) := by
  unfold DeviceHost.composedDeviceInventory
  rw [hScope]
  simp only [bind, Except.bind, hEndpoints, queryClaims_listed hLists hFits]

theorem listBodyEndpoints_eq (hAnswer : host.bodyEndpoints ownerId = .ok endpoints)
    (hOwners : ∀ endpoint ∈ endpoints, endpoint.ownerId = ownerId) :
    host.listBodyEndpoints ownerId = .ok endpoints := by
  unfold DeviceHost.listBodyEndpoints
  rw [hAnswer]
  exact if_neg (by simpa using hOwners)

theorem validateInventoryMembership_eq (hOwners : ∀ endpoint ∈ endpoints, endpoint.ownerId = ownerId)
    (hOne : ∀ endpoint ∈ presentOf endpoints, OneRef claims endpoint.deviceId) :
    validateInventoryMembership endpoints ownerId (listed claims) = .ok () ∧
        (∀ endpoint ∈ presentOf endpoints, Mounted claims endpoint) ∨
      validateInventoryMembership endpoints ownerId (listed claims) = .error syncing ∧
        ¬ ∀ endpoint ∈ presentOf endpoints, Mounted claims endpoint := by
  unfold validateInventoryMembership
  rw [if_neg (by simpa using hOwners)]
  split
  · rename_i hStale
    refine .inr ⟨rfl, fun hMounted => ?_⟩
    obtain ⟨endpoint, hEndpoint, hAll⟩ := List.any_eq_true.mp hStale
    have hMatches := (claimed_matches_iff (hOne endpoint hEndpoint)).mpr (hMounted endpoint hEndpoint)
    rw [hMatches] at hAll
    cases hAll
  · rename_i hFresh
    refine .inl ⟨rfl, fun endpoint hEndpoint => ?_⟩
    refine (claimed_matches_iff (hOne endpoint hEndpoint)).mp ?_
    rw [Bool.not_eq_true, List.any_eq_false] at hFresh
    simpa using hFresh endpoint hEndpoint

theorem exists_output {outputs : List (String × DeviceOutputConfiguration δ)}
    (hOutputs : List.Forall₂ (fun endpoint output => output.1 = endpoint.deviceId) endpoints outputs)
    {endpoint : BodyEndpoint β} (h : endpoint ∈ endpoints) :
    ∃ output, lookup Prod.fst endpoint.deviceId outputs.reverse = some output := by
  have hMem : ∃ output ∈ outputs, output.1 = endpoint.deviceId := by
    induction hOutputs with
    | nil => cases h
    | cons hHead _ ih =>
      rcases List.mem_cons.mp h with rfl | hRest
      · exact ⟨_, List.mem_cons_self, hHead⟩
      · obtain ⟨output, hOutput, hId⟩ := ih hRest
        exact ⟨output, List.mem_cons_of_mem _ hOutput, hId⟩
  obtain ⟨output, hOutput, hId⟩ := hMem
  cases hFound : lookup Prod.fst endpoint.deviceId outputs.reverse with
  | some found => exact ⟨found, rfl⟩
  | none =>
    exact absurd hId (Foundation.Table.lookup_eq_none_iff.mp hFound output (List.mem_reverse.mpr hOutput))

def Shows (endpoint : BodyEndpoint β) (view : LocalDeviceView γ β δ) : Prop :=
  view.body = endpoint.content ∧ view.claim.deviceRef = endpoint.deviceRef

theorem ownerDeviceInventoryView_eq {outputs : List (String × DeviceOutputConfiguration δ)}
    (hValid : validateInventoryMembership endpoints ownerId (listed claims) = .ok ())
    (hOutputs : List.Forall₂ (fun endpoint output => output.1 = endpoint.deviceId)
      (presentOf endpoints) outputs)
    (hOne : ∀ endpoint ∈ presentOf endpoints, OneRef claims endpoint.deviceId)
    (hMounted : ∀ endpoint ∈ presentOf endpoints, Mounted claims endpoint) :
    ∃ views, ownerDeviceInventoryView endpoints ownerId (listed claims) outputs = .ok views ∧
      List.Forall₂ Shows (presentOf endpoints) views := by
  have hAll : ¬ (presentOf endpoints).any (fun endpoint =>
      (lookup Prod.fst endpoint.deviceId outputs.reverse).isNone) = true := by
    rw [Bool.not_eq_true, List.any_eq_false]
    intro endpoint hEndpoint
    obtain ⟨output, hOutput⟩ := exists_output hOutputs hEndpoint
    simp [hOutput]
  have hViews : ∀ endpoint ∈ presentOf endpoints, ∃ view,
      deviceView (listed claims) outputs endpoint = .ok view ∧ Shows endpoint view := by
    intro endpoint hEndpoint
    obtain ⟨output, hOutput⟩ := exists_output hOutputs hEndpoint
    obtain ⟨claim, hClaim, hId, hRef⟩ := hMounted endpoint hEndpoint
    obtain ⟨found, hFound⟩ := exists_claimed hClaim
    obtain ⟨hFoundMem, hFoundId⟩ := mem_of_claimed hFound
    rw [hId] at hFound hFoundId
    refine ⟨⟨found, endpoint.content, output.2⟩, ?_, rfl, ?_⟩
    · simp only [deviceView, hFound, hOutput]
    · exact (hOne endpoint hEndpoint found hFoundMem claim hClaim hFoundId hId).trans hRef
  obtain ⟨views, hMapped, hShows⟩ := mapM_eq_ok hViews
  refine ⟨views, ?_, hShows⟩
  unfold ownerDeviceInventoryView
  simp only [bind, Except.bind, hValid, if_neg hAll]
  exact hMapped

end Page

namespace Sample

def deviceRef (deviceInstanceId : String) (claimGeneration : Int) : DeviceRef where
  deviceInstanceId
  ownerDomainId := "owner-domain-a"
  ownerDomainGeneration := 3
  claimGeneration
  trustEpoch := 1

def activeClaim (deviceInstanceId : String) (claimGeneration : Int) : ClaimRecord Nat where
  deviceRef := deviceRef deviceInstanceId claimGeneration
  state := .active
  content := 1

def body (deviceId : String) : BodyEndpoint String where
  ownerId := "owner-1"
  deviceId
  deviceRef := deviceRef deviceId 1
  present := true
  content := deviceId ++ ":body"

def deviceHost (claims : List (ClaimRecord Nat)) : DeviceHost Nat String Unit where
  onboardingTarget := some "owner-domain-a"
  isOwnerDomainId := fun _ => true
  isBusinessOwnerId := fun _ => true
  bodyEndpoints := fun _ => .ok [body "speaker-study", body "speaker-kitchen"]
  claimPage payload := .ok
    { ownerDomainId := payload.query.ownerDomainId
      items := (claims.filter fun claim => claim.state ∈ payload.query.states).take
        payload.query.limit }
  outputConfiguration query := .ok ⟨query.deviceRef, ()⟩

def settled : List (ClaimRecord Nat) := [activeClaim "speaker-study" 1, activeClaim "speaker-kitchen" 1]

/-- The speaker in the kitchen has been authorized again, and not mounted again yet. -/
def reauthorized : List (ClaimRecord Nat) :=
  [activeClaim "speaker-study" 1, activeClaim "speaker-kitchen" 2]

end Sample

theorem mem_listed_settled {claim : ClaimRecord Nat} : claim ∈ listed Sample.settled ↔
    claim = Sample.activeClaim "speaker-study" 1 ∨ claim = Sample.activeClaim "speaker-kitchen" 1 := by
  rw [show listed Sample.settled = Sample.settled from rfl]
  simp [Sample.settled]

theorem oneRef_settled (deviceId : String) : OneRef Sample.settled deviceId := by
  intro claim hClaim other hOther hId hOtherId
  have hApart : "speaker-study" ≠ "speaker-kitchen" := by decide
  rcases mem_listed_settled.mp hClaim with rfl | rfl <;>
    rcases mem_listed_settled.mp hOther with rfl | rfl
  · rfl
  · exact absurd (hId.trans hOtherId.symm) hApart
  · exact absurd (hOtherId.trans hId.symm) hApart
  · rfl

end EidolonAdmin.LocalApi
