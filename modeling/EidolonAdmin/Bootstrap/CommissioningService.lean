import EidolonAdmin.Foundation.Json
import EidolonAdmin.Bootstrap.ClaimWindow

/-! # The commissioning use cases

`CommissioningService` over the SQLite store. A use case that awaits the network
port is split where it awaits: the first part returns or suspends, the second is
resumed with what the port answered. Between the two the store may have changed.
-/

namespace EidolonAdmin.Bootstrap

open Foundation

/-- What leaves a service call as an exception: the two kinds of refusal with
their texts, an exception of the store or of the network adapter that nothing
catches, and a value of a type the code cannot handle. -/
inductive ServiceError where
  | commissioning (code message : String)
  | rejected (message : String)
  | store (error : StoreError)
  | port
  | typeError
deriving DecidableEq, Repr

/-- `uuid`, `hashlib` and `cryptography` as the service uses them. -/
structure Platform where
  sha256 : String → String
  /-- The hexadecimal digest of the DER document of a P-256 key, from its
  canonical base64url text. -/
  readControllerKey : String → Except ServiceError String
  /-- Whether `uuid.UUID` reads a text that is not in canonical form. -/
  readsAsUuid : String → Bool
  /-- Whether `verify_controller_signature` returns. -/
  verifySignature : ControllerGrant → (challenge purpose : String) → Nat → Json → Bool

/-- `CommissioningAccess`. -/
inductive Access where
  | setup (sessionId secretHash : String)
  | controller (grant : ControllerGrant)
deriving DecidableEq, Repr

structure NetworkChangeRequest where
  operationId : String
  ssid : String
  passphrase : Option String := none
  hidden : Bool := false
deriving DecidableEq, Repr

structure NetworkProvisioningSnapshot where
  state : NetworkState
  activeOperationId : Option String := none
  currentSsid : Option String := none
  stagedSsid : Option String := none
deriving DecidableEq, Repr

inductive PortOutcome where
  | returned (snapshot : NetworkProvisioningSnapshot)
  | provisioningError (message : String)
  | raised
deriving DecidableEq, Repr

/-- A use case that waits for the network port, with what it remembers. -/
inductive Suspended where
  | configure (request : NetworkChangeRequest) (previous : NetworkState)
  | confirm (operationId : String)
  | rollback (operationId : String)
  | resetRead (forgetWifiProfiles : Bool)
  | resetForget
  | resetReread
deriving DecidableEq, Repr

inductive Progress where
  | ended (result : Except ServiceError (Option BootstrapOperation))
  | suspended (call : Suspended)
deriving Repr

def ServiceError.commissioningDenied : ServiceError :=
  .commissioning "commissioning_denied" "Commissioning session is unavailable"

def ServiceError.controllerDenied : ServiceError :=
  .commissioning "controller_denied" "Controller is not authorized for this Host"

def ServiceError.hostAdminRequired : ServiceError :=
  .commissioning "controller_denied" "Host Admin authorization is required"

variable (platform : Platform)

/-- `_operation_id`. -/
def readOperationId : Json → Except ServiceError String
  | .str value =>
    if isCanonicalUuid value then .ok value
    else if platform.readsAsUuid value then
      .error (.commissioning "invalid_request" "operation_id must use canonical UUID encoding")
    else .error (.commissioning "invalid_request" "operation_id must be a UUID")
  | _ => .error (.commissioning "invalid_request" "operation_id is required")

/-- `_ssid`. -/
def readSsid : Json → Except ServiceError String
  | .str value =>
    if value = "" then .error (.commissioning "invalid_network" "SSID is required")
    else if 1 ≤ value.utf8ByteSize ∧ value.utf8ByteSize ≤ 32 then .ok value
    else .error (.commissioning "invalid_network" "SSID must contain 1 to 32 UTF-8 bytes")
  | _ => .error (.commissioning "invalid_network" "SSID is required")

def readPassphrase : Json → Except ServiceError (Option String)
  | .null => .ok none
  | .str value =>
    if 8 ≤ value.length ∧ value.length ≤ 63 then .ok (some value)
    else
      .error (.commissioning "invalid_network" "Wi-Fi passphrase must contain 8 to 63 characters")
  | _ => .error (.commissioning "invalid_network" "Wi-Fi passphrase must be a string")

def readHidden : Option Json → Except ServiceError Bool
  | none => .ok false
  | some (.bool value) => .ok value
  | some _ => .error (.commissioning "invalid_network" "hidden must be a boolean")

/-- The payload checks of `configure_network`, in their order. -/
def readNetworkChange (payload : Json) : Except ServiceError NetworkChangeRequest := do
  let operationId ← readOperationId platform (payload.get "operation_id")
  let ssid ← readSsid (payload.get "ssid")
  let passphrase ← readPassphrase (payload.get "passphrase")
  let hidden ← readHidden (payload.get? "hidden")
  return { operationId, ssid, passphrase, hidden }

def readDisplayName : Json → Except ServiceError String
  | .str value =>
    if strip value = "" then
      .error (.commissioning "invalid_request" "Controller display_name is required")
    else if (strip value).length > 80 then
      .error (.commissioning "invalid_request" "Controller display_name is too long")
    else .ok (strip value)
  | _ => .error (.commissioning "invalid_request" "Controller display_name is required")

/-- Membership in a set of texts, which a list or an object cannot be tested for. -/
def readPlatform : Json → Except ServiceError String
  | .str value =>
    if value = "android" ∨ value = "ios" then .ok value
    else .error (.commissioning "invalid_request" "Controller platform is unsupported")
  | .arr _ | .obj _ => .error .typeError
  | _ => .error (.commissioning "invalid_request" "Controller platform is unsupported")

def checkSuppliedId (controllerId : String) : Json → Except ServiceError Unit
  | .null => .ok ()
  | .str value =>
    if isControllerId value ∧ value = controllerId then .ok ()
    else
      .error (.commissioning "invalid_controller_key" "Controller ID does not match its public key")
  | _ =>
    .error (.commissioning "invalid_controller_key" "Controller ID does not match its public key")

def controllerGrant (payload : Json) (resetEpoch : Nat) (createdAt : String) :
    Except ServiceError ControllerGrant := do
  let publicKey ← match payload.get "public_key" with
    | .str value =>
      if value = "" then .error (.commissioning "invalid_request" "public_key is required")
      else .ok value
    | _ => .error (.commissioning "invalid_request" "public_key is required")
  let digest ← platform.readControllerKey publicKey
  let controllerId := "ectrl-" ++ String.ofList (digest.toList.take 20)
  checkSuppliedId controllerId (payload.get "controller_id")
  let displayName ← readDisplayName (payload.get "display_name")
  let grantPlatform ← readPlatform (payload.get "platform")
  return {
    controllerId, publicKey, publicKeyFingerprint := "sha256:" ++ digest, role := .hostAdmin,
    displayName, platform := grantPlatform, resetEpoch, createdAt }

namespace Store

/-- The refusal a store conflict becomes where the setup session is checked. -/
def denySetup {α : Type} : Except StoreError α → Except ServiceError Unit
  | .ok _ => .ok ()
  | .error (.conflict _) => .error .commissioningDenied
  | .error .integrity => .error (.store .integrity)

def authorize (sessionId secret : Json) (now : String) (s : Store) :
    Except ServiceError Access × Store :=
  match sessionId, secret with
  | .str sessionId, .str secret =>
    if sessionId = "" ∨ isUsableSetupCode secret = false then (.error .commissioningDenied, s)
    else
      let secretHash := platform.sha256 secret
      match s.authorizeCommissioningSession sessionId secretHash now with
      | (result, t) => ((denySetup result).map fun _ => .setup sessionId secretHash, t)
  | _, _ => (.error .commissioningDenied, s)

/-- The lookup and the test of a grant that `authorize_controller` and
`_active_controller` both make, with the refusal each of them raises. -/
def heldBy (refusal : ServiceError) (controllerId : Json) (s : Store) :
    Except ServiceError ControllerGrant :=
  match controllerId with
  | .str controllerId =>
    if isControllerId controllerId then
      match s.getController controllerId with
      | some grant =>
        if grant.revokedAt.isNone ∧ grant.resetEpoch = s.state.resetEpoch ∧
            grant.role = .hostAdmin then .ok grant
        else .error refusal
      | none => .error refusal
    else .error refusal
  | _ => .error refusal

def authorizeController (controllerId : Json) (s : Store) : Except ServiceError Access :=
  (s.heldBy .controllerDenied controllerId).map .controller

def requireAuthorized (access : Access) (now : String) (s : Store) :
    Except ServiceError Unit × Store :=
  match access with
  | .controller grant =>
    match s.getController grant.controllerId with
    | none => (.error .controllerDenied, s)
    | some current =>
      if current.revokedAt.isNone ∧ current.publicKey = grant.publicKey ∧
          current.resetEpoch = s.state.resetEpoch then (.ok (), s)
      else (.error .controllerDenied, s)
  | .setup sessionId secretHash =>
    match s.authorizeCommissioningSession sessionId secretHash now with
    | (result, t) => (denySetup result, t)

def requireHostAdmin (access : Access) (now : String) (s : Store) :
    Except ServiceError Unit × Store :=
  match s.requireAuthorized access now with
  | (.error error, t) => (.error error, t)
  | (.ok (), t) =>
    match access with
    | .controller _ => (.ok (), t)
    | .setup _ _ => (.error .hostAdminRequired, t)

/-- The handler of `configure_network` once its operation is stored. -/
def configureFailed (operationId : String) (previous : NetworkState) (code message failedAt : String)
    (s : Store) : Except ServiceError (Option BootstrapOperation) × Store :=
  let fallback : NetworkState := if previous = .connected then .connected else .degraded
  match s.updateOperation operationId .failed fallback failedAt (some code) with
  | (.error error, t) => (.error (.store error), t)
  | (.ok _, t) => (.error (.commissioning code message), t)

/-- `configure_network` up to the await of `begin_change`: the operation is stored
`pending` and set `running` in the same turn. -/
def configureNetwork (access : Access) (payload : Json) (now failedAt : String) (s : Store) :
    Progress × Store :=
  match s.requireHostAdmin access now with
  | (.error error, t) => (.ended (.error error), t)
  | (.ok (), t) =>
    match readNetworkChange platform payload with
    | .error error => (.ended (.error error), t)
    | .ok request =>
      match t.getOperation request.operationId with
      | some existing =>
        if existing.target ≠ request.ssid then
          (.ended (.error (.commissioning "operation_conflict" "operation_id is already in use")), t)
        else (.ended (.ok (some existing)), t)
      | none =>
        let operation : BootstrapOperation :=
          { operationId := request.operationId, operationType := .changeNetwork, state := .pending,
            target := request.ssid, resetEpoch := t.state.resetEpoch, createdAt := now,
            updatedAt := now }
        match t.createOperation operation with
        | (.error (.conflict reason), u) =>
          (.ended (.error (.commissioning "operation_conflict" reason.message)), u)
        | (.error .integrity, u) => (.ended (.error (.store .integrity)), u)
        | (.ok _, u) =>
          match u.updateOperation request.operationId .running .staging now none with
          | (.ok _, v) => (.suspended (.configure request t.state.networkState), v)
          | (.error (.conflict reason), v) =>
            (v.configureFailed request.operationId t.state.networkState "operation_conflict"
              reason.message failedAt).map .ended id
          | (.error .integrity, v) => (.ended (.error (.store .integrity)), v)

/-- `configure_network` after `begin_change`. -/
def configureResumed (request : NetworkChangeRequest) (previous : NetworkState)
    (outcome : PortOutcome) (now failedAt : String) (s : Store) :
    Except ServiceError (Option BootstrapOperation) × Store :=
  match outcome with
  | .returned _ =>
    match s.updateOperation request.operationId .waitingConfirmation .staging now none with
    | (.ok operation, t) => (.ok (some operation), t)
    | (.error (.conflict reason), t) =>
      t.configureFailed request.operationId previous "operation_conflict" reason.message failedAt
    | (.error .integrity, t) => (.error (.store .integrity), t)
  | .provisioningError message =>
    s.configureFailed request.operationId previous "network_stage_failed" message failedAt
  | .raised => (.error .port, s)

def namedOperation (access : Access) (operationId : Json) (now : String) (s : Store) :
    Except ServiceError BootstrapOperation × Store :=
  match s.requireHostAdmin access now with
  | (.error error, t) => (.error error, t)
  | (.ok (), t) =>
    match readOperationId platform operationId with
    | .error error => (.error error, t)
    | .ok operationId =>
      match t.getOperation operationId with
      | none =>
        (.error (.commissioning "operation_not_found" "Network operation does not exist"), t)
      | some operation => (.ok operation, t)

/-- `confirm_network` up to the await of `confirm`. -/
def confirmNetwork (access : Access) (operationId : Json) (now : String) (s : Store) :
    Progress × Store :=
  match s.namedOperation platform access operationId now with
  | (.error error, t) => (.ended (.error error), t)
  | (.ok operation, t) =>
    if operation.state = .succeeded then (.ended (.ok (some operation)), t)
    else if operation.state ≠ .waitingConfirmation then
      (.ended (.error (.commissioning "operation_conflict" "Network operation cannot be confirmed")),
        t)
    else (.suspended (.confirm operation.operationId), t)

def endOperation (operationId : String) (state : BootstrapOperationState)
    (networkState : NetworkState) (now : String) (errorCode : Option String) (s : Store) :
    Except ServiceError (Option BootstrapOperation) × Store :=
  (s.updateOperation operationId state networkState now errorCode).map
    (fun result => (result.mapError .store).map some) id

/-- `confirm_network` after `confirm`. -/
def confirmResumed (operationId : String) (outcome : PortOutcome) (now : String) (s : Store) :
    Except ServiceError (Option BootstrapOperation) × Store :=
  match outcome with
  | .returned _ => s.endOperation operationId .succeeded .connected now none
  | .provisioningError _ =>
    (.error (.commissioning "network_confirm_failed" "The staged Wi-Fi network is not connected"), s)
  | .raised => (.error .port, s)

def rollbackIncomplete : ServiceError :=
  .commissioning "network_rollback_failed" "The Wi-Fi rollback did not complete"

/-- `rollback_network` up to the await of `rollback`: any stored operation that has
not failed is set `compensating`. -/
def rollbackNetwork (access : Access) (operationId : Json) (now : String) (s : Store) :
    Progress × Store :=
  match s.namedOperation platform access operationId now with
  | (.error error, t) => (.ended (.error error), t)
  | (.ok operation, t) =>
    if operation.state = .failed then (.ended (.ok (some operation)), t)
    else
      match t.updateOperation operation.operationId .compensating .rollingBack now none with
      | (.ok _, u) => (.suspended (.rollback operation.operationId), u)
      | (.error (.conflict _), u) => (.ended (.error rollbackIncomplete), u)
      | (.error .integrity, u) => (.ended (.error (.store .integrity)), u)

/-- `rollback_network` after `rollback`. -/
def rollbackResumed (operationId : String) (outcome : PortOutcome) (now : String) (s : Store) :
    Except ServiceError (Option BootstrapOperation) × Store :=
  match outcome with
  | .returned snapshot =>
    s.endOperation operationId .failed snapshot.state now (some "cancelled")
  | .provisioningError _ => (.error rollbackIncomplete, s)
  | .raised => (.error .port, s)

/-- `CommissioningService.claim_controller`. The window is reopened after the
claim is committed, and a failure to do so is swallowed. -/
def claimAccess (settings : BootstrapSettings) (sessionId secretHash : String) (payload : Json)
    (now : String) (draw : WindowDraw) (s : Store) : Except ServiceError ControllerGrant × Store :=
  match controllerGrant platform payload s.state.resetEpoch now with
  | .error error => (.error error, s)
  | .ok grant =>
    match s.claimController sessionId secretHash grant now with
    | (.ok given, t) =>
      (.ok given, (t.reopenStandingClaimWindow platform.sha256 settings draw).2)
    | (.error (.conflict reason), t) =>
      let code :=
        if reason.message = "commissioning session is unavailable" then "commissioning_denied"
        else "operation_conflict"
      (.error (.commissioning code reason.message), t)
    | (.error .integrity, t) => (.error (.store .integrity), t)

end Store

end EidolonAdmin.Bootstrap
