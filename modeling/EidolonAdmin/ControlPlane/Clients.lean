import EidolonAdmin.ControlPlane.Http
import EidolonAdmin.Removal.Contracts

/-! # The clients of the control plane's authorities

Every call of Data, Memory, Agent, Hub and Kernel, on whatever the System Directory, the discovery
of memory spaces and the authority itself answer. Of a request only what is checked before it is
sent and of a consumed model only what a client compares is kept.
-/

namespace EidolonAdmin.ControlPlane

open Foundation Foundation.JsonText
open Text (ofString)

/-! ## Consumed contracts -/

structure CompanionIdentity where
  companionId : Text
  ownerId : Text

/-- A model of which a client compares the Owner alone. -/
structure OwnedBy where
  ownerId : Text

structure WorkspaceOperation where
  operationId : Text
  requestFingerprint : Text

structure CompanionProvision where
  operationId : Text

structure OwnerIdentity where
  ownerId : Text
  defaultCompanionId : Option Text

structure CompanionLifecycleResult where
  companionId : Text
  lifecycleState : Text

structure DecideEnrollmentResult where
  proposalRevision : Int

structure EnrollmentRecoveryProjection where
  enrollmentId : Text

structure DomainPage where
  ownerDomainId : Text

structure HubClaimRevocationResult where
  commandId : Text
  deviceRef : Removal.DeviceRef
  lifecycleState : Text

structure KernelMount where
  deviceId : Text
  ownerId : Text
  active : Bool

structure KernelBodyEndpoint where
  deviceId : Text
  ownerId : Text
  bodyEndpointId : Text
  assignedCompanionId : Option Text

inductive Relayed where
  | personaTimeline
  | personaChapter
  | personaAuthoring
  | personaPresetCatalog
  | personaEditSnapshot
  | companionFace
  | registry
  | memoryRecollections
  | memoryBrowse
  | memoryStatus
  | memoryGraph
  | memoryEntries
  | memoryExport
  | ownerForgetPreview
  | ownerForgetOutcome
  | ownerForgetProgress
  | conversationRows
  | transcriptRows
  | taskRows
  | taskRow
  | ownerCompanionActivity
  | runtimeSessionRevocation
  | personaPreviewResponse
  | enrollmentProposalPage
  | claimPage
deriving DecidableEq, Repr

/-- What validation makes of a content: the compared parts of a model, whether a relayed model
accepts it, the session of a conversation's status, and a page of realms or the text of the
`ValidationError`. -/
structure Contracts where
  relays : Relayed → List Byte → Bool
  companionIdentity : List Byte → Option CompanionIdentity
  companionRosterPage : List Byte → Option OwnedBy
  companionRuntimeSnapshot : List Byte → Option OwnedBy
  workspaceOperation : List Byte → Option WorkspaceOperation
  companionProvision : List Byte → Option CompanionProvision
  ownerIdentity : List Byte → Option OwnerIdentity
  ownerGovernanceEvents : List Byte → Option OwnedBy
  companionLifecycleResult : List Byte → Option CompanionLifecycleResult
  taskRow : List Byte → Option OwnedBy
  decideEnrollmentResult : List Byte → Option DecideEnrollmentResult
  deviceConversationStatus : Document → Option Text
  roleGroupStatus : Document → Option Text
  deviceOutputConfiguration : List Byte → Option Removal.DeviceRef
  deviceOutputPolicy : List Byte → Option (List Text)
  enrollmentRecoveryProjection : List Byte → Option EnrollmentRecoveryProjection
  enrollmentProposalPage : List Byte → Option DomainPage
  claimPage : List Byte → Option DomainPage
  hubClaimRevocationResult : List Byte → Option HubClaimRevocationResult
  deviceLocalEraseOperationStatus : List Byte → Option Removal.DeviceRef
  kernelMutationResult : List Byte → Option KernelMount
  kernelBodyEndpoint : List Byte → Option KernelBodyEndpoint
  kernelBodyEndpointPage : List Byte → Option (List OwnedBy)
  kernelMountPage : List Byte → Option (List OwnedBy)
  memoryRealmRuntimePage : Document → Except Text Document

/-- What a call meets: Python and the contracts, and what the directory, the discovery of memory
spaces and the authority answer. -/
structure World where
  python : Python
  contracts : Contracts
  directory : Exchange
  discovery : Exchange
  answer : Exchange

section Clients

variable (world : World)

def relayed (asks : Except Raised Response) (authority : String) (model : Relayed) : Except Raised (List Byte) :=
  answered world.python asks authority
    (fun content => if world.contracts.relays model content then some content else none) fun _ => []

def requireCredential (authority kind detail : String) (token : Text) : Except Raised Unit :=
  if token = [] then .error (.authority ⟨authority, kind, ofString detail, 503, none, false, none⟩) else .ok ()

def dataContract : String := "https://eidolon.dev/data/contracts/v1/companion/identity.schema.json"
def dataRuntimeContract : String := "https://eidolon.dev/data/contracts/v1/companion/runtime-snapshot.schema.json"
def dataWorkspaceContract : String :=
  "https://eidolon.live/contracts/system-data/workspace/onboarding-operation-v1.schema.json"
def hubContract : String := "eidolon.hub.device-directory.v1"
def kernelContract : String := "eidolon.kernel.device-mount.v1"

/-! ## Data -/

namespace DataAuthorityClient

variable (token : Text)

/-- A request to an endpoint of Data, under the credential of Admin. -/
def call (endpointId requiredContract : String) : Except Raised Response := do
  requireCredential "data" "configuration" "Admin Data authority credential is not configured" token
  let _ ← resolve world.python "data" endpointId requiredContract world.directory
  request "data" world.answer

def companionCall : Except Raised Response := call world token "companion-authority.http" dataContract

def getCompanion (companionId : Text) : Except Raised CompanionIdentity :=
  answered world.python (companionCall world token) "data" world.contracts.companionIdentity fun identity =>
    [(identity.companionId = companionId, "Data returned a different companion identity")]

def listOwnerCompanions (ownerId : Text) : Except Raised OwnedBy :=
  answered world.python (companionCall world token) "data" world.contracts.companionRosterPage fun page =>
    [(page.ownerId = ownerId, "Data returned a roster for a different Owner")]

def getOwnerCompanion (ownerId companionId : Text) : Except Raised CompanionIdentity :=
  answered world.python (companionCall world token) "data" world.contracts.companionIdentity fun identity =>
    [(identity.companionId = companionId ∧ identity.ownerId = ownerId,
      "Data returned a different Companion than was asked for")]

def renameCompanion (companionId : Text) : Except Raised CompanionIdentity :=
  answered world.python (companionCall world token) "data" world.contracts.companionIdentity fun identity =>
    [(identity.companionId = companionId, "Data returned a different companion identity")]

def getPersonaTimeline : Except Raised (List Byte) := relayed world (companionCall world token) "data" .personaTimeline

def restorePersona : Except Raised (List Byte) := relayed world (companionCall world token) "data" .personaChapter

def personaAuthoringTemplate : Except Raised (List Byte) :=
  relayed world (companionCall world token) "data" .personaAuthoring

def personaPresets : Except Raised (List Byte) :=
  relayed world (companionCall world token) "data" .personaPresetCatalog

def getPersona : Except Raised (List Byte) := relayed world (companionCall world token) "data" .personaEditSnapshot

def authorPersona : Except Raised (List Byte) := relayed world (companionCall world token) "data" .personaEditSnapshot

def getCompanionFaceState : Except Raised (List Byte) := relayed world (companionCall world token) "data" .companionFace

def getCompanionFace : Except Raised (Option (List Byte)) := do
  let response ← companionCall world token
  if response.status = 204 then .ok none
  else if response.status = 404 then
    .error (.authority ⟨"data", "not_found", ofString "companion not found", 404, none, false, none⟩)
  else if response.status ≠ 200 then raiseViolation "data" "Data did not serve the Companion face"
  else .ok (some response.content)

/-- The statuses with which Data refuses a face. -/
def faceRefused (response : Response) : Bool :=
  response.status = 413 || response.status = 415 || response.status = 422

def setCompanionFace : Except Raised (List Byte) := do
  let response ← companionCall world token
  if faceRefused response then
    .error (.authority
      ⟨"data", "rejected", ofString "companion face was refused", response.status, none, false, none⟩)
  else relayed world (.ok response) "data" .companionFace

def clearCompanionFace : Except Raised (List Byte) := relayed world (companionCall world token) "data" .companionFace

def getOwnerDefaultRuntime (ownerId : Text) : Except Raised OwnedBy :=
  answered world.python (call world token "companion-runtime-authority.http" dataRuntimeContract) "data"
    world.contracts.companionRuntimeSnapshot fun runtime =>
      [(runtime.ownerId = ownerId, "Data returned a different Owner runtime snapshot")]

end DataAuthorityClient

namespace DataWorkspaceAuthorityClient

variable (token : Text)

def call : Except Raised Response := do
  requireCredential "data" "configuration" "Admin Data workspace authority credential is not configured" token
  let _ ← resolve world.python "data-workspace" "workspace-authority.http" dataWorkspaceContract world.directory
  request "data" world.answer

def smarthomeRegistry : Except Raised (List Byte) := relayed world (call world token) "data" .registry

def initializeWorkspace (operationId requestFingerprint : Text) : Except Raised WorkspaceOperation :=
  answered world.python (call world token) "data" world.contracts.workspaceOperation fun result =>
    [(result.operationId = operationId, "Data returned a different workspace operation"),
      (result.requestFingerprint = requestFingerprint,
        "Data returned a workspace operation for different setup input")]

def ownerCall (ownerId : Text) : Except Raised OwnerIdentity :=
  answered world.python (call world token) "data" world.contracts.ownerIdentity fun identity =>
    [(identity.ownerId = ownerId, "Data returned a different Owner identity")]

def getOwner (ownerId : Text) : Except Raised OwnerIdentity := ownerCall world token ownerId

def renameOwner (ownerId : Text) : Except Raised OwnerIdentity := ownerCall world token ownerId

def provisionCompanion (operationId : Text) : Except Raised CompanionProvision :=
  answered world.python (call world token) "data" world.contracts.companionProvision fun result =>
    [(result.operationId = operationId, "Data returned a different provision operation")]

def setDefaultCompanion (ownerId companionId : Text) : Except Raised OwnerIdentity :=
  answered world.python (call world token) "data" world.contracts.ownerIdentity fun identity =>
    [(identity.ownerId = ownerId, "Data returned a different Owner identity"),
      (identity.defaultCompanionId = some companionId, "Data accepted the default change without applying it")]

def listGovernanceEvents (ownerId : Text) : Except Raised OwnedBy :=
  answered world.python (call world token) "data" world.contracts.ownerGovernanceEvents fun page =>
    [(page.ownerId = ownerId, "Data returned another Owner's governance events")]

def setCompanionLifecycle (companionId lifecycleState : Text) : Except Raised CompanionLifecycleResult :=
  answered world.python (call world token) "data" world.contracts.companionLifecycleResult fun result =>
    [(result.companionId = companionId, "Data returned a different companion lifecycle result"),
      (result.lifecycleState = lifecycleState, "Data accepted the lifecycle change without applying it")]

def get (operationId : Text) : Except Raised WorkspaceOperation :=
  answered world.python (call world token) "data" world.contracts.workspaceOperation fun result =>
    [(result.operationId = operationId, "Data returned a different workspace operation")]

end DataWorkspaceAuthorityClient

/-! ## Memory -/

namespace MemorySupervisorClient

/-- `request_reconcile`, which answers of an authority that it cannot reach. -/
def requestReconcile : Except Raised Bool :=
  match world.answer with
  | .response response => .ok (response.status = 200)
  | .unreachable => .ok false
  | .escaped => .error .escaped

/-- A page of realms, or the text of what was wrong with it. -/
def readRealms (response : Response) : Except Raised (Except Text Document) :=
  match response.json world.python with
  | .error error =>
    if isValueError error then .ok (.error (world.python.messageOf error response.content)) else .error .escaped
  | .ok document => .ok (world.contracts.memoryRealmRuntimePage document)

def listRealms : Except Raised Document :=
  match world.answer with
  | .response response =>
    if response.status ≥ 400 then
      .error (.authority ⟨"memory", "runtime_unavailable",
        ofString "Memory Supervisor returned HTTP " ++ printNat response.status, response.status, none, false, none⟩)
    else do
      match ← readRealms world response with
      | .ok page => .ok page
      | .error text =>
        .error (.authority (contractViolation "memory" (ofString "invalid realm runtime page: " ++ text)))
  | _ => .error .escaped

end MemorySupervisorClient

def nonEmptyText : Option Document → Option Text
  | some (.str text) => if text = [] then none else some text
  | _ => none

def isText (value : Option Document) (text : Text) : Bool :=
  match value with
  | some (.str found) => found = text
  | _ => false

namespace MemoryRecollectionsClient

abbrev Realm := List (Text × Document)

variable (token : Text)

/-- `_realm_name` -/
def realmName (realm : Realm) : Text :=
  (nonEmptyText (Dict.get realm (ofString "memory_realm_id")) <|>
    nonEmptyText (Dict.get realm (ofString "memory_space_id"))).getD (ofString "unidentified")

def owned (ownerId : Text) (realms : List Document) : List Realm :=
  realms.filterMap fun
    | .obj realm => if isText (Dict.get realm (ofString "owner_id")) ownerId then some realm else none
    | _ => none

def memoryRealms : Document → Option (List Document)
  | .obj value =>
    match Dict.get value (ofString "memory_realms") with
    | some (.arr realms) => some realms
    | _ => none
  | _ => none

def discover (ownerId : Text) : Except Raised (List Realm) := do
  let response ← request "memory" world.discovery
  if response.status ≠ 200 then
    .error (.authority ⟨"memory", "unavailable", ofString "memory discovery is unavailable", 503, none, true, none⟩)
  else
    match response.json world.python with
    | .error error =>
      if isValueError error then raiseViolation "memory" "memory discovery answered outside its contract"
      else .error .escaped
    | .ok document =>
      match memoryRealms document with
      | none => raiseViolation "memory" "memory discovery answered outside its contract"
      | some realms => .ok (owned ownerId realms)

def ambiguous (realms : List Realm) : Text :=
  ofString "this Owner has more than one memory space (" ++
    (ofString ", ").intercalate ((realms.map realmName).mergeSort fun a b => decide (a ≤ b)) ++
    ofString "); one Owner is one Realm, so which of these answers cannot be decided here"

def notRunning (realm : Realm) : Text :=
  ofString "this Owner's memory space (" ++ realmName realm ++ ofString ") is not running"

def isRunning (python : Python) (realm : Realm) : Bool :=
  truthy python ((Dict.get realm (ofString "enabled")).getD (.bool true)) &&
    match Dict.get realm (ofString "agent_reachable") with
    | some (.bool false) => false
    | _ => true

def readSurface : List Realm → Except Raised Text
  | [] =>
    .error (.authority ⟨"memory", "not_found", ofString "this Owner has no memory space", 404, none, false, none⟩)
  | [realm] =>
    match nonEmptyText (Dict.get realm (ofString "recollections_url")) with
    | none => raiseViolation "memory" "this memory space serves no read surface"
    | some url =>
      if isRunning world.python realm then .ok url
      else .error (.authority ⟨"memory", "runtime_missing", notRunning realm, 503, none, true, none⟩)
  | realms => .error (.authority ⟨"memory", "conflict", ambiguous realms, 409, none, false, none⟩)

/-- `_space_for` -/
def spaceFor (ownerId : Text) : Except Raised Text := do
  let realms ← discover world ownerId
  readSurface world realms

/-- What comes before the last place of the separator. -/
def rpartition (separator text : Text) : Option Text :=
  ((List.range (text.length + 1)).reverse.find? fun place => separator.isPrefixOf (text.drop place)).map text.take

/-- `_realm_path` -/
def realmPath (publishedUrl leaf : Text) : Except Raised Text :=
  match rpartition (ofString "/api/memory/v1/") publishedUrl with
  | none => raiseViolation "memory" "memory discovery published a read surface outside the contract"
  | some head => .ok (head ++ ofString "/api/memory/v1/" ++ leaf)

def realmCall (ownerId : Text) (leaf : String) : Except Raised Response := do
  requireCredential "memory" "configuration" "Admin memory service credential is not configured" token
  let space ← spaceFor world ownerId
  let _ ← realmPath space (ofString leaf)
  request "memory" world.answer

variable (ownerId : Text)

def recollections : Except Raised (List Byte) :=
  relayed world (realmCall world token ownerId "recollections") "memory" .memoryRecollections

def browse : Except Raised (List Byte) := relayed world (realmCall world token ownerId "browse") "memory" .memoryBrowse

def status : Except Raised (List Byte) := relayed world (realmCall world token ownerId "status") "memory" .memoryStatus

def graph : Except Raised (List Byte) := relayed world (realmCall world token ownerId "graph") "memory" .memoryGraph

def entries : Except Raised (List Byte) := relayed world (realmCall world token ownerId "entries") "memory" .memoryEntries

def exportMemory : Except Raised (List Byte) :=
  relayed world (realmCall world token ownerId "export") "memory" .memoryExport

def forgetPreview : Except Raised (List Byte) :=
  relayed world (realmCall world token ownerId "forget/preview") "memory" .ownerForgetPreview

def forgetConfirm : Except Raised (List Byte) :=
  relayed world (realmCall world token ownerId "forget/confirm") "memory" .ownerForgetOutcome

def forgetStatus : Except Raised (List Byte) :=
  relayed world (realmCall world token ownerId "forget/status") "memory" .ownerForgetProgress

end MemoryRecollectionsClient

/-! ## Agent -/

namespace AgentActivityClient

variable (token : Text)

def call : Except Raised Response := do
  requireCredential "agent" "configuration" "Admin Agent service credential is not configured" token
  request "agent" world.answer

def listConversations : Except Raised (List Byte) := relayed world (call world token) "agent" .conversationRows

def listTranscript : Except Raised (List Byte) := relayed world (call world token) "agent" .transcriptRows

def listTasks : Except Raised (List Byte) := relayed world (call world token) "agent" .taskRows

/-- A task of another Owner is none. -/
def getTask (ownerId : Text) : Except Raised OwnedBy := do
  let row ← answered world.python (call world token) "agent" world.contracts.taskRow fun _ => []
  if row.ownerId ≠ ownerId then
    .error (.authority ⟨"agent", "not_found", ofString "task not found", 404, none, false, none⟩)
  else .ok row

def cancelTask : Except Raised (List Byte) := relayed world (call world token) "agent" .taskRow

def retryTask : Except Raised (List Byte) := relayed world (call world token) "agent" .taskRow

def companionActivity : Except Raised (List Byte) := relayed world (call world token) "agent" .ownerCompanionActivity

def revokeRuntimeSessions : Except Raised (List Byte) :=
  relayed world (call world token) "agent" .runtimeSessionRevocation

def previewPersona : Except Raised (List Byte) := relayed world (call world token) "agent" .personaPreviewResponse

end AgentActivityClient

/-! ## Hub -/

namespace HubManagementClient

variable (authorization : Text)

/-- `_headers`, which nothing but spaces does not authorize. -/
def headers : Except Raised Unit :=
  if authorization.all Text.isSpace then
    .error (.authority
      ⟨"hub", "unauthorized", ofString "Bearer Hub management credential required", 401, none, false, none⟩)
  else .ok ()

def call : Except Raised Response := do
  let _ ← resolve world.python "hub" "device-authority.http" hubContract world.directory
  headers authorization
  request "hub" world.answer

def decideEnrollment (expectedProposalRevision : Int) : Except Raised DecideEnrollmentResult :=
  answered world.python (call world authorization) "hub" world.contracts.decideEnrollmentResult fun result =>
    [(result.proposalRevision = expectedProposalRevision,
      "Hub Decision response changed the reviewed Proposal content revision")]

/-- The session that the status model reads from an answer is the command's, absent where the
command names none. -/
def confirmSession (statusModel : Document → Option Text) (sessionId : Option Text) (response : Response) :
    Except Raised Text :=
  match response.json world.python with
  | .error error =>
    if isValueError error then raiseViolation "hub" "invalid device conversation response" else .error .escaped
  | .ok document =>
    match statusModel document, sessionId with
    | none, _ => raiseViolation "hub" "invalid device conversation response"
    | some _, none => .error .escaped
    | some found, some expected =>
      if found ≠ expected then raiseViolation "hub" "invalid device conversation response" else .ok found

def conversationCommand (action : String) (sessionId : Option Text) (statusModel : Document → Option Text) :
    Except Raised Text :=
  if action ∉ ["open", "status", "close"] then .error .escaped
  else do
    let response ← call world authorization
    if !response.isSuccess then raiseStatus world.python "hub" response
    else confirmSession world statusModel sessionId response

def deviceConversation (action : String) (sessionId : Option Text) : Except Raised Text :=
  conversationCommand world authorization action sessionId world.contracts.deviceConversationStatus

def roleGroup (action : String) (sessionId : Option Text) : Except Raised Text :=
  conversationCommand world authorization action sessionId world.contracts.roleGroupStatus

def sharesSession (action : String) (sessionId : Text) : Document → Bool
  | .obj result =>
    isText (Dict.get result (ofString "session_id")) sessionId &&
      isText (Dict.get result (ofString "state")) (ofString (if action = "open" then "transport_ready" else "closed"))
  | _ => false

def confirmSharedSession (action : String) (sessionId : Option Text) (response : Response) : Except Raised Document :=
  match response.json world.python, sessionId with
  | .error error, _ =>
    if isValueError error then raiseViolation "hub" "invalid shared session response" else .error .escaped
  | .ok _, none => .error .escaped
  | .ok result, some expected =>
    if sharesSession action expected result then .ok result
    else raiseViolation "hub" "invalid shared session response"

def sharedSession (action : String) (sessionId : Option Text) : Except Raised Document :=
  if action ∉ ["open", "close"] then .error .escaped
  else do
    let response ← call world authorization
    if !response.isSuccess then raiseStatus world.python "hub" response
    else confirmSharedSession world action sessionId response

def readDeviceOutputConfiguration (deviceRef : Removal.DeviceRef) : Except Raised Removal.DeviceRef :=
  answered world.python (call world authorization) "hub" world.contracts.deviceOutputConfiguration fun found =>
    [(found = deviceRef, "Hub output configuration answered about another device")]

def setDeviceOutputPolicy (allowed : List Text) : Except Raised (List Text) :=
  answered world.python (call world authorization) "hub" world.contracts.deviceOutputPolicy fun found =>
    [(found = allowed, "Hub stored an output policy other than the one decided")]

def getEnrollmentRecovery (enrollmentId : Text) : Except Raised EnrollmentRecoveryProjection :=
  answered world.python (call world authorization) "hub" world.contracts.enrollmentRecoveryProjection
    fun projection => [(projection.enrollmentId = enrollmentId, "Hub recovery query returned another Enrollment")]

def listEnrollmentRecovery (ownerDomainId : Text) : Except Raised DomainPage :=
  answered world.python (call world authorization) "hub" world.contracts.enrollmentProposalPage fun page =>
    [(page.ownerDomainId = ownerDomainId, "Hub Enrollment page crossed its requested Owner Domain")]

/-- An answer that is handed on whatever its status. -/
def unchecked : Except Raised Document := do
  let response ← call world authorization
  match response.json world.python with
  | .error _ => .error .escaped
  | .ok document => .ok document

def baseIdentityForKey : Except Raised Document := unchecked world authorization

def recordCommissioningStanding : Except Raised Document := unchecked world authorization

def withdrawController : Except Raised Document := unchecked world authorization

def listAuthorizedEnrollments : Except Raised (List Byte) :=
  relayed world (call world authorization) "hub" .enrollmentProposalPage

def listClaims (ownerDomainId : Text) : Except Raised DomainPage :=
  answered world.python (call world authorization) "hub" world.contracts.claimPage fun page =>
    [(page.ownerDomainId = ownerDomainId, "Hub Claim page crossed its requested Owner Domain")]

def listAuthorizedClaims : Except Raised (List Byte) := relayed world (call world authorization) "hub" .claimPage

def revoke (deviceRef : Removal.DeviceRef) (commandId : Text) : Except Raised HubClaimRevocationResult :=
  answered world.python (call world authorization) "hub" world.contracts.hubClaimRevocationResult fun result =>
    [(result.commandId = commandId ∧ result.deviceRef = deviceRef ∧ result.lifecycleState = ofString "revoked",
      "Hub revocation response did not confirm the requested Claim")]

def getDeviceControlOperation (deviceRef : Removal.DeviceRef) : Except Raised Removal.DeviceRef :=
  answered world.python (call world authorization) "hub" world.contracts.deviceLocalEraseOperationStatus fun found =>
    [(found = deviceRef, "Device Control status crossed its requested Claim scope")]

end HubManagementClient

namespace HubSmartHomeClient

variable (token : Text)

def ask : Except Raised Response := do
  requireCredential "hub" "unauthorized" "Hub smart-home credential was not configured" token
  let _ ← resolve world.python "hub" "device-authority.http" hubContract world.directory
  request "hub" world.answer

def readAnswer (response : Response) : Except Raised (List (Text × Document)) :=
  match response.json world.python with
  | .error error =>
    if isValueError error then raiseViolation "hub" "Hub smart-home answer was not JSON" else .error .escaped
  | .ok (.obj value) => .ok value
  | .ok _ => raiseViolation "hub" "Hub smart-home answer was not an object"

def call : Except Raised (List (Text × Document)) := do
  let response ← ask world token
  if !response.isSuccess then raiseStatus world.python "hub" response
  else readAnswer world response

end HubSmartHomeClient

/-! ## Kernel -/

namespace KernelMountClient

def call : Except Raised Response := do
  let _ ← resolve world.python "kernel" "device-mount.http" kernelContract world.directory
  request "kernel" world.answer

def mount (ownerId deviceId : Text) : Except Raised KernelMount :=
  answered world.python (call world) "kernel" world.contracts.kernelMutationResult fun mount =>
    [(mount.deviceId = deviceId ∧ mount.ownerId = ownerId ∧ mount.active,
      "Kernel Mount response did not confirm the requested owner/device")]

def replaceAssignment (ownerId deviceId : Text) (companionId : Option Text) : Except Raised KernelBodyEndpoint :=
  answered world.python (call world) "kernel" world.contracts.kernelBodyEndpoint fun endpoint =>
    [(endpoint.deviceId = deviceId ∧ endpoint.ownerId = ownerId ∧
        endpoint.bodyEndpointId = deviceId ++ ofString ":body" ∧ endpoint.assignedCompanionId = companionId,
      "Kernel Body assignment response did not confirm the requested identities")]

def listBodyEndpoints (ownerId : Text) : Except Raised (List OwnedBy) :=
  answered world.python (call world) "kernel" world.contracts.kernelBodyEndpointPage fun endpoints =>
    [(∀ endpoint ∈ endpoints, endpoint.ownerId = ownerId,
      "Kernel Body endpoint page crossed the requested owner scope")]

def listMounts (ownerId : Text) : Except Raised (List OwnedBy) :=
  answered world.python (call world) "kernel" world.contracts.kernelMountPage fun mounts =>
    [(∀ mount ∈ mounts, mount.ownerId = ownerId, "Kernel Mount page crossed the requested owner scope")]

end KernelMountClient

end Clients

end EidolonAdmin.ControlPlane
