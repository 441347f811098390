import EidolonAdmin.Bootstrap.Host

/-! # The commissioning protocol of one link

`CommissioningProtocolSession.handle`: what a link holds, how a message is
dispatched, and the actions of the Host that it executes. A message that waits for
the network port has no reply yet; nothing of the session changes after the wait.
-/

namespace EidolonAdmin.Bootstrap

open Foundation Foundation.Transition

/-- `_controller_challenge`. -/
structure PendingChallenge where
  controllerId : String
  challenge : String
  resetEpoch : Nat
  expiresAt : Rat
deriving DecidableEq, Repr

structure ProtocolSession where
  authorization : Option Access := none
  controllerChallenge : Option PendingChallenge := none
deriving DecidableEq, Repr

/-- What one message reads besides its document: the clock when its first check
runs, the clock when the status after an authentication is checked and when a
failed change is recorded, the monotonic clock, the random challenge, and what the
reopening of a window reads. -/
structure Readings where
  now : String
  later : String
  monotonic : Rat
  challenge : String
  draw : WindowDraw
deriving DecidableEq, Repr

inductive ProtocolResult where
  | state (state : BootstrapState)
  | challenge (pending : PendingChallenge)
  | operation (operation : Option BootstrapOperation)
  | claimed (controller : ControllerGrant) (state : BootstrapState)
deriving DecidableEq, Repr

inductive Reply where
  | accepted (requestId : Json) (result : ProtocolResult)
  | refused (requestId : Option String) (code message : String) (retryable : Bool)

def retryableCodes : List String :=
  ["bootstrap_unavailable", "internal_error", "network_confirm_failed", "network_rollback_failed",
   "network_stage_failed"]

/-- `request_id if isinstance(request_id, str) else None`. -/
def requestIdText : Json → Option String
  | .str value => some value
  | _ => none

/-- The two handlers of `handle`. -/
def refusal (requestId : Json) : ServiceError → Reply
  | .commissioning code message =>
    .refused (requestIdText requestId) code message (code ∈ retryableCodes)
  | _ =>
    .refused (requestIdText requestId) "internal_error" "The Host could not complete this Setup request"
      true

/-- What one message leads to up to its first await: its reply unless it waits, the
session afterwards, the actions of the Host it executed, and whether it goes on to
read the network port, its state first and then the networks. -/
structure Handled where
  reply : Option Reply
  session : ProtocolSession
  actions : List Action := []
  scans : Bool := false

def bleControllerAuthPurpose : String := "eidolon-controller-ble-auth-v1"

variable (platform : Platform) (settings : BootstrapSettings)

def validateRequestId : Json → Except ServiceError Unit
  | .str value =>
    if isCanonicalUuid value then .ok ()
    else if platform.readsAsUuid value then
      .error (.commissioning "invalid_request" "request_id must use canonical UUID encoding")
    else .error (.commissioning "invalid_request" "request_id must be a UUID")
  | _ => .error (.commissioning "invalid_request" "request_id must be a UUID")

/-- The checks before the dispatch; the payload of the message. -/
def readRequest (request : Json) : Except ServiceError Json := do
  validateRequestId platform (request.get "request_id")
  if (request.get "contract_version").isText "1" = false then
    .error (.commissioning "unsupported_contract" "Unsupported commissioning contract")
  match (request.get? "payload").getD (.obj []) with
  | .obj members => return .obj members
  | _ => .error (.commissioning "invalid_request" "payload must be an object")

def challengeExpired : ServiceError :=
  .commissioning "controller_denied" "Controller challenge is missing or expired"

def challengeMismatch : ServiceError :=
  .commissioning "controller_denied" "Controller challenge does not match"

def signatureInvalid : ServiceError :=
  .commissioning "controller_denied" "Controller signature is invalid"

/-- `_authenticate_controller`, which has already dropped the pending challenge. -/
def ProtocolSession.authenticateController (payload : Json) (monotonic : Rat) (s : Store)
    (session : ProtocolSession) : Except ServiceError ControllerGrant :=
  match session.controllerChallenge with
  | none => .error challengeExpired
  | some pending =>
    if pending.expiresAt ≤ monotonic then .error challengeExpired
    else if (payload.get "controller_id").isText pending.controllerId &&
        (payload.get "challenge").isText pending.challenge &&
        (payload.get "reset_epoch").isNumber pending.resetEpoch then
      match s.heldBy .controllerDenied (.str pending.controllerId) with
      | .error error => .error error
      | .ok grant =>
        if platform.verifySignature grant pending.challenge bleControllerAuthPurpose
            pending.resetEpoch (payload.get "signature") then .ok grant
        else .error signatureInvalid
    else .error challengeMismatch

def Progress.reply (requestId : Json) : Progress → Option Reply
  | .ended (.ok operation) => some (.accepted requestId (.operation operation))
  | .ended (.error error) => some (refusal requestId error)
  | .suspended _ => none

namespace ProtocolSession

/-- `service.status` under an authorization, as the last step of a message. -/
def status (requestId : Json) (access : Access) (now : String) (s : Store) : Reply :=
  match s.requireAuthorized access now with
  | (.ok (), t) => .accepted requestId (.state t.state)
  | (.error error, _) => refusal requestId error

def sessionAuthenticate (requestId payload : Json) (readings : Readings) (s : Store)
    (session : ProtocolSession) : Handled :=
  if session.authorization.isSome then
    { reply := some (refusal requestId
        (.commissioning "operation_conflict" "Session is already authenticated"))
      session }
  else
    let sessionId := payload.get "commissioning_id"
    let secret := payload.get "setup_code"
    match s.authorize platform sessionId secret readings.now with
    | (.error error, _) =>
      { reply := some (refusal requestId error), session
        actions := [.authorize sessionId secret readings.now] }
    | (.ok access, t) =>
      -- The authorization is assigned before the status is checked.
      { reply := some (status requestId access readings.later t)
        session := { session with authorization := some access }
        actions := [.authorize sessionId secret readings.now,
          .requireAuthorized access readings.later] }

def controllerChallengeIssue (requestId payload : Json) (readings : Readings) (s : Store)
    (session : ProtocolSession) : Handled :=
  match s.heldBy .controllerDenied (payload.get "controller_id") with
  | .error error => { reply := some (refusal requestId error), session }
  | .ok grant =>
    let pending : PendingChallenge :=
      ⟨grant.controllerId, readings.challenge, grant.resetEpoch, readings.monotonic + 60⟩
    { reply := some (.accepted requestId (.challenge pending))
      session := { session with controllerChallenge := some pending } }

def controllerAuthenticate (requestId payload : Json) (readings : Readings) (s : Store)
    (session : ProtocolSession) : Handled :=
  let spent := { session with controllerChallenge := none }
  match session.authenticateController platform payload readings.monotonic s with
  | .error error => { reply := some (refusal requestId error), session := spent }
  | .ok grant =>
    { reply := some (status requestId (.controller grant) readings.later s)
      session := { spent with authorization := some (.controller grant) }
      actions := [.requireAuthorized (.controller grant) readings.later] }

def claimComplete (requestId payload : Json) (readings : Readings) (access : Access) (s : Store)
    (session : ProtocolSession) : Handled :=
  match access with
  | .controller _ =>
    { reply := some (refusal requestId
        (.commissioning "controller_denied" "Initial credential is required to claim"))
      session }
  | .setup sessionId secretHash =>
    { reply := some
        (match s.claimAccess platform settings sessionId secretHash payload readings.now
            readings.draw with
        | (.ok grant, t) => .accepted requestId (.claimed grant t.state)
        | (.error error, _) => refusal requestId error)
      session
      actions := [.claimController sessionId secretHash payload readings.now readings.draw] }

def dispatch (requestId operation payload : Json) (readings : Readings) (access : Access)
    (s : Store) (session : ProtocolSession) : Handled :=
  if operation.isText "setup.status" then
    { reply := some (status requestId access readings.now s), session
      actions := [.requireAuthorized access readings.now] }
  else if operation.isText "wifi.scan" then
    match s.requireAuthorized access readings.now with
    | (.error error, _) =>
      { reply := some (refusal requestId error), session
        actions := [.requireAuthorized access readings.now] }
    | (.ok (), _) =>
      { reply := none, session, actions := [.requireAuthorized access readings.now], scans := true }
  else if operation.isText "wifi.configure" then
    { reply := (s.configureNetwork platform access payload readings.now readings.later).1.reply
        requestId
      session
      actions := [.configureNetwork access payload readings.now readings.later] }
  else if operation.isText "wifi.confirm" then
    { reply := (s.confirmNetwork platform access (payload.get "operation_id") readings.now).1.reply
        requestId
      session
      actions := [.confirmNetwork access (payload.get "operation_id") readings.now] }
  else if operation.isText "wifi.rollback" then
    { reply := (s.rollbackNetwork platform access (payload.get "operation_id") readings.now).1.reply
        requestId
      session
      actions := [.rollbackNetwork access (payload.get "operation_id") readings.now] }
  else if operation.isText "claim.complete" then
    claimComplete platform settings requestId payload readings access s session
  else
    { reply := some (refusal requestId
        (.commissioning "unknown_operation" "Unknown commissioning operation"))
      session }

def handle (request : Json) (readings : Readings) (s : Store) (session : ProtocolSession) :
    Handled :=
  let requestId := request.get "request_id"
  let operation := request.get "operation"
  match readRequest platform request with
  | .error error => { reply := some (refusal requestId error), session }
  | .ok payload =>
    if operation.isText "session.authenticate" then
      sessionAuthenticate platform requestId payload readings s session
    else if operation.isText "controller.challenge" then
      controllerChallengeIssue requestId payload readings s session
    else if operation.isText "controller.authenticate" then
      controllerAuthenticate platform requestId payload readings s session
    else
      match session.authorization with
      | none =>
        { reply := some (refusal requestId
            (.commissioning "commissioning_denied" "Authenticate this session first"))
          session }
      | some access => dispatch platform settings requestId operation payload readings access s session

end ProtocolSession

/-- One link beside the Host it talks to. -/
structure Link where
  host : Host
  session : ProtocolSession := {}

/-- A message on the link, or anything that happens elsewhere on the Host: other
links, the Local API, the operator, and what a message does behind its first await,
for which the source checks no authorization again. -/
inductive LinkEvent where
  | message (request : Json) (readings : Readings)
  | elsewhere (action : Action)

namespace Link

def handled (request : Json) (readings : Readings) (link : Link) : Handled :=
  link.session.handle platform settings request readings link.host.store

def step (link : Link) : LinkEvent → Link
  | .message request readings =>
    { host := run (Host.step platform settings) link.host
        (link.handled platform settings request readings).actions
      session := (link.handled platform settings request readings).session }
  | .elsewhere action => { link with host := link.host.step platform settings action }

def after (created : String) (events : List LinkEvent) : Link :=
  run (step platform settings) { host := Host.create created } events

end Link

end EidolonAdmin.Bootstrap
