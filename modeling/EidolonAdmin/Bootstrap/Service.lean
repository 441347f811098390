import Mathlib.Algebra.Order.Ring.Rat
import EidolonAdmin.Foundation.Dict
import EidolonAdmin.Bootstrap.CommissioningService

/-! # The bootstrap service as one machine

`BootstrapService` with the LAN challenges it keeps in memory and the calls that
wait for the network port. Every public operation, every resumption of a waiting
call and a restart of the daemon is one action; actions follow each other in any
order, which is how the event loop interleaves the calls.
-/

namespace EidolonAdmin.Bootstrap

open Foundation Foundation.Transition

/-- One entry of `_controller_challenges`, with its end on the monotonic clock. -/
structure Challenge where
  controllerId : String
  resetEpoch : Nat
  expiresAt : Rat
deriving DecidableEq, Repr

structure ControllerPrincipal where
  controllerId : String
  role : ControllerRole
  displayName : String
  platform : String
  resetEpoch : Nat
deriving DecidableEq, Repr

def ControllerGrant.principal (grant : ControllerGrant) : ControllerPrincipal where
  controllerId := grant.controllerId
  role := grant.role
  displayName := grant.displayName
  platform := grant.platform
  resetEpoch := grant.resetEpoch

def localApiControllerAuthPurpose : String := "eidolon-controller-local-auth-v1"

def challengeLimit : Nat := 256

def recoveryWindowTtlSeconds : Int := 900

def ServiceError.notAuthorized : ServiceError :=
  .rejected "Controller is not authorized for this Host"

def Store.activeController (controllerId : Json) (s : Store) : Except ServiceError ControllerGrant :=
  s.heldBy .notAuthorized controllerId

def Store.validateController (controllerId resetEpoch : Json) (s : Store) :
    Except ServiceError ControllerPrincipal :=
  match s.activeController controllerId with
  | .error error => .error error
  | .ok grant =>
    if resetEpoch.isInteger && resetEpoch.isNumber grant.resetEpoch then .ok grant.principal
    else .error (.rejected "Controller session is no longer authorized")

def Store.listControllers (controllerId : Json) (s : Store) :
    Except ServiceError (List ControllerGrant) :=
  (s.activeController controllerId).map fun _ => s.activeGrants

/-- `BootstrapService.revoke_controller`. -/
def Store.revokePeer (controllerId : Json) (targetId now : String) (s : Store) :
    Except ServiceError ControllerGrant × Store :=
  match s.activeController controllerId with
  | .error error => (.error error, s)
  | .ok _ =>
    (s.revokeController targetId now).map
      (·.mapError fun
        | .conflict reason => .rejected reason.message
        | .integrity => .store .integrity) id

abbrev Challenges := List (String × Challenge)

def purgeChallenges (now : Rat) (challenges : Challenges) : Challenges :=
  challenges.filter fun item => now < item.2.expiresAt

/-- The entry dropped where the table is full: the first with the earliest end. -/
def dropOldest (challenges : Challenges) : Challenges :=
  match challenges.argmin fun item => item.2.expiresAt with
  | none => challenges
  | some oldest => challenges.filter fun item => item.1 ≠ oldest.1

def issueControllerChallenge (controllerId : Json) (challenge : String) (now : Rat) (s : Store)
    (challenges : Challenges) : Except ServiceError Challenge × Challenges :=
  match s.activeController controllerId with
  | .error error => (.error error, challenges)
  | .ok grant =>
    let live := purgeChallenges now challenges
    let room := if challengeLimit ≤ live.length then dropOldest live else live
    let issued : Challenge := ⟨grant.controllerId, grant.resetEpoch, now + 60⟩
    (.ok issued, Dict.set room challenge issued)

/-- `authenticate_controller`: the challenge is taken out of the table before
anything about the proof is checked. -/
def authenticateController (platform : Platform) (payload : Json) (now : Rat) (s : Store)
    (challenges : Challenges) : Except ServiceError ControllerPrincipal × Challenges :=
  match payload.get "challenge" with
  | .str challenge =>
    let live := purgeChallenges now challenges
    let rest := live.filter fun item => item.1 ≠ challenge
    match Dict.get live challenge with
    | none => (.error (.rejected "Controller challenge is missing or expired"), rest)
    | some record =>
      if record.expiresAt ≤ now then
        (.error (.rejected "Controller challenge is missing or expired"), rest)
      else if (payload.get "contract_version").isText "1" &&
          (payload.get "purpose").isText localApiControllerAuthPurpose &&
          (payload.get "controller_id").isText record.controllerId &&
          (payload.get "reset_epoch").isNumber record.resetEpoch then
        match s.activeController (.str record.controllerId) with
        | .error error => (.error error, rest)
        | .ok grant =>
          if platform.verifySignature grant challenge localApiControllerAuthPurpose
              record.resetEpoch (payload.get "signature") then (.ok grant.principal, rest)
          else (.error (.rejected "Controller signature is invalid"), rest)
      else (.error (.rejected "Controller challenge does not match"), rest)
  | _ => (.error (.rejected "Controller proof is invalid"), challenges)

namespace Store

/-- `issue_setup_code` with a named code; the Host draws only usable codes itself. -/
def issueNamedSetupCode (platform : Platform) (setupCode sessionId issuedAt : String) (s : Store) :
    Except ServiceError Unit × Store :=
  if isUsableSetupCode setupCode then
    (s.issueSetupCode platform.sha256 setupCode sessionId issuedAt).map (·.mapError .store) id
  else
    (.error (.rejected ("setup_code must be a usable 8-digit Setup code: " ++
      "digits only, not all the same, and not the plain run up or down")), s)

/-- `open_controller_recovery_window`; `expiresAt` is the text of the reading
`issuedAt` with the ttl added. -/
def openControllerRecoveryWindow (platform : Platform) (ttlSeconds : Option Int)
    (setupCode sessionId issuedAt expiresAt : String) (s : Store) :
    Except ServiceError BootstrapState × Store :=
  let ttl := (ttlSeconds.filter (· ≠ 0)).getD recoveryWindowTtlSeconds
  if 60 ≤ ttl ∧ ttl ≤ 86400 then
    (s.resetAuthority s.state.networkState issuedAt
      (some ⟨sessionId, platform.sha256 setupCode, some expiresAt⟩)).map (·.mapError .store) id
  else (.error (.rejected "ttl_seconds must be between 60 and 86400"), s)

def reconcileNetwork (networkState : NetworkState) (now : String) (s : Store) :
    Except ServiceError Unit × Store :=
  (s.reconcileNetworkState networkState now).map (·.mapError .store) id

/-- `reset_development_state` up to its first await. -/
def resetDevelopmentState (settings : BootstrapSettings) (forgetWifiProfiles : Bool) : Progress :=
  if settings.mode = .development then .suspended (.resetRead forgetWifiProfiles)
  else .ended (.error (.rejected "development reset is disabled in production"))

/-- `reset_development_state` after `get_state`. -/
def resetReadResumed (forgetWifiProfiles : Bool) (outcome : PortOutcome) (now : String) (s : Store) :
    Progress × Store :=
  match outcome with
  | .returned snapshot =>
    match s.resetAuthority snapshot.state now none with
    | (.error error, t) => (.ended (.error (.store error)), t)
    | (.ok _, t) =>
      if forgetWifiProfiles then (.suspended .resetForget, t) else (.ended (.ok none), t)
  | .provisioningError _ =>
    (.ended (.error (.rejected "development reset could not read the current network state")), s)
  | .raised => (.ended (.error .port), s)

/-- `reset_development_state` after `forget_all_wifi_profiles`. -/
def resetForgetResumed (outcome : PortOutcome) (now : String) (s : Store) : Progress × Store :=
  match outcome with
  | .returned snapshot =>
    (s.reconcileNetwork snapshot.state now).map (fun result => .ended (result.map fun _ => none)) id
  | .provisioningError _ => (.suspended .resetReread, s)
  | .raised => (.ended (.error .port), s)

def profilesNotCleared : ServiceError :=
  .rejected "claim reset completed, but saved Wi-Fi profiles could not be cleared"

/-- `reset_development_state` after the `get_state` of its handler. -/
def resetRereadResumed (outcome : PortOutcome) (now : String) (s : Store) : Progress × Store :=
  match outcome with
  | .returned snapshot =>
    match s.reconcileNetwork snapshot.state now with
    | (.ok (), t) => (.ended (.error profilesNotCleared), t)
    | (.error error, t) => (.ended (.error error), t)
  | .provisioningError _ => (.ended (.error profilesNotCleared), s)
  | .raised => (.ended (.error .port), s)

/-- The store side of `initialize` on a database of the current schema. -/
def restart (platform : Platform) (settings : BootstrapSettings) (now : String) (draw : WindowDraw)
    (s : Store) : Except StoreError Unit × Store :=
  (s.failInterruptedOperations now).2.openFactoryWindow platform.sha256 settings draw

end Store

end EidolonAdmin.Bootstrap
