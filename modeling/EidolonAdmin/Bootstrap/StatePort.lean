import EidolonAdmin.Foundation.Transition
import EidolonAdmin.Bootstrap.Domain

/-! # The durable authority port

`BootstrapStateStore` as data: the mutating calls with their arguments, what they
return, and what an adapter has to provide. Properties of the store are stated
once over an adapter and proved for each of the two.
-/

namespace EidolonAdmin.Bootstrap

open Foundation.Transition

structure SessionRow extends CommissioningSessionMetadata where
  secretHash : String
  claimedControllerId : Option String := none
deriving DecidableEq, Repr

inductive StoreCall where
  | issueCommissioningSession (sessionId secretHash createdAt : String)
      (expiresAt : Option String)
  | authorizeCommissioningSession (sessionId secretHash now : String)
  | claimController (sessionId secretHash : String) (grant : ControllerGrant) (now : String)
  | revokeController (controllerId now : String)
  | createOperation (operation : BootstrapOperation)
  | updateOperation (operationId : String) (state : BootstrapOperationState)
      (networkState : NetworkState) (updatedAt : String) (errorCode : Option String)
  | failInterruptedOperations (now : String)
  | reconcileNetworkState (networkState : NetworkState) (now : String)
  | resetAuthority (networkState : NetworkState) (now : String)
      (recoverySession : Option CommissioningSessionSeed)
deriving DecidableEq, Repr

inductive StoreReply where
  | done
  | session (metadata : CommissioningSessionMetadata)
  | grant (grant : ControllerGrant)
  | operation (operation : BootstrapOperation)
  | interrupted (count : Nat)
  | state (state : BootstrapState)
deriving DecidableEq, Repr

/-- One adapter of the port: how a call changes what is stored, and the stored
records as the port's readers see them. -/
structure StateStore where
  σ : Type
  create : String → σ
  perform : σ → StoreCall → Except StoreError StoreReply × σ
  state : σ → BootstrapState
  sessions : σ → List SessionRow
  grants : σ → List ControllerGrant
  operations : σ → List BootstrapOperation

namespace StateStore

variable (store : StateStore)

def apply (s : store.σ) (call : StoreCall) : store.σ := (store.perform s call).2

def after (now : String) (calls : List StoreCall) : store.σ :=
  run store.apply (store.create now) calls

def activeGrants (s : store.σ) : List ControllerGrant :=
  (store.grants s).filter fun grant =>
    grant.revokedAt.isNone && grant.resetEpoch == (store.state s).resetEpoch

end StateStore

end EidolonAdmin.Bootstrap
