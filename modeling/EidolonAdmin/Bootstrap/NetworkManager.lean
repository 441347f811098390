import EidolonAdmin.Bootstrap.NetworkOperations

/-! # The NetworkManager adapter behind the network use cases

`begin_change`, `confirm` and `rollback` of `NetworkManagerProvisioning`, cut at their
awaits, and the machine in which the use cases run over it. Each await is answered
by NetworkManager or raises; calls interleave at every one of them. What is sent
to NetworkManager is not modelled, only what comes back.
-/

namespace EidolonAdmin.Bootstrap

open Foundation Foundation.Table Foundation.Transition

structure ActiveNetworkChange where
  operationId : String
  checkpointPath : String
  previousSsid : Option String
  stagedSsid : String
deriving DecidableEq, Repr

/-- `_active` and `_recovery_complete` of the adapter. -/
structure NetworkManager where
  active : Option ActiveNetworkChange := none
  recoveryComplete : Bool := true
deriving DecidableEq, Repr

/-- What an await brings. `deadline` ends the loop that polls the device state. -/
inductive Answer where
  | done
  | ssid (current : Option String)
  | checkpoint (path : String)
  | deviceState (state : Nat)
  | deadline
  | provisioningError (message : String)
  | raised
deriving DecidableEq, Repr

def Answer.fails : Answer → Bool
  | provisioningError _ | raised => true
  | _ => false

def Answer.reads : Answer → Bool
  | ssid _ => true
  | _ => false

inductive Went (α : Type) where
  | waits (next : α)
  | ends (outcome : PortOutcome)
deriving DecidableEq, Repr

namespace Went

variable {α β : Type}

def map (f : α → β) : Went α → Went β
  | waits next => waits (f next)
  | ends outcome => ends outcome

/-- `_interfaces`, whose D-Bus errors nothing normalises. -/
def interfaces (stay next : α) : Answer → Went α
  | .done => waits next
  | .provisioningError message => ends (.provisioningError message)
  | .raised => ends .raised
  | _ => waits stay

def currentSsid (stay : α) (next : Option String → Went α) : Answer → Went α
  | .ssid current => next current
  | .provisioningError message => ends (.provisioningError message)
  | .raised => ends (.provisioningError "NetworkManager active network query failed")
  | _ => waits stay

end Went

inductive BeginAwait where
  | interfaces
  | previousSsid
  | checkpoint (previousSsid : Option String)
  | activation (checkpointPath : String) (previousSsid : Option String)
  | activated (checkpointPath : String)
  | undoRollback (checkpointPath failure : String)
  | undoDestroy (failure : String)
  | state
deriving DecidableEq, Repr

inductive ConfirmAwait where
  | interfaces
  | currentSsid
  | destroy
  | state
deriving DecidableEq, Repr

inductive RollbackAwait where
  | interfaces
  | rollback
  | destroy
  | state
deriving DecidableEq, Repr

/-- The exception of the activation, as the handler raises it again. -/
def addFailure? : Answer → Option String
  | .provisioningError message => some message
  | .raised => some "NetworkManager could not activate the staged network"
  | _ => none

/-- The exception of `_wait_until_activated`, as the handler raises it again. -/
def waitFailure? : Answer → Option String
  | .deviceState state =>
    if state = 100 then none else if 120 ≤ state then some "Wi-Fi activation failed" else none
  | .deadline => some "Wi-Fi activation timed out"
  | answer => addFailure? answer

namespace NetworkManager

def holds (manager : NetworkManager) (operationId : String) : Prop :=
  manager.active.map (fun change => change.operationId) = some operationId

instance (manager : NetworkManager) (operationId : String) :
    Decidable (manager.holds operationId) :=
  inferInstanceAs (Decidable (_ = _))

def cleared (manager : NetworkManager) : NetworkManager := { manager with active := none }

/-- `get_state` once the current network has been read. -/
def getState (manager : NetworkManager) (currentSsid : Option String) :
    NetworkProvisioningSnapshot where
  state :=
    if manager.active.isSome then .staging
    else if currentSsid.isSome then .connected
    else .unconfigured
  activeOperationId := manager.active.map fun change => change.operationId
  currentSsid := currentSsid
  stagedSsid := manager.active.map fun change => change.stagedSsid

def lastReading {α : Type} (manager : NetworkManager) (stay : α) : Answer → Went α :=
  Went.currentSsid stay fun current => .ends (.returned (manager.getState current))

/-- `begin_change` up to its first await. -/
def beginChange (manager : NetworkManager) (request : NetworkChangeRequest) : Went BeginAwait :=
  if manager.active.isSome then .ends (.provisioningError "another network change is active")
  else if manager.recoveryComplete = false then
    .ends (.provisioningError "interrupted network recovery is incomplete")
  else if strip request.operationId = "" ∨ request.ssid = "" then
    .ends (.provisioningError "operation_id and ssid are required")
  else .waits .interfaces

/-- The handler of `begin_change`: a checkpoint is undone before the change is dropped. -/
def stagingFailed (manager : NetworkManager) (checkpointPath failure : String) :
    NetworkManager × Went BeginAwait :=
  if checkpointPath ≠ "/" then (manager, .waits (.undoRollback checkpointPath failure))
  else (manager.cleared, .ends (.provisioningError failure))

/-- `begin_change` after an await. -/
def beginAnswered (manager : NetworkManager) (request : NetworkChangeRequest) (await : BeginAwait)
    (answer : Answer) : NetworkManager × Went BeginAwait :=
  match await with
  | .interfaces => (manager, Went.interfaces await .previousSsid answer)
  | .previousSsid =>
    (manager, Went.currentSsid await (fun previousSsid => .waits (.checkpoint previousSsid)) answer)
  | .checkpoint previousSsid =>
    match answer with
    | .checkpoint path => (manager, .waits (.activation path previousSsid))
    | .provisioningError _ | .raised =>
      (manager, .ends (.provisioningError "NetworkManager checkpoint creation failed"))
    | _ => (manager, .waits await)
  | .activation checkpointPath previousSsid =>
    match addFailure? answer with
    | some failure => manager.stagingFailed checkpointPath failure
    | none =>
      if answer = .done then
        ({ manager with
            active := some
              { operationId := strip request.operationId, checkpointPath, previousSsid
                stagedSsid := request.ssid } },
          .waits (.activated checkpointPath))
      else (manager, .waits await)
  | .activated checkpointPath =>
    match waitFailure? answer with
    | some failure => manager.stagingFailed checkpointPath failure
    | none => (manager, .waits (if answer = .deviceState 100 then .state else await))
  | .undoRollback _ failure =>
    if answer = .done then (manager, .waits (.undoDestroy failure))
    else if answer.fails then (manager.cleared, .ends (.provisioningError failure))
    else (manager, .waits await)
  | .undoDestroy failure =>
    if answer = .done ∨ answer.fails then (manager.cleared, .ends (.provisioningError failure))
    else (manager, .waits await)
  | .state => (manager, manager.lastReading await answer)

def requireActive (manager : NetworkManager) (operationId : String) :
    Except String ActiveNetworkChange :=
  match manager.active with
  | some active =>
    if active.operationId ≠ operationId then .error "network operation does not match"
    else .ok active
  | none => .error "network operation does not match"

def confirmAnswered (manager : NetworkManager) (active : ActiveNetworkChange)
    (await : ConfirmAwait) (answer : Answer) : NetworkManager × Went ConfirmAwait :=
  match await with
  | .interfaces => (manager, Went.interfaces await .currentSsid answer)
  | .currentSsid =>
    (manager, Went.currentSsid await (fun current =>
      if current ≠ some active.stagedSsid then
        .ends (.provisioningError "staged network is not active")
      else .waits .destroy) answer)
  | .destroy =>
    if answer = .done then (manager.cleared, .waits .state)
    else if answer.fails then
      (manager, .ends (.provisioningError "NetworkManager checkpoint confirmation failed"))
    else (manager, .waits await)
  | .state => (manager, manager.lastReading await answer)

def rollbackAnswered (manager : NetworkManager) (await : RollbackAwait) (answer : Answer) :
    NetworkManager × Went RollbackAwait :=
  match await with
  | .interfaces => (manager, Went.interfaces await .rollback answer)
  | .rollback =>
    if answer = .done then (manager, .waits .destroy)
    else if answer.fails then
      (manager, .ends (.provisioningError "NetworkManager checkpoint rollback failed"))
    else (manager, .waits await)
  | .destroy =>
    if answer = .done then (manager.cleared, .waits .state)
    else if answer.fails then
      (manager, .ends (.provisioningError "NetworkManager checkpoint rollback failed"))
    else (manager, .waits await)
  | .state => (manager, manager.lastReading await answer)

end NetworkManager

/-- A use case that waits inside the adapter, with the change that `_require_active`
gave it. -/
inductive InFlight where
  | configure (request : NetworkChangeRequest) (previous : NetworkState) (await : BeginAwait)
  | confirm (active : ActiveNetworkChange) (await : ConfirmAwait)
  | rollback (active : ActiveNetworkChange) (await : RollbackAwait)
deriving DecidableEq, Repr

namespace InFlight

def suspended : InFlight → Suspended
  | configure request previous _ => .configure request previous
  | confirm active _ => .confirm active.operationId
  | rollback active _ => .rollback active.operationId

def operationId : InFlight → String
  | configure request _ _ => request.operationId
  | confirm active _ | rollback active _ => active.operationId

def answered (call : InFlight) (answer : Answer) (manager : NetworkManager) :
    NetworkManager × Went InFlight :=
  match call with
  | configure request previous await =>
    (manager.beginAnswered request await answer).map id (.map (configure request previous))
  | confirm active await =>
    (manager.confirmAnswered active await answer).map id (.map (confirm active))
  | rollback active await => (manager.rollbackAnswered await answer).map id (.map (rollback active))

end InFlight

/-- The adapter call of a use case, up to its first await. -/
def NetworkManager.entered (manager : NetworkManager) : Suspended → Option (Went InFlight)
  | .configure request previous =>
    some ((manager.beginChange request).map (.configure request previous))
  | .confirm operationId => some
    (match manager.requireActive operationId with
    | .ok active => .waits (.confirm active .interfaces)
    | .error message => .ends (.provisioningError message))
  | .rollback operationId => some
    (match manager.requireActive operationId with
    | .ok active => .waits (.rollback active .interfaces)
    | .error message => .ends (.provisioningError message))
  | .resetRead _ | .resetForget | .resetReread => none

structure Wired where
  store : Store
  manager : NetworkManager := {}
  calls : List InFlight := []

inductive NetworkEvent where
  | configureNetwork (access : Access) (payload : Json) (now failedAt : String)
  | confirmNetwork (access : Access) (operationId : Json) (now : String)
  | rollbackNetwork (access : Access) (operationId : Json) (now : String)
  | answered (call : Nat) (answer : Answer) (now failedAt : String)

namespace Wired

/-- A use case that came to its adapter call enters it in the same turn. The calls of
a reset of the Host are not of these use cases. -/
def enter (w : Wired) (progress : Progress × Store) (now failedAt : String) : Wired :=
  match progress with
  | (.ended _, t) => { w with store := t }
  | (.suspended call, t) =>
    match w.manager.entered call with
    | none => { w with store := t }
    | some (.waits next) => { w with store := t, calls := w.calls ++ [next] }
    | some (.ends outcome) => { w with store := (call.resumed outcome now failedAt t).2 }

/-- An answered call waits again, or its use case goes on to its end. -/
def settle (w : Wired) (i : Nat) (call : InFlight) (now failedAt : String) :
    NetworkManager × Went InFlight → Wired
  | (manager, .waits next) => { w with manager, calls := w.calls.set i next }
  | (manager, .ends outcome) =>
    { store := (call.suspended.resumed outcome now failedAt w.store).2
      manager
      calls := w.calls.eraseIdx i }

variable (platform : Platform)

def step (w : Wired) : NetworkEvent → Wired
  | .configureNetwork access payload now failedAt =>
    w.enter (w.store.configureNetwork platform access payload now failedAt) now failedAt
  | .confirmNetwork access operationId now =>
    w.enter (w.store.confirmNetwork platform access operationId now) now now
  | .rollbackNetwork access operationId now =>
    w.enter (w.store.rollbackNetwork platform access operationId now) now now
  | .answered i answer now failedAt =>
    match w.calls[i]? with
    | none => w
    | some call => w.settle i call now failedAt (call.answered answer w.manager)

/-- The daemon after its start: `initialize` has failed the interrupted operations, and
the recovery of the adapter may have failed. -/
def started (settings : BootstrapSettings) (store : Store) (now : String) (draw : WindowDraw)
    (recoveryComplete : Bool) : Wired where
  store := (store.restart platform settings now draw).2
  manager := { recoveryComplete }

end Wired

end EidolonAdmin.Bootstrap
