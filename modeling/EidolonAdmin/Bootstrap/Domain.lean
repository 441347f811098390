import Mathlib.Data.String.Basic

/-! # Host bootstrap facts

The records of `bootstrap/domain/model.py`: the Host's own state, setup windows,
Controller grants and network operations, with the predicates the model file
defines on them. Identifiers, digests and timestamps are the texts the source
keeps; timestamps are compared as texts, as the source and SQLite compare them.
-/

namespace EidolonAdmin.Bootstrap

inductive ClaimState where
  | unclaimed
  | claimed
deriving DecidableEq, Repr

inductive NetworkState where
  | unconfigured
  | staging
  | connected
  | degraded
  | rollingBack
deriving DecidableEq, Repr

inductive ControllerRole where
  | hostAdmin
deriving DecidableEq, Repr

inductive BootstrapOperationType where
  | changeNetwork
deriving DecidableEq, Repr

inductive BootstrapOperationState where
  | pending
  | running
  | waitingConfirmation
  | succeeded
  | failed
  | compensating
deriving DecidableEq, Repr

/-- The four states that `create_operation`, `fail_interrupted_operations` and
`reset_authority` list as active. -/
def BootstrapOperationState.active : BootstrapOperationState → Bool
  | pending | running | waitingConfirmation | compensating => true
  | succeeded | failed => false

structure BootstrapState where
  resetEpoch : Nat
  claimState : ClaimState
  networkState : NetworkState
  updatedAt : String
deriving DecidableEq, Repr

structure CommissioningSessionMetadata where
  sessionId : String
  createdAt : String
  expiresAt : Option String := none
  consumedAt : Option String := none
  revokedAt : Option String := none
  failedAttempts : Nat := 0
deriving DecidableEq, Repr

namespace CommissioningSessionMetadata

/-- Neither consumed by a claim nor superseded: `consumed_at IS NULL AND
revoked_at IS NULL`. -/
def unspent (session : CommissioningSessionMetadata) : Bool :=
  session.consumedAt.isNone && session.revokedAt.isNone

def isOpen (session : CommissioningSessionMetadata) (now : String) : Bool :=
  if session.consumedAt.isSome || session.revokedAt.isSome then false
  else
    match session.expiresAt with
    | none => true
    | some expiresAt => decide (now < expiresAt)

theorem unspent_of_isOpen {session : CommissioningSessionMetadata} {now : String}
    (h : session.isOpen now = true) : session.unspent = true := by
  unfold isOpen at h
  split at h
  · cases h
  · rename_i hSpent
    simpa [unspent] using hSpent

theorem unspent_iff {session : CommissioningSessionMetadata} :
    session.unspent = true ↔ session.consumedAt = none ∧ session.revokedAt = none := by
  simp [unspent]

end CommissioningSessionMetadata

structure CommissioningSessionSeed where
  sessionId : String
  secretHash : String
  expiresAt : Option String := none
deriving DecidableEq, Repr

structure ControllerGrant where
  controllerId : String
  publicKey : String
  publicKeyFingerprint : String
  role : ControllerRole
  displayName : String
  platform : String
  resetEpoch : Nat
  createdAt : String
  revokedAt : Option String := none
deriving DecidableEq, Repr

structure BootstrapOperation where
  operationId : String
  operationType : BootstrapOperationType
  state : BootstrapOperationState
  target : String
  resetEpoch : Nat
  createdAt : String
  updatedAt : String
  errorCode : Option String := none
deriving DecidableEq, Repr

inductive Conflict where
  | sessionUnavailable
  | epochMismatch
  | identityHeld
  | controllerNotAuthorized
  | lastController
  | operationIdInUse
  | operationEpochMismatch
  | anotherOperationActive
  | operationMissing
  | activeTransition
deriving DecidableEq, Repr

def Conflict.message : Conflict → String
  | sessionUnavailable => "commissioning session is unavailable"
  | epochMismatch => "controller reset epoch does not match host"
  | identityHeld => "another Controller already holds this identity on this Host"
  | controllerNotAuthorized => "controller is not authorized for this Host"
  | lastController => "the last Controller cannot be revoked; use controller-reset"
  | operationIdInUse => "operation_id is already in use"
  | operationEpochMismatch => "operation reset epoch does not match host"
  | anotherOperationActive => "another bootstrap operation is active"
  | operationMissing => "bootstrap operation does not exist"
  | activeTransition => "cannot reconcile an active network transition at startup"

/-- What a store call can raise: the port's named conflict, or a constraint of
the SQLite schema (`sqlite3.IntegrityError`). -/
inductive StoreError where
  | conflict (reason : Conflict)
  | integrity
deriving DecidableEq, Repr

structure Datetime where
  year : Nat
  month : Nat
  day : Nat
  hour : Nat
  minute : Nat
  second : Nat
  microsecond : Nat
deriving DecidableEq, Repr

def padded (width value : Nat) : String :=
  let digits := Nat.toDigits 10 value
  String.ofList (List.replicate (width - digits.length) '0' ++ digits)

/-- `_timestamp`: ISO 8601 with a final `Z`. `isoformat` leaves the fraction out
when the microseconds are zero. -/
def timestamp (value : Datetime) : String :=
  padded 4 value.year ++ "-" ++ padded 2 value.month ++ "-" ++ padded 2 value.day ++ "T" ++
    padded 2 value.hour ++ ":" ++ padded 2 value.minute ++ ":" ++ padded 2 value.second ++
    (if value.microsecond = 0 then "" else "." ++ padded 6 value.microsecond) ++ "Z"

example : timestamp ⟨2026, 8, 5, 0, 0, 7, 42⟩ = "2026-08-05T00:00:07.000042Z" := by decide

example : timestamp ⟨2026, 8, 5, 0, 0, 7, 0⟩ = "2026-08-05T00:00:07Z" := by decide

def isSpace (c : Char) : Bool :=
  c ∈ ['\t', '\n', '\x0b', '\x0c', '\r', '\x1c', '\x1d', '\x1e', '\x1f', ' ', '\u0085', '\u00a0',
    '\u1680', '\u2028', '\u2029', '\u202f', '\u205f', '\u3000'] ||
    (decide ('\u2000' ≤ c) && decide (c ≤ '\u200a'))

def strip (value : String) : String :=
  String.ofList (((value.toList.dropWhile isSpace).reverse.dropWhile isSpace).reverse)

def isLowerHex (c : Char) : Bool := ('0' ≤ c && c ≤ '9') || ('a' ≤ c && c ≤ 'f')

/-- `^ectrl-[0-9a-f]{20}$`. -/
def isControllerId (value : String) : Bool :=
  value.toList.take 6 == "ectrl-".toList && (value.toList.drop 6).length == 20 &&
    (value.toList.drop 6).all isLowerHex

/-- The lower-case 8-4-4-4-12 text that `str(uuid.UUID(...))` gives. -/
def isCanonicalUuid (value : String) : Bool :=
  value.toList.length == 36 &&
    value.toList.zipIdx.all fun (c, i) =>
      if i ∈ [8, 13, 18, 23] then c == '-' else isLowerHex c

def setupCodeDigits : Nat := 8

/-- `is_usable_setup_code`: eight digits, not all the same, not the plain run up
or down. -/
def isUsableSetupCode (value : String) : Bool :=
  let digits := value.toList
  decide (digits.length = setupCodeDigits) && digits.all (fun c => '0' ≤ c && c ≤ '9') &&
    !digits.all (fun c => digits.head? = some c) &&
    value != "01234567" && value != "76543210"

end EidolonAdmin.Bootstrap
