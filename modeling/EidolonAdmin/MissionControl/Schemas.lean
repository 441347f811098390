import EidolonAdmin.Foundation.Json

/-! # What Mission Control reads and shows

The rows of the runtime observatory. An instant is the number of microseconds since the
epoch, in UTC; a naive time was already read as UTC.
-/

namespace EidolonAdmin.MissionControl

open Foundation

/-- What the composition takes from Python's own text and number functions. -/
structure Python where
  /-- `str.lower` -/
  lower : String → String
  /-- `str.strip` -/
  strip : String → String
  /-- `str(value)` -/
  str : Json → String
  /-- `_int_or_none` -/
  int : Json → Option Int

/-- Python on plain lower-case text. -/
def plainPython : Python where
  lower := id
  strip := id
  str
    | .str words => words
    | _ => ""
  int _ := none

abbrev Instant := Int

/-- `datetime.min` in UTC. -/
def datetimeMin : Instant := -62135596800000000

def filled (text : Option String) : Option String := text.filter fun words => words ≠ ""

/-- `text or fallback`. -/
def orText (text fallback : String) : String := if text = "" then fallback else text

/-- `str(value or fallback)`. -/
def Python.strOr (py : Python) (value : Json) (fallback : String) : String :=
  if value.truthy then py.str value else fallback

inductive RuntimeSource where
  | hub | channel | agent | memory | data | admin | missionControl
  deriving DecidableEq, Repr

inductive RuntimeOutcome where
  | success | failure | denied | deferred
  deriving DecidableEq, Repr

structure RuntimeEvent where
  eventId : String
  ts : Instant
  source : RuntimeSource
  type : String
  outcome : RuntimeOutcome := .success
  traceId : Option String := none
  ownerId : Option String := none
  companionId : Option String := none
  deviceId : Option String := none
  turnId : Option String := none
  jobId : Option String := none
  summary : String := ""
  payload : Json := .obj []

structure RuntimeTurn where
  turnId : String
  traceId : Option String := none
  channelTurnId : Option String := none
  agentTurnId : Option String := none
  conversationId : String
  runtimeSessionId : Option String := none
  ownerId : String
  companionId : String
  deviceId : Option String := none
  status : String
  trigger : String := ""
  startedAt : Option Instant := none
  finishedAt : Option Instant := none
  latencyMs : Option Int := none
  memoryHits : Int := 0
  toolNames : List String := []
  privacyMode : Option String := none
  phase : String := ""
  outcome : RuntimeOutcome := .success
  terminalReason : String := ""
  eventIds : List String := []
  missingMilestones : List String := []
  stages : List Json := []
  breakdown : List Json := []

structure RuntimeJob where
  jobId : String
  ownerId : String
  companionId : Option String := none
  turnId : Option String := none
  provider : String := ""
  kind : String := ""
  status : String := ""
  summary : String := ""
  createdAt : Option Instant := none
  updatedAt : Option Instant := none
  completedAt : Option Instant := none

inductive NodeType where
  | device | companion | service | memory | provider
  deriving DecidableEq, Repr

inductive Direction where
  | inward | outward | internal
  deriving DecidableEq, Repr

structure RuntimeRouteHop where
  hopId : String
  nodeType : NodeType
  nodeId : String
  label : String
  stage : String := ""
  status : String := "pending"
  direction : Direction := .internal
  ts : Option Instant := none
  latencyMs : Option Int := none
  deriving DecidableEq, Repr

inductive ActivityKind where
  | voiceTurn | backgroundJob | deviceCommand | guardEvent | deviceEvent
  deriving DecidableEq, Repr

structure RuntimeActivity where
  activityId : String
  kind : ActivityKind
  ownerId : String := ""
  companionId : Option String := none
  traceId : Option String := none
  turnId : Option String := none
  jobId : Option String := none
  originDeviceId : Option String := none
  targetDeviceIds : List String := []
  status : String := "pending"
  outcome : RuntimeOutcome := .deferred
  summary : String := ""
  currentHopId : Option String := none
  startedAt : Option Instant := none
  updatedAt : Option Instant := none
  finishedAt : Option Instant := none
  eventIds : List String := []
  route : List RuntimeRouteHop := []
  deriving DecidableEq, Repr

/-- `presenceSource` is the member `presence_source` of the signals. -/
structure RuntimeDevice where
  deviceId : String
  name : String := ""
  role : String := "未绑定"
  roleKind : String := "unbound"
  kind : String := "unknown"
  status : String := "offline"
  online : Bool := false
  companionId : Option String := none
  lastSeenAt : Option Instant := none
  capabilities : List String := []
  presenceSource : String := ""
  deriving DecidableEq, Repr

structure RuntimeService (ℓ : Type) where
  serviceId : String
  name : String
  online : Bool := false
  checked : Bool := false
  latencyMs : Option ℓ := none
  detail : String := ""

structure RuntimeMemory where
  realmsTotal : Int := 0
  activeRealmId : String := ""
  audienceScope : String := ""
  dataReadable : Bool := false
  materializationState : String := "unavailable"
  projectionPending : Int := 0
  lastMaterializedAt : Option String := none
  degradedReason : String := ""
  lastWriteDisposition : Option String := none
  deriving DecidableEq, Repr

end EidolonAdmin.MissionControl
