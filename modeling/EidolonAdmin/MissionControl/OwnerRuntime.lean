import EidolonAdmin.Audit.Index
import EidolonAdmin.MissionControl.Activities
import EidolonAdmin.MissionControl.Lanes

/-! # The Owner's runtime map

`owner_runtime_projection`: one composition, lane by lane, where each lane carries what
the ledger says about it together with its rows. A time stands for its ISO text.
-/

namespace EidolonAdmin.MissionControl

open Foundation Audit

/-- What the SDK's vocabulary of Mission Control says. -/
structure Contract where
  version : String
  snapshotCoverage : String
  presenceSources : List String
  presenceStates : List String
  roleKinds : List String
  presenceSourceNone : String
  presenceOnline : String
  presenceUnknown : String

structure Presence where
  state : String
  source : String
  observedAt : Option Instant
  deriving DecidableEq, Repr

structure OwnerDevice where
  deviceId : String
  displayName : String
  deviceKind : String
  role : String
  roleKind : String
  companionId : Option String
  capabilities : List String
  presence : Presence
  deriving DecidableEq, Repr

structure OwnerActivity where
  activityId : String
  kind : ActivityKind
  companionId : Option String
  status : String
  outcome : RuntimeOutcome
  summary : String
  turnId : Option String
  originDeviceId : Option String
  targetDeviceIds : List String
  currentHopId : Option String
  startedAt : Option Instant
  updatedAt : Option Instant
  finishedAt : Option Instant
  route : List RuntimeRouteHop
  deriving DecidableEq, Repr

structure OwnerStage where
  key : String
  label : String
  status : String
  latencyMs : Json

structure OwnerBreakdown where
  key : String
  label : String
  latencyMs : Json

structure OwnerTurn where
  turnId : String
  companionId : String
  deviceId : Option String
  runtimeSessionId : Option String
  status : String
  trigger : String
  latencyMs : Option Int
  memoryHits : Int
  toolNames : List String
  stages : List OwnerStage
  breakdown : List OwnerBreakdown

structure OwnerJob where
  jobId : String
  companionId : Option String
  kind : String
  status : String
  summary : String

structure OwnerService (ℓ : Type) where
  serviceId : String
  displayName : String
  code : String
  mode : String
  tier : String
  online : Bool
  checked : Bool
  latencyMs : Option ℓ
  detail : String

structure OwnerMemory where
  realmsTotal : Int
  activeRealmId : String
  audienceScope : String
  dataReadable : Bool
  materializationState : String
  projectionPending : Int
  lastMaterializedAt : Option String
  degradedReason : String
  lastWriteDisposition : String

/-- What the events lane reads of an audit envelope besides its id and its time. -/
structure EventContent where
  producerSeq : Int
  producer : String
  action : String
  severity : String
  outcome : String
  dataClassification : String
  traceId : Option String
  subjectType : String
  subjectId : String
  payload : Json
  reason : String

structure OwnerEvent where
  eventId : String
  ingestSeq : Nat
  producerSeq : Int
  ts : Instant
  source : String
  type : String
  severity : String
  outcome : String
  privacy : String
  origin : String
  traceId : Option String
  companionId : Option String
  deviceId : Option String
  turnId : Option String
  jobId : Option String
  milestone : String
  summary : String

section Rows

variable (py : Python) (contract : Contract)

def ownerDevice (row : RuntimeDevice) : OwnerDevice :=
  let said := orText row.presenceSource contract.presenceSourceNone
  let source := if said ∈ contract.presenceSources then said else contract.presenceSourceNone
  let state :=
    if row.status ∈ contract.presenceStates then row.status
    else if row.online then contract.presenceOnline else contract.presenceUnknown
  { deviceId := row.deviceId
    displayName := row.name
    deviceKind := row.kind
    role := row.role
    roleKind := if row.roleKind ∈ contract.roleKinds then row.roleKind else "unbound"
    companionId := row.companionId
    capabilities := row.capabilities
    presence :=
      { state := if source = contract.presenceSourceNone then contract.presenceUnknown else state
        source
        observedAt := row.lastSeenAt } }

def ownerActivity (row : RuntimeActivity) : OwnerActivity where
  activityId := row.activityId
  kind := row.kind
  companionId := row.companionId
  status := row.status
  outcome := row.outcome
  summary := row.summary
  turnId := row.turnId
  originDeviceId := row.originDeviceId
  targetDeviceIds := row.targetDeviceIds
  currentHopId := row.currentHopId
  startedAt := row.startedAt
  updatedAt := row.updatedAt
  finishedAt := row.finishedAt
  route := row.route

/-- `str(raw.get(name, ""))` -/
def memberText (raw : Json) (name : String) : String := (raw.get? name).elim "" py.str

def ownerStage (raw : Json) : OwnerStage where
  key := memberText py raw "key"
  label := memberText py raw "label"
  status := memberText py raw "status"
  latencyMs := raw.get "latency_ms"

def ownerBreakdown (raw : Json) : OwnerBreakdown where
  key := memberText py raw "key"
  label := memberText py raw "label"
  latencyMs := raw.get "latency_ms"

def ownerTurn (row : RuntimeTurn) : OwnerTurn where
  turnId := row.turnId
  companionId := row.companionId
  deviceId := row.deviceId
  runtimeSessionId := row.runtimeSessionId
  status := row.status
  trigger := row.trigger
  latencyMs := row.latencyMs
  memoryHits := row.memoryHits
  toolNames := row.toolNames
  stages := row.stages.map (ownerStage py)
  breakdown := row.breakdown.map (ownerBreakdown py)

def ownerJob (row : RuntimeJob) : OwnerJob where
  jobId := row.jobId
  companionId := row.companionId
  kind := row.kind
  status := row.status
  summary := row.summary

def ownerService {ℓ : Type} (row : RuntimeService ℓ) : OwnerService ℓ where
  serviceId := row.serviceId
  displayName := row.name
  code := row.serviceId
  mode := ""
  tier := "service"
  online := row.online
  checked := row.checked
  latencyMs := row.latencyMs
  detail := row.detail

def payloadId (payload : Json) (name : String) : Option String :=
  match payload.get name with
  | .str value => filled (some value)
  | _ => none

/-- What an event is about, or else what its payload names under one of the keys. -/
def subjectOrPayload (content : EventContent) (kind : String) (keys : List String) : Option String :=
  if content.subjectType = kind ∧ content.subjectId ≠ "" then some content.subjectId
  else keys.findSome? (payloadId content.payload)

def ownerEvent (row : IndexedAuditEvent EventContent) : OwnerEvent :=
  let content := row.envelope.content
  { eventId := row.envelope.eventId
    ingestSeq := row.ingestSeq
    producerSeq := content.producerSeq
    ts := row.envelope.occurredAt
    source := content.producer
    type := content.action
    severity := content.severity
    outcome := content.outcome
    privacy := content.dataClassification
    origin := "live"
    traceId := content.traceId
    companionId := subjectOrPayload content "companion" ["companion_id"]
    deviceId := subjectOrPayload content "device" ["device_id"]
    turnId := subjectOrPayload content "turn" ["turn_id"]
    jobId := subjectOrPayload content "job" ["job_id", "task_id"]
    milestone := py.strOr (content.payload.get "milestone") ""
    summary := orText content.reason content.action }

def ownerMemory (memory : RuntimeMemory) : OwnerMemory where
  realmsTotal := memory.realmsTotal
  activeRealmId := memory.activeRealmId
  audienceScope := memory.audienceScope
  dataReadable := memory.dataReadable
  materializationState := memory.materializationState
  projectionPending := memory.projectionPending
  lastMaterializedAt := memory.lastMaterializedAt
  degradedReason := memory.degradedReason
  lastWriteDisposition := memory.lastWriteDisposition.getD ""

end Rows

structure LaneHead (ℓ : Type) where
  state : LaneState
  detail : String
  observedAt : Instant
  latencyMs : Option ℓ

structure ItemsLane (ℓ ρ : Type) extends LaneHead ℓ where
  truncated : Bool
  items : List ρ

structure MemoryLane (ℓ : Type) extends LaneHead ℓ where
  value : Option OwnerMemory

/-- `LANE_LIMITS` -/
def laneLimit : Lane → Option Nat
  | .devices => some 64
  | .activities => some 24
  | .turns => some 24
  | .jobs => some 24
  | .services => some 32
  | .events => some 120
  | .memory => none

section Projection

variable {ℓ : Type}

def laneHead (outcome : LaneOutcome ℓ) : LaneHead ℓ where
  state := outcome.state
  detail := outcome.detail
  observedAt := outcome.observedAt
  latencyMs := outcome.latencyMs

def itemsLane {ρ : Type} (outcome : LaneOutcome ℓ) (items : List ρ) (lane : Lane) : ItemsLane ℓ ρ :=
  if outcome.readable = false then
    { toLaneHead := laneHead outcome, truncated := outcome.truncated, items := [] }
  else
    match laneLimit lane with
    | none => { toLaneHead := laneHead outcome, truncated := outcome.truncated, items }
    | some limit =>
      if limit < items.length then
        { toLaneHead := laneHead outcome, truncated := true, items := items.take limit }
      else { toLaneHead := laneHead outcome, truncated := outcome.truncated, items }

def memoryLane (outcome : LaneOutcome ℓ) (memory : RuntimeMemory) : MemoryLane ℓ where
  toLaneHead := laneHead outcome
  value := if outcome.readable then some (ownerMemory memory) else none

theorem itemsLane_head {ρ : Type} (outcome : LaneOutcome ℓ) (items : List ρ) (lane : Lane) :
    (itemsLane outcome items lane).toLaneHead = laneHead outcome := by
  unfold itemsLane
  split
  · rfl
  · cases laneLimit lane with
    | none => rfl
    | some limit =>
      dsimp only
      split <;> rfl

theorem itemsLane_of_unavailable {ρ : Type} {outcome : LaneOutcome ℓ} {items : List ρ} {lane : Lane}
    (h : (itemsLane outcome items lane).state = .unavailable) :
    (itemsLane outcome items lane).items.length = 0 := by
  rw [itemsLane_head] at h
  have hReadable : outcome.readable = false := by
    simpa [LaneOutcome.readable, laneHead] using h
  rw [itemsLane, if_pos hReadable]
  rfl

theorem memoryLane_of_unavailable {outcome : LaneOutcome ℓ} {memory : RuntimeMemory}
    (h : (memoryLane outcome memory).state = .unavailable) :
    (memoryLane outcome memory).value.toList.length = 0 := by
  have hState : outcome.state = .unavailable := h
  simp [memoryLane, LaneOutcome.readable, hState]

structure RuntimeSnapshot (ℓ : Type) where
  generatedAt : Instant
  devices : List RuntimeDevice := []
  services : List (RuntimeService ℓ) := []
  activities : List RuntimeActivity := []
  recentTurns : List RuntimeTurn := []
  memory : RuntimeMemory := {}
  jobs : List RuntimeJob := []

structure RuntimeComposition (ℓ : Type) where
  snapshot : RuntimeSnapshot ℓ
  ledger : LaneLedger ℓ

structure OwnerRuntime (ℓ : Type) where
  contractVersion : String
  coverage : String
  generatedAt : Instant
  cursor : Option Nat
  devices : ItemsLane ℓ OwnerDevice
  activities : ItemsLane ℓ OwnerActivity
  turns : ItemsLane ℓ OwnerTurn
  jobs : ItemsLane ℓ OwnerJob
  memory : MemoryLane ℓ
  services : ItemsLane ℓ (OwnerService ℓ)
  events : ItemsLane ℓ OwnerEvent

variable [LinearOrder ℓ] (py : Python) (contract : Contract)

def ownerRuntimeProjection (composition : RuntimeComposition ℓ)
    (auditEvents : Option (List (IndexedAuditEvent EventContent))) : OwnerRuntime ℓ :=
  let snapshot := composition.snapshot
  let outcome := fun lane => composition.ledger.outcome lane snapshot.generatedAt
  let indexed := auditEvents.getD []
  { contractVersion := contract.version
    coverage := contract.snapshotCoverage
    generatedAt := snapshot.generatedAt
    cursor := (indexed.map IndexedAuditEvent.ingestSeq).max?
    devices := itemsLane (outcome .devices) (snapshot.devices.map (ownerDevice contract)) .devices
    activities := itemsLane (outcome .activities) (snapshot.activities.map ownerActivity) .activities
    turns := itemsLane (outcome .turns) (snapshot.recentTurns.map (ownerTurn py)) .turns
    jobs := itemsLane (outcome .jobs) (snapshot.jobs.map ownerJob) .jobs
    memory := memoryLane (outcome .memory) snapshot.memory
    services := itemsLane (outcome .services) (snapshot.services.map ownerService) .services
    events := itemsLane (outcome .events) (indexed.map (ownerEvent py)) .events }

def OwnerRuntime.head (runtime : OwnerRuntime ℓ) : Lane → LaneHead ℓ
  | .devices => runtime.devices.toLaneHead
  | .services => runtime.services.toLaneHead
  | .activities => runtime.activities.toLaneHead
  | .turns => runtime.turns.toLaneHead
  | .jobs => runtime.jobs.toLaneHead
  | .memory => runtime.memory.toLaneHead
  | .events => runtime.events.toLaneHead

def OwnerRuntime.carried (runtime : OwnerRuntime ℓ) : Lane → Nat
  | .devices => runtime.devices.items.length
  | .services => runtime.services.items.length
  | .activities => runtime.activities.items.length
  | .turns => runtime.turns.items.length
  | .jobs => runtime.jobs.items.length
  | .memory => runtime.memory.value.toList.length
  | .events => runtime.events.items.length

theorem carried_of_unavailable (composition : RuntimeComposition ℓ)
    (auditEvents : Option (List (IndexedAuditEvent EventContent))) {lane : Lane}
    (h : ((ownerRuntimeProjection py contract composition auditEvents).head lane).state = .unavailable) :
    (ownerRuntimeProjection py contract composition auditEvents).carried lane = 0 := by
  cases lane with
  | memory => exact memoryLane_of_unavailable h
  | devices | services | activities | turns | jobs | events => exact itemsLane_of_unavailable h

theorem head_state (composition : RuntimeComposition ℓ)
    (auditEvents : Option (List (IndexedAuditEvent EventContent))) (lane : Lane) :
    ((ownerRuntimeProjection py contract composition auditEvents).head lane).state =
      (composition.ledger.outcome lane composition.snapshot.generatedAt).state := by
  cases lane with
  | memory => rfl
  | devices | services | activities | turns | jobs | events =>
    exact congrArg LaneHead.state (itemsLane_head _ _ _)

/-- Each lane says what the latest answers of its sources said, in whatever order they came;
an unavailable lane carries nothing, and the cursor is the last event's. -/
theorem lane_health_is_what_sources_said (calls : List (LedgerCall ℓ))
    (hCalls : ∀ call ∈ calls, call.Registered) :
    ∃ ledger, LedgerCall.run {} calls = .ok ledger ∧
      (∀ lane observedAt,
        (∃ rows, (rows.map SourceStatus.source).Nodup ∧
          (∀ status, status ∈ rows ↔ LatestDeciding calls lane status) ∧
          ledger.outcome lane observedAt =
            laneOutcome lane (decide (lane ∈ calls.filterMap LedgerCall.cut)) observedAt rows) ∧
        ((ledger.outcome lane observedAt).state = .unavailable ↔
          ∀ status, LatestDeciding calls lane status → status.ok = false) ∧
        ((ledger.outcome lane observedAt).state = .ok ↔
          (∃ status, LatestDeciding calls lane status ∧ status.ok = true) ∧
          (∀ status, LatestDeciding calls lane status → status.ok = true) ∧
          lane ∉ calls.filterMap LedgerCall.cut) ∧
        ((ledger.outcome lane observedAt).state = .degraded ↔
          (∃ status, LatestDeciding calls lane status ∧ status.ok = true) ∧
          ((∃ status, LatestDeciding calls lane status ∧ status.ok = false) ∨
            lane ∈ calls.filterMap LedgerCall.cut)) ∧
        ∀ calls' ledger', (∀ call ∈ calls', call.Registered) →
          LedgerCall.run {} calls' = .ok ledger' →
          (∀ status, LatestDeciding calls lane status ↔ LatestDeciding calls' lane status) →
          (lane ∈ calls.filterMap LedgerCall.cut ↔ lane ∈ calls'.filterMap LedgerCall.cut) →
          (ledger.outcome lane observedAt).SameHealth (ledger'.outcome lane observedAt)) ∧
      (∀ calls', Reordering calls calls' → ∃ ledger', LedgerCall.run {} calls' = .ok ledger' ∧
        ∀ lane observedAt, (ledger.outcome lane observedAt).SameHealth (ledger'.outcome lane observedAt)) ∧
      (ledger.statuses.map SourceStatus.source).Nodup ∧
      (∀ status, status ∈ ledger.statuses ↔
        latest (calls.filterMap LedgerCall.row) status.source = some status) ∧
      ∀ snapshot auditEvents,
        (∀ lane, (ledger.outcome lane snapshot.generatedAt).state = .unavailable →
          (ownerRuntimeProjection py contract ⟨snapshot, ledger⟩ auditEvents).carried lane = 0) ∧
        (∀ seq, (ownerRuntimeProjection py contract ⟨snapshot, ledger⟩ auditEvents).cursor = some seq ↔
          (∃ event ∈ auditEvents.getD [], event.ingestSeq = seq) ∧
            ∀ event ∈ auditEvents.getD [], event.ingestSeq ≤ seq) ∧
        ((ownerRuntimeProjection py contract ⟨snapshot, ledger⟩ auditEvents).cursor = none ↔
          auditEvents.getD [] = []) := by
  obtain ⟨ledger, hRun, hRecorded⟩ := recorded_run calls hCalls
  refine ⟨ledger, hRun, fun lane observedAt => ⟨?_, ?_, ?_, ?_, ?_⟩, ?_, ledger.nodup_statuses,
    fun status => hRecorded.mem_statuses, fun snapshot auditEvents => ⟨?_, ?_, ?_⟩⟩
  · exact ⟨ledger.laneRows lane, hRecorded.nodup_laneRows lane, fun status => hRecorded.mem_laneRows,
      hRecorded.outcome_eq lane observedAt⟩
  · rw [hRecorded.outcome_eq, laneOutcome_unavailable_iff]
    simp only [hRecorded.mem_laneRows]
  · rw [hRecorded.outcome_eq, laneOutcome_ok_iff]
    simp only [hRecorded.mem_laneRows, decide_eq_false_iff_not]
  · rw [hRecorded.outcome_eq, laneOutcome_degraded_iff]
    simp only [hRecorded.mem_laneRows, decide_eq_true_eq]
  · intro calls' ledger' hCalls' hRun' hLatest hCut
    obtain ⟨_, hRunAgain, hRecorded'⟩ := recorded_run calls' hCalls'
    rw [hRun', Except.ok.injEq] at hRunAgain
    subst hRunAgain
    exact hRecorded.sameHealth hRecorded' hLatest hCut
  · intro calls' hOrder
    have hCalls' : ∀ call ∈ calls', call.Registered := fun call hCall =>
      hCalls call (hOrder.perm.mem_iff.mpr hCall)
    obtain ⟨ledger', hRun', hRecorded'⟩ := recorded_run calls' hCalls'
    refine ⟨ledger', hRun', fun lane observedAt => ?_⟩
    exact hRecorded.sameHealth hRecorded' (hOrder.latestDeciding lane)
      (hOrder.perm.filterMap LedgerCall.cut).mem_iff
  · intro lane hUnavailable
    refine carried_of_unavailable py contract _ _ ?_
    rw [head_state]
    exact hUnavailable
  · intro seq
    unfold ownerRuntimeProjection
    simp only [List.max?_eq_some_iff, List.mem_map]
    refine and_congr_right fun _ => ⟨fun hAll event hEvent => hAll _ ⟨event, hEvent, rfl⟩, ?_⟩
    rintro hAll _ ⟨event, hEvent, rfl⟩
    exact hAll event hEvent
  · unfold ownerRuntimeProjection
    simp only [List.max?_eq_none_iff, List.map_eq_nil_iff]

/-! ## What the activities lane leaves out -/

/-- No scope has more than twelve activities, other than one whose activities are all active. -/
def WithinQuota (activities : List RuntimeActivity) : Prop :=
  ∀ scope, (activities.map RuntimeActivity.scope).count scope ≤ scopeQuota ∨
    ((activities.filter (RuntimeActivity.isActive py)).map RuntimeActivity.scope).count scope =
      (activities.map RuntimeActivity.scope).count scope

theorem admitted_ordered_eq_iff (activities : List RuntimeActivity) :
    Quota.admitted RuntimeActivity.scope (RuntimeActivity.isActive py) scopeQuota (fun _ => 0)
        (orderedActivities py activities) = orderedActivities py activities ↔
      WithinQuota py activities := by
  rw [Quota.admitted_eq_self_iff (ordered_activeFirst py activities)]
  refine forall_congr' fun scope => ?_
  have hPerm := ordered_perm py activities
  rw [(hPerm.map RuntimeActivity.scope).count_eq scope,
    ((hPerm.filter (RuntimeActivity.isActive py)).map RuntimeActivity.scope).count_eq scope]

theorem length_admitted_ordered (activities : List RuntimeActivity) :
    (Quota.admitted RuntimeActivity.scope (RuntimeActivity.isActive py) scopeQuota (fun _ => 0)
      (orderedActivities py activities)).length = rowsAsked py activities :=
  (Quota.length_admitted (ordered_activeFirst py activities)).trans
    (Quota.demand_perm (ordered_perm py activities))

theorem laneOutcome_truncated {lane : Lane} {truncated : Bool} {observedAt : Instant}
    {rows : List (SourceStatus ℓ)}
    (h : (laneOutcome lane truncated observedAt rows).state ≠ .unavailable) :
    (laneOutcome lane truncated observedAt rows).truncated = truncated := by
  unfold laneOutcome at h ⊢
  dsimp only at h ⊢
  split
  · rfl
  · split
    · rename_i hFailures hAnswers
      rw [if_neg hFailures, if_pos hAnswers] at h
      exact absurd rfl h
    · rfl

def activitiesLane (turns : List RuntimeTurn) (jobs : List RuntimeJob) (events : List RuntimeEvent)
    (snapshot : RuntimeSnapshot ℓ) (ledger : LaneLedger ℓ)
    (auditEvents : Option (List (IndexedAuditEvent EventContent))) : ItemsLane ℓ OwnerActivity :=
  (ownerRuntimeProjection py contract
    ⟨{ snapshot with activities := projectRuntimeActivities py turns jobs events }, ledger⟩
    auditEvents).activities

theorem activitiesLane_eq (turns : List RuntimeTurn) (jobs : List RuntimeJob) (events : List RuntimeEvent)
    (snapshot : RuntimeSnapshot ℓ) (ledger : LaneLedger ℓ)
    (auditEvents : Option (List (IndexedAuditEvent EventContent))) :
    activitiesLane py contract turns jobs events snapshot ledger auditEvents =
      itemsLane (ledger.outcome .activities snapshot.generatedAt)
        ((projectRuntimeActivities py turns jobs events).map ownerActivity) .activities :=
  rfl

/-- A readable activities lane that does not say it was cut shows every turn, job and
qualifying event exactly if no scope went over its quota, or the rest shows more than it may. -/
theorem activities_lane_honest_iff (turns : List RuntimeTurn) (jobs : List RuntimeJob)
    (events : List RuntimeEvent) (snapshot : RuntimeSnapshot ℓ) (ledger : LaneLedger ℓ)
    (auditEvents : Option (List (IndexedAuditEvent EventContent))) :
    ((activitiesLane py contract turns jobs events snapshot ledger auditEvents).state ≠ .unavailable →
      (activitiesLane py contract turns jobs events snapshot ledger auditEvents).truncated = false →
      (activitiesLane py contract turns jobs events snapshot ledger auditEvents).items.Perm
        ((runtimeActivities py turns jobs events).map ownerActivity)) ↔
      (ledger.outcome .activities snapshot.generatedAt).state = .unavailable ∨
        .activities ∈ ledger.truncated ∨
        24 < rowsAsked py (runtimeActivities py turns jobs events) ∨
        WithinQuota py (runtimeActivities py turns jobs events) := by
  set activities := runtimeActivities py turns jobs events with hActivities
  set outcome := ledger.outcome .activities snapshot.generatedAt with hOutcome
  set rows := Quota.admitted RuntimeActivity.scope (RuntimeActivity.isActive py) scopeQuota (fun _ => 0)
    (orderedActivities py activities) with hRows
  have hAsked : rows.length = rowsAsked py activities := length_admitted_ordered py activities
  rw [activitiesLane_eq, ← hOutcome, itemsLane_head, projectRuntimeActivities_eq, ← hActivities, ← hRows]
  by_cases hState : outcome.state = .unavailable
  · simp [laneHead, hState]
  have hReadable : ¬ outcome.readable = false := by simpa [LaneOutcome.readable] using hState
  have hTruncated : outcome.truncated = decide (Lane.activities ∈ ledger.truncated) :=
    laneOutcome_truncated hState
  rw [itemsLane, if_neg hReadable, hTruncated]
  simp only [laneLimit, laneHead, List.length_map, List.length_take, activityLimit, hAsked]
  by_cases hLong : 24 < rowsAsked py activities
  · rw [if_pos (by omega)]
    simp [hLong]
  rw [if_neg (by omega), List.take_of_length_le (by omega)]
  by_cases hCut : Lane.activities ∈ ledger.truncated
  · simp [hCut]
  simp only [ne_eq, hState, not_false_eq_true, hCut, decide_false, true_implies, false_or, hLong]
  rw [← admitted_ordered_eq_iff, ← hRows]
  constructor
  · intro hPerm
    have hLength := hPerm.length_eq
    rw [List.length_map, List.length_map, ← (ordered_perm py activities).length_eq] at hLength
    exact Quota.admitted_sublist.eq_of_length hLength
  · intro hAll
    rw [hAll]
    exact (ordered_perm py activities).map ownerActivity

end Projection

def sampleCalls : List (LedgerCall Nat) :=
  [.record "agent.turns" true "3 turns" (some 12) none, .truncate .turns "24 of 30",
    .record "agent.long_tasks" false "refused" none none]

def sampleContract : Contract where
  version := "1"
  snapshotCoverage := "owner-runtime"
  presenceSources := ["runtime_blackboard", "channel", "hub", "none"]
  presenceStates := ["online", "degraded", "offline", "unknown"]
  roleKinds := ["guard", "persona", "unbound"]
  presenceSourceNone := "none"
  presenceOnline := "online"
  presenceUnknown := "unknown"

theorem lane_health_of_sampleCalls :
    ∃ ledger, LedgerCall.run {} sampleCalls = .ok ledger ∧
      (ledger.outcome .activities 0).state = .degraded := by
  have hCalls : ∀ call ∈ sampleCalls, call.Registered := by decide
  obtain ⟨ledger, hRun, hOutcome, -⟩ :=
    lane_health_is_what_sources_said plainPython sampleContract sampleCalls hCalls
  refine ⟨ledger, hRun, (hOutcome .activities 0).2.2.2.1.mpr ⟨?_, .inl ?_⟩⟩
  · exact ⟨⟨"agent.turns", true, "3 turns", some 12⟩, ⟨by decide, by decide⟩, rfl⟩
  · exact ⟨⟨"agent.long_tasks", false, "refused", none⟩, ⟨by decide, by decide⟩, rfl⟩

def finishedJobs : List RuntimeJob :=
  (List.range 13).map fun number =>
    { jobId := toString number, ownerId := "owner", companionId := some "aya", status := "completed" }

def answeredCalls : List (LedgerCall Nat) :=
  [.record "agent.turns" true "0 turns" none none, .record "agent.long_tasks" true "13 tasks" none none]

theorem thirteenth_job_left_out :
    ∃ ledger, LedgerCall.run {} answeredCalls = .ok ledger ∧
      ∃ lane, lane = activitiesLane plainPython sampleContract [] finishedJobs []
          { generatedAt := 0 } ledger none ∧
        lane.state = .ok ∧ lane.truncated = false ∧ lane.items.length = 12 ∧
        (runtimeActivities plainPython [] finishedJobs []).length = 13 :=
  ⟨_, rfl, _, rfl, by decide +kernel⟩

end EidolonAdmin.MissionControl
