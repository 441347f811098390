import Mathlib.Data.List.Infix
import Mathlib.Data.List.Sort
import EidolonAdmin.Foundation.Quota
import EidolonAdmin.Foundation.StableSort
import EidolonAdmin.MissionControl.Schemas

/-! # Turns, jobs and events as concurrent activities

`_project_runtime_activities`: every turn, every job and every event that qualifies
becomes an activity. They are ordered, active ones first and then the latest, and a scope
shows at most twelve that are not active, of forty-eight in all.
-/

namespace EidolonAdmin.MissionControl

open Foundation

def activeActivityStates : List String :=
  ["running", "active", "pending", "queued", "accepted", "processing", "generating", "speaking",
    "deferred"]

section Rows

variable (py : Python)

def activityIsActive (status : String) : Bool := py.lower status ∈ activeActivityStates

def stageStatus (status : String) : String :=
  let value := py.lower status
  if value ∈ ["ok", "done", "succeeded", "completed"] then "done"
  else if value ∈ ["failed", "errored", "error"] then "failed"
  else if value ∈ ["running", "pending", "queued"] then "running"
  else if value = "" then "pending" else "done"

def voiceStageNode (stage : String) (deviceId : Option String) : NodeType × String × Direction :=
  match filled deviceId with
  | some device =>
    if stage = "playback" then (.device, device, .outward)
    else if stage ∈ ["memory_recall", "memory_write"] then (.memory, "memory", .outward)
    else if stage ∈ ["agent_turn", "brain", "response", "tools"] then (.service, "agent", .internal)
    else (.service, "channel", if stage = "tts" then .outward else .inward)
  | none =>
    if stage ∈ ["memory_recall", "memory_write"] then (.memory, "memory", .outward)
    else if stage ∈ ["agent_turn", "brain", "response", "tools"] then (.service, "agent", .internal)
    else (.service, "channel", if stage = "tts" then .outward else .inward)

def voiceActivitySummary (turn : RuntimeTurn) : String :=
  if activityIsActive py turn.status then
    match turn.stages.reverse.find? fun item => (item.get "status").isText "running" with
    | some item => py.strOr (item.get "label") ""
    | none => "语音轮次进行中"
  else if turn.status = "interrupted" then "语音轮次已被用户打断"
  else if turn.outcome = .failure then "语音轮次失败"
  else "语音轮次已完成"

def voiceStageHop (turn : RuntimeTurn) (stage : Json) (index : Nat) : RuntimeRouteHop :=
  let key := py.strOr (stage.get "key") ("stage-" ++ toString index)
  let node := voiceStageNode key turn.deviceId
  { hopId := "voice:" ++ turn.turnId ++ ":" ++ key ++ ":" ++ toString index
    nodeType := node.1
    nodeId := node.2.1
    label := py.strOr (stage.get "label") key
    stage := key
    status := py.strOr (stage.get "status") "pending"
    direction := node.2.2
    latencyMs := py.int (stage.get "latency_ms") }

def voiceRoute (turn : RuntimeTurn) : List RuntimeRouteHop :=
  let device := (filled turn.deviceId).toList.map fun device =>
    { hopId := "voice:" ++ turn.turnId ++ ":device-in", nodeType := .device, nodeId := device
      label := device, stage := "input", status := "done", direction := .inward
      ts := turn.startedAt : RuntimeRouteHop }
  let companion := (filled (some turn.companionId)).toList.map fun companion =>
    { hopId := "voice:" ++ turn.turnId ++ ":companion", nodeType := .companion, nodeId := companion
      label := "Companion", stage := "identity", status := "done", direction := .inward
      ts := turn.startedAt : RuntimeRouteHop }
  device ++ companion ++ turn.stages.zipIdx.map fun stage => voiceStageHop py turn stage.1 stage.2

def voiceActivity (turn : RuntimeTurn) : RuntimeActivity :=
  let route := voiceRoute py turn
  let running := (route.reverse.find? fun hop => hop.status = "running").map fun hop => hop.hopId
  let playbackSeen := route.any fun hop => hop.stage ∈ ["tts", "playback"]
  { activityId := "voice:" ++ turn.turnId
    kind := .voiceTurn
    ownerId := turn.ownerId
    companionId := filled (some turn.companionId)
    traceId := turn.traceId
    turnId := some turn.turnId
    originDeviceId := turn.deviceId
    targetDeviceIds := if playbackSeen then (filled turn.deviceId).toList else []
    status := turn.status
    outcome := turn.outcome
    summary := voiceActivitySummary py turn
    currentHopId :=
      if activityIsActive py turn.status then running.or (route.getLast?.map fun hop => hop.hopId)
      else running
    startedAt := turn.startedAt
    updatedAt := turn.finishedAt.or turn.startedAt
    finishedAt := turn.finishedAt
    eventIds := turn.eventIds
    route }

def jobRoute (job : RuntimeJob) : List RuntimeRouteHop :=
  let active := activityIsActive py job.status
  let provider := orText (py.lower job.provider) "agent"
  let dispatch : RuntimeRouteHop :=
    { hopId := "job:" ++ job.jobId ++ ":agent", nodeType := .service, nodeId := "agent"
      label := "智能体任务编排", stage := "dispatch", status := if active then "running" else "done"
      direction := .outward, ts := job.createdAt }
  let execute : RuntimeRouteHop :=
    { hopId := "job:" ++ job.jobId ++ ":provider", nodeType := .provider, nodeId := provider
      label := orText job.provider (orText job.kind "后台执行器"), stage := "execute"
      status := if active then "running" else stageStatus py job.status
      direction := .outward, ts := job.updatedAt.or job.createdAt }
  if provider = "agent" then [dispatch] else [dispatch, execute]

def jobActivity (job : RuntimeJob) : RuntimeActivity :=
  let active := activityIsActive py job.status
  let route := jobRoute py job
  { activityId := "job:" ++ job.jobId
    kind := .backgroundJob
    ownerId := job.ownerId
    companionId := job.companionId
    turnId := job.turnId
    jobId := some job.jobId
    status := job.status
    outcome :=
      if active then .deferred
      else if py.lower job.status ∈ ["failed", "error", "errored"] then .failure else .success
    summary := orText job.summary (job.provider ++ ":" ++ job.kind)
    currentHopId := if active then route.getLast?.map fun hop => hop.hopId else none
    startedAt := job.createdAt
    updatedAt := job.updatedAt.or job.createdAt
    finishedAt := job.completedAt
    route }

/-- Whether an event is an activity, of which kind, and whether it goes outward. -/
def eventKind (event : RuntimeEvent) : Option (ActivityKind × Bool) :=
  let lowered := (py.lower event.type).toList
  if "command".toList <:+: lowered then some (.deviceCommand, true)
  else if "guard.".toList <+: lowered ∨ ".guard.".toList <:+: lowered then some (.guardEvent, false)
  else if (filled event.deviceId).isSome ∧
      (event.source = .hub ∨ "device.".toList <+: lowered) then some (.deviceEvent, false)
  else none

def eventEndpoints (event : RuntimeEvent) (outbound : Bool) : List (NodeType × String × String) :=
  let companion := (filled event.companionId).toList.map fun id => (NodeType.companion, id, "Companion")
  let device := (filled event.deviceId).toList.map fun id => (NodeType.device, id, id)
  let hub := [(NodeType.service, "hub", "设备中枢")]
  if outbound then companion ++ hub ++ device else device ++ hub ++ companion

def eventRoute (event : RuntimeEvent) (outbound active : Bool) : List RuntimeRouteHop :=
  let endpoints := eventEndpoints event outbound
  endpoints.zipIdx.map fun ⟨⟨nodeType, nodeId, label⟩, index⟩ =>
    { hopId := "event:" ++ event.eventId ++ ":" ++ toString index
      nodeType, nodeId, label
      stage := if outbound then "command" else "observe"
      status := if active ∧ index + 1 = endpoints.length then "running" else "done"
      direction := if outbound then .outward else .inward
      ts := some event.ts }

def eventActivity (event : RuntimeEvent) : Option RuntimeActivity :=
  (eventKind py event).map fun ⟨kind, outbound⟩ =>
    let status := py.strOr (event.payload.get "status") "completed"
    let active := activityIsActive py status
    let route := eventRoute event outbound active
    { activityId := "event:" ++ event.eventId
      kind
      ownerId := event.ownerId.getD ""
      companionId := event.companionId
      traceId := event.traceId
      turnId := event.turnId
      jobId := event.jobId
      originDeviceId := if outbound then none else event.deviceId
      targetDeviceIds := if outbound then (filled event.deviceId).toList else []
      status
      outcome := if active then .deferred else event.outcome
      summary := event.summary
      currentHopId := if active then route.getLast?.map fun hop => hop.hopId else none
      startedAt := some event.ts
      updatedAt := some event.ts
      finishedAt := if active then none else some event.ts
      eventIds := [event.eventId]
      route }

end Rows

/-- The Companion an activity belongs to, or else its Owner. -/
def RuntimeActivity.scope (activity : RuntimeActivity) : String :=
  (filled activity.companionId).getD ("owner:" ++ activity.ownerId)

def RuntimeActivity.instant (activity : RuntimeActivity) : Instant :=
  (activity.updatedAt.or activity.startedAt).getD datetimeMin

section Projection

variable (py : Python)

def RuntimeActivity.isActive (activity : RuntimeActivity) : Bool := activityIsActive py activity.status

/-- The order of the sort key `(active, instant)`, from the largest on. -/
def Precedes (a b : RuntimeActivity) : Prop :=
  (a.isActive py ∧ ¬ b.isActive py) ∨ (a.isActive py = b.isActive py ∧ b.instant ≤ a.instant)

instance : DecidableRel (Precedes py) := fun _ _ => inferInstanceAs (Decidable (_ ∨ _))

def runtimeActivities (turns : List RuntimeTurn) (jobs : List RuntimeJob) (events : List RuntimeEvent) :
    List RuntimeActivity :=
  turns.map (voiceActivity py) ++ jobs.map (jobActivity py) ++ events.filterMap (eventActivity py)

def orderedActivities (activities : List RuntimeActivity) : List RuntimeActivity :=
  activities.insertionSort (Precedes py)

def scopeQuota : Nat := 12

def activityLimit : Nat := 48

def projectRuntimeActivities (turns : List RuntimeTurn) (jobs : List RuntimeJob)
    (events : List RuntimeEvent) : List RuntimeActivity :=
  Quota.admitUpTo RuntimeActivity.scope (RuntimeActivity.isActive py) scopeQuota activityLimit
    (fun _ => 0) [] (orderedActivities py (runtimeActivities py turns jobs events))

theorem precedes_total (a b : RuntimeActivity) : Precedes py a b ∨ Precedes py b a := by
  unfold Precedes
  have hInstants := le_total a.instant b.instant
  cases a.isActive py <;> cases b.isActive py <;> simp [hInstants.symm]

theorem precedes_trans (a b c : RuntimeActivity) (hFirst : Precedes py a b) (hSecond : Precedes py b c) :
    Precedes py a c := by
  obtain ⟨hA, hB⟩ | ⟨hSame, hLe⟩ := hFirst
  · obtain ⟨hActive, -⟩ | ⟨hSame, -⟩ := hSecond
    · exact absurd hActive hB
    · exact .inl ⟨hA, hSame ▸ hB⟩
  · obtain ⟨hB, hC⟩ | ⟨hSame', hLe'⟩ := hSecond
    · exact .inl ⟨hSame ▸ hB, hC⟩
    · exact .inr ⟨hSame.trans hSame', hLe'.trans hLe⟩

theorem ordered_perm (activities : List RuntimeActivity) :
    (orderedActivities py activities).Perm activities :=
  List.perm_insertionSort _ activities

theorem ordered_activeFirst (activities : List RuntimeActivity) :
    Quota.ExemptFirst (RuntimeActivity.isActive py) (orderedActivities py activities) := by
  have : Std.Total (Precedes py) := ⟨precedes_total py⟩
  have : IsTrans RuntimeActivity (Precedes py) := ⟨precedes_trans py⟩
  refine (List.pairwise_insertionSort (Precedes py) activities).imp fun {a b} hOrder hActive => ?_
  obtain ⟨hFirst, -⟩ | ⟨hSame, -⟩ := hOrder
  · exact hFirst
  · rw [hSame, hActive]

theorem projectRuntimeActivities_eq (turns : List RuntimeTurn) (jobs : List RuntimeJob)
    (events : List RuntimeEvent) :
    projectRuntimeActivities py turns jobs events =
      (Quota.admitted RuntimeActivity.scope (RuntimeActivity.isActive py) scopeQuota (fun _ => 0)
        (orderedActivities py (runtimeActivities py turns jobs events))).take activityLimit :=
  Quota.admitUpTo_eq (by decide)

def aheadOfScope (scope : String) (activities : List RuntimeActivity) : List RuntimeActivity :=
  StableSort.aheadOf (Precedes py) (fun activity => activity.scope = scope) activities

/-- The rows that activities ask for: of a scope all that are active, and others up to twelve. -/
def rowsAsked (activities : List RuntimeActivity) : Nat :=
  Quota.demand RuntimeActivity.scope (RuntimeActivity.isActive py) scopeQuota activities

theorem rowsAsked_ahead (scope : String) (activities : List RuntimeActivity) :
    Quota.demand RuntimeActivity.scope (RuntimeActivity.isActive py) scopeQuota
        ((orderedActivities py activities).takeWhile fun activity => !decide (activity.scope = scope)) =
      rowsAsked py (aheadOfScope py scope activities) :=
  Quota.demand_perm (StableSort.takeWhile_insertionSort_perm (precedes_total py) (precedes_trans py)
    (fun activity => decide (activity.scope = scope)) activities)

/-- Every scope keeps a row exactly if the activities ahead of it never ask for all the rows. -/
theorem every_scope_shown_iff (turns : List RuntimeTurn) (jobs : List RuntimeJob)
    (events : List RuntimeEvent) :
    (∀ activity ∈ runtimeActivities py turns jobs events,
        ∃ row ∈ projectRuntimeActivities py turns jobs events, row.scope = activity.scope) ↔
      ∀ activity ∈ runtimeActivities py turns jobs events,
        rowsAsked py (aheadOfScope py activity.scope (runtimeActivities py turns jobs events)) <
          activityLimit := by
  rw [projectRuntimeActivities_eq]
  refine forall₂_congr fun activity hActivity => ?_
  rw [← rowsAsked_ahead]
  refine Quota.shown_iff (ordered_activeFirst py _) (by decide) ?_
  exact List.mem_map_of_mem ((ordered_perm py _).mem_iff.mpr hActivity)

end Projection

def noisyJobs : List RuntimeJob :=
  (List.range 48).map (fun number =>
    { jobId := toString number, ownerId := "owner", companionId := some "noisy", status := "running" }) ++
  [{ jobId := "quiet", ownerId := "owner", companionId := some "quiet", status := "running" }]

theorem noisy_activities :
    runtimeActivities plainPython [] noisyJobs [] = noisyJobs.map (jobActivity plainPython) := by
  simp [runtimeActivities]

theorem scope_of_noisyJobs : ∀ activity ∈ noisyJobs.map (jobActivity plainPython),
    activity.isActive plainPython = true ∧ activity.instant = datetimeMin ∧
      (activity.scope = "noisy" ∨ activity.scope = "quiet") := by
  simp only [noisyJobs, List.map_append, List.map_map, List.mem_append, List.mem_map, List.mem_range,
    List.map_singleton, List.mem_singleton]
  rintro activity (⟨number, -, rfl⟩ | rfl)
  · exact ⟨rfl, rfl, .inl rfl⟩
  · exact ⟨rfl, rfl, .inr rfl⟩

theorem noisy_rows : projectRuntimeActivities plainPython [] noisyJobs [] =
    (noisyJobs.map (jobActivity plainPython)).take activityLimit := by
  have hOrder : (noisyJobs.map (jobActivity plainPython)).Pairwise (Precedes plainPython) := by
    refine List.pairwise_of_forall_mem_list fun a hA b hB => .inr ?_
    rw [(scope_of_noisyJobs a hA).1, (scope_of_noisyJobs b hB).1, (scope_of_noisyJobs a hA).2.1,
      (scope_of_noisyJobs b hB).2.1]
    exact ⟨rfl, le_rfl⟩
  have hActive : (noisyJobs.map (jobActivity plainPython)).filter
      (RuntimeActivity.isActive plainPython) = noisyJobs.map (jobActivity plainPython) :=
    List.filter_eq_self.mpr fun activity hActivity => (scope_of_noisyJobs activity hActivity).1
  have hFirst := ordered_activeFirst plainPython (noisyJobs.map (jobActivity plainPython))
  rw [projectRuntimeActivities_eq, noisy_activities]
  rw [orderedActivities, hOrder.insertionSort_eq] at hFirst ⊢
  rw [(Quota.admitted_eq_self_iff hFirst).mpr fun scope => .inr (by rw [hActive])]

theorem quiet_companion_evicted :
    ((runtimeActivities plainPython [] noisyJobs []).map RuntimeActivity.scope).toFinset.card ≤ 48 ∧
      ∃ activity ∈ runtimeActivities plainPython [] noisyJobs [],
        ∀ row ∈ projectRuntimeActivities plainPython [] noisyJobs [], row.scope ≠ activity.scope := by
  rw [noisy_rows, noisy_activities]
  constructor
  · have hScopes : ((noisyJobs.map (jobActivity plainPython)).map RuntimeActivity.scope).toFinset ⊆
        {"noisy", "quiet"} := by
      intro scope hScope
      rw [List.mem_toFinset, List.mem_map] at hScope
      obtain ⟨activity, hActivity, rfl⟩ := hScope
      simpa using (scope_of_noisyJobs activity hActivity).2.2
    exact (Finset.card_le_card hScopes).trans (by decide)
  · refine ⟨_, List.mem_map_of_mem (List.mem_append_right _ (List.mem_singleton.mpr rfl)), ?_⟩
    have hTake : noisyJobs.take activityLimit = (List.range 48).map fun number =>
        { jobId := toString number, ownerId := "owner", companionId := some "noisy", status := "running" } :=
      List.take_left' (by rw [List.length_map, List.length_range]; rfl)
    rw [← List.map_take, hTake]
    simp only [List.mem_map]
    rintro row ⟨job, ⟨number, -, rfl⟩, rfl⟩
    exact (by decide : ("noisy" : String) ≠ "quiet")

end EidolonAdmin.MissionControl
