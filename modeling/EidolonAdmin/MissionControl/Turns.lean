import Mathlib.Data.List.Infix
import Mathlib.Data.List.Sort
import EidolonAdmin.Foundation.Dict
import EidolonAdmin.MissionControl.Schemas

/-! # Channel facts and Agent rows as one list of turns

`_project_runtime_turns`: the Channel's events of one turn become one row, an Agent turn with
the same trace is merged into it, and the other Agent turns keep rows of their own. A result
that is absent stands for an exception.
-/

namespace EidolonAdmin.MissionControl

open Foundation

/-- What the stages take from Python's floats. -/
structure Floats (φ : Type) where
  zero : φ
  /-- `float(value)`, absent where it raises -/
  ofJson : Json → Option φ
  /-- `round(elapsed - previous)`, absent where it raises -/
  roundedDifference : φ → φ → Option Int
  max : φ → φ → φ
  /-- `int(delta.total_seconds() * 1000)` of a number of microseconds -/
  milliseconds : Int → Int

def channelTerminalTypes : List String :=
  ["channel.turn.completed", "channel.turn.rejected", "channel.turn.failed"]

/-- `_CHANNEL_STAGE_META`: the stage of a phase or milestone, and its label. -/
def channelStageMeta : List (String × String × String) :=
  [("user_speech_open", "speech", "用户说话"),
    ("provisional_duck", "duck", "暂时压低播放"),
    ("evidence_arbitration", "eot", "判断打断与轮次结束"),
    ("accepted_interruption", "interrupt", "接受打断"),
    ("rejected_interruption", "interrupt", "恢复原播放"),
    ("user_turn_pending", "eot", "等待完整轮次"),
    ("user_turn_committed", "commit", "轮次已提交"),
    ("user_turn_rejected", "commit", "轮次未进入大脑"),
    ("generating", "brain", "大脑开始生成"),
    ("brain_request_sent", "brain", "请求已送达大脑"),
    ("brain_first_delta", "response", "大脑首个响应"),
    ("brain_done", "response", "大脑响应完成"),
    ("brain_cancelled", "response", "大脑响应被取消"),
    ("brain_error", "response", "大脑响应失败"),
    ("llm_error", "response", "生成失败"),
    ("tts_provider_first_audio", "tts", "TTS 首个音频"),
    ("tts_error", "tts", "TTS 生成失败"),
    ("session_error", "response", "会话运行失败"),
    ("first_audio", "playback", "开始播放"),
    ("playback_done", "playback", "播放完成")]

structure ChannelStage where
  label : String
  latencyMs : Int
  deriving DecidableEq, Repr

section Stages

variable {φ : Type} (py : Python) (floats : Floats φ)

def stageSemantic (event : RuntimeEvent) : String :=
  if event.type = "channel.turn.phase_changed" then py.strOr (event.payload.get "phase") ""
  else if event.type = "channel.turn.milestone" then py.strOr (event.payload.get "milestone") ""
  else ""

/-- One event of the loop over a turn's events, with the rows and the elapsed time so far. -/
def stageStep (state : List (String × ChannelStage) × φ) (event : RuntimeEvent) :
    Option (List (String × ChannelStage) × φ) :=
  match Dict.get channelStageMeta (stageSemantic py event) with
  | none => some state
  | some (key, label) => do
    let said := event.payload.get "elapsed_ms"
    let elapsed ← if said.truthy then floats.ofJson said else some state.2
    let difference ← floats.roundedDifference elapsed state.2
    let latency := max 0 difference
    let earlier := (Dict.get state.1 key).elim 0 ChannelStage.latencyMs
    return (Dict.set state.1 key { label, latencyMs := earlier + latency },
      floats.max state.2 elapsed)

def stageRows (events : List RuntimeEvent) : Option (List (String × ChannelStage)) :=
  (events.foldlM (stageStep py floats) ([], floats.zero)).map Prod.fst

def stageJson (status : String) (item : String × ChannelStage) : Json :=
  .obj [("key", .str item.1), ("label", .str item.2.label), ("status", .str status),
    ("latency_ms", .int item.2.latencyMs)]

def lastStageStatus (terminal : Option RuntimeEvent) (orphaned : Bool) : String :=
  if orphaned then "degraded"
  else match terminal with
    | none => "running"
    | some event =>
      match event.outcome with
      | .failure => "failed"
      | .denied => "degraded"
      | .success | .deferred => "done"

def channelTurnStages (rows : List (String × ChannelStage)) (terminal : Option RuntimeEvent)
    (orphaned : Bool) : List Json :=
  rows.dropLast.map (stageJson "done") ++
    rows.getLast?.toList.map (stageJson (lastStageStatus terminal orphaned))

def stageKey (stage : Json) : String := py.strOr (stage.get "key") ""

def mergeAgentStages (channelStages agentStages : List Json) : List Json :=
  if channelStages = [] then agentStages
  else channelStages ++ agentStages.filter fun stage =>
    stageKey py stage ∈ ["memory_recall", "tools", "memory_write"] ∧
      stageKey py stage ∉ channelStages.map (stageKey py)

end Stages

/-- `[str(item) for item in value or []]`, absent where the value cannot be iterated. -/
def iterated (py : Python) (value : Json) : Option (List String) :=
  if value.truthy then
    match value with
    | .arr items => some (items.map py.str)
    | .obj members => some ((Dict.index Prod.fst members).map Prod.fst)
    | .str text => some (text.toList.map fun letter => String.ofList [letter])
    | _ => none
  else some []

section Projection

variable {φ : Type} (py : Python) (floats : Floats φ)

def channelTurnOf (event : RuntimeEvent) : Option String :=
  if event.source = .channel ∧ event.type ∉ ["channel.session.ended", "channel.session.failed"] ∧
      "channel.turn.".toList <+: event.type.toList then
    filled (some (py.strOr (event.payload.get "channel_turn_id") (event.turnId.getD "")))
  else none

def boundaryRoomOf (event : RuntimeEvent) : Option String :=
  if event.source = .channel ∧ event.type ∈ ["channel.session.ended", "channel.session.failed"] then
    filled (some (py.strOr (event.payload.get "room_name") ""))
  else none

def grouped (events : List RuntimeEvent) : List (String × List RuntimeEvent) :=
  Dict.group (channelTurnOf py) events

def sessionBoundaries (events : List RuntimeEvent) : List (String × List RuntimeEvent) :=
  Dict.group (boundaryRoomOf py) events

def byTime (events : List RuntimeEvent) : List RuntimeEvent :=
  events.insertionSort fun a b => a.ts ≤ b.ts

def traceOf (channelTurnId : String) (ordered : List RuntimeEvent) : String :=
  (ordered.findSome? fun event => filled event.traceId).getD channelTurnId

def terminalOf (ordered : List RuntimeEvent) : Option RuntimeEvent :=
  ordered.reverse.find? fun event => event.type ∈ channelTerminalTypes

def roomOf (ordered : List RuntimeEvent) : String :=
  (ordered.find? fun event => (event.payload.get "room_name").truthy).elim ""
    fun event => py.str (event.payload.get "room_name")

/-- The end of the session that closes a turn without a terminal event. -/
def sessionBoundaryOf (events ordered : List RuntimeEvent) : Option RuntimeEvent :=
  if terminalOf ordered = none ∧ roomOf py ordered ≠ "" then
    ordered.getLast?.bind fun last =>
      (byTime ((Dict.get (sessionBoundaries py events) (roomOf py ordered)).getD [])).find?
        fun event => last.ts ≤ event.ts
  else none

def agentByTrace (agentTurns : List RuntimeTurn) (traceId : String) : Option RuntimeTurn :=
  Dict.get (Dict.index (fun turn => turn.traceId)
    (agentTurns.filter fun turn => (filled turn.traceId).isSome)) (some traceId)

def turnStatus (terminal boundary : Option RuntimeEvent) : String × RuntimeOutcome :=
  match terminal, boundary with
  | some event, _ => (py.strOr (event.payload.get "status") "completed", event.outcome)
  | none, some event =>
    (if event.type = "channel.session.failed" then "failed" else "orphaned", .failure)
  | none, none => ("running", .deferred)

def terminalReason (terminal boundary : Option RuntimeEvent) : String :=
  match terminal, boundary with
  | some event, _ => py.strOr (event.payload.get "terminal_reason") ""
  | none, some event =>
    if event.type = "channel.session.failed" then "session_failed_without_turn_terminal"
    else "session_ended_without_turn_terminal"
  | none, none => ""

def missingMilestones (terminal boundary : Option RuntimeEvent) : Option (List String) :=
  match terminal, boundary with
  | some event, _ => iterated py (event.payload.get "missing_milestones")
  | none, some _ => some ["terminal_event"]
  | none, none => some []

def latestPhase (ordered : List RuntimeEvent) : String :=
  (ordered.reverse.find? fun event => event.type = "channel.turn.phase_changed").elim ""
    fun event => py.strOr (event.payload.get "phase") ""

def latestConversation (ordered : List RuntimeEvent) : String :=
  (ordered.reverse.find? fun event => (event.payload.get "conversation_id").truthy).elim ""
    fun event => py.str (event.payload.get "conversation_id")

def channelTurn (events : List RuntimeEvent) (agentTurns : List RuntimeTurn) (channelTurnId : String)
    (ordered : List RuntimeEvent) : Option RuntimeTurn := do
  let traceId := traceOf channelTurnId ordered
  let agentTurn := agentByTrace agentTurns traceId
  let terminal := terminalOf ordered
  let boundary := sessionBoundaryOf py events ordered
  let status := turnStatus py terminal boundary
  let startedAt := ordered.head?.map RuntimeEvent.ts
  let finishedAt := (terminal.or boundary).map RuntimeEvent.ts
  let elapsedMs := startedAt.bind fun started => finishedAt.map fun finished =>
    floats.milliseconds (finished - started)
  let rows ← stageRows py floats ordered
  let missing ← missingMilestones py terminal boundary
  let stages := channelTurnStages rows terminal boundary.isSome
  let last := ordered.getLast?
  return {
    turnId := channelTurnId
    traceId := some traceId
    channelTurnId := some channelTurnId
    agentTurnId := agentTurn.bind RuntimeTurn.agentTurnId
    conversationId := agentTurn.elim (latestConversation py ordered) RuntimeTurn.conversationId
    runtimeSessionId := agentTurn.bind RuntimeTurn.runtimeSessionId
    ownerId := (filled (last.bind RuntimeEvent.ownerId)).getD (agentTurn.elim "" RuntimeTurn.ownerId)
    companionId :=
      (filled (last.bind RuntimeEvent.companionId)).getD (agentTurn.elim "" RuntimeTurn.companionId)
    deviceId := (ordered.findSome? fun event => filled event.deviceId).or
      (agentTurn.bind RuntimeTurn.deviceId)
    status := status.1
    trigger := "voice.full_duplex"
    startedAt
    finishedAt
    latencyMs := (elapsedMs.filter fun elapsed => elapsed ≠ 0).or (agentTurn.bind RuntimeTurn.latencyMs)
    memoryHits := agentTurn.elim 0 RuntimeTurn.memoryHits
    toolNames := agentTurn.elim [] RuntimeTurn.toolNames
    privacyMode := agentTurn.elim (some "safe") RuntimeTurn.privacyMode
    phase := latestPhase py ordered
    outcome := status.2
    terminalReason := terminalReason py terminal boundary
    eventIds := ordered.map RuntimeEvent.eventId ++ boundary.toList.map RuntimeEvent.eventId
    missingMilestones := missing
    stages := agentTurn.elim stages fun turn => mergeAgentStages py stages turn.stages }

/-- `used_agent_ids`: the Agent turns that some Channel turn carries the trace of. -/
def usedAgentIds (events : List RuntimeEvent) (agentTurns : List RuntimeTurn) : List String :=
  (grouped py events).filterMap fun item =>
    (agentByTrace agentTurns (traceOf item.1 (byTime item.2))).map RuntimeTurn.turnId

def startOf (turn : RuntimeTurn) : Instant := turn.startedAt.getD datetimeMin

def projectRuntimeTurns (events : List RuntimeEvent) (agentTurns : List RuntimeTurn) :
    Option (List RuntimeTurn) := do
  let rows ← (grouped py events).mapM fun item =>
    channelTurn py floats events agentTurns item.1 (byTime item.2)
  let own := agentTurns.filter fun turn => turn.turnId ∉ usedAgentIds py events agentTurns
  return (rows ++ own).insertionSort fun a b => startOf b ≤ startOf a

end Projection

end EidolonAdmin.MissionControl
