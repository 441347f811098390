import EidolonAdmin.Foundation.Paging
import EidolonAdmin.Foundation.Traverse
import EidolonAdmin.MissionControl.OwnerRuntime
import EidolonAdmin.MissionControl.Turns

/-! # The Owner's interaction history, a page at a time

`get_mission_control_activities`: a page is what the Agent answers for a cursor, projected as
the map projects it, and a full page names the time of its last row as the next cursor. A
result that is absent stands for an exception.
-/

namespace EidolonAdmin.MissionControl

open Foundation

/-- What the history takes from Python's `datetime`. -/
structure Datetimes where
  /-- `datetime.fromisoformat(value.replace("Z", "+00:00"))` in UTC. Inside, it is absent where
  the text is no time; outside, where the time leaves the years there are in UTC. -/
  fromIsoformat : String → Option (Option Instant)
  /-- `isoformat` of a UTC time with a final `Z` -/
  isoformat : Instant → String

/-! ## One row of the Agent's turn log -/

section Rows

variable (py : Python) (times : Datetimes)

/-- `value.get(name)`, absent where the value is no dictionary. -/
def getOf (value : Json) (name : String) : Option Json :=
  if value.isObject then some (value.get name) else none

/-- `value or fallback` -/
def orJson (value fallback : Json) : Json := if value.truthy then value else fallback

/-- `value.get(name) or {}` -/
def sectionOf (value : Json) (name : String) : Option Json :=
  (getOf value name).map fun found => orJson found (.obj [])

/-- `_str_or_none` -/
def strOrNone : Json → Option String
  | .null => none
  | value => filled (some (py.str value))

/-- `_parse_dt` -/
def parseDt : Json → Option (Option Instant)
  | .str words => if words = "" then some none else times.fromIsoformat words
  | _ => some none

def friendlyStatus (value : Json) : String :=
  let status := py.lower (py.strOr value "")
  if status ∈ ["ok", "done", "succeeded", "completed", "success"] then "已完成"
  else if status ∈ ["running", "processing", "in_progress"] then "进行中"
  else if status ∈ ["pending", "queued", "created"] then "排队中"
  else if status ∈ ["failed", "error", "errored", "timeout"] then "需要关注"
  else if status ∈ ["degraded", "warn", "warning"] then "部分可用"
  else if status = "info" then "有新信号"
  else py.strOr value "等待中"

def friendlyMemoryWrite (value : Json) : String :=
  let disposition := py.lower (py.strOr value "")
  if disposition ∈ ["write", "written", "accepted", "fanout"] then "允许写入"
  else if disposition ∈ ["ignore", "ignored", "skip", "skipped"] then "本轮不写入"
  else if disposition ∈ ["pending", "queued"] then "等待判断"
  else if disposition ∈ ["denied", "blocked", "private"] then "隐私保护"
  else py.strOr value "等待判断"

def friendlyFirstDelta (firstDelta : Option Int) (running : Bool) : String :=
  match firstDelta with
  | none => if running then "进行中" else "没有出声"
  | some elapsed => toString elapsed ++ " 毫秒后开口"

def rowStageStatus (row : Json) : String := stageStatus py (py.strOr (row.get "status") "")

def toolStageStatus (tools : Json) (running : Bool) : Option String :=
  if (tools.get "error_count").truthy then some "failed"
  else do
    let count ← py.int (orJson (tools.get "count") (.int 0))
    let ahead ← match tools.get "completed" with
      | .null => some false
      | completed => (py.int completed).map fun finished => decide (finished < count)
    return if ahead then "running"
      else if count ≠ 0 then "done"
      else if running then "pending" else "done"

def responseStageStatus (row : Json) (firstDelta : Option Int) (running : Bool) : String :=
  match firstDelta with
  | none => if running then "pending" else rowStageStatus py row
  | some _ => if running then "running" else rowStageStatus py row

def stage (key label status : String) (latencyMs : Json) : Json :=
  .obj [("key", .str key), ("label", .str label), ("status", .str status), ("latency_ms", latencyMs)]

def ofInt (value : Option Int) : Json := value.elim .null .int

def turnStages (row obs : Json) : Option (List Json) := do
  let memory ← sectionOf obs "memory"
  let write ← sectionOf obs "memory_write"
  let tools ← sectionOf obs "tools"
  let latency ← sectionOf obs "latency"
  let running := rowStageStatus py row = "running"
  let firstMs ← getOf latency "first_delta_ms"
  let firstDelta := py.int (orJson firstMs (row.get "latency_first_delta_ms"))
  let hits ← getOf memory "hit_count"
  let totalMs ← getOf latency "total_ms"
  let calls ← getOf tools "count"
  let toolStatus ← toolStageStatus py tools running
  let disposition ← getOf write "disposition"
  return [
    stage "input" "确认是谁在和哪个身体说话" "done" .null,
    stage "memory_recall" ("查找相关记忆：" ++ py.str (orJson hits (.int 0)) ++ " 条")
      (if (memory.get "degraded").truthy then "degraded"
        else if (memory.get "attempted").truthy then "done" else "pending") .null,
    stage "agent_turn" ("智能体处理这一轮：" ++ friendlyStatus py (row.get "status"))
      (rowStageStatus py row) (orJson totalMs (row.get "total_latency_ms")),
    stage "tools" ("调用工具或外部能力：" ++ py.str (orJson calls (.int 0)) ++ " 次") toolStatus
      (tools.get "total_latency_ms"),
    stage "response" ("开口回应：" ++ friendlyFirstDelta firstDelta running)
      (responseStageStatus py row firstDelta running) (ofInt firstDelta),
    stage "memory_write" ("决定是否写入长期记忆：" ++ friendlyMemoryWrite py disposition)
      (if (write.get "fanout_allowed").truthy then "done" else "pending") .null]

/-- `_BREAKDOWN` -/
def breakdownPhases : List (String × String) :=
  [("guard", "检查这句话能不能处理"), ("triage", "判断这轮怎么走"), ("compile", "组装上下文"),
    ("first_delta", "等到第一个字"), ("output", "把话说完")]

def measure (key label : String) (latencyMs : Option Int) : Json :=
  .obj [("key", .str key), ("label", .str label), ("latency_ms", ofInt latencyMs)]

def turnBreakdown (latency tools : Json) : Option (List Json) := do
  let count ← py.int (orJson (tools.get "count") (.int 0))
  let phases := breakdownPhases.map fun phase =>
    measure phase.1 phase.2 (py.int (latency.get (phase.1 ++ "_ms")))
  return if count ≠ 0 then
      phases ++ [measure "tools" ("调用工具（" ++ toString count ++ " 次）") (py.int (latency.get "tool_ms"))]
    else phases

/-- `_turn` -/
def turn (row : Json) : Option RuntimeTurn := do
  let obs := orJson (row.get "observability_summary") (.obj [])
  let memory ← sectionOf obs "memory"
  let tools ← sectionOf obs "tools"
  let latency ← sectionOf obs "latency"
  let stages ← turnStages py row obs
  let startedAt ← parseDt times (row.get "started_at")
  let finishedAt ← parseDt times (row.get "finished_at")
  let totalMs ← getOf latency "total_ms"
  let hits ← getOf memory "hit_count"
  let memoryHits ← py.int (orJson hits (.int 0))
  let names ← getOf tools "names"
  let toolNames ← iterated py names
  let breakdown ← turnBreakdown py latency tools
  return {
    turnId := py.strOr (row.get "turn_id") ""
    traceId := strOrNone py (row.get "trace_id")
    agentTurnId := some (py.strOr (row.get "turn_id") "")
    conversationId := py.strOr (row.get "conversation_id") ""
    runtimeSessionId := strOrNone py (row.get "runtime_session_id")
    ownerId := py.strOr (row.get "owner_id") ""
    companionId := py.strOr (row.get "companion_id") ""
    deviceId := strOrNone py (row.get "device_id")
    status := py.strOr (row.get "status") "unknown"
    trigger := py.strOr (row.get "trigger") ""
    startedAt
    finishedAt
    latencyMs := py.int (orJson totalMs (row.get "total_latency_ms"))
    memoryHits
    toolNames
    privacyMode := strOrNone py (obs.get "privacy_mode")
    phase := "agent_turn"
    outcome :=
      if py.lower (py.strOr (row.get "status") "") ∈ ["failed", "errored", "error"] then .failure
      else .success
    stages
    breakdown }

end Rows

/-! ## One page -/

section Pages

variable (py : Python) (times : Datetimes)

abbrev AgentAnswer := Except String Json

/-- `_agent_turns`: the rows, and the detail of the ledger's row unless the read went well. -/
def agentTurns : AgentAnswer → List Json × Option String
  | .error detail => ([], some detail)
  | .ok body =>
    match body.get "turns" with
    | .arr items => (items.filter Json.isObject, none)
    | _ => ([], none)

structure ActivityPage where
  activities : List RuntimeActivity
  cursor : Option String
  failure : String

def cursorAfter (limit : Nat) (rows : List Json) (activities : List RuntimeActivity) : Option String :=
  if rows.length = limit then
    activities.getLast?.bind fun oldest => oldest.startedAt.map times.isoformat
  else none

/-- `owner_activity_page`, for what the Agent answers to its request. -/
def ownerActivityPage (answer : AgentAnswer) (limit : Nat) : Option ActivityPage := do
  let read := agentTurns answer
  let turns ← read.1.mapM (turn py times)
  let activities := turns.map (voiceActivity py)
  return { activities
           cursor := cursorAfter times limit read.1 activities
           failure := read.2.getD "" }

structure HistoryPage where
  contractVersion : String
  coverage : String
  state : String
  detail : String
  items : List OwnerActivity
  nextCursor : Option String

def historyCoverage : String := "owner-interactions"

def ownerActivityHistory (contract : Contract) (activities : List RuntimeActivity)
    (nextBefore : Option String) (failure : String) : HistoryPage where
  contractVersion := contract.version
  coverage := historyCoverage
  state := if failure ≠ "" then "unavailable" else "ok"
  detail := failure
  items := if failure ≠ "" then [] else activities.map ownerActivity
  nextCursor := filled nextBefore

def clampedLimit (limit : Int) : Nat := (max 1 (min limit 100)).toNat

/-- `get_mission_control_activities`, where `agent` answers a cursor and a size. An empty cursor
is not passed on. -/
def getMissionControlActivities (contract : Contract) (agent : Option String → Nat → AgentAnswer)
    (before : Option String) (limit : Int) : Option HistoryPage := do
  let size := clampedLimit limit
  let page ← ownerActivityPage py times (agent (filled before) size) size
  return ownerActivityHistory contract page.activities page.cursor page.failure

end Pages

/-! ## A whole log -/

structure LoggedTurn (τ : Type) where
  startedAt : τ
  row : Json

section Log

variable (py : Python) (times : Datetimes)

def rowCursor (row : Json) : Option String :=
  filled ((turn py times row).bind fun turn => turn.startedAt.map times.isoformat)

def activityOf (row : Json) : Option OwnerActivity :=
  (turn py times row).map fun turn => ownerActivity (voiceActivity py turn)

/-- An Owner's turn log as the Agent keeps it, with the time it reads a cursor as. A time that
a row states and that can be read is not later than the Agent's own. -/
structure TurnLog (τ : Type) [LinearOrder τ] where
  turns : List (LoggedTurn τ)
  cursorAt : String → τ
  newestFirst : Paging.Descending LoggedTurn.startedAt turns
  objects : ∀ turn ∈ turns, turn.row.isObject = true
  stamped : ∀ turn ∈ turns, ∀ cursor, rowCursor py times turn.row = some cursor →
    cursorAt cursor ≤ turn.startedAt

variable {py times} {τ : Type} [LinearOrder τ]

namespace TurnLog

def page (log : TurnLog py times τ) (before : Option String) (limit : Nat) : List (LoggedTurn τ) :=
  Paging.page LoggedTurn.startedAt log.turns limit (before.map log.cursorAt)

/-- What the Agent answers: at most `limit` turns, newest first, strictly before the cursor. -/
def answer (log : TurnLog py times τ) (before : Option String) (limit : Nat) : AgentAnswer :=
  .ok (.obj [("turns", .arr ((log.page before limit).map LoggedTurn.row))])

def cursorOf (log : TurnLog py times τ) (turn : LoggedTurn τ) : Option τ :=
  (rowCursor py times turn.row).map log.cursorAt

/-- What a client gets that follows `next_cursor` from `before` on until it is absent. -/
inductive Yields (contract : Contract) (log : TurnLog py times τ) (limit : Int) :
    Option String → List OwnerActivity → Prop
  | last {before : Option String} {page : HistoryPage}
      (hPage : getMissionControlActivities py times contract log.answer before limit = some page)
      (hStop : page.nextCursor = none) : Yields contract log limit before page.items
  | more {before : Option String} {page : HistoryPage} {cursor : String} {rest : List OwnerActivity}
      (hPage : getMissionControlActivities py times contract log.answer before limit = some page)
      (hNext : page.nextCursor = some cursor) (hRest : Yields contract log limit (some cursor) rest) :
      Yields contract log limit before (page.items ++ rest)

def Complete (contract : Contract) (log : TurnLog py times τ) (limit : Int) : Prop :=
  ∃ items, Yields contract log limit none items ∧
    (items.map some).Perm (log.turns.map fun turn => activityOf py times turn.row)

/-- Every row can be projected, and wherever a full page ends before the log does, its last row
states a readable time that the next turn is strictly earlier than. -/
structure Pageable (log : TurnLog py times τ) (limit : Nat) : Prop where
  readable : ∀ turn ∈ log.turns, (MissionControl.turn py times turn.row).isSome = true
  separated : Paging.Separated LoggedTurn.startedAt log.cursorOf limit log.turns

variable {contract : Contract} {log : TurnLog py times τ} {limit : Int}

theorem agentTurns_answer (before : Option String) (size : Nat) :
    agentTurns (log.answer before size) = ((log.page before size).map LoggedTurn.row, none) := by
  have hObjects : ((log.page before size).map LoggedTurn.row).filter Json.isObject =
      (log.page before size).map LoggedTurn.row := by
    rw [List.filter_eq_self]
    intro row hRow
    obtain ⟨turn, hTurn, rfl⟩ := List.mem_map.mp hRow
    exact log.objects turn ((Paging.remaining_sublist _).subset (List.mem_of_mem_take hTurn))
  simp only [agentTurns, answer, Json.get, Json.get?]
  simp [hObjects]

theorem getActivities_eq (before : Option String) (hBefore : filled before = before) :
    getMissionControlActivities py times contract log.answer before limit =
      (((log.page before (clampedLimit limit)).map LoggedTurn.row).mapM (turn py times)).map
        fun turns => ownerActivityHistory contract (turns.map (voiceActivity py))
          (cursorAfter times (clampedLimit limit)
            ((log.page before (clampedLimit limit)).map LoggedTurn.row)
            (turns.map (voiceActivity py))) "" := by
  unfold getMissionControlActivities ownerActivityPage
  rw [hBefore]
  simp only [agentTurns_answer]
  cases ((log.page before (clampedLimit limit)).map LoggedTurn.row).mapM (turn py times) <;> rfl

structure PageOf (log : TurnLog py times τ) (rows : List (LoggedTurn τ)) (size : Nat) (page : HistoryPage) :
    Prop where
  items : page.items.map some = rows.map fun turn => activityOf py times turn.row
  readable : ∀ turn ∈ rows, (MissionControl.turn py times turn.row).isSome = true
  nextCursor : page.nextCursor.map log.cursorAt = Paging.next log.cursorOf size rows
  filled : filled page.nextCursor = page.nextCursor

theorem filled_filled (text : Option String) : filled (filled text) = filled text := by
  simp [filled, Option.filter_filter]

theorem cursorAfter_eq {rows : List Json} {turns : List RuntimeTurn} {size : Nat}
    (hTurns : rows.mapM (MissionControl.turn py times) = some turns) :
    MissionControl.filled (cursorAfter times size rows (turns.map (voiceActivity py))) =
      if rows.length = size then rows.getLast?.bind (rowCursor py times) else none := by
  have hLast : rows.getLast?.map (MissionControl.turn py times) = turns.getLast?.map some := by
    rw [← List.getLast?_map, ← List.getLast?_map, Traverse.map_eq_of_mapM hTurns]
  unfold cursorAfter
  split
  · rw [List.getLast?_map]
    cases hRow : rows.getLast? with
    | none =>
      have hNone : turns.getLast? = none := by simpa [hRow] using hLast.symm
      simp [hNone, MissionControl.filled]
    | some row =>
      rw [hRow] at hLast
      obtain ⟨last, hLastTurn, hTurn⟩ := Option.map_eq_some_iff.mp hLast.symm
      simp only [hLastTurn, Option.map_some, Option.bind_some, rowCursor, ← hTurn]
      rfl
  · rfl

theorem pageOf_getActivities {before : Option String} (hBefore : MissionControl.filled before = before)
    {page : HistoryPage}
    (hPage : getMissionControlActivities py times contract log.answer before limit = some page) :
    PageOf log (log.page before (clampedLimit limit)) (clampedLimit limit) page := by
  rw [getActivities_eq before hBefore] at hPage
  obtain ⟨turns, hTurns, rfl⟩ := Option.map_eq_some_iff.mp hPage
  have hRows := Traverse.map_eq_of_mapM hTurns
  refine ⟨?_, fun turn hTurn => ?_, ?_, filled_filled _⟩
  · have hItems : ((log.page before (clampedLimit limit)).map LoggedTurn.row).map (activityOf py times) =
        turns.map fun turn => some (ownerActivity (voiceActivity py turn)) := by
      have := congrArg (List.map (Option.map fun turn => ownerActivity (voiceActivity py turn))) hRows
      simpa [activityOf, Function.comp_def] using this
    rw [List.map_map] at hItems
    simpa [ownerActivityHistory, Function.comp_def] using hItems.symm
  · exact Traverse.isSome_of_mapM hTurns turn.row (List.mem_map_of_mem hTurn)
  · show (MissionControl.filled _).map log.cursorAt = _
    rw [cursorAfter_eq hTurns, List.length_map, Paging.next, List.getLast?_map]
    split
    · cases (log.page before (clampedLimit limit)).getLast? <;> rfl
    · rfl

theorem exists_page (contract : Contract) {before : Option String} (hBefore : MissionControl.filled before = before)
    (h : ∀ turn ∈ log.page before (clampedLimit limit),
      (MissionControl.turn py times turn.row).isSome = true) :
    ∃ page, getMissionControlActivities py times contract log.answer before limit = some page := by
  rw [getActivities_eq before hBefore, Traverse.mapM_eq_filterMap]
  · exact ⟨_, rfl⟩
  · intro row hRow
    obtain ⟨turn, hTurn, rfl⟩ := List.mem_map.mp hRow
    exact h turn hTurn

theorem Yields.paged {before : Option String} {items : List OwnerActivity}
    (h : Yields contract log limit before items) (hBefore : MissionControl.filled before = before) :
    ∃ seen, Paging.Yields LoggedTurn.startedAt log.cursorOf log.turns (clampedLimit limit)
        (before.map log.cursorAt) seen ∧
      (items.map some = seen.map fun turn => activityOf py times turn.row) ∧
      ∀ turn ∈ seen, (MissionControl.turn py times turn.row).isSome = true := by
  induction h with
  | last hPage hStop =>
    have hOf := pageOf_getActivities hBefore hPage
    refine ⟨_, .last ?_, hOf.items, hOf.readable⟩
    rw [← page, ← hOf.nextCursor, hStop]
    rfl
  | @more before page cursor rest hPage hNext hRest ih =>
    have hOf := pageOf_getActivities hBefore hPage
    have hFilled := hOf.filled
    rw [hNext] at hFilled
    obtain ⟨seen, hSeen, hItems, hReadable⟩ := ih hFilled
    refine ⟨_, .more ?_ hSeen, ?_, ?_⟩
    · rw [← TurnLog.page, ← hOf.nextCursor, hNext]
      rfl
    · rw [List.map_append, List.map_append, hItems, hOf.items]
      rfl
    · intro turn hTurn
      rcases List.mem_append.mp hTurn with hTurn | hTurn
      · exact hOf.readable turn hTurn
      · exact hReadable turn hTurn

theorem exists_yields (contract : Contract) (hReadable : ∀ turn ∈ log.turns, (MissionControl.turn py times turn.row).isSome = true)
    {bound : Option τ} {seen : List (LoggedTurn τ)}
    (h : Paging.Yields LoggedTurn.startedAt log.cursorOf log.turns (clampedLimit limit) bound seen)
    (before : Option String) (hBefore : MissionControl.filled before = before)
    (hBound : before.map log.cursorAt = bound) :
    ∃ items, Yields contract log limit before items ∧
      items.map some = seen.map fun turn => activityOf py times turn.row := by
  have hPages : ∀ before, ∀ turn ∈ log.page before (clampedLimit limit),
      (MissionControl.turn py times turn.row).isSome = true := fun before turn hTurn =>
    hReadable turn ((Paging.remaining_sublist _).subset (List.mem_of_mem_take hTurn))
  induction h generalizing before with
  | last hStop =>
    subst hBound
    obtain ⟨page, hPage⟩ := exists_page contract hBefore (hPages before)
    have hOf := pageOf_getActivities hBefore hPage
    refine ⟨page.items, .last hPage ?_, hOf.items⟩
    have hNone := hOf.nextCursor
    rw [TurnLog.page, hStop] at hNone
    exact Option.map_eq_none_iff.mp hNone
  | more hNext hRest ih =>
    subst hBound
    obtain ⟨page, hPage⟩ := exists_page contract hBefore (hPages before)
    have hOf := pageOf_getActivities hBefore hPage
    have hSome := hOf.nextCursor
    rw [TurnLog.page, hNext] at hSome
    obtain ⟨cursor, hCursor, hAt⟩ := Option.map_eq_some_iff.mp hSome
    have hFilled := hOf.filled
    rw [hCursor] at hFilled
    obtain ⟨items, hYields, hItems⟩ := ih _ hFilled (congrArg some hAt)
    refine ⟨page.items ++ items, .more hPage hCursor hYields, ?_⟩
    rw [List.map_append, List.map_append, hItems, hOf.items]
    rfl

theorem clampedLimit_eq (hOne : 1 ≤ limit) (hMost : limit ≤ 100) : clampedLimit limit = limit.toNat := by
  unfold clampedLimit
  congr 1
  omega

theorem cursorOf_le (log : TurnLog py times τ) :
    ∀ turn ∈ log.turns, ∀ bound, log.cursorOf turn = some bound → bound ≤ turn.startedAt := by
  intro turn hTurn bound hBound
  obtain ⟨cursor, hCursor, rfl⟩ := Option.map_eq_some_iff.mp hBound
  exact log.stamped turn hTurn cursor hCursor

theorem Complete.pageable (hOne : 1 ≤ limit) (hMost : limit ≤ 100) (h : log.Complete contract limit) :
    log.Pageable limit.toNat := by
  have hPos : 0 < limit.toNat := by omega
  obtain ⟨items, hYields, hPerm⟩ := h
  obtain ⟨seen, hSeen, hItems, hReadable⟩ := hYields.paged rfl
  rw [clampedLimit_eq hOne hMost] at hSeen
  have hLength : seen.length = log.turns.length := by
    have h := hPerm.length_eq
    rw [hItems] at h
    simpa using h
  -- what is yielded is a sublist of the log, so equal lengths make it the log
  have hSub := (hSeen.sublist_remaining log.newestFirst hPos log.cursorOf_le).1
  rw [Option.map_none, Paging.remaining_none] at hSub
  obtain rfl := hSub.eq_of_length hLength
  exact ⟨hReadable, (Paging.yields_all_iff log.newestFirst hPos log.cursorOf_le).mp ⟨_, hSeen, rfl⟩⟩

theorem Pageable.complete (hOne : 1 ≤ limit) (hMost : limit ≤ 100) (h : log.Pageable limit.toNat) :
    log.Complete contract limit := by
  have hPos : 0 < limit.toNat := by omega
  obtain ⟨seen, hSeen, hLength⟩ :=
    (Paging.yields_all_iff log.newestFirst hPos log.cursorOf_le).mpr h.separated
  have hSub := (hSeen.sublist_remaining log.newestFirst hPos log.cursorOf_le).1
  rw [Paging.remaining_none] at hSub
  obtain rfl := hSub.eq_of_length hLength
  rw [← clampedLimit_eq hOne hMost] at hSeen
  obtain ⟨items, hYields, hItems⟩ := exists_yields contract h.readable hSeen none rfl rfl
  exact ⟨items, hYields, .of_eq hItems⟩

/-- Following `next_cursor` yields every turn of the log exactly once, exactly when every row can
be projected and neither turns with one time nor an unreadable time stand at the end of a full page
with more to come. -/
theorem history_complete_iff (contract : Contract) (log : TurnLog py times τ) (limit : Int)
    (hOne : 1 ≤ limit) (hMost : limit ≤ 100) :
    log.Complete contract limit ↔ log.Pageable limit.toNat :=
  ⟨Complete.pageable hOne hMost, Pageable.complete hOne hMost⟩

end TurnLog

end Log

/-! ## Two turns -/

namespace TwoTurns

def python : Python where
  lower := id
  strip := id
  str
    | .str words => words
    | .int 0 => "0"
    | _ => ""
  int
    | .int value => some value
    | _ => none

def newYear : Instant := 1767225600000000

def secondLater : Instant := 1767225601000000

def datetimes : Datetimes where
  fromIsoformat
    | "2026-01-01T00:00:00Z" => some (some newYear)
    | "2026-01-01T00:00:01Z" => some (some secondLater)
    | _ => some none
  isoformat instant :=
    if instant = newYear then "2026-01-01T00:00:00Z"
    else if instant = secondLater then "2026-01-01T00:00:01Z" else ""

def contract : Contract where
  version := "1"
  snapshotCoverage := ""
  presenceSources := []
  presenceStates := []
  roleKinds := []
  presenceSourceNone := ""
  presenceOnline := ""
  presenceUnknown := ""

def row (turnId startedAt : String) : Json :=
  .obj [("turn_id", .str turnId), ("started_at", .str startedAt)]

def readCursor (cursor : String) : Instant :=
  if cursor = "2026-01-01T00:00:00Z" then newYear else secondLater

theorem rowCursor_row (turnId : String) :
    rowCursor python datetimes (row turnId "2026-01-01T00:00:00Z") = some "2026-01-01T00:00:00Z" ∧
      rowCursor python datetimes (row turnId "2026-01-01T00:00:01Z") = some "2026-01-01T00:00:01Z" :=
  ⟨rfl, rfl⟩

def together : TurnLog python datetimes Instant where
  turns := [⟨newYear, row "turn-2" "2026-01-01T00:00:00Z"⟩, ⟨newYear, row "turn-1" "2026-01-01T00:00:00Z"⟩]
  cursorAt := readCursor
  newestFirst := by simp [Paging.Descending]
  objects := by simp [row, Json.isObject]
  stamped := by
    intro turn hTurn cursor hCursor
    simp only [List.mem_cons, List.not_mem_nil, or_false] at hTurn
    rcases hTurn with rfl | rfl <;>
    · rw [(rowCursor_row _).1] at hCursor
      cases hCursor
      exact le_of_eq rfl

/-- With one turn to a page the second of two turns with one time never comes. -/
theorem second_turn_never_comes : ¬ together.Complete contract 1 := by
  intro h
  obtain ⟨bound, hBound, hBelow⟩ := (h.pageable (by decide) (by decide)).separated 0 _ _ rfl rfl
  obtain ⟨cursor, hCursor, rfl⟩ := Option.map_eq_some_iff.mp hBound
  rw [(rowCursor_row _).1] at hCursor
  cases hCursor
  exact lt_irrefl newYear hBelow

def apart : TurnLog python datetimes Instant where
  turns := [⟨secondLater, row "turn-2" "2026-01-01T00:00:01Z"⟩, ⟨newYear, row "turn-1" "2026-01-01T00:00:00Z"⟩]
  cursorAt := readCursor
  newestFirst := by simp [Paging.Descending, newYear, secondLater]
  objects := by simp [row, Json.isObject]
  stamped := by
    intro turn hTurn cursor hCursor
    simp only [List.mem_cons, List.not_mem_nil, or_false] at hTurn
    rcases hTurn with rfl | rfl
    · rw [(rowCursor_row _).2] at hCursor
      cases hCursor
      decide
    · rw [(rowCursor_row _).1] at hCursor
      cases hCursor
      decide

theorem pageable_apart : apart.Pageable 1 where
  readable := by
    intro turn hTurn
    simp only [apart, List.mem_cons, List.not_mem_nil, or_false] at hTurn
    rcases hTurn with rfl | rfl <;> rfl
  separated := by
    intro k last following hLast hFollowing
    cases k with
    | zero =>
      cases hLast
      cases hFollowing
      exact ⟨secondLater, rfl, by decide⟩
    | succ k =>
      obtain ⟨hLt, _⟩ := List.getElem?_eq_some_iff.mp hFollowing
      simp only [apart, List.length_cons, List.length_nil] at hLt
      omega

theorem history_complete_apart : apart.Complete contract 1 :=
  (TurnLog.history_complete_iff contract apart 1 (by decide) (by decide)).mpr pageable_apart

end TwoTurns

end EidolonAdmin.MissionControl
