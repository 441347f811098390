import EidolonAdmin.Foundation.Traverse
import EidolonAdmin.MissionControl.Turns

/-! # Which turns the projection conserves

Every Channel turn has one row. An Agent turn is there once unless several Channel turns
carry its trace, which each take it for themselves.
-/

namespace EidolonAdmin.MissionControl

open Foundation

/-! ## The events of one turn -/

section Ordered

variable (py : Python)

def orderedEvents (events : List RuntimeEvent) (channelTurnId : String) : List RuntimeEvent :=
  byTime (events.filter fun event => channelTurnOf py event = some channelTurnId)

def OccursIn (events : List RuntimeEvent) (channelTurnId : String) : Prop :=
  ∃ event ∈ events, channelTurnOf py event = some channelTurnId

def carriedTrace (events : List RuntimeEvent) (channelTurnId : String) : String :=
  traceOf channelTurnId (orderedEvents py events channelTurnId)

def channelTurnIds (events : List RuntimeEvent) : List String := (grouped py events).map Prod.fst

theorem nodup_channelTurnIds (events : List RuntimeEvent) : (channelTurnIds py events).Nodup :=
  Dict.nodup_group _ events

theorem mem_channelTurnIds {events : List RuntimeEvent} {channelTurnId : String} :
    channelTurnId ∈ channelTurnIds py events ↔ OccursIn py events channelTurnId :=
  Dict.mem_keys_group _

theorem byTime_perm (events : List RuntimeEvent) : (byTime events).Perm events :=
  List.perm_insertionSort _ events

theorem pairwise_byTime (events : List RuntimeEvent) :
    (byTime events).Pairwise fun a b => a.ts ≤ b.ts := by
  have : Std.Total fun a b : RuntimeEvent => a.ts ≤ b.ts := ⟨fun a b => le_total a.ts b.ts⟩
  have : IsTrans RuntimeEvent fun a b => a.ts ≤ b.ts := ⟨fun _ _ _ => le_trans⟩
  exact List.pairwise_insertionSort _ events

theorem byTime_eq_of_perm {events events' : List RuntimeEvent} (hPerm : events.Perm events')
    (hTimes : (events.map RuntimeEvent.ts).Nodup) : byTime events = byTime events' := by
  refine List.Perm.eq_of_pairwise ?_ (pairwise_byTime events) (pairwise_byTime events')
    ((byTime_perm events).trans (hPerm.trans (byTime_perm events').symm))
  intro a b hA hB hLe hGe
  have hMemA : a ∈ events := (byTime_perm events).mem_iff.mp hA
  have hMemB : b ∈ events := hPerm.mem_iff.mpr ((byTime_perm events').mem_iff.mp hB)
  exact List.inj_on_of_nodup_map hTimes hMemA hMemB (le_antisymm hLe hGe)

theorem nodup_times_filter {events : List RuntimeEvent} (h : (events.map RuntimeEvent.ts).Nodup)
    (p : RuntimeEvent → Bool) : ((events.filter p).map RuntimeEvent.ts).Nodup :=
  h.sublist (List.filter_sublist.map _)

theorem orderedEvents_eq_of_perm {events events' : List RuntimeEvent} (hPerm : events.Perm events')
    (hTimes : (events.map RuntimeEvent.ts).Nodup) (channelTurnId : String) :
    orderedEvents py events channelTurnId = orderedEvents py events' channelTurnId :=
  byTime_eq_of_perm (hPerm.filter _) (nodup_times_filter hTimes _)

theorem sessionBoundaryOf_eq_of_perm {events events' : List RuntimeEvent} (hPerm : events.Perm events')
    (hTimes : (events.map RuntimeEvent.ts).Nodup) (ordered : List RuntimeEvent) :
    sessionBoundaryOf py events ordered = sessionBoundaryOf py events' ordered := by
  have hBoundaries : ∀ room, byTime ((Dict.get (sessionBoundaries py events) room).getD []) =
      byTime ((Dict.get (sessionBoundaries py events') room).getD []) := by
    intro room
    unfold sessionBoundaries
    rw [Dict.getD_get_group, Dict.getD_get_group]
    exact byTime_eq_of_perm (hPerm.filter _) (nodup_times_filter hTimes _)
  unfold sessionBoundaryOf
  rw [hBoundaries]

theorem head_le_of_mem {events : List RuntimeEvent} {event : RuntimeEvent} (h : event ∈ byTime events) :
    ∃ first, (byTime events).head? = some first ∧ first.ts ≤ event.ts := by
  have hSorted := pairwise_byTime events
  cases hOrdered : byTime events with
  | nil => exact absurd h (by simp [hOrdered])
  | cons first rest =>
    refine ⟨first, rfl, ?_⟩
    rw [hOrdered] at h hSorted
    obtain rfl | hRest := List.mem_cons.mp h
    · exact le_refl _
    · exact (List.pairwise_cons.mp hSorted).1 event hRest

/-- The event that closes a turn does not come before its first one. -/
theorem head_le_closing {events group : List RuntimeEvent} {closing : RuntimeEvent}
    (h : (terminalOf (byTime group)).or (sessionBoundaryOf py events (byTime group)) = some closing) :
    ∃ first, (byTime group).head? = some first ∧ first.ts ≤ closing.ts := by
  cases hTerminal : terminalOf (byTime group) with
  | some terminal =>
    rw [hTerminal, Option.some_or, Option.some.injEq] at h
    subst h
    exact head_le_of_mem (List.mem_reverse.mp (List.mem_of_find?_eq_some hTerminal))
  | none =>
    rw [hTerminal, Option.none_or, sessionBoundaryOf] at h
    by_cases hOpen : terminalOf (byTime group) = none ∧ roomOf py (byTime group) ≠ ""
    · rw [if_pos hOpen] at h
      obtain ⟨last, hLast, hFound⟩ := Option.bind_eq_some_iff.mp h
      obtain ⟨first, hFirst, hLe⟩ := head_le_of_mem (List.mem_of_getLast? hLast)
      have hAfter := List.find?_some hFound
      exact ⟨first, hFirst, hLe.trans (of_decide_eq_true hAfter)⟩
    · rw [if_neg hOpen] at h
      exact absurd h (by simp)

end Ordered

/-! ## The row of one turn -/

section Row

variable {φ : Type} (py : Python) (floats : Floats φ) (events : List RuntimeEvent)
  (agentTurns : List RuntimeTurn)

def ReadableTurn (channelTurnId : String) : Prop :=
  (stageRows py floats (orderedEvents py events channelTurnId)).isSome ∧
    (missingMilestones py (terminalOf (orderedEvents py events channelTurnId))
      (sessionBoundaryOf py events (orderedEvents py events channelTurnId))).isSome

def rowOf (channelTurnId : String) : Option RuntimeTurn :=
  channelTurn py floats events agentTurns channelTurnId (orderedEvents py events channelTurnId)

theorem isSome_rowOf (channelTurnId : String) :
    (rowOf py floats events agentTurns channelTurnId).isSome ↔ ReadableTurn py floats events channelTurnId := by
  unfold rowOf channelTurn ReadableTurn
  cases stageRows py floats (orderedEvents py events channelTurnId) with
  | none => simp
  | some rows =>
    cases hMissing : missingMilestones py (terminalOf (orderedEvents py events channelTurnId))
        (sessionBoundaryOf py events (orderedEvents py events channelTurnId)) with
    | none => simp [hMissing]
    | some missing => simp [hMissing]

theorem rowOf_eq_some {channelTurnId : String} {row : RuntimeTurn}
    (h : rowOf py floats events agentTurns channelTurnId = some row) :
    row.channelTurnId = some channelTurnId ∧
      row.traceId = some (carriedTrace py events channelTurnId) ∧
      row.agentTurnId =
        (agentByTrace agentTurns (carriedTrace py events channelTurnId)).bind RuntimeTurn.agentTurnId ∧
      row.startedAt = (orderedEvents py events channelTurnId).head?.map RuntimeEvent.ts ∧
      row.finishedAt = ((terminalOf (orderedEvents py events channelTurnId)).or
        (sessionBoundaryOf py events (orderedEvents py events channelTurnId))).map RuntimeEvent.ts := by
  unfold rowOf channelTurn at h
  obtain ⟨rows, -, h⟩ := Option.bind_eq_some_iff.mp h
  obtain ⟨missing, -, h⟩ := Option.bind_eq_some_iff.mp h
  rw [Option.pure_def, Option.some.injEq] at h
  subst h
  exact ⟨rfl, rfl, rfl, rfl, rfl⟩

theorem finished_of_rowOf {channelTurnId : String} {row : RuntimeTurn} {finished : Instant}
    (h : rowOf py floats events agentTurns channelTurnId = some row)
    (hFinished : row.finishedAt = some finished) :
    ∃ started, row.startedAt = some started ∧ started ≤ finished := by
  obtain ⟨-, -, -, hStart, hFinish⟩ := rowOf_eq_some py floats events agentTurns h
  rw [hFinish] at hFinished
  obtain ⟨closing, hClosing, rfl⟩ := Option.map_eq_some_iff.mp hFinished
  obtain ⟨first, hFirst, hLe⟩ := head_le_closing py hClosing
  refine ⟨first.ts, ?_, hLe⟩
  rw [hStart, orderedEvents, hFirst]
  rfl

theorem rowOf_eq_of_perm {events' : List RuntimeEvent} (hPerm : events.Perm events')
    (hTimes : (events.map RuntimeEvent.ts).Nodup) (channelTurnId : String) :
    rowOf py floats events agentTurns channelTurnId = rowOf py floats events' agentTurns channelTurnId := by
  unfold rowOf channelTurn
  rw [orderedEvents_eq_of_perm py hPerm hTimes, sessionBoundaryOf_eq_of_perm py hPerm hTimes]

def ownRows : List RuntimeTurn :=
  agentTurns.filter fun turn => turn.turnId ∉ usedAgentIds py events agentTurns

theorem mem_usedAgentIds {turnId : String} :
    turnId ∈ usedAgentIds py events agentTurns ↔
      ∃ channelTurnId ∈ channelTurnIds py events, ∃ turn,
        agentByTrace agentTurns (carriedTrace py events channelTurnId) = some turn ∧ turn.turnId = turnId := by
  simp only [usedAgentIds, List.mem_filterMap, channelTurnIds, List.mem_map, Option.map_eq_some_iff]
  constructor
  · rintro ⟨item, hItem, turn, hTurn, rfl⟩
    refine ⟨item.1, ⟨item, hItem, rfl⟩, turn, ?_, rfl⟩
    rwa [Dict.rows_of_mem_group _ hItem] at hTurn
  · rintro ⟨_, ⟨item, hItem, rfl⟩, turn, hTurn, rfl⟩
    refine ⟨item, hItem, turn, ?_, rfl⟩
    rwa [Dict.rows_of_mem_group _ hItem]

theorem mapM_grouped :
    ((grouped py events).mapM fun item =>
      channelTurn py floats events agentTurns item.1 (byTime item.2)) =
      (channelTurnIds py events).mapM (rowOf py floats events agentTurns) := by
  refine Traverse.mapM_eq_map_mapM fun item hItem => ?_
  rw [Dict.rows_of_mem_group _ hItem]
  rfl

theorem projectRuntimeTurns_eq_some {rows : List RuntimeTurn}
    (h : projectRuntimeTurns py floats events agentTurns = some rows) :
    (∀ channelTurnId ∈ channelTurnIds py events, ReadableTurn py floats events channelTurnId) ∧
      rows.Perm ((channelTurnIds py events).filterMap (rowOf py floats events agentTurns) ++
        ownRows py events agentTurns) := by
  unfold projectRuntimeTurns at h
  rw [mapM_grouped] at h
  obtain ⟨channelRows, hRows, h⟩ := Option.bind_eq_some_iff.mp h
  rw [Option.pure_def, Option.some.injEq] at h
  have hSome := Traverse.isSome_of_mapM hRows
  rw [Traverse.eq_filterMap_of_mapM hRows] at h
  refine ⟨fun channelTurnId hId => (isSome_rowOf py floats events agentTurns _).mp (hSome _ hId), ?_⟩
  rw [← h]
  exact List.perm_insertionSort _ _

theorem exists_projectRuntimeTurns
    (h : ∀ channelTurnId ∈ channelTurnIds py events, ReadableTurn py floats events channelTurnId) :
    ∃ rows, projectRuntimeTurns py floats events agentTurns = some rows := by
  have hSome : ∀ channelTurnId ∈ channelTurnIds py events,
      (rowOf py floats events agentTurns channelTurnId).isSome :=
    fun channelTurnId hId => (isSome_rowOf py floats events agentTurns _).mpr (h _ hId)
  unfold projectRuntimeTurns
  rw [mapM_grouped, Traverse.mapM_eq_filterMap hSome]
  exact ⟨_, rfl⟩

end Row

/-! ## The Agent's turns -/

structure AgentTurn where
  turn : RuntimeTurn
  channelTurnId : turn.channelTurnId = none
  agentTurnId : turn.agentTurnId = some turn.turnId

structure DistinctAgents (agents : List AgentTurn) : Prop where
  turnIds : (agents.map fun agent => agent.turn.turnId).Nodup
  traceIds : (agents.map fun agent => agent.turn.traceId).Nodup
  filled : ∀ agent ∈ agents, agent.turn.turnId ≠ "" ∧ (filled agent.turn.traceId).isSome

section Agents

variable {φ : Type} (py : Python) (floats : Floats φ) (events : List RuntimeEvent) {agents : List AgentTurn}

theorem agentByTrace_eq_some_iff (hAgents : DistinctAgents agents) {traceId : String} {turn : RuntimeTurn} :
    agentByTrace (agents.map AgentTurn.turn) traceId = some turn ↔
      turn ∈ agents.map AgentTurn.turn ∧ turn.traceId = some traceId := by
  have hAll : ((agents.map AgentTurn.turn).filter fun turn => (filled turn.traceId).isSome) =
      agents.map AgentTurn.turn := by
    refine List.filter_eq_self.mpr fun turn hTurn => ?_
    obtain ⟨agent, hAgent, rfl⟩ := List.mem_map.mp hTurn
    exact (hAgents.filled agent hAgent).2
  have hUnique : ((agents.map AgentTurn.turn).map fun turn => turn.traceId).Nodup := by
    rw [List.map_map]
    exact hAgents.traceIds
  unfold agentByTrace
  rw [Dict.get_index, hAll, Dict.last_eq_some_iff hUnique]

theorem agent_eq_of_turnId (hAgents : DistinctAgents agents) {a b : AgentTurn} (hA : a ∈ agents)
    (hB : b ∈ agents) (h : a.turn.turnId = b.turn.turnId) : a = b :=
  List.inj_on_of_nodup_map hAgents.turnIds hA hB h

theorem rowOf_represents_iff (hAgents : DistinctAgents agents) {agent : AgentTurn} (hAgent : agent ∈ agents)
    {channelTurnId : String} {row : RuntimeTurn}
    (h : rowOf py floats events (agents.map AgentTurn.turn) channelTurnId = some row) :
    row.agentTurnId = some agent.turn.turnId ↔
      agent.turn.traceId = some (carriedTrace py events channelTurnId) := by
  obtain ⟨-, -, hRow, -⟩ := rowOf_eq_some py floats events _ h
  rw [hRow, Option.bind_eq_some_iff]
  constructor
  · rintro ⟨turn, hTurn, hSame⟩
    obtain ⟨hMem, hTrace⟩ := (agentByTrace_eq_some_iff hAgents).mp hTurn
    obtain ⟨other, hOther, rfl⟩ := List.mem_map.mp hMem
    rw [other.agentTurnId, Option.some.injEq] at hSame
    rw [← agent_eq_of_turnId hAgents hOther hAgent hSame]
    exact hTrace
  · intro hTrace
    exact ⟨agent.turn, (agentByTrace_eq_some_iff hAgents).mpr ⟨List.mem_map_of_mem hAgent, hTrace⟩,
      agent.agentTurnId⟩

theorem used_iff (hAgents : DistinctAgents agents) {agent : AgentTurn} (hAgent : agent ∈ agents) :
    agent.turn.turnId ∈ usedAgentIds py events (agents.map AgentTurn.turn) ↔
      ∃ channelTurnId ∈ channelTurnIds py events,
        agent.turn.traceId = some (carriedTrace py events channelTurnId) := by
  rw [mem_usedAgentIds]
  constructor
  · rintro ⟨channelTurnId, hId, turn, hTurn, hSame⟩
    obtain ⟨hMem, hTrace⟩ := (agentByTrace_eq_some_iff hAgents).mp hTurn
    obtain ⟨other, hOther, rfl⟩ := List.mem_map.mp hMem
    rw [agent_eq_of_turnId hAgents hOther hAgent hSame] at hTrace
    exact ⟨channelTurnId, hId, hTrace⟩
  · rintro ⟨channelTurnId, hId, hTrace⟩
    exact ⟨channelTurnId, hId, agent.turn,
      (agentByTrace_eq_some_iff hAgents).mpr ⟨List.mem_map_of_mem hAgent, hTrace⟩, rfl⟩

def carriers (agent : AgentTurn) : Nat :=
  (channelTurnIds py events).countP fun channelTurnId =>
    agent.turn.traceId = some (carriedTrace py events channelTurnId)

theorem used_iff_carriers (hAgents : DistinctAgents agents) {agent : AgentTurn} (hAgent : agent ∈ agents) :
    agent.turn.turnId ∈ usedAgentIds py events (agents.map AgentTurn.turn) ↔ 0 < carriers py events agent := by
  rw [used_iff py events hAgents hAgent, carriers, List.countP_pos_iff]
  simp

theorem count_channelRows (hAgents : DistinctAgents agents) {agent : AgentTurn} (hAgent : agent ∈ agents)
    (hReadable : ∀ channelTurnId ∈ channelTurnIds py events, ReadableTurn py floats events channelTurnId) :
    ((channelTurnIds py events).filterMap (rowOf py floats events (agents.map AgentTurn.turn))).countP
        (fun row => row.agentTurnId = some agent.turn.turnId) =
      carriers py events agent := by
  rw [List.countP_filterMap, carriers]
  refine List.countP_congr fun channelTurnId hId => ?_
  obtain ⟨row, hRow⟩ := Option.isSome_iff_exists.mp
    ((isSome_rowOf py floats events (agents.map AgentTurn.turn) _).mpr (hReadable _ hId))
  simp [hRow, rowOf_represents_iff py floats events hAgents hAgent hRow]

theorem count_ownRows (hAgents : DistinctAgents agents) {agent : AgentTurn} (hAgent : agent ∈ agents) :
    (ownRows py events (agents.map AgentTurn.turn)).countP
        (fun row => row.agentTurnId = some agent.turn.turnId) =
      if 0 < carriers py events agent then 0 else 1 := by
  rw [ownRows, List.countP_filter, List.countP_map]
  by_cases hUsed : 0 < carriers py events agent
  · rw [if_pos hUsed, List.countP_eq_zero]
    intro other hOther hBoth
    simp only [Function.comp_apply, Bool.and_eq_true, decide_eq_true_eq, other.agentTurnId,
      Option.some.injEq] at hBoth
    rw [hBoth.1] at hBoth
    exact hBoth.2 ((used_iff_carriers py events hAgents hAgent).mpr hUsed)
  · rw [if_neg hUsed]
    have hUnused := (used_iff_carriers py events hAgents hAgent).not.mpr hUsed
    have hCount : (agents.map fun other => other.turn.turnId).count agent.turn.turnId = 1 :=
      List.count_eq_one_of_mem hAgents.turnIds (List.mem_map_of_mem hAgent)
    rw [List.count, List.countP_map] at hCount
    rw [← hCount]
    refine List.countP_congr fun other hOther => ?_
    simp only [Function.comp_apply, Bool.and_eq_true, decide_eq_true_eq, other.agentTurnId,
      Option.some.injEq, beq_iff_eq]
    constructor
    · exact And.left
    · intro hSame
      exact ⟨hSame, hSame ▸ hUnused⟩

theorem carriers_le_one_iff (agent : AgentTurn) :
    carriers py events agent ≤ 1 ↔
      ∀ a b, OccursIn py events a → OccursIn py events b →
        agent.turn.traceId = some (carriedTrace py events a) →
        agent.turn.traceId = some (carriedTrace py events b) → a = b := by
  have hNodup := (nodup_channelTurnIds py events).filter fun channelTurnId =>
    agent.turn.traceId = some (carriedTrace py events channelTurnId)
  have hMem : ∀ channelTurnId, channelTurnId ∈ (channelTurnIds py events).filter (fun channelTurnId =>
      agent.turn.traceId = some (carriedTrace py events channelTurnId)) ↔
      OccursIn py events channelTurnId ∧
        agent.turn.traceId = some (carriedTrace py events channelTurnId) := by
    intro channelTurnId
    rw [List.mem_filter, mem_channelTurnIds, decide_eq_true_eq]
  rw [carriers, List.countP_eq_length_filter]
  generalize (channelTurnIds py events).filter _ = carrying at hNodup hMem ⊢
  constructor
  · intro hLength a b hA hB hTraceA hTraceB
    have hMemA := (hMem a).mpr ⟨hA, hTraceA⟩
    have hMemB := (hMem b).mpr ⟨hB, hTraceB⟩
    obtain _ | ⟨first, _ | ⟨second, rest⟩⟩ := carrying
    · exact absurd hMemA List.not_mem_nil
    · rw [List.mem_singleton.mp hMemA, List.mem_singleton.mp hMemB]
    · simp at hLength
  · intro hSame
    obtain _ | ⟨first, _ | ⟨second, rest⟩⟩ := carrying
    · exact Nat.zero_le 1
    · exact Nat.le_refl 1
    · have hFirst := (hMem first).mp List.mem_cons_self
      have hSecond := (hMem second).mp (List.mem_cons_of_mem first List.mem_cons_self)
      have hEq := hSame first second hFirst.1 hSecond.1 hFirst.2 hSecond.2
      exact absurd hEq (List.ne_of_not_mem_cons (List.nodup_cons.mp hNodup).1)

/-- What the rows of a projection are, in whatever order they come. -/
structure Conserves (rows : List RuntimeTurn) (agents : List AgentTurn) : Prop where
  /-- one row for every Channel turn that occurs -/
  channelTurns : (rows.filterMap RuntimeTurn.channelTurnId).Perm (channelTurnIds py events)
  /-- an Agent turn's row is its own, or a Channel turn's that carries its trace -/
  merged : ∀ agent ∈ agents, ∀ row ∈ rows, row.agentTurnId = some agent.turn.turnId →
    row = agent.turn ∨ (row.channelTurnId.isSome ∧ row.traceId = agent.turn.traceId)
  /-- a Channel turn does not finish before it starts -/
  finished : ∀ row ∈ rows, row.channelTurnId.isSome → ∀ finished, row.finishedAt = some finished →
    ∃ started, row.startedAt = some started ∧ started ≤ finished

theorem filterMap_channelTurnId_ownRows (agents : List AgentTurn) :
    (ownRows py events (agents.map AgentTurn.turn)).filterMap RuntimeTurn.channelTurnId = [] := by
  rw [List.filterMap_eq_nil_iff]
  intro turn hTurn
  obtain ⟨agent, -, rfl⟩ := List.mem_map.mp (List.mem_filter.mp hTurn).1
  exact agent.channelTurnId

theorem filterMap_channelTurnId_rowOf {agentTurns : List RuntimeTurn} {ids : List String}
    (hReadable : ∀ channelTurnId ∈ ids, ReadableTurn py floats events channelTurnId) :
    (ids.filterMap (rowOf py floats events agentTurns)).filterMap RuntimeTurn.channelTurnId = ids := by
  induction ids with
  | nil => rfl
  | cons channelTurnId rest ih =>
    rw [List.forall_mem_cons] at hReadable
    obtain ⟨row, hRow⟩ := Option.isSome_iff_exists.mp
      ((isSome_rowOf py floats events agentTurns _).mpr hReadable.1)
    have hId := (rowOf_eq_some py floats events agentTurns hRow).1
    rw [List.filterMap_cons_some hRow, List.filterMap_cons_some hId, ih hReadable.2]

theorem conserves_of_project (hAgents : DistinctAgents agents) {rows : List RuntimeTurn}
    (h : projectRuntimeTurns py floats events (agents.map AgentTurn.turn) = some rows) :
    Conserves py events rows agents := by
  obtain ⟨hReadable, hPerm⟩ := projectRuntimeTurns_eq_some py floats events _ h
  have hMem : ∀ row ∈ rows,
      (∃ channelTurnId, rowOf py floats events (agents.map AgentTurn.turn) channelTurnId = some row) ∨
        ∃ agent ∈ agents, agent.turn = row := by
    intro row hRow
    obtain hChannel | hOwn := List.mem_append.mp (hPerm.mem_iff.mp hRow)
    · obtain ⟨channelTurnId, -, hRowOf⟩ := List.mem_filterMap.mp hChannel
      exact .inl ⟨channelTurnId, hRowOf⟩
    · exact .inr (List.mem_map.mp (List.mem_filter.mp hOwn).1)
  refine ⟨?_, fun agent hAgent row hRow hSame => ?_, fun row hRow hChannel finished hFinished => ?_⟩
  · have hIds := hPerm.filterMap RuntimeTurn.channelTurnId
    rwa [List.filterMap_append, filterMap_channelTurnId_rowOf py floats events hReadable,
      filterMap_channelTurnId_ownRows, List.append_nil] at hIds
  · obtain ⟨channelTurnId, hRowOf⟩ | ⟨other, hOther, rfl⟩ := hMem row hRow
    · obtain ⟨hId, hTrace, -⟩ := rowOf_eq_some py floats events _ hRowOf
      have hCarried := (rowOf_represents_iff py floats events hAgents hAgent hRowOf).mp hSame
      exact .inr ⟨by simp [hId], hTrace.trans hCarried.symm⟩
    · rw [other.agentTurnId, Option.some.injEq] at hSame
      exact .inl (congrArg AgentTurn.turn (agent_eq_of_turnId hAgents hOther hAgent hSame))
  · obtain ⟨channelTurnId, hRowOf⟩ | ⟨other, -, rfl⟩ := hMem row hRow
    · exact finished_of_rowOf py floats events _ hRowOf hFinished
    · rw [other.channelTurnId] at hChannel
      exact absurd hChannel (by simp)

theorem count_represented (hAgents : DistinctAgents agents) {rows : List RuntimeTurn}
    (h : projectRuntimeTurns py floats events (agents.map AgentTurn.turn) = some rows)
    {agent : AgentTurn} (hAgent : agent ∈ agents) :
    rows.countP (fun row => row.agentTurnId = some agent.turn.turnId) =
      max 1 (carriers py events agent) := by
  obtain ⟨hReadable, hPerm⟩ := projectRuntimeTurns_eq_some py floats events _ h
  rw [hPerm.countP_eq, List.countP_append, count_channelRows py floats events hAgents hAgent hReadable,
    count_ownRows py events hAgents hAgent]
  split <;> omega

theorem channelTurnIds_perm {events' : List RuntimeEvent} (hPerm : events.Perm events') :
    (channelTurnIds py events).Perm (channelTurnIds py events') := by
  refine (List.perm_ext_iff_of_nodup (nodup_channelTurnIds py events)
    (nodup_channelTurnIds py events')).mpr fun channelTurnId => ?_
  rw [mem_channelTurnIds, mem_channelTurnIds]
  unfold OccursIn
  simp only [hPerm.mem_iff]

theorem ownRows_eq_of_perm {events' : List RuntimeEvent} (hPerm : events.Perm events')
    (hTimes : (events.map RuntimeEvent.ts).Nodup) (agentTurns : List RuntimeTurn) :
    ownRows py events agentTurns = ownRows py events' agentTurns := by
  have hUsed : ∀ turnId, turnId ∈ usedAgentIds py events agentTurns ↔
      turnId ∈ usedAgentIds py events' agentTurns := by
    intro turnId
    rw [mem_usedAgentIds, mem_usedAgentIds]
    unfold carriedTrace
    simp only [(channelTurnIds_perm py events hPerm).mem_iff, orderedEvents_eq_of_perm py hPerm hTimes]
  unfold ownRows
  simp only [hUsed]

theorem project_eq_of_perm {events' : List RuntimeEvent} (hPerm : events.Perm events')
    (hTimes : (events.map RuntimeEvent.ts).Nodup) {agentTurns rows : List RuntimeTurn}
    (h : projectRuntimeTurns py floats events agentTurns = some rows) :
    ∃ rows', projectRuntimeTurns py floats events' agentTurns = some rows' ∧ rows.Perm rows' := by
  obtain ⟨hReadable, hRows⟩ := projectRuntimeTurns_eq_some py floats events agentTurns h
  have hIds := channelTurnIds_perm py events hPerm
  have hRowOf : rowOf py floats events agentTurns = rowOf py floats events' agentTurns :=
    funext (rowOf_eq_of_perm py floats events agentTurns hPerm hTimes)
  have hReadable' : ∀ channelTurnId ∈ channelTurnIds py events',
      ReadableTurn py floats events' channelTurnId := by
    intro channelTurnId hId
    have hRow := (isSome_rowOf py floats events agentTurns _).mpr (hReadable _ (hIds.mem_iff.mpr hId))
    rw [hRowOf] at hRow
    exact (isSome_rowOf py floats events' agentTurns _).mp hRow
  obtain ⟨rows', hRows'⟩ := exists_projectRuntimeTurns py floats events' agentTurns hReadable'
  obtain ⟨-, hPerm'⟩ := projectRuntimeTurns_eq_some py floats events' agentTurns hRows'
  refine ⟨rows', hRows', hRows.trans (List.Perm.trans ?_ hPerm'.symm)⟩
  rw [hRowOf, ownRows_eq_of_perm py events hPerm hTimes]
  exact (hIds.filterMap _).append_right _

/-- The projection conserves the turns exactly if it can read every Channel turn and no two
of them carry the trace of one Agent turn. -/
theorem turns_conserved_iff (hAgents : DistinctAgents agents) :
    (∃ rows, projectRuntimeTurns py floats events (agents.map AgentTurn.turn) = some rows ∧
      Conserves py events rows agents ∧
      (∀ agent ∈ agents, rows.countP (fun row => row.agentTurnId = some agent.turn.turnId) = 1) ∧
      ((events.map RuntimeEvent.ts).Nodup → ∀ events', events.Perm events' →
        ∃ rows', projectRuntimeTurns py floats events' (agents.map AgentTurn.turn) = some rows' ∧
          rows.Perm rows')) ↔
      (∀ channelTurnId, OccursIn py events channelTurnId → ReadableTurn py floats events channelTurnId) ∧
      ∀ agent ∈ agents, ∀ a b, OccursIn py events a → OccursIn py events b →
        agent.turn.traceId = some (carriedTrace py events a) →
        agent.turn.traceId = some (carriedTrace py events b) → a = b := by
  constructor
  · rintro ⟨rows, hRows, -, hOnce, -⟩
    constructor
    · intro channelTurnId hOccurs
      exact (projectRuntimeTurns_eq_some py floats events _ hRows).1 _
        ((mem_channelTurnIds py).mpr hOccurs)
    · intro agent hAgent
      have hCount := count_represented py floats events hAgents hRows hAgent
      rw [hOnce agent hAgent] at hCount
      exact (carriers_le_one_iff py events agent).mp (by omega)
  · rintro ⟨hReadable, hTraces⟩
    obtain ⟨rows, hRows⟩ := exists_projectRuntimeTurns py floats events (agents.map AgentTurn.turn)
      fun channelTurnId hId => hReadable _ ((mem_channelTurnIds py).mp hId)
    refine ⟨rows, hRows, conserves_of_project py floats events hAgents hRows, fun agent hAgent => ?_,
      fun hTimes events' hPerm => project_eq_of_perm py floats events hPerm hTimes hRows⟩
    have hCarriers := (carriers_le_one_iff py events agent).mpr (hTraces agent hAgent)
    rw [count_represented py floats events hAgents hRows hAgent]
    omega

end Agents

/-- Floats for events that state no elapsed time. -/
def noElapsed : Floats Unit where
  zero := ()
  ofJson _ := some ()
  roundedDifference _ _ := some 0
  max _ _ := ()
  milliseconds delta := delta.tdiv 1000

/-- Two Channel turns of one trace, which an Agent turn also has. -/
def sharedTrace : List RuntimeEvent :=
  [{ eventId := "e1", ts := 1, source := .channel, type := "channel.turn.completed", traceId := some "trace"
     turnId := some "first" },
    { eventId := "e2", ts := 2, source := .channel, type := "channel.turn.completed"
      traceId := some "trace", turnId := some "second" }]

def agentOf (traceId : String) : AgentTurn where
  turn :=
    { turnId := "agent", traceId := some traceId, agentTurnId := some "agent", conversationId := "talk"
      ownerId := "owner", companionId := "aya", status := "completed" }
  channelTurnId := rfl
  agentTurnId := rfl

theorem distinct_agentOf {traceId : String} (h : traceId ≠ "") : DistinctAgents [agentOf traceId] where
  turnIds := List.nodup_singleton _
  traceIds := List.nodup_singleton _
  filled agent hAgent := by
    rw [List.mem_singleton.mp hAgent]
    simp [agentOf, filled, h]

theorem agent_turn_shown_twice :
    DistinctAgents [agentOf "trace"] ∧
      ∃ rows, projectRuntimeTurns plainPython noElapsed sharedTrace [(agentOf "trace").turn] = some rows ∧
        rows.countP (fun row => row.agentTurnId = some "agent") = 2 :=
  ⟨distinct_agentOf (by decide), _, rfl, by decide +kernel⟩

theorem turns_conserved_with_other_trace :
    ∃ rows, projectRuntimeTurns plainPython noElapsed sharedTrace ([agentOf "other"].map AgentTurn.turn) =
        some rows ∧
      Conserves plainPython sharedTrace rows [agentOf "other"] := by
  have hAgents : DistinctAgents [agentOf "other"] := distinct_agentOf (by decide)
  have hIds : ∀ channelTurnId, OccursIn plainPython sharedTrace channelTurnId →
      channelTurnId ∈ ["first", "second"] := by
    intro channelTurnId hOccurs
    have hMem := (mem_channelTurnIds plainPython).mpr hOccurs
    rwa [show channelTurnIds plainPython sharedTrace = ["first", "second"] by decide +kernel] at hMem
  have hReadable : ∀ channelTurnId ∈ ["first", "second"],
      (stageRows plainPython noElapsed (orderedEvents plainPython sharedTrace channelTurnId)).isSome ∧
        (missingMilestones plainPython (terminalOf (orderedEvents plainPython sharedTrace channelTurnId))
          (sessionBoundaryOf plainPython sharedTrace
            (orderedEvents plainPython sharedTrace channelTurnId))).isSome := by decide +kernel
  have hTraces : ∀ channelTurnId ∈ ["first", "second"],
      carriedTrace plainPython sharedTrace channelTurnId ≠ "other" := by decide +kernel
  obtain ⟨rows, hRows, hConserves, -⟩ :=
    (turns_conserved_iff plainPython noElapsed sharedTrace hAgents).mpr
      ⟨fun channelTurnId hOccurs => hReadable _ (hIds _ hOccurs), fun agent hAgent a _ hA _ hTrace => by
        rw [List.mem_singleton.mp hAgent] at hTrace
        exact absurd (Option.some.inj hTrace).symm (hTraces a (hIds a hA))⟩
  exact ⟨rows, hRows, hConserves⟩

end EidolonAdmin.MissionControl
