import Mathlib.Data.List.Lattice
import Mathlib.Order.MinMax
import EidolonAdmin.Foundation.Dict
import EidolonAdmin.MissionControl.Schemas

/-! # Which lane each source decides

Every read is recorded in a `LaneLedger` under the lanes that its source decides, and
the ledger answers what each lane may claim about itself. A latency is a value of any
linear order.
-/

namespace EidolonAdmin.MissionControl

open Foundation

inductive Lane where
  | devices | services | activities | turns | jobs | memory | events
  deriving DecidableEq, Repr

def lanes : List Lane := [.devices, .services, .activities, .turns, .jobs, .memory, .events]

def Lane.name : Lane → String
  | devices => "devices"
  | services => "services"
  | activities => "activities"
  | turns => "turns"
  | jobs => "jobs"
  | memory => "memory"
  | events => "events"

/-- `SOURCE_LANES` -/
def sourceLanes : List (String × List Lane) :=
  [("control-plane", lanes),
    ("data.owners", []),
    ("data.companions", []),
    ("runtime.blackboard", [.devices]),
    ("channel.presence", [.devices]),
    ("hub.device_page", []),
    ("hub.event_feed", []),
    ("data.guard_bindings", []),
    ("host.services", [.services]),
    ("agent.turns", [.turns, .activities]),
    ("data.conversations", [.turns]),
    ("agent.long_tasks", [.jobs, .activities]),
    ("data.jobs", [.jobs]),
    ("memory.roster", [.memory]),
    ("memory.runtime", [.memory]),
    ("audit.index", [.events]),
    ("audit.indexer", [.events])]

def decides (lane : Lane) (source : String) : Bool := lane ∈ (Dict.get sourceLanes source).getD []

structure SourceStatus (ℓ : Type) where
  source : String
  ok : Bool
  detail : String := ""
  latencyMs : Option ℓ := none
  deriving DecidableEq, Repr

structure UnregisteredSource where
  source : String
  deriving DecidableEq, Repr

inductive LaneState where
  | ok | degraded | unavailable
  deriving DecidableEq, Repr

structure LaneOutcome (ℓ : Type) where
  state : LaneState
  detail : String := ""
  observedAt : Instant
  latencyMs : Option ℓ := none
  truncated : Bool := false
  deriving DecidableEq, Repr

def LaneOutcome.readable {ℓ : Type} (outcome : LaneOutcome ℓ) : Bool := outcome.state ≠ .unavailable

structure LaneLedger (ℓ : Type) where
  rows : List (SourceStatus ℓ) := []
  outcomes : List (Lane × List (String × SourceStatus ℓ)) := []
  truncated : List Lane := []

namespace LaneLedger

variable {ℓ : Type}

/-- `self._outcomes.setdefault(lane, {})[source] = status` -/
def file (outcomes : List (Lane × List (String × SourceStatus ℓ))) (status : SourceStatus ℓ) (lane : Lane) :
    List (Lane × List (String × SourceStatus ℓ)) :=
  Dict.set outcomes lane (Dict.set ((Dict.get outcomes lane).getD []) status.source status)

/-- `measured` is what the clock says when the call names the time it started at. -/
def record (ledger : LaneLedger ℓ) (source : String) (ok : Bool) (detail : String)
    (measured latencyMs : Option ℓ) : Except UnregisteredSource (LaneLedger ℓ) :=
  match Dict.get sourceLanes source with
  | none => .error ⟨source⟩
  | some decided =>
    let status : SourceStatus ℓ := { source, ok, detail, latencyMs := latencyMs.or measured }
    .ok { ledger with
      rows := ledger.rows ++ [status]
      outcomes := decided.foldl (fun outcomes lane => file outcomes status lane) ledger.outcomes }

def truncationRow (lane : Lane) (detail : String) : SourceStatus ℓ :=
  { source := lane.name ++ ".truncated", ok := true, detail }

def truncate (ledger : LaneLedger ℓ) (lane : Lane) (detail : String) : LaneLedger ℓ where
  rows := if detail = "" then ledger.rows else ledger.rows ++ [truncationRow lane detail]
  outcomes :=
    if (Dict.get ledger.outcomes lane).isSome then ledger.outcomes
    else Dict.set ledger.outcomes lane []
  truncated := if lane ∈ ledger.truncated then ledger.truncated else lane :: ledger.truncated

def statuses (ledger : LaneLedger ℓ) : List (SourceStatus ℓ) :=
  (Dict.index SourceStatus.source ledger.rows).map Prod.snd

end LaneLedger

section Outcome

variable {ℓ : Type} [LinearOrder ℓ]

def reason (row : SourceStatus ℓ) : String :=
  if row.detail = "" then row.source else row.source ++ ": " ++ row.detail

def slowest (rows : List (SourceStatus ℓ)) : Option ℓ := (rows.filterMap SourceStatus.latencyMs).max?

/-- What a lane may claim that these rows decide. -/
def laneOutcome (lane : Lane) (truncated : Bool) (observedAt : Instant) (rows : List (SourceStatus ℓ)) :
    LaneOutcome ℓ :=
  let failures := rows.filter fun row => !row.ok
  let answers := rows.filter fun row => row.ok
  if failures ≠ [] then
    { state := if answers ≠ [] then .degraded else .unavailable
      detail := "；".intercalate (failures.map reason)
      observedAt
      latencyMs := slowest (failures ++ answers)
      truncated }
  else if answers = [] then
    { state := .unavailable, detail := "这台 Host 没有读取 " ++ lane.name ++ " 的来源", observedAt }
  else
    { state := if truncated then .degraded else .ok
      observedAt
      latencyMs := slowest answers
      truncated }

def LaneLedger.outcome (ledger : LaneLedger ℓ) (lane : Lane) (observedAt : Instant) : LaneOutcome ℓ :=
  laneOutcome lane (lane ∈ ledger.truncated) observedAt
    (((Dict.get ledger.outcomes lane).getD []).map Prod.snd)

end Outcome

/-! ## The calls on one ledger -/

inductive LedgerCall (ℓ : Type) where
  | record (source : String) (ok : Bool) (detail : String) (measured latencyMs : Option ℓ)
  | truncate (lane : Lane) (detail : String)

namespace LedgerCall

variable {ℓ : Type}

def apply (ledger : LaneLedger ℓ) : LedgerCall ℓ → Except UnregisteredSource (LaneLedger ℓ)
  | record source ok detail measured latencyMs => ledger.record source ok detail measured latencyMs
  | truncate lane detail => .ok (ledger.truncate lane detail)

def run (ledger : LaneLedger ℓ) (calls : List (LedgerCall ℓ)) : Except UnregisteredSource (LaneLedger ℓ) :=
  calls.foldlM apply ledger

def Registered : LedgerCall ℓ → Prop
  | record source _ _ _ _ => (Dict.get sourceLanes source).isSome
  | truncate _ _ => True

instance : (call : LedgerCall ℓ) → Decidable call.Registered
  | record _ _ _ _ _ => inferInstanceAs (Decidable (_ = true))
  | truncate _ _ => .isTrue trivial

def recorded : LedgerCall ℓ → Option (SourceStatus ℓ)
  | record source ok detail measured latencyMs =>
    some { source, ok, detail, latencyMs := latencyMs.or measured }
  | truncate _ _ => none

def row : LedgerCall ℓ → Option (SourceStatus ℓ)
  | record source ok detail measured latencyMs =>
    some { source, ok, detail, latencyMs := latencyMs.or measured }
  | truncate lane detail => if detail = "" then none else some (LaneLedger.truncationRow lane detail)

def cut : LedgerCall ℓ → Option Lane
  | record _ _ _ _ _ => none
  | truncate lane _ => some lane

end LedgerCall

def latest {ℓ : Type} (rows : List (SourceStatus ℓ)) (source : String) : Option (SourceStatus ℓ) :=
  Dict.last SourceStatus.source rows source

section Calls

variable {ℓ : Type}

/-- What a ledger holds after these calls. -/
structure Recorded (calls : List (LedgerCall ℓ)) (ledger : LaneLedger ℓ) : Prop where
  rows : ledger.rows = calls.filterMap LedgerCall.row
  outcomes : ∀ lane, (Dict.get ledger.outcomes lane).getD [] =
    Dict.index SourceStatus.source
      ((calls.filterMap LedgerCall.recorded).filter fun status => decides lane status.source)
  truncated : ∀ lane, lane ∈ ledger.truncated ↔ lane ∈ calls.filterMap LedgerCall.cut

theorem recorded_nil : Recorded [] ({} : LaneLedger ℓ) where
  rows := rfl
  outcomes _ := rfl
  truncated _ := Iff.rfl

theorem nodup_of_sourceLanes {source : String} {decided : List Lane}
    (h : Dict.get sourceLanes source = some decided) : decided.Nodup := by
  have hTable : ∀ entry ∈ sourceLanes, entry.2.Nodup := by decide
  exact hTable _ (Dict.get_mem h)

theorem get_foldl_file {status : SourceStatus ℓ} {decided : List Lane} (hNodup : decided.Nodup)
    (outcomes : List (Lane × List (String × SourceStatus ℓ))) (lane : Lane) :
    (Dict.get (decided.foldl (fun outcomes lane => LaneLedger.file outcomes status lane) outcomes) lane).getD
        [] =
      if lane ∈ decided then Dict.set ((Dict.get outcomes lane).getD []) status.source status
      else (Dict.get outcomes lane).getD [] := by
  induction decided generalizing outcomes with
  | nil => rfl
  | cons first rest ih =>
    obtain ⟨hFirst, hRest⟩ := List.nodup_cons.mp hNodup
    rw [List.foldl_cons, ih hRest, LaneLedger.file, Dict.get_set]
    by_cases hLane : lane = first
    · subst hLane
      simp [hFirst]
    · simp [hLane]

theorem recorded_record {calls : List (LedgerCall ℓ)} {ledger ledger' : LaneLedger ℓ}
    {source : String} {ok : Bool} {detail : String} {measured latencyMs : Option ℓ}
    (hRecorded : Recorded calls ledger)
    (hStep : ledger.record source ok detail measured latencyMs = .ok ledger') :
    Recorded (calls ++ [.record source ok detail measured latencyMs]) ledger' := by
  unfold LaneLedger.record at hStep
  cases hDecided : Dict.get sourceLanes source with
  | none => simp [hDecided] at hStep
  | some decided =>
    simp only [hDecided, Except.ok.injEq] at hStep
    subst hStep
    refine ⟨?_, fun lane => ?_, fun lane => ?_⟩
    · simp [hRecorded.rows, LedgerCall.row]
    · have hLane : decides lane source = decide (lane ∈ decided) := by simp [decides, hDecided]
      rw [get_foldl_file (nodup_of_sourceLanes hDecided), hRecorded.outcomes lane, List.filterMap_append,
        List.filter_append]
      by_cases hMem : lane ∈ decided
      · rw [if_pos hMem]
        simp [LedgerCall.recorded, hLane, hMem, Dict.index_append_singleton]
      · rw [if_neg hMem]
        simp [LedgerCall.recorded, hLane, hMem]
    · simp [hRecorded.truncated lane, LedgerCall.cut]

theorem recorded_truncate {calls : List (LedgerCall ℓ)} {ledger : LaneLedger ℓ}
    (hRecorded : Recorded calls ledger) (lane : Lane) (detail : String) :
    Recorded (calls ++ [.truncate lane detail]) (ledger.truncate lane detail) := by
  refine ⟨?_, fun other => ?_, fun other => ?_⟩
  · by_cases hDetail : detail = ""
    · simp [LaneLedger.truncate, LedgerCall.row, hDetail, hRecorded.rows]
    · simp [LaneLedger.truncate, LedgerCall.row, hDetail, hRecorded.rows]
  · have hSame : (Dict.get (ledger.truncate lane detail).outcomes other).getD [] =
        (Dict.get ledger.outcomes other).getD [] := by
      unfold LaneLedger.truncate
      by_cases hKnown : (Dict.get ledger.outcomes lane).isSome
      · simp [hKnown]
      · simp only [hKnown, Bool.false_eq_true, if_false, Dict.get_set]
        by_cases hLane : other = lane
        · subst hLane
          simp [Option.not_isSome_iff_eq_none.mp hKnown]
        · simp [hLane]
    rw [hSame, hRecorded.outcomes other, List.filterMap_append, List.filter_append]
    simp [LedgerCall.recorded, List.filterMap_cons]
  · unfold LaneLedger.truncate
    rw [List.filterMap_append, List.mem_append, ← hRecorded.truncated other]
    by_cases hKnown : lane ∈ ledger.truncated
    · simp only [hKnown, if_true, LedgerCall.cut, List.filterMap_cons, List.filterMap_nil,
        List.mem_singleton]
      refine ⟨Or.inl, ?_⟩
      rintro (hOther | rfl)
      · exact hOther
      · exact hKnown
    · simp [hKnown, LedgerCall.cut, or_comm]

theorem recorded_run (calls : List (LedgerCall ℓ)) (hCalls : ∀ call ∈ calls, call.Registered) :
    ∃ ledger, LedgerCall.run {} calls = .ok ledger ∧ Recorded calls ledger := by
  induction calls using List.reverseRecOn with
  | nil => exact ⟨{}, rfl, recorded_nil⟩
  | append_singleton calls call ih =>
    obtain ⟨ledger, hRun, hRecorded⟩ := ih fun other hOther => hCalls other (List.mem_append_left _ hOther)
    have hCall : call.Registered := hCalls call (by simp)
    have hStep : ∀ ledger', call.apply ledger = .ok ledger' →
        LedgerCall.run {} (calls ++ [call]) = .ok ledger' := by
      intro ledger' hApply
      unfold LedgerCall.run at hRun ⊢
      rw [List.foldlM_append, hRun]
      simp [hApply, bind, Except.bind, pure, Except.pure]
    cases call with
    | record source ok detail measured latencyMs =>
      obtain ⟨decided, hDecided⟩ := Option.isSome_iff_exists.mp hCall
      have hRecord : ∃ ledger', ledger.record source ok detail measured latencyMs = .ok ledger' := by
        simp only [LaneLedger.record, hDecided]
        exact ⟨_, rfl⟩
      obtain ⟨ledger', hRecord⟩ := hRecord
      exact ⟨ledger', hStep _ hRecord, recorded_record hRecorded hRecord⟩
    | truncate lane detail =>
      exact ⟨_, hStep _ rfl, recorded_truncate hRecorded lane detail⟩

def LatestDeciding (calls : List (LedgerCall ℓ)) (lane : Lane) (status : SourceStatus ℓ) : Prop :=
  decides lane status.source ∧ latest (calls.filterMap LedgerCall.recorded) status.source = some status

theorem latest_filter (lane : Lane) (rows : List (SourceStatus ℓ)) (source : String) :
    latest (rows.filter fun status => decides lane status.source) source =
      if decides lane source then latest rows source else none := by
  unfold latest Dict.last
  rw [← List.filter_reverse, List.find?_filter]
  by_cases hDecides : decides lane source
  · rw [if_pos hDecides]
    congr 1
    funext row
    by_cases hSource : row.source = source
    · simp [hSource, hDecides]
    · simp [hSource]
  · rw [if_neg hDecides, List.find?_eq_none]
    intro row _ hRow
    simp only [decide_eq_true_eq] at hRow
    exact hDecides (hRow.2 ▸ hRow.1)

def LaneLedger.laneRows (ledger : LaneLedger ℓ) (lane : Lane) : List (SourceStatus ℓ) :=
  ((Dict.get ledger.outcomes lane).getD []).map Prod.snd

variable {calls calls' : List (LedgerCall ℓ)} {ledger ledger' : LaneLedger ℓ}

theorem Recorded.mem_laneRows (hRecorded : Recorded calls ledger) {lane : Lane}
    {status : SourceStatus ℓ} :
    status ∈ ledger.laneRows lane ↔ LatestDeciding calls lane status := by
  unfold LaneLedger.laneRows LatestDeciding
  rw [hRecorded.outcomes lane, Dict.mem_values_index]
  change latest _ _ = some status ↔ _
  rw [latest_filter]
  by_cases hDecides : decides lane status.source
  · simp [hDecides]
  · simp [hDecides]

theorem Recorded.nodup_laneRows (hRecorded : Recorded calls ledger) (lane : Lane) :
    ((ledger.laneRows lane).map SourceStatus.source).Nodup := by
  unfold LaneLedger.laneRows
  rw [hRecorded.outcomes lane]
  exact Dict.nodup_keys_index _ _

theorem Recorded.mem_statuses (hRecorded : Recorded calls ledger) {status : SourceStatus ℓ} :
    status ∈ ledger.statuses ↔ latest (calls.filterMap LedgerCall.row) status.source = some status := by
  unfold LaneLedger.statuses
  rw [hRecorded.rows]
  exact Dict.mem_values_index _

theorem LaneLedger.nodup_statuses (ledger : LaneLedger ℓ) :
    (ledger.statuses.map SourceStatus.source).Nodup :=
  Dict.nodup_keys_index _ _

theorem Recorded.laneRows_perm (hRecorded : Recorded calls ledger) (hRecorded' : Recorded calls' ledger')
    {lane : Lane} (hLatest : ∀ status, LatestDeciding calls lane status ↔ LatestDeciding calls' lane status) :
    (ledger.laneRows lane).Perm (ledger'.laneRows lane) := by
  have hNodup : (ledger.laneRows lane).Nodup := (hRecorded.nodup_laneRows lane).of_map _
  have hNodup' : (ledger'.laneRows lane).Nodup := (hRecorded'.nodup_laneRows lane).of_map _
  refine (List.perm_ext_iff_of_nodup hNodup hNodup').mpr fun status => ?_
  rw [hRecorded.mem_laneRows, hRecorded'.mem_laneRows, hLatest]

/-- The same calls, where the records of one source keep their order. -/
structure Reordering (calls calls' : List (LedgerCall ℓ)) : Prop where
  perm : calls.Perm calls'
  records : ∀ source,
    ((calls.filterMap LedgerCall.recorded).filter fun status => status.source = source) =
      (calls'.filterMap LedgerCall.recorded).filter fun status => status.source = source

theorem Reordering.latestDeciding (h : Reordering calls calls') (lane : Lane) (status : SourceStatus ℓ) :
    LatestDeciding calls lane status ↔ LatestDeciding calls' lane status := by
  unfold LatestDeciding
  rw [latest, latest, Dict.last_eq_getLast, Dict.last_eq_getLast, h.records status.source]

end Calls

section Health

variable {ℓ : Type} {lane : Lane} {truncated : Bool} {observedAt : Instant}
  {rows rows' : List (SourceStatus ℓ)}

theorem filter_ok_eq_nil : (rows.filter fun row => row.ok) = [] ↔ ∀ row ∈ rows, row.ok = false := by
  rw [List.filter_eq_nil_iff]
  simp

theorem filter_failed_eq_nil : (rows.filter fun row => !row.ok) = [] ↔ ∀ row ∈ rows, row.ok = true := by
  rw [List.filter_eq_nil_iff]
  simp

variable [LinearOrder ℓ]

theorem laneOutcome_unavailable_iff :
    (laneOutcome lane truncated observedAt rows).state = .unavailable ↔ ∀ row ∈ rows, row.ok = false := by
  rw [← filter_ok_eq_nil]
  unfold laneOutcome
  by_cases hFailures : (rows.filter fun row => !row.ok) = []
  · by_cases hAnswers : (rows.filter fun row => row.ok) = []
    · simp [hFailures, hAnswers]
    · cases truncated <;> simp [hFailures, hAnswers]
  · by_cases hAnswers : (rows.filter fun row => row.ok) = []
    · simp [hFailures, hAnswers]
    · simp [hFailures, hAnswers]

theorem laneOutcome_ok_iff :
    (laneOutcome lane truncated observedAt rows).state = .ok ↔
      (∃ row ∈ rows, row.ok = true) ∧ (∀ row ∈ rows, row.ok = true) ∧ truncated = false := by
  have hAnswered : (∃ row ∈ rows, row.ok = true) ↔ (rows.filter fun row => row.ok) ≠ [] := by
    rw [Ne, filter_ok_eq_nil]
    simp
  rw [← filter_failed_eq_nil, hAnswered]
  unfold laneOutcome
  by_cases hFailures : (rows.filter fun row => !row.ok) = []
  · by_cases hAnswers : (rows.filter fun row => row.ok) = []
    · simp [hFailures, hAnswers]
    · cases truncated <;> simp [hFailures, hAnswers]
  · by_cases hAnswers : (rows.filter fun row => row.ok) = []
    · simp [hFailures, hAnswers]
    · simp [hFailures, hAnswers]

theorem laneOutcome_degraded_iff :
    (laneOutcome lane truncated observedAt rows).state = .degraded ↔
      (∃ row ∈ rows, row.ok = true) ∧ ((∃ row ∈ rows, row.ok = false) ∨ truncated = true) := by
  have hUnavailable : (laneOutcome lane truncated observedAt rows).state = .unavailable ↔ _ :=
    laneOutcome_unavailable_iff
  have hOk : (laneOutcome lane truncated observedAt rows).state = .ok ↔ _ := laneOutcome_ok_iff
  cases hState : (laneOutcome lane truncated observedAt rows).state <;> grind

theorem slowest_perm (h : rows.Perm rows') : slowest rows = slowest rows' := by
  have : Std.LawfulOrderMax ℓ := .of_max_le_iff (fun _ _ _ => max_le_iff) max_choice
  have hSeen := h.filterMap SourceStatus.latencyMs
  refine Option.ext fun latency => ?_
  unfold slowest
  rw [List.max?_eq_some_iff, List.max?_eq_some_iff, hSeen.mem_iff]
  refine and_congr_right fun _ => forall_congr' fun other => ?_
  rw [hSeen.mem_iff]

def LaneOutcome.SameHealth (a b : LaneOutcome ℓ) : Prop :=
  a.state = b.state ∧ a.latencyMs = b.latencyMs ∧ a.truncated = b.truncated

theorem laneOutcome_perm (h : rows.Perm rows') :
    (laneOutcome lane truncated observedAt rows).SameHealth
      (laneOutcome lane truncated observedAt rows') := by
  have hFailures : (rows.filter fun row => !row.ok).Perm (rows'.filter fun row => !row.ok) := h.filter _
  have hAnswers : (rows.filter fun row => row.ok).Perm (rows'.filter fun row => row.ok) := h.filter _
  have hNoFailures : (rows.filter fun row => !row.ok) = [] ↔ (rows'.filter fun row => !row.ok) = [] := by
    rw [← List.length_eq_zero_iff, ← List.length_eq_zero_iff, hFailures.length_eq]
  have hNoAnswers : (rows.filter fun row => row.ok) = [] ↔ (rows'.filter fun row => row.ok) = [] := by
    rw [← List.length_eq_zero_iff, ← List.length_eq_zero_iff, hAnswers.length_eq]
  unfold LaneOutcome.SameHealth laneOutcome
  simp only [ne_eq, hNoFailures, hNoAnswers]
  split
  · exact ⟨rfl, slowest_perm (hFailures.append hAnswers), rfl⟩
  · split
    · exact ⟨rfl, rfl, rfl⟩
    · exact ⟨rfl, slowest_perm hAnswers, rfl⟩

theorem Recorded.outcome_eq {calls : List (LedgerCall ℓ)} {ledger : LaneLedger ℓ}
    (hRecorded : Recorded calls ledger) (lane : Lane) (observedAt : Instant) :
    ledger.outcome lane observedAt =
      laneOutcome lane (decide (lane ∈ calls.filterMap LedgerCall.cut)) observedAt (ledger.laneRows lane) := by
  unfold LaneLedger.outcome
  rw [decide_eq_decide.mpr (hRecorded.truncated lane)]
  rfl

/-- A lane's health depends only on the latest records that decide it and on whether it
was cut short. -/
theorem Recorded.sameHealth {calls calls' : List (LedgerCall ℓ)} {ledger ledger' : LaneLedger ℓ}
    (hRecorded : Recorded calls ledger) (hRecorded' : Recorded calls' ledger')
    (hLatest : ∀ status, LatestDeciding calls lane status ↔ LatestDeciding calls' lane status)
    (hCut : lane ∈ calls.filterMap LedgerCall.cut ↔ lane ∈ calls'.filterMap LedgerCall.cut) :
    (ledger.outcome lane observedAt).SameHealth (ledger'.outcome lane observedAt) := by
  rw [hRecorded.outcome_eq, hRecorded'.outcome_eq, decide_eq_decide.mpr hCut]
  exact laneOutcome_perm (hRecorded.laneRows_perm hRecorded' hLatest)

end Health

end EidolonAdmin.MissionControl
