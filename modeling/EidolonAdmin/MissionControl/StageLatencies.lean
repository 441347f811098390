import EidolonAdmin.Foundation.Binary64
import EidolonAdmin.MissionControl.Turns

/-! # The latencies of a Channel turn's stages

`_channel_turn_stages` attributes to each stage what an event adds to the largest time so far.
Times are whole milliseconds, read as doubles; where the doubles are exact, the latencies sum
to the largest time.
-/

namespace EidolonAdmin.MissionControl

open Foundation

/-- How Python's floats treat whole numbers that are doubles. -/
structure WholeNumbers {φ : Type} (floats : Floats φ) (whole : Nat → φ) : Prop where
  zero : floats.zero = whole 0
  ofJson (n : Nat) : floats.ofJson (.int n) = (Binary64.ofNat n).map whole
  roundedDifference {a b : Nat} (hA : Binary64.Representable a) (hB : Binary64.Representable b) :
    floats.roundedDifference (whole a) (whole b) = some (Binary64.difference a b)
  max {a b : Nat} (hA : Binary64.Representable a) (hB : Binary64.Representable b) :
    floats.max (whole a) (whole b) = whole (Max.max a b)

section Events

variable (py : Python)

def stageMetaOf (event : RuntimeEvent) : Option (String × String) :=
  Dict.get channelStageMeta (stageSemantic py event)

def elapsedMs (event : RuntimeEvent) : Option Nat :=
  match event.payload.get "elapsed_ms" with
  | .int value => some value.toNat
  | _ => none

def StatesWhole (event : RuntimeEvent) : Prop :=
  event.payload.get "elapsed_ms" = (elapsedMs event).elim .null fun n => .int n

def stageKeys (events : List RuntimeEvent) : List String :=
  events.filterMap fun event => (stageMetaOf py event).map Prod.fst

def stageTimes (events : List RuntimeEvent) : List Nat :=
  events.filterMap fun event => (stageMetaOf py event).bind fun _ => elapsedMs event

def largest (times : List Nat) : Nat := times.foldr max 0

def Holdable (times : List Nat) : Prop := ∀ time ∈ times, (Binary64.ofNat time).isSome = true

/-- Zero, the times, and how far any of them is after another are doubles. -/
def ExactTimes (times : List Nat) : Prop :=
  ∀ a ∈ 0 :: times, ∀ b ∈ 0 :: times, b ≤ a → Binary64.Exact (a - b)

theorem exactTimes_of_le {times : List Nat} (h : ∀ time ∈ times, time ≤ 2 ^ 53) : ExactTimes times := by
  intro a hA b _ _
  refine Binary64.exact_of_le (Nat.le_trans (Nat.sub_le a b) ?_)
  rcases List.mem_cons.mp hA with rfl | hA
  · decide
  · exact h a hA

theorem ExactTimes.exact {times : List Nat} (h : ExactTimes times) {time : Nat} (hTime : time ∈ times) :
    Binary64.Exact time :=
  h time (List.mem_cons_of_mem _ hTime) 0 List.mem_cons_self (Nat.zero_le time)

@[simp]
theorem largest_cons (time : Nat) (rest : List Nat) : largest (time :: rest) = max time (largest rest) := rfl

end Events

/-! ## One event of the loop -/

section Loop

variable {φ : Type} {py : Python} {floats : Floats φ} {whole : Nat → φ}

/-- The time that the loop takes an event to have, when the largest so far is `previous`. -/
def timeOf (previous : Nat) (event : RuntimeEvent) : Option Nat :=
  if (elapsedMs event).getD 0 = 0 then some previous else Binary64.ofNat ((elapsedMs event).getD 0)

theorem representable_timeOf {previous time : Nat} {event : RuntimeEvent}
    (hPrevious : Binary64.Representable previous) (h : timeOf previous event = some time) :
    Binary64.Representable time := by
  unfold timeOf at h
  split at h
  · cases h
    exact hPrevious
  · exact Binary64.representable_ofNat h

theorem representable_max {a b : Nat} (hA : Binary64.Representable a) (hB : Binary64.Representable b) :
    Binary64.Representable (max a b) := by
  rcases Nat.le_total a b with h | h
  · rwa [Nat.max_eq_right h]
  · rwa [Nat.max_eq_left h]

def credited (rows : List (String × ChannelStage)) (key label : String) (gained : Nat) :
    List (String × ChannelStage) :=
  Dict.set rows key
    { label, latencyMs := (Dict.get rows key).elim 0 ChannelStage.latencyMs + gained }

theorem stageStep_of_unmapped (rows : List (String × ChannelStage)) (previous : φ) {event : RuntimeEvent}
    (hUnmapped : stageMetaOf py event = none) :
    stageStep py floats (rows, previous) event = some (rows, previous) := by
  rw [stageMetaOf] at hUnmapped
  simp [stageStep, hUnmapped]

theorem truthy_elapsed (elapsed : Option Nat) :
    (elapsed.elim Json.null fun n => .int n).truthy = true ↔ elapsed.getD 0 ≠ 0 := by
  cases elapsed <;> simp [Json.truthy]

theorem stageStep_of_mapped (hFloats : WholeNumbers floats whole) (rows : List (String × ChannelStage))
    {previous time : Nat} {event : RuntimeEvent} {key label : String} (hWhole : StatesWhole event)
    (hMapped : stageMetaOf py event = some (key, label)) (hPrevious : Binary64.Representable previous)
    (hTime : timeOf previous event = some time) :
    stageStep py floats (rows, whole previous) event =
      some (credited rows key label (Binary64.advance time previous), whole (max previous time)) := by
  have hRepresentable := representable_timeOf hPrevious hTime
  have hElapsed : (if (event.payload.get "elapsed_ms").truthy then
      floats.ofJson (event.payload.get "elapsed_ms") else some (whole previous)) = some (whole time) := by
    rw [hWhole]
    simp only [truthy_elapsed]
    unfold timeOf at hTime
    split at hTime
    · rename_i hZero
      cases hTime
      rw [if_neg (not_not_intro hZero)]
    · rename_i hSaid
      rw [if_pos hSaid]
      cases hElapsed : elapsedMs event with
      | none => simp [hElapsed] at hSaid
      | some said =>
        rw [hElapsed, Option.getD_some] at hTime
        rw [Option.elim_some, hFloats.ofJson, hTime]
        rfl
  rw [stageMetaOf] at hMapped
  simp only [stageStep, hMapped]
  split at hElapsed <;>
  · rename_i hTruthy
    simp only [hTruthy, hElapsed, if_true, Bool.false_eq_true, if_false, Option.bind_eq_bind,
      Option.bind_some, hFloats.roundedDifference hRepresentable hPrevious,
      hFloats.max hPrevious hRepresentable, Binary64.max_difference]
    rfl

/-! ## All events -/

def latencies (rows : List (String × ChannelStage)) : List Int := rows.map fun row => row.2.latencyMs

structure Credits (py : Python) (events : List RuntimeEvent) (rows : List (String × ChannelStage))
    (previous : Nat) (rows' : List (String × ChannelStage)) (last : Nat) : Prop where
  keys : rows'.map Prod.fst =
    rows.map Prod.fst ++ ((stageKeys py events).filter fun key => key ∉ rows.map Prod.fst).eraseDups
  nonneg : (∀ latency ∈ latencies rows, 0 ≤ latency) → ∀ latency ∈ latencies rows', 0 ≤ latency
  sum (times : List Nat) (hTimes : ExactTimes times) (hPrevious : previous ∈ 0 :: times)
    (hEvents : stageTimes py events ⊆ times) :
    last = max previous (largest (stageTimes py events)) ∧
      (latencies rows').sum + previous = (latencies rows).sum + last

theorem nonneg_credited {rows : List (String × ChannelStage)} (key label : String) (gained : Nat)
    (h : ∀ latency ∈ latencies rows, 0 ≤ latency) :
    ∀ latency ∈ latencies (credited rows key label gained), 0 ≤ latency := by
  have hEarlier : 0 ≤ (Dict.get rows key).elim 0 ChannelStage.latencyMs := by
    cases hGet : Dict.get rows key with
    | none => exact le_refl 0
    | some found => exact h _ (List.mem_map.mpr ⟨_, Dict.get_mem hGet, rfl⟩)
  intro latency hLatency
  obtain ⟨row, hRow, rfl⟩ := List.mem_map.mp hLatency
  rcases Dict.mem_set.mp hRow with rfl | ⟨hRow, -⟩
  · exact add_nonneg hEarlier (Int.natCast_nonneg gained)
  · exact h _ (List.mem_map_of_mem hRow)

theorem sum_credited {rows : List (String × ChannelStage)} (hUnique : (rows.map Prod.fst).Nodup)
    (key label : String) (gained : Nat) :
    (latencies (credited rows key label gained)).sum = (latencies rows).sum + gained := by
  have hSum := Dict.sum_set ChannelStage.latencyMs hUnique key
    { label, latencyMs := (Dict.get rows key).elim 0 ChannelStage.latencyMs + gained }
  dsimp only at hSum
  rw [latencies, latencies, credited]
  omega

/-- An exact time leaves the largest time, and adds to the latencies what it grows by. -/
theorem max_timeOf {times : List Nat} (hTimes : ExactTimes times) {previous time : Nat}
    (hPrevious : previous ∈ 0 :: times) {event : RuntimeEvent}
    (hEvent : ∀ said, elapsedMs event = some said → said ∈ times)
    (hTime : timeOf previous event = some time) :
    max previous time = max previous ((elapsedMs event).getD 0) ∧ time ∈ 0 :: times ∧
      previous + Binary64.advance time previous = max previous time := by
  have hIn : time ∈ 0 :: times ∧ max previous time = max previous ((elapsedMs event).getD 0) := by
    unfold timeOf at hTime
    split at hTime
    · rename_i hZero
      cases hTime
      exact ⟨hPrevious, by rw [hZero, Nat.max_self, Nat.max_zero]⟩
    · rename_i hSaid
      cases hElapsed : elapsedMs event with
      | none => simp [hElapsed] at hSaid
      | some said =>
        have hMem := hEvent said hElapsed
        rw [hElapsed, Option.getD_some] at hTime
        have hExact : time = said := (Binary64.ofNat_eq_some hTime).trans (hTimes.exact hMem)
        subst hExact
        exact ⟨List.mem_cons_of_mem _ hMem, rfl⟩
  exact ⟨hIn.2, hIn.1, Binary64.advance_add (hTimes time hIn.1 previous hPrevious)⟩

theorem foldlM_stageStep (hFloats : WholeNumbers floats whole) (events : List RuntimeEvent)
    (hWhole : ∀ event ∈ events, StatesWhole event) (hHold : Holdable (stageTimes py events))
    (rows : List (String × ChannelStage)) (hUnique : (rows.map Prod.fst).Nodup) (previous : Nat)
    (hPrevious : Binary64.Representable previous) :
    ∃ rows' last, events.foldlM (stageStep py floats) (rows, whole previous) = some (rows', whole last) ∧
      Credits py events rows previous rows' last := by
  induction events generalizing rows previous with
  | nil =>
    refine ⟨rows, previous, rfl, by simp [stageKeys], id, fun times hTimes _ _ => ?_⟩
    simp [stageTimes, largest]
  | cons event rest ih =>
    rw [List.forall_mem_cons] at hWhole
    cases hMeta : stageMetaOf py event with
    | none =>
      have hTimes : stageTimes py (event :: rest) = stageTimes py rest := by simp [stageTimes, hMeta]
      have hKeys : stageKeys py (event :: rest) = stageKeys py rest := by simp [stageKeys, hMeta]
      obtain ⟨rows', last, hRun, hKeys', hNonneg, hSum⟩ :=
        ih hWhole.2 (hTimes ▸ hHold) rows hUnique previous hPrevious
      refine ⟨rows', last, ?_, hKeys ▸ hKeys', hNonneg, hTimes ▸ hSum⟩
      rw [List.foldlM_cons, stageStep_of_unmapped rows _ hMeta]
      exact hRun
    | some stage =>
      obtain ⟨key, label⟩ := stage
      have hTimes : stageTimes py (event :: rest) = (elapsedMs event).toList ++ stageTimes py rest := by
        cases hElapsed : elapsedMs event <;> simp [stageTimes, hMeta, hElapsed]
      have hKeys : stageKeys py (event :: rest) = key :: stageKeys py rest := by simp [stageKeys, hMeta]
      rw [hTimes] at hHold
      have hRest : Holdable (stageTimes py rest) := fun time hTime =>
        hHold time (List.mem_append_right _ hTime)
      obtain ⟨time, hTime⟩ : ∃ time, timeOf previous event = some time := by
        unfold timeOf
        split
        · exact ⟨previous, rfl⟩
        · rename_i hSaid
          cases hElapsed : elapsedMs event with
          | none => simp [hElapsed] at hSaid
          | some said =>
            rw [hElapsed] at hHold
            exact Option.isSome_iff_exists.mp (hHold said (by simp))
      have hRepresentable := representable_timeOf hPrevious hTime
      have hStep := stageStep_of_mapped hFloats rows hWhole.1 hMeta hPrevious hTime
      have hUnique' : ((credited rows key label (Binary64.advance time previous)).map Prod.fst).Nodup :=
        Dict.nodup_set hUnique key _
      obtain ⟨rows', last, hRun, hKeys', hNonneg, hSum⟩ :=
        ih hWhole.2 hRest (credited rows key label (Binary64.advance time previous)) hUnique'
          (max previous time) (representable_max hPrevious hRepresentable)
      refine ⟨rows', last, ?_, ?_, fun hRows => hNonneg (nonneg_credited key label _ hRows), ?_⟩
      · rw [List.foldlM_cons, hStep]
        exact hRun
      · rw [hKeys', credited, Dict.keys_set, hKeys]
        by_cases hKnown : key ∈ rows.map Prod.fst
        · rw [if_pos hKnown, List.filter_cons_of_neg (by simpa using hKnown)]
        · rw [if_neg hKnown, List.filter_cons_of_pos (by simpa using hKnown), List.eraseDups_cons,
            List.append_assoc, List.singleton_append, List.filter_filter]
          congr 3
          refine List.filter_congr fun other _ => ?_
          simp only [List.mem_append, List.mem_singleton]
          grind
      · intro times hExact hIn hEvents
        rw [hTimes] at hEvents ⊢
        have hSaid : ∀ said, elapsedMs event = some said → said ∈ times := fun said hElapsed =>
          hEvents (List.mem_append_left _ (by simp [hElapsed]))
        obtain ⟨hMax, hTimeIn, hAdvance⟩ := max_timeOf hExact hIn hSaid hTime
        have hMaxIn : max previous time ∈ 0 :: times := by
          rcases Nat.le_total previous time with h | h
          · rwa [Nat.max_eq_right h]
          · rwa [Nat.max_eq_left h]
        obtain ⟨hLast, hTotal⟩ :=
          hSum times hExact hMaxIn fun other hOther => hEvents (List.mem_append_right _ hOther)
        rw [sum_credited hUnique] at hTotal
        refine ⟨?_, by omega⟩
        rw [hLast, hMax]
        cases elapsedMs event with
        | none => simp
        | some said => simp [Nat.max_assoc]

/-! ## The stages -/

/-- `_channel_turn_stages` -/
def stagesOf (py : Python) (floats : Floats φ) (events : List RuntimeEvent)
    (terminal : Option RuntimeEvent) (orphaned : Bool) : Option (List Json) :=
  (stageRows py floats events).map fun rows => channelTurnStages rows terminal orphaned

/-- One stage for each key in the order first seen, none with a negative latency, and together
they last as long as the largest time where the doubles are exact. -/
structure Telescopes (py : Python) (events : List RuntimeEvent) (stages : List Json) : Prop where
  keys : stages.map (fun stage => stage.get "key") = (stageKeys py events).eraseDups.map .str
  latencies : ∃ latencies : List Int, stages.map (fun stage => stage.get "latency_ms") = latencies.map .int ∧
    (∀ latency ∈ latencies, 0 ≤ latency) ∧
    (ExactTimes (stageTimes py events) → latencies.sum = largest (stageTimes py events))

theorem map_channelTurnStages {α : Type} (read : Json → α) (shown : String × ChannelStage → α)
    (hRead : ∀ status row, read (stageJson status row) = shown row) (rows : List (String × ChannelStage))
    (terminal : Option RuntimeEvent) (orphaned : Bool) :
    (channelTurnStages rows terminal orphaned).map read = rows.map shown := by
  have hSplit : rows.dropLast ++ rows.getLast?.toList = rows := by
    cases rows.eq_nil_or_concat with
    | inl h => simp [h]
    | inr h =>
      obtain ⟨front, row, rfl⟩ := h
      simp
  conv_rhs => rw [← hSplit, List.map_append]
  simp only [channelTurnStages, List.map_append, List.map_map]
  congr 1 <;> exact List.map_congr_left fun row _ => hRead _ row

/-- For non-negative whole times that a double can hold. -/
theorem stages_telescope (hFloats : WholeNumbers floats whole) (events : List RuntimeEvent)
    (terminal : Option RuntimeEvent) (orphaned : Bool) (hWhole : ∀ event ∈ events, StatesWhole event)
    (hHold : Holdable (stageTimes py events)) :
    ∃ stages, stagesOf py floats events terminal orphaned = some stages ∧ Telescopes py events stages := by
  obtain ⟨rows, last, hRun, hKeys, hNonneg, hSum⟩ :=
    foldlM_stageStep hFloats events hWhole hHold [] List.nodup_nil 0 Binary64.representable_zero
  refine ⟨channelTurnStages rows terminal orphaned, ?_, ?_, latencies rows, ?_, ?_, fun hExact => ?_⟩
  · rw [stagesOf, stageRows, hFloats.zero, hRun]
    rfl
  · rw [map_channelTurnStages _ (fun row => .str row.1) fun _ _ => rfl]
    have hAll : (stageKeys py events).filter (fun key => key ∉ ([] : List (String × ChannelStage)).map Prod.fst) =
        stageKeys py events := by simp
    rw [hAll, List.map_nil, List.nil_append] at hKeys
    rw [← hKeys, List.map_map]
    rfl
  · rw [map_channelTurnStages _ (fun row => .int row.2.latencyMs) fun _ _ => rfl, latencies, List.map_map]
    rfl
  · exact hNonneg (by simp [latencies])
  · obtain ⟨hLast, hTotal⟩ := hSum _ hExact List.mem_cons_self (List.Subset.refl _)
    rw [Nat.zero_max] at hLast
    simpa [latencies, hLast] using hTotal

end Loop

/-! ## One event -/

namespace OneEvent

def wholeDoubles : Floats Nat where
  zero := 0
  ofJson
    | .int value => Binary64.ofNat value.toNat
    | _ => none
  roundedDifference a b := some (Binary64.difference a b)
  max := Max.max
  milliseconds elapsed := elapsed / 1000

theorem wholeNumbers_wholeDoubles : WholeNumbers wholeDoubles id where
  zero := rfl
  ofJson n := by simp [wholeDoubles]
  roundedDifference _ _ := rfl
  max _ _ := rfl

def playback (elapsedMs : Nat) : RuntimeEvent where
  eventId := "event-1"
  ts := 0
  source := .channel
  type := "channel.turn.milestone"
  payload := .obj [("milestone", .str "first_audio"), ("elapsed_ms", .int elapsedMs)]

theorem statesWhole_playback (elapsedMs : Nat) : StatesWhole (playback elapsedMs) := rfl

theorem stagesOf_playback {elapsedMs time : Nat} (hTime : timeOf 0 (playback elapsedMs) = some time) :
    stagesOf plainPython wholeDoubles [playback elapsedMs] none false =
      some [stageJson "running" ("playback", ⟨"开始播放", Binary64.advance time 0⟩)] := by
  have hStep : stageStep plainPython wholeDoubles ([], wholeDoubles.zero) (playback elapsedMs) = _ :=
    stageStep_of_mapped wholeNumbers_wholeDoubles [] (statesWhole_playback elapsedMs) rfl
      Binary64.representable_zero hTime
  rw [stagesOf, stageRows, List.foldlM_cons, hStep]
  simp [channelTurnStages, lastStageStatus, credited, Dict.get, Dict.set, Table.lookup]
  rfl

def firstInexact : Nat := 2 ^ 53 + 1

theorem round_firstInexact : Binary64.round firstInexact = 2 ^ 53 := by
  have hLog : Nat.log 2 firstInexact = 53 :=
    (Nat.log_eq_iff (by decide)).mpr ⟨by decide, by decide⟩
  rw [Binary64.round, Binary64.unit, hLog]
  decide

theorem timeOf_firstInexact : timeOf 0 (playback firstInexact) = some (2 ^ 53) := by
  have hSaid : elapsedMs (playback firstInexact) = some firstInexact := rfl
  rw [timeOf, hSaid, Option.getD_some, if_neg (by decide),
    Binary64.ofNat_of_round_le (Nat.le_of_eq round_firstInexact), round_firstInexact]

/-- The latency of a single event falls short of its time. -/
theorem latency_is_not_the_time : ¬ ∃ (stages : List Json) (shown : List Int),
    stagesOf plainPython wholeDoubles [playback firstInexact] none false = some stages ∧
      stages.map (fun stage => stage.get "latency_ms") = shown.map .int ∧
      shown.sum = largest (stageTimes plainPython [playback firstInexact]) := by
  rintro ⟨stages, shown, hStages, hShown, hSum⟩
  rw [stagesOf_playback timeOf_firstInexact] at hStages
  obtain rfl := Option.some.inj hStages
  have hAdvance : Binary64.advance (2 ^ 53) 0 = 2 ^ 53 := Binary64.exact_of_le (Nat.le_refl _)
  have hOnly : shown = [2 ^ 53] := by
    match shown, hShown with
    | [latency], hShown =>
      have hSame : Json.int (Binary64.advance (2 ^ 53) 0) = .int latency := by
        simpa [stageJson, Json.get, Json.get?] using hShown
      rw [hAdvance] at hSame
      rw [← Json.int.inj hSame]
      rfl
  have hLargest : largest (stageTimes plainPython [playback firstInexact]) = firstInexact := rfl
  rw [hOnly, hLargest] at hSum
  exact absurd hSum (by decide)

theorem holdable_playback : Holdable (stageTimes plainPython [playback 120]) := by
  have hTimes : stageTimes plainPython [playback 120] = [120] := rfl
  intro time hTime
  rw [hTimes, List.mem_singleton] at hTime
  rw [hTime, Binary64.ofNat_of_le (by decide)]
  rfl

theorem telescopes_playback : ∃ stages,
    stagesOf plainPython wholeDoubles [playback 120] none false = some stages ∧
      Telescopes plainPython [playback 120] stages :=
  stages_telescope wholeNumbers_wholeDoubles [playback 120] none false
    (by simp [statesWhole_playback]) holdable_playback

end OneEvent

end EidolonAdmin.MissionControl
