import Mathlib.Data.List.Infix
import EidolonAdmin.Foundation.Transition

/-! # The cockpit and the Owner it is about

`useMissionControlStream` over `useEventStream`, cut at its awaits. Snapshots are
asked for from several places and answered in any order; the stream of an Owner is
replaced only after the first snapshot of the next one has been awaited.
-/

namespace EidolonAdmin.Web

open Foundation.Transition

universe u v

variable {σ : Type u} {ε : Type v}

inductive RuntimeSource where
  | hub | channel | agent | memory | data | admin | missionControl
  deriving DecidableEq, Repr

inductive RuntimeSeverity where
  | info | warn | error
  deriving DecidableEq, Repr

structure RuntimeEvent (ε : Type v) where
  eventId : String
  source : RuntimeSource
  type : String
  severity : RuntimeSeverity
  content : ε
  deriving DecidableEq, Repr

inductive StreamState where
  | connecting | live | degraded
  deriving DecidableEq, Repr

inductive EventStreamStatus where
  | idle | connecting | opened | reconnecting | closed
  deriving DecidableEq, Repr

/-- The Owner something was asked for, and how many Owners had been left by then. -/
structure Asked where
  ownerId : String
  left : Nat
  deriving DecidableEq, Repr

structure Shown (α : Type u) where
  asked : Asked
  value : α
  deriving DecidableEq, Repr

inductive Resumption where
  | mounted
  | ownerChanged
  deriving DecidableEq, Repr

structure SnapshotRequest where
  asked : Asked
  next : Option Resumption
  deriving DecidableEq, Repr

structure EventStream where
  status : EventStreamStatus := .idle
  -- every `EventSource` made so far; the current one by its place
  sources : List Asked := []
  source : Option Nat := none
  deriving DecidableEq, Repr

namespace EventStream

def close (es : EventStream) : EventStream := { es with source := none, status := .closed }

def «open» (es : EventStream) (asked : Asked) : EventStream :=
  { es.close with
    status := .connecting
    sources := es.sources ++ [asked]
    source := some es.sources.length }

/-- The stream a callback of the numbered source is for: none unless it is the current one. -/
def current (es : EventStream) (number : Nat) : Option Asked :=
  if es.source = some number then es.sources[number]? else none

end EventStream

structure Cockpit (σ : Type u) (ε : Type v) where
  ownerId : String
  owners : List String := []
  snapshot : Option (Shown σ) := none
  -- how many times `snapshot` has been assigned
  replacements : Nat := 0
  liveEvents : List (Shown (RuntimeEvent ε)) := []
  loading : Bool := false
  error : String := ""
  streamState : StreamState := .connecting
  es : EventStream := {}
  mounted : Bool := false
  loadingOwners : Bool := false
  ownerWatchReady : Bool := false
  polling : Bool := false
  channelRefreshTimer : Bool := false
  unmounted : Bool := false
  requests : List SnapshotRequest := []
  resumptions : List Resumption := []
  -- the Owners shown before the current one, latest first
  left : List String := []
  deriving DecidableEq, Repr

/-- The `detail` of the response and the `message` of the error, where there are any. -/
structure LinkFault where
  detail : Option String
  message : Option String
  deriving DecidableEq, Repr

def LinkFault.text (fault : LinkFault) : String :=
  let spoken (text : Option String) : Option String := text.filter fun words => words ≠ ""
  (spoken fault.detail <|> spoken fault.message).getD "LINK FAULT // MCC OFFLINE"

def liveEventCap : Nat := 80

def appendLiveEvent (existing : List (Shown (RuntimeEvent ε))) (event : Shown (RuntimeEvent ε)) :
    List (Shown (RuntimeEvent ε)) :=
  if existing.any fun seen => seen.value.eventId = event.value.eventId then existing
  else (event :: existing).take liveEventCap

namespace Cockpit

/-- `useMissionControlStream` before it is mounted. -/
def setup (ownerId : String) : Cockpit σ ε := { ownerId }

def asking (s : Cockpit σ ε) : Asked := ⟨s.ownerId, s.left.length⟩

/-- `refresh` up to its await. -/
def refresh (s : Cockpit σ ε) (next : Option Resumption) : Cockpit σ ε :=
  { s with loading := true, requests := s.requests ++ [⟨s.asking, next⟩] }

/-- `refresh` from its await on: nothing is compared with the Owner of the moment. -/
def answer (s : Cockpit σ ε) (number : Nat) (result : Except LinkFault σ) : Cockpit σ ε :=
  match s.requests[number]? with
  | none => s
  | some request =>
    let s := { s with
      requests := s.requests.eraseIdx number
      resumptions := s.resumptions ++ request.next.toList
      loading := false }
    match result with
    | .ok value =>
      { s with snapshot := some ⟨request.asked, value⟩, replacements := s.replacements + 1, error := "" }
    | .error fault => { s with error := fault.text }

def openStream (s : Cockpit σ ε) : Cockpit σ ε :=
  { s with streamState := .connecting, es := s.es.open s.asking }

def resume (s : Cockpit σ ε) (number : Nat) : Cockpit σ ε :=
  match s.resumptions[number]? with
  | none => s
  | some next =>
    let s := { s with resumptions := s.resumptions.eraseIdx number }.openStream
    match next with
    | .mounted => { s with polling := true }
    | .ownerChanged => s

def degrades (event : RuntimeEvent ε) : Bool :=
  event.severity = .warn ∧ "degraded".toList <:+: event.type.toList

def showEvent (s : Cockpit σ ε) (asked : Asked) (event : RuntimeEvent ε) : Cockpit σ ε :=
  { s with
    liveEvents := appendLiveEvent s.liveEvents ⟨asked, event⟩
    streamState := if degrades event then .degraded else .live }

def refreshAfter (s : Cockpit σ ε) (source : RuntimeSource) : Cockpit σ ε :=
  let s := if source = .hub ∨ source = .missionControl then s.refresh none else s
  if source = .channel then { s with channelRefreshTimer := true } else s

/-- `onMessage`; `none` is a frame that `JSON.parse` refuses. -/
def onMessage (s : Cockpit σ ε) (asked : Asked) : Option (RuntimeEvent ε) → Cockpit σ ε
  | none => { s with streamState := .degraded }
  | some event => (s.showEvent asked event).refreshAfter event.source

/-- `handleFrame` of the numbered source. -/
def handleFrame (s : Cockpit σ ε) (number : Nat) (data : Option (RuntimeEvent ε)) : Cockpit σ ε :=
  match s.es.current number with
  | none => s
  | some asked => { s with es := { s.es with status := .opened } }.onMessage asked data

def sourceOpened (s : Cockpit σ ε) (number : Nat) : Cockpit σ ε :=
  match s.es.current number with
  | none => s
  | some _ => { s with es := { s.es with status := .opened } }

def sourceFailed (s : Cockpit σ ε) (number : Nat) : Cockpit σ ε :=
  match s.es.current number with
  | none => s
  | some _ => { s with es := { s.es with status := .reconnecting }, streamState := .degraded }

/-- `ownerId.value = owner` with its synchronous watcher, which ends with the component. -/
def switchOwner (s : Cockpit σ ε) (owner : String) : Cockpit σ ε :=
  if owner = s.ownerId then s
  else
    let s := { s with ownerId := owner, left := s.ownerId :: s.left }
    if s.ownerWatchReady ∧ ¬ s.unmounted then
      { s with liveEvents := [] }.refresh (some .ownerChanged)
    else s

/-- `onMounted` up to its first await. -/
def mount (s : Cockpit σ ε) : Cockpit σ ε :=
  if s.mounted then s
  else
    { s with
      mounted := true
      loadingOwners := true
      owners := if s.ownerId = "" then [] else [s.ownerId] }

def ownersLoaded (s : Cockpit σ ε) : Cockpit σ ε :=
  if s.loadingOwners then
    { s with loadingOwners := false, ownerWatchReady := true }.refresh (some .mounted)
  else s

def unmount (s : Cockpit σ ε) : Cockpit σ ε :=
  { s with polling := false, channelRefreshTimer := false, es := s.es.close, unmounted := true }

def pollTick (s : Cockpit σ ε) : Cockpit σ ε := if s.polling then s.refresh none else s

def channelRefreshDue (s : Cockpit σ ε) : Cockpit σ ε :=
  if s.channelRefreshTimer then { s with channelRefreshTimer := false }.refresh none else s

end Cockpit

inductive CockpitEvent (σ : Type u) (ε : Type v) where
  | mount
  | ownersLoaded
  | unmount
  | switchOwner (owner : String)
  | refresh
  | pollTick
  | channelRefreshDue
  | answer (number : Nat) (result : Except LinkFault σ)
  | resume (number : Nat)
  | sourceOpened (number : Nat)
  | frame (number : Nat) (data : Option (RuntimeEvent ε))
  | sourceFailed (number : Nat)

namespace Cockpit

def step (s : Cockpit σ ε) : CockpitEvent σ ε → Cockpit σ ε
  | .mount => s.mount
  | .ownersLoaded => s.ownersLoaded
  | .unmount => s.unmount
  | .switchOwner owner => s.switchOwner owner
  | .refresh => s.refresh none
  | .pollTick => s.pollTick
  | .channelRefreshDue => s.channelRefreshDue
  | .answer number result => s.answer number result
  | .resume number => s.resume number
  | .sourceOpened number => s.sourceOpened number
  | .frame number data => s.handleFrame number data
  | .sourceFailed number => s.sourceFailed number

/-- Between the two states the snapshot is not replaced by one asked for another Owner,
and no event of another Owner's stream is added. -/
def Isolated (before after : Cockpit σ ε) : Prop :=
  (after.replacements = before.replacements ∧ after.snapshot = before.snapshot ∨
    (after.snapshot.map fun shown => shown.asked.ownerId) = some after.ownerId) ∧
  ∀ shown ∈ after.liveEvents, shown ∉ before.liveEvents → shown.asked.ownerId = after.ownerId

def Isolates (s : Cockpit σ ε) (event : CockpitEvent σ ε) : Prop := Isolated s (s.step event)

/-- What arrives for the screen was asked for since the last switch: the answer of a
snapshot that is not a fault, and a frame of the current source with an event that is
not on the screen yet. -/
def Fresh (s : Cockpit σ ε) : CockpitEvent σ ε → Prop
  | .answer number (.ok _) => ∀ request ∈ s.requests[number]?, request.asked.left = s.left.length
  | .frame number (some event) =>
    (∀ seen ∈ s.liveEvents, seen.value.eventId ≠ event.eventId) →
      ∀ asked ∈ s.es.current number, asked.left = s.left.length
  | _ => True

def Onward (s : Cockpit σ ε) : CockpitEvent σ ε → Prop
  | .switchOwner owner => owner ∉ s.left
  | _ => True

instance (before after : Cockpit σ ε) [DecidableEq σ] [DecidableEq ε] :
    Decidable (Isolated before after) :=
  inferInstanceAs (Decidable ((_ ∧ _ ∨ _) ∧ ∀ shown ∈ after.liveEvents, _ → _))

instance (s : Cockpit σ ε) (event : CockpitEvent σ ε) [DecidableEq σ] [DecidableEq ε] :
    Decidable (s.Isolates event) :=
  inferInstanceAs (Decidable (Isolated _ _))

instance (s : Cockpit σ ε) : ∀ event, Decidable (s.Fresh event)
  | .answer _ (.ok _) => inferInstanceAs (Decidable (∀ request ∈ _, _))
  | .frame _ (some _) => inferInstanceAs (Decidable ((∀ seen ∈ s.liveEvents, _) → ∀ asked ∈ _, _))
  | .answer _ (.error _) => .isTrue trivial
  | .frame _ none => .isTrue trivial
  | .mount => .isTrue trivial
  | .ownersLoaded => .isTrue trivial
  | .unmount => .isTrue trivial
  | .switchOwner _ => .isTrue trivial
  | .refresh => .isTrue trivial
  | .pollTick => .isTrue trivial
  | .channelRefreshDue => .isTrue trivial
  | .resume _ => .isTrue trivial
  | .sourceOpened _ => .isTrue trivial
  | .sourceFailed _ => .isTrue trivial

/-- Asked for the Owner of the moment since the last switch, or before it for one that was left. -/
def Knows (s : Cockpit σ ε) (asked : Asked) : Prop :=
  asked.left = s.left.length ∧ asked.ownerId = s.ownerId ∨
    asked.left < s.left.length ∧ asked.ownerId ∈ s.left

structure Labelled (s : Cockpit σ ε) : Prop where
  requests : ∀ request ∈ s.requests, s.Knows request.asked
  sources : ∀ asked ∈ s.es.sources, s.Knows asked

variable {s next : Cockpit σ ε}

theorem Knows.asking (s : Cockpit σ ε) : s.Knows s.asking := .inl ⟨rfl, rfl⟩

theorem Knows.ownerId_eq {asked : Asked} (h : s.Knows asked) (hLeft : asked.left = s.left.length) :
    asked.ownerId = s.ownerId := by
  rcases h with ⟨_, hOwner⟩ | ⟨hLess, _⟩
  · exact hOwner
  · omega

theorem Knows.left_eq {asked : Asked} (h : s.Knows asked) (hNew : s.ownerId ∉ s.left)
    (hOwner : asked.ownerId = s.ownerId) : asked.left = s.left.length := by
  rcases h with ⟨hLeft, _⟩ | ⟨_, hMem⟩
  · exact hLeft
  · exact absurd (hOwner ▸ hMem) hNew

theorem Labelled.of_same (h : s.Labelled) (hOwner : next.ownerId = s.ownerId) (hLeft : next.left = s.left)
    (hRequests : ∀ request ∈ next.requests, request ∈ s.requests ∨ request.asked = s.asking)
    (hSources : ∀ asked ∈ next.es.sources, asked ∈ s.es.sources ∨ asked = s.asking) :
    next.Labelled := by
  have hKnows : ∀ asked, s.Knows asked → next.Knows asked := by
    intro asked hAsked
    unfold Knows
    rw [hOwner, hLeft]
    exact hAsked
  constructor
  · intro request hRequest
    rcases hRequests request hRequest with hOld | hAsked
    · exact hKnows _ (h.requests request hOld)
    · exact hKnows _ (hAsked ▸ Knows.asking s)
  · intro asked hAsked
    rcases hSources asked hAsked with hOld | rfl
    · exact hKnows _ (h.sources asked hOld)
    · exact hKnows _ (Knows.asking s)

theorem Labelled.refresh (h : s.Labelled) (next : Option Resumption) : (s.refresh next).Labelled := by
  refine h.of_same rfl rfl ?_ fun asked hAsked => .inl hAsked
  intro request hRequest
  rcases List.mem_append.mp hRequest with hOld | hNew
  · exact .inl hOld
  · rw [List.mem_singleton.mp hNew]
    exact .inr rfl

theorem Labelled.openStream (h : s.Labelled) : s.openStream.Labelled := by
  refine h.of_same rfl rfl (fun request hRequest => .inl hRequest) ?_
  intro asked hAsked
  rcases List.mem_append.mp hAsked with hOld | hNew
  · exact .inl hOld
  · exact .inr (List.mem_singleton.mp hNew)

theorem Labelled.answer (h : s.Labelled) (number : Nat) (result : Except LinkFault σ) :
    (s.answer number result).Labelled := by
  unfold Cockpit.answer
  split
  · exact h
  · cases result with
    | ok value =>
      exact h.of_same rfl rfl (fun request hRequest => .inl (List.mem_of_mem_eraseIdx hRequest))
        fun asked hAsked => .inl hAsked
    | error fault =>
      exact h.of_same rfl rfl (fun request hRequest => .inl (List.mem_of_mem_eraseIdx hRequest))
        fun asked hAsked => .inl hAsked

theorem Labelled.resume (h : s.Labelled) (number : Nat) : (s.resume number).Labelled := by
  unfold Cockpit.resume
  split
  · exact h
  · rename_i next _
    have hOpened : { s with resumptions := s.resumptions.eraseIdx number }.openStream.Labelled := by
      refine Labelled.openStream ?_
      exact ⟨h.requests, h.sources⟩
    cases next with
    | mounted => exact ⟨hOpened.requests, hOpened.sources⟩
    | ownerChanged => exact hOpened

theorem Labelled.refreshAfter (h : s.Labelled) (source : RuntimeSource) :
    (s.refreshAfter source).Labelled := by
  unfold Cockpit.refreshAfter
  have hAsked : (if source = .hub ∨ source = .missionControl then s.refresh none else s).Labelled := by
    split
    · exact h.refresh none
    · exact h
  simp only
  split
  · exact ⟨hAsked.requests, hAsked.sources⟩
  · exact hAsked

theorem Labelled.onMessage (h : s.Labelled) (asked : Asked) (data : Option (RuntimeEvent ε)) :
    (s.onMessage asked data).Labelled := by
  cases data with
  | none => exact ⟨h.requests, h.sources⟩
  | some event =>
    refine Labelled.refreshAfter ?_ event.source
    exact ⟨h.requests, h.sources⟩

theorem Labelled.switchOwner (h : s.Labelled) (owner : String) : (s.switchOwner owner).Labelled := by
  unfold Cockpit.switchOwner
  split
  · exact h
  · have hKnows : ∀ asked, s.Knows asked →
        Knows { s with ownerId := owner, left := s.ownerId :: s.left } asked := by
      rintro asked (⟨hLeft, hOwner⟩ | ⟨hLeft, hOwner⟩)
      · exact .inr ⟨by simp [hLeft], by simp [hOwner]⟩
      · exact .inr ⟨Nat.lt_succ_of_lt hLeft, List.mem_cons_of_mem _ hOwner⟩
    have hSwitched : Labelled { s with ownerId := owner, left := s.ownerId :: s.left } :=
      ⟨fun request hRequest => hKnows _ (h.requests request hRequest),
        fun asked hAsked => hKnows _ (h.sources asked hAsked)⟩
    simp only
    split
    · refine Labelled.refresh ?_ (some .ownerChanged)
      exact ⟨hSwitched.requests, hSwitched.sources⟩
    · exact hSwitched

theorem labelled_step (event : CockpitEvent σ ε) (h : s.Labelled) : (s.step event).Labelled := by
  cases event with
  | mount =>
    simp only [step, Cockpit.mount]
    split
    · exact h
    · exact ⟨h.requests, h.sources⟩
  | ownersLoaded =>
    simp only [step, Cockpit.ownersLoaded]
    split
    · refine Labelled.refresh ?_ (some .mounted)
      exact ⟨h.requests, h.sources⟩
    · exact h
  | unmount => exact ⟨h.requests, h.sources⟩
  | switchOwner owner => exact h.switchOwner owner
  | refresh => exact h.refresh none
  | pollTick =>
    simp only [step, Cockpit.pollTick]
    split
    · exact h.refresh none
    · exact h
  | channelRefreshDue =>
    simp only [step, Cockpit.channelRefreshDue]
    split
    · refine Labelled.refresh ?_ none
      exact ⟨h.requests, h.sources⟩
    · exact h
  | answer number result => exact h.answer number result
  | resume number => exact h.resume number
  | sourceOpened number =>
    simp only [step, Cockpit.sourceOpened]
    split
    · exact h
    · exact ⟨h.requests, h.sources⟩
  | frame number data =>
    simp only [step, Cockpit.handleFrame]
    split
    · exact h
    · refine Labelled.onMessage ?_ _ data
      exact ⟨h.requests, h.sources⟩
  | sourceFailed number =>
    simp only [step, Cockpit.sourceFailed]
    split
    · exact h
    · exact ⟨h.requests, h.sources⟩

structure Quiet (before after : Cockpit σ ε) : Prop where
  ownerId : after.ownerId = before.ownerId
  left : after.left = before.left
  snapshot : after.snapshot = before.snapshot
  replacements : after.replacements = before.replacements
  liveEvents : after.liveEvents = before.liveEvents

theorem quiet_refreshAfter (source : RuntimeSource) : Quiet s (s.refreshAfter source) := by
  cases source <;> exact ⟨rfl, rfl, rfl, rfl, rfl⟩

theorem Isolated.of_same (hReplacements : next.replacements = s.replacements)
    (hSnapshot : next.snapshot = s.snapshot) (hEvents : ∀ shown ∈ next.liveEvents, shown ∈ s.liveEvents) :
    Isolated s next :=
  ⟨.inl ⟨hReplacements, hSnapshot⟩, fun shown hShown hNew => absurd (hEvents shown hShown) hNew⟩

theorem isolated_answer_iff {number : Nat} {request : SnapshotRequest}
    (hRequest : s.requests[number]? = some request) (value : σ) :
    Isolated s (s.answer number (.ok value)) ↔ request.asked.ownerId = s.ownerId := by
  have hAnswer : s.answer number (.ok value) = { s with
      requests := s.requests.eraseIdx number
      resumptions := s.resumptions ++ request.next.toList
      loading := false
      snapshot := some ⟨request.asked, value⟩
      replacements := s.replacements + 1
      error := "" } := by
    simp only [answer, hRequest]
  rw [hAnswer]
  constructor
  · rintro ⟨⟨hSame, _⟩ | hOwner, _⟩
    · exact absurd hSame (Nat.succ_ne_self _)
    · exact Option.some.inj hOwner
  · intro hOwner
    exact ⟨.inr (congrArg some hOwner), fun shown hShown hNew => absurd hShown hNew⟩

theorem mem_appendLiveEvent {existing : List (Shown (RuntimeEvent ε))} {event shown : Shown (RuntimeEvent ε)}
    (h : shown ∈ appendLiveEvent existing event) : shown = event ∨ shown ∈ existing := by
  unfold appendLiveEvent at h
  split at h
  · exact .inr h
  · exact List.mem_cons.mp (List.mem_of_mem_take h)

theorem appendLiveEvent_of_new {existing : List (Shown (RuntimeEvent ε))} {event : Shown (RuntimeEvent ε)}
    (h : ∀ seen ∈ existing, seen.value.eventId ≠ event.value.eventId) :
    event ∈ appendLiveEvent existing event := by
  unfold appendLiveEvent
  rw [if_neg (by simpa using h)]
  exact List.mem_cons_self

theorem appendLiveEvent_of_seen {existing : List (Shown (RuntimeEvent ε))} {event : Shown (RuntimeEvent ε)}
    (h : ¬ ∀ seen ∈ existing, seen.value.eventId ≠ event.value.eventId) :
    appendLiveEvent existing event = existing := by
  unfold appendLiveEvent
  rw [if_pos (by simpa using h)]

theorem isolated_onMessage_iff (asked : Asked) (event : RuntimeEvent ε) :
    Isolated s (s.onMessage asked (some event)) ↔
      ((∀ seen ∈ s.liveEvents, seen.value.eventId ≠ event.eventId) → asked.ownerId = s.ownerId) := by
  have hQuiet := quiet_refreshAfter (s := s.showEvent asked event) event.source
  unfold Isolated onMessage
  rw [hQuiet.ownerId, hQuiet.liveEvents, hQuiet.snapshot, hQuiet.replacements]
  constructor
  · rintro ⟨_, h⟩ hNew
    exact h _ (appendLiveEvent_of_new hNew) fun hMem => hNew _ hMem rfl
  · intro h
    refine ⟨.inl ⟨rfl, rfl⟩, fun shown hShown hOld => ?_⟩
    by_cases hNew : ∀ seen ∈ s.liveEvents, seen.value.eventId ≠ event.eventId
    · rcases mem_appendLiveEvent hShown with rfl | hMem
      · exact h hNew
      · exact absurd hMem hOld
    · have hSame : (s.showEvent asked event).liveEvents = s.liveEvents := appendLiveEvent_of_seen hNew
      exact absurd (hSame ▸ hShown) hOld

theorem mem_of_current {es : EventStream} {number : Nat} {asked : Asked} (h : es.current number = some asked) :
    asked ∈ es.sources := by
  unfold EventStream.current at h
  split at h
  · exact List.mem_of_getElem? h
  · cases h

theorem isolates_frame_iff {number : Nat} {asked : Asked} (hCurrent : s.es.current number = some asked)
    (event : RuntimeEvent ε) :
    s.Isolates (.frame number (some event)) ↔
      ((∀ seen ∈ s.liveEvents, seen.value.eventId ≠ event.eventId) → asked.ownerId = s.ownerId) := by
  have hStep : s.step (.frame number (some event)) =
      { s with es := { s.es with status := .opened } }.onMessage asked (some event) := by
    simp only [step, handleFrame, hCurrent]
  unfold Isolates
  rw [hStep]
  exact isolated_onMessage_iff (s := { s with es := { s.es with status := .opened } }) asked event

theorem quiet_resume (number : Nat) : Quiet s (s.resume number) := by
  unfold resume
  split
  · exact ⟨rfl, rfl, rfl, rfl, rfl⟩
  · rename_i next _
    cases next <;> exact ⟨rfl, rfl, rfl, rfl, rfl⟩

theorem quiet_answer_error (number : Nat) (fault : LinkFault) :
    Quiet s (s.answer number (.error fault)) := by
  unfold answer
  split <;> exact ⟨rfl, rfl, rfl, rfl, rfl⟩

/-- What a step can do to the screen: a found request is answered, the current source
delivers an event, or the Owner changes. -/
theorem step_cases (s : Cockpit σ ε) (event : CockpitEvent σ ε) :
    Quiet s (s.step event) ∨
    (∃ number value request, event = .answer number (.ok value) ∧
      s.requests[number]? = some request) ∨
    (∃ number message asked, event = .frame number (some message) ∧
      s.es.current number = some asked) ∨
    (∃ owner, event = .switchOwner owner ∧ owner ≠ s.ownerId) := by
  cases event with
  | switchOwner owner =>
    by_cases hSame : owner = s.ownerId
    · left
      simp only [step, switchOwner, if_pos hSame]
      exact ⟨rfl, rfl, rfl, rfl, rfl⟩
    · exact .inr (.inr (.inr ⟨owner, rfl, hSame⟩))
  | answer number result =>
    cases result with
    | error fault => exact .inl (quiet_answer_error number fault)
    | ok value =>
      cases hRequest : s.requests[number]? with
      | none =>
        left
        simp only [step, answer, hRequest]
        exact ⟨rfl, rfl, rfl, rfl, rfl⟩
      | some request => exact .inr (.inl ⟨number, value, request, rfl, hRequest⟩)
  | frame number data =>
    cases hCurrent : s.es.current number with
    | none =>
      left
      simp only [step, handleFrame, hCurrent]
      exact ⟨rfl, rfl, rfl, rfl, rfl⟩
    | some asked =>
      cases data with
      | none =>
        left
        simp only [step, handleFrame, hCurrent, onMessage]
        exact ⟨rfl, rfl, rfl, rfl, rfl⟩
      | some message => exact .inr (.inr (.inl ⟨number, message, asked, rfl, hCurrent⟩))
  | resume number => exact .inl (quiet_resume number)
  | unmount => exact .inl ⟨rfl, rfl, rfl, rfl, rfl⟩
  | refresh => exact .inl ⟨rfl, rfl, rfl, rfl, rfl⟩
  | mount | ownersLoaded | pollTick | channelRefreshDue | sourceOpened | sourceFailed =>
    left
    simp only [step, mount, ownersLoaded, pollTick, channelRefreshDue, sourceOpened, sourceFailed]
    split <;> exact ⟨rfl, rfl, rfl, rfl, rfl⟩

theorem switchOwner_shows {owner : String} (h : owner ≠ s.ownerId) :
    (s.switchOwner owner).ownerId = owner ∧ (s.switchOwner owner).left = s.ownerId :: s.left ∧
      Isolated s (s.switchOwner owner) := by
  simp only [switchOwner, if_neg h]
  split
  · exact ⟨rfl, rfl, .of_same rfl rfl fun shown hShown => absurd hShown (List.not_mem_nil)⟩
  · exact ⟨rfl, rfl, .of_same rfl rfl fun shown hShown => hShown⟩

theorem isolates_of_fresh (event : CockpitEvent σ ε) (hFresh : s.Fresh event) (h : s.Labelled) :
    s.Isolates event := by
  obtain hQuiet | ⟨number, value, request, rfl, hRequest⟩ | ⟨number, message, asked, rfl, hCurrent⟩ |
    ⟨owner, rfl, hOwner⟩ := s.step_cases event
  · exact .of_same hQuiet.replacements hQuiet.snapshot fun shown hShown => hQuiet.liveEvents ▸ hShown
  · refine (isolated_answer_iff hRequest value).mpr ?_
    exact (h.requests request (List.mem_of_getElem? hRequest)).ownerId_eq (hFresh request hRequest)
  · refine (isolates_frame_iff hCurrent message).mpr fun hNew => ?_
    exact (h.sources asked (mem_of_current hCurrent)).ownerId_eq (hFresh hNew asked hCurrent)
  · exact (switchOwner_shows hOwner).2.2

theorem fresh_of_isolates (event : CockpitEvent σ ε) (hIsolates : s.Isolates event) (h : s.Labelled)
    (hOnward : s.ownerId ∉ s.left) : s.Fresh event := by
  cases event with
  | answer number result =>
    cases result with
    | error fault => trivial
    | ok value =>
      intro request hRequest
      refine (h.requests request (List.mem_of_getElem? hRequest)).left_eq hOnward ?_
      exact (isolated_answer_iff hRequest value).mp hIsolates
  | frame number data =>
    cases data with
    | none => trivial
    | some message =>
      intro hNew asked hCurrent
      refine (h.sources asked (mem_of_current hCurrent)).left_eq hOnward ?_
      exact (isolates_frame_iff hCurrent message).mp hIsolates hNew
  | _ => trivial

theorem onward_step (event : CockpitEvent σ ε) (hOnward : s.Onward event) (h : s.ownerId ∉ s.left) :
    (s.step event).ownerId ∉ (s.step event).left := by
  obtain hQuiet | ⟨number, value, request, rfl, hRequest⟩ | ⟨number, message, asked, rfl, hCurrent⟩ |
    ⟨owner, rfl, hOwner⟩ := s.step_cases event
  · rw [hQuiet.ownerId, hQuiet.left]
    exact h
  · simpa only [step, answer, hRequest] using h
  · simp only [step, handleFrame, hCurrent, onMessage]
    rw [(quiet_refreshAfter message.source).ownerId, (quiet_refreshAfter message.source).left]
    exact h
  · obtain ⟨hNext, hLeft, _⟩ := switchOwner_shows hOwner
    simp only [step]
    rw [hNext, hLeft]
    simp only [List.mem_cons, not_or]
    exact ⟨hOwner, hOnward⟩

theorem labelled_setup (ownerId : String) : (setup ownerId : Cockpit σ ε).Labelled :=
  ⟨fun _ hRequest => absurd hRequest List.not_mem_nil,
    fun _ hAsked => absurd hAsked List.not_mem_nil⟩

/-- The screen stays with its Owner in every run in which whatever arrives for it was asked
for since the last switch; where no Owner is returned to, in no other run. -/
theorem cockpit_owner_isolation (ownerId : String) (events : List (CockpitEvent σ ε)) :
    (Meets step Fresh (setup ownerId) events → Meets step Isolates (setup ownerId) events) ∧
    (Meets step Onward (setup ownerId) events →
      (Meets step Isolates (setup ownerId) events ↔ Meets step Fresh (setup ownerId) events)) := by
  have hFresh : Meets step Fresh (setup ownerId) events →
      Meets step Isolates (setup ownerId) events := by
    intro hMeets
    exact hMeets.imp (fun s event _ h => labelled_step event h)
      (fun s event hEvent h => isolates_of_fresh event hEvent h) (labelled_setup ownerId)
  refine ⟨hFresh, fun hOnward => ⟨fun hIsolates => ?_, hFresh⟩⟩
  have hBoth := (meets_and step Onward Isolates (setup ownerId) events).mpr ⟨hOnward, hIsolates⟩
  refine hBoth.imp (P := fun s => s.Labelled ∧ s.ownerId ∉ s.left) ?_ ?_
    ⟨labelled_setup ownerId, List.not_mem_nil⟩
  · rintro s event ⟨hEvent, _⟩ ⟨hLabelled, hLeft⟩
    exact ⟨labelled_step event hLabelled, onward_step event hEvent hLeft⟩
  · rintro s event ⟨_, hEvent⟩ ⟨hLabelled, hLeft⟩
    exact fresh_of_isolates event hEvent hLabelled hLeft

section Runs

def switched : List (CockpitEvent String Unit) :=
  [.mount, .ownersLoaded, .answer 0 (.ok "a"), .resume 0, .pollTick, .switchOwner "owner-b"]

def admitted (eventId : String) : RuntimeEvent Unit :=
  { eventId, source := .hub, type := "device_admitted", severity := .info, content := () }

theorem cockpit_owner_isolation_settled :
    Meets step Fresh (setup "owner-a" : Cockpit String Unit)
      (switched ++ [.answer 1 (.ok "b"), .resume 0, .frame 1 (some (admitted "event-b"))]) ∧
    Meets step Isolates (setup "owner-a" : Cockpit String Unit)
      (switched ++ [.answer 1 (.ok "b"), .resume 0, .frame 1 (some (admitted "event-b"))]) :=
  ⟨by decide, (cockpit_owner_isolation "owner-a" _).1 (by decide)⟩

theorem switched_shows_left_owner :
    ¬ Meets step Isolates (setup "owner-a" : Cockpit String Unit)
      (switched ++ [.answer 1 (.ok "b"), .answer 0 (.ok "a")]) ∧
    ¬ Meets step Isolates (setup "owner-a" : Cockpit String Unit)
      (switched ++ [.frame 0 (some (admitted "event-a"))]) := by
  decide

end Runs

end Cockpit

end EidolonAdmin.Web
