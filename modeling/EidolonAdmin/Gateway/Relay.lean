import Mathlib.Data.List.Induction
import EidolonAdmin.Foundation.EventSource
import EidolonAdmin.Foundation.Transition

/-! # Passing an upstream's event stream on

`_stream_sse_with_heartbeat` of the gateway: a task of its own reads the upstream's chunks into a
queue, the body of the response takes them out, and where none comes for two seconds it hands over
a comment instead. The queue has no bound, so that the task gives way at the upstream only. The body is
an asynchronous generator: nothing of it runs before it is asked for its first piece.
-/

namespace EidolonAdmin.Gateway

open Foundation Foundation.Transition Foundation.EventSource

def sseHeartbeatBytes : Bytes := ascii ": keepalive" ++ [newline, newline]

/-- An entry of the queue; the last one is the source's `None`. -/
inductive QueueItem where
  | chunk (bytes : Bytes)
  | failure (text : String)
  | done
deriving DecidableEq, Repr

inductive Piece where
  | chunk (bytes : Bytes)
  | heartbeat
deriving DecidableEq, Repr

def Piece.bytes : Piece → Bytes
  | chunk bytes => bytes
  | heartbeat => sseHeartbeatBytes

/-- The body was not asked for anything yet; it waits for the queue, stands at a `yield`, or is over:
returned, with the upstream's exception, or closed from outside. It is forsaken when the client leaves
before the first read. -/
inductive BodyPhase where
  | unstarted
  | waiting
  | yielded
  | returned
  | raised (text : String)
  | left
  | forsaken
deriving DecidableEq, Repr

namespace BodyPhase

/-- Inside the `try` of the body. -/
def Running : BodyPhase → Prop
  | waiting | yielded => True
  | unstarted | returned | raised _ | left | forsaken => False

/-- Behind its `finally`. -/
def Over : BodyPhase → Prop
  | returned | raised _ | left => True
  | unstarted | waiting | yielded | forsaken => False

instance : DecidablePred Running
  | .waiting | .yielded => .isTrue trivial
  | .unstarted | .returned | .raised _ | .left | .forsaken => .isFalse id

instance : DecidablePred Over
  | .returned | .raised _ | .left => .isTrue trivial
  | .unstarted | .waiting | .yielded | .forsaken => .isFalse id

theorem Running.not_over {phase : BodyPhase} (h : phase.Running) : ¬ phase.Over := by
  cases phase <;> first | exact id | exact h.elim

end BodyPhase

inductive UpstreamEnd where
  | finished
  | failed (text : String)
deriving DecidableEq, Repr

/-- `received` is what the reading task took from the upstream, and `upstreamEnd` how that ended, once
it did; `closes` counts `aclose`. -/
structure Relay where
  queue : List QueueItem := []
  phase : BodyPhase := .unstarted
  pieces : List Piece := []
  received : List Bytes := []
  upstreamEnd : Option UpstreamEnd := none
  readerCancelled : Bool := false
  closes : Nat := 0
deriving DecidableEq, Repr

inductive RelayEvent where
  | started
  | chunkRead (bytes : Bytes)
  | upstreamEnded (how : UpstreamEnd)
  | itemTaken
  | timedOut
  | resumed
  | bodyClosed
deriving DecidableEq, Repr

namespace Relay

def readerDone (relay : Relay) : Prop := relay.upstreamEnd.isSome ∨ relay.readerCancelled

instance (relay : Relay) : Decidable relay.readerDone := inferInstanceAs (Decidable (_ ∨ _))

/-- The `finally` of the body. -/
def finish (relay : Relay) (phase : BodyPhase) : Relay :=
  { relay with
    phase
    readerCancelled := relay.readerCancelled || !decide relay.readerDone
    closes := relay.closes + 1 }

/-- What the task puts into the queue when the upstream has no more. -/
def endItems : UpstreamEnd → List QueueItem
  | .finished => [.done]
  | .failed text => [.failure text, .done]

/-- The task of the body reads on: it was created, and neither ended nor was cancelled. -/
def Reading (relay : Relay) : Prop := relay.phase.Running ∧ ¬ relay.readerDone

instance (relay : Relay) : Decidable relay.Reading := inferInstanceAs (Decidable (_ ∧ _))

/-- An event that finds the relay elsewhere leaves it as it is. -/
def step (relay : Relay) : RelayEvent → Relay
  | .started => if relay.phase = .unstarted then { relay with phase := .waiting } else relay
  | .chunkRead bytes =>
    if relay.Reading then
      { relay with queue := relay.queue ++ [.chunk bytes], received := relay.received ++ [bytes] }
    else relay
  | .upstreamEnded how =>
    if relay.Reading then { relay with queue := relay.queue ++ endItems how, upstreamEnd := some how }
    else relay
  | .itemTaken =>
    match relay.phase, relay.queue with
    | .waiting, .chunk bytes :: rest =>
      { relay with queue := rest, phase := .yielded, pieces := relay.pieces ++ [.chunk bytes] }
    | .waiting, .failure text :: rest => { relay with queue := rest }.finish (.raised text)
    | .waiting, .done :: rest => { relay with queue := rest }.finish .returned
    | _, _ => relay
  | .timedOut =>
    if relay.phase = .waiting then { relay with phase := .yielded, pieces := relay.pieces ++ [.heartbeat] }
    else relay
  | .resumed => if relay.phase = .yielded then { relay with phase := .waiting } else relay
  | .bodyClosed =>
    if relay.phase.Running then relay.finish .left
    -- What was not entered has no `finally` to run: neither the task nor the upstream is touched.
    else if relay.phase = .unstarted then { relay with phase := .forsaken }
    else relay

def afterEvents (events : List RelayEvent) : Relay := run step {} events

def chunks : List Piece → List Bytes
  | [] => []
  | .chunk bytes :: rest => bytes :: chunks rest
  | .heartbeat :: rest => chunks rest

def bytesOf (pieces : List Piece) : Bytes := pieces.flatMap Piece.bytes

/-! ## Nothing is lost, repeated or overtaken -/

def queuedChunks : List QueueItem → List Bytes
  | [] => []
  | .chunk bytes :: rest => bytes :: queuedChunks rest
  | .failure _ :: rest | .done :: rest => queuedChunks rest

/-- The queue of a relay whose body goes on: chunks, and behind them how the upstream ended. -/
structure Conserved (relay : Relay) : Prop where
  pending : relay.phase.Running → ∃ waiting,
    relay.queue = waiting.map .chunk ++ (relay.upstreamEnd.map endItems).getD [] ∧
      relay.received = chunks relay.pieces ++ waiting
  unentered : ¬ relay.phase.Running → ¬ relay.phase.Over → relay = { phase := relay.phase }
  returned : relay.phase = .returned →
    relay.upstreamEnd = some .finished ∧ chunks relay.pieces = relay.received
  raised : ∀ text, relay.phase = .raised text →
    relay.upstreamEnd = some (.failed text) ∧ chunks relay.pieces = relay.received
  part : chunks relay.pieces <+: relay.received
  closes : relay.closes = if relay.phase.Over then 1 else 0
  stopped : relay.phase.Over → relay.readerDone

variable {relay : Relay}

theorem chunks_append (first second : List Piece) : chunks (first ++ second) = chunks first ++ chunks second := by
  induction first with
  | nil => rfl
  | cons piece rest ih =>
    cases piece with
    | chunk bytes => exact congrArg (bytes :: ·) ih
    | heartbeat => exact ih

theorem not_readerDone_iff : ¬ relay.readerDone ↔ relay.upstreamEnd = none ∧ relay.readerCancelled = false := by
  unfold readerDone
  cases relay.upstreamEnd <;> simp

theorem readerDone_finish (relay : Relay) (phase : BodyPhase) : (relay.finish phase).readerDone := by
  by_cases h : relay.readerDone
  · exact h.imp_right fun hCancelled => by simp [finish, hCancelled]
  · exact .inr (by simp [finish, h])

theorem Conserved.outside {phase : BodyPhase} (hRunning : ¬ phase.Running) (hOver : ¬ phase.Over) :
    Conserved { phase := phase } where
  pending h := absurd h hRunning
  unentered _ _ := rfl
  returned (h : phase = .returned) := absurd (h ▸ trivial) hOver
  raised _ (h : phase = .raised _) := absurd (h ▸ trivial) hOver
  part := List.prefix_rfl
  closes := (if_neg hOver).symm
  stopped h := absurd h hOver

theorem Conserved.unclosed (h : Conserved relay) (hRunning : relay.phase.Running) : relay.closes = 0 :=
  h.closes.trans (if_neg hRunning.not_over)

/-- While the body goes on, the queue says it all. -/
theorem Conserved.of_running (hRunning : relay.phase.Running) (waiting : List Bytes)
    (hQueue : relay.queue = waiting.map .chunk ++ (relay.upstreamEnd.map endItems).getD [])
    (hReceived : relay.received = chunks relay.pieces ++ waiting) (hCloses : relay.closes = 0) : Conserved relay where
  pending _ := ⟨waiting, hQueue, hReceived⟩
  unentered hOutside := absurd hRunning hOutside
  returned hPhase := absurd (hPhase ▸ trivial) hRunning.not_over
  raised _ hPhase := absurd (hPhase ▸ trivial) hRunning.not_over
  part := ⟨waiting, hReceived.symm⟩
  closes := hCloses.trans (if_neg hRunning.not_over).symm
  stopped hOver := absurd hOver hRunning.not_over

theorem Conserved.chunkRead (h : Conserved relay) (hReading : relay.Reading) (bytes : Bytes) :
    Conserved { relay with queue := relay.queue ++ [.chunk bytes], received := relay.received ++ [bytes] } := by
  obtain ⟨hRunning, hReader⟩ := hReading
  obtain ⟨waiting, hQueue, hReceived⟩ := h.pending hRunning
  obtain ⟨hEnd, _⟩ := not_readerDone_iff.mp hReader
  refine .of_running hRunning (waiting ++ [bytes]) ?_ ?_ (h.unclosed hRunning)
  · simp [hQueue, hEnd]
  · simp [hReceived]

theorem Conserved.upstreamEnded (h : Conserved relay) (hReading : relay.Reading) (how : UpstreamEnd) :
    Conserved { relay with queue := relay.queue ++ endItems how, upstreamEnd := some how } := by
  obtain ⟨hRunning, hReader⟩ := hReading
  obtain ⟨waiting, hQueue, hReceived⟩ := h.pending hRunning
  obtain ⟨hEnd, _⟩ := not_readerDone_iff.mp hReader
  refine .of_running hRunning waiting ?_ hReceived (h.unclosed hRunning)
  simp [hQueue, hEnd]

theorem Conserved.finish (h : Conserved relay) (hRunning : relay.phase.Running) (queue : List QueueItem)
    (phase : BodyPhase) (hPhase : phase.Over)
    (hReturned : phase = .returned → relay.upstreamEnd = some .finished ∧ chunks relay.pieces = relay.received)
    (hRaised : ∀ text, phase = .raised text →
      relay.upstreamEnd = some (.failed text) ∧ chunks relay.pieces = relay.received) :
    Conserved ({ relay with queue := queue }.finish phase) where
  pending hGoes := absurd hPhase hGoes.not_over
  unentered _ hOver := absurd hPhase hOver
  returned := hReturned
  raised := hRaised
  part := h.part
  closes := (congrArg (· + 1) (h.closes.trans (if_neg hRunning.not_over))).trans (if_pos hPhase).symm
  stopped _ := readerDone_finish _ _

theorem map_chunk_cons {waiting : List Bytes} {bytes : Bytes} {rest last : List QueueItem}
    (hLast : ∀ entry ∈ last, ∀ bytes, entry ≠ .chunk bytes)
    (h : QueueItem.chunk bytes :: rest = waiting.map .chunk ++ last) :
    ∃ others, waiting = bytes :: others ∧ rest = others.map .chunk ++ last := by
  cases waiting with
  | nil =>
    have hMem : QueueItem.chunk bytes ∈ last := by
      rw [List.map_nil, List.nil_append] at h
      exact h ▸ List.mem_cons_self
    exact absurd rfl (hLast _ hMem bytes)
  | cons first others =>
    obtain ⟨hHead, hTail⟩ := List.cons_eq_cons.mp h
    exact ⟨others, by rw [QueueItem.chunk.inj hHead], hTail⟩

theorem endItems_ne_chunk (how : Option UpstreamEnd) :
    ∀ entry ∈ (how.map endItems).getD [], ∀ bytes, entry ≠ .chunk bytes := by
  intro entry hEntry bytes hSame
  subst hSame
  rcases how with _ | (_ | _) <;> simp [endItems] at hEntry

/-- An entry in front that is no chunk says how the upstream ended, and nothing waits before it. -/
theorem ended_of_cons {waiting : List Bytes} {how : Option UpstreamEnd} {entry : QueueItem} {rest : List QueueItem}
    (hEntry : ∀ bytes, entry ≠ .chunk bytes) (h : entry :: rest = waiting.map .chunk ++ (how.map endItems).getD []) :
    waiting = [] ∧ ∃ ending, how = some ending ∧ entry :: rest = endItems ending := by
  cases waiting with
  | nil =>
    cases how with
    | none => exact absurd h (List.cons_ne_nil _ _)
    | some ending => exact ⟨rfl, ending, rfl, h⟩
  | cons first others => exact absurd (List.cons_eq_cons.mp h).1 (hEntry first)

theorem Conserved.itemTaken (h : Conserved relay) : Conserved (relay.step .itemTaken) := by
  obtain ⟨queue, phase, pieces, received, upstreamEnd, readerCancelled, closes⟩ := relay
  cases phase with
  | unstarted | yielded | returned | raised | left | forsaken => exact h
  | waiting =>
    have hRunning : BodyPhase.waiting.Running := trivial
    obtain ⟨waiting, hQueue, hReceived⟩ := h.pending hRunning
    simp only at hQueue hReceived
    cases queue with
    | nil => exact h
    | cons entry rest =>
      cases entry with
      | chunk bytes =>
        obtain ⟨others, rfl, hRest⟩ := map_chunk_cons (endItems_ne_chunk upstreamEnd) hQueue
        have hTaken : received = chunks (pieces ++ [.chunk bytes]) ++ others := by
          rw [hReceived, chunks_append, List.append_assoc]
          rfl
        have hYielded : BodyPhase.yielded.Running := trivial
        exact .of_running hYielded others hRest hTaken (h.unclosed hRunning)
      | failure text =>
        obtain ⟨rfl, ending, rfl, hItems⟩ := ended_of_cons (by simp) hQueue
        have hEnding : ending = .failed text := by
          cases ending <;> simp_all [endItems]
        refine h.finish hRunning rest (.raised text) trivial (by simp) fun other hOther => ?_
        rw [hEnding, BodyPhase.raised.inj hOther]
        exact ⟨rfl, by simp [hReceived]⟩
      | done =>
        obtain ⟨rfl, ending, rfl, hItems⟩ := ended_of_cons (by simp) hQueue
        have hEnding : ending = .finished := by
          cases ending <;> simp_all [endItems]
        refine h.finish hRunning rest .returned trivial (fun _ => ?_) (by simp)
        rw [hEnding]
        exact ⟨rfl, by simp [hReceived]⟩

theorem Conserved.goesOn (h : Conserved relay) (hRunning : relay.phase.Running) {phase : BodyPhase}
    (hPhase : phase.Running) {pieces : List Piece} (hPieces : chunks pieces = chunks relay.pieces) :
    Conserved { relay with phase := phase, pieces := pieces } := by
  obtain ⟨waiting, hQueue, hReceived⟩ := h.pending hRunning
  have hTaken : relay.received = chunks pieces ++ waiting := hReceived.trans (congrArg (· ++ waiting) hPieces.symm)
  exact .of_running hPhase waiting hQueue hTaken (h.unclosed hRunning)

theorem Conserved.started (h : Conserved relay) (hPhase : relay.phase = .unstarted) :
    Conserved { relay with phase := .waiting } := by
  have hRelay := h.unentered (hPhase ▸ id) (hPhase ▸ id)
  have hWaiting : BodyPhase.waiting.Running := trivial
  rw [hRelay]
  exact .of_running hWaiting [] rfl rfl rfl

theorem Conserved.step (h : Conserved relay) (event : RelayEvent) : Conserved (relay.step event) := by
  cases event with
  | started =>
    simp only [Relay.step]
    split
    case isTrue hPhase => exact h.started hPhase
    case isFalse => exact h
  | chunkRead bytes =>
    simp only [Relay.step]
    split
    case isTrue hReading => exact h.chunkRead hReading bytes
    case isFalse => exact h
  | upstreamEnded how =>
    simp only [Relay.step]
    split
    case isTrue hReading => exact h.upstreamEnded hReading how
    case isFalse => exact h
  | itemTaken => exact h.itemTaken
  | timedOut =>
    simp only [Relay.step]
    split
    case isFalse => exact h
    case isTrue hPhase =>
      have hRunning : relay.phase.Running := hPhase ▸ trivial
      have hYielded : BodyPhase.yielded.Running := trivial
      exact h.goesOn hRunning hYielded (by rw [chunks_append]; exact List.append_nil _)
  | resumed =>
    simp only [Relay.step]
    split
    case isFalse => exact h
    case isTrue hPhase =>
      have hRunning : relay.phase.Running := hPhase ▸ trivial
      have hWaiting : BodyPhase.waiting.Running := trivial
      exact h.goesOn hRunning hWaiting rfl
  | bodyClosed =>
    simp only [Relay.step]
    split
    case isTrue hRunning =>
      exact h.finish hRunning relay.queue .left trivial (fun hPhase => nomatch hPhase) fun _ hPhase => nomatch hPhase
    case isFalse =>
      split
      case isFalse => exact h
      case isTrue hPhase =>
        have hRelay := h.unentered (hPhase ▸ id) (hPhase ▸ id)
        rw [hRelay]
        exact .outside id id

theorem conserved_afterEvents (events : List RelayEvent) : Conserved (afterEvents events) :=
  run_invariant (fun _ event h => h.step event) (.outside id id) events

/-! ## Everything arrives -/

def outcome : UpstreamEnd → BodyPhase
  | .finished => .returned
  | .failed text => .raised text

/-- The client asks on, and the body takes the next entry. -/
def takes (n : Nat) : List RelayEvent := (List.replicate n [RelayEvent.resumed, .itemTaken]).flatten

theorem takes_succ (n : Nat) : takes (n + 1) = .resumed :: .itemTaken :: takes n := rfl

theorem step_resumed (hRunning : relay.phase.Running) : relay.step .resumed = { relay with phase := .waiting } := by
  obtain ⟨queue, phase, pieces, received, upstreamEnd, readerCancelled, closes⟩ := relay
  cases phase with
  | waiting | yielded => rfl
  | unstarted | returned | raised | left | forsaken => exact hRunning.elim

theorem run_takes (how : UpstreamEnd) (waiting : List Bytes) {relay : Relay} (hRunning : relay.phase.Running)
    (hQueue : relay.queue = waiting.map .chunk ++ endItems how) :
    (run step relay (takes (waiting.length + 1))).phase = outcome how := by
  induction waiting generalizing relay with
  | nil =>
    rw [takes_succ, run_cons, run_cons, step_resumed hRunning]
    simp only [step, hQueue]
    cases how <;> rfl
  | cons bytes rest ih =>
    rw [List.length_cons, takes_succ, run_cons, run_cons, step_resumed hRunning]
    simp only [step, hQueue]
    exact ih trivial rfl

theorem step_forsaken (h : relay.phase = .forsaken) (event : RelayEvent) : relay.step event = relay := by
  obtain ⟨queue, phase, pieces, received, upstreamEnd, readerCancelled, closes⟩ := relay
  obtain rfl : phase = .forsaken := h
  cases event <;> rfl

/-- What a run of the relay comes to, whatever the order of its events. -/
structure Relays (relay : Relay) : Prop where
  part : chunks relay.pieces <+: relay.received
  returned : relay.phase = .returned → relay.upstreamEnd = some .finished ∧ chunks relay.pieces = relay.received
  raised : ∀ text, relay.phase = .raised text →
    relay.upstreamEnd = some (.failed text) ∧ chunks relay.pieces = relay.received
  /-- A client that goes on reading comes to the end that the upstream came to. -/
  arrives : ∀ how, relay.upstreamEnd = some how → ¬ relay.phase.Over →
    ∃ n, (run step relay (takes n)).phase = outcome how
  closes : relay.closes = if relay.phase.Over then 1 else 0
  stopped : relay.phase.Over → relay.readerDone
  /-- A client that left before the first read got nothing, and the upstream stays open for good. -/
  forsaken : relay.phase = .forsaken → relay.pieces = [] ∧ ∀ events, (run step relay events).closes = 0

/-- Whatever order the first read, chunks, the end of the upstream, timeouts, reads and the client's leaving
come in, the client gets the upstream's chunks one by one, the end or the upstream's exception only behind
the last of them, and the upstream is closed once the body is over, if it was entered at all. -/
theorem relays_afterEvents (events : List RelayEvent) : Relays (afterEvents events) := by
  have h := conserved_afterEvents events
  refine ⟨h.part, h.returned, h.raised, ?_, h.closes, h.stopped, ?_⟩
  · intro how hEnd hOver
    have hRunning : (afterEvents events).phase.Running := by
      by_contra hOutside
      rw [h.unentered hOutside hOver] at hEnd
      cases hEnd
    obtain ⟨waiting, hQueue, _⟩ := h.pending hRunning
    rw [hEnd] at hQueue
    exact ⟨waiting.length + 1, run_takes how waiting hRunning hQueue⟩
  · intro hPhase
    have hRelay : afterEvents events = { phase := .forsaken } :=
      hPhase ▸ h.unentered (hPhase ▸ id) (hPhase ▸ id)
    rw [hRelay]
    refine ⟨rfl, fun more => ?_⟩
    have hStays : run step { phase := .forsaken } more = { phase := .forsaken } :=
      run_invariant (P := fun relay => relay = { phase := .forsaken })
        (fun relay event hSame => (step_forsaken (hSame ▸ rfl) event).trans hSame) rfl more
    rw [hStays]

/-! ## What the page reads -/

theorem sseHeartbeatBytes_eq : sseHeartbeatBytes = comment (ascii " keepalive") := by decide

theorem bytesOf_append (first second : List Piece) : bytesOf (first ++ second) = bytesOf first ++ bytesOf second :=
  List.flatMap_append

theorem indistinct_heartbeat_iff (bytes : Bytes) :
    Indistinct (bytes ++ sseHeartbeatBytes) bytes ↔ bytes ≠ [] ∧ (readerOf bytes).Idle := by
  have hText : Plain (colon :: ascii " keepalive") := by decide
  rw [sseHeartbeatBytes_eq]
  exact indistinct_comment_iff hText bytes

/-- Every heartbeat of the pieces comes where the upstream's bytes before it, of which there are some, end
between two events. -/
def HeartbeatsBetweenEvents (pieces : List Piece) : Prop :=
  ∀ before after, pieces = before ++ .heartbeat :: after →
    (chunks before).flatten ≠ [] ∧ (readerOf (chunks before).flatten).Idle

/-- At every point of the stream, whatever still comes, the page reads what it would read of the upstream itself. -/
def Transparent (pieces : List Piece) : Prop :=
  ∀ before, before <+: pieces → Indistinct (bytesOf before) (chunks before).flatten

theorem indistinct_of_betweenEvents {pieces : List Piece} (h : HeartbeatsBetweenEvents pieces) :
    Indistinct (bytesOf pieces) (chunks pieces).flatten := by
  induction pieces using List.reverseRecOn with
  | nil => exact .refl _
  | append_singleton pieces piece ih =>
    have hSame := ih fun before after hSplit => h before (after ++ [piece]) (by rw [hSplit]; simp)
    rw [bytesOf_append, chunks_append, List.flatten_append]
    cases piece with
    | chunk bytes =>
      have hBytes : bytesOf [.chunk bytes] = (chunks [.chunk bytes]).flatten := rfl
      rw [hBytes]
      exact hSame.append _
    | heartbeat =>
      have hBytes : bytesOf [.heartbeat] = sseHeartbeatBytes := List.append_nil _
      have hSilent : (chunks [.heartbeat]).flatten = [] := rfl
      rw [hBytes, hSilent, List.append_nil]
      exact (hSame.append _).trans ((indistinct_heartbeat_iff _).mpr (h pieces [] rfl))

theorem transparent_iff (pieces : List Piece) : Transparent pieces ↔ HeartbeatsBetweenEvents pieces := by
  constructor
  · rintro h before after rfl
    have hBefore := h before (List.prefix_append _ _)
    have hAfter := h (before ++ [.heartbeat]) ⟨after, by simp⟩
    have hBytes : bytesOf [.heartbeat] = sseHeartbeatBytes := List.append_nil _
    have hSilent : (chunks [.heartbeat]).flatten = [] := rfl
    rw [bytesOf_append, hBytes, chunks_append, List.flatten_append, hSilent, List.append_nil] at hAfter
    exact (indistinct_heartbeat_iff _).mp ((hBefore.symm.append _).trans hAfter)
  · rintro h before ⟨rest, rfl⟩
    exact indistinct_of_betweenEvents fun first second hSplit => h first (second ++ rest) (by rw [hSplit]; simp)

/-- The heartbeats of a relay cannot be told from silence exactly where each of them falls between two events
of the upstream. -/
theorem transparent_afterEvents (events : List RelayEvent) :
    Transparent (afterEvents events).pieces ↔ HeartbeatsBetweenEvents (afterEvents events).pieces :=
  transparent_iff _

end Relay

end EidolonAdmin.Gateway
