import Mathlib.Data.List.Basic
import Mathlib.Data.List.ReduceOption
import EidolonAdmin.Foundation.Lines
import EidolonAdmin.Tools.SerialPorts

/-! # The log of a tool job and the streams that follow it

`_append`, `stream_job` and the end of `_run_job`, of the ESP32 and of the mobile tools. A
line is written to the log file and put into the queues within one turn of the event loop;
a stream gives way at each line it hands over, also between its last line of history and
the making of its queue.
-/

namespace EidolonAdmin.Tools

open Foundation.Transition Foundation.Lines

inductive Tool where
  | esp32
  | mobile
deriving DecidableEq, Repr

inductive Outcome where
  | succeeded
  | cancelled
  | exited (code : Int)
  | raised (text : String)
deriving DecidableEq, Repr

def Outcome.status : Outcome → JobStatus
  | succeeded => .succeeded
  | cancelled => .cancelled
  | exited _ => .failed
  | raised _ => .failed

/-- The lines that are written once the status of the job is final. -/
def Tool.lastLines : Tool → Outcome → List String
  | esp32, .succeeded => [">> job succeeded"]
  | esp32, .cancelled => [">> job cancelled"]
  | esp32, .exited code => [">> job failed: command exited with code " ++ toString code]
  | esp32, .raised text => [">> job failed: " ++ text]
  | mobile, .succeeded => [">> job finished: succeeded"]
  | mobile, .cancelled => [">> job finished: cancelled"]
  | mobile, .exited _ => [">> job finished: failed"]
  | mobile, .raised text => ["[error] " ++ text, ">> job finished: failed"]

/-- How far a stream is: handing over what it read from the file, waiting for its queue,
over, or given up by its reader with the queue left behind. `none` in a queue is the end. -/
inductive StreamPhase where
  | history (rest : List String)
  | attached (queue : List (Option String))
  | ended
  | left (queue : List (Option String))
deriving DecidableEq, Repr

/-- `dropped` counts the lines that found the queue full. -/
structure JobStream where
  phase : StreamPhase
  received : List String := []
  dropped : Nat := 0
deriving DecidableEq, Repr

/-- A job with its log and its streams by number. `subscribers` is the record's list of
queues, and `waiting` are the queues the runner has not told the end yet: it waits at the
first of them. -/
structure StreamedJob where
  tool : Tool
  id : String
  action : String
  status : JobStatus := .queued
  log : List String := []
  streams : List JobStream := []
  subscribers : List Nat := []
  waiting : List Nat := []
deriving DecidableEq, Repr

def queueMaxsize : Nat := 1000

namespace JobStream

def queue (stream : JobStream) : List (Option String) :=
  match stream.phase with
  | .attached queue | .left queue => queue
  | .history _ | .ended => []

/-- `_append` at one subscriber: a line that finds the queue full is dropped. -/
def offer (line : String) (stream : JobStream) : JobStream :=
  match stream.phase with
  | .attached queue =>
    if queueMaxsize ≤ queue.length then { stream with dropped := stream.dropped + 1 }
    else { stream with phase := .attached (queue ++ [some line]) }
  | _ => stream

def putEnd (stream : JobStream) : JobStream :=
  match stream.phase with
  | .attached queue => { stream with phase := .attached (queue ++ [none]) }
  | .left queue => { stream with phase := .left (queue ++ [none]) }
  | _ => stream

def next (live : Prop) [Decidable live] (stream : JobStream) : JobStream :=
  match stream.phase with
  | .history (line :: rest) =>
    { stream with phase := .history rest, received := stream.received ++ [line] }
  | .history [] => { stream with phase := if live then .attached [] else .ended }
  | .attached (some line :: queue) =>
    { stream with phase := .attached queue, received := stream.received ++ [line] }
  | .attached (none :: _) => { stream with phase := .ended }
  | .attached [] | .ended | .left _ => stream

def leave (stream : JobStream) : JobStream :=
  match stream.phase with
  | .history _ => { stream with phase := .left [] }
  | .attached queue => { stream with phase := .left queue }
  | .ended | .left _ => stream

end JobStream

namespace StreamedJob

def live (s : StreamedJob) : Prop := s.status = .queued ∨ s.status = .running

instance (s : StreamedJob) : Decidable s.live := inferInstanceAs (Decidable (_ ∨ _))

def onStream (s : StreamedJob) (number : Nat) (f : JobStream → JobStream) : StreamedJob :=
  { s with streams := s.streams.modify number f }

def append (s : StreamedJob) (line : String) : StreamedJob :=
  { s with log := s.log ++ [line], streams := s.streams.map (JobStream.offer line) }

/-- `path.read_text().splitlines()`. -/
def readLog (s : StreamedJob) : List String :=
  (splitlines (universalNewlines (unlines (s.log.map String.toList)))).map String.ofList

/-- Puts the end into one queue after the other, up to one that is full. -/
def closeQueues (s : StreamedJob) : List Nat → StreamedJob
  | [] => { s with waiting := [] }
  | number :: rest =>
    if (s.streams[number]?).any fun stream => queueMaxsize ≤ stream.queue.length then
      { s with waiting := number :: rest }
    else (s.onStream number JobStream.putEnd).closeQueues rest

def finish (s : StreamedJob) (outcome : Outcome) : StreamedJob :=
  let s := (s.tool.lastLines outcome).foldl append { s with status := outcome.status }
  s.closeQueues s.subscribers

/-- `record.subscribers` after a stream has been asked for its next line: a stream joins it
with its queue, and goes with the end. -/
def subscribersAfter (s : StreamedJob) (number : Nat) : List Nat :=
  match (s.streams[number]?).map JobStream.phase with
  | some (.history []) => if s.live then s.subscribers ++ [number] else s.subscribers
  | some (.attached (none :: _)) => s.subscribers.erase number
  | _ => s.subscribers

def advance (s : StreamedJob) (number : Nat) : StreamedJob :=
  { s.onStream number (JobStream.next s.live) with subscribers := s.subscribersAfter number }

/-- The first request of a reader: the file is read, and the first line handed over or the
queue made, in one turn. -/
def subscribe (s : StreamedJob) : StreamedJob :=
  let opened : StreamedJob := { s with streams := s.streams ++ [{ phase := .history s.readLog }] }
  opened.advance s.streams.length

/-- The `finally` of a stream whose reader goes away. -/
def leave (s : StreamedJob) (number : Nat) : StreamedJob :=
  { s.onStream number JobStream.leave with subscribers := s.subscribers.erase number }

end StreamedJob

inductive LogEvent where
  | start
  | append (line : String)
  | finish (outcome : Outcome)
  | resume
  | subscribe
  | advance (number : Nat)
  | leave (number : Nat)
deriving DecidableEq, Repr

namespace StreamedJob

def startLine (s : StreamedJob) : String := ">> job " ++ s.id ++ " started: " ++ s.action

/-- `resume` is the runner's next try at the queue it waits at. -/
def step (s : StreamedJob) : LogEvent → StreamedJob
  | .start =>
    if s.status = .queued then { s with status := .running }.append s.startLine else s
  | .append line => if s.status = .running then s.append line else s
  | .finish outcome => if s.status = .running then s.finish outcome else s
  | .resume => s.closeQueues s.waiting
  | .subscribe => s.subscribe
  | .advance number => s.advance number
  | .leave number => s.leave number

end StreamedJob

def JobStream.outstanding (stream : JobStream) : List String :=
  match stream.phase with
  | .history rest => rest
  | .attached queue => queue.reduceOption
  | .ended | .left _ => []

/-- Handed over or still waiting, each once and in the order of the log, are all lines but
those that found the queue full. -/
structure JobStream.Accounts (stream : JobStream) (log : List String) : Prop where
  ordered : (stream.received ++ stream.outstanding).Sublist log
  complete : (stream.received ++ stream.outstanding).length + stream.dropped = log.length

theorem JobStream.Accounts.eq_log {stream : JobStream} {log : List String} (h : stream.Accounts log)
    (hNone : stream.dropped = 0) : stream.received ++ stream.outstanding = log := by
  refine h.ordered.eq_of_length ?_
  have hLength := h.complete
  omega

namespace StreamedJob

def Between (s : StreamedJob) (number : Nat) : Prop :=
  ∃ stream rest, s.streams[number]? = some stream ∧ stream.phase = .history rest

instance (s : StreamedJob) (number : Nat) : Decidable (s.Between number) :=
  match hStream : s.streams[number]? with
  | none => .isFalse fun ⟨_, _, hSome, _⟩ => by simp [hStream] at hSome
  | some stream =>
    match hPhase : stream.phase with
    | .history rest => .isTrue ⟨stream, rest, hStream, hPhase⟩
    | .attached _ | .ended | .left _ =>
      .isFalse fun ⟨_, _, hSome, hHistory⟩ => by simp_all

/-- Nothing is written while the stream is between file and queue, and the lines it reads
back from the file are not broken up. -/
def Undisturbed (number : Nat) (s : StreamedJob) : LogEvent → Prop
  | .start => s.status = .queued → ¬ s.Between number
  | .append _ | .finish _ => s.status = .running → ¬ s.Between number
  | .subscribe => s.streams.length = number → ∀ line ∈ s.log, Unbroken line.toList
  | .resume | .advance _ | .leave _ => True

instance (number : Nat) (s : StreamedJob) (event : LogEvent) : Decidable (Undisturbed number s event) :=
  match event with
  | .start => inferInstanceAs (Decidable (_ → ¬ s.Between number))
  | .append _ | .finish _ => inferInstanceAs (Decidable (_ → ¬ s.Between number))
  | .subscribe => inferInstanceAs (Decidable (_ → ∀ line ∈ s.log, Unbroken line.toList))
  | .resume | .advance _ | .leave _ => .isTrue trivial

def Follows (pending : List Nat) (s : StreamedJob) (number : Nat) : Prop :=
  match s.streams[number]? with
  | none => number ∉ pending
  | some stream =>
    match stream.phase with
    | .history _ => stream.Accounts s.log ∧ number ∉ pending
    | .attached queue =>
      stream.Accounts s.log ∧
        ∃ lines : List String,
          (queue = lines.map some ∧ pending.count number = 1) ∨
            (queue = lines.map some ++ [none] ∧ number ∉ pending ∧ ¬ s.live)
    | .ended => stream.Accounts s.log ∧ number ∉ pending ∧ ¬ s.live
    | .left _ => True

def pending (s : StreamedJob) : List Nat := if s.live then s.subscribers else s.waiting

structure Sound (number : Nat) (s : StreamedJob) : Prop where
  follows : s.Follows s.pending number
  unhurried : s.live → s.waiting = []

variable {s : StreamedJob} {number : Nat}

theorem Follows.congr {pending later : List Nat} {t : StreamedJob} (h : s.Follows pending number)
    (hStream : t.streams[number]? = s.streams[number]?) (hLog : t.log = s.log)
    (hLive : t.live ↔ s.live) (hCount : later.count number = pending.count number) :
    t.Follows later number := by
  have hMem : number ∈ later ↔ number ∈ pending := by
    rw [← List.count_pos_iff, ← List.count_pos_iff, hCount]
  unfold Follows at h ⊢
  simp only [hStream, hLog, hCount, hMem, hLive] at h ⊢
  exact h

theorem streams_onStream_self {stream : JobStream} (h : s.streams[number]? = some stream)
    (f : JobStream → JobStream) : (s.onStream number f).streams[number]? = some (f stream) := by
  simp [onStream, h]

theorem streams_onStream_ne {other : Nat} (h : other ≠ number) (f : JobStream → JobStream) :
    (s.onStream other f).streams[number]? = s.streams[number]? := by
  simp [onStream, h]

theorem count_append_ne {other : Nat} (h : other ≠ number) (numbers : List Nat) :
    (numbers ++ [other]).count number = numbers.count number := by
  rw [List.count_append, List.count_singleton, if_neg (by simpa using h), Nat.add_zero]

theorem count_erase_ne {other : Nat} (h : other ≠ number) (numbers : List Nat) :
    (numbers.erase other).count number = numbers.count number :=
  List.count_erase_of_ne (Ne.symm h)

theorem accounts_offer {stream : JobStream} {log : List String} (line : String)
    (h : stream.Accounts log) {queue : List (Option String)} (hPhase : stream.phase = .attached queue) :
    (stream.offer line).Accounts (log ++ [line]) := by
  have hOutstanding : stream.outstanding = queue.reduceOption := by
    simp [JobStream.outstanding, hPhase]
  have hOrdered := h.ordered
  have hComplete := h.complete
  rw [hOutstanding] at hOrdered hComplete
  by_cases hFull : queueMaxsize ≤ queue.length
  · have hOffer : stream.offer line = { stream with dropped := stream.dropped + 1 } := by
      simp [JobStream.offer, hPhase, hFull]
    constructor
    · rw [hOffer]
      simpa [JobStream.outstanding, hPhase] using hOrdered.trans (List.sublist_append_left log [line])
    · rw [hOffer]
      simp only [JobStream.outstanding, hPhase, List.length_append, List.length_singleton] at *
      omega
  · have hOffer : stream.offer line = { stream with phase := .attached (queue ++ [some line]) } := by
      simp [JobStream.offer, hPhase, hFull]
    have hQueue : (queue ++ [some line]).reduceOption = queue.reduceOption ++ [line] := by
      rw [List.reduceOption_append]
      rfl
    constructor
    · rw [hOffer]
      simp only [JobStream.outstanding, hQueue, ← List.append_assoc]
      exact hOrdered.append (List.Sublist.refl [line])
    · rw [hOffer]
      simp only [JobStream.outstanding, hQueue, List.length_append, List.length_singleton] at *
      omega

theorem phase_offer {stream : JobStream} (line : String) {lines : List String}
    (hPhase : stream.phase = .attached (lines.map some)) :
    ∃ later : List String, (stream.offer line).phase = .attached (later.map some) := by
  by_cases hFull : queueMaxsize ≤ (lines.map some).length
  · exact ⟨lines, by simp only [JobStream.offer, hPhase, if_pos hFull]⟩
  · refine ⟨lines ++ [line], ?_⟩
    simp only [JobStream.offer, hPhase, if_neg hFull, List.map_append, List.map_singleton]

theorem follows_append (h : s.Follows s.subscribers number) (hLive : s.live)
    (hBetween : ¬ s.Between number) (line : String) :
    (s.append line).Follows s.subscribers number := by
  have hView : (s.append line).streams[number]? = (s.streams[number]?).map (JobStream.offer line) := by
    simp [append]
  cases hStream : s.streams[number]? with
  | none =>
    simp only [Follows, hStream, hView, Option.map_none] at h ⊢
    exact h
  | some stream =>
    simp only [Follows, hStream, hView, Option.map_some] at h ⊢
    cases hPhase : stream.phase with
    | history rest => exact absurd ⟨stream, rest, hStream, hPhase⟩ hBetween
    | attached queue =>
      simp only [hPhase] at h
      obtain ⟨hAccounts, lines, ⟨rfl, hCount⟩ | ⟨-, -, hOver⟩⟩ := h
      · obtain ⟨later, hLater⟩ := phase_offer line hPhase
        simp only [hLater]
        exact ⟨accounts_offer line hAccounts hPhase, later, .inl ⟨rfl, hCount⟩⟩
      · exact absurd hLive hOver
    | ended =>
      simp only [hPhase] at h
      exact absurd hLive h.2.2
    | left queue => simp [JobStream.offer, hPhase]

theorem between_append (s : StreamedJob) (line : String) (h : ¬ s.Between number) :
    ¬ (s.append line).Between number := by
  rintro ⟨later, rest, hLater, hRest⟩
  simp only [append, List.getElem?_map, Option.map_eq_some_iff] at hLater
  obtain ⟨stream, hStream, rfl⟩ := hLater
  cases hPhase : stream.phase with
  | history before => exact h ⟨stream, before, hStream, hPhase⟩
  | attached queue =>
    by_cases hFull : queueMaxsize ≤ queue.length <;>
      simp [JobStream.offer, hPhase, hFull] at hRest
  | ended => simp [JobStream.offer, hPhase] at hRest
  | left queue => simp [JobStream.offer, hPhase] at hRest

theorem follows_lines (h : s.Follows s.subscribers number) (hLive : s.live)
    (hBetween : ¬ s.Between number) (lines : List String) :
    (lines.foldl append s).Follows s.subscribers number := by
  induction lines generalizing s with
  | nil => exact h
  | cons line rest ih =>
    exact ih (follows_append h hLive hBetween line) hLive (between_append s line hBetween)

theorem foldl_append_status (s : StreamedJob) (status : JobStatus) (lines : List String) :
    lines.foldl append { s with status } = { lines.foldl append s with status } := by
  induction lines generalizing s with
  | nil => rfl
  | cons line rest ih => exact ih (s.append line)

theorem foldl_append_subscribers (s : StreamedJob) (lines : List String) :
    (lines.foldl append s).subscribers = s.subscribers := by
  induction lines generalizing s with
  | nil => rfl
  | cons line rest ih => exact ih (s.append line)

theorem foldl_append_log (s : StreamedJob) (lines : List String) :
    (lines.foldl append s).log = s.log ++ lines := by
  induction lines generalizing s with
  | nil => simp
  | cons line rest ih =>
    rw [List.foldl_cons, ih]
    simp [append]

theorem closeQueues_status (s : StreamedJob) (numbers : List Nat) :
    (s.closeQueues numbers).status = s.status ∧ (s.closeQueues numbers).log = s.log := by
  induction numbers generalizing s with
  | nil => exact ⟨rfl, rfl⟩
  | cons other rest ih =>
    rw [closeQueues]
    by_cases hFull : (s.streams[other]?).any fun stream => queueMaxsize ≤ stream.queue.length
    · rw [if_pos hFull]
      exact ⟨rfl, rfl⟩
    · rw [if_neg hFull]
      exact ih (s.onStream other JobStream.putEnd)

theorem follows_putEnd {rest : List Nat} (h : s.Follows (number :: rest) number) (hOver : ¬ s.live) :
    (s.onStream number JobStream.putEnd).Follows rest number := by
  cases hStream : s.streams[number]? with
  | none =>
    simp only [Follows, hStream] at h
    exact absurd List.mem_cons_self h
  | some stream =>
    have hAfter := streams_onStream_self hStream JobStream.putEnd
    simp only [Follows, hStream, hAfter] at h ⊢
    cases hPhase : stream.phase with
    | history before =>
      simp only [hPhase] at h
      exact absurd List.mem_cons_self h.2
    | attached queue =>
      have hPut : stream.putEnd = { stream with phase := .attached (queue ++ [none]) } := by
        simp [JobStream.putEnd, hPhase]
      have hSame : stream.putEnd.outstanding = stream.outstanding := by
        rw [hPut]
        simp [JobStream.outstanding, hPhase, List.reduceOption_append]
      simp only [hPhase] at h
      obtain ⟨hAccounts, lines, ⟨rfl, hCount⟩ | ⟨-, hAbsent, -⟩⟩ := h
      · have hAccountsEnd : stream.putEnd.Accounts s.log := by
          constructor
          · rw [hSame]
            simpa only [hPut] using hAccounts.ordered
          · rw [hSame]
            simpa only [hPut] using hAccounts.complete
        have hRest : number ∉ rest := by
          rw [List.count_cons_self] at hCount
          exact List.count_eq_zero.mp (by omega)
        simp only [hPut] at hAccountsEnd ⊢
        exact ⟨hAccountsEnd, lines, .inr ⟨rfl, hRest, hOver⟩⟩
      · exact absurd List.mem_cons_self hAbsent
    | ended =>
      simp only [hPhase] at h
      exact absurd List.mem_cons_self h.2.1
    | left queue => simp [JobStream.putEnd, hPhase]

theorem follows_closeQueues {numbers : List Nat} (h : s.Follows numbers number) (hOver : ¬ s.live) :
    (s.closeQueues numbers).Follows (s.closeQueues numbers).waiting number := by
  induction numbers generalizing s with
  | nil => exact h.congr rfl rfl Iff.rfl rfl
  | cons other rest ih =>
    rw [closeQueues]
    by_cases hFull : (s.streams[other]?).any fun stream => queueMaxsize ≤ stream.queue.length
    · rw [if_pos hFull]
      exact h.congr rfl rfl Iff.rfl rfl
    · rw [if_neg hFull]
      by_cases hSame : other = number
      · subst hSame
        exact ih (follows_putEnd h hOver) hOver
      · refine ih (h.congr (streams_onStream_ne hSame _) rfl Iff.rfl ?_) hOver
        rw [List.count_cons_of_ne hSame]

theorem pending_of_live (h : s.live) : s.pending = s.subscribers := if_pos h

theorem pending_of_over (h : ¬ s.live) : s.pending = s.waiting := if_neg h

theorem not_live_status (outcome : Outcome) (s : StreamedJob) :
    ¬ { s with status := outcome.status }.live := by
  cases outcome <;> simp [live, Outcome.status]

theorem sound_of_over (hFollows : s.Follows s.waiting number) (hOver : ¬ s.live) :
    Sound number s where
  follows := by rwa [pending_of_over hOver]
  unhurried hLive := absurd hLive hOver

theorem closeQueues_over (hOver : ¬ s.live) (numbers : List Nat) :
    ¬ (s.closeQueues numbers).live := by
  simpa only [live, (closeQueues_status s numbers).1] using hOver

theorem follows_status {pending : List Nat} (h : s.Follows pending number) (outcome : Outcome) :
    { s with status := outcome.status }.Follows pending number := by
  have hOver := not_live_status outcome s
  cases hStream : s.streams[number]? with
  | none =>
    simp only [Follows, hStream] at h ⊢
    exact h
  | some stream =>
    simp only [Follows, hStream] at h ⊢
    cases hPhase : stream.phase with
    | history rest =>
      simp only [hPhase] at h ⊢
      exact h
    | attached queue =>
      simp only [hPhase] at h ⊢
      obtain ⟨hAccounts, lines, hOpen | ⟨hClosed, hAbsent, -⟩⟩ := h
      · exact ⟨hAccounts, lines, .inl hOpen⟩
      · exact ⟨hAccounts, lines, .inr ⟨hClosed, hAbsent, hOver⟩⟩
    | ended =>
      simp only [hPhase] at h ⊢
      exact ⟨h.1, h.2.1, hOver⟩
    | left queue => trivial

theorem finish_sound (h : Sound number s) (hLive : s.live) (hBetween : ¬ s.Between number)
    (outcome : Outcome) : Sound number (s.finish outcome) := by
  have hFollows := h.follows
  rw [pending_of_live hLive] at hFollows
  have hWritten := follows_status
    (follows_lines hFollows hLive hBetween (s.tool.lastLines outcome)) outcome
  have hOver := not_live_status outcome ((s.tool.lastLines outcome).foldl append s)
  have hFinish : s.finish outcome =
      closeQueues { (s.tool.lastLines outcome).foldl append s with status := outcome.status }
        s.subscribers := by
    rw [finish, foldl_append_status, foldl_append_subscribers]
  rw [hFinish]
  exact sound_of_over (follows_closeQueues hWritten hOver) (closeQueues_over hOver _)

theorem Sound.congr {t : StreamedJob} (h : Sound number s)
    (hStream : t.streams[number]? = s.streams[number]?) (hLog : t.log = s.log)
    (hSame : t.live ↔ s.live) (hWaiting : t.waiting = s.waiting)
    (hCount : t.subscribers.count number = s.subscribers.count number) : Sound number t where
  follows := by
    refine h.follows.congr hStream hLog hSame ?_
    by_cases hLive : s.live
    · rw [pending_of_live hLive, pending_of_live (hSame.mpr hLive), hCount]
    · rw [pending_of_over hLive, pending_of_over fun hOther => hLive (hSame.mp hOther), hWaiting]
  unhurried hLive := by
    rw [hWaiting]
    exact h.unhurried (hSame.mp hLive)

theorem count_subscribersAfter {other : Nat} (h : other ≠ number) (s : StreamedJob) :
    (s.subscribersAfter other).count number = s.subscribers.count number := by
  unfold subscribersAfter
  split
  · split
    · exact count_append_ne h _
    · rfl
  · exact count_erase_ne h _
  · rfl

theorem advance_other {other : Nat} (h : Sound number s) (hOther : other ≠ number) :
    Sound number (s.advance other) :=
  h.congr (streams_onStream_ne hOther _) rfl Iff.rfl rfl (count_subscribersAfter hOther s)

theorem content_next (stream : JobStream) (live : Prop) [Decidable live]
    (hEnd : ∀ rest, stream.phase = .attached (none :: rest) → rest = []) :
    (stream.next live).received ++ (stream.next live).outstanding =
      stream.received ++ stream.outstanding := by
  cases hPhase : stream.phase with
  | history rest =>
    cases rest with
    | nil => by_cases hLive : live <;> simp [JobStream.next, JobStream.outstanding, hPhase, hLive]
    | cons line rest => simp [JobStream.next, JobStream.outstanding, hPhase]
  | attached queue =>
    cases queue with
    | nil => simp [JobStream.next, hPhase]
    | cons item rest =>
      cases item with
      | none =>
        obtain rfl := hEnd rest hPhase
        simp [JobStream.next, JobStream.outstanding, hPhase]
      | some line => simp [JobStream.next, JobStream.outstanding, hPhase]
  | ended => simp [JobStream.next, hPhase]
  | left queue => simp [JobStream.next, hPhase]

theorem dropped_next (stream : JobStream) (live : Prop) [Decidable live] :
    (stream.next live).dropped = stream.dropped := by
  unfold JobStream.next
  split <;> rfl

theorem accounts_next {stream : JobStream} {log : List String} (h : stream.Accounts log)
    (live : Prop) [Decidable live]
    (hEnd : ∀ rest, stream.phase = .attached (none :: rest) → rest = []) :
    (stream.next live).Accounts log where
  ordered := by
    rw [content_next stream live hEnd]
    exact h.ordered
  complete := by
    rw [content_next stream live hEnd, dropped_next]
    exact h.complete

theorem end_last {rest : List (Option String)} {lines : List String}
    (h : none :: rest = lines.map some ++ [none]) : rest = [] := by
  cases lines with
  | nil => simpa using h
  | cons line lines => simp at h

theorem no_end {rest : List (Option String)} {lines : List String} :
    none :: rest ≠ lines.map some := by
  cases lines <;> simp

theorem less_first {line : String} {rest mark : List (Option String)} {lines : List String}
    (hEnd : mark = [] ∨ mark = [none]) (h : some line :: rest = lines.map some ++ mark) :
    rest = lines.tail.map some ++ mark := by
  cases lines with
  | nil => obtain rfl | rfl := hEnd <;> simp at h
  | cons first lines =>
    rw [List.map_cons, List.cons_append, List.cons.injEq] at h
    exact h.2

theorem pending_advance_of_over (h : ¬ s.live) : (s.advance number).pending = s.pending := by
  rw [pending_of_over h]
  exact pending_of_over h

theorem pending_advance_of_same (h : s.subscribersAfter number = s.subscribers) :
    (s.advance number).pending = s.pending := by
  by_cases hLive : s.live
  · rw [pending_of_live hLive, ← h]
    exact pending_of_live hLive
  · exact pending_advance_of_over hLive

theorem advance_self_attached {stream : JobStream} {queue : List (Option String)}
    (h : Sound number s) (hStream : s.streams[number]? = some stream)
    (hPhase : stream.phase = .attached queue) : (s.advance number).Follows
      (s.advance number).pending number := by
  have hAfter : (s.advance number).streams[number]? = some (stream.next s.live) :=
    streams_onStream_self hStream _
  have hFollows := h.follows
  simp only [Follows, hStream, hPhase] at hFollows
  obtain ⟨hAccounts, lines, hLines⟩ := hFollows
  have hEnd : ∀ rest, stream.phase = .attached (none :: rest) → rest = [] := by
    intro rest hRest
    rw [hPhase, StreamPhase.attached.injEq] at hRest
    obtain ⟨hOpen, -⟩ | ⟨hClosed, -⟩ := hLines
    · exact absurd (hRest.symm.trans hOpen) no_end
    · exact end_last (hRest.symm.trans hClosed)
  have hLater := accounts_next hAccounts s.live hEnd
  simp only [Follows, hAfter]
  cases queue with
  | nil =>
    have hSubs : s.subscribersAfter number = s.subscribers := by
      simp [subscribersAfter, hStream, hPhase]
    have hNext : stream.next s.live = stream := by simp [JobStream.next, hPhase]
    simp only [hNext, hPhase, pending_advance_of_same hSubs]
    exact ⟨hAccounts, lines, hLines⟩
  | cons item rest =>
    cases item with
    | none =>
      have hNext : (stream.next s.live).phase = .ended := by simp [JobStream.next, hPhase]
      simp only [hNext]
      obtain ⟨hOpen, -⟩ | ⟨-, hAbsent, hOver⟩ := hLines
      · exact absurd hOpen no_end
      · rw [pending_advance_of_over hOver]
        exact ⟨hLater, hAbsent, hOver⟩
    | some line =>
      have hSubs : s.subscribersAfter number = s.subscribers := by
        simp [subscribersAfter, hStream, hPhase]
      have hNext : (stream.next s.live).phase = .attached rest := by simp [JobStream.next, hPhase]
      simp only [hNext, pending_advance_of_same hSubs]
      refine ⟨hLater, lines.tail, ?_⟩
      obtain ⟨hOpen, hCount⟩ | ⟨hClosed, hRest⟩ := hLines
      · rw [← List.append_nil (lines.map some)] at hOpen
        exact .inl ⟨(less_first (.inl rfl) hOpen).trans (List.append_nil _), hCount⟩
      · exact .inr ⟨less_first (.inr rfl) hClosed, hRest⟩

theorem advance_self_history {stream : JobStream} {rest : List String} (h : Sound number s)
    (hStream : s.streams[number]? = some stream) (hPhase : stream.phase = .history rest) :
    (s.advance number).Follows (s.advance number).pending number := by
  have hAfter : (s.advance number).streams[number]? = some (stream.next s.live) :=
    streams_onStream_self hStream _
  have hFollows := h.follows
  simp only [Follows, hStream, hPhase] at hFollows
  obtain ⟨hAccounts, hAbsent⟩ := hFollows
  have hLater := accounts_next hAccounts s.live (by simp [hPhase])
  simp only [Follows, hAfter]
  cases rest with
  | nil =>
    by_cases hLive : s.live
    · have hNext : (stream.next s.live).phase = .attached [] := by
        simp [JobStream.next, hPhase, hLive]
      have hSubs : (s.advance number).pending = s.subscribers ++ [number] := by
        rw [pending_of_live (s := s.advance number) hLive]
        simp [advance, subscribersAfter, hStream, hPhase, hLive]
      rw [pending_of_live hLive] at hAbsent
      simp only [hNext, hSubs]
      refine ⟨hLater, [], .inl ⟨rfl, ?_⟩⟩
      rw [List.count_append, List.count_eq_zero.mpr hAbsent, List.count_singleton_self]
    · have hNext : (stream.next s.live).phase = .ended := by simp [JobStream.next, hPhase, hLive]
      simp only [hNext, pending_advance_of_over hLive]
      exact ⟨hLater, hAbsent, hLive⟩
  | cons line rest =>
    have hSubs : s.subscribersAfter number = s.subscribers := by
      simp [subscribersAfter, hStream, hPhase]
    have hNext : (stream.next s.live).phase = .history rest := by simp [JobStream.next, hPhase]
    simp only [hNext, pending_advance_of_same hSubs]
    exact ⟨hLater, hAbsent⟩

theorem advance_self (h : Sound number s) : Sound number (s.advance number) := by
  refine ⟨?_, h.unhurried⟩
  cases hStream : s.streams[number]? with
  | none =>
    have hSubs : s.subscribersAfter number = s.subscribers := by simp [subscribersAfter, hStream]
    have hAfter : (s.advance number).streams[number]? = s.streams[number]? := by
      simp [advance, onStream, hStream]
    rw [pending_advance_of_same hSubs]
    exact h.follows.congr hAfter rfl Iff.rfl rfl
  | some stream =>
    cases hPhase : stream.phase with
    | history rest => exact advance_self_history h hStream hPhase
    | attached queue => exact advance_self_attached h hStream hPhase
    | ended =>
      have hSubs : s.subscribersAfter number = s.subscribers := by
        simp [subscribersAfter, hStream, hPhase]
      have hAfter : (s.advance number).streams[number]? = s.streams[number]? := by
        simp [advance, onStream, hStream, JobStream.next, hPhase]
      rw [pending_advance_of_same hSubs]
      exact h.follows.congr hAfter rfl Iff.rfl rfl
    | left queue =>
      have hAfter : (s.advance number).streams[number]? = s.streams[number]? := by
        simp [advance, onStream, hStream, JobStream.next, hPhase]
      simp only [Follows, hAfter, hStream, hPhase]

theorem advance_sound (h : Sound number s) (other : Nat) : Sound number (s.advance other) := by
  by_cases hSame : other = number
  · subst hSame
    exact advance_self h
  · exact advance_other h hSame

theorem readLog_eq_log (h : ∀ line ∈ s.log, Unbroken line.toList) : s.readLog = s.log := by
  have hLines : ∀ line ∈ s.log.map String.toList, Unbroken line := by
    simpa only [List.forall_mem_map] using h
  rw [readLog, universalNewlines_unlines hLines, splitlines_unlines hLines, List.map_map]
  calc
    s.log.map (String.ofList ∘ String.toList) = s.log.map fun line => line :=
      List.map_congr_left fun line _ => String.ofList_toList
    _ = s.log := List.map_id' s.log

theorem accounts_history (log : List String) : JobStream.Accounts { phase := .history log } log :=
  ⟨List.Sublist.refl log, by simp [JobStream.outstanding]⟩

theorem subscribe_sound (h : Sound number s)
    (hRead : s.streams.length = number → ∀ line ∈ s.log, Unbroken line.toList) :
    Sound number s.subscribe := by
  refine advance_sound ?_ _
  by_cases hNew : s.streams.length = number
  · have hNone : s.streams[number]? = none := List.getElem?_eq_none (by omega)
    have hStream : (s.streams ++ [{ phase := .history s.readLog }])[number]? =
        some { phase := .history s.readLog } := by
      rw [← hNew]
      simp
    have hFollows := h.follows
    simp only [Follows, hNone] at hFollows
    refine ⟨?_, h.unhurried⟩
    simp only [Follows, hStream]
    rw [readLog_eq_log (hRead hNew)]
    exact ⟨accounts_history s.log, hFollows⟩
  · refine h.congr ?_ rfl Iff.rfl rfl rfl
    change (s.streams ++ [_])[number]? = _
    by_cases hOld : number < s.streams.length
    · exact List.getElem?_append_left hOld
    · have hBeyond : s.streams.length + 1 ≤ number := by omega
      rw [List.getElem?_eq_none (by simpa using hBeyond), List.getElem?_eq_none (by omega)]

theorem not_mem_pending_leave (h : number ∉ s.pending) : number ∉ (s.leave number).pending := by
  by_cases hLive : s.live
  · rw [pending_of_live hLive] at h
    rw [pending_of_live (s := s.leave number) hLive]
    exact fun hMem => h (List.mem_of_mem_erase hMem)
  · rw [pending_of_over hLive] at h
    rwa [pending_of_over (s := s.leave number) hLive]

theorem leave_self (h : Sound number s) :
    (s.leave number).Follows (s.leave number).pending number := by
  have hFollows := h.follows
  cases hStream : s.streams[number]? with
  | none =>
    have hAfter : (s.leave number).streams[number]? = none := by simp [leave, onStream, hStream]
    simp only [Follows, hStream] at hFollows
    simp only [Follows, hAfter]
    exact not_mem_pending_leave hFollows
  | some stream =>
    have hAfter : (s.leave number).streams[number]? = some stream.leave :=
      streams_onStream_self hStream _
    simp only [Follows, hAfter]
    cases hPhase : stream.phase with
    | ended =>
      have hLeave : stream.leave = stream := by simp [JobStream.leave, hPhase]
      simp only [Follows, hStream, hPhase] at hFollows
      simp only [hLeave, hPhase]
      exact ⟨hFollows.1, not_mem_pending_leave hFollows.2.1, hFollows.2.2⟩
    | _ => simp [JobStream.leave, hPhase]

theorem leave_sound (h : Sound number s) (other : Nat) : Sound number (s.leave other) := by
  by_cases hSame : other = number
  · subst hSame
    exact ⟨leave_self h, h.unhurried⟩
  · exact h.congr (streams_onStream_ne hSame _) rfl Iff.rfl rfl (count_erase_ne hSame _)

theorem append_sound (h : Sound number s) (hLive : s.live) (hBetween : ¬ s.Between number)
    (line : String) : Sound number (s.append line) := by
  have hFollows := h.follows
  rw [pending_of_live hLive] at hFollows
  refine ⟨?_, h.unhurried⟩
  rw [pending_of_live (s := s.append line) hLive]
  exact follows_append hFollows hLive hBetween line

theorem resume_sound (h : Sound number s) : Sound number (s.closeQueues s.waiting) := by
  by_cases hLive : s.live
  · have hIdle : s.closeQueues s.waiting = s := by
      rw [h.unhurried hLive, closeQueues, ← h.unhurried hLive]
    rwa [hIdle]
  · have hFollows := h.follows
    rw [pending_of_over hLive] at hFollows
    exact sound_of_over (follows_closeQueues hFollows hLive) (closeQueues_over hLive _)

theorem start_sound (h : Sound number s) (hStatus : s.status = .queued) :
    Sound number { s with status := .running } := by
  refine h.congr rfl rfl ?_ rfl rfl
  simp [live, hStatus]

theorem step_sound (s : StreamedJob) (event : LogEvent) (hEvent : s.Undisturbed number event)
    (h : Sound number s) : Sound number (s.step event) := by
  cases event with
  | start =>
    by_cases hStatus : s.status = .queued
    · rw [step, if_pos hStatus]
      exact append_sound (start_sound h hStatus) (.inr rfl) (hEvent hStatus) _
    · rwa [step, if_neg hStatus]
  | append line =>
    by_cases hStatus : s.status = .running
    · rw [step, if_pos hStatus]
      exact append_sound h (.inr hStatus) (hEvent hStatus) line
    · rwa [step, if_neg hStatus]
  | finish outcome =>
    by_cases hStatus : s.status = .running
    · rw [step, if_pos hStatus]
      exact finish_sound h (.inr hStatus) (hEvent hStatus) outcome
    · rwa [step, if_neg hStatus]
  | resume => exact resume_sound h
  | subscribe => exact subscribe_sound h hEvent
  | advance other => exact advance_sound h other
  | leave other => exact leave_sound h other

theorem run_sound (job : StreamedJob) (hStreams : job.streams = []) (hSubscribers : job.subscribers = [])
    (hWaiting : job.waiting = []) {events : List LogEvent}
    (hEvents : Meets step (Undisturbed number) job events) : Sound number (run step job events) := by
  refine hEvents.run_invariant step_sound ⟨?_, fun _ => hWaiting⟩
  have hNone : job.streams[number]? = none := by simp [hStreams]
  simp only [Follows, hNone]
  by_cases hLive : job.live
  · simp [pending_of_live hLive, hSubscribers]
  · simp [pending_of_over hLive, hWaiting]

inductive Closed (stream : JobStream) : Prop where
  | history (rest : List String) (hPhase : stream.phase = .history rest)
  | attached (lines : List String) (hPhase : stream.phase = .attached (lines.map some ++ [none]))
  | ended (hPhase : stream.phase = .ended)

def remaining (stream : JobStream) : Nat :=
  if stream.phase = .ended then 0 else stream.outstanding.length + 1

theorem Closed.next {stream : JobStream} (h : Closed stream) {live : Prop} [Decidable live]
    (hOver : ¬ live) :
    Closed (stream.next live) ∧ remaining (stream.next live) = remaining stream - 1 ∧
      (stream.next live).received ++ (stream.next live).outstanding =
        stream.received ++ stream.outstanding := by
  cases h with
  | history rest hPhase =>
    refine ⟨?_, ?_, content_next stream live (by simp [hPhase])⟩
    · cases rest with
      | nil => exact .ended (by simp [JobStream.next, hPhase, hOver])
      | cons line rest => exact .history rest (by simp [JobStream.next, hPhase])
    · cases rest <;> simp [remaining, JobStream.next, JobStream.outstanding, hPhase, hOver]
  | attached lines hPhase =>
    refine ⟨?_, ?_, content_next stream live ?_⟩
    · cases lines with
      | nil => exact .ended (by simp [JobStream.next, hPhase])
      | cons line lines => exact .attached lines (by simp [JobStream.next, hPhase])
    · cases lines <;>
        simp [remaining, JobStream.next, JobStream.outstanding, hPhase, List.reduceOption_append]
    · intro rest hRest
      rw [hPhase, StreamPhase.attached.injEq] at hRest
      exact end_last hRest.symm
  | ended hPhase =>
    have hNext : stream.next live = stream := by simp [JobStream.next, hPhase]
    rw [hNext]
    exact ⟨.ended hPhase, by simp [remaining, hPhase], rfl⟩

/-- A finished job with a stream that the runner has told the end, or needs not to. -/
structure Told (number : Nat) (stream : JobStream) (s : StreamedJob) : Prop where
  finished : ¬ s.live
  absent : number ∉ s.waiting
  present : s.streams[number]? = some stream

theorem closeQueues_told {stream : JobStream} {numbers : List Nat} (hOver : ¬ s.live)
    (hAbsent : number ∉ numbers) (hStream : s.streams[number]? = some stream) :
    Told number stream (s.closeQueues numbers) := by
  induction numbers generalizing s with
  | nil => exact ⟨hOver, List.not_mem_nil, hStream⟩
  | cons other rest ih =>
    rw [List.mem_cons, not_or] at hAbsent
    rw [closeQueues]
    by_cases hFull : (s.streams[other]?).any fun stream => queueMaxsize ≤ stream.queue.length
    · rw [if_pos hFull]
      exact ⟨hOver, by simpa using hAbsent, hStream⟩
    · rw [if_neg hFull]
      exact ih hOver hAbsent.2 ((streams_onStream_ne (Ne.symm hAbsent.1) _).trans hStream)

theorem step_told {stream : JobStream} (h : Told number stream s) {event : LogEvent}
    (hAdvance : event ≠ .advance number) (hLeave : event ≠ .leave number) :
    Told number stream (s.step event) := by
  have hStatus : s.status ≠ .queued ∧ s.status ≠ .running := not_or.mp h.finished
  cases event with
  | start => rwa [step, if_neg hStatus.1]
  | append line => rwa [step, if_neg hStatus.2]
  | finish outcome => rwa [step, if_neg hStatus.2]
  | resume => exact closeQueues_told h.finished h.absent h.present
  | subscribe =>
    have hOld : number < s.streams.length := (List.getElem?_eq_some_iff.mp h.present).1
    refine ⟨h.finished, h.absent, ?_⟩
    refine (streams_onStream_ne (by omega) _).trans ?_
    exact (List.getElem?_append_left hOld).trans h.present
  | advance other =>
    have hOther : other ≠ number := fun hSame => hAdvance (by rw [hSame])
    exact ⟨h.finished, h.absent, (streams_onStream_ne hOther _).trans h.present⟩
  | leave other =>
    have hOther : other ≠ number := fun hSame => hLeave (by rw [hSame])
    exact ⟨h.finished, h.absent, (streams_onStream_ne hOther _).trans h.present⟩

/-- Once the job is over, a reader that keeps asking comes to the end, with all there was. -/
theorem run_ends {stream : JobStream} (h : Told number stream s) (hClosed : Closed stream)
    {events : List LogEvent} (hStays : .leave number ∉ events)
    (hAsks : remaining stream ≤ events.count (.advance number)) :
    ∃ last, (run step s events).streams[number]? = some last ∧ last.phase = .ended ∧
      last.received = stream.received ++ stream.outstanding := by
  induction events generalizing s stream with
  | nil =>
    have hEnded : stream.phase = .ended := by
      by_contra hGoes
      simp [remaining, hGoes] at hAsks
    exact ⟨stream, h.present, hEnded, by simp [JobStream.outstanding, hEnded]⟩
  | cons event rest ih =>
    rw [List.mem_cons, not_or] at hStays
    by_cases hAdvance : event = .advance number
    · subst hAdvance
      have hTold : Told number (stream.next s.live) (s.step (.advance number)) :=
        ⟨h.finished, h.absent, streams_onStream_self h.present _⟩
      obtain ⟨hNext, hFewer, hContent⟩ := hClosed.next h.finished
      rw [List.count_cons_self] at hAsks
      rw [← hContent]
      exact ih hTold hNext hStays.2 (by omega)
    · rw [List.count_cons_of_ne hAdvance] at hAsks
      exact ih (step_told h hAdvance (Ne.symm hStays.1)) hClosed hStays.2 hAsks

/-- The runner that waits after its turn waits at a full queue. -/
theorem closeQueues_waits {numbers : List Nat} {first : Nat}
    (h : (s.closeQueues numbers).waiting.head? = some first) :
    ∃ stream, (s.closeQueues numbers).streams[first]? = some stream ∧
      queueMaxsize ≤ stream.queue.length := by
  induction numbers generalizing s with
  | nil => simp [closeQueues] at h
  | cons other rest ih =>
    rw [closeQueues] at h ⊢
    by_cases hFull : (s.streams[other]?).any fun stream => queueMaxsize ≤ stream.queue.length
    · rw [if_pos hFull] at h ⊢
      obtain rfl : other = first := by simpa using h
      simpa [Option.any_eq_true] using hFull
    · rw [if_neg hFull] at h ⊢
      exact ih h

theorem closed_of_follows {stream : JobStream} {pending : List Nat} (h : s.Follows pending number)
    (hStream : s.streams[number]? = some stream) (hStays : ∀ queue, stream.phase ≠ .left queue)
    (hAbsent : number ∉ pending) : Closed stream := by
  simp only [Follows, hStream] at h
  cases hPhase : stream.phase with
  | history rest => exact .history rest hPhase
  | attached queue =>
    simp only [hPhase] at h
    obtain ⟨-, lines, ⟨-, hCount⟩ | ⟨rfl, -⟩⟩ := h
    · rw [List.count_eq_zero.mpr hAbsent] at hCount
      exact absurd hCount (by omega)
    · exact .attached lines hPhase
  | ended => exact .ended hPhase
  | left queue => exact absurd hPhase (hStays queue)

theorem accounts_of_follows {stream : JobStream} {pending : List Nat} (h : s.Follows pending number)
    (hStream : s.streams[number]? = some stream) (hStays : ∀ queue, stream.phase ≠ .left queue) :
    stream.Accounts s.log := by
  simp only [Follows, hStream] at h
  cases hPhase : stream.phase with
  | history rest =>
    simp only [hPhase] at h
    exact h.1
  | attached queue =>
    simp only [hPhase] at h
    exact h.1
  | ended =>
    simp only [hPhase] at h
    exact h.1
  | left queue => exact absurd hPhase (hStays queue)

theorem over_of_ended {stream : JobStream} {pending : List Nat} (h : s.Follows pending number)
    (hStream : s.streams[number]? = some stream) (hEnded : stream.phase = .ended) : ¬ s.live := by
  simp only [Follows, hStream, hEnded] at h
  exact h.2.2

/-- A job nobody has asked for a stream of: new, or found in the history. -/
structure Unfollowed (s : StreamedJob) : Prop where
  streams : s.streams = []
  subscribers : s.subscribers = []
  waiting : s.waiting = []

theorem stream_job_accounts (number : Nat) (job : StreamedJob) (hJob : job.Unfollowed)
    (events : List LogEvent) (hEvents : Meets step (Undisturbed number) job events)
    {stream : JobStream} (hStream : (run step job events).streams[number]? = some stream)
    (hStays : ∀ queue, stream.phase ≠ .left queue) :
    stream.Accounts (run step job events).log ∧
      (stream.dropped = 0 → stream.received ++ stream.outstanding = (run step job events).log) ∧
      (stream.phase = .ended → ¬ (run step job events).live ∧ stream.outstanding = []) ∧
      (¬ (run step job events).live → number ∉ (run step job events).waiting →
        ∀ more, .leave number ∉ more → stream.outstanding.length < more.count (.advance number) →
          ∃ last, (run step job (events ++ more)).streams[number]? = some last ∧
            last.phase = .ended ∧ last.received = stream.received ++ stream.outstanding) ∧
      ∀ first, (run step job (events ++ [.resume])).waiting.head? = some first →
        ∃ other, (run step job (events ++ [.resume])).streams[first]? = some other ∧
          queueMaxsize ≤ other.queue.length := by
  have hSound := run_sound job hJob.streams hJob.subscribers hJob.waiting hEvents
  have hAccounts := accounts_of_follows hSound.follows hStream hStays
  refine ⟨hAccounts, hAccounts.eq_log, fun hEnded => ?_, fun hOver hAbsent more hMore hAsks => ?_,
    fun first hFirst => ?_⟩
  · exact ⟨over_of_ended hSound.follows hStream hEnded, by simp [JobStream.outstanding, hEnded]⟩
  · have hFollows := hSound.follows
    rw [pending_of_over hOver] at hFollows
    have hRemaining : remaining stream ≤ more.count (.advance number) := by
      unfold remaining
      split <;> omega
    rw [run_append]
    exact run_ends ⟨hOver, hAbsent, hStream⟩ (closed_of_follows hFollows hStream hStays hAbsent)
      hMore hRemaining
  · rw [run_append] at hFirst ⊢
    exact closeQueues_waits hFirst

def followedBuild : StreamedJob := { tool := .esp32, id := "j1", action := "build" }

def followedEvents : List LogEvent :=
  [.subscribe, .start, .advance 0, .append "ok", .finish .succeeded, .advance 0, .advance 0, .advance 0]

theorem stream_of_followedBuild :
    ∃ stream, (run step followedBuild followedEvents).streams[0]? = some stream ∧
      stream.phase = .ended ∧
      stream.Accounts [">> job j1 started: build", "ok", ">> job succeeded"] := by
  refine ⟨⟨.ended, [">> job j1 started: build", "ok", ">> job succeeded"], 0⟩, by decide, rfl, ?_⟩
  exact (stream_job_accounts 0 followedBuild ⟨rfl, rfl, rfl⟩ followedEvents (by decide) (by decide)
    (by simp)).1

theorem run_appends (h : s.status = .running) (lines : List String) :
    run step s (lines.map .append) = lines.foldl append s := by
  induction lines generalizing s with
  | nil => rfl
  | cons line rest ih =>
    have hStep : s.step (.append line) = s.append line := if_pos h
    rw [List.map_cons, run_cons, hStep, ih (s := s.append line) h, List.foldl_cons]

theorem streams_foldl_append (s : StreamedJob) (lines : List String) (number : Nat) :
    (lines.foldl append s).streams[number]? =
      (s.streams[number]?).map fun stream => lines.foldl (fun st line => st.offer line) stream := by
  induction lines generalizing s with
  | nil => simp
  | cons line rest ih =>
    rw [List.foldl_cons, ih]
    simp [append, Function.comp_def]

theorem foldl_offer (stream : JobStream) {queue : List (Option String)} (lines : List String)
    (hPhase : stream.phase = .attached queue) (hRoom : queue.length + lines.length ≤ queueMaxsize) :
    lines.foldl (fun st line => st.offer line) stream =
      { stream with phase := .attached (queue ++ lines.map some) } := by
  induction lines generalizing stream queue with
  | nil => simp [← hPhase]
  | cons line rest ih =>
    rw [List.length_cons] at hRoom
    have hOffer : stream.offer line = { stream with phase := .attached (queue ++ [some line]) } := by
      have hFits : ¬ queueMaxsize ≤ queue.length := by omega
      simp [JobStream.offer, hPhase, hFits]
    rw [List.foldl_cons, hOffer, ih _ rfl (by rw [List.length_append, List.length_singleton]; omega)]
    simp

theorem offer_full {stream : JobStream} {queue : List (Option String)} (line : String)
    (hPhase : stream.phase = .attached queue) (hFull : queueMaxsize ≤ queue.length) :
    stream.offer line = { stream with dropped := stream.dropped + 1 } := by
  simp [JobStream.offer, hPhase, hFull]

def crowdingLines : List String := List.replicate queueMaxsize "." ++ ["done"]

def crowdedBuild : StreamedJob :=
  run step followedBuild ([.start, .subscribe, .advance 0] ++ crowdingLines.map .append)

theorem crowdedBuild_eq : crowdedBuild =
    crowdingLines.foldl append
      ⟨.esp32, "j1", "build", .running, [">> job j1 started: build"],
        [⟨.attached [], [">> job j1 started: build"], 0⟩], [0], []⟩ := by
  have hStart : run step followedBuild [.start, .subscribe, .advance 0] =
      ⟨.esp32, "j1", "build", .running, [">> job j1 started: build"],
        [⟨.attached [], [">> job j1 started: build"], 0⟩], [0], []⟩ := by
    decide
  rw [crowdedBuild, run_append, hStart, run_appends rfl]

theorem crowdedBuild_stream : crowdedBuild.streams[0]? =
    some ⟨.attached ((List.replicate queueMaxsize ".").map some), [">> job j1 started: build"], 1⟩ := by
  have hFill := foldl_offer ⟨.attached [], [">> job j1 started: build"], 0⟩
    (List.replicate queueMaxsize ".") rfl (by simp)
  rw [crowdedBuild_eq, streams_foldl_append]
  simp only [List.getElem?_cons_zero, Option.map_some, crowdingLines, List.foldl_append, hFill,
    List.foldl_cons, List.foldl_nil]
  rw [offer_full "done" rfl (by simp)]
  simp

theorem crowdedBuild_log : crowdedBuild.log = ">> job j1 started: build" :: crowdingLines := by
  rw [crowdedBuild_eq, foldl_append_log]
  rfl

/-- A line is written after the stream has read the file, and before it has its queue. -/
def gapEvents : List LogEvent :=
  [.start, .subscribe, .append "ok", .advance 0, .finish .succeeded, .advance 0, .advance 0]

/-- A progress line comes back from the file in pieces. -/
def brokenEvents : List LogEvent :=
  [.start, .append "5 %\r9 %", .subscribe, .advance 0, .advance 0]

/-- A line that finds the queue full is not in the stream, nor one that falls between file
and queue, and a line with a carriage return may be there as two. -/
theorem stream_misses_lines :
    (∃ stream, crowdedBuild.streams[0]? = some stream ∧ "done" ∈ crowdedBuild.log ∧
      "done" ∉ stream.received ++ stream.outstanding) ∧
    ((run step followedBuild gapEvents).log =
        [">> job j1 started: build", "ok", ">> job succeeded"] ∧
      (run step followedBuild gapEvents).streams[0]? =
        some ⟨.ended, [">> job j1 started: build", ">> job succeeded"], 0⟩) ∧
    (run step followedBuild brokenEvents).log = [">> job j1 started: build", "5 %\r9 %"] ∧
      (run step followedBuild brokenEvents).streams[0]? =
        some ⟨.history [], [">> job j1 started: build", "5 %", "9 %"], 0⟩ := by
  refine ⟨⟨_, crowdedBuild_stream, ?_, ?_⟩, ⟨by decide, by decide⟩, by decide, by decide⟩
  · simp [crowdedBuild_log, crowdingLines]
  · simp [JobStream.outstanding, List.reduceOption_mem_iff]

end StreamedJob

end EidolonAdmin.Tools
