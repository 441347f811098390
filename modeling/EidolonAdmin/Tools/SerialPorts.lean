import Mathlib.Logic.Function.Basic
import EidolonAdmin.Foundation.Transition

/-! # Who uses a serial port

`Esp32ToolService` on its two tables: jobs, and the reservations that monitors and
probes hold while they run. Each lock section and each synchronous call is a step;
between two steps of a monitor or probe anything else may happen and any time may
pass. Instants are microseconds.
-/

namespace EidolonAdmin.Tools

open Foundation.Transition

inductive JobStatus where
  | queued
  | running
  | succeeded
  | failed
  | cancelled
deriving DecidableEq, Repr

structure JobRecord where
  boardId : String
  action : String
  status : JobStatus
  port : Option String
deriving DecidableEq, Repr

def JobRecord.live (record : JobRecord) : Bool := record.status = .queued ∨ record.status = .running

/-- A port in Python's sense of truth. -/
def given (port : Option String) : Option String := port.filter fun path => path ≠ ""

inductive UseKind where
  | serialMonitor
  | probe
deriving DecidableEq, Repr

def UseKind.name : UseKind → String
  | serialMonitor => "serial_monitor"
  | probe => "probe"

/-- How far a monitor or probe is: opening its port (for a probe, running `esptool`),
reading from it, past its `finally` with the port not yet let go, and gone. -/
inductive UsePhase where
  | opening
  | opened
  | leaving
  | gone
deriving DecidableEq, Repr

structure PortUse where
  kind : UseKind
  boardId : String
  port : String
  startedAt : Int
  phase : UsePhase := .opening
  closeRequested : Bool := false
deriving DecidableEq, Repr

def JobRecord.busyOn (port : String) (job : JobRecord) : Bool :=
  job.live ∧ given job.port = some port

def PortUse.busyOn (port : String) (use : PortUse) : Bool := use.port = port ∧ use.phase ≠ .gone

/-- `canTakeover` and `serial_port is not None` of a reservation. -/
def PortUse.canTakeover (use : PortUse) : Bool := use.kind = .serialMonitor

def PortUse.hasSerialPort (use : PortUse) : Bool := use.phase = .opened

/-- The jobs, the monitors and probes by number, and the reservations of `_serial_sessions`. -/
structure ToolService where
  jobs : List JobRecord
  uses : List PortUse := []
  sessions : String → Option Nat := fun _ => none

/-- After a restart, jobs that were under way count as cancelled and hold no port. -/
def loadHistory (stored : List JobRecord) : ToolService where
  jobs := stored.map fun job =>
    { job with status := if job.live then .cancelled else job.status, port := none }

def staleReservationMicroseconds : Int := 15000000

def PortUse.stale (now : Int) (use : PortUse) : Bool :=
  ¬ use.hasSerialPort ∧
    (use.closeRequested ∨ staleReservationMicroseconds < now - use.startedAt)

namespace ToolService

def reservation (s : ToolService) (port : String) : Option PortUse :=
  (s.sessions port).bind fun number => s.uses[number]?

def dropStaleSerialReservations (now : Int) (s : ToolService) : ToolService :=
  { s with
    sessions := fun port =>
      if (s.reservation port).any (PortUse.stale now) then none else s.sessions port }

/-- The loop over the jobs of `_assert_no_conflict` and of `_assert_jobs_available`, which
word the conflict over a port in two ways. -/
def jobConflict (portText : JobRecord → String → String) (boardId : String) (port : Option String) :
    List JobRecord → Option String
  | [] => none
  | record :: rest =>
    if record.live then
      if record.boardId = boardId then some ("board " ++ boardId ++ " is busy")
      else
        match given record.port with
        | none => jobConflict portText boardId port rest
        | some path =>
          if given port = some path then some (portText record path)
          else jobConflict portText boardId port rest
    else jobConflict portText boardId port rest

def jobsConflict (s : ToolService) (boardId : String) (port : Option String) : Option String :=
  jobConflict (fun _ path => "serial port " ++ path ++ " is busy") boardId port s.jobs

def assertJobsAvailable (s : ToolService) (boardId port : String) : Option String :=
  jobConflict (fun record path => "serial port " ++ path ++ " is busy: " ++ record.action) boardId
    (some port) s.jobs

def sessionText (s : ToolService) (path : String) (number : Nat) : String :=
  "serial port " ++ path ++ " is busy: " ++ ((s.uses[number]?).map fun use => use.kind.name).getD ""

/-- `_assert_no_conflict`: what stands in the way of a job or probe. -/
def assertNoConflict (s : ToolService) (boardId : String) (port : Option String) : Option String :=
  (s.jobsConflict boardId port).or <|
    (given port).bind fun path => (s.sessions path).map (s.sessionText path)

def reserve (s : ToolService) (use : PortUse) : ToolService :=
  { s with
    uses := s.uses ++ [use]
    sessions := Function.update s.sessions use.port (some s.uses.length) }

def createJob (s : ToolService) (boardId action : String) (port : Option String) :
    Option String × ToolService :=
  match s.assertNoConflict boardId port with
  | some text => (text, s)
  | none => (none, { s with jobs := s.jobs ++ [{ boardId, action, status := .queued, port }] })

def probeDevice (s : ToolService) (boardId port : String) (now : Int) : Option String × ToolService :=
  match s.assertNoConflict boardId (some port) with
  | some text => (text, s)
  | none => (none, s.reserve { kind := .probe, boardId, port, startedAt := now })

def write (s : ToolService) (number : Nat) (use : PortUse) : ToolService :=
  { s with uses := s.uses.set number use }

def unreserve (s : ToolService) (port : String) : ToolService :=
  { s with sessions := Function.update s.sessions port none }

/-- One round of `_reserve_serial_monitor` (two, where a reservation is taken away: the
lock is free, so the next round follows at once). A takeover of an open monitor asks it
to close and comes back in a later round. -/
def reserveSerialMonitor (s : ToolService) (boardId port : String) (takeover : Bool)
    (now again : Int) : Option String × ToolService :=
  let s := s.dropStaleSerialReservations now
  match s.assertJobsAvailable boardId port with
  | some text => (text, s)
  | none =>
    match s.sessions port with
    | none => (none, s.reserve { kind := .serialMonitor, boardId, port, startedAt := now })
    | some number =>
      match s.uses[number]? with
      | none => (some (s.sessionText port number), s)
      | some use =>
        if takeover ∧ use.canTakeover then
          let s := s.write number { use with closeRequested := true }
          if use.hasSerialPort then (none, s)
          else
            (none, ((s.unreserve port).dropStaleSerialReservations again).reserve
              { kind := .serialMonitor, boardId, port, startedAt := again })
        else (some (s.sessionText port number), s)

/-- The `finally` of a monitor or probe, which removes only its own reservation. -/
def release (s : ToolService) (number : Nat) (use : PortUse) : ToolService :=
  if s.sessions use.port = some number then s.unreserve use.port else s

end ToolService

/-- `opened` is the return of `serial.Serial`. A monitor or probe `leave`s with its port
still in use (a monitor that closes its port, or one given up while a thread opens it or
`esptool` runs), or is `completed` without. -/
inductive SerialEvent where
  | createJob (boardId action : String) (port : Option String)
  | startJob (number : Nat)
  | endJob (number : Nat) (failed cancelled : Bool)
  | listPorts (now : Int)
  | monitor (boardId port : String) (takeover : Bool) (now again : Int)
  | probe (boardId port : String) (now : Int)
  | opened (number : Nat)
  | leave (number : Nat)
  | completed (number : Nat)
  | letGo (number : Nat)

namespace ToolService

def endStatus (failed cancelled : Bool) : JobStatus :=
  if cancelled then .cancelled else if failed then .failed else .succeeded

def onJob (s : ToolService) (number : Nat) (status : JobStatus) : ToolService :=
  match s.jobs[number]? with
  | some job => if job.live then { s with jobs := s.jobs.set number { job with status } } else s
  | none => s

def onUse (s : ToolService) (number : Nat) (phases : List UsePhase)
    (next : PortUse → ToolService) : ToolService :=
  match s.uses[number]? with
  | some use => if use.phase ∈ phases then next use else s
  | none => s

def step (s : ToolService) : SerialEvent → ToolService
  | .createJob boardId action port => (s.createJob boardId action port).2
  | .startJob number => s.onJob number .running
  | .endJob number failed cancelled => s.onJob number (endStatus failed cancelled)
  | .listPorts now => s.dropStaleSerialReservations now
  | .monitor boardId port takeover now again =>
    (s.reserveSerialMonitor boardId port takeover now again).2
  | .probe boardId port now => (s.probeDevice boardId port now).2
  | .opened number =>
    s.onUse number [.opening] fun use =>
      if use.kind = .serialMonitor then s.write number { use with phase := .opened } else s
  | .leave number =>
    s.onUse number [.opening, .opened] fun use =>
      (s.release number use).write number { use with phase := .leaving }
  | .completed number =>
    s.onUse number [.opening] fun use =>
      (s.release number use).write number { use with phase := .gone }
  | .letGo number =>
    s.onUse number [.leaving] fun use => s.write number { use with phase := .gone }

def users (s : ToolService) (port : String) : Nat :=
  s.jobs.countP (JobRecord.busyOn port) + s.uses.countP (PortUse.busyOn port)

def Exclusive (s : ToolService) : Prop := ∀ port, port ≠ "" → s.users port ≤ 1

/-- No monitor or probe that has given up its reservation still has the port. -/
def LetGo (s : ToolService) (port : String) : Prop :=
  ∀ use ∈ s.uses, use.port = port → use.phase ≠ .leaving

/-- No reservation would be dropped: none of a probe or an opening monitor is older than
fifteen seconds or asked to close. -/
def NoneStale (s : ToolService) (now : Int) : Prop :=
  ∀ port use, s.reservation port = some use → use.stale now = false

/-- The steps that do not take a reservation away from its holder, and admit no one to a
port that is not let go. -/
def Keeps (s : ToolService) : SerialEvent → Prop
  | .createJob boardId _ port =>
    s.assertNoConflict boardId port = none → ∀ path, given port = some path → s.LetGo path
  | .probe boardId port _ => s.assertNoConflict boardId (some port) = none → s.LetGo port
  | .listPorts now => s.NoneStale now
  | .monitor boardId port takeover now _ =>
    s.NoneStale now ∧ (s.assertJobsAvailable boardId port = none →
      (s.sessions port = none → s.LetGo port) ∧
      ∀ use, s.reservation port = some use → takeover → use.canTakeover → use.hasSerialPort)
  | _ => True

def Active (use : PortUse) : Prop := use.phase = .opening ∨ use.phase = .opened

structure Held (s : ToolService) : Prop where
  exclusive : s.Exclusive
  entries : ∀ port number, s.sessions port = some number →
    ∃ use, s.uses[number]? = some use ∧ use.port = port ∧ Active use
  held : ∀ (number : Nat) (use : PortUse), s.uses[number]? = some use → use.port ≠ "" →
    Active use → s.sessions use.port = some number

theorem Active.not_gone {use : PortUse} (h : Active use) : use.phase ≠ .gone := by
  rcases h with hPhase | hPhase <;> simp [hPhase]

variable {s : ToolService}

theorem countP_set_le {α : Type} {p : α → Bool} {items : List α} {number : Nat} {old next : α}
    (hOld : items[number]? = some old) (hNext : p next → p old) :
    (items.set number next).countP p ≤ items.countP p := by
  obtain ⟨hLt, hGet⟩ := List.getElem?_eq_some_iff.mp hOld
  rw [List.countP_set hLt, hGet]
  by_cases hCounts : p next
  · have hPos : 0 < items.countP p :=
      List.countP_pos_iff.mpr ⟨old, List.mem_of_getElem? hOld, hNext hCounts⟩
    simp only [hCounts, hNext hCounts, if_true]
    omega
  · simp only [hCounts, Bool.false_eq_true, if_false]
    omega

theorem given_eq_some_iff {port : Option String} {path : String} :
    given port = some path ↔ port = some path ∧ path ≠ "" := by
  simp [given, Option.filter_eq_some_iff]

theorem jobConflict_none {portText : JobRecord → String → String} {boardId path : String}
    {port : Option String} {jobs : List JobRecord} (h : jobConflict portText boardId port jobs = none)
    (hPort : given port = some path) : ∀ job ∈ jobs, job.live → given job.port ≠ some path := by
  induction jobs with
  | nil => exact fun _ hNone => absurd hNone List.not_mem_nil
  | cons record rest ih =>
    unfold jobConflict at h
    rw [List.forall_mem_cons]
    split at h
    · split at h
      · cases h
      · split at h
        · rename_i hNone
          exact ⟨fun _ => by simp [hNone], ih h⟩
        · rename_i other hOther
          split at h
          · cases h
          · rename_i hApart
            refine ⟨fun _ hSame => hApart ?_, ih h⟩
            rw [hPort, ← hSame, hOther]
    · rename_i hEnded
      exact ⟨fun hLive => absurd hLive hEnded, ih h⟩

theorem countP_jobs_eq_zero {portText : JobRecord → String → String} {boardId path : String}
    {port : Option String} {jobs : List JobRecord} (h : jobConflict portText boardId port jobs = none)
    (hPort : given port = some path) :
    jobs.countP (JobRecord.busyOn path) = 0 := by
  refine List.countP_eq_zero.mpr fun job hJob hBusy => ?_
  obtain ⟨hLive, hSame⟩ : job.live ∧ given job.port = some path := by
    simpa [JobRecord.busyOn] using hBusy
  exact jobConflict_none h hPort job hJob hLive hSame

theorem countP_uses_eq_zero (h : s.Held) {port : String} (hPort : port ≠ "")
    (hFree : s.sessions port = none) (hLetGo : s.LetGo port) :
    s.uses.countP (PortUse.busyOn port) = 0 := by
  refine List.countP_eq_zero.mpr fun use hUse hBusy => ?_
  obtain ⟨number, hNumber⟩ := List.mem_iff_getElem?.mp hUse
  obtain ⟨rfl, hPhase⟩ : use.port = port ∧ use.phase ≠ .gone := by
    simpa [PortUse.busyOn] using hBusy
  have hActive : Active use := by
    have hLeaving := hLetGo use hUse rfl
    unfold Active
    cases hCase : use.phase <;> simp_all
  rw [h.held number use hNumber hPort hActive] at hFree
  cases hFree

theorem users_addJob (job : JobRecord) (hLive : job.live) (port : String) :
    users { s with jobs := s.jobs ++ [job] } port =
      s.users port + if given job.port = some port then 1 else 0 := by
  simp only [users, List.countP_append, List.countP_singleton, JobRecord.busyOn, hLive, true_and,
    decide_eq_true_eq]
  omega

theorem held_createJob (h : s.Held) (boardId action : String) (port : Option String)
    (hKeeps : s.assertNoConflict boardId port = none → ∀ path, given port = some path → s.LetGo path) :
    (s.createJob boardId action port).2.Held := by
  unfold createJob
  split
  · exact h
  · rename_i hNone
    refine ⟨?_, h.entries, h.held⟩
    intro path hPath
    rw [users_addJob _ rfl]
    split
    · rename_i hSame
      obtain ⟨hJobs, hSessions⟩ := Option.or_eq_none_iff.mp hNone
      have hFree : s.sessions path = none := by simpa [hSame] using hSessions
      have hUsers : s.users path = 0 := by
        rw [users, countP_jobs_eq_zero hJobs hSame,
          countP_uses_eq_zero h hPath hFree (hKeeps hNone path hSame)]
      omega
    · exact h.exclusive path hPath

theorem users_reserve (use : PortUse) (hPhase : use.phase = .opening) (port : String) :
    (s.reserve use).users port = s.users port + if use.port = port then 1 else 0 := by
  simp [users, reserve, List.countP_append, PortUse.busyOn, hPhase, Nat.add_assoc]

theorem held_reserve (h : s.Held) {use : PortUse} (hPhase : use.phase = .opening)
    (hFree : use.port ≠ "" → s.sessions use.port = none ∧ s.users use.port = 0) :
    (s.reserve use).Held := by
  refine ⟨?_, ?_, ?_⟩
  · intro port hPort
    rw [users_reserve use hPhase]
    split
    · rename_i hSame
      have hNone := (hFree (hSame ▸ hPort)).2
      rw [hSame] at hNone
      omega
    · exact h.exclusive port hPort
  · intro port number hEntry
    by_cases hSame : port = use.port
    · subst hSame
      obtain rfl : s.uses.length = number := by simpa [reserve] using hEntry
      exact ⟨use, by simp [reserve], rfl, .inl hPhase⟩
    · have hOld : s.sessions port = some number := by simpa [reserve, hSame] using hEntry
      obtain ⟨old, hOldUse, hRest⟩ := h.entries port number hOld
      have hLt := (List.getElem?_eq_some_iff.mp hOldUse).1
      exact ⟨old, by simpa [reserve, List.getElem?_append_left hLt] using hOldUse, hRest⟩
  · intro number old hOld hPort hActive
    by_cases hLt : number < s.uses.length
    · have hUse : s.uses[number]? = some old := by
        simpa [reserve, List.getElem?_append_left hLt] using hOld
      have hEntry := h.held number old hUse hPort hActive
      have hApart : old.port ≠ use.port := by
        intro hSame
        rw [hSame] at hEntry hPort
        rw [(hFree hPort).1] at hEntry
        cases hEntry
      simpa [reserve, hApart] using hEntry
    · obtain ⟨hBound, hGet⟩ := List.getElem?_eq_some_iff.mp hOld
      have hLast : number = s.uses.length := by
        simp only [reserve, List.length_append, List.length_singleton] at hBound
        omega
      subst hLast
      obtain rfl : use = old := by simpa [reserve] using hGet
      simp [reserve]

theorem users_write_le {number : Nat} {use next : PortUse} (hUse : s.uses[number]? = some use)
    (hPort : next.port = use.port) (hPhase : next.phase ≠ .gone → use.phase ≠ .gone) (port : String) :
    (s.write number next).users port ≤ s.users port := by
  refine Nat.add_le_add_left (countP_set_le hUse ?_) _
  simp only [PortUse.busyOn, hPort, decide_eq_true_eq]
  exact fun hBusy => ⟨hBusy.1, hPhase hBusy.2⟩

theorem write_uses {number other : Nat} {next : PortUse} :
    (s.write number next).uses[other]? =
      if number = other then (s.uses[other]?).map fun _ => next else s.uses[other]? := by
  simp only [write, List.getElem?_set']
  rfl

theorem held_write_active (h : s.Held) {number : Nat} {use next : PortUse}
    (hUse : s.uses[number]? = some use) (hPort : next.port = use.port) (hWas : Active use)
    (hActive : Active next) : (s.write number next).Held := by
  refine ⟨?_, ?_, ?_⟩
  · intro port hGiven
    exact Nat.le_trans (users_write_le hUse hPort (fun _ => hWas.not_gone) port)
      (h.exclusive port hGiven)
  · intro port other hEntry
    obtain ⟨old, hOld, hOldPort, hOldActive⟩ := h.entries port other hEntry
    by_cases hSame : number = other
    · subst hSame
      obtain rfl : use = old := Option.some.inj (hUse.symm.trans hOld)
      exact ⟨next, by simp [write_uses, hUse], hPort.trans hOldPort, hActive⟩
    · exact ⟨old, by simpa [write_uses, hSame] using hOld, hOldPort, hOldActive⟩
  · intro other old hOld hGiven hOldActive
    by_cases hSame : number = other
    · subst hSame
      obtain rfl : next = old := by simpa [write_uses, hUse] using hOld
      rw [hPort] at hGiven ⊢
      exact h.held number use hUse hGiven hWas
    · exact h.held other old (by simpa [write_uses, hSame] using hOld) hGiven hOldActive

theorem held_write_inactive {number : Nat} {use next : PortUse} (hExclusive : s.Exclusive)
    (hUse : s.uses[number]? = some use)
    (hEntries : ∀ port other, s.sessions port = some other → other ≠ number ∧
      ∃ old, s.uses[other]? = some old ∧ old.port = port ∧ Active old)
    (hHeld : ∀ (other : Nat) (old : PortUse), other ≠ number → s.uses[other]? = some old →
      old.port ≠ "" → Active old → s.sessions old.port = some other)
    (hPort : next.port = use.port) (hPhase : next.phase ≠ .gone → use.phase ≠ .gone)
    (hInactive : ¬ Active next) : (s.write number next).Held := by
  refine ⟨?_, ?_, ?_⟩
  · exact fun port hGiven =>
      Nat.le_trans (users_write_le hUse hPort hPhase port) (hExclusive port hGiven)
  · intro port other hEntry
    obtain ⟨hApart, old, hOld, hRest⟩ := hEntries port other hEntry
    exact ⟨old, by simpa [write_uses, hApart.symm] using hOld, hRest⟩
  · intro other old hOld hGiven hOldActive
    by_cases hSame : number = other
    · subst hSame
      obtain rfl : next = old := by simpa [write_uses, hUse] using hOld
      exact absurd hOldActive hInactive
    · exact hHeld other old (Ne.symm hSame) (by simpa [write_uses, hSame] using hOld) hGiven hOldActive

theorem release_sessions {number : Nat} {use : PortUse} {port : String} :
    (s.release number use).sessions port =
      if s.sessions use.port = some number ∧ port = use.port then none else s.sessions port := by
  unfold release unreserve
  by_cases hOwn : s.sessions use.port = some number
  · simp [hOwn, Function.update_apply]
  · simp [hOwn]

theorem release_uses {number : Nat} {use : PortUse} : (s.release number use).uses = s.uses := by
  unfold release unreserve
  split <;> rfl

theorem release_users {number : Nat} {use : PortUse} {port : String} :
    (s.release number use).users port = s.users port := by
  unfold release unreserve users
  split <;> rfl

theorem held_leave (h : s.Held) {number : Nat} {use next : PortUse}
    (hUse : s.uses[number]? = some use) (hWas : Active use) (hPort : next.port = use.port)
    (hInactive : ¬ Active next) : ((s.release number use).write number next).Held := by
  have hUses : (s.release number use).uses = s.uses := release_uses
  refine held_write_inactive ?_ (by rw [hUses, hUse]) ?_ ?_ hPort (fun _ => hWas.not_gone) hInactive
  · intro port hGiven
    rw [release_users]
    exact h.exclusive port hGiven
  · intro port other hEntry
    rw [release_sessions] at hEntry
    split at hEntry
    · cases hEntry
    · rename_i hNotOwn
      obtain ⟨old, hOld, hOldPort, hActive⟩ := h.entries port other hEntry
      refine ⟨?_, old, by rw [hUses, hOld], hOldPort, hActive⟩
      rintro rfl
      obtain rfl : use = old := Option.some.inj (hUse.symm.trans hOld)
      exact hNotOwn ⟨hOldPort ▸ hEntry, hOldPort.symm⟩
  · intro other old hApart hOld hGiven hActive
    rw [hUses] at hOld
    have hEntry := h.held other old hOld hGiven hActive
    rw [release_sessions, if_neg]
    · exact hEntry
    · rintro ⟨hOwn, hSame⟩
      rw [hSame, hOwn] at hEntry
      exact hApart (Option.some.inj hEntry).symm

theorem held_letGo (h : s.Held) {number : Nat} {use : PortUse} (hUse : s.uses[number]? = some use)
    (hLeaving : use.phase = .leaving) : (s.write number { use with phase := .gone }).Held := by
  refine held_write_inactive h.exclusive hUse ?_ (fun other old _ => h.held other old) rfl
    (fun hGone => absurd rfl hGone) (by simp [Active])
  intro port other hEntry
  obtain ⟨old, hOld, hOldPort, hActive⟩ := h.entries port other hEntry
  refine ⟨?_, old, hOld, hOldPort, hActive⟩
  rintro rfl
  obtain rfl : use = old := Option.some.inj (hUse.symm.trans hOld)
  rcases hActive with hPhase | hPhase <;> rw [hLeaving] at hPhase <;> cases hPhase

theorem dropStaleSerialReservations_eq {now : Int} (h : s.NoneStale now) :
    s.dropStaleSerialReservations now = s := by
  have hSessions : (fun port => if (s.reservation port).any (PortUse.stale now) then none
      else s.sessions port) = s.sessions := by
    funext port
    cases hUse : s.reservation port with
    | none => rfl
    | some use => simp [h port use hUse]
  unfold dropStaleSerialReservations
  rw [hSessions]

theorem held_probeDevice (h : s.Held) {boardId port : String} {now : Int}
    (hKeeps : s.assertNoConflict boardId (some port) = none → s.LetGo port) :
    (s.probeDevice boardId port now).2.Held := by
  unfold probeDevice
  split
  · exact h
  · rename_i hNone
    refine held_reserve h rfl fun hPort => ?_
    have hGiven : given (some port) = some port := given_eq_some_iff.mpr ⟨rfl, hPort⟩
    obtain ⟨hJobs, hSessions⟩ := Option.or_eq_none_iff.mp hNone
    have hFree : s.sessions port = none := by simpa [hGiven] using hSessions
    refine ⟨hFree, ?_⟩
    rw [users, countP_jobs_eq_zero hJobs hGiven, countP_uses_eq_zero h hPort hFree (hKeeps hNone)]

theorem held_reserveSerialMonitor (h : s.Held) {boardId port : String} {takeover : Bool}
    {now again : Int} (hKeeps : s.Keeps (.monitor boardId port takeover now again)) :
    (s.reserveSerialMonitor boardId port takeover now again).2.Held := by
  obtain ⟨hStale, hAdmits⟩ := hKeeps
  unfold reserveSerialMonitor
  simp only [dropStaleSerialReservations_eq hStale]
  split
  · exact h
  · rename_i hJobs
    obtain ⟨hFree, hOpen⟩ := hAdmits hJobs
    split
    · rename_i hNone
      refine held_reserve h rfl fun hPort => ⟨hNone, ?_⟩
      have hGiven : given (some port) = some port := given_eq_some_iff.mpr ⟨rfl, hPort⟩
      rw [users, countP_jobs_eq_zero hJobs hGiven, countP_uses_eq_zero h hPort hNone (hFree hNone)]
    · rename_i number hEntry
      split
      · exact h
      · rename_i use hUse
        split
        · rename_i hTaken
          have hReservation : s.reservation port = some use := by simp [reservation, hEntry, hUse]
          have hSerial := hOpen use hReservation hTaken.1 hTaken.2
          have hOpened : Active use := .inr (by simpa [PortUse.hasSerialPort] using hSerial)
          rw [if_pos hSerial]
          exact held_write_active h hUse rfl hOpened hOpened
        · exact h

theorem held_onUse (h : s.Held) {number : Nat} {phases : List UsePhase} {next : PortUse → ToolService}
    (hNext : ∀ use, s.uses[number]? = some use → use.phase ∈ phases → (next use).Held) :
    (s.onUse number phases next).Held := by
  unfold onUse
  split
  · rename_i use hUse
    split
    · rename_i hPhase
      exact hNext use hUse hPhase
    · exact h
  · exact h

theorem held_onJob (h : s.Held) (number : Nat) (status : JobStatus) : (s.onJob number status).Held := by
  unfold onJob
  split
  · rename_i job hJob
    split
    · rename_i hLive
      refine ⟨?_, h.entries, h.held⟩
      intro port hPort
      refine Nat.le_trans (Nat.add_le_add_right (countP_set_le hJob ?_) _) (h.exclusive port hPort)
      simp only [JobRecord.busyOn, decide_eq_true_eq]
      exact fun hBusy => ⟨hLive, hBusy.2⟩
    · exact h
  · exact h

theorem held_step (event : SerialEvent) (hKeeps : s.Keeps event) (h : s.Held) : (s.step event).Held := by
  cases event with
  | createJob boardId action port => exact held_createJob h boardId action port hKeeps
  | startJob number => exact held_onJob h number .running
  | endJob number failed cancelled => exact held_onJob h number _
  | listPorts now =>
    rw [step, dropStaleSerialReservations_eq hKeeps]
    exact h
  | monitor boardId port takeover now again => exact held_reserveSerialMonitor h hKeeps
  | probe boardId port now => exact held_probeDevice h hKeeps
  | opened number =>
    refine held_onUse h fun use hUse hPhase => ?_
    have hOpening : Active use := .inl (by simpa using hPhase)
    split
    · exact held_write_active h hUse rfl hOpening (.inr rfl)
    · exact h
  | leave number =>
    refine held_onUse h fun use hUse hPhase => ?_
    exact held_leave h hUse (by simpa [Active] using hPhase) rfl (by simp [Active])
  | completed number =>
    refine held_onUse h fun use hUse hPhase => ?_
    exact held_leave h hUse (.inl (by simpa using hPhase)) rfl (by simp [Active])
  | letGo number =>
    refine held_onUse h fun use hUse hPhase => ?_
    exact held_letGo h hUse (by simpa using hPhase)

theorem held_loadHistory (stored : List JobRecord) : (loadHistory stored).Held := by
  have hNone : ∀ port, (loadHistory stored).jobs.countP (JobRecord.busyOn port) = 0 := by
    intro port
    refine List.countP_eq_zero.mpr fun job hJob hBusy => ?_
    obtain ⟨old, _, rfl⟩ := List.mem_map.mp hJob
    simp [JobRecord.busyOn, given] at hBusy
  refine ⟨?_, ?_, ?_⟩
  · intro port _
    rw [users, hNone]
    exact Nat.zero_le 1
  · rintro port number ⟨⟩
  · rintro number use ⟨⟩

end ToolService

open ToolService

/-- In every run in which no reservation is taken from its holder and no one is admitted to
a port that is not let go, each port has at most one user at every moment. -/
theorem serial_ports_exclusive (stored : List JobRecord) {events : List SerialEvent}
    (hKeeps : Meets ToolService.step ToolService.Keeps (loadHistory stored) events)
    {reached later : List SerialEvent} (hReached : events = reached ++ later) :
    (run ToolService.step (loadHistory stored) reached).Exclusive := by
  rw [hReached, meets_append] at hKeeps
  exact (Meets.run_invariant (fun _ event hStep hHeld => held_step event hStep hHeld)
    (held_loadHistory stored) hKeeps.1).exclusive

theorem serial_ports_exclusive_in_turn :
    (run ToolService.step (loadHistory []) [.createJob "core-s3" "flash" (some "/dev/ttyUSB0"),
      .endJob 0 false false, .probe "core-s3" "/dev/ttyUSB0" 5000000]).users "/dev/ttyUSB0" = 1 ∧
    (run ToolService.step (loadHistory []) [.createJob "core-s3" "flash" (some "/dev/ttyUSB0"),
      .endJob 0 false false, .probe "core-s3" "/dev/ttyUSB0" 5000000]).Exclusive := by
  refine ⟨by decide, serial_ports_exclusive [] ?_ (List.append_nil _).symm⟩
  refine ⟨?_, trivial, ?_, trivial⟩
  · rintro _ path _ use ⟨⟩
  · rintro _ use ⟨⟩

/-- The listing drops the reservation of a probe that runs, and a second one is admitted. -/
theorem listing_admits_second_probe :
    ¬ (run ToolService.step (loadHistory [])
      [.probe "core-s3" "/dev/ttyUSB0" 0, .listPorts 16000000,
        .probe "core-s3" "/dev/ttyUSB0" 16000000]).Exclusive := by
  intro hExclusive
  exact absurd (hExclusive "/dev/ttyUSB0" (by decide)) (by decide)

end EidolonAdmin.Tools
