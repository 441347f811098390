import EidolonAdmin.Foundation.Dict
import EidolonAdmin.Foundation.Transition
import EidolonAdmin.Tools.Cancellation

/-! # The jobs of the mobile tools

`MobileToolService` on its table of jobs and on the record files behind it. `create_job` comes here
once the request was validated. The runner gives way in three places: before its task first runs, in
`create_subprocess_exec`, and while it reads the output and waits for the exit. A record is written
in one turn, but the process may die in it. Instants of files are integers, and the clocks may do
anything. The writing of files does not fail here, and lines of output change nothing.
-/

namespace EidolonAdmin.Tools

open Foundation Foundation.Transition

structure MobileJobRequest where
  action : String
  serial : Option String := none
  mode : String := "debug"
deriving DecidableEq, Repr

structure MobileJob where
  id : String
  action : String
  status : JobStatus
  serial : Option String := none
  mode : String := "debug"
  startedAt : Option String := none
  finishedAt : Option String := none
  exitCode : Option Int := none
  commandPreview : String
  logPath : String
  error : Option String := none
deriving DecidableEq, Repr

def MobileJob.Live (job : MobileJob) : Prop := job.status = .queued ∨ job.status = .running

instance : DecidablePred MobileJob.Live := fun _ => inferInstanceAs (Decidable (_ ∨ _))

inductive MobileStage where
  | queued
  | spawning
  | reading
  | finished
deriving DecidableEq, Repr

structure MobileRecord where
  model : MobileJob
  process : Option Process := none
  cancelRequested : Bool := false
  stage : MobileStage := .queued
deriving DecidableEq, Repr

/-- A file of the jobs directory; no content is what cannot be read as a job. -/
structure RecordFile where
  mtime : Int
  content : Option MobileJob
deriving DecidableEq, Repr

/-- `jobs` and `order` are the service's, `files` are the files by their stem. -/
structure MobileService where
  jobs : List (String × MobileRecord) := []
  order : List String := []
  files : List (String × RecordFile) := []
deriving DecidableEq, Repr

def historyLimit : Nat := 100

def restartedError : String := "admin restarted before the job completed"

namespace MobileRecord

/-- The last lines of the `try` of `_run_job`. -/
def conclude (record : MobileRecord) (code : Int) : MobileRecord :=
  let model := { record.model with exitCode := some code }
  { record with
    model :=
      if record.cancelRequested then { model with status := .cancelled }
      else if code = 0 then { model with status := .succeeded }
      else { model with status := .failed, error := some ("command exited with code " ++ toString code) } }

/-- The handler of `asyncio.CancelledError`. -/
def abandon (record : MobileRecord) : MobileRecord := { record with model.status := .cancelled }

/-- The handler of every other exception. -/
def fail (record : MobileRecord) (text : String) : MobileRecord :=
  { record with model.status := .failed, model.error := some text }

/-- The `finally` of `_run_job`, before the record is written. -/
def finish (record : MobileRecord) (now : String) : MobileRecord :=
  { record with model.finishedAt := some now, process := none, stage := .finished }

def cancel (record : MobileRecord) : MobileRecord :=
  { record with
    cancelRequested := true
    process := record.process.map fun process =>
      if process.returncode = none then { process with terminated := true } else process }

end MobileRecord

/-- What `_load_history` makes of a job that was under way. -/
def MobileJob.recover (now : String) (job : MobileJob) : MobileJob :=
  if job.Live then { job with status := .failed, error := some restartedError, finishedAt := some now } else job

/-- The files in the order of `_load_history`; those of one instant stay as they were listed. -/
def newest (listing : List (String × RecordFile)) : List (String × RecordFile) :=
  (listing.mergeSort fun a b => b.2.mtime ≤ a.2.mtime).take historyLimit

namespace MobileService

def put (s : MobileService) (record : MobileRecord) (mtime : Int) : MobileService :=
  { s with
    jobs := Dict.set s.jobs record.model.id record
    files := Dict.set s.files record.model.id ⟨mtime, some record.model⟩ }

def Busy (s : MobileService) : Prop := ∃ item ∈ s.jobs, item.2.model.Live

instance : DecidablePred Busy := fun s => inferInstanceAs (Decidable (∃ item ∈ s.jobs, item.2.model.Live))

/-- The section under the lock; absent where it raises `MobileJobConflict`. -/
def createJob (s : MobileService) (id : String) (request : MobileJobRequest) (preview logPath : String) (mtime : Int) :
    Option MobileService :=
  if s.Busy then none
  else
    let model : MobileJob :=
      { id, action := request.action, status := .queued, serial := request.serial, mode := request.mode
        commandPreview := preview, logPath }
    some { s.put { model } mtime with order := (id :: s.order).take historyLimit }

def listJobs (s : MobileService) : List MobileJob :=
  s.order.filterMap fun id => (Dict.get s.jobs id).map MobileRecord.model

/-- The first run of the runner's task. -/
def begin (s : MobileService) (record : MobileRecord) (now : String) (mtime : Int) : MobileService :=
  s.put { record with model.status := .running, model.startedAt := some now, stage := .spawning } mtime

def loadFile (clock : String → String) (s : MobileService) (file : String × RecordFile) : MobileService :=
  match file.2.content with
  | none => s
  | some job =>
    { s with
      jobs := Dict.set s.jobs job.id { model := job.recover (clock job.id), stage := .finished }
      order := s.order ++ [job.id] }

/-- `clock` is what `_now()` reads at each job. -/
def loadHistory (clock : String → String) (files listing : List (String × RecordFile)) : MobileService :=
  (newest listing).foldl (loadFile clock) { files }

/-- The directory after a death of the process, that may have come while a record was written. -/
def leftFiles (s : MobileService) : Option (String × Int) → List (String × RecordFile)
  | none => s.files
  | some (torn, mtime) => Dict.set s.files torn ⟨mtime, none⟩

end MobileService

/-- What the event loop and the callers bring. `restart` carries the record that was being written
when the process died, and the directory as `glob` lists it then. -/
inductive MobileEvent where
  | createJob (id : String) (request : MobileJobRequest) (preview logPath : String) (mtime : Int)
  | cancelJob (id : String) (mtime : Int)
  | begun (id now : String) (mtime : Int)
  | spawned (id : String)
  | exited (id : String) (code : Int)
  | resumed (id now : String) (mtime : Int)
  | raised (id text now : String) (mtime : Int)
  | taskCancelled (id now : String) (mtime : Int)
  | restart (torn : Option (String × Int)) (listing : List (String × RecordFile)) (clock : String → String)

namespace MobileService

/-- An event that finds the runner elsewhere leaves everything as it is. -/
def onRecord (s : MobileService) (id : String) (next : MobileRecord → Option MobileService) : MobileService :=
  ((Dict.get s.jobs id).bind next).getD s

def step (s : MobileService) : MobileEvent → MobileService
  | .createJob id request preview logPath mtime => (s.createJob id request preview logPath mtime).getD s
  | .cancelJob id mtime => s.onRecord id fun record => some (s.put record.cancel mtime)
  | .begun id now mtime =>
    s.onRecord id fun record => if record.stage = .queued then some (s.begin record now mtime) else none
  | .spawned id =>
    s.onRecord id fun record =>
      if record.stage = .spawning then
        some { s with jobs := Dict.set s.jobs id { record with process := some {}, stage := .reading } }
      else none
  | .exited id code =>
    s.onRecord id fun record =>
      if record.stage = .reading then
        some { s with
          jobs := Dict.set s.jobs id { record with
            process := record.process.map fun process =>
              if process.returncode = none then { process with returncode := some code } else process } }
      else none
  | .resumed id now mtime =>
    s.onRecord id fun record =>
      if record.stage = .reading then
        (record.process.bind Process.returncode).map fun code => s.put ((record.conclude code).finish now) mtime
      else none
  | .raised id text now mtime =>
    s.onRecord id fun record =>
      if record.stage = .spawning ∨ record.stage = .reading then some (s.put ((record.fail text).finish now) mtime)
      else none
  | .taskCancelled id now mtime =>
    s.onRecord id fun record =>
      if record.stage = .spawning ∨ record.stage = .reading then some (s.put (record.abandon.finish now) mtime)
      else none
  | .restart torn listing clock =>
    if listing.Perm (s.leftFiles torn) then loadHistory clock (s.leftFiles torn) listing else s

def afterEvents (events : List MobileEvent) : MobileService := run step {} events

end MobileService

/-! ## What every state keeps -/

structure MobileJob.Truthful (job : MobileJob) : Prop where
  live : job.Live → job.exitCode = none ∧ job.error = none ∧ job.finishedAt = none
  ended : ¬ job.Live → job.finishedAt.isSome
  succeeded : job.status = .succeeded → job.exitCode = some 0 ∧ job.error = none
  cancelled : job.status = .cancelled → job.error = none
  failed : job.status = .failed → ∃ text, job.error = some text ∧
    ∀ code, job.exitCode = some code → code ≠ 0 ∧ text = "command exited with code " ++ toString code

def MobileRecord.Staged (record : MobileRecord) : Prop :=
  match record.stage with
  | .queued => record.model.status = .queued
  | .spawning | .reading => record.model.status = .running
  | .finished => ¬ record.model.Live

def RecordFile.Holds (file : RecordFile) (job : MobileJob) : Prop :=
  ∃ stored, file.content = some stored ∧ (job = stored ∨ (stored.Live ∧ ∃ now, job = stored.recover now))

namespace MobileService

structure Sound (s : MobileService) : Prop where
  jobKeys : (s.jobs.map Prod.fst).Nodup
  fileKeys : (s.files.map Prod.fst).Nodup
  ids : ∀ id record, Dict.get s.jobs id = some record → record.model.id = id
  fileIds : ∀ name file job, Dict.get s.files name = some file → file.content = some job → job.id = name ∧ job.Truthful
  held : ∀ id record, Dict.get s.jobs id = some record → ∃ file, Dict.get s.files id = some file ∧ file.Holds record.model
  staged : ∀ id record, Dict.get s.jobs id = some record → record.Staged ∧ record.model.Truthful
  active : ∀ id record, Dict.get s.jobs id = some record → record.model.Live → s.order.head? = some id
  listed : ∀ id ∈ s.order, ∃ record, Dict.get s.jobs id = some record
  bound : s.order.length ≤ historyLimit

variable {s : MobileService}

theorem Sound.initial : Sound {} where
  jobKeys := List.nodup_nil
  fileKeys := List.nodup_nil
  ids _ _ h := by cases h
  fileIds _ _ _ h := by cases h
  held _ _ h := by cases h
  staged _ _ h := by cases h
  active _ _ h := by cases h
  listed _ h := by cases h
  bound := Nat.zero_le _

theorem Sound.put (h : s.Sound) (record : MobileRecord) (mtime : Int) (order : List String)
    (hStaged : record.Staged) (hTruthful : record.model.Truthful)
    (hActive : record.model.Live → order.head? = some record.model.id)
    (hOthers : ∀ id other, id ≠ record.model.id → Dict.get s.jobs id = some other → other.model.Live →
      order.head? = some id)
    (hListed : ∀ id ∈ order, id = record.model.id ∨ ∃ other, Dict.get s.jobs id = some other)
    (hBound : order.length ≤ historyLimit) : Sound { s.put record mtime with order := order } where
  jobKeys := Dict.nodup_set h.jobKeys _ _
  fileKeys := Dict.nodup_set h.fileKeys _ _
  ids id other hGet := by
    simp only [MobileService.put, Dict.get_set] at hGet
    split at hGet
    case isTrue hSame => rw [← Option.some.inj hGet, hSame]
    case isFalse => exact h.ids id other hGet
  fileIds name file job hGet hContent := by
    simp only [MobileService.put, Dict.get_set] at hGet
    split at hGet
    case isTrue hSame =>
      rw [← Option.some.inj hGet] at hContent
      rw [← Option.some.inj hContent]
      exact ⟨hSame.symm, hTruthful⟩
    case isFalse => exact h.fileIds name file job hGet hContent
  held id other hGet := by
    simp only [MobileService.put, Dict.get_set] at hGet ⊢
    split at hGet
    case isTrue hSame =>
      rw [if_pos hSame, ← Option.some.inj hGet]
      exact ⟨_, rfl, _, rfl, .inl rfl⟩
    case isFalse hOther =>
      rw [if_neg hOther]
      exact h.held id other hGet
  staged id other hGet := by
    simp only [MobileService.put, Dict.get_set] at hGet
    split at hGet
    case isTrue => exact Option.some.inj hGet ▸ ⟨hStaged, hTruthful⟩
    case isFalse => exact h.staged id other hGet
  active id other hGet hLive := by
    simp only [MobileService.put, Dict.get_set] at hGet
    split at hGet
    case isTrue hSame =>
      rw [hSame]
      exact hActive (Option.some.inj hGet ▸ hLive)
    case isFalse hOther => exact hOthers id other hOther hGet hLive
  listed id hMem := by
    simp only [MobileService.put, Dict.get_set]
    split
    case isTrue => exact ⟨record, rfl⟩
    case isFalse hOther => exact (hListed id hMem).resolve_left hOther
  bound := hBound

theorem Sound.rewrite (h : s.Sound) {id : String} {record : MobileRecord} (hGet : Dict.get s.jobs id = some record)
    (later : MobileRecord) (mtime : Int) (hId : later.model.id = record.model.id) (hStaged : later.Staged)
    (hTruthful : later.model.Truthful) (hLive : later.model.Live → record.model.Live) :
    Sound (s.put later mtime) := by
  have hSame : later.model.id = id := hId.trans (h.ids id record hGet)
  refine h.put later mtime s.order hStaged hTruthful (fun hLater => ?_) (fun other record _ => h.active other record)
    (fun other hMem => .inr (h.listed other hMem)) h.bound
  rw [hSame]
  exact h.active id record hGet (hLive hLater)

theorem Sound.touch (h : s.Sound) {id : String} {record : MobileRecord} (hGet : Dict.get s.jobs id = some record)
    (later : MobileRecord) (hModel : later.model = record.model) (hStaged : later.Staged) :
    Sound { s with jobs := Dict.set s.jobs id later } where
  jobKeys := Dict.nodup_set h.jobKeys _ _
  fileKeys := h.fileKeys
  ids other found hFound := by
    rw [Dict.get_set] at hFound
    split at hFound
    case isTrue hSame =>
      rw [← Option.some.inj hFound, hModel, hSame]
      exact h.ids id record hGet
    case isFalse => exact h.ids other found hFound
  fileIds := h.fileIds
  held other found hFound := by
    rw [Dict.get_set] at hFound
    split at hFound
    case isTrue hSame =>
      rw [← Option.some.inj hFound, hModel, hSame]
      exact h.held id record hGet
    case isFalse => exact h.held other found hFound
  staged other found hFound := by
    rw [Dict.get_set] at hFound
    split at hFound
    case isTrue =>
      rw [← Option.some.inj hFound]
      exact ⟨hStaged, hModel ▸ (h.staged id record hGet).2⟩
    case isFalse => exact h.staged other found hFound
  active other found hFound hLive := by
    rw [Dict.get_set] at hFound
    split at hFound
    case isTrue hSame =>
      rw [← Option.some.inj hFound, hModel] at hLive
      exact hSame ▸ h.active id record hGet hLive
    case isFalse => exact h.active other found hFound hLive
  listed other hMem := by
    rw [Dict.get_set]
    split
    case isTrue => exact ⟨later, rfl⟩
    case isFalse => exact h.listed other hMem
  bound := h.bound

theorem not_busy_iff : ¬ s.Busy ↔ ∀ item ∈ s.jobs, ¬ item.2.model.Live := by
  simp only [Busy, not_exists, not_and]

theorem Sound.createJob (h : s.Sound) {id : String} {request : MobileJobRequest} {preview logPath : String} {mtime : Int}
    {t : MobileService} (hCreate : s.createJob id request preview logPath mtime = some t) : Sound t := by
  unfold MobileService.createJob at hCreate
  split at hCreate
  case isTrue => cases hCreate
  case isFalse hBusy =>
    cases hCreate
    have hTruthful : MobileJob.Truthful
        { id, action := request.action, status := .queued, serial := request.serial, mode := request.mode
          commandPreview := preview, logPath } :=
      { live := fun _ => ⟨rfl, rfl, rfl⟩
        ended := fun hOver => absurd (.inl rfl) hOver
        succeeded := fun hStatus => by cases hStatus
        cancelled := fun hStatus => by cases hStatus
        failed := fun hStatus => by cases hStatus }
    refine h.put _ mtime _ rfl hTruthful (fun _ => rfl) ?_ ?_ (List.length_take_le _ _)
    · intro other record _ hGet hLive
      exact absurd hLive (not_busy_iff.mp hBusy _ (Dict.get_mem hGet))
    · intro other hMem
      rcases List.mem_cons.mp (List.mem_of_mem_take hMem) with hSame | hMem
      · exact .inl hSame
      · exact .inr (h.listed other hMem)

end MobileService

/-! ## The runner -/

namespace MobileRecord

variable {record : MobileRecord}

theorem running_of_stage (h : record.Staged) (hStage : record.stage = .spawning ∨ record.stage = .reading) :
    record.model.status = .running := by
  unfold Staged at h
  rcases hStage with hStage | hStage <;> rwa [hStage] at h

theorem not_live (job : MobileJob) {status : JobStatus} (h : job.status = status) (hQueued : status ≠ .queued)
    (hRunning : status ≠ .running) : ¬ job.Live := by
  rintro (hLive | hLive)
  · exact hQueued (h.symm.trans hLive)
  · exact hRunning (h.symm.trans hLive)

theorem staged_finish (record : MobileRecord) (now : String) (hQueued : record.model.status ≠ .queued)
    (hRunning : record.model.status ≠ .running) : (record.finish now).Staged :=
  not_live (record.finish now).model rfl hQueued hRunning

theorem truthful_cancelled {job : MobileJob} (hStatus : job.status = .cancelled) (hFinished : job.finishedAt.isSome)
    (hError : job.error = none) : job.Truthful where
  live hLive := absurd hLive (not_live _ hStatus (by simp) (by simp))
  ended _ := hFinished
  succeeded hOther := by simp [hStatus] at hOther
  cancelled _ := hError
  failed hOther := by simp [hStatus] at hOther

theorem truthful_failed {job : MobileJob} {text : String} (hStatus : job.status = .failed)
    (hFinished : job.finishedAt.isSome) (hError : job.error = some text)
    (hCode : ∀ code, job.exitCode = some code → code ≠ 0 ∧ text = "command exited with code " ++ toString code) :
    job.Truthful where
  live hLive := absurd hLive (not_live _ hStatus (by simp) (by simp))
  ended _ := hFinished
  succeeded hOther := by simp [hStatus] at hOther
  cancelled hOther := by simp [hStatus] at hOther
  failed _ := ⟨text, hError, hCode⟩

theorem conclude_id (record : MobileRecord) (code : Int) : (record.conclude code).model.id = record.model.id := by
  unfold conclude
  split_ifs <;> rfl

theorem truthful_begin (h : record.model.Truthful) (hStaged : record.Staged) (hStage : record.stage = .queued)
    (now : String) :
    MobileJob.Truthful { record.model with status := .running, startedAt := some now } ∧ record.model.Live := by
  unfold Staged at hStaged
  rw [hStage] at hStaged
  have hLive : record.model.Live := .inl hStaged
  refine ⟨⟨fun _ => h.live hLive, fun hOver => absurd (.inr rfl) hOver, ?_, ?_, ?_⟩, hLive⟩
  · exact fun hStatus => by cases hStatus
  · exact fun hStatus => by cases hStatus
  · exact fun hStatus => by cases hStatus

theorem truthful_conclude (h : record.model.Truthful) (hLive : record.model.Live) (code : Int) (now : String) :
    ((record.conclude code).finish now).model.Truthful ∧ ((record.conclude code).finish now).Staged := by
  obtain ⟨_, hError, _⟩ := h.live hLive
  by_cases hCancel : record.cancelRequested
  · have hStatus : (record.conclude code).model.status = .cancelled := by simp [conclude, hCancel]
    have hNone : (record.conclude code).model.error = none := by simp [conclude, hCancel, hError]
    exact ⟨truthful_cancelled hStatus rfl hNone, staged_finish _ now (by simp [hStatus]) (by simp [hStatus])⟩
  · by_cases hCode : code = 0
    · have hStatus : (record.conclude code).model.status = .succeeded := by simp [conclude, hCancel, hCode]
      refine ⟨⟨fun hLive => ?_, fun _ => rfl, fun _ => ?_, fun hOther => ?_, fun hOther => ?_⟩,
        staged_finish _ now (by simp [hStatus]) (by simp [hStatus])⟩
      · exact absurd hLive (not_live ((record.conclude code).finish now).model hStatus (by simp) (by simp))
      · simp [finish, conclude, hCancel, hCode, hError]
      · simp [finish, hStatus] at hOther
      · simp [finish, hStatus] at hOther
    · have hStatus : (record.conclude code).model.status = .failed := by simp [conclude, hCancel, hCode]
      have hText : (record.conclude code).model.error = some ("command exited with code " ++ toString code) := by
        simp [conclude, hCancel, hCode]
      have hExit : (record.conclude code).model.exitCode = some code := by simp [conclude, hCancel, hCode]
      refine ⟨truthful_failed hStatus rfl hText fun other hOther => ?_,
        staged_finish _ now (by simp [hStatus]) (by simp [hStatus])⟩
      have hSame : code = other := Option.some.inj (hExit.symm.trans hOther)
      exact ⟨hSame ▸ hCode, by rw [hSame]⟩

theorem truthful_fail (h : record.model.Truthful) (hLive : record.model.Live) (text now : String) :
    ((record.fail text).finish now).model.Truthful ∧ ((record.fail text).finish now).Staged := by
  obtain ⟨hExit, _, _⟩ := h.live hLive
  refine ⟨truthful_failed rfl rfl rfl fun code hCode => ?_, staged_finish _ now (by simp [fail]) (by simp [fail])⟩
  exact absurd (hExit.symm.trans hCode) (by simp)

theorem truthful_abandon (h : record.model.Truthful) (hLive : record.model.Live) (now : String) :
    (record.abandon.finish now).model.Truthful ∧ (record.abandon.finish now).Staged :=
  ⟨truthful_cancelled rfl rfl (h.live hLive).2.1, staged_finish _ now (by simp [abandon]) (by simp [abandon])⟩

end MobileRecord

namespace MobileService

variable {s : MobileService}

theorem Sound.onRecord (h : s.Sound) (id : String) {next : MobileRecord → Option MobileService}
    (hNext : ∀ record t, Dict.get s.jobs id = some record → next record = some t → Sound t) :
    Sound (s.onRecord id next) := by
  unfold MobileService.onRecord
  cases hGet : Dict.get s.jobs id with
  | none => exact h
  | some record =>
    cases hResult : next record with
    | none => simpa [hResult] using h
    | some t => simpa [hResult] using hNext record t hGet hResult

theorem Sound.ended (h : s.Sound) {id : String} {record : MobileRecord} (hGet : Dict.get s.jobs id = some record)
    (later : MobileRecord) (mtime : Int) (hId : later.model.id = record.model.id)
    (hLater : later.model.Truthful ∧ later.Staged) (hStage : later.stage = .finished) : Sound (s.put later mtime) := by
  refine h.rewrite hGet later mtime hId hLater.2 hLater.1 fun hLive => absurd hLive ?_
  have hOver := hLater.2
  unfold MobileRecord.Staged at hOver
  rwa [hStage] at hOver

/-! ## A restart -/

theorem recover_id (now : String) (job : MobileJob) : (job.recover now).id = job.id := by
  unfold MobileJob.recover
  split <;> rfl

theorem recover_of_not_live {job : MobileJob} (h : ¬ job.Live) (now : String) : job.recover now = job := if_neg h

theorem not_live_recover (now : String) (job : MobileJob) : ¬ (job.recover now).Live := by
  unfold MobileJob.recover
  split
  case isTrue => exact MobileRecord.not_live _ rfl (by simp) (by simp)
  case isFalse hLive => exact hLive

theorem truthful_recover {job : MobileJob} (h : job.Truthful) (now : String) : (job.recover now).Truthful := by
  by_cases hLive : job.Live
  · rw [MobileJob.recover, if_pos hLive]
    refine MobileRecord.truthful_failed rfl rfl rfl fun code hCode => ?_
    exact absurd ((h.live hLive).1.symm.trans hCode) (by simp)
  · rwa [recover_of_not_live hLive]

structure Named (files : List (String × RecordFile)) : Prop where
  unique : (files.map Prod.fst).Nodup
  ids : ∀ name file job, Dict.get files name = some file → file.content = some job → job.id = name ∧ job.Truthful

theorem notMem_of_unique {files : List (String × RecordFile)} {item : String × RecordFile}
    (hUnique : ((files ++ [item]).map Prod.fst).Nodup) : item.1 ∉ files.map Prod.fst := by
  rw [List.map_append, List.map_singleton] at hUnique
  exact fun hMem => (List.nodup_append.mp hUnique).2.2 _ hMem _ (List.mem_singleton_self _) rfl

theorem get_append_singleton {files : List (String × RecordFile)} {item : String × RecordFile}
    (hUnique : ((files ++ [item]).map Prod.fst).Nodup) (name : String) :
    Dict.get (files ++ [item]) name = if name = item.1 then some item.2 else Dict.get files name := by
  rw [← Dict.set_of_notMem (notMem_of_unique hUnique), Dict.get_set]

theorem get_init_eq_none {files : List (String × RecordFile)} {item : String × RecordFile}
    (hUnique : ((files ++ [item]).map Prod.fst).Nodup) : Dict.get files item.1 = none :=
  Dict.get_eq_none_iff.mpr fun _ hOther hSame =>
    notMem_of_unique hUnique (List.mem_map.mpr ⟨_, hOther, hSame⟩)

theorem Named.init {files : List (String × RecordFile)} {item : String × RecordFile} (h : Named (files ++ [item])) :
    Named files where
  unique := (List.nodup_append.mp (List.map_append ▸ h.unique)).1
  ids name file job hGet := by
    refine h.ids name file job ?_
    rw [get_append_singleton h.unique, if_neg ?_]
    · exact hGet
    · rintro rfl
      exact absurd hGet (by rw [get_init_eq_none h.unique]; simp)

theorem Named.last {files : List (String × RecordFile)} {item : String × RecordFile} (h : Named (files ++ [item]))
    {job : MobileJob} (hContent : item.2.content = some job) : job.id = item.1 ∧ job.Truthful := by
  refine h.ids item.1 item.2 job ?_ hContent
  rw [get_append_singleton h.unique, if_pos rfl]

structure Loaded (clock : String → String) (files chosen : List (String × RecordFile)) (t : MobileService) : Prop where
  keys : (t.jobs.map Prod.fst).Nodup
  jobs : ∀ id, Dict.get t.jobs id = ((Dict.get chosen id).bind RecordFile.content).map fun job =>
    { model := job.recover (clock id), stage := .finished }
  order : t.order = chosen.filterMap fun item => item.2.content.map MobileJob.id
  files : t.files = files

theorem loaded_of_named (clock : String → String) (files : List (String × RecordFile)) {chosen : List (String × RecordFile)}
    (h : Named chosen) : Loaded clock files chosen (chosen.foldl (loadFile clock) { files }) := by
  induction chosen using List.reverseRecOn with
  | nil => exact ⟨List.nodup_nil, fun _ => rfl, rfl, rfl⟩
  | append_singleton chosen item ih =>
    obtain ⟨hKeys, hJobs, hOrder, hFiles⟩ := ih h.init
    rw [List.foldl_concat]
    cases hContent : item.2.content with
    | none =>
      rw [loadFile, hContent]
      refine ⟨hKeys, fun id => ?_, ?_, hFiles⟩
      · rw [hJobs, get_append_singleton h.unique]
        split
        case isTrue hSame => rw [hSame, get_init_eq_none h.unique, Option.bind_none, Option.bind_some, hContent]
        case isFalse => rfl
      · simp [hOrder, hContent]
    | some job =>
      obtain ⟨hId, _⟩ := h.last hContent
      rw [loadFile, hContent]
      refine ⟨Dict.nodup_set hKeys _ _, fun id => ?_, ?_, hFiles⟩
      · rw [Dict.get_set, get_append_singleton h.unique, hId]
        split
        case isTrue hSame => simp [hContent, hSame]
        case isFalse => exact hJobs id
      · simp [hOrder, hContent]

theorem Sound.named (h : s.Sound) : Named s.files := ⟨h.fileKeys, h.fileIds⟩

theorem Named.left (h : Named s.files) (torn : Option (String × Int)) : Named (s.leftFiles torn) := by
  cases torn with
  | none => exact h
  | some torn =>
    refine ⟨Dict.nodup_set h.unique _ _, fun name file job hGet hContent => ?_⟩
    simp only [leftFiles, Dict.get_set] at hGet
    split at hGet
    case isTrue =>
      rw [← Option.some.inj hGet] at hContent
      cases hContent
    case isFalse => exact h.ids name file job hGet hContent

theorem newest_sublist (listing : List (String × RecordFile)) :
    ∃ sorted : List (String × RecordFile), sorted.Perm listing ∧ (newest listing).Sublist sorted :=
  ⟨_, List.mergeSort_perm _ _, List.take_sublist _ _⟩

theorem Named.readBack {files listing : List (String × RecordFile)} (h : Named files) (hPerm : listing.Perm files) :
    Named (newest listing) ∧ ∀ name file, Dict.get (newest listing) name = some file → Dict.get files name = some file := by
  obtain ⟨sorted, hSorted, hSublist⟩ := newest_sublist listing
  have hAll : sorted.Perm files := hSorted.trans hPerm
  have hUnique : ((newest listing).map Prod.fst).Nodup :=
    (hSublist.map Prod.fst).nodup ((hAll.map Prod.fst).nodup_iff.mpr h.unique)
  have hGet : ∀ name file, Dict.get (newest listing) name = some file → Dict.get files name = some file :=
    fun name file hFound => (Dict.get_eq_some_iff h.unique).mpr (hAll.mem_iff.mp (hSublist.mem (Dict.get_mem hFound)))
  exact ⟨⟨hUnique, fun name file job hFound => h.ids name file job (hGet name file hFound)⟩, hGet⟩

theorem loaded_restart {files listing : List (String × RecordFile)} (h : Named files) (hPerm : listing.Perm files)
    (clock : String → String) : Loaded clock files (newest listing) (loadHistory clock files listing) :=
  loaded_of_named clock files (h.readBack hPerm).1

theorem Sound.restart {files listing : List (String × RecordFile)} (h : Named files) (hPerm : listing.Perm files)
    (clock : String → String) : Sound (loadHistory clock files listing) := by
  obtain ⟨hNamed, hSource⟩ := h.readBack hPerm
  obtain ⟨hKeys, hJobs, hOrder, hFiles⟩ := loaded_restart h hPerm clock
  generalize loadHistory clock files listing = t at hKeys hJobs hOrder hFiles ⊢
  -- where a loaded record comes from
  have hFrom : ∀ id record, Dict.get t.jobs id = some record →
      ∃ file job, Dict.get (newest listing) id = some file ∧ file.content = some job ∧ job.id = id ∧ job.Truthful ∧
        record = { model := job.recover (clock id), stage := .finished } := by
    intro id record hGet
    rw [hJobs, Option.map_eq_some_iff] at hGet
    obtain ⟨job, hJob, rfl⟩ := hGet
    obtain ⟨file, hFile, hContent⟩ := Option.bind_eq_some_iff.mp hJob
    obtain ⟨hId, hTruthful⟩ := hNamed.ids id file job hFile hContent
    exact ⟨file, job, hFile, hContent, hId, hTruthful, rfl⟩
  refine ⟨hKeys, hFiles.symm ▸ h.unique, ?_, hFiles.symm ▸ h.ids, ?_, ?_, ?_, ?_, ?_⟩
  · intro id record hGet
    obtain ⟨file, job, _, _, hId, _, rfl⟩ := hFrom id record hGet
    exact (recover_id _ job).trans hId
  · intro id record hGet
    obtain ⟨file, job, hFile, hContent, _, _, rfl⟩ := hFrom id record hGet
    refine ⟨file, hFiles.symm ▸ hSource id file hFile, job, hContent, ?_⟩
    by_cases hLive : job.Live
    · exact .inr ⟨hLive, _, rfl⟩
    · exact .inl (recover_of_not_live hLive _)
  · intro id record hGet
    obtain ⟨file, job, _, _, _, hTruthful, rfl⟩ := hFrom id record hGet
    exact ⟨not_live_recover _ _, truthful_recover hTruthful _⟩
  · intro id record hGet hLive
    obtain ⟨file, job, _, _, _, _, rfl⟩ := hFrom id record hGet
    exact absurd hLive (not_live_recover _ _)
  · intro id hMem
    rw [hOrder] at hMem
    obtain ⟨item, hItem, hId⟩ := List.mem_filterMap.mp hMem
    obtain ⟨job, hContent, rfl⟩ := Option.map_eq_some_iff.mp hId
    have hFile : Dict.get (newest listing) item.1 = some item.2 := (Dict.get_eq_some_iff hNamed.unique).mpr hItem
    obtain ⟨hName, _⟩ := hNamed.ids _ _ _ hFile hContent
    refine ⟨{ model := job.recover (clock job.id), stage := .finished }, ?_⟩
    rw [hJobs, hName, hFile, Option.bind_some, hContent]
    rfl
  · rw [hOrder]
    exact (List.length_filterMap_le _ _).trans (List.length_take_le _ _)

theorem Sound.step (h : s.Sound) (event : MobileEvent) : Sound (s.step event) := by
  cases event with
  | createJob id request preview logPath mtime =>
    rw [MobileService.step]
    cases hCreate : s.createJob id request preview logPath mtime with
    | none => exact h
    | some t => exact h.createJob hCreate
  | cancelJob id mtime =>
    refine h.onRecord id fun record t hGet hNext => ?_
    cases hNext
    obtain ⟨hStaged, hTruthful⟩ := h.staged id record hGet
    exact h.rewrite hGet record.cancel mtime rfl hStaged hTruthful fun hLive => hLive
  | begun id now mtime =>
    refine h.onRecord id fun record t hGet hNext => ?_
    split at hNext
    case isFalse => cases hNext
    case isTrue hStage =>
      cases hNext
      obtain ⟨hStaged, hTruthful⟩ := h.staged id record hGet
      obtain ⟨hLater, hLive⟩ := MobileRecord.truthful_begin hTruthful hStaged hStage now
      exact h.rewrite hGet _ mtime rfl rfl hLater fun _ => hLive
  | spawned id =>
    refine h.onRecord id fun record t hGet hNext => ?_
    split at hNext
    case isFalse => cases hNext
    case isTrue hStage =>
      cases hNext
      have hRunning := MobileRecord.running_of_stage (h.staged id record hGet).1 (.inl hStage)
      exact h.touch hGet _ rfl hRunning
  | exited id code =>
    refine h.onRecord id fun record t hGet hNext => ?_
    split at hNext
    case isFalse => cases hNext
    case isTrue hStage =>
      cases hNext
      exact h.touch hGet _ rfl (h.staged id record hGet).1
  | resumed id now mtime =>
    refine h.onRecord id fun record t hGet hNext => ?_
    split at hNext
    case isFalse => cases hNext
    case isTrue hStage =>
      obtain ⟨code, _, rfl⟩ := Option.map_eq_some_iff.mp hNext
      obtain ⟨hStaged, hTruthful⟩ := h.staged id record hGet
      have hLive : record.model.Live := .inr (MobileRecord.running_of_stage hStaged (.inr hStage))
      exact h.ended hGet _ mtime (MobileRecord.conclude_id record code)
        (MobileRecord.truthful_conclude hTruthful hLive code now) rfl
  | raised id text now mtime =>
    refine h.onRecord id fun record t hGet hNext => ?_
    split at hNext
    case isFalse => cases hNext
    case isTrue hStage =>
      cases hNext
      obtain ⟨hStaged, hTruthful⟩ := h.staged id record hGet
      have hLive : record.model.Live := .inr (MobileRecord.running_of_stage hStaged hStage)
      exact h.ended hGet _ mtime rfl (MobileRecord.truthful_fail hTruthful hLive text now) rfl
  | taskCancelled id now mtime =>
    refine h.onRecord id fun record t hGet hNext => ?_
    split at hNext
    case isFalse => cases hNext
    case isTrue hStage =>
      cases hNext
      obtain ⟨hStaged, hTruthful⟩ := h.staged id record hGet
      have hLive : record.model.Live := .inr (MobileRecord.running_of_stage hStaged hStage)
      exact h.ended hGet _ mtime rfl (MobileRecord.truthful_abandon hTruthful hLive now) rfl
  | restart torn listing clock =>
    rw [MobileService.step]
    split
    case isTrue hPerm => exact .restart (h.named.left torn) hPerm clock
    case isFalse => exact h

theorem sound_afterEvents (events : List MobileEvent) : Sound (afterEvents events) :=
  run_invariant (fun _ event h => h.step event) .initial events

/-! ## What becomes of one job -/

/-- Nothing takes the job's name or its file: no later job has its id, and every restart finds the file
whole and among the newest. -/
def Survives (id : String) (s : MobileService) : MobileEvent → Prop
  | .createJob other _ _ _ _ => other ≠ id
  | .restart torn listing _ =>
    listing.Perm (s.leftFiles torn) → (∀ written ∈ torn, written.1 ≠ id) ∧ id ∈ (newest listing).map Prod.fst
  | _ => True

inductive Moves (record : MobileRecord) : MobileRecord → Prop where
  | kept {later : MobileRecord} (hModel : later.model = record.model)
      (hCancel : record.cancelRequested → later.cancelRequested) : Moves record later
  | begun (hStage : record.stage = .queued) (now : String) :
      Moves record { record with model.status := .running, model.startedAt := some now, stage := .spawning }
  | concluded (hLive : record.model.Live) (code : Int) (now : String) : Moves record ((record.conclude code).finish now)
  | failed (hLive : record.model.Live) (text now : String) : Moves record ((record.fail text).finish now)
  | abandoned (hLive : record.model.Live) (now : String) : Moves record (record.abandon.finish now)
  | reloaded {stored : MobileJob} (hStored : stored.Truthful)
      (hHeld : record.model = stored ∨ (stored.Live ∧ ∃ earlier, record.model = stored.recover earlier)) (now : String) :
      Moves record { model := stored.recover now, stage := .finished }

theorem Moves.refl (record : MobileRecord) : Moves record record := .kept rfl fun h => h

theorem Sound.live_of_stage (h : s.Sound) {id : String} {record : MobileRecord} (hGet : Dict.get s.jobs id = some record)
    (hStage : record.stage = .spawning ∨ record.stage = .reading) : record.model.Live :=
  .inr (MobileRecord.running_of_stage (h.staged id record hGet).1 hStage)

theorem moves_onRecord {id other : String} {record : MobileRecord} (hGet : Dict.get s.jobs id = some record)
    {next : MobileRecord → Option MobileService}
    (hNext : ∀ found t, Dict.get s.jobs other = some found → next found = some t →
      ∃ later, (∀ name, Dict.get t.jobs name = if name = other then some later else Dict.get s.jobs name) ∧
        Moves found later) :
    ∃ later, Dict.get (s.onRecord other next).jobs id = some later ∧ Moves record later := by
  unfold MobileService.onRecord
  cases hFound : Dict.get s.jobs other with
  | none => exact ⟨record, hGet, .refl record⟩
  | some found =>
    cases hResult : next found with
    | none => exact ⟨record, by simpa [hResult] using hGet, .refl record⟩
    | some t =>
      obtain ⟨later, hLater, hMoves⟩ := hNext found t hFound hResult
      by_cases hSame : id = other
      · subst hSame
        rw [hGet] at hFound
        cases hFound
        exact ⟨later, by simp [hResult, hLater], hMoves⟩
      · exact ⟨record, by simp [hResult, hLater, hSame, hGet], .refl record⟩

theorem get_put (record : MobileRecord) (mtime : Int) {id : String} (hId : record.model.id = id) (name : String) :
    Dict.get (s.put record mtime).jobs name = if name = id then some record else Dict.get s.jobs name := by
  rw [← hId]
  exact Dict.get_set _ _ _ _

theorem get_leftFiles {id : String} {torn : Option (String × Int)} (hTorn : ∀ written ∈ torn, written.1 ≠ id) :
    Dict.get (s.leftFiles torn) id = Dict.get s.files id := by
  cases torn with
  | none => rfl
  | some written => exact (Dict.get_set _ _ _ _).trans (if_neg (Ne.symm (hTorn written rfl)))

theorem Sound.reloaded (h : s.Sound) {id : String} {record : MobileRecord} (hGet : Dict.get s.jobs id = some record)
    {torn : Option (String × Int)} {listing : List (String × RecordFile)} (hPerm : listing.Perm (s.leftFiles torn))
    (hTorn : ∀ written ∈ torn, written.1 ≠ id) (hNewest : id ∈ (newest listing).map Prod.fst)
    (clock : String → String) :
    ∃ stored : MobileJob, stored.Truthful ∧
      (record.model = stored ∨ (stored.Live ∧ ∃ earlier, record.model = stored.recover earlier)) ∧
      Dict.get (loadHistory clock (s.leftFiles torn) listing).jobs id =
        some { model := stored.recover (clock id), stage := .finished } := by
  have hNamed := h.named.left torn
  obtain ⟨hRead, hSource⟩ := hNamed.readBack hPerm
  obtain ⟨file, hFile, stored, hContent, hHeld⟩ := h.held id record hGet
  obtain ⟨_, hTruthful⟩ := h.fileIds id file stored hFile hContent
  obtain ⟨item, hItem, rfl⟩ := List.mem_map.mp hNewest
  have hFound : Dict.get (newest listing) item.1 = some item.2 := (Dict.get_eq_some_iff hRead.unique).mpr hItem
  have hSame : file = item.2 := by
    have hLeft := hSource _ _ hFound
    rw [get_leftFiles hTorn, hFile] at hLeft
    exact Option.some.inj hLeft
  refine ⟨stored, hTruthful, hHeld, ?_⟩
  rw [(loaded_restart hNamed hPerm clock).jobs, hFound, Option.bind_some, ← hSame, hContent]
  rfl

theorem Sound.moves (h : s.Sound) {id : String} {record : MobileRecord} (hGet : Dict.get s.jobs id = some record)
    {event : MobileEvent} (hSurvives : Survives id s event) :
    ∃ later, Dict.get (s.step event).jobs id = some later ∧ Moves record later := by
  cases event with
  | createJob other request preview logPath mtime =>
    rw [MobileService.step]
    cases hCreate : s.createJob other request preview logPath mtime with
    | none => exact ⟨record, hGet, .refl record⟩
    | some t =>
      unfold MobileService.createJob at hCreate
      split at hCreate
      · cases hCreate
      · cases hCreate
        refine ⟨record, ?_, .refl record⟩
        simp only [Option.getD_some, MobileService.put, Dict.get_set]
        rw [if_neg (Ne.symm hSurvives), hGet]
  | cancelJob other mtime =>
    refine moves_onRecord hGet fun found t hFound hNext => ?_
    cases hNext
    exact ⟨found.cancel, get_put _ _ (h.ids other found hFound), .kept rfl fun _ => rfl⟩
  | begun other now mtime =>
    refine moves_onRecord hGet fun found t hFound hNext => ?_
    split at hNext
    case isFalse => cases hNext
    case isTrue hStage =>
      cases hNext
      exact ⟨_, get_put _ _ (h.ids other found hFound), .begun hStage now⟩
  | spawned other =>
    refine moves_onRecord hGet fun found t hFound hNext => ?_
    split at hNext
    case isFalse => cases hNext
    case isTrue hStage =>
      cases hNext
      exact ⟨_, fun name => Dict.get_set _ _ _ _, .kept rfl fun hCancel => hCancel⟩
  | exited other code =>
    refine moves_onRecord hGet fun found t hFound hNext => ?_
    split at hNext
    case isFalse => cases hNext
    case isTrue hStage =>
      cases hNext
      exact ⟨_, fun name => Dict.get_set _ _ _ _, .kept rfl fun hCancel => hCancel⟩
  | resumed other now mtime =>
    refine moves_onRecord hGet fun found t hFound hNext => ?_
    split at hNext
    case isFalse => cases hNext
    case isTrue hStage =>
      obtain ⟨code, _, rfl⟩ := Option.map_eq_some_iff.mp hNext
      have hId := (MobileRecord.conclude_id found code).trans (h.ids other found hFound)
      exact ⟨_, get_put _ _ hId, .concluded (h.live_of_stage hFound (.inr hStage)) code now⟩
  | raised other text now mtime =>
    refine moves_onRecord hGet fun found t hFound hNext => ?_
    split at hNext
    case isFalse => cases hNext
    case isTrue hStage =>
      cases hNext
      exact ⟨_, get_put _ _ (h.ids other found hFound), .failed (h.live_of_stage hFound hStage) text now⟩
  | taskCancelled other now mtime =>
    refine moves_onRecord hGet fun found t hFound hNext => ?_
    split at hNext
    case isFalse => cases hNext
    case isTrue hStage =>
      cases hNext
      exact ⟨_, get_put _ _ (h.ids other found hFound), .abandoned (h.live_of_stage hFound hStage) now⟩
  | restart torn listing clock =>
    rw [MobileService.step]
    split
    case isFalse => exact ⟨record, hGet, .refl record⟩
    case isTrue hPerm =>
      obtain ⟨hTorn, hNewest⟩ := hSurvives hPerm
      obtain ⟨stored, hTruthful, hHeld, hLater⟩ := h.reloaded hGet hPerm hTorn hNewest clock
      exact ⟨_, hLater, .reloaded hTruthful hHeld _⟩

end MobileService

/-- All of a finished job but the instant of its end, which a restart may set again. -/
def MobileJob.settled (job : MobileJob) : MobileJob := { job with finishedAt := none }

/-- The job was cancelled while it was under way: it still is, or it ended as cancelled, or by an exception
or a restart, but not with what its command came to. -/
def MobileRecord.Doomed (record : MobileRecord) : Prop :=
  (record.model.Live ∧ record.cancelRequested) ∨ record.model.status = .cancelled ∨
    (record.model.status = .failed ∧ record.model.exitCode = none)

namespace MobileService

variable {s : MobileService}

theorem settled_recover {job : MobileJob} (h : job.Live) (first second : String) :
    (job.recover first).settled = (job.recover second).settled := by
  rw [MobileJob.recover, MobileJob.recover, if_pos h, if_pos h]
  rfl

theorem Moves.settled {record later : MobileRecord} (h : Moves record later) (hStaged : record.Staged)
    (hOver : ¬ record.model.Live) : ¬ later.model.Live ∧ later.model.settled = record.model.settled := by
  cases h with
  | kept hModel hCancel =>
    rw [hModel]
    exact ⟨hOver, rfl⟩
  | begun hStage now =>
    unfold MobileRecord.Staged at hStaged
    rw [hStage] at hStaged
    exact absurd (.inl hStaged) hOver
  | concluded hLive | failed hLive | abandoned hLive => exact absurd hLive hOver
  | @reloaded stored hStored hHeld now =>
    refine ⟨not_live_recover _ _, ?_⟩
    rcases hHeld with hSame | ⟨hLive, earlier, hSame⟩
    · rw [hSame, recover_of_not_live (hSame ▸ hOver)]
    · rw [hSame]
      exact settled_recover hLive _ _

theorem Doomed.cancelRequested {record : MobileRecord} (h : record.Doomed) (hLive : record.model.Live) :
    record.cancelRequested := by
  rcases h with ⟨_, hCancel⟩ | hStatus | ⟨hStatus, _⟩
  · exact hCancel
  · exact absurd hLive (MobileRecord.not_live _ hStatus (by simp) (by simp))
  · exact absurd hLive (MobileRecord.not_live _ hStatus (by simp) (by simp))

theorem Moves.doomed {record later : MobileRecord} (h : Moves record later) (hStaged : record.Staged)
    (hTruthful : record.model.Truthful) (hDoomed : record.Doomed) : later.Doomed := by
  cases h with
  | kept hModel hCancel =>
    unfold MobileRecord.Doomed at hDoomed ⊢
    rw [hModel]
    exact hDoomed.imp_left fun h => ⟨h.1, hCancel h.2⟩
  | begun hStage now =>
    unfold MobileRecord.Staged at hStaged
    rw [hStage] at hStaged
    have hCancel := Doomed.cancelRequested hDoomed (.inl hStaged)
    exact .inl ⟨.inr rfl, hCancel⟩
  | concluded hLive code now =>
    refine .inr (.inl ?_)
    simp [MobileRecord.finish, MobileRecord.conclude, Doomed.cancelRequested hDoomed hLive]
  | failed hLive => exact .inr (.inr ⟨rfl, (hTruthful.live hLive).1⟩)
  | abandoned hLive => exact .inr (.inl rfl)
  | @reloaded stored hStored hHeld now =>
    by_cases hLive : stored.Live
    · refine .inr (.inr ?_)
      simp [MobileJob.recover, hLive, (hStored.live hLive).1]
    · have hSame : record.model = stored := hHeld.resolve_right fun h => hLive h.1
      rw [← hSame] at hLive ⊢
      rw [recover_of_not_live hLive]
      exact .inr (hDoomed.resolve_left fun h => hLive h.1)

def Of (s : MobileService) (id : String) (P : MobileRecord → Prop) : Prop :=
  ∃ record, Dict.get s.jobs id = some record ∧ P record

theorem of_run {id : String} {P : MobileRecord → Prop}
    (hMoves : ∀ record later, record.Staged → record.model.Truthful → P record → Moves record later → P later)
    (h : s.Sound) (hOf : s.Of id P) {events : List MobileEvent} (hMeets : Meets step (Survives id) s events) :
    (run step s events).Of id P := by
  refine (Meets.run_invariant (P := fun s => s.Sound ∧ s.Of id P) ?_ ⟨h, hOf⟩ hMeets).2
  rintro s event hSurvives ⟨h, record, hGet, hHolds⟩
  obtain ⟨hStaged, hTruthful⟩ := h.staged id record hGet
  obtain ⟨later, hLater, hMoved⟩ := h.moves hGet hSurvives
  exact ⟨h.step event, later, hLater, hMoves record later hStaged hTruthful hHolds hMoved⟩

structure Orderly (s : MobileService) : Prop where
  /-- One job at most is under way, and it is the first of the list. -/
  single : ∀ id record, Dict.get s.jobs id = some record → record.model.Live → s.order.head? = some id
  bounded : s.listJobs.length ≤ historyLimit
  truthful : ∀ id record, Dict.get s.jobs id = some record → record.model.id = id ∧ record.model.Truthful
  /-- A new job is refused exactly while one is under way. -/
  refused : ∀ id request preview logPath mtime,
    s.createJob id request preview logPath mtime = none ↔ ∃ id record, Dict.get s.jobs id = some record ∧ record.model.Live
  /-- Whenever the process dies, no job is under way afterwards, and every job whose file is whole and among
  the newest is there, as it ended or as failed by the restart. -/
  restarted : ∀ torn listing clock, listing.Perm (s.leftFiles torn) →
    (∀ item ∈ (loadHistory clock (s.leftFiles torn) listing).jobs, ¬ item.2.model.Live) ∧
    ∀ id record, Dict.get s.jobs id = some record → (∀ written ∈ torn, written.1 ≠ id) →
      id ∈ (newest listing).map Prod.fst →
      ∃ later, Dict.get (loadHistory clock (s.leftFiles torn) listing).jobs id = some later ∧
        later.model.settled = (record.model.recover (clock id)).settled

theorem length_listJobs (s : MobileService) : s.listJobs.length ≤ s.order.length := List.length_filterMap_le _ _

theorem Sound.busy_iff (h : s.Sound) : s.Busy ↔ ∃ id record, Dict.get s.jobs id = some record ∧ record.model.Live :=
  ⟨fun ⟨item, hItem, hLive⟩ => ⟨item.1, item.2, (Dict.get_eq_some_iff h.jobKeys).mpr hItem, hLive⟩,
    fun ⟨_, _, hGet, hLive⟩ => ⟨_, Dict.get_mem hGet, hLive⟩⟩

theorem createJob_eq_none_iff (id : String) (request : MobileJobRequest) (preview logPath : String) (mtime : Int) :
    s.createJob id request preview logPath mtime = none ↔ s.Busy := by
  unfold createJob
  split
  case isTrue hBusy => exact iff_of_true rfl hBusy
  case isFalse hBusy => exact iff_of_false (by simp) hBusy

theorem not_live_loadHistory {files listing : List (String × RecordFile)} (h : Named files) (hPerm : listing.Perm files)
    (clock : String → String) : ∀ item ∈ (loadHistory clock files listing).jobs, ¬ item.2.model.Live := by
  intro item hItem
  have hLoaded := loaded_restart h hPerm clock
  have hGet := (Dict.get_eq_some_iff hLoaded.keys).mpr hItem
  rw [hLoaded.jobs, Option.map_eq_some_iff] at hGet
  obtain ⟨job, _, hSame⟩ := hGet
  rw [← hSame]
  exact not_live_recover _ _

theorem settled_of_held {job stored : MobileJob}
    (hHeld : job = stored ∨ (stored.Live ∧ ∃ earlier, job = stored.recover earlier)) (now : String) :
    (stored.recover now).settled = (job.recover now).settled := by
  rcases hHeld with rfl | ⟨hLive, earlier, rfl⟩
  · rfl
  · rw [recover_of_not_live (not_live_recover _ _)]
    exact settled_recover hLive _ _

theorem orderly_afterEvents (events : List MobileEvent) : Orderly (afterEvents events) := by
  have h := sound_afterEvents events
  refine ⟨h.active, (length_listJobs _).trans h.bound, fun id record hGet => ⟨h.ids id record hGet, (h.staged id record hGet).2⟩,
    fun id request preview logPath mtime => (createJob_eq_none_iff _ _ _ _ _).trans h.busy_iff, ?_⟩
  intro torn listing clock hPerm
  refine ⟨not_live_loadHistory (h.named.left torn) hPerm clock, fun id record hGet hTorn hNewest => ?_⟩
  obtain ⟨stored, _, hHeld, hLater⟩ := h.reloaded hGet hPerm hTorn hNewest clock
  exact ⟨_, hLater, settled_of_held hHeld _⟩

/-- What lasts of a job over every further run that takes neither its name nor its file. -/
structure Lasting (s : MobileService) (id : String) : Prop where
  finished : ∀ job later, s.Of id (fun record => ¬ record.model.Live ∧ record.model.settled = job) →
    Meets step (Survives id) s later →
    (run step s later).Of id fun record => ¬ record.model.Live ∧ record.model.settled = job
  /-- A job that is cancelled while it is under way does not end with what its command came to. -/
  cancelled : ∀ mtime later, s.Of id (fun record => record.model.Live) →
    Meets step (Survives id) s (.cancelJob id mtime :: later) →
    (run step s (.cancelJob id mtime :: later)).Of id fun record =>
      record.model.Live ∨ record.model.status = .cancelled ∨ (record.model.status = .failed ∧ record.model.exitCode = none)

theorem lasting_afterEvents (events : List MobileEvent) (id : String) : Lasting (afterEvents events) id where
  finished job later hOf hMeets := by
    refine of_run (fun record next hStaged _ hOver hMoves => ?_) (sound_afterEvents events) hOf hMeets
    obtain ⟨hLive, hSettled⟩ := hMoves.settled hStaged hOver.1
    exact ⟨hLive, hSettled.trans hOver.2⟩
  cancelled mtime later hOf hMeets := by
    have h := sound_afterEvents events
    obtain ⟨record, hGet, hLive⟩ := hOf
    have hCancelled : (step (afterEvents events) (.cancelJob id mtime)).Of id MobileRecord.Doomed := by
      refine ⟨record.cancel, ?_, .inl ⟨hLive, rfl⟩⟩
      simp only [step, onRecord, hGet, Option.bind_some, Option.getD_some]
      exact (get_put record.cancel mtime (h.ids id record hGet) id).trans (if_pos rfl)
    obtain ⟨last, hLast, hDoomed⟩ := of_run (fun record next hStaged hTruthful hDoomed hMoves =>
      hMoves.doomed hStaged hTruthful hDoomed) (h.step _) hCancelled hMeets.2
    exact ⟨last, hLast, hDoomed.imp_left And.left⟩

end MobileService

end EidolonAdmin.Tools
