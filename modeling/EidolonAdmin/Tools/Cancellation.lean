import Mathlib.Data.List.Infix
import EidolonAdmin.Tools.SerialPorts

/-! # Cancelling an ESP32 job

`_run_job` and `_run_step` beside `cancel_job`. The runner gives way in four places only:
before its task first runs, in `create_subprocess_exec`, while it reads the output, and
between the exit of the process and its own return from `wait`; a cancellation falls in one
of them. Output lines change nothing here.
-/

namespace EidolonAdmin.Tools

open Foundation.Transition

structure CommandStep where
  args : List String
  cwd : String
  env : List (String × String) := []
deriving DecidableEq, Repr

structure Process where
  returncode : Option Int := none
  terminated : Bool := false
deriving DecidableEq, Repr

/-- Where the runner stands, with the steps its loop has not come to yet. -/
inductive RunnerStage where
  | queued
  | spawning (rest : List CommandStep)
  | reading (rest : List CommandStep)
  | finished
deriving DecidableEq, Repr

/-- `started` lists the steps `create_subprocess_exec` was called for. -/
structure Esp32Job where
  action : String
  steps : List CommandStep
  status : JobStatus := .queued
  phase : String := "queued"
  progressIndex : Nat := 0
  exitCode : Option Int := none
  error : Option String := none
  process : Option Process := none
  cancelRequested : Bool := false
  stage : RunnerStage := .queued
  started : List CommandStep := []
deriving DecidableEq, Repr

def JobStatus.name : JobStatus → String
  | queued => "queued"
  | running => "running"
  | succeeded => "succeeded"
  | failed => "failed"
  | cancelled => "cancelled"

def phaseName (action : String) (step : CommandStep) (index : Nat) : String :=
  let args := (" ".intercalate step.args).toList
  if "read_flash".toList <:+: args then "backup"
  else if "write_flash".toList <:+: args then "restore"
  else if "erase".toList <:+: args then "erase"
  else if "monitor".toList <:+: args then "monitor"
  else if "flash".toList <:+: args then "flash"
  else if "build".toList <:+: args then "build"
  else action ++ ":" ++ toString index

namespace Esp32Job

def live (job : Esp32Job) : Prop := job.status = .queued ∨ job.status = .running

instance (job : Esp32Job) : Decidable job.live := inferInstanceAs (Decidable (_ ∨ _))

def cancelJob (job : Esp32Job) : Esp32Job :=
  { job with
    cancelRequested := true
    process := job.process.map fun process =>
      if process.returncode = none then { process with terminated := true } else process }

/-- The last lines of the `try`. -/
def conclude (job : Esp32Job) : Esp32Job :=
  let status : JobStatus := if job.cancelRequested then .cancelled else .succeeded
  { job with status, phase := status.name, stage := .finished }

/-- The handler of `asyncio.CancelledError`. -/
def abandon (job : Esp32Job) : Esp32Job :=
  { job with status := .cancelled, error := some "cancelled", phase := "cancelled", stage := .finished }

/-- The handler of every other exception. -/
def fail (job : Esp32Job) (text : String) : Esp32Job :=
  { job with status := .failed, error := some text, phase := "failed", stage := .finished }

/-- The loop over the steps, up to the next call of `create_subprocess_exec`. -/
def proceed (job : Esp32Job) : List CommandStep → Esp32Job
  | [] => job.conclude
  | step :: rest =>
    if job.cancelRequested then job.abandon
    else
      { job with
        progressIndex := job.progressIndex + 1
        phase := phaseName job.action step (job.progressIndex + 1)
        stage := .spawning rest
        started := job.started ++ [step] }

/-- The first run of the task. `trouble` is what `_write_diagnose` raises, if it does. -/
def begin (job : Esp32Job) (trouble : Option String) : Esp32Job :=
  let job := { job with status := .running, phase := "running" }
  if job.action = "diagnose" then
    let job := { job with phase := "diagnose", progressIndex := 1 }
    match trouble with
    | some text => job.fail text
    | none => { job with exitCode := some 0 }.conclude
  else job.proceed job.steps

/-- What follows `process.wait()`. -/
def resume (job : Esp32Job) (rest : List CommandStep) (code : Int) : Esp32Job :=
  let job := { job with exitCode := some code, process := none }
  if code ≠ 0 then job.fail ("command exited with code " ++ toString code) else job.proceed rest

def returncode (job : Esp32Job) : Option Int := job.process.bind Process.returncode

end Esp32Job

/-- What the event loop brings to a job. `begun` carries what the diagnosis raises; the
texts are those of the exceptions of `create_subprocess_exec` and of `readline`. -/
inductive RunnerEvent where
  | cancelJob
  | begun (trouble : Option String)
  | spawned
  | spawnFailed (text : String)
  | exited (code : Int)
  | readFailed (text : String)
  | resumed
deriving DecidableEq, Repr

namespace Esp32Job

/-- An event that finds the runner elsewhere leaves the job as it is. -/
def step (job : Esp32Job) : RunnerEvent → Esp32Job
  | .cancelJob => job.cancelJob
  | .begun trouble => if job.stage = .queued then job.begin trouble else job
  | .spawned =>
    match job.stage with
    | .spawning rest => { job with process := some {}, stage := .reading rest }
    | _ => job
  | .spawnFailed text =>
    match job.stage with
    | .spawning _ => job.fail text
    | _ => job
  | .exited code =>
    { job with
      process := job.process.map fun process =>
        if process.returncode = none then { process with returncode := some code } else process }
  | .readFailed text =>
    match job.stage with
    | .reading _ => job.fail text
    | _ => job
  | .resumed =>
    match job.stage, job.returncode with
    | .reading rest, some code => job.resume rest code
    | _, _ => job

/-- The job has ended otherwise than cancelled, or will once the runner comes back: the
process it reads from has exited with another code than 0. -/
def Lost (job : Esp32Job) : Prop :=
  match job.stage with
  | .queued | .spawning _ => False
  | .reading _ => ∃ code, job.returncode = some code ∧ code ≠ 0
  | .finished => job.status ≠ .cancelled

def ProcessRuns (job : Esp32Job) : Prop := job.process.any fun process => process.returncode = none

instance (job : Esp32Job) : Decidable job.ProcessRuns := inferInstanceAs (Decidable (_ = true))

/-- The event is no failure of what is under way: of the diagnosis, of a spawn, of the
process that is read from, or of the reading. -/
def GoesWell (job : Esp32Job) : RunnerEvent → Prop
  | .begun trouble => job.stage = .queued → job.action = "diagnose" → trouble = none
  | .spawnFailed _ => ∀ rest, job.stage ≠ .spawning rest
  | .exited code => ∀ rest, job.stage = .reading rest → job.ProcessRuns → code = 0
  | .readFailed _ => ∀ rest, job.stage ≠ .reading rest
  | _ => True

variable {job : Esp32Job}

theorem returncode_cancelJob (job : Esp32Job) : job.cancelJob.returncode = job.returncode := by
  cases hProcess : job.process with
  | none => simp [returncode, cancelJob, hProcess]
  | some process =>
    by_cases hCode : process.returncode = none <;> simp [returncode, cancelJob, hProcess, hCode]

theorem returncode_exited (job : Esp32Job) (code : Int) :
    (job.step (.exited code)).returncode =
      if job.ProcessRuns then some code else job.returncode := by
  cases hProcess : job.process with
  | none => simp [returncode, step, ProcessRuns, hProcess]
  | some process =>
    by_cases hCode : process.returncode = none <;>
      simp [returncode, step, ProcessRuns, hProcess, hCode]

theorem returncode_eq_none (h : job.ProcessRuns) : job.returncode = none := by
  cases hProcess : job.process with
  | none => simp [returncode, hProcess]
  | some process =>
    simp only [ProcessRuns, hProcess, Option.any_some, decide_eq_true_eq] at h
    simp [returncode, hProcess, h]

theorem lost_of_queued (h : job.stage = .queued) : ¬ job.Lost := by
  simp [Lost, h]

theorem lost_of_reading {rest : List CommandStep} (h : job.stage = .reading rest) :
    job.Lost ↔ ∃ code, job.returncode = some code ∧ code ≠ 0 := by
  simp only [Lost, h]

theorem lost_conclude (h : job.cancelRequested) : ¬ job.conclude.Lost := by
  simp [Lost, conclude, h]

theorem lost_proceed (h : job.cancelRequested) (rest : List CommandStep) :
    ¬ (job.proceed rest).Lost := by
  cases rest with
  | nil => exact lost_conclude h
  | cons step rest => simp [proceed, h, Lost, abandon]

@[simp] theorem lost_fail (job : Esp32Job) (text : String) : (job.fail text).Lost := by
  simp [Lost, fail]

theorem lost_begin_iff (h : job.cancelRequested) (trouble : Option String) :
    (job.begin trouble).Lost ↔ job.action = "diagnose" ∧ trouble ≠ none := by
  by_cases hAction : job.action = "diagnose"
  · cases trouble with
    | none => simp [begin, hAction, Lost, conclude, h]
    | some text => simp [begin, hAction]
  · rw [begin, if_neg hAction]
    simp [hAction, lost_proceed, h]

theorem lost_resume_iff (h : job.cancelRequested) (rest : List CommandStep) (code : Int) :
    (job.resume rest code).Lost ↔ code ≠ 0 := by
  by_cases hCode : code = 0
  · simp [resume, hCode, lost_proceed, h]
  · simp [resume, hCode]

theorem lost_exited_iff (job : Esp32Job) (code : Int) :
    (job.step (.exited code)).Lost ↔ job.Lost ∨ ¬ job.GoesWell (.exited code) := by
  cases hStage : job.stage with
  | queued => simp [Lost, GoesWell, step, hStage]
  | spawning rest => simp [Lost, GoesWell, step, hStage]
  | finished => simp [Lost, GoesWell, step, hStage]
  | reading rest =>
    have hAfter : (job.step (.exited code)).stage = .reading rest := hStage
    by_cases hRuns : job.ProcessRuns
    · have hCode : (job.step (.exited code)).returncode = some code := by
        rw [returncode_exited, if_pos hRuns]
      simp [Lost, GoesWell, hStage, hAfter, hCode, hRuns, returncode_eq_none hRuns]
    · have hCode : (job.step (.exited code)).returncode = job.returncode := by
        rw [returncode_exited, if_neg hRuns]
      simp [Lost, GoesWell, hStage, hAfter, hCode, hRuns]

theorem lost_step_iff (h : job.cancelRequested) (event : RunnerEvent) :
    (job.step event).Lost ↔ job.Lost ∨ ¬ job.GoesWell event := by
  cases event with
  | cancelJob =>
    have hCode := returncode_cancelJob job
    cases hStage : job.stage <;> simp_all [Lost, GoesWell, step, cancelJob]
  | begun trouble =>
    by_cases hStage : job.stage = .queued
    · simp [step, hStage, lost_begin_iff h, lost_of_queued hStage, GoesWell]
    · simp [step, hStage, GoesWell]
  | spawned =>
    cases hStage : job.stage <;> simp [Lost, GoesWell, step, hStage, returncode]
  | spawnFailed text =>
    cases hStage : job.stage <;> simp [GoesWell, step, hStage]
  | exited code => exact lost_exited_iff job code
  | readFailed text =>
    cases hStage : job.stage <;> simp [GoesWell, step, hStage]
  | resumed =>
    cases hStage : job.stage with
    | reading rest =>
      cases hCode : job.returncode with
      | none => simp [step, hStage, hCode, GoesWell]
      | some code => simp [step, hStage, hCode, lost_resume_iff h, lost_of_reading hStage, GoesWell]
    | _ => simp [step, hStage, GoesWell]

theorem cancelRequested_proceed (job : Esp32Job) (rest : List CommandStep) :
    (job.proceed rest).cancelRequested = job.cancelRequested := by
  cases rest with
  | nil => rfl
  | cons step rest => by_cases h : job.cancelRequested <;> simp [proceed, abandon, h]

theorem started_proceed (h : job.cancelRequested) (rest : List CommandStep) :
    (job.proceed rest).started = job.started := by
  cases rest with
  | nil => rfl
  | cons step rest => simp [proceed, abandon, h]

/-- A job that has been asked to cancel starts no step. -/
theorem step_after_cancelJob (h : job.cancelRequested) (event : RunnerEvent) :
    (job.step event).cancelRequested ∧ (job.step event).started = job.started := by
  cases event with
  | cancelJob => exact ⟨rfl, rfl⟩
  | begun trouble =>
    by_cases hStage : job.stage = .queued
    · by_cases hAction : job.action = "diagnose"
      · cases trouble <;> simp [step, hStage, begin, hAction, fail, conclude, h]
      · simp [step, hStage, begin, hAction, cancelRequested_proceed, started_proceed, h]
    · simp [step, hStage, h]
  | spawned => cases hStage : job.stage <;> simp [step, hStage, h]
  | spawnFailed text => cases hStage : job.stage <;> simp [step, hStage, fail, h]
  | exited code => exact ⟨h, rfl⟩
  | readFailed text => cases hStage : job.stage <;> simp [step, hStage, fail, h]
  | resumed =>
    cases hStage : job.stage with
    | reading rest =>
      cases hCode : job.returncode with
      | none => simp [step, hStage, hCode, h]
      | some code =>
        by_cases hZero : code = 0 <;>
          simp [step, hStage, hCode, resume, hZero, fail, cancelRequested_proceed, started_proceed, h]
    | _ => simp [step, hStage, h]

theorem run_after_cancelJob (h : job.cancelRequested) (events : List RunnerEvent) :
    (run step job events).cancelRequested ∧ (run step job events).started = job.started := by
  refine run_invariant (P := fun later : Esp32Job => later.cancelRequested ∧ later.started = job.started)
    ?_ ⟨h, rfl⟩ events
  rintro later event ⟨hRequested, hStarted⟩
  have hStep := step_after_cancelJob hRequested event
  exact ⟨hStep.1, hStep.2.trans hStarted⟩

theorem lost_run_iff (h : job.cancelRequested) (events : List RunnerEvent) :
    (run step job events).Lost ↔ job.Lost ∨ ¬ Meets step GoesWell job events := by
  induction events generalizing job with
  | nil => simp [Meets]
  | cons event rest ih =>
    rw [run_cons, ih (step_after_cancelJob h event).1, lost_step_iff h]
    simp only [Meets]
    tauto

structure Tracked (job : Esp32Job) : Prop where
  settled : job.stage = .finished → ¬ job.live
  attached : ∀ rest, job.stage = .reading rest → job.process ≠ none

theorem tracked_conclude (job : Esp32Job) : job.conclude.Tracked where
  settled := by by_cases h : job.cancelRequested <;> simp [conclude, live, h]
  attached := by simp [conclude]

theorem tracked_fail (job : Esp32Job) (text : String) : (job.fail text).Tracked where
  settled := by simp [fail, live]
  attached := by simp [fail]

theorem tracked_proceed (job : Esp32Job) (rest : List CommandStep) : (job.proceed rest).Tracked := by
  cases rest with
  | nil => exact tracked_conclude job
  | cons step rest =>
    by_cases h : job.cancelRequested
    · constructor <;> simp [proceed, h, abandon, live]
    · constructor <;> simp [proceed, h]

theorem tracked_begin (job : Esp32Job) (trouble : Option String) : (job.begin trouble).Tracked := by
  by_cases hAction : job.action = "diagnose"
  · cases trouble with
    | none => simpa only [begin, hAction, if_true] using tracked_conclude _
    | some text => simpa only [begin, hAction, if_true] using tracked_fail _ text
  · rw [begin, if_neg hAction]
    exact tracked_proceed _ _

theorem tracked_resume (job : Esp32Job) (rest : List CommandStep) (code : Int) :
    (job.resume rest code).Tracked := by
  by_cases hCode : code = 0
  · simpa only [resume, hCode, ne_eq, not_true, if_false] using tracked_proceed _ rest
  · simpa only [resume, hCode, ne_eq, not_false_iff, if_true] using tracked_fail _ _

theorem step_tracked (job : Esp32Job) (event : RunnerEvent) (h : job.Tracked) :
    (job.step event).Tracked := by
  cases event with
  | cancelJob =>
    refine ⟨h.settled, fun rest hStage => ?_⟩
    simpa [step, cancelJob] using h.attached rest hStage
  | begun trouble =>
    by_cases hStage : job.stage = .queued
    · simpa only [step, hStage, if_true] using tracked_begin job trouble
    · simpa only [step, hStage, if_false] using h
  | spawned =>
    cases hStage : job.stage with
    | spawning rest => constructor <;> simp [step, hStage]
    | _ => simpa only [step, hStage] using h
  | spawnFailed text =>
    cases hStage : job.stage with
    | spawning rest => simpa only [step, hStage] using tracked_fail job text
    | _ => simpa only [step, hStage] using h
  | exited code =>
    refine ⟨h.settled, fun rest hStage => ?_⟩
    simpa [step] using h.attached rest hStage
  | readFailed text =>
    cases hStage : job.stage with
    | reading rest => simpa only [step, hStage] using tracked_fail job text
    | _ => simpa only [step, hStage] using h
  | resumed =>
    cases hStage : job.stage with
    | reading rest =>
      cases hCode : job.returncode with
      | none => simpa only [step, hStage, hCode] using h
      | some code => simpa only [step, hStage, hCode] using tracked_resume job rest code
    | _ => simpa only [step, hStage] using h

def Reachable (job : Esp32Job) : Prop :=
  ∃ action steps events, job = run step { action, steps } events

theorem Reachable.tracked (h : job.Reachable) : job.Tracked := by
  obtain ⟨action, steps, events, rfl⟩ := h
  refine run_invariant step_tracked ⟨?_, ?_⟩ events <;> simp

theorem finished_proceed (h : job.cancelRequested) (rest : List CommandStep) :
    (job.proceed rest).stage = .finished := by
  cases rest with
  | nil => rfl
  | cons step rest => simp [proceed, h, abandon]

theorem finished_resume (h : job.cancelRequested) (rest : List CommandStep) (code : Int) :
    (job.resume rest code).stage = .finished := by
  by_cases hCode : code = 0
  · simp [resume, hCode, finished_proceed, h]
  · simp [resume, hCode, fail]

theorem finished_begin (h : job.cancelRequested) (trouble : Option String) :
    (job.begin trouble).stage = .finished := by
  by_cases hAction : job.action = "diagnose"
  · cases trouble <;> simp [begin, hAction, fail, conclude]
  · simp [begin, hAction, finished_proceed, h]

theorem finishes_of_reading (h : job.cancelRequested) {rest : List CommandStep}
    (hStage : job.stage = .reading rest) {process : Process} (hProcess : job.process = some process) :
    ∃ events, (run step job events).stage = .finished ∧ Meets step GoesWell job events := by
  cases hCode : process.returncode with
  | none =>
    have hExited : (job.step (.exited 0)).returncode = some 0 := by
      simp [returncode, step, hProcess, hCode]
    have hReading : (job.step (.exited 0)).stage = .reading rest := hStage
    refine ⟨[.exited 0, .resumed], ?_, by simp [Meets, GoesWell]⟩
    have hResumed : (job.step (.exited 0)).step .resumed = (job.step (.exited 0)).resume rest 0 := by
      rw [step.eq_def _ .resumed]
      simp only [hReading, hExited]
    rw [run_cons, run_cons, run_nil, hResumed]
    exact finished_resume h rest 0
  | some code =>
    have hBack : job.returncode = some code := by simp [returncode, hProcess, hCode]
    refine ⟨[.resumed], ?_, by simp [Meets, GoesWell]⟩
    simp [step, hStage, hBack, finished_resume h]

/-- A cancelled job comes to its end, and without a failure if what is under way has none. -/
theorem finishes (h : job.cancelRequested) (hTracked : job.Tracked) :
    ∃ events, (run step job events).stage = .finished ∧ Meets step GoesWell job events := by
  cases hStage : job.stage with
  | queued =>
    refine ⟨[.begun none], ?_, by simp [Meets, GoesWell]⟩
    simp [step, hStage, finished_begin h]
  | spawning rest =>
    have hSpawned : job.step .spawned = { job with process := some {}, stage := .reading rest } := by
      simp [step, hStage]
    have hReading : (job.step .spawned).stage = .reading rest := by rw [hSpawned]
    have hFresh : (job.step .spawned).process = some {} := by rw [hSpawned]
    obtain ⟨events, hEnd, hWell⟩ :=
      finishes_of_reading (step_after_cancelJob h .spawned).1 hReading hFresh
    exact ⟨.spawned :: events, hEnd, trivial, hWell⟩
  | reading rest =>
    obtain ⟨process, hProcess⟩ := Option.ne_none_iff_exists'.mp (hTracked.attached rest hStage)
    exact finishes_of_reading h hStage hProcess
  | finished => exact ⟨[], hStage, trivial⟩

def ExitedBadly (job : Esp32Job) : Prop :=
  ∃ rest code, job.stage = .reading rest ∧ job.returncode = some code ∧ code ≠ 0

theorem lost_cancelJob_iff (hTracked : job.Tracked) (hLive : job.live) :
    job.cancelJob.Lost ↔ job.ExitedBadly := by
  have hStage : job.cancelJob.stage = job.stage := rfl
  have hCode := returncode_cancelJob job
  cases hPlace : job.stage with
  | finished => exact absurd hLive (hTracked.settled hPlace)
  | reading rest => simp [Lost, ExitedBadly, hStage, hCode, hPlace]
  | _ => simp [Lost, ExitedBadly, hStage, hPlace]

theorem lost_of_finished (h : job.stage = .finished) : job.Lost ↔ job.status ≠ .cancelled := by
  simp only [Lost, h]

theorem cancel_job_final_iff (h : job.Reachable) (hLive : job.live) (events : List RunnerEvent) :
    (run step job (.cancelJob :: events)).started = job.started ∧
      (∃ more, (run step job (.cancelJob :: events ++ more)).stage = .finished ∧
        Meets step GoesWell (run step job (.cancelJob :: events)) more) ∧
      ((run step job (.cancelJob :: events)).stage = .finished →
        ((run step job (.cancelJob :: events)).status = .cancelled ↔
          ¬ job.ExitedBadly ∧ Meets step GoesWell job.cancelJob events)) := by
  have hRequested : job.cancelJob.cancelRequested := rfl
  have hRun : run step job (.cancelJob :: events) = run step job.cancelJob events := rfl
  obtain ⟨hLater, hStarted⟩ := run_after_cancelJob hRequested events
  simp only [run_append, hRun]
  refine ⟨hStarted, finishes hLater ?_, fun hEnd => ?_⟩
  · exact run_invariant step_tracked (step_tracked job .cancelJob h.tracked) events
  · have hLost := lost_run_iff hRequested events
    rw [lost_of_finished hEnd, lost_cancelJob_iff h.tracked hLive] at hLost
    tauto

def buildUnderWay : Esp32Job :=
  run step { action := "build", steps := [{ args := ["build.sh", "build"], cwd := "." }] }
    [.begun none, .spawned]

theorem cancel_of_exit_zero : buildUnderWay.live ∧
    ((run step buildUnderWay [.cancelJob, .exited 0, .resumed]).status = .cancelled ↔
      ¬ buildUnderWay.ExitedBadly ∧ Meets step GoesWell buildUnderWay.cancelJob [.exited 0, .resumed]) :=
  ⟨by decide, (cancel_job_final_iff ⟨_, _, _, rfl⟩ (by decide) [.exited 0, .resumed]).2.2 (by decide)⟩

/-- The process `cancel_job` terminates exits by the signal, and the job counts as failed. -/
theorem terminated_step_fails :
    buildUnderWay.Reachable ∧ buildUnderWay.live ∧
      buildUnderWay.cancelJob.process = some { terminated := true } ∧
      (run step buildUnderWay [.cancelJob, .exited (-15), .resumed]).stage = .finished ∧
      (run step buildUnderWay [.cancelJob, .exited (-15), .resumed]).status = .failed ∧
      (run step buildUnderWay [.cancelJob, .exited (-15), .resumed]).error =
        some "command exited with code -15" :=
  ⟨⟨_, _, _, rfl⟩, by decide, by decide, by decide, by decide, by decide⟩

end Esp32Job

end EidolonAdmin.Tools
