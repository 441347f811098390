import Mathlib.Data.List.Basic
import EidolonAdmin.Removal.Contracts

/-! # Putting an Eidolon away

`put_away`: the Bodies that answer as the Companion are released at the Kernel one
by one, then Data is asked to archive it. A run is a function of what the two
authorities answer to its calls; the exchanges with the Kernel are kept in order.
-/

namespace EidolonAdmin.Management

open Removal (AuthorityFailure DeviceRef)

structure BodyAssignment where
  companionId : Option String
  revision : Nat
deriving DecidableEq, Repr

structure KernelBodyEndpoint where
  bodyEndpointId : String
  deviceId : String
  ownerId : String
  deviceRef : DeviceRef
  present : Bool
  assignment : Option BodyAssignment
deriving DecidableEq, Repr

structure AssignmentCall where
  ownerId : String
  deviceId : String
  companionId : Option String
  requestId : String
  expectedAssignmentRevision : Nat
  origin : String
  changeReason : Option String
deriving DecidableEq, Repr

def kernelViolation (detail : String) : AuthorityFailure :=
  { authority := .kernel, kind := .contractViolation, detail, statusCode := 502 }

def dataViolation (detail : String) : AuthorityFailure :=
  { authority := .data, kind := .contractViolation, detail, statusCode := 502 }

def endpointPageLimit : Nat := 100

def listBodyEndpoints (ownerId : String)
    (answer : Except AuthorityFailure (List KernelBodyEndpoint)) :
    Except AuthorityFailure (List KernelBodyEndpoint) :=
  match answer with
  | .error failure => .error failure
  | .ok endpoints =>
    if endpointPageLimit < endpoints.length then
      .error (kernelViolation "kernel response violated the consumed contract")
    else if endpoints.any fun endpoint => endpoint.ownerId ≠ ownerId then
      .error (kernelViolation "Kernel Body endpoint page crossed the requested owner scope")
    else .ok endpoints

/-- The check that `replace_assignment` makes on the Kernel's answer. -/
def replaceAssignment (call : AssignmentCall) (answer : Except AuthorityFailure KernelBodyEndpoint) :
    Except AuthorityFailure KernelBodyEndpoint :=
  match answer with
  | .error failure => .error failure
  | .ok endpoint =>
    if endpoint.deviceId ≠ call.deviceId ∨ endpoint.ownerId ≠ call.ownerId ∨
        endpoint.bodyEndpointId ≠ call.deviceId ++ ":body" ∨
        (endpoint.assignment.bind fun assignment => assignment.companionId) ≠ call.companionId then
      .error (kernelViolation
        "Kernel Body assignment response did not confirm the requested identities")
    else .ok endpoint

structure CompanionLifecycleResult where
  companionId : String
  lifecycleState : String
  revision : Nat
  defaultCompanionId : Option String
deriving DecidableEq, Repr

structure LifecycleCall where
  ownerId : String
  companionId : String
  lifecycleState : String
  expectedRevision : Option Nat
  replacementCompanionId : Option String
deriving DecidableEq, Repr

def setCompanionLifecycle (data : LifecycleCall → Except AuthorityFailure CompanionLifecycleResult)
    (call : LifecycleCall) : Except AuthorityFailure CompanionLifecycleResult :=
  match data call with
  | .error failure => .error failure
  | .ok result =>
    if result.companionId ≠ call.companionId then
      .error (dataViolation "Data returned a different companion lifecycle result")
    else if result.lifecycleState ≠ call.lifecycleState then
      .error (dataViolation "Data accepted the lifecycle change without applying it")
    else .ok result

structure CompanionLifecycleView where
  companionId : String
  lifecycleState : String
  revision : Nat
  defaultCompanionId : Option String
  releasedDevices : List String := []
deriving DecidableEq, Repr

def releaseRequestId (sha256 : String → String) (companionId deviceId : String) : String :=
  "companion-archive-" ++ sha256 (companionId ++ "\x00" ++ deviceId)

def KernelBodyEndpoint.answersAs (endpoint : KernelBodyEndpoint) (companionId : String) : Bool :=
  endpoint.assignment.any fun assignment => assignment.companionId = some companionId

structure Exchange where
  call : AssignmentCall
  answer : Except AuthorityFailure KernelBodyEndpoint

/-- What the authorities answer in one run; the releases are answered in turn. -/
structure ArchiveAnswers where
  endpoints : Except AuthorityFailure (List KernelBodyEndpoint)
  release : Nat → Except AuthorityFailure KernelBodyEndpoint
  lifecycle : LifecycleCall → Except AuthorityFailure CompanionLifecycleResult

structure ArchiveRequest where
  ownerId : String
  companionId : String
  replacementCompanionId : Option String := none
  expectedRevision : Option Nat := none
deriving DecidableEq, Repr

section Archive

variable (sha256 : String → String) (request : ArchiveRequest)

/-- `release_device`, as the archive calls it for one endpoint. -/
def releaseCall (endpoint : KernelBodyEndpoint) : AssignmentCall where
  ownerId := request.ownerId
  deviceId := endpoint.deviceId
  companionId := none
  requestId := releaseRequestId sha256 request.companionId endpoint.deviceId
  expectedAssignmentRevision := (endpoint.assignment.map fun assignment => assignment.revision).getD 0
  origin := "companion-lifecycle"
  changeReason := some "companion-archived"

/-- The loop of `_release_bodies`; a refusal ends it where it stands. -/
def releaseLoop (release : Nat → Except AuthorityFailure KernelBodyEndpoint) :
    Nat → List KernelBodyEndpoint → Except AuthorityFailure (List String) × List Exchange
  | _, [] => (.ok [], [])
  | i, endpoint :: rest =>
    if endpoint.answersAs request.companionId then
      let call := releaseCall sha256 request endpoint
      match replaceAssignment call (release i) with
      | .error failure => (.error failure, [⟨call, .error failure⟩])
      | .ok confirmed =>
        let tail := releaseLoop release (i + 1) rest
        (tail.1.map (endpoint.deviceId :: ·), ⟨call, .ok confirmed⟩ :: tail.2)
    else releaseLoop release i rest

def releaseBodies (answers : ArchiveAnswers) :
    Except AuthorityFailure (List String) × List Exchange :=
  match listBodyEndpoints request.ownerId answers.endpoints with
  | .error failure => (.error failure, [])
  | .ok endpoints => releaseLoop sha256 request answers.release 0 endpoints

def archiveCall : LifecycleCall where
  ownerId := request.ownerId
  companionId := request.companionId
  lifecycleState := "archived"
  expectedRevision := request.expectedRevision
  replacementCompanionId := request.replacementCompanionId

def putAway (answers : ArchiveAnswers) :
    Except AuthorityFailure CompanionLifecycleView × List Exchange :=
  match releaseBodies sha256 request answers with
  | (.error failure, exchanges) => (.error failure, exchanges)
  | (.ok released, exchanges) =>
    match setCompanionLifecycle answers.lifecycle (archiveCall request) with
    | .error failure => (.error failure, exchanges)
    | .ok result =>
      (.ok { companionId := result.companionId, lifecycleState := result.lifecycleState
             revision := result.revision, defaultCompanionId := result.defaultCompanionId
             releasedDevices := released }, exchanges)

end Archive

abbrev Bodies := String → String → Option BodyAssignment

/-- The Kernel over the exchanges of a run: an answer that confirms a change reports
the assignment then held, and no call touches another Body. A call without such an
answer may have been carried out or not. -/
inductive Moves : Bodies → List Exchange → Bodies → Prop where
  | nil (bodies : Bodies) : Moves bodies [] bodies
  | confirmed {before next after : Bodies} {call : AssignmentCall} {endpoint : KernelBodyEndpoint}
      {rest : List Exchange} (held : next call.ownerId call.deviceId = endpoint.assignment)
      (frame : ∀ owner device, (owner, device) ≠ (call.ownerId, call.deviceId) →
        next owner device = before owner device)
      (later : Moves next rest after) : Moves before (⟨call, .ok endpoint⟩ :: rest) after
  | failed {before next after : Bodies} {call : AssignmentCall} {failure : AuthorityFailure}
      {rest : List Exchange}
      (frame : ∀ owner device, (owner, device) ≠ (call.ownerId, call.deviceId) →
        next owner device = before owner device)
      (later : Moves next rest after) : Moves before (⟨call, .error failure⟩ :: rest) after

def Bodies.answersAs (bodies : Bodies) (owner device : String) : Option String :=
  (bodies owner device).bind fun assignment => assignment.companionId

def Exchange.Released (exchange : Exchange) : Prop :=
  ∃ endpoint, exchange.answer = .ok endpoint ∧
    (endpoint.assignment.bind fun assignment => assignment.companionId) = none

theorem replaceAssignment_eq_ok_iff {call : AssignmentCall} {endpoint : KernelBodyEndpoint}
    {answer : Except AuthorityFailure KernelBodyEndpoint} :
    replaceAssignment call answer = .ok endpoint ↔
      answer = .ok endpoint ∧ endpoint.deviceId = call.deviceId ∧ endpoint.ownerId = call.ownerId ∧
      endpoint.bodyEndpointId = call.deviceId ++ ":body" ∧
      (endpoint.assignment.bind fun assignment => assignment.companionId) = call.companionId := by
  cases answer with
  | error failure => simp [replaceAssignment]
  | ok answered =>
    simp only [replaceAssignment]
    split
    · rename_i hOther
      simp only [reduceCtorEq, Except.ok.injEq, false_iff, not_and]
      rintro rfl hDevice hOwner hEndpoint hCompanion
      simp [hDevice, hOwner, hEndpoint, hCompanion] at hOther
    · rename_i hSame
      simp only [ne_eq, not_or, not_not] at hSame
      simp only [Except.ok.injEq]
      constructor
      · rintro rfl
        exact ⟨rfl, hSame⟩
      · exact fun h => h.1

theorem Moves.frame {before after : Bodies} {exchanges : List Exchange} {owner device : String}
    (h : Moves before exchanges after)
    (hOther : ∀ exchange ∈ exchanges,
      (owner, device) ≠ (exchange.call.ownerId, exchange.call.deviceId)) :
    after owner device = before owner device := by
  induction h with
  | nil bodies => rfl
  | confirmed held frame later ih =>
    rw [List.forall_mem_cons] at hOther
    exact (ih hOther.2).trans (frame owner device hOther.1)
  | failed frame later ih =>
    rw [List.forall_mem_cons] at hOther
    exact (ih hOther.2).trans (frame owner device hOther.1)

theorem Moves.answersAs_none_of_none {before after : Bodies} {exchanges : List Exchange}
    {owner device : String} (h : Moves before exchanges after)
    (hReleased : ∀ exchange ∈ exchanges, exchange.Released)
    (hNone : before.answersAs owner device = none) : after.answersAs owner device = none := by
  induction h with
  | nil bodies => exact hNone
  | @confirmed before next after call endpoint rest held frame later ih =>
    rw [List.forall_mem_cons] at hReleased
    refine ih hReleased.2 ?_
    obtain ⟨answered, hAnswer, hNobody⟩ := hReleased.1
    obtain rfl := Except.ok.inj hAnswer
    by_cases hBody : (owner, device) = (call.ownerId, call.deviceId)
    · obtain ⟨rfl, rfl⟩ := Prod.mk.inj hBody
      rw [Bodies.answersAs, held]
      exact hNobody
    · rw [Bodies.answersAs, frame owner device hBody]
      exact hNone
  | failed frame later ih =>
    rw [List.forall_mem_cons] at hReleased
    obtain ⟨answered, hAnswer, _⟩ := hReleased.1
    simp at hAnswer

theorem Moves.answersAs_none {before after : Bodies} {exchanges : List Exchange}
    {exchange : Exchange} (h : Moves before exchanges after)
    (hReleased : ∀ exchange ∈ exchanges, exchange.Released) (hMem : exchange ∈ exchanges) :
    after.answersAs exchange.call.ownerId exchange.call.deviceId = none := by
  induction h with
  | nil bodies => simp at hMem
  | @confirmed before next after call endpoint rest held frame later ih =>
    rw [List.forall_mem_cons] at hReleased
    rcases List.mem_cons.mp hMem with rfl | hLater
    · refine later.answersAs_none_of_none hReleased.2 ?_
      obtain ⟨answered, hAnswer, hNobody⟩ := hReleased.1
      obtain rfl := Except.ok.inj hAnswer
      rw [Bodies.answersAs, held]
      exact hNobody
    · exact ih hReleased.2 hLater
  | failed frame later ih =>
    rw [List.forall_mem_cons] at hReleased
    obtain ⟨answered, hAnswer, _⟩ := hReleased.1
    simp at hAnswer

section Loop

variable {sha256 : String → String} {request : ArchiveRequest}
  {release : Nat → Except AuthorityFailure KernelBodyEndpoint}

theorem releaseLoop_other {endpoint : KernelBodyEndpoint} {rest : List KernelBodyEndpoint} {i : Nat}
    (h : ¬ endpoint.answersAs request.companionId) :
    releaseLoop sha256 request release i (endpoint :: rest) =
      releaseLoop sha256 request release i rest := by
  simp [releaseLoop, h]

theorem releaseLoop_refused {endpoint : KernelBodyEndpoint} {rest : List KernelBodyEndpoint} {i : Nat}
    {failure : AuthorityFailure} (h : endpoint.answersAs request.companionId)
    (hAnswer : replaceAssignment (releaseCall sha256 request endpoint) (release i) = .error failure) :
    releaseLoop sha256 request release i (endpoint :: rest) =
      (.error failure, [⟨releaseCall sha256 request endpoint, .error failure⟩]) := by
  simp [releaseLoop, h, hAnswer]

theorem releaseLoop_released {endpoint confirmed : KernelBodyEndpoint} {rest : List KernelBodyEndpoint}
    {i : Nat} (h : endpoint.answersAs request.companionId)
    (hAnswer : replaceAssignment (releaseCall sha256 request endpoint) (release i) = .ok confirmed) :
    releaseLoop sha256 request release i (endpoint :: rest) =
      ((releaseLoop sha256 request release (i + 1) rest).1.map (endpoint.deviceId :: ·),
        ⟨releaseCall sha256 request endpoint, .ok confirmed⟩ ::
          (releaseLoop sha256 request release (i + 1) rest).2) := by
  simp [releaseLoop, h, hAnswer]

/-- A loop that comes to its end has released every Body that answered as the
Companion, and has called for no other. -/
theorem releaseLoop_eq_ok {released : List String} :
    ∀ {endpoints : List KernelBodyEndpoint} {i : Nat},
      (releaseLoop sha256 request release i endpoints).1 = .ok released →
      released = (endpoints.filter fun endpoint => endpoint.answersAs request.companionId).map
        (fun endpoint => endpoint.deviceId) ∧
      (releaseLoop sha256 request release i endpoints).2.map (fun exchange => exchange.call) =
        (endpoints.filter fun endpoint => endpoint.answersAs request.companionId).map
          (releaseCall sha256 request) ∧
      ∀ exchange ∈ (releaseLoop sha256 request release i endpoints).2, exchange.Released := by
  intro endpoints
  induction endpoints generalizing released with
  | nil =>
    intro i hOk
    obtain rfl := Except.ok.inj hOk
    simp [releaseLoop]
  | cons endpoint rest ih =>
    intro i hOk
    by_cases hAssigned : endpoint.answersAs request.companionId
    · cases hAnswer : replaceAssignment (releaseCall sha256 request endpoint) (release i) with
      | error failure => simp [releaseLoop_refused hAssigned hAnswer] at hOk
      | ok confirmed =>
        rw [releaseLoop_released hAssigned hAnswer] at hOk ⊢
        cases hTail : (releaseLoop sha256 request release (i + 1) rest).1 with
        | error failure => simp [hTail, Except.map] at hOk
        | ok later =>
          simp only [hTail] at hOk
          obtain rfl := Except.ok.inj hOk
          obtain ⟨hLater, hCalls, hReleased⟩ := ih hTail
          have hNobody := (replaceAssignment_eq_ok_iff.mp hAnswer).2.2.2.2
          refine ⟨by simp [hAssigned, hLater], by simp [hAssigned, hCalls], ?_⟩
          rw [List.forall_mem_cons]
          exact ⟨⟨confirmed, rfl, hNobody⟩, hReleased⟩
    · rw [releaseLoop_other hAssigned] at hOk ⊢
      simpa [hAssigned] using ih hOk

variable {answers : ArchiveAnswers} {endpoints : List KernelBodyEndpoint}
  {released : List String} {failure : AuthorityFailure}

theorem putAway_of_refused (hReleased : (releaseBodies sha256 request answers).1 = .ok released)
    (hRefused : setCompanionLifecycle answers.lifecycle (archiveCall request) = .error failure) :
    putAway sha256 request answers =
      (.error failure, (releaseBodies sha256 request answers).2) := by
  unfold putAway
  generalize releaseBodies sha256 request answers = bodies at hReleased ⊢
  obtain ⟨outcome, exchanges⟩ := bodies
  obtain rfl : outcome = .ok released := hReleased
  simp only [hRefused]

/-- By the time Data refuses, every Body listed as answering as the Companion answers
as nobody; every other Body is as it was. -/
theorem refused_archive_effect {before after : Bodies}
    (hPage : listBodyEndpoints request.ownerId answers.endpoints = .ok endpoints)
    (hHeld : ∀ endpoint ∈ endpoints, before request.ownerId endpoint.deviceId = endpoint.assignment)
    (hReleased : (releaseBodies sha256 request answers).1 = .ok released)
    (hRefused : setCompanionLifecycle answers.lifecycle (archiveCall request) = .error failure)
    (hMoves : Moves before (putAway sha256 request answers).2 after) :
    (putAway sha256 request answers).1 = .error failure ∧
    (∀ endpoint ∈ endpoints, endpoint.answersAs request.companionId →
      after.answersAs request.ownerId endpoint.deviceId = none) ∧
    (∀ owner device, (∀ endpoint ∈ endpoints, endpoint.answersAs request.companionId →
        (owner, device) ≠ (request.ownerId, endpoint.deviceId)) →
      after owner device = before owner device) ∧
    ((∀ device, after request.ownerId device = before request.ownerId device) ↔
      ∀ endpoint ∈ endpoints, ¬ endpoint.answersAs request.companionId) := by
  rw [putAway_of_refused hReleased hRefused] at hMoves ⊢
  simp only [releaseBodies, hPage] at hReleased hMoves
  obtain ⟨_, hCalls, hAll⟩ := releaseLoop_eq_ok hReleased
  generalize (releaseLoop sha256 request answers.release 0 endpoints).2 = exchanges
    at hCalls hAll hMoves
  have hNobody : ∀ endpoint ∈ endpoints, endpoint.answersAs request.companionId →
      after.answersAs request.ownerId endpoint.deviceId = none := by
    intro endpoint hMem hAssigned
    have hCall : releaseCall sha256 request endpoint ∈ exchanges.map fun exchange => exchange.call := by
      rw [hCalls]
      exact List.mem_map_of_mem (List.mem_filter.mpr ⟨hMem, hAssigned⟩)
    obtain ⟨exchange, hExchange, hEq⟩ := List.mem_map.mp hCall
    have hNone := hMoves.answersAs_none hAll hExchange
    rw [hEq] at hNone
    exact hNone
  have hFrame : ∀ owner device, (∀ endpoint ∈ endpoints, endpoint.answersAs request.companionId →
      (owner, device) ≠ (request.ownerId, endpoint.deviceId)) →
      after owner device = before owner device := by
    intro owner device hOther
    refine hMoves.frame fun exchange hExchange => ?_
    have hCall := List.mem_map_of_mem (f := fun exchange : Exchange => exchange.call) hExchange
    rw [hCalls] at hCall
    obtain ⟨endpoint, hEndpoint, hEq⟩ := List.mem_map.mp hCall
    obtain ⟨hMem, hAssigned⟩ := List.mem_filter.mp hEndpoint
    rw [← hEq]
    exact hOther endpoint hMem hAssigned
  refine ⟨rfl, hNobody, hFrame, ?_, ?_⟩
  · intro hSame endpoint hMem hAssigned
    have hNone := hNobody endpoint hMem hAssigned
    rw [Bodies.answersAs, hSame, hHeld endpoint hMem] at hNone
    cases hAssignment : endpoint.assignment with
    | none => simp [KernelBodyEndpoint.answersAs, hAssignment] at hAssigned
    | some assignment =>
      simp only [KernelBodyEndpoint.answersAs, hAssignment, Option.any_some,
        decide_eq_true_eq] at hAssigned
      simp [hAssignment, hAssigned] at hNone
  · intro hNone device
    exact hFrame request.ownerId device fun endpoint hMem hAssigned =>
      absurd hAssigned (hNone endpoint hMem)

end Loop

namespace Sample

def speakerRef : DeviceRef := ⟨"speaker-study", "owner-domain", 1, 1, 1⟩

def speaker (assignment : BodyAssignment) : KernelBodyEndpoint where
  bodyEndpointId := "speaker-study:body"
  deviceId := "speaker-study"
  ownerId := "owner-1"
  deviceRef := speakerRef
  present := true
  assignment := some assignment

def assignedTo (companionId : String) (revision : Nat) : BodyAssignment :=
  ⟨some companionId, revision⟩

def defaultReplacementRequired : AuthorityFailure where
  authority := .data
  kind := .conflict
  detail := "refused"
  statusCode := 409
  upstreamStatus := some 409
  code := some "default_replacement_required"

def archive : ArchiveRequest := ⟨"owner-1", "companion-a", none, none⟩

def asked : ArchiveAnswers where
  endpoints := .ok [speaker (assignedTo "companion-a" 3)]
  release := fun _ => .ok (speaker ⟨none, 4⟩)
  lifecycle := fun _ => .error defaultReplacementRequired

def askedAgain : ArchiveAnswers where
  endpoints := .ok [speaker ⟨none, 4⟩]
  release := asked.release
  lifecycle := fun call =>
    .ok ⟨call.companionId, call.lifecycleState, 5, call.replacementCompanionId⟩

def holding (assignment : BodyAssignment) : Bodies := fun owner device =>
  if (owner, device) = ("owner-1", "speaker-study") then some assignment else none

end Sample

theorem moves_asked :
    Moves (Sample.holding (Sample.assignedTo "companion-a" 3))
      (putAway id Sample.archive Sample.asked).2 (Sample.holding ⟨none, 4⟩) := by
  refine .confirmed rfl ?_ (.nil _)
  intro owner device hOther
  have hSpeaker : (owner, device) ≠ ("owner-1", "speaker-study") := hOther
  rw [Sample.holding, Sample.holding, if_neg hSpeaker, if_neg hSpeaker]

/-- Data answers with a question, and the speaker has gone quiet. -/
theorem question_silences_speaker :
    (putAway id Sample.archive Sample.asked).1 = .error Sample.defaultReplacementRequired ∧
      Moves (Sample.holding (Sample.assignedTo "companion-a" 3))
        (putAway id Sample.archive Sample.asked).2 (Sample.holding ⟨none, 4⟩) ∧
      Sample.holding ⟨none, 4⟩ "owner-1" "speaker-study" ≠
        Sample.holding (Sample.assignedTo "companion-a" 3) "owner-1" "speaker-study" :=
  ⟨rfl, moves_asked, by decide⟩

-- The view of the retry does not name the speaker that went quiet.
example :
    (putAway id { Sample.archive with replacementCompanionId := some "companion-b" }
      Sample.askedAgain).1 = .ok ⟨"companion-a", "archived", 5, some "companion-b", []⟩ := by
  decide

theorem refused_archive_effect_asked :
    (Sample.holding ⟨none, 4⟩).answersAs "owner-1" "speaker-study" = none := by
  have hEffect := @refused_archive_effect id Sample.archive Sample.asked
    [Sample.speaker (Sample.assignedTo "companion-a" 3)] ["speaker-study"]
    Sample.defaultReplacementRequired _ _ rfl (by decide) rfl rfl moves_asked
  exact hEffect.2.1 (Sample.speaker (Sample.assignedTo "companion-a" 3)) (by decide) (by decide)

end EidolonAdmin.Management
