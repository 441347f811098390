import EidolonAdmin.Admission.DecisionWorkflow

/-! # Repeating a decision

Over every run of the workflow a request has one intent, one Hub command and at most
one result. A repeated call comes back with the stored result as long as Hub still
reports the Proposal in a phase that the validation of the target accepts.
-/

namespace EidolonAdmin.Admission

open Foundation Foundation.Table Foundation.Transition
open Removal (AuthorityFailure Raised)

theorem kept_append (rows : List AdmissionDecisionIntent) (row : AdmissionDecisionIntent) :
    Kept rows (rows ++ [row]) :=
  fun stored hStored => ⟨stored, List.mem_append_left _ hStored, rfl, fun _ hResult => hResult⟩

theorem kept_committed {rows : List AdmissionDecisionIntent} (h : Coherent rows)
    {row : AdmissionDecisionIntent} (hRow : row ∈ rows) {result : DecideEnrollmentResult}
    (hSame : changes result row = false) (now : Int) :
    Kept rows (updateWhere (fun other => other.intentId = row.intentId) (committed result now)
      rows) := by
  intro stored hStored
  refine ⟨_, mem_updateWhere.mpr ⟨stored, hStored, rfl⟩, ?_⟩
  split
  · rename_i hId
    have hRowSame : stored = row :=
      List.inj_on_of_nodup_map h.oneRow hStored hRow (by simpa using hId)
    refine ⟨rfl, fun known hKnown => ?_⟩
    subst hRowSame
    have hEq : known = result := by simpa [changes, hKnown] using hSame
    rw [hEq]
    rfl
  · exact ⟨rfl, fun _ hResult => hResult⟩

structure Call.Backed (codec : Codec) (rows : List AdmissionDecisionIntent) (call : Call) :
    Prop where
  row : ∃ row ∈ rows, frozen row = frozen call.intent ∧
    ∀ result, call.intent.result = some result → row.result = some result
  intentId : call.intent.intentId = codec.intentIdOf call.request
  checkpoint : call.intent.checkpoint = .decisionCommitted ↔ call.intent.result.isSome = true
  stored : ∀ result, call.stored = some result → call.intent.result = some result
  recorded : call.phase = .recovery → call.intent.result.isSome = true
  unrecorded : call.phase = .decide → call.intent.result = none

theorem Call.Backed.mono {codec : Codec} {rows later : List AdmissionDecisionIntent} {call : Call}
    (h : call.Backed codec rows) (hKept : Kept rows later) : call.Backed codec later := by
  obtain ⟨row, hRow, hFrozen, hResult⟩ := h.row
  obtain ⟨kept, hMem, hKeptFrozen, hKeptResult⟩ := hKept row hRow
  exact ⟨⟨kept, hMem, hKeptFrozen.trans hFrozen,
    fun result hCall => hKeptResult result (hResult result hCall)⟩,
    h.intentId, h.checkpoint, h.stored, h.recorded, h.unrecorded⟩

namespace Desk

variable {codec : Codec} {store : DecisionStore codec}

structure Valid (desk : Desk codec store) : Prop where
  inv : store.Inv desk.ledger
  calls : ∀ call ∈ desk.waiting, call.Backed codec desk.rows
  sent : ∀ command ∈ desk.sent, ∃ row ∈ desk.rows,
    row.intentId = codec.intentIdOf command.request ∧ row.commandId = command.commandId

theorem kept_did {desk next : Desk codec store} {event : DecisionEvent} (h : desk.Valid)
    (hDid : desk.Did event next) : store.Inv next.ledger ∧ Kept desk.rows next.rows := by
  cases hDid with
  | ignored | lost | refused | targetRefused | commanded | resumed | undecided | ended =>
    exact ⟨h.inv, .refl _⟩
  | @submitted request now intent ledger hOk =>
    have hInv := store.getOrCreate_inv request now h.inv
    rw [hOk] at hInv
    refine ⟨hInv, ?_⟩
    obtain ⟨_, _, ⟨rfl, _⟩ | ⟨hRows, _⟩⟩ := store.getOrCreate_ok h.inv hOk
    · exact .refl _
    · change Kept desk.rows (store.intents ledger)
      rw [hRows]
      exact kept_append _ _
  | @recorded i call result now intent ledger hCall hPhase hOk =>
    have hInv := store.mark_inv call.intent.intentId result now h.inv
    rw [hOk] at hInv
    refine ⟨hInv, ?_⟩
    obtain ⟨row, hRow, hId, hSame, _, hRows⟩ := store.mark_ok h.inv hOk
    change Kept desk.rows (store.intents ledger)
    rw [hRows, ← hId]
    exact kept_committed (store.coherent h.inv) hRow hSame now

theorem calls_finish {desk : Desk codec store} {rows : List AdmissionDecisionIntent} {i : Nat}
    (h : ∀ call ∈ desk.waiting, call.Backed codec rows) :
    ∀ call ∈ desk.waiting.eraseIdx i, call.Backed codec rows :=
  fun call hCall => h call (List.mem_of_mem_eraseIdx hCall)

theorem calls_proceed {desk : Desk codec store} {rows : List AdmissionDecisionIntent} {i : Nat}
    {next : Call} (h : ∀ call ∈ desk.waiting, call.Backed codec rows)
    (hNext : next.Backed codec rows) :
    ∀ call ∈ desk.waiting.set i next, call.Backed codec rows := by
  intro call hCall
  rcases List.mem_or_eq_of_mem_set hCall with hOld | rfl
  · exact h call hOld
  · exact hNext

theorem backed_getElem {desk : Desk codec store} (h : desk.Valid) {i : Nat} {call : Call}
    (hCall : desk.waiting[i]? = some call) : call.Backed codec desk.rows :=
  h.calls call (List.mem_of_getElem? hCall)

theorem backed_submitted {desk : Desk codec store} (h : desk.Valid) {request : DecisionRequest}
    {now : Int} {intent : AdmissionDecisionIntent} {ledger : store.σ}
    (hOk : store.getOrCreate request now desk.ledger = (.ok intent, ledger)) :
    Call.Backed codec (store.intents ledger) ⟨request, intent.result, intent, .target⟩ := by
  have hInv := store.getOrCreate_inv request now h.inv
  rw [hOk] at hInv
  obtain ⟨hId, _, hStored⟩ := store.getOrCreate_ok h.inv hOk
  have hMem : intent ∈ store.intents ledger := by
    rcases hStored with ⟨rfl, hMem⟩ | ⟨hRows, _⟩
    · exact hMem
    · rw [hRows]
      exact List.mem_append_right _ List.mem_cons_self
  exact ⟨⟨intent, hMem, rfl, fun _ hResult => hResult⟩, hId,
    (store.coherent hInv).checkpoint intent hMem, fun _ hResult => hResult, nofun, nofun⟩

theorem backed_recorded {desk : Desk codec store} (h : desk.Valid) {i : Nat} {call : Call}
    {result : DecideEnrollmentResult} {now : Int} {intent : AdmissionDecisionIntent}
    {ledger : store.σ} (hCall : desk.waiting[i]? = some call) (hPhase : call.phase = .decide)
    (hOk : store.markDecisionCommitted call.intent.intentId result now desk.ledger =
      (.ok intent, ledger)) :
    Call.Backed codec (store.intents ledger) { call with intent, phase := .recovery } := by
  have hBacked := backed_getElem h hCall
  obtain ⟨row, hRow, hId, _, rfl, hRows⟩ := store.mark_ok h.inv hOk
  refine ⟨⟨committed result now row, ?_, rfl, fun _ hResult => hResult⟩, ?_, ?_, ?_, ?_, nofun⟩
  · rw [hRows]
    exact mem_updateWhere.mpr ⟨row, hRow, by simp [hId]⟩
  · exact hId.trans hBacked.intentId
  · simp [committed]
  · intro known hKnown
    have hResult := hBacked.stored known hKnown
    rw [hBacked.unrecorded hPhase] at hResult
    cases hResult
  · intro _
    rfl

theorem valid_did {desk next : Desk codec store} {event : DecisionEvent} (h : desk.Valid)
    (hDid : desk.Did event next) : next.Valid := by
  obtain ⟨hInv, hKept⟩ := kept_did h hDid
  have hCalls : ∀ call ∈ desk.waiting, call.Backed codec next.rows :=
    fun call hCall => (h.calls call hCall).mono hKept
  have hSent : ∀ command ∈ desk.sent, ∃ row ∈ next.rows,
      row.intentId = codec.intentIdOf command.request ∧ row.commandId = command.commandId := by
    intro command hCommand
    obtain ⟨row, hRow, hId, hCommandId⟩ := h.sent command hCommand
    obtain ⟨later, hLater, hFrozen, _⟩ := hKept row hRow
    exact ⟨later, hLater, (intentId_of_frozen hFrozen).trans hId,
      (commandId_of_frozen hFrozen).trans hCommandId⟩
  cases hDid with
  | ignored => exact h
  | lost | targetRefused | undecided | ended => exact ⟨hInv, calls_finish hCalls, hSent⟩
  | refused => exact ⟨hInv, hCalls, hSent⟩
  | submitted hOk =>
    refine ⟨hInv, ?_, hSent⟩
    intro call hCall
    rcases List.mem_append.mp hCall with hOld | hNew
    · exact hCalls call hOld
    · rw [List.mem_singleton.mp hNew]
      exact backed_submitted h hOk
  | @commanded i call answer hCall hPhase hNone =>
    have hBacked := backed_getElem h hCall
    refine ⟨hInv, calls_proceed hCalls ?_, ?_⟩
    · exact ⟨hBacked.row, hBacked.intentId, hBacked.checkpoint, hBacked.stored, nofun,
        fun _ => hNone⟩
    · intro command hCommand
      rcases List.mem_append.mp hCommand with hOld | hNew
      · exact hSent command hOld
      · rw [List.mem_singleton.mp hNew]
        obtain ⟨row, hRow, hFrozen, _⟩ := hBacked.row
        exact ⟨row, hRow, (intentId_of_frozen hFrozen).trans hBacked.intentId,
          commandId_of_frozen hFrozen⟩
  | @resumed i call answer hCall hPhase hSome =>
    have hBacked := backed_getElem h hCall
    refine ⟨hInv, calls_proceed hCalls ?_, hSent⟩
    exact ⟨hBacked.row, hBacked.intentId, hBacked.checkpoint, hBacked.stored, fun _ => hSome,
      nofun⟩
  | recorded hCall hPhase hOk =>
    exact ⟨hInv, calls_proceed hCalls (backed_recorded h hCall hPhase hOk), hSent⟩

theorem valid_opened (store : DecisionStore codec) : (opened store).Valid := by
  refine ⟨store.inv_empty, ?_, ?_⟩
  · intro call hCall
    cases hCall
  · intro command hCommand
    cases hCommand

theorem valid_after (store : DecisionStore codec) (events : List DecisionEvent) :
    (after store events).Valid :=
  run_invariant (fun desk event h => valid_did h (desk.step_did event)) (valid_opened store) events

/-! ## Repeats that do not overlap -/

structure Shows (request : DecisionRequest) (result : DecideEnrollmentResult)
    (recovery : EnrollmentRecoveryProjection) : Prop where
  domain : recovery.proposal.requestedOwnerDomainId = request.decision.targetOwnerDomainId
  manifest : recovery.proposal.manifestRef = request.decision.reviewedManifestRef
  decision : ∃ decision, recovery.approvalDecision = some decision ∧
    decision.answers request = true ∧ decision.decisionId = result.decisionId
  decidedBy : result.decidedBy = request.actor
  decided : result.decision = request.decision.decision

/-- The Proposal waits for the review that the request made, or for the handoff or
the acknowledgement of what was approved. -/
def Recoverable (request : DecisionRequest) (proposal : EnrollmentProposal) : Prop :=
  proposal.state = .pendingReview ∧
      proposal.proposalRevision = request.decision.expectedProposalRevision ∨
    proposal.state = .approvedAwaitingHandoff ∨ proposal.state = .grantDelivered

/-- A request is not repeated while a call of it is in flight, and to a call that
began with a stored result Hub shows its Decision, first in a recoverable phase. -/
def Orderly (desk : Desk codec store) : DecisionEvent → Prop
  | .submit request _ =>
    ∀ call ∈ desk.waiting, codec.intentIdOf call.request ≠ codec.intentIdOf request
  | .recovered i answer =>
    ∀ call result, desk.waiting[i]? = some call → call.stored = some result →
      ∃ recovery, answer = .ok recovery ∧ Shows call.request result recovery ∧
        (call.phase = .target → Recoverable call.request recovery.proposal)
  | .decided .. | .lost _ => True

theorem validateDecisionTarget_iff {request : DecisionRequest} {result : DecideEnrollmentResult}
    {recovery : EnrollmentRecoveryProjection} (h : Shows request result recovery) :
    validateDecisionTarget request recovery = .ok () ↔ Recoverable request recovery.proposal := by
  obtain ⟨decision, hDecision, hAnswers, _⟩ := h.decision
  have hAny : recovery.approvalDecision.any (fun committed => committed.answers request) = true := by
    rw [hDecision]
    exact hAnswers
  unfold validateDecisionTarget Recoverable
  rw [if_neg (by simp [h.domain, h.manifest])]
  split
  · rename_i hPending
    split
    · rename_i hRevision
      simp [hPending, hRevision]
    · rename_i hRevision
      simp [hPending, not_not.mp hRevision]
  · rename_i hPending
    split
    · rename_i hState
      simp [hState.1]
    · rename_i hState
      have hOther : ¬ (recovery.proposal.state = .approvedAwaitingHandoff ∨
          recovery.proposal.state = .grantDelivered) := fun hPhase => hState ⟨hPhase, hAny⟩
      simp [hPending, hOther]

theorem validateCommittedDecision_shown {request : DecisionRequest}
    {result : DecideEnrollmentResult} {recovery : EnrollmentRecoveryProjection}
    (h : Shows request result recovery) :
    validateCommittedDecision request (some result) recovery = .ok () := by
  obtain ⟨decision, hDecision, hAnswers, hId⟩ := h.decision
  rw [ApprovalDecision.answers, decide_eq_true_iff] at hAnswers
  obtain ⟨_, hActor, hSame, hDomain, hOwner, _⟩ := hAnswers
  simp [validateCommittedDecision, hDecision, hId, h.decidedBy, h.decided, hActor, hSame, hDomain,
    hOwner]

theorem targetRecovered_iff {desk : Desk codec store} {i : Nat} {call : Call}
    {result : DecideEnrollmentResult} {recovery : EnrollmentRecoveryProjection}
    (hResult : call.intent.result = some result) (hShows : Shows call.request result recovery) :
    desk.targetRecovered i call (.ok recovery) = desk.proceed i { call with phase := .recovery } ↔
      Recoverable call.request recovery.proposal := by
  rw [← validateDecisionTarget_iff hShows]
  unfold targetRecovered
  simp only [Except.bind]
  constructor
  · intro hGoes
    split at hGoes
    · have hLonger := congrArg (fun later : Desk codec store => later.returned.length) hGoes
      simp [finish, proceed] at hLonger
    · rename_i hOk
      exact hOk
  · intro hOk
    rw [hOk]
    simp [hResult]

structure Current (desk : Desk codec store) : Prop where
  single : (desk.waiting.map fun call => codec.intentIdOf call.request).Nodup
  fresh : ∀ call ∈ desk.waiting, ∀ row ∈ desk.rows, row.intentId = call.intent.intentId →
    row.result = call.intent.result

def Untouched (before after : List AdmissionDecisionIntent) : Prop :=
  ∀ row ∈ before, row.result.isSome = true → row ∈ after

theorem nodup_set {calls : List Call} {i : Nat} {call next : Call}
    (h : (calls.map fun call => codec.intentIdOf call.request).Nodup)
    (hCall : calls[i]? = some call) (hRequest : next.request = call.request) :
    ((calls.set i next).map fun call => codec.intentIdOf call.request).Nodup := by
  have hSame : (calls.set i next).map (fun call => codec.intentIdOf call.request) =
      calls.map fun call => codec.intentIdOf call.request := by
    apply List.ext_getElem?
    intro j
    rw [List.map_set, List.getElem?_set]
    split
    · rename_i hIndex
      subst hIndex
      obtain ⟨hLength, hAt⟩ := List.getElem?_eq_some_iff.mp hCall
      simp [hLength, hRequest, hAt]
    · rfl
  rw [hSame]
  exact h

theorem id_ne_of_index_ne {calls : List Call} {i j : Nat} {call other : Call}
    (h : (calls.map fun call => codec.intentIdOf call.request).Nodup)
    (hCall : calls[i]? = some call) (hOther : calls[j]? = some other) (hNe : j ≠ i) :
    codec.intentIdOf other.request ≠ codec.intentIdOf call.request := by
  intro hSame
  obtain ⟨hI, _⟩ := List.getElem?_eq_some_iff.mp hCall
  obtain ⟨hJ, _⟩ := List.getElem?_eq_some_iff.mp hOther
  have hDistinct := List.nodup_iff_getElem?_ne_getElem?.mp h
  rcases Nat.lt_or_gt_of_ne hNe with hLt | hGt
  · exact hDistinct j i hLt (by simpa using hI) (by simp [hCall, hOther, hSame])
  · exact hDistinct i j hGt (by simpa using hJ) (by simp [hCall, hOther, hSame])

theorem current_finish {desk : Desk codec store} (h : desk.Current) (i : Nat) :
    ((desk.waiting.eraseIdx i).map fun call => codec.intentIdOf call.request).Nodup ∧
      ∀ call ∈ desk.waiting.eraseIdx i, ∀ row ∈ desk.rows, row.intentId = call.intent.intentId →
        row.result = call.intent.result :=
  ⟨h.single.sublist ((List.eraseIdx_sublist desk.waiting i).map _),
    fun call hCall => h.fresh call (List.mem_of_mem_eraseIdx hCall)⟩

theorem current_proceed {desk : Desk codec store} (h : desk.Current) {i : Nat} {call : Call}
    (hCall : desk.waiting[i]? = some call) (phase : Phase) :
    (desk.proceed i { call with phase }).Current := by
  refine ⟨?_, ?_⟩
  · exact nodup_set h.single hCall rfl
  · intro other hOther
    rcases List.mem_or_eq_of_mem_set hOther with hOld | rfl
    · exact h.fresh other hOld
    · exact h.fresh call (List.mem_of_getElem? hCall)

theorem current_submitted {desk : Desk codec store} (hValid : desk.Valid) (h : desk.Current)
    {request : DecisionRequest} {now : Int} {intent : AdmissionDecisionIntent} {ledger : store.σ}
    (hOrderly : desk.Orderly (.submit request now))
    (hOk : store.getOrCreate request now desk.ledger = (.ok intent, ledger)) :
    Current { desk with
      ledger, waiting := desk.waiting ++ [⟨request, intent.result, intent, .target⟩] } ∧
    Untouched desk.rows (store.intents ledger) := by
  have hNext := store.getOrCreate_inv request now hValid.inv
  rw [hOk] at hNext
  obtain ⟨hId, _, hStored⟩ := store.getOrCreate_ok hValid.inv hOk
  have hMem : intent ∈ store.intents ledger := by
    rcases hStored with ⟨rfl, hMem⟩ | ⟨hRows, _⟩
    · exact hMem
    · rw [hRows]
      exact List.mem_append_right _ List.mem_cons_self
  have hOld : ∀ row ∈ store.intents ledger, row ∈ desk.rows ∨ row = intent := by
    intro row hRow
    rcases hStored with ⟨rfl, _⟩ | ⟨hRows, _⟩
    · exact .inl hRow
    · rw [hRows] at hRow
      exact (List.mem_append.mp hRow).imp_right List.mem_singleton.mp
  refine ⟨⟨?_, ?_⟩, ?_⟩
  · change ((desk.waiting ++ [_]).map _).Nodup
    exact nodup_append_row h.single hOrderly
  · intro call hCall row hRow hSame
    rcases List.mem_append.mp hCall with hBefore | hNew
    · rcases hOld row hRow with hRowBefore | rfl
      · exact h.fresh call hBefore row hRowBefore hSame
      · have hCallId := (hValid.calls call hBefore).intentId
        exact absurd (hCallId.symm.trans (hSame.symm.trans hId)) (hOrderly call hBefore)
    · rw [List.mem_singleton.mp hNew] at hSame ⊢
      rw [List.inj_on_of_nodup_map (store.coherent hNext).oneRow hRow hMem hSame]
  · intro row hRow _
    rcases hStored with ⟨rfl, _⟩ | ⟨hRows, _⟩
    · exact hRow
    · rw [hRows]
      exact List.mem_append_left _ hRow

theorem current_recorded {desk : Desk codec store} (hValid : desk.Valid) (h : desk.Current)
    {i : Nat} {call : Call} {result : DecideEnrollmentResult} {now : Int}
    {intent : AdmissionDecisionIntent} {ledger : store.σ}
    (hCall : desk.waiting[i]? = some call) (hPhase : call.phase = .decide)
    (hOk : store.markDecisionCommitted call.intent.intentId result now desk.ledger =
      (.ok intent, ledger)) :
    Current ({ desk with ledger }.proceed i { call with intent, phase := .recovery }) ∧
    Untouched desk.rows (store.intents ledger) := by
  have hNext := store.mark_inv call.intent.intentId result now hValid.inv
  rw [hOk] at hNext
  have hBacked := backed_getElem hValid hCall
  obtain ⟨row, hRow, hId, _, rfl, hRows⟩ := store.mark_ok hValid.inv hOk
  have hMem : committed result now row ∈ store.intents ledger := by
    rw [hRows]
    exact mem_updateWhere.mpr ⟨row, hRow, by simp [hId]⟩
  refine ⟨⟨?_, ?_⟩, ?_⟩
  · exact nodup_set h.single hCall rfl
  · intro other hOther written hWritten hSame
    obtain ⟨j, hJ⟩ := List.mem_iff_getElem?.mp hOther
    change (desk.waiting.set i _)[j]? = some other at hJ
    rw [List.getElem?_set] at hJ
    split at hJ
    · split at hJ
      · cases hJ
        rw [List.inj_on_of_nodup_map (store.coherent hNext).oneRow hWritten hMem
          (hSame.trans rfl)]
      · cases hJ
    · rename_i hIndex
      have hIds := id_ne_of_index_ne h.single hCall hJ (Ne.symm hIndex)
      rw [← (backed_getElem hValid hJ).intentId, ← hBacked.intentId] at hIds
      change written ∈ store.intents ledger at hWritten
      rw [hRows] at hWritten
      obtain ⟨old, hOld, rfl⟩ := mem_updateWhere.mp hWritten
      split at hSame
      · rename_i hMarked
        exact absurd (hSame.symm.trans (by simpa [committed] using hMarked)) hIds
      · rename_i hOther
        rw [if_neg hOther]
        exact h.fresh other (List.mem_of_getElem? hJ) old hOld hSame
  · intro stored hStored hResult
    rw [hRows]
    refine mem_updateWhere.mpr ⟨stored, hStored, ?_⟩
    split
    · rename_i hMarked
      have hNone := h.fresh call (List.mem_of_getElem? hCall) stored hStored (by simpa using hMarked)
      rw [hNone, hBacked.unrecorded hPhase] at hResult
      cases hResult
    · rfl

theorem current_did {desk next : Desk codec store} {event : DecisionEvent} (hValid : desk.Valid)
    (h : desk.Current) (hOrderly : desk.Orderly event) (hDid : desk.Did event next) :
    next.Current ∧ Untouched desk.rows next.rows := by
  have hSame : Untouched desk.rows desk.rows := fun _ hRow _ => hRow
  cases hDid with
  | ignored | refused => exact ⟨⟨h.single, h.fresh⟩, hSame⟩
  | lost i => exact ⟨⟨(current_finish h i).1, (current_finish h i).2⟩, hSame⟩
  | @targetRefused i => exact ⟨⟨(current_finish h i).1, (current_finish h i).2⟩, hSame⟩
  | @undecided i => exact ⟨⟨(current_finish h i).1, (current_finish h i).2⟩, hSame⟩
  | @ended i => exact ⟨⟨(current_finish h i).1, (current_finish h i).2⟩, hSame⟩
  | commanded hCall =>
    have hNext := current_proceed h hCall .decide
    exact ⟨⟨hNext.single, hNext.fresh⟩, hSame⟩
  | resumed hCall => exact ⟨current_proceed h hCall .recovery, hSame⟩
  | submitted hOk => exact current_submitted hValid h hOrderly hOk
  | recorded hCall hPhase hOk => exact current_recorded hValid h hCall hPhase hOk

/-! ## What a repeated call returns -/

def ReturnsStored (entry : Returned) : Prop :=
  ∀ result, entry.stored = some result →
    ∃ reply, entry.outcome = .ok reply ∧ reply.decisionResult = some result ∧
      reply.checkpoint = .decisionCommitted

theorem outcome_stored {desk : Desk codec store} {i : Nat} {call : Call}
    {answer : Except AuthorityFailure EnrollmentRecoveryProjection}
    (hBacked : call.Backed codec desk.rows) (hCall : desk.waiting[i]? = some call)
    (hOrderly : desk.Orderly (.recovered i answer)) {result : DecideEnrollmentResult}
    (hStored : call.stored = some result) :
    ∃ reply, call.outcome answer = .ok reply ∧ reply.decisionResult = some result ∧
      reply.checkpoint = .decisionCommitted := by
  obtain ⟨recovery, rfl, hShows, _⟩ := hOrderly call result hCall hStored
  have hResult := hBacked.stored result hStored
  have hCheckpoint : call.intent.checkpoint = .decisionCommitted :=
    hBacked.checkpoint.mpr (by rw [hResult]; rfl)
  simp only [Call.outcome, hResult, validateCommittedDecision_shown hShows]
  simp [workflowResult, hResult, hCheckpoint]

theorem returned_did {desk next : Desk codec store} {event : DecisionEvent} (hValid : desk.Valid)
    (hOrderly : desk.Orderly event) (hDid : desk.Did event next)
    (h : ∀ entry ∈ desk.returned, ReturnsStored entry) :
    ∀ entry ∈ next.returned, ReturnsStored entry := by
  have hEntry : ∀ entry, ReturnsStored entry →
      ∀ other ∈ desk.returned ++ [entry], ReturnsStored other := by
    intro entry hNew other hOther
    rcases List.mem_append.mp hOther with hOld | hLast
    · exact h other hOld
    · rw [List.mem_singleton.mp hLast]
      exact hNew
  cases hDid with
  | ignored | lost | submitted | commanded | resumed | recorded => exact h
  | refused => exact hEntry _ fun _ hStored => by cases hStored
  | @targetRefused i call failure answer hCall hPhase hFailure =>
    refine hEntry _ fun result hStored => ?_
    obtain ⟨recovery, rfl, hShows, hRecoverable⟩ := hOrderly call result hCall hStored
    rw [Except.bind, (validateDecisionTarget_iff hShows).mpr (hRecoverable hPhase)] at hFailure
    cases hFailure
  | undecided hCall hPhase =>
    refine hEntry _ fun result hStored => ?_
    have hBacked := backed_getElem hValid hCall
    have hResult := hBacked.stored result hStored
    rw [hBacked.unrecorded hPhase] at hResult
    cases hResult
  | ended hCall =>
    exact hEntry _ fun result hStored =>
      outcome_stored (backed_getElem hValid hCall) hCall hOrderly hStored

theorem waiting_submitted {P : DecisionRequest → Prop} (desk : Desk codec store)
    (h : ∀ call ∈ desk.waiting, P call.request) {events : List DecisionEvent}
    (hEvents : ∀ request now, .submit request now ∈ events → P request) :
    ∀ call ∈ (run step desk events).waiting, P call.request := by
  refine Meets.run_invariant (P := fun later : Desk codec store =>
    ∀ call ∈ later.waiting, P call.request) ?_ h
    (Meets.of_mem (Q := fun event => ∀ request now, event = .submit request now → P request) desk
      fun event hEvent request now hSubmit => hEvents request now (hSubmit ▸ hEvent))
  intro later event hSubmit hBefore
  have hSet : ∀ {i : Nat} {call next : Call}, later.waiting[i]? = some call →
      next.request = call.request → ∀ other ∈ later.waiting.set i next, P other.request := by
    intro i call next hCall hRequest other hOther
    rcases List.mem_or_eq_of_mem_set hOther with hOld | rfl
    · exact hBefore other hOld
    · rw [hRequest]
      exact hBefore call (List.mem_of_getElem? hCall)
  have hDid := later.step_did event
  generalize later.step event = next at hDid
  cases hDid with
  | ignored | refused => exact hBefore
  | lost | targetRefused | undecided | ended =>
    exact fun call hCall => hBefore call (List.mem_of_mem_eraseIdx hCall)
  | submitted =>
    intro call hCall
    rcases List.mem_append.mp hCall with hOld | hNew
    · exact hBefore call hOld
    · rw [List.mem_singleton.mp hNew]
      exact hSubmit _ _ rfl
  | commanded hCall => exact hSet hCall rfl
  | resumed hCall => exact hSet hCall rfl
  | recorded hCall => exact hSet hCall rfl

structure Replays (store : DecisionStore codec) (events : List DecisionEvent) : Prop where
  /-- The commands sent for one request have one id. -/
  oneCommand : ∀ first ∈ (after store events).sent, ∀ second ∈ (after store events).sent,
    first.request.requestId = second.request.requestId →
    first.request.decision.targetOwnerDomainId = second.request.decision.targetOwnerDomainId →
      first.commandId = second.commandId
  /-- A request stored with this content goes on with the stored intent. -/
  resumes : ∀ before request now rest, events = before ++ .submit request now :: rest →
    ∀ row ∈ (after store before).rows,
      requestKey row = requestKey (codec.newIntent request now) →
      sameIntent row (codec.newIntent request now) = true →
        after store (before ++ [.submit request now]) =
          { after store before with
            waiting := (after store before).waiting ++ [⟨request, row.result, row, .target⟩] }
  kept : ∀ before more rest, events = before ++ more ++ rest →
    Kept (after store before).rows (after store (before ++ more)).rows
  /-- A row that has its result is not written again. -/
  writtenOnce : ∀ before more rest, events = before ++ more ++ rest →
    Untouched (after store before).rows (after store (before ++ more)).rows
  checkpoint : ∀ before rest, events = before ++ rest → Coherent (after store before).rows
  /-- A call that began with a stored result and has ended has returned it. -/
  returned : ∀ entry ∈ (after store events).returned, ReturnsStored entry

theorem current_opened (store : DecisionStore codec) : (opened store).Current := by
  refine ⟨List.nodup_nil, ?_⟩
  intro call hCall
  cases hCall

theorem kept_run {desk : Desk codec store} (h : desk.Valid) (events : List DecisionEvent) :
    Kept desk.rows (run step desk events).rows := by
  refine (run_invariant (P := fun later : Desk codec store => later.Valid ∧ Kept desk.rows later.rows)
    ?_ ⟨h, .refl _⟩ events).2
  intro later event hInv
  exact ⟨valid_did hInv.1 (later.step_did event),
    hInv.2.trans (kept_did hInv.1 (later.step_did event)).2⟩

theorem untouched_run {desk : Desk codec store} (h : desk.Valid) (hCurrent : desk.Current)
    {events : List DecisionEvent} (hOrderly : Meets step Orderly desk events) :
    Untouched desk.rows (run step desk events).rows ∧ (run step desk events).Current := by
  refine (Meets.run_invariant (P := fun later : Desk codec store =>
    later.Valid ∧ Untouched desk.rows later.rows ∧ later.Current) ?_
    ⟨h, fun _ hRow _ => hRow, hCurrent⟩ hOrderly).2
  rintro later event hEvent ⟨hValid, hSame, hNow⟩
  obtain ⟨hNext, hStep⟩ := current_did hValid hNow hEvent (later.step_did event)
  exact ⟨valid_did hValid (later.step_did event),
    fun row hRow hResult => hStep row (hSame row hRow hResult) hResult, hNext⟩

theorem submit_again {desk : Desk codec store} (h : desk.Valid) {request : DecisionRequest}
    {now : Int} {row : AdmissionDecisionIntent} (hRow : row ∈ desk.rows)
    (hKey : requestKey row = requestKey (codec.newIntent request now))
    (hSame : sameIntent row (codec.newIntent request now) = true) :
    desk.step (.submit request now) =
      { desk with waiting := desk.waiting ++ [⟨request, row.result, row, .target⟩] } := by
  simp only [step, submit, store.getOrCreate_again h.inv hRow hKey hSame]

theorem oneCommand_of_valid {desk : Desk codec store} (h : desk.Valid) {first second : SentCommand}
    (hFirst : first ∈ desk.sent) (hSecond : second ∈ desk.sent)
    (hId : codec.intentIdOf first.request = codec.intentIdOf second.request) :
    first.commandId = second.commandId := by
  obtain ⟨row, hRow, hRowId, hCommand⟩ := h.sent first hFirst
  obtain ⟨other, hOther, hOtherId, hOtherCommand⟩ := h.sent second hSecond
  have hSame : row = other := List.inj_on_of_nodup_map (store.coherent h.inv).oneRow hRow hOther
    (hRowId.trans (hId.trans hOtherId.symm))
  rw [← hCommand, ← hOtherCommand, hSame]

theorem returned_run {desk : Desk codec store} (h : desk.Valid)
    (hReturned : ∀ entry ∈ desk.returned, ReturnsStored entry) {events : List DecisionEvent}
    (hOrderly : Meets step Orderly desk events) :
    ∀ entry ∈ (run step desk events).returned, ReturnsStored entry := by
  refine (Meets.run_invariant (P := fun later : Desk codec store =>
    later.Valid ∧ ∀ entry ∈ later.returned, ReturnsStored entry) ?_ ⟨h, hReturned⟩ hOrderly).2
  intro later event hEvent hInv
  exact ⟨valid_did hInv.1 (later.step_did event),
    returned_did hInv.1 hEvent (later.step_did event) hInv.2⟩

theorem after_append (store : DecisionStore codec) (before more : List DecisionEvent) :
    after store (before ++ more) = run step (after store before) more :=
  run_append step (opened store) before more

theorem replays_of_orderly (store : DecisionStore codec) {events : List DecisionEvent}
    (hOrderly : Meets step Orderly (opened store) events) : Replays store events := by
  refine ⟨?_, ?_, ?_, ?_, ?_, ?_⟩
  · intro first hFirst second hSecond hRequest hDomain
    refine oneCommand_of_valid (valid_after store events) hFirst hSecond ?_
    rw [Codec.intentIdOf, Codec.intentIdOf, hRequest, hDomain]
  · intro before request now rest _ row hRow hKey hSame
    rw [after_append]
    exact submit_again (valid_after store before) hRow hKey hSame
  · intro before more rest _
    rw [after_append]
    exact kept_run (valid_after store before) more
  · intro before more rest hSplit
    rw [hSplit, meets_append, meets_append] at hOrderly
    obtain ⟨⟨hBefore, hMore⟩, _⟩ := hOrderly
    have hCurrent : (after store before).Current :=
      (untouched_run (valid_opened store) (current_opened store) hBefore).2
    rw [after_append]
    exact (untouched_run (valid_after store before) hCurrent hMore).1
  · intro before rest _
    exact store.coherent (valid_after store before).inv
  · refine returned_run (valid_opened store) ?_ hOrderly
    intro entry hEntry
    cases hEntry

end Desk

/-- Over every run whose events are orderly, either store has a request decided by one
command and one result, which every repeated call that ends returns. -/
theorem admission_decisions_replay (codec : Codec) (events : List DecisionEvent) :
    (Meets Desk.step Desk.Orderly (Desk.opened (sqliteDecisions codec)) events →
      Desk.Replays (sqliteDecisions codec) events) ∧
    (Meets Desk.step Desk.Orderly (Desk.opened (memoryDecisions codec)) events →
      Desk.Replays (memoryDecisions codec) events) :=
  ⟨Desk.replays_of_orderly (sqliteDecisions codec), Desk.replays_of_orderly (memoryDecisions codec)⟩

namespace Acknowledged

def codec : Codec where
  uuid5 _ name := name
  sha256 text := text
  canonicalActor actor := actor.principalId
  canonicalDecision decision := decision.enrollmentId

def actor : ControllerActorRef where
  principalId := "ectrl-0123456789abcdef0123"
  ownerDomainId := "owner-domain-a"
  grantedScopes := ["device.read", "device.claim.approve"]
  authenticationStrength := "software"

def manifest : ManifestRef := ⟨"manifest-a", 3, "sha256:a"⟩

def request : DecisionRequest where
  requestId := "decision-1"
  actor := actor
  decision :=
    { enrollmentId := "enrollment-a", expectedProposalRevision := 7, decision := .approve
      targetOwnerDomainId := "owner-domain-a", targetBusinessOwnerId := "owner_account_a"
      reviewedManifestRef := manifest }

def result : DecideEnrollmentResult := ⟨"decision-a", .approve, actor, 1, 8⟩

def decision : ApprovalDecision where
  decisionId := "decision-a"
  enrollmentId := "enrollment-a"
  decision := .approve
  actor := actor
  targetOwnerDomainId := "owner-domain-a"
  targetBusinessOwnerId := "owner_account_a"
  reviewedManifestRef := manifest
  expectedProposalRevision := 7

def pending : EnrollmentRecoveryProjection := ⟨⟨7, .pendingReview, "owner-domain-a", manifest⟩, none⟩

def decidedIn (state : EnrollmentProposalState) : EnrollmentRecoveryProjection :=
  ⟨⟨8, state, "owner-domain-a", manifest⟩, some decision⟩

theorem shows_decidedIn (state : EnrollmentProposalState) :
    Desk.Shows request result (decidedIn state) :=
  ⟨rfl, rfl, ⟨decision, rfl, by decide, rfl⟩, rfl, rfl⟩

/-- The first call is lost behind its command, the second records the result and the
third finds it, in the given phase of the admission. -/
def repeated (state : EnrollmentProposalState) : List DecisionEvent :=
  [.submit request 0, .recovered 0 (.ok pending), .lost 0, .submit request 1,
   .recovered 0 (.ok (decidedIn .approvedAwaitingHandoff)), .decided 0 (.ok result) 2,
   .recovered 0 (.ok (decidedIn .approvedAwaitingHandoff)), .submit request 3,
   .recovered 0 (.ok (decidedIn state)), .recovered 0 (.ok (decidedIn state))]

def repliesIn (state : EnrollmentProposalState) : List (Option String × Option String) :=
  (Desk.after (sqliteDecisions codec) (repeated state)).returned.map fun entry =>
    (entry.stored.map DecideEnrollmentResult.decisionId,
      entry.outcome.toOption.bind fun reply =>
        reply.decisionResult.map DecideEnrollmentResult.decisionId)

theorem repliesIn_acknowledged :
    repliesIn .grantAcknowledged = [(none, some "decision-a"), (some "decision-a", none)] := by
  decide +kernel

/-- Hub shows the committed Decision all along, and the repeated call is turned away
with the result in the ledger. -/
theorem acknowledged_decision_turned_away :
    (∀ state, Desk.Shows request result (decidedIn state)) ∧
    ¬ Desk.Replays (sqliteDecisions codec) (repeated .grantAcknowledged) := by
  refine ⟨shows_decidedIn, fun hReplays => ?_⟩
  have hMem : (some "decision-a", none) ∈ repliesIn .grantAcknowledged := by
    rw [repliesIn_acknowledged]
    decide
  obtain ⟨entry, hEntry, hReply⟩ := List.mem_map.mp hMem
  obtain ⟨hStored, hOutcome⟩ := Prod.mk.inj hReply
  obtain ⟨stored, hSome, _⟩ := Option.map_eq_some_iff.mp hStored
  obtain ⟨reply, hOk, hResult, _⟩ := hReplays.returned entry hEntry stored hSome
  rw [hOk] at hOutcome
  simp [Except.toOption, hResult] at hOutcome

def foundBefore (store : DecisionStore codec) : List (List (Option DecideEnrollmentResult)) :=
  (List.range 10).map fun n =>
    (Desk.after store ((repeated .grantDelivered).take n)).waiting.map Call.stored

def found : List (List (Option DecideEnrollmentResult)) :=
  [[], [none], [none], [], [none], [none], [none], [], [some result], [some result]]

theorem foundBefore_sqlite : foundBefore (sqliteDecisions codec) = found := by decide +kernel

theorem foundBefore_memory : foundBefore (memoryDecisions codec) = found := by decide +kernel

theorem request_after (store : DecisionStore codec) (n : Nat) :
    ∀ call ∈ (Desk.after store ((repeated .grantDelivered).take n)).waiting,
      call.request = request := by
  refine Desk.waiting_submitted (P := fun other => other = request) (Desk.opened store) ?_ ?_
  · intro call hCall
    rw [Desk.opened] at hCall
    cases hCall
  · intro other now hSubmit
    have hMem := List.mem_of_mem_take hSubmit
    simp only [repeated, List.mem_cons, DecisionEvent.submit.injEq, reduceCtorEq,
      List.not_mem_nil, false_or, or_false] at hMem
    rcases hMem with ⟨hRequest, _⟩ | ⟨hRequest, _⟩ | ⟨hRequest, _⟩
    · exact hRequest
    · exact hRequest
    · exact hRequest

theorem orderly_submit {store : DecisionStore codec} {desk : Desk codec store}
    (h : desk.waiting.map Call.stored = []) (now : Int) : desk.Orderly (.submit request now) := by
  rw [List.map_eq_nil_iff] at h
  intro call hCall
  rw [h] at hCall
  cases hCall

theorem orderly_unstored {store : DecisionStore codec} {desk : Desk codec store}
    (h : desk.waiting.map Call.stored = [none])
    (answer : Except AuthorityFailure EnrollmentRecoveryProjection) :
    desk.Orderly (.recovered 0 answer) := by
  intro call stored hCall hStored
  have hHead := congrArg (fun results => results[0]?) h
  simp [hCall, hStored] at hHead

theorem orderly_stored {store : DecisionStore codec} {desk : Desk codec store}
    (h : desk.waiting.map Call.stored = [some result])
    (hRequest : ∀ call ∈ desk.waiting, call.request = request) :
    desk.Orderly (.recovered 0 (.ok (decidedIn .grantDelivered))) := by
  intro call stored hCall hStored
  have hHead := congrArg (fun results => results[0]?) h
  have hSame : stored = result := by simpa [hCall, hStored] using hHead
  rw [hSame, hRequest call (List.mem_of_getElem? hCall)]
  exact ⟨decidedIn .grantDelivered, rfl, shows_decidedIn .grantDelivered,
    fun _ => .inr (.inr rfl)⟩

theorem orderly_delivered {store : DecisionStore codec} (hFound : foundBefore store = found) :
    Meets Desk.step Desk.Orderly (Desk.opened store) (repeated .grantDelivered) := by
  have hAt : ∀ n stored, found[n]? = some stored →
      (Desk.after store ((repeated .grantDelivered).take n)).waiting.map Call.stored = stored := by
    intro n stored hStored
    rw [← hFound, foundBefore, List.getElem?_map] at hStored
    obtain ⟨m, hM, rfl⟩ := Option.map_eq_some_iff.mp hStored
    obtain ⟨_, rfl⟩ := List.getElem?_eq_some_iff.mp hM
    rw [List.getElem_range]
  have hRequest := request_after store
  exact ⟨orderly_submit (hAt 0 _ rfl) 0, orderly_unstored (hAt 1 _ rfl) _, trivial,
    orderly_submit (hAt 3 _ rfl) 1, orderly_unstored (hAt 4 _ rfl) _, trivial,
    orderly_unstored (hAt 6 _ rfl) _, orderly_submit (hAt 7 _ rfl) 3,
    orderly_stored (hAt 8 _ rfl) (hRequest 8), orderly_stored (hAt 9 _ rfl) (hRequest 9), trivial⟩

theorem admission_decisions_replay_delivered :
    Desk.Replays (sqliteDecisions codec) (repeated .grantDelivered) ∧
    Desk.Replays (memoryDecisions codec) (repeated .grantDelivered) :=
  ⟨(admission_decisions_replay codec (repeated .grantDelivered)).1
      (orderly_delivered foundBefore_sqlite),
    (admission_decisions_replay codec (repeated .grantDelivered)).2
      (orderly_delivered foundBefore_memory)⟩

end Acknowledged

end EidolonAdmin.Admission
