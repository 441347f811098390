import EidolonAdmin.Foundation.Dict
import EidolonAdmin.Foundation.Json
import EidolonAdmin.Removal.Ledger

/-! # The ledger of Enrollment Decisions

`admission_intents.py`: what a Controller asked Admin to submit, and the Hub result
once it was observed. The SQLite store looks a request up by its Owner domain and
id, the store in memory by the intent id derived from the two.
-/

namespace EidolonAdmin.Admission

open Foundation Foundation.Table
open Removal (Digests)

structure ControllerActorRef where
  principalId : String
  ownerDomainId : String
  grantedScopes : List String
  authenticationStrength : String
deriving DecidableEq, Repr

structure ManifestRef where
  manifestId : String
  revision : Nat
  digest : String
deriving DecidableEq, Repr

inductive Decision where
  | approve
  | reject
deriving DecidableEq, Repr

structure DecideEnrollment where
  enrollmentId : String
  expectedProposalRevision : Nat
  decision : Decision
  targetOwnerDomainId : String
  targetBusinessOwnerId : String
  reviewedManifestRef : ManifestRef
  initialAssignmentIntent : Option Json := none

structure DecideEnrollmentResult where
  decisionId : String
  decision : Decision
  decidedBy : ControllerActorRef
  decidedAt : Int
  proposalRevision : Nat
deriving DecidableEq, Repr

/-- `ControllerEnrollmentDecisionIntent`. -/
structure DecisionRequest where
  requestId : String
  actor : ControllerActorRef
  decision : DecideEnrollment

inductive Checkpoint where
  | intentRecorded
  | decisionCommitted
deriving DecidableEq, Repr

structure AdmissionDecisionIntent where
  intentId : String
  ingressRequestId : String
  commandId : String
  correlationId : String
  ownerDomainId : String
  businessOwnerId : String
  enrollmentId : String
  actorJson : String
  actorSha256 : String
  decisionJson : String
  decisionSha256 : String
  checkpoint : Checkpoint
  result : Option DecideEnrollmentResult
  createdAt : Int
  updatedAt : Int
deriving DecidableEq, Repr

structure Codec extends Digests where
  canonicalActor : ControllerActorRef → String
  canonicalDecision : DecideEnrollment → String

inductive LedgerError where
  | requestReused
  | resultChanged
  | intentMissing
  | key (intentId : String)
  | integrity
deriving DecidableEq, Repr

def decisionNamespace : String := "af670012-0805-51bb-b089-3a666e8a70b4"

namespace Codec

variable (codec : Codec)

def decisionIntentId (ownerDomainId requestId : String) : String :=
  "admission-intent-" ++ codec.uuid5 decisionNamespace
    ("eidolon-admission-decision-intent-v1:" ++ ownerDomainId ++ ":" ++ requestId)

def decisionCommandId (intentId enrollmentId : String) : String :=
  "decide-enrollment-" ++ codec.uuid5 decisionNamespace
    ("eidolon-admission-decision-command-v1:" ++ intentId ++ ":" ++ enrollmentId)

def digest (value : String) : String := "sha256:" ++ codec.sha256 value

def intentIdOf (request : DecisionRequest) : String :=
  codec.decisionIntentId request.decision.targetOwnerDomainId request.requestId

/-- `_new_intent`, as the workflow calls it. -/
def newIntent (request : DecisionRequest) (now : Int) : AdmissionDecisionIntent where
  intentId := codec.intentIdOf request
  ingressRequestId := request.requestId
  commandId := codec.decisionCommandId (codec.intentIdOf request) request.decision.enrollmentId
  correlationId := codec.intentIdOf request
  ownerDomainId := request.decision.targetOwnerDomainId
  businessOwnerId := request.decision.targetBusinessOwnerId
  enrollmentId := request.decision.enrollmentId
  actorJson := codec.canonicalActor request.actor
  actorSha256 := codec.digest (codec.canonicalActor request.actor)
  decisionJson := codec.canonicalDecision request.decision
  decisionSha256 := codec.digest (codec.canonicalDecision request.decision)
  checkpoint := .intentRecorded
  result := none
  createdAt := now
  updatedAt := now

end Codec

def sameIntent (existing candidate : AdmissionDecisionIntent) : Bool :=
  existing.businessOwnerId = candidate.businessOwnerId ∧
  existing.enrollmentId = candidate.enrollmentId ∧
  existing.actorSha256 = candidate.actorSha256 ∧
  existing.decisionSha256 = candidate.decisionSha256 ∧
  existing.commandId = candidate.commandId

def committed (result : DecideEnrollmentResult) (now : Int) (intent : AdmissionDecisionIntent) :
    AdmissionDecisionIntent :=
  { intent with checkpoint := .decisionCommitted, result := some result, updatedAt := now }

def changes (result : DecideEnrollmentResult) (intent : AdmissionDecisionIntent) : Bool :=
  intent.result.isSome ∧ intent.result ≠ some result

abbrev requestKey (row : AdmissionDecisionIntent) : String × String :=
  (row.ownerDomainId, row.ingressRequestId)

/-! ## The SQLite store -/

abbrev SqliteLedger := List AdmissionDecisionIntent

namespace SqliteLedger

/-- The primary key and the unique command of the `INSERT`. -/
def accepts (ledger : SqliteLedger) (row : AdmissionDecisionIntent) : Bool :=
  ∀ stored ∈ ledger, stored.intentId ≠ row.intentId ∧ stored.commandId ≠ row.commandId

def getOrCreate (codec : Codec) (request : DecisionRequest) (now : Int) (ledger : SqliteLedger) :
    Except LedgerError AdmissionDecisionIntent × SqliteLedger :=
  match lookup requestKey (requestKey (codec.newIntent request now)) ledger with
  | some existing =>
    if sameIntent existing (codec.newIntent request now) then (.ok existing, ledger)
    else (.error .requestReused, ledger)
  | none =>
    if accepts ledger (codec.newIntent request now) then
      (.ok (codec.newIntent request now), ledger ++ [codec.newIntent request now])
    else (.error .integrity, ledger)

def markDecisionCommitted (intentId : String) (result : DecideEnrollmentResult) (now : Int)
    (ledger : SqliteLedger) : Except LedgerError AdmissionDecisionIntent × SqliteLedger :=
  match lookup AdmissionDecisionIntent.intentId intentId ledger with
  | none => (.error .intentMissing, ledger)
  | some intent =>
    if changes result intent then (.error .resultChanged, ledger)
    else
      (.ok (committed result now intent),
        updateWhere (fun row => row.intentId = intentId) (committed result now) ledger)

end SqliteLedger

/-! ## The store in memory -/

abbrev MemoryLedger := List (String × AdmissionDecisionIntent)

namespace MemoryLedger

def getOrCreate (codec : Codec) (request : DecisionRequest) (now : Int) (values : MemoryLedger) :
    Except LedgerError AdmissionDecisionIntent × MemoryLedger :=
  match Dict.get values (codec.intentIdOf request) with
  | some existing =>
    if sameIntent existing (codec.newIntent request now) then (.ok existing, values)
    else (.error .requestReused, values)
  | none =>
    (.ok (codec.newIntent request now),
      Dict.set values (codec.intentIdOf request) (codec.newIntent request now))

def markDecisionCommitted (intentId : String) (result : DecideEnrollmentResult) (now : Int)
    (values : MemoryLedger) : Except LedgerError AdmissionDecisionIntent × MemoryLedger :=
  match Dict.get values intentId with
  | none => (.error (.key intentId), values)
  | some intent =>
    if changes result intent then (.error .resultChanged, values)
    else
      (.ok (committed result now intent), Dict.set values intentId (committed result now intent))

end MemoryLedger

/-! ## What both stores keep -/

def frozen (row : AdmissionDecisionIntent) : AdmissionDecisionIntent :=
  { row with checkpoint := .intentRecorded, result := none, updatedAt := row.createdAt }

/-- One row for an intent, with the checkpoint of a decision exactly when its result
is stored. -/
structure Coherent (rows : List AdmissionDecisionIntent) : Prop where
  oneRow : (rows.map AdmissionDecisionIntent.intentId).Nodup
  checkpoint : ∀ row ∈ rows, row.checkpoint = .decisionCommitted ↔ row.result.isSome = true

def Kept (before after : List AdmissionDecisionIntent) : Prop :=
  ∀ row ∈ before, ∃ later ∈ after, frozen later = frozen row ∧
    ∀ result, row.result = some result → later.result = some result

theorem Kept.refl (rows : List AdmissionDecisionIntent) : Kept rows rows :=
  fun row hRow => ⟨row, hRow, rfl, fun _ hResult => hResult⟩

theorem Kept.trans {first second third : List AdmissionDecisionIntent} (h : Kept first second)
    (hThird : Kept second third) : Kept first third := by
  intro row hRow
  obtain ⟨later, hLater, hFrozen, hResult⟩ := h row hRow
  obtain ⟨last, hLast, hFrozenLast, hResultLast⟩ := hThird later hLater
  exact ⟨last, hLast, hFrozenLast.trans hFrozen,
    fun result hRow => hResultLast result (hResult result hRow)⟩

theorem intentId_of_frozen {row later : AdmissionDecisionIntent} (h : frozen later = frozen row) :
    later.intentId = row.intentId :=
  (congrArg AdmissionDecisionIntent.intentId h : (frozen later).intentId = (frozen row).intentId)

theorem commandId_of_frozen {row later : AdmissionDecisionIntent} (h : frozen later = frozen row) :
    later.commandId = row.commandId :=
  (congrArg AdmissionDecisionIntent.commandId h : (frozen later).commandId = (frozen row).commandId)

structure DecisionStore (codec : Codec) where
  σ : Type
  empty : σ
  getOrCreate : DecisionRequest → Int → σ → Except LedgerError AdmissionDecisionIntent × σ
  markDecisionCommitted :
    String → DecideEnrollmentResult → Int → σ → Except LedgerError AdmissionDecisionIntent × σ
  intents : σ → List AdmissionDecisionIntent
  Inv : σ → Prop
  inv_empty : Inv empty
  intents_empty : intents empty = []
  coherent : ∀ {s}, Inv s → Coherent (intents s)
  getOrCreate_inv : ∀ {s} request now, Inv s → Inv (getOrCreate request now s).2
  /-- A request is answered with the row of its intent. -/
  getOrCreate_ok : ∀ {s next request now intent}, Inv s →
    getOrCreate request now s = (.ok intent, next) →
      intent.intentId = codec.intentIdOf request ∧
      sameIntent intent (codec.newIntent request now) = true ∧
      (next = s ∧ intent ∈ intents s ∨
        intents next = intents s ++ [intent] ∧ intent = codec.newIntent request now)
  getOrCreate_error : ∀ {s next request now error},
    getOrCreate request now s = (.error error, next) → next = s
  /-- A request that is stored with this content is answered from the store. -/
  getOrCreate_again : ∀ {s request now row}, Inv s → row ∈ intents s →
    requestKey row = requestKey (codec.newIntent request now) →
    sameIntent row (codec.newIntent request now) = true →
      getOrCreate request now s = (.ok row, s)
  mark_inv : ∀ {s} intentId result now, Inv s → Inv (markDecisionCommitted intentId result now s).2
  mark_ok : ∀ {s next intentId result now intent}, Inv s →
    markDecisionCommitted intentId result now s = (.ok intent, next) →
      ∃ row ∈ intents s, row.intentId = intentId ∧ changes result row = false ∧
        intent = committed result now row ∧
        intents next =
          updateWhere (fun row => row.intentId = intentId) (committed result now) (intents s)
  mark_error : ∀ {s next intentId result now error},
    markDecisionCommitted intentId result now s = (.error error, next) → next = s

theorem coherent_append {rows : List AdmissionDecisionIntent} (h : Coherent rows)
    {row : AdmissionDecisionIntent} (hFresh : ∀ old ∈ rows, old.intentId ≠ row.intentId)
    (hCheckpoint : row.checkpoint = .intentRecorded) (hResult : row.result = none) :
    Coherent (rows ++ [row]) := by
  refine ⟨nodup_append_row h.oneRow hFresh, ?_⟩
  intro stored hStored
  rcases List.mem_append.mp hStored with hOld | hNew
  · exact h.checkpoint stored hOld
  · rw [List.mem_singleton.mp hNew, hCheckpoint, hResult]
    simp

theorem coherent_committed {rows : List AdmissionDecisionIntent} (h : Coherent rows)
    (intentId : String) (result : DecideEnrollmentResult) (now : Int) :
    Coherent (updateWhere (fun row => row.intentId = intentId) (committed result now) rows) := by
  refine ⟨?_, forall_updateWhere h.checkpoint fun _ _ => by simp [committed]⟩
  rw [map_updateWhere]
  · exact h.oneRow
  · exact fun _ => rfl

namespace SqliteLedger

variable {codec : Codec} {ledger : SqliteLedger}

structure Sound (codec : Codec) (ledger : SqliteLedger) : Prop extends Coherent ledger where
  oneRequest : (ledger.map requestKey).Nodup
  derived : ∀ row ∈ ledger,
    row.intentId = codec.decisionIntentId row.ownerDomainId row.ingressRequestId

theorem sound_getOrCreate (request : DecisionRequest) (now : Int) (h : Sound codec ledger) :
    Sound codec (getOrCreate codec request now ledger).2 := by
  unfold getOrCreate
  split
  · split
    · exact h
    · exact h
  · rename_i hNone
    split
    · rename_i hAccepts
      have hFresh : ∀ old ∈ ledger, old.intentId ≠ (codec.newIntent request now).intentId :=
        fun old hOld => ((decide_eq_true_iff.mp hAccepts) old hOld).1
      refine ⟨coherent_append h.toCoherent hFresh rfl rfl,
        nodup_append_row h.oneRequest (lookup_eq_none_iff.mp hNone), ?_⟩
      intro row hRow
      rcases List.mem_append.mp hRow with hOld | hNew
      · exact h.derived row hOld
      · rw [List.mem_singleton.mp hNew]
        rfl
    · exact h

theorem sound_mark (intentId : String) (result : DecideEnrollmentResult) (now : Int)
    (h : Sound codec ledger) : Sound codec (markDecisionCommitted intentId result now ledger).2 := by
  unfold markDecisionCommitted
  split
  · exact h
  · split
    · exact h
    · refine ⟨coherent_committed h.toCoherent intentId result now, ?_,
        forall_updateWhere h.derived fun _ hRow => hRow⟩
      rw [map_updateWhere]
      · exact h.oneRequest
      · exact fun _ => rfl

theorem getOrCreate_ok {next : SqliteLedger} {request : DecisionRequest} {now : Int}
    {intent : AdmissionDecisionIntent} (h : Sound codec ledger)
    (hOk : getOrCreate codec request now ledger = (.ok intent, next)) :
    intent.intentId = codec.intentIdOf request ∧
      sameIntent intent (codec.newIntent request now) = true ∧
      (next = ledger ∧ intent ∈ ledger ∨
        next = ledger ++ [intent] ∧ intent = codec.newIntent request now) := by
  unfold getOrCreate at hOk
  split at hOk
  · rename_i existing hFound
    split at hOk
    · rename_i hSame
      cases hOk
      obtain ⟨hMem, hKey⟩ := lookup_mem hFound
      obtain ⟨hDomain, hRequest⟩ := Prod.mk.inj hKey
      refine ⟨?_, hSame, .inl ⟨rfl, hMem⟩⟩
      rw [h.derived intent hMem, hDomain, hRequest]
      rfl
    · cases hOk
  · split at hOk
    · cases hOk
      exact ⟨rfl, by simp [sameIntent], .inr ⟨rfl, rfl⟩⟩
    · cases hOk

theorem getOrCreate_error {next : SqliteLedger} {request : DecisionRequest} {now : Int}
    {error : LedgerError} (h : getOrCreate codec request now ledger = (.error error, next)) :
    next = ledger := by
  unfold getOrCreate at h
  split at h
  · split at h
    · cases h
    · cases h
      rfl
  · split at h
    · cases h
    · cases h
      rfl

theorem mark_ok {next : SqliteLedger} {intentId : String} {result : DecideEnrollmentResult}
    {now : Int} {intent : AdmissionDecisionIntent}
    (h : markDecisionCommitted intentId result now ledger = (.ok intent, next)) :
    ∃ row ∈ ledger, row.intentId = intentId ∧ changes result row = false ∧
      intent = committed result now row ∧
      next = updateWhere (fun row => row.intentId = intentId) (committed result now) ledger := by
  unfold markDecisionCommitted at h
  split at h
  · cases h
  · rename_i row hFound
    split at h
    · cases h
    · rename_i hSame
      cases h
      obtain ⟨hMem, hId⟩ := lookup_mem hFound
      exact ⟨row, hMem, hId, by simpa using hSame, rfl, rfl⟩

theorem mark_error {next : SqliteLedger} {intentId : String} {result : DecideEnrollmentResult}
    {now : Int} {error : LedgerError}
    (h : markDecisionCommitted intentId result now ledger = (.error error, next)) :
    next = ledger := by
  unfold markDecisionCommitted at h
  split at h
  · cases h
    rfl
  · split at h
    · cases h
      rfl
    · cases h

end SqliteLedger

def sqliteDecisions (codec : Codec) : DecisionStore codec where
  σ := SqliteLedger
  empty := []
  getOrCreate := SqliteLedger.getOrCreate codec
  markDecisionCommitted := SqliteLedger.markDecisionCommitted
  intents ledger := ledger
  Inv := SqliteLedger.Sound codec
  inv_empty := ⟨⟨List.nodup_nil, nofun⟩, List.nodup_nil, nofun⟩
  intents_empty := rfl
  coherent h := h.toCoherent
  getOrCreate_inv := SqliteLedger.sound_getOrCreate
  getOrCreate_ok := SqliteLedger.getOrCreate_ok
  getOrCreate_error := SqliteLedger.getOrCreate_error
  getOrCreate_again h hRow hKey hSame := by
    have hFound := (lookup_eq_some_iff h.oneRequest).mpr ⟨hRow, hKey⟩
    simp only [SqliteLedger.getOrCreate, hFound, hSame, if_true]
  mark_inv := SqliteLedger.sound_mark
  mark_ok _ := SqliteLedger.mark_ok
  mark_error := SqliteLedger.mark_error

namespace MemoryLedger

variable {codec : Codec} {values : MemoryLedger}

def intents (values : MemoryLedger) : List AdmissionDecisionIntent := values.map Prod.snd

structure Sound (codec : Codec) (values : MemoryLedger) : Prop extends Coherent values.intents where
  oneKey : (values.map Prod.fst).Nodup
  keys : ∀ item ∈ values, item.1 = item.2.intentId
  derived : ∀ row ∈ values.intents,
    row.intentId = codec.decisionIntentId row.ownerDomainId row.ingressRequestId

theorem keys_set {intentId : String} {row : AdmissionDecisionIntent}
    (h : ∀ item ∈ values, item.1 = item.2.intentId) (hId : row.intentId = intentId) :
    ∀ item ∈ Dict.set values intentId row, item.1 = item.2.intentId := by
  intro item hItem
  rcases Dict.mem_set.mp hItem with rfl | ⟨hOld, _⟩
  · exact hId.symm
  · exact h item hOld

theorem mem_intents {intentId : String} {row : AdmissionDecisionIntent}
    (h : Dict.get values intentId = some row) : row ∈ values.intents :=
  List.mem_map.mpr ⟨(intentId, row), Dict.get_mem h, rfl⟩

theorem intents_fresh {intentId : String} (h : Sound codec values)
    (hNone : Dict.get values intentId = none) : ∀ old ∈ values.intents, old.intentId ≠ intentId := by
  intro old hOld
  obtain ⟨item, hItem, rfl⟩ := List.mem_map.mp hOld
  rw [← h.keys item hItem]
  exact Dict.get_eq_none_iff.mp hNone item hItem

theorem intents_committed {intentId : String} (h : Sound codec values)
    {intent : AdmissionDecisionIntent} (hFound : Dict.get values intentId = some intent)
    (result : DecideEnrollmentResult) (now : Int) :
    intents (Dict.set values intentId (committed result now intent)) =
      updateWhere (fun row => row.intentId = intentId) (committed result now) values.intents :=
  Dict.values_set_of_get_some AdmissionDecisionIntent.intentId h.oneKey h.keys hFound rfl

theorem sound_getOrCreate (request : DecisionRequest) (now : Int) (h : Sound codec values) :
    Sound codec (getOrCreate codec request now values).2 := by
  unfold getOrCreate
  split
  · split
    · exact h
    · exact h
  · rename_i hNone
    have hIntents : intents (Dict.set values (codec.intentIdOf request)
        (codec.newIntent request now)) = values.intents ++ [codec.newIntent request now] :=
      Dict.values_set_of_get_none hNone _
    have hFresh := intents_fresh h hNone
    refine ⟨?_, Dict.nodup_set h.oneKey _ _, keys_set h.keys rfl, ?_⟩
    · rw [hIntents]
      exact coherent_append h.toCoherent hFresh rfl rfl
    · rw [hIntents]
      intro row hRow
      rcases List.mem_append.mp hRow with hOld | hNew
      · exact h.derived row hOld
      · rw [List.mem_singleton.mp hNew]
        rfl

theorem sound_mark (intentId : String) (result : DecideEnrollmentResult) (now : Int)
    (h : Sound codec values) : Sound codec (markDecisionCommitted intentId result now values).2 := by
  unfold markDecisionCommitted
  split
  · exact h
  · rename_i intent hFound
    split
    · exact h
    · have hId : intent.intentId = intentId := (h.keys _ (Dict.get_mem hFound)).symm
      refine ⟨?_, Dict.nodup_set h.oneKey _ _, keys_set h.keys hId, ?_⟩
      · rw [intents_committed h hFound]
        exact coherent_committed h.toCoherent intentId result now
      · rw [intents_committed h hFound]
        exact forall_updateWhere h.derived fun _ hRow => hRow

theorem getOrCreate_ok {next : MemoryLedger} {request : DecisionRequest} {now : Int}
    {intent : AdmissionDecisionIntent} (h : Sound codec values)
    (hOk : getOrCreate codec request now values = (.ok intent, next)) :
    intent.intentId = codec.intentIdOf request ∧
      sameIntent intent (codec.newIntent request now) = true ∧
      (next = values ∧ intent ∈ values.intents ∨
        intents next = values.intents ++ [intent] ∧ intent = codec.newIntent request now) := by
  unfold getOrCreate at hOk
  split at hOk
  · rename_i existing hFound
    split at hOk
    · rename_i hSame
      cases hOk
      exact ⟨(h.keys _ (Dict.get_mem hFound)).symm, hSame, .inl ⟨rfl, mem_intents hFound⟩⟩
    · cases hOk
  · rename_i hNone
    cases hOk
    exact ⟨rfl, by simp [sameIntent], .inr ⟨Dict.values_set_of_get_none hNone _, rfl⟩⟩

theorem getOrCreate_error {next : MemoryLedger} {request : DecisionRequest} {now : Int}
    {error : LedgerError} (h : getOrCreate codec request now values = (.error error, next)) :
    next = values := by
  unfold getOrCreate at h
  split at h
  · split at h
    · cases h
    · cases h
      rfl
  · cases h

theorem mark_ok {next : MemoryLedger} {intentId : String} {result : DecideEnrollmentResult}
    {now : Int} {intent : AdmissionDecisionIntent} (hSound : Sound codec values)
    (h : markDecisionCommitted intentId result now values = (.ok intent, next)) :
    ∃ row ∈ values.intents, row.intentId = intentId ∧ changes result row = false ∧
      intent = committed result now row ∧
      intents next =
        updateWhere (fun row => row.intentId = intentId) (committed result now) values.intents := by
  unfold markDecisionCommitted at h
  split at h
  · cases h
  · rename_i row hFound
    split at h
    · cases h
    · rename_i hSame
      cases h
      exact ⟨row, mem_intents hFound, (hSound.keys _ (Dict.get_mem hFound)).symm,
        by simpa using hSame, rfl, intents_committed hSound hFound result now⟩

theorem mark_error {next : MemoryLedger} {intentId : String} {result : DecideEnrollmentResult}
    {now : Int} {error : LedgerError}
    (h : markDecisionCommitted intentId result now values = (.error error, next)) :
    next = values := by
  unfold markDecisionCommitted at h
  split at h
  · cases h
    rfl
  · split at h
    · cases h
      rfl
    · cases h

theorem getOrCreate_again {request : DecisionRequest} {now : Int} {row : AdmissionDecisionIntent}
    (h : Sound codec values) (hRow : row ∈ values.intents)
    (hKey : requestKey row = requestKey (codec.newIntent request now))
    (hSame : sameIntent row (codec.newIntent request now) = true) :
    getOrCreate codec request now values = (.ok row, values) := by
  obtain ⟨hDomain, hRequest⟩ := Prod.mk.inj hKey
  have hId : row.intentId = codec.intentIdOf request := by
    rw [h.derived row hRow, hDomain, hRequest]
    rfl
  obtain ⟨item, hItem, rfl⟩ := List.mem_map.mp hRow
  have hFound : Dict.get values (codec.intentIdOf request) = some item.2 := by
    refine (Dict.get_eq_some_iff h.oneKey).mpr ?_
    rw [← hId, ← h.keys item hItem]
    exact hItem
  simp only [getOrCreate, hFound, hSame, if_true]

end MemoryLedger

def memoryDecisions (codec : Codec) : DecisionStore codec where
  σ := MemoryLedger
  empty := []
  getOrCreate := MemoryLedger.getOrCreate codec
  markDecisionCommitted := MemoryLedger.markDecisionCommitted
  intents := MemoryLedger.intents
  Inv := MemoryLedger.Sound codec
  inv_empty := ⟨⟨List.nodup_nil, nofun⟩, List.nodup_nil, nofun, nofun⟩
  intents_empty := rfl
  coherent h := h.toCoherent
  getOrCreate_inv := MemoryLedger.sound_getOrCreate
  getOrCreate_ok := MemoryLedger.getOrCreate_ok
  getOrCreate_error := MemoryLedger.getOrCreate_error
  getOrCreate_again := MemoryLedger.getOrCreate_again
  mark_inv := MemoryLedger.sound_mark
  mark_ok := MemoryLedger.mark_ok
  mark_error := MemoryLedger.mark_error

end EidolonAdmin.Admission
