import Mathlib.Algebra.Group.Int.Defs
import EidolonAdmin.Foundation.Table
import EidolonAdmin.Foundation.Transition
import EidolonAdmin.Removal.Contracts

/-! # The removal intent ledger

`SqliteRemovalIntentStore` on its one table. The digests are parameters: nothing
here depends on how they are computed.
-/

namespace EidolonAdmin.Removal

open Foundation.Transition Foundation.Table

inductive IntentState where
  | accepted
  | hubRevoked
deriving DecidableEq, Repr

/-- What a caller of `get_or_create` submits, apart from its clock reading. -/
structure IntentContent where
  ingressRequestId : String
  ownerDomainId : String
  deviceRef : DeviceRef
  actorControllerId : String
  workloadPrincipalId : String
  controllerResetEpoch : Int
  authorizationContextJson : String
  authorizationContextSha256 : String
  reason : String
deriving DecidableEq, Repr

structure RemovalIntent extends IntentContent where
  intentId : String
  hubCommandId : String
  state : IntentState
  createdAt : Int
  updatedAt : Int
  hubResult : Option HubClaimRevocationResult
deriving DecidableEq, Repr

/-- `uuid5` as the hexadecimal digits of its value, and `sha256` likewise. -/
structure Digests where
  uuid5 : String → String → String
  sha256 : String → String

def intentNamespace : String := "2c33cc48-d0ac-5f51-a685-b3d299aeb5cd"

def commandNamespace : String := "2c33cc48-d0ac-5f51-a685-b3d299aeb5cd"

namespace Digests

variable (digests : Digests)

def removalIntentId (ingressRequestId ownerDomainId : String) : String :=
  "removal-intent-" ++ digests.uuid5 intentNamespace
    ("eidolon-removal-intent-v1:" ++ ownerDomainId ++ ":" ++ ingressRequestId)

def hubCommandId (intentId : String) (deviceRef : DeviceRef) : String :=
  "revoke-claim-" ++ digests.uuid5 commandNamespace
    ("eidolon-revoke-claim-v1:" ++ intentId ++ ":" ++ deviceRef.deviceInstanceId ++ ":" ++
      toString deviceRef.ownerDomainGeneration ++ ":" ++ toString deviceRef.claimGeneration ++
      ":" ++ toString deviceRef.trustEpoch)

end Digests

inductive LedgerError where
  | contextHashMismatch
  | requestReused
  | hubResultChanged
  | unknownIntent (intentId : String)
  | integrity
  | overflow
deriving DecidableEq, Repr

/-- The text of the errors that are a `ValueError`; a `KeyError`, an
`IntegrityError` and an `OverflowError` are not. -/
def LedgerError.valueError? : LedgerError → Option String
  | contextHashMismatch => some "authorization context bytes do not match their hash"
  | requestReused => some "request_id was reused with different removal content"
  | hubResultChanged => some "Hub result changed for an existing RemovalIntent"
  | unknownIntent _ => none
  | integrity => none
  | overflow => none

abbrev Ledger := List RemovalIntent

namespace Ledger

variable (digests : Digests)

abbrev requestKey (row : RemovalIntent) : String × String :=
  (row.ownerDomainId, row.ingressRequestId)

def findRequest (ledger : Ledger) (ownerDomainId ingressRequestId : String) :
    Option RemovalIntent :=
  lookup requestKey (ownerDomainId, ingressRequestId) ledger

def findIntent (ledger : Ledger) (intentId : String) : Option RemovalIntent :=
  lookup RemovalIntent.intentId intentId ledger

def sameContent (current : RemovalIntent) (content : IntentContent) : Bool :=
  current.deviceRef = content.deviceRef ∧
  current.reason = content.reason ∧
  current.actorControllerId = content.actorControllerId ∧
  current.workloadPrincipalId = content.workloadPrincipalId ∧
  current.controllerResetEpoch = content.controllerResetEpoch ∧
  current.authorizationContextSha256 = content.authorizationContextSha256 ∧
  current.authorizationContextJson = content.authorizationContextJson

def newIntent (content : IntentContent) (now : Int) : RemovalIntent :=
  let intentId := digests.removalIntentId content.ingressRequestId content.ownerDomainId
  { toIntentContent := content
    intentId
    hubCommandId := digests.hubCommandId intentId content.deviceRef
    state := .accepted
    createdAt := now
    updatedAt := now
    hubResult := none }

/-- Every number of the row fits a SQLite integer; binding a larger one raises. -/
def bindable (row : RemovalIntent) : Bool :=
  ∀ value ∈ [row.deviceRef.ownerDomainGeneration, row.deviceRef.claimGeneration,
    row.deviceRef.trustEpoch, row.controllerResetEpoch], -2 ^ 63 ≤ value ∧ value < 2 ^ 63

/-- What the `INSERT` can fail on: a number that cannot be bound, the check on the
epoch, the primary key and the unique command. -/
def accepts (ledger : Ledger) (row : RemovalIntent) : Bool :=
  bindable row ∧ 0 ≤ row.controllerResetEpoch ∧
  ∀ stored ∈ ledger, stored.intentId ≠ row.intentId ∧ stored.hubCommandId ≠ row.hubCommandId

def getOrCreate (content : IntentContent) (now : Int) (ledger : Ledger) :
    Except LedgerError RemovalIntent × Ledger :=
  if digests.sha256 content.authorizationContextJson ≠ content.authorizationContextSha256 then
    (.error .contextHashMismatch, ledger)
  else
    match ledger.findRequest content.ownerDomainId content.ingressRequestId with
    | some current =>
      if sameContent current content then (.ok current, ledger)
      else (.error .requestReused, ledger)
    | none =>
      if ledger.accepts (newIntent digests content now) then
        (.ok (newIntent digests content now), ledger ++ [newIntent digests content now])
      else
        (.error (if bindable (newIntent digests content now) then .integrity else .overflow), ledger)

def committed (result : HubClaimRevocationResult) (now : Int) (row : RemovalIntent) :
    RemovalIntent :=
  { row with state := .hubRevoked, hubResult := some result, updatedAt := now }

def markHubCommitted (intentId : String) (result : HubClaimRevocationResult) (now : Int)
    (ledger : Ledger) : Except LedgerError RemovalIntent × Ledger :=
  match ledger.findIntent intentId with
  | none => (.error (.unknownIntent intentId), ledger)
  | some current =>
    if current.hubResult.isSome ∧ current.hubResult ≠ some result then
      (.error .hubResultChanged, ledger)
    else
      (.ok (committed result now current),
        updateWhere (fun row => row.intentId = intentId) (committed result now) ledger)

end Ledger

inductive LedgerOp where
  | getOrCreate (content : IntentContent) (now : Int)
  | markHubCommitted (intentId : String) (result : HubClaimRevocationResult) (now : Int)
deriving DecidableEq, Repr

namespace Ledger

variable (digests : Digests)

def apply (ledger : Ledger) : LedgerOp → Ledger
  | .getOrCreate content now => (getOrCreate digests content now ledger).2
  | .markHubCommitted intentId result now => (markHubCommitted intentId result now ledger).2

variable {digests}

theorem sameContent_iff {current : RemovalIntent} {content : IntentContent}
    (hKey : requestKey current = (content.ownerDomainId, content.ingressRequestId)) :
    sameContent current content = true ↔ current.toIntentContent = content := by
  obtain ⟨hDomain, hRequest⟩ := Prod.mk.inj hKey
  rw [sameContent, decide_eq_true_eq]
  constructor
  · rintro ⟨hRef, hReason, hActor, hWorkload, hEpoch, hSha, hJson⟩
    obtain ⟨current, _⟩ := current
    cases content
    cases current
    simp_all
  · rintro rfl
    exact ⟨rfl, rfl, rfl, rfl, rfl, rfl, rfl⟩

theorem getOrCreate_ok {content : IntentContent} {now : Int} {ledger next : Ledger}
    {intent : RemovalIntent} (h : getOrCreate digests content now ledger = (.ok intent, next)) :
    next.findRequest content.ownerDomainId content.ingressRequestId = some intent ∧
      intent.toIntentContent = content ∧
      (next = ledger ∨ next = ledger ++ [intent] ∧ intent = newIntent digests content now) := by
  unfold getOrCreate at h
  split at h
  · cases h
  · split at h
    · rename_i current hFound
      split at h
      · rename_i hSame
        cases h
        exact ⟨hFound, (sameContent_iff (lookup_mem hFound).2).mp hSame, .inl rfl⟩
      · cases h
    · rename_i hNone
      split at h
      · cases h
        refine ⟨?_, rfl, .inr ⟨rfl, rfl⟩⟩
        rw [findRequest, lookup_append, ← findRequest, hNone]
        simp [lookup, newIntent]
      · cases h

def frozen (row : RemovalIntent) : IntentContent × String × String :=
  (row.toIntentContent, row.intentId, row.hubCommandId)

theorem getOrCreate_found {content : IntentContent} {now : Int} {ledger : Ledger}
    {current : RemovalIntent}
    (hSha : digests.sha256 content.authorizationContextJson = content.authorizationContextSha256)
    (hFound : ledger.findRequest content.ownerDomainId content.ingressRequestId = some current) :
    getOrCreate digests content now ledger =
      if current.toIntentContent = content then (.ok current, ledger)
      else (.error .requestReused, ledger) := by
  have hSame := sameContent_iff (lookup_mem hFound).2
  unfold getOrCreate
  rw [if_neg (not_not.mpr hSha), hFound]
  by_cases hContent : current.toIntentContent = content
  · rw [if_pos hContent]
    exact if_pos (hSame.mpr hContent)
  · rw [if_neg hContent]
    exact if_neg fun hTrue => hContent (hSame.mp hTrue)

theorem getOrCreate_new {content : IntentContent} {now : Int} {ledger : Ledger}
    (hSha : digests.sha256 content.authorizationContextJson = content.authorizationContextSha256)
    (hNone : ledger.findRequest content.ownerDomainId content.ingressRequestId = none)
    (hAccepts : ledger.accepts (newIntent digests content now)) :
    getOrCreate digests content now ledger =
      (.ok (newIntent digests content now), ledger ++ [newIntent digests content now]) := by
  unfold getOrCreate
  rw [if_neg (not_not.mpr hSha), hNone]
  exact if_pos hAccepts

theorem snd_getOrCreate (content : IntentContent) (now : Int) (ledger : Ledger) :
    (getOrCreate digests content now ledger).2 = ledger ∨
      (getOrCreate digests content now ledger).2 = ledger ++ [newIntent digests content now] := by
  unfold getOrCreate
  split
  · exact .inl rfl
  · split
    · split <;> exact .inl rfl
    · split
      · exact .inr rfl
      · exact .inl rfl

theorem markHubCommitted_first {intentId : String} {result : HubClaimRevocationResult} {now : Int}
    {ledger : Ledger} {row : RemovalIntent} (hFound : ledger.findIntent intentId = some row)
    (hNone : row.hubResult = none) :
    markHubCommitted intentId result now ledger =
      (.ok (committed result now row),
        updateWhere (fun row => row.intentId = intentId) (committed result now) ledger) := by
  unfold markHubCommitted
  rw [hFound]
  exact if_neg (by simp [hNone])

theorem markHubCommitted_ok {intentId : String} {result : HubClaimRevocationResult} {now : Int}
    {ledger next : Ledger} {row : RemovalIntent}
    (h : markHubCommitted intentId result now ledger = (.ok row, next)) :
    ∃ stored, ledger.findIntent intentId = some stored ∧ row = committed result now stored := by
  unfold markHubCommitted at h
  split at h
  · cases h
  · rename_i stored hFound
    split at h
    · cases h
    · cases h
      exact ⟨stored, hFound, rfl⟩

theorem snd_markHubCommitted (intentId : String) (result : HubClaimRevocationResult) (now : Int)
    (ledger : Ledger) :
    (markHubCommitted intentId result now ledger).2 = ledger ∨
      (markHubCommitted intentId result now ledger).2 =
        updateWhere (fun row => row.intentId = intentId) (committed result now) ledger := by
  unfold markHubCommitted
  split
  · exact .inl rfl
  · split
    · exact .inl rfl
    · exact .inr rfl

theorem findRequest_apply {ledger : Ledger} {domain request : String} {row : RemovalIntent}
    (op : LedgerOp) (h : ledger.findRequest domain request = some row) :
    ∃ row', (ledger.apply digests op).findRequest domain request = some row' ∧
      frozen row' = frozen row := by
  cases op with
  | getOrCreate content now =>
    refine ⟨row, ?_, rfl⟩
    rcases snd_getOrCreate content now ledger with hSame | hNew
    · rw [apply, hSame, h]
    · rw [apply, hNew, findRequest, lookup_append, ← findRequest, h, Option.some_or]
  | markHubCommitted intentId result now =>
    rcases snd_markHubCommitted intentId result now ledger with hSame | hWritten
    · exact ⟨row, by rw [apply, hSame, h], rfl⟩
    · rw [apply, hWritten, findRequest, lookup_updateWhere, ← findRequest, h]
      · refine ⟨_, rfl, ?_⟩
        simp only
        split
        · rfl
        · rfl
      · exact fun _ => rfl

theorem findRequest_run {ledger : Ledger} {domain request : String} {row : RemovalIntent}
    (h : ledger.findRequest domain request = some row) (ops : List LedgerOp) :
    ∃ row', (run (apply digests) ledger ops).findRequest domain request = some row' ∧
      frozen row' = frozen row := by
  refine run_invariant (P := fun later : Ledger => ∃ row', later.findRequest domain request =
    some row' ∧ frozen row' = frozen row) (fun later op hStored => ?_) ⟨row, h, rfl⟩ ops
  obtain ⟨stored, hFound, hFrozen⟩ := hStored
  obtain ⟨row', hFound', hFrozen'⟩ := findRequest_apply op hFound
  exact ⟨row', hFound', hFrozen'.trans hFrozen⟩

/-- What every run of the ledger keeps: one row for an intent, under the names
derived from its request. -/
structure Sound (digests : Digests) (ledger : Ledger) : Prop where
  unique : (ledger.map RemovalIntent.intentId).Nodup
  intentIds : ∀ row ∈ ledger,
    row.intentId = digests.removalIntentId row.ingressRequestId row.ownerDomainId
  commandIds : ∀ row ∈ ledger, row.hubCommandId = digests.hubCommandId row.intentId row.deviceRef

theorem sound_getOrCreate {ledger : Ledger} (h : ledger.Sound digests) (content : IntentContent)
    (now : Int) : Sound digests (getOrCreate digests content now ledger).2 := by
  unfold getOrCreate
  split
  · exact h
  · split
    · split <;> exact h
    · split
      · rename_i hAccepts
        rw [accepts, decide_eq_true_eq] at hAccepts
        have hRows : ∀ {P : RemovalIntent → Prop}, (∀ row ∈ ledger, P row) →
            P (newIntent digests content now) →
            ∀ row ∈ ledger ++ [newIntent digests content now], P row := by
          intro P hOld hNew row hRow
          rcases List.mem_append.mp hRow with hStored | hLast
          · exact hOld row hStored
          · rw [List.mem_singleton.mp hLast]
            exact hNew
        refine ⟨?_, hRows h.intentIds rfl, hRows h.commandIds rfl⟩
        exact nodup_append_row h.unique fun row hRow => (hAccepts.2.2 row hRow).1
      · exact h

theorem sound_apply (ledger : Ledger) (op : LedgerOp) (h : ledger.Sound digests) :
    (ledger.apply digests op).Sound digests := by
  cases op with
  | getOrCreate content now => exact sound_getOrCreate h content now
  | markHubCommitted intentId result now =>
    rcases snd_markHubCommitted intentId result now ledger with hSame | hWritten
    · rw [apply, hSame]
      exact h
    · rw [apply, hWritten]
      refine ⟨?_, ?_, ?_⟩
      · rw [map_updateWhere]
        · exact h.unique
        · exact fun _ => rfl
      · exact forall_updateWhere h.intentIds fun row hRow => hRow
      · exact forall_updateWhere h.commandIds fun row hRow => hRow

theorem findIntent_run {ledger : Ledger} {domain request : String} {intent row : RemovalIntent}
    (hSound : ledger.Sound digests) (hStored : ledger.findRequest domain request = some intent)
    (ops : List LedgerOp)
    (hFound : (run (apply digests) ledger ops).findIntent intent.intentId = some row) :
    frozen row = frozen intent := by
  obtain ⟨later, hLater, hFrozen⟩ := findRequest_run hStored ops
  have hSame : later.intentId = intent.intentId := congrArg (fun parts => parts.2.1) hFrozen
  have hUnique := (run_invariant sound_apply hSound ops).unique
  have hFoundLater : (run (apply digests) ledger ops).findIntent intent.intentId = some later :=
    (lookup_eq_some_iff hUnique).mpr ⟨(lookup_mem hLater).1, hSame⟩
  rw [hFoundLater, Option.some.injEq] at hFound
  rw [← hFound]
  exact hFrozen

theorem sound_nil : Sound digests [] where
  unique := List.nodup_nil
  intentIds _ hRow := absurd hRow List.not_mem_nil
  commandIds _ hRow := absurd hRow List.not_mem_nil

theorem sound_run (ops : List LedgerOp) : Sound digests (run (apply digests) [] ops) :=
  run_invariant sound_apply sound_nil ops

end Ledger

end EidolonAdmin.Removal
