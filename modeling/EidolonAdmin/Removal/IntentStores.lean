import Mathlib.Data.List.Induction
import EidolonAdmin.Foundation.Dict
import EidolonAdmin.Removal.Ledger

/-! # The two removal intent stores

`InMemoryRemovalIntentStore` keeps its intents under the derived intent id,
`SqliteRemovalIntentStore` under the pair of Owner domain and request. Each is
reliable by itself on every run. They agree as long as no two pairs join to the
same name and every new row is one that the table takes.
-/

namespace EidolonAdmin.Removal

open Foundation Foundation.Table Foundation.Transition

abbrev MemoryLedger := List (String × RemovalIntent)

namespace MemoryLedger

def getOrCreate (digests : Digests) (content : IntentContent) (now : Int) (values : MemoryLedger) :
    Except LedgerError RemovalIntent × MemoryLedger :=
  if digests.sha256 content.authorizationContextJson ≠ content.authorizationContextSha256 then
    (.error .contextHashMismatch, values)
  else
    match Dict.get values
        (digests.removalIntentId content.ingressRequestId content.ownerDomainId) with
    | some current =>
      if Ledger.sameContent current content then (.ok current, values)
      else (.error .requestReused, values)
    | none =>
      (.ok (Ledger.newIntent digests content now),
        Dict.set values (digests.removalIntentId content.ingressRequestId content.ownerDomainId)
          (Ledger.newIntent digests content now))

def markHubCommitted (intentId : String) (result : HubClaimRevocationResult) (now : Int)
    (values : MemoryLedger) : Except LedgerError RemovalIntent × MemoryLedger :=
  match Dict.get values intentId with
  | none => (.error (.unknownIntent intentId), values)
  | some current =>
    if current.hubResult.isSome ∧ current.hubResult ≠ some result then
      (.error .hubResultChanged, values)
    else
      (.ok (Ledger.committed result now current),
        Dict.set values intentId (Ledger.committed result now current))

def perform (digests : Digests) (values : MemoryLedger) :
    LedgerOp → Except LedgerError RemovalIntent × MemoryLedger
  | .getOrCreate content now => getOrCreate digests content now values
  | .markHubCommitted intentId result now => markHubCommitted intentId result now values

end MemoryLedger

def Ledger.perform (digests : Digests) (ledger : Ledger) :
    LedgerOp → Except LedgerError RemovalIntent × Ledger
  | .getOrCreate content now => Ledger.getOrCreate digests content now ledger
  | .markHubCommitted intentId result now => Ledger.markHubCommitted intentId result now ledger

theorem Ledger.perform_snd (digests : Digests) (ledger : Ledger) (op : LedgerOp) :
    (ledger.perform digests op).2 = ledger.apply digests op := by
  cases op with
  | getOrCreate => rfl
  | markHubCommitted => rfl

/-! ## What a reliable store keeps -/

structure IntentStore where
  σ : Type
  empty : σ
  perform : σ → LedgerOp → Except LedgerError RemovalIntent × σ
  intents : σ → List RemovalIntent

namespace IntentStore

variable (store : IntentStore)

def apply (s : store.σ) (op : LedgerOp) : store.σ := (store.perform s op).2

def after (ops : List LedgerOp) : store.σ := run store.apply store.empty ops

theorem after_append_singleton (ops : List LedgerOp) (op : LedgerOp) :
    store.after (ops ++ [op]) = store.apply (store.after ops) op := run_append _ _ ops [op]

end IntentStore

def Kept (before after : List RemovalIntent) : Prop :=
  ∀ row ∈ before, ∃ later ∈ after, Ledger.frozen later = Ledger.frozen row ∧
    ∀ result, row.hubResult = some result → later.hubResult = some result

theorem Kept.refl (rows : List RemovalIntent) : Kept rows rows :=
  fun row hRow => ⟨row, hRow, rfl, fun _ hResult => hResult⟩

theorem Kept.trans {first second third : List RemovalIntent} (h : Kept first second)
    (hThird : Kept second third) : Kept first third := by
  intro row hRow
  obtain ⟨later, hLater, hFrozen, hResult⟩ := h row hRow
  obtain ⟨last, hLast, hFrozenLast, hResultLast⟩ := hThird later hLater
  exact ⟨last, hLast, hFrozenLast.trans hFrozen,
    fun result hRow => hResultLast result (hResult result hRow)⟩

structure Coherent (rows : List RemovalIntent) : Prop where
  oneIntent : (rows.map Ledger.requestKey).Nodup
  revoked : ∀ row ∈ rows, row.state = .hubRevoked ↔ row.hubResult.isSome = true

namespace IntentStore

structure Reliable (store : IntentStore) : Prop where
  coherent : ∀ ops, Coherent (store.intents (store.after ops))
  writtenOnce : ∀ ops more,
    Kept (store.intents (store.after ops)) (store.intents (store.after (ops ++ more)))
  refusedUnchanged : ∀ ops op error, (store.perform (store.after ops) op).1 = .error error →
    store.after (ops ++ [op]) = store.after ops

end IntentStore

inductive IntentEffect (before : List RemovalIntent) : List RemovalIntent → Prop where
  | unchanged : IntentEffect before before
  | created (row : RemovalIntent)
      (hFresh : ∀ old ∈ before, Ledger.requestKey old ≠ Ledger.requestKey row)
      (hState : row.state = .accepted) (hResult : row.hubResult = none) :
      IntentEffect before (before ++ [row])
  | committed (intentId : String) (result : HubClaimRevocationResult) (now : Int)
      (hSame : ∀ row ∈ before, row.intentId = intentId →
        ∀ stored, row.hubResult = some stored → stored = result) :
      IntentEffect before
        (updateWhere (fun row => row.intentId = intentId) (Ledger.committed result now) before)

namespace IntentEffect

variable {before after : List RemovalIntent}

theorem coherent (hEffect : IntentEffect before after) (h : Coherent before) : Coherent after := by
  cases hEffect with
  | unchanged => exact h
  | created row hFresh hState hResult =>
    refine ⟨nodup_append_row h.oneIntent hFresh, ?_⟩
    intro stored hStored
    rcases List.mem_append.mp hStored with hOld | hNew
    · exact h.revoked stored hOld
    · rw [List.mem_singleton.mp hNew, hState, hResult]
      simp
  | committed =>
    refine ⟨?_, forall_updateWhere h.revoked fun _ _ => by simp [Ledger.committed]⟩
    rw [map_updateWhere]
    · exact h.oneIntent
    · exact fun _ => rfl

theorem kept (hEffect : IntentEffect before after) : Kept before after := by
  cases hEffect with
  | unchanged => exact .refl before
  | created => exact fun row hRow => ⟨row, List.mem_append_left _ hRow, rfl, fun _ hResult => hResult⟩
  | committed intentId result now hSame =>
    intro row hRow
    refine ⟨_, mem_updateWhere.mpr ⟨row, hRow, rfl⟩, ?_⟩
    split
    · rename_i hId
      refine ⟨rfl, fun stored hStored => ?_⟩
      exact congrArg some (hSame row hRow (by simpa using hId) stored hStored).symm
    · exact ⟨rfl, fun _ hStored => hStored⟩

end IntentEffect

namespace IntentStore

variable {store : IntentStore}

theorem reliable_of (Inv : store.σ → Prop) (hEmpty : Inv store.empty)
    (hNone : store.intents store.empty = [])
    (hApply : ∀ s op, Inv s → Inv (store.apply s op))
    (hEffect : ∀ s op, Inv s → IntentEffect (store.intents s) (store.intents (store.apply s op)))
    (hRefused : ∀ s op error, (store.perform s op).1 = .error error → store.apply s op = s) :
    store.Reliable where
  coherent ops := by
    refine (run_invariant (P := fun s => Inv s ∧ Coherent (store.intents s)) ?_ ?_ ops).2
    · exact fun s op h => ⟨hApply s op h.1, (hEffect s op h.1).coherent h.2⟩
    · rw [hNone]
      exact ⟨hEmpty, List.nodup_nil, fun row hRow => absurd hRow List.not_mem_nil⟩
  writtenOnce ops more := by
    have hInv : Inv (store.after ops) := run_invariant hApply hEmpty ops
    rw [after, after, run_append]
    refine (run_invariant (P := fun s => Inv s ∧ Kept (store.intents (store.after ops))
      (store.intents s)) ?_ ⟨hInv, .refl _⟩ more).2
    exact fun s op h => ⟨hApply s op h.1, h.2.trans (hEffect s op h.1).kept⟩
  refusedUnchanged ops op error hError := by
    rw [store.after_append_singleton]
    exact hRefused _ op error hError

end IntentStore

/-! ## The SQLite store -/

def sqliteIntents (digests : Digests) : IntentStore where
  σ := Ledger
  empty := []
  perform := Ledger.perform digests
  intents ledger := ledger

namespace Ledger

variable {digests : Digests}

theorem perform_effect {ledger : Ledger} (h : ledger.Sound digests) (op : LedgerOp) :
    IntentEffect ledger (ledger.perform digests op).2 := by
  cases op with
  | getOrCreate content now =>
    simp only [perform, getOrCreate]
    split
    · exact .unchanged
    · split
      · split
        · exact .unchanged
        · exact .unchanged
      · rename_i hNone
        split
        · exact .created _ (lookup_eq_none_iff.mp hNone) rfl rfl
        · exact .unchanged
  | markHubCommitted intentId result now =>
    simp only [perform, markHubCommitted]
    split
    · exact .unchanged
    · rename_i current hFound
      split
      · exact .unchanged
      · rename_i hOpen
        refine .committed intentId result now fun row hRow hId stored hStored => ?_
        have hSame : some row = some current :=
          ((lookup_eq_some_iff h.unique).mpr ⟨hRow, hId⟩).symm.trans hFound
        cases hSame
        simpa [hStored] using hOpen

theorem perform_refused (ledger : Ledger) (op : LedgerOp) {error : LedgerError}
    (h : (ledger.perform digests op).1 = .error error) : (ledger.perform digests op).2 = ledger := by
  cases op with
  | getOrCreate content now =>
    simp only [perform, getOrCreate] at h ⊢
    split at h
    · rename_i hSha
      rw [if_pos hSha]
    · rename_i hSha
      rw [if_neg hSha]
      split at h
      · split at h
        · cases h
        · rename_i hSame
          simp [hSame]
      · split at h
        · cases h
        · rename_i hAccepts
          simp [hAccepts]
  | markHubCommitted intentId result now =>
    simp only [perform, markHubCommitted] at h ⊢
    split at h
    · rfl
    · split at h
      · rename_i hChanged
        simp [hChanged]
      · cases h

theorem reliable (digests : Digests) : (sqliteIntents digests).Reliable := by
  refine IntentStore.reliable_of (Sound digests) sound_nil rfl (fun ledger op h => ?_)
    (fun ledger op h => perform_effect h op) fun ledger op error => perform_refused ledger op
  have hApply : (sqliteIntents digests).apply ledger op = ledger.apply digests op :=
    ledger.perform_snd digests op
  rw [hApply]
  exact sound_apply ledger op h

end Ledger

/-! ## The in-memory store -/

def memoryIntents (digests : Digests) : IntentStore where
  σ := MemoryLedger
  empty := []
  perform := MemoryLedger.perform digests
  intents values := values.map Prod.snd

namespace MemoryLedger

variable {digests : Digests} {values : MemoryLedger}

structure Keyed (digests : Digests) (values : MemoryLedger) : Prop where
  unique : (values.map Prod.fst).Nodup
  keys : ∀ item ∈ values, item.1 = item.2.intentId
  intentIds : ∀ item ∈ values,
    item.2.intentId = digests.removalIntentId item.2.ingressRequestId item.2.ownerDomainId

theorem keyed_set (h : values.Keyed digests) {intentId : String} {row : RemovalIntent}
    (hKey : intentId = row.intentId)
    (hId : row.intentId = digests.removalIntentId row.ingressRequestId row.ownerDomainId) :
    Keyed digests (Dict.set values intentId row) := by
  have hRows : ∀ {P : String × RemovalIntent → Prop}, (∀ item ∈ values, P item) →
      P (intentId, row) → ∀ item ∈ Dict.set values intentId row, P item := by
    intro P hOld hNew item hItem
    rcases Dict.mem_set.mp hItem with rfl | ⟨hStored, _⟩
    · exact hNew
    · exact hOld item hStored
  exact ⟨Dict.nodup_set h.unique _ _, hRows h.keys hKey, hRows h.intentIds hId⟩

theorem keyed_perform (h : values.Keyed digests) (op : LedgerOp) :
    Keyed digests (values.perform digests op).2 := by
  cases op with
  | getOrCreate content now =>
    simp only [perform, getOrCreate]
    split
    · exact h
    · split
      · split
        · exact h
        · exact h
      · exact keyed_set h rfl rfl
  | markHubCommitted intentId result now =>
    simp only [perform, markHubCommitted]
    split
    · exact h
    · rename_i current hFound
      split
      · exact h
      · have hMem := Dict.get_mem hFound
        have hKey := h.keys _ hMem
        exact keyed_set h hKey (h.intentIds _ hMem)

theorem keyed_nil : Keyed digests [] where
  unique := List.nodup_nil
  keys _ hItem := absurd hItem List.not_mem_nil
  intentIds _ hItem := absurd hItem List.not_mem_nil

theorem values_committed (h : values.Keyed digests) {intentId : String} {current : RemovalIntent}
    (hFound : Dict.get values intentId = some current) (result : HubClaimRevocationResult)
    (now : Int) :
    (Dict.set values intentId (Ledger.committed result now current)).map Prod.snd =
      updateWhere (fun row => row.intentId = intentId) (Ledger.committed result now)
        (values.map Prod.snd) :=
  Dict.values_set_of_get_some RemovalIntent.intentId h.unique h.keys hFound rfl

theorem get_of_requestKey (h : values.Keyed digests) {row : RemovalIntent}
    (hRow : row ∈ values.map Prod.snd) {content : IntentContent}
    (hKey : Ledger.requestKey row = (content.ownerDomainId, content.ingressRequestId)) :
    Dict.get values (digests.removalIntentId content.ingressRequestId content.ownerDomainId) =
      some row := by
  obtain ⟨item, hItem, rfl⟩ := List.mem_map.mp hRow
  obtain ⟨hDomain, hRequest⟩ := Prod.mk.inj hKey
  rw [Dict.get_eq_some_iff h.unique, ← hDomain, ← hRequest, ← h.intentIds item hItem,
    ← h.keys item hItem]
  exact hItem

theorem perform_effect (h : values.Keyed digests) (op : LedgerOp) :
    IntentEffect (values.map Prod.snd) ((values.perform digests op).2.map Prod.snd) := by
  cases op with
  | getOrCreate content now =>
    simp only [perform, getOrCreate]
    split
    · exact .unchanged
    · split
      · split
        · exact .unchanged
        · exact .unchanged
      · rename_i hNone
        rw [Dict.values_set_of_get_none hNone]
        refine .created _ (fun row hRow hSame => ?_) rfl rfl
        have hStored : Dict.get values
            (digests.removalIntentId content.ingressRequestId content.ownerDomainId) = some row :=
          get_of_requestKey h hRow hSame
        rw [hStored] at hNone
        cases hNone
  | markHubCommitted intentId result now =>
    simp only [perform, markHubCommitted]
    split
    · exact .unchanged
    · rename_i current hFound
      split
      · exact .unchanged
      · rename_i hOpen
        rw [values_committed h hFound]
        refine .committed intentId result now fun row hRow hId stored hStored => ?_
        have hSame : Dict.get values intentId = some row := by
          obtain ⟨item, hItem, rfl⟩ := List.mem_map.mp hRow
          rw [Dict.get_eq_some_iff h.unique, ← hId, ← h.keys item hItem]
          exact hItem
        rw [hSame] at hFound
        cases hFound
        simpa [hStored] using hOpen

theorem perform_refused (values : MemoryLedger) (op : LedgerOp) {error : LedgerError}
    (h : (values.perform digests op).1 = .error error) : (values.perform digests op).2 = values := by
  cases op with
  | getOrCreate content now =>
    simp only [perform, getOrCreate] at h ⊢
    split at h
    · rename_i hSha
      rw [if_pos hSha]
    · rename_i hSha
      rw [if_neg hSha]
      split at h
      · split at h
        · cases h
        · rename_i hSame
          simp [hSame]
      · cases h
  | markHubCommitted intentId result now =>
    simp only [perform, markHubCommitted] at h ⊢
    split at h
    · rfl
    · split at h
      · rename_i hChanged
        simp [hChanged]
      · cases h

theorem getOrCreate_error {content : IntentContent} {now : Int} {error : LedgerError}
    (h : (values.getOrCreate digests content now).1 = .error error) :
    error = .contextHashMismatch ∨ error = .requestReused := by
  unfold getOrCreate at h
  split at h
  · cases h
    exact .inl rfl
  · split at h
    · split at h
      · cases h
      · cases h
        exact .inr rfl
    · cases h

theorem reliable (digests : Digests) : (memoryIntents digests).Reliable :=
  IntentStore.reliable_of (Keyed digests) keyed_nil rfl (fun _ op h => keyed_perform h op)
    (fun _ op h => perform_effect h op) fun values op _ => perform_refused values op

end MemoryLedger

/-! ## Where the two agree -/

def IntentContent.names (digests : Digests) (content : IntentContent) : List String :=
  let intentId := digests.removalIntentId content.ingressRequestId content.ownerDomainId
  ["eidolon-removal-intent-v1:" ++ content.ownerDomainId ++ ":" ++ content.ingressRequestId,
   "eidolon-revoke-claim-v1:" ++ intentId ++ ":" ++ content.deviceRef.deviceInstanceId ++ ":" ++
      toString content.deviceRef.ownerDomainGeneration ++ ":" ++
      toString content.deviceRef.claimGeneration ++ ":" ++ toString content.deviceRef.trustEpoch]

def LedgerOp.names (digests : Digests) : LedgerOp → List String
  | .getOrCreate content _ => content.names digests
  | .markHubCommitted _ _ _ => []

/-- `uuid5` tells the names of the run apart, and its hexadecimal text has no colon. -/
structure TellsApart (digests : Digests) (ops : List LedgerOp) : Prop where
  injective : ∀ first ∈ ops, ∀ second ∈ ops, ∀ name ∈ first.names digests,
    ∀ other ∈ second.names digests,
      digests.uuid5 intentNamespace name = digests.uuid5 intentNamespace other → name = other
  hex : ∀ op ∈ ops, ∀ name ∈ op.names digests, ':' ∉ (digests.uuid5 intentNamespace name).toList

/-- What both stores must be able to do with a request that is new: the table takes
its numbers, and no stored pair joins to the same text. -/
def Separate (digests : Digests) (ledger : Ledger) : LedgerOp → Prop
  | .getOrCreate content now =>
    digests.sha256 content.authorizationContextJson = content.authorizationContextSha256 →
    ledger.findRequest content.ownerDomainId content.ingressRequestId = none →
      Ledger.bindable (Ledger.newIntent digests content now) = true ∧
      0 ≤ content.controllerResetEpoch ∧
      ∀ row ∈ ledger, row.ownerDomainId ++ ":" ++ row.ingressRequestId ≠
        content.ownerDomainId ++ ":" ++ content.ingressRequestId
  | .markHubCommitted _ _ _ => True

def CreatedBy (ops : List LedgerOp) (ledger : Ledger) : Prop :=
  ∀ row ∈ ledger, ∃ now, LedgerOp.getOrCreate row.toIntentContent now ∈ ops

section Agreement

variable {digests : Digests} {ops : List LedgerOp}

theorem createdBy_apply {ledger : Ledger} {op : LedgerOp} (hOp : op ∈ ops)
    (h : CreatedBy ops ledger) : CreatedBy ops (ledger.apply digests op) := by
  cases op with
  | getOrCreate content now =>
    rcases @Ledger.snd_getOrCreate digests content now ledger with hSame | hNew
    · rw [Ledger.apply, hSame]
      exact h
    · rw [Ledger.apply, hNew]
      intro row hRow
      rcases List.mem_append.mp hRow with hOld | hLast
      · exact h row hOld
      · rw [List.mem_singleton.mp hLast]
        exact ⟨now, hOp⟩
  | markHubCommitted intentId result now =>
    rcases Ledger.snd_markHubCommitted intentId result now ledger with hSame | hWritten
    · rw [Ledger.apply, hSame]
      exact h
    · rw [Ledger.apply, hWritten]
      exact forall_updateWhere h fun _ hRow => hRow

theorem eq_of_append_colon {first second rest other : String} (hFirst : ':' ∉ first.toList)
    (hSecond : ':' ∉ second.toList) (h : first ++ (":" ++ rest) = second ++ (":" ++ other)) :
    first = second := by
  have hChars : first.toList ++ ':' :: rest.toList = second.toList ++ ':' :: other.toList := by
    have hLists := congrArg String.toList h
    simpa [String.toList_append] using hLists
  have hTake : ∀ {chars : List Char} (tail : List Char), ':' ∉ chars →
      (chars ++ ':' :: tail).takeWhile (· ≠ ':') = chars := by
    intro chars tail hNone
    rw [List.takeWhile_append_of_pos]
    · simp
    · intro c hC
      simpa using fun hColon : c = ':' => hNone (hColon ▸ hC)
  have hParts := congrArg (List.takeWhile (· ≠ ':')) hChars
  rw [hTake _ hFirst, hTake _ hSecond] at hParts
  exact String.toList_inj.mp hParts

theorem ids_ne (hTells : TellsApart digests ops) {stored content : IntentContent} {time now : Int}
    (hStored : .getOrCreate stored time ∈ ops) (hNew : .getOrCreate content now ∈ ops)
    (hNames : stored.ownerDomainId ++ ":" ++ stored.ingressRequestId ≠
      content.ownerDomainId ++ ":" ++ content.ingressRequestId) :
    (Ledger.newIntent digests stored time).intentId ≠
        (Ledger.newIntent digests content now).intentId ∧
      (Ledger.newIntent digests stored time).hubCommandId ≠
        (Ledger.newIntent digests content now).hubCommandId := by
  have hIntents : (Ledger.newIntent digests stored time).intentId ≠
      (Ledger.newIntent digests content now).intentId := by
    intro hSame
    have hDigests := (String.append_right_inj _).mp hSame
    have hJoined := hTells.injective _ hStored _ hNew _ List.mem_cons_self _ List.mem_cons_self
      hDigests
    simp only [String.append_assoc] at hJoined hNames
    exact hNames ((String.append_right_inj _).mp hJoined)
  refine ⟨hIntents, fun hSame => hIntents ?_⟩
  have hColon : ∀ {given : IntentContent} {at_ : Int}, .getOrCreate given at_ ∈ ops →
      ':' ∉ (Ledger.newIntent digests given at_).intentId.toList := by
    intro given at_ hGiven
    have hHex := hTells.hex _ hGiven _ (List.mem_cons_self)
    simp only [Ledger.newIntent, Digests.removalIntentId, String.toList_append, List.mem_append,
      not_or]
    exact ⟨by decide, hHex⟩
  have hDigests := (String.append_right_inj _).mp hSame
  have hCommands := hTells.injective _ hStored _ hNew _
    (List.mem_cons_of_mem _ (List.mem_singleton.mpr rfl)) _
    (List.mem_cons_of_mem _ (List.mem_singleton.mpr rfl)) hDigests
  simp only [String.append_assoc] at hCommands
  exact eq_of_append_colon (hColon hStored) (hColon hNew)
    ((String.append_right_inj _).mp hCommands)

theorem accepts_of_separate (hTells : TellsApart digests ops) {ledger : Ledger}
    (hSound : ledger.Sound digests) (hCreated : CreatedBy ops ledger) {content : IntentContent}
    {now : Int} (hOp : .getOrCreate content now ∈ ops)
    (hBindable : Ledger.bindable (Ledger.newIntent digests content now) = true)
    (hEpoch : 0 ≤ content.controllerResetEpoch)
    (hNames : ∀ row ∈ ledger, row.ownerDomainId ++ ":" ++ row.ingressRequestId ≠
      content.ownerDomainId ++ ":" ++ content.ingressRequestId) :
    ledger.accepts (Ledger.newIntent digests content now) = true := by
  rw [Ledger.accepts, decide_eq_true_eq]
  refine ⟨hBindable, hEpoch, fun row hRow => ?_⟩
  obtain ⟨time, hStored⟩ := hCreated row hRow
  obtain ⟨hIntent, hCommand⟩ := ids_ne hTells hStored hOp (hNames row hRow)
  have hId : row.intentId = (Ledger.newIntent digests row.toIntentContent time).intentId :=
    hSound.intentIds row hRow
  have hCommandId : row.hubCommandId =
      (Ledger.newIntent digests row.toIntentContent time).hubCommandId := by
    rw [hSound.commandIds row hRow, hId]
    rfl
  rw [hId, hCommandId]
  exact ⟨hIntent, hCommand⟩

theorem perform_same (hTells : TellsApart digests ops) {values : MemoryLedger}
    (hSound : Ledger.Sound digests (values.map Prod.snd)) (hKeyed : values.Keyed digests)
    (hCreated : CreatedBy ops (values.map Prod.snd)) {op : LedgerOp} (hOp : op ∈ ops)
    (hSeparate : Separate digests (values.map Prod.snd) op) :
    Ledger.perform digests (values.map Prod.snd) op =
      (values.perform digests op).map id (List.map Prod.snd) := by
  cases op with
  | getOrCreate content now =>
    simp only [Ledger.perform, MemoryLedger.perform, Ledger.getOrCreate, MemoryLedger.getOrCreate]
    by_cases hSha : digests.sha256 content.authorizationContextJson ≠
        content.authorizationContextSha256
    · rw [if_pos hSha, if_pos hSha]
      rfl
    · rw [if_neg hSha, if_neg hSha]
      cases hFound : Ledger.findRequest (values.map Prod.snd) content.ownerDomainId
          content.ingressRequestId with
      | some current =>
        obtain ⟨hMem, hKey⟩ := lookup_mem hFound
        rw [MemoryLedger.get_of_requestKey hKeyed hMem hKey]
        simp only
        split
        · rfl
        · rfl
      | none =>
        obtain ⟨hBindable, hEpoch, hNames⟩ := hSeparate (not_not.mp hSha) hFound
        have hAccepts := accepts_of_separate hTells hSound hCreated hOp hBindable hEpoch hNames
        have hAbsent : Dict.get values
            (digests.removalIntentId content.ingressRequestId content.ownerDomainId) = none := by
          rw [Dict.get_eq_none_iff]
          intro item hItem hKey
          rw [Ledger.accepts, decide_eq_true_eq] at hAccepts
          have hFresh := (hAccepts.2.2 item.2 (List.mem_map.mpr ⟨item, hItem, rfl⟩)).1
          exact hFresh ((hKeyed.keys item hItem).symm.trans hKey)
        simp only [hAbsent, hAccepts, if_true]
        exact Prod.ext rfl (Dict.values_set_of_get_none hAbsent _).symm
  | markHubCommitted intentId result now =>
    simp only [Ledger.perform, MemoryLedger.perform, Ledger.markHubCommitted,
      MemoryLedger.markHubCommitted]
    have hLookup : Ledger.findIntent (values.map Prod.snd) intentId = Dict.get values intentId :=
      Dict.lookup_values RemovalIntent.intentId hKeyed.keys intentId
    rw [hLookup]
    cases hFound : Dict.get values intentId with
    | none => rfl
    | some current =>
      simp only
      split
      · rfl
      · exact Prod.ext rfl (MemoryLedger.values_committed hKeyed hFound result now).symm

theorem separate_of_same {values : MemoryLedger}
    (hSound : Ledger.Sound digests (values.map Prod.snd)) {op : LedgerOp}
    (hSame : (Ledger.perform digests (values.map Prod.snd) op).1 = (values.perform digests op).1) :
    Separate digests (values.map Prod.snd) op := by
  cases op with
  | markHubCommitted => trivial
  | getOrCreate content now =>
    intro hSha hNone
    by_cases hAccepts : Ledger.accepts (values.map Prod.snd) (Ledger.newIntent digests content now)
    · rw [Ledger.accepts, decide_eq_true_eq] at hAccepts
      refine ⟨hAccepts.1, hAccepts.2.1, fun row hRow hNames => (hAccepts.2.2 row hRow).1 ?_⟩
      rw [hSound.intentIds row hRow]
      rw [String.append_assoc, String.append_assoc] at hNames
      simp only [Ledger.newIntent, Digests.removalIntentId, String.append_assoc, hNames]
    · exfalso
      have hRefused : (Ledger.perform digests (values.map Prod.snd) (.getOrCreate content now)).1 =
          .error (if Ledger.bindable (Ledger.newIntent digests content now) then .integrity
            else .overflow) := by
        simp only [Ledger.perform, Ledger.getOrCreate]
        rw [if_neg (not_not.mpr hSha), hNone]
        simp only [hAccepts]
        rfl
      rw [hRefused] at hSame
      have hReason := MemoryLedger.getOrCreate_error hSame.symm
      split at hReason
      · rcases hReason with hReason | hReason <;> cases hReason
      · rcases hReason with hReason | hReason <;> cases hReason

end Agreement

def IntentStoresAgree (digests : Digests) (ops : List LedgerOp) : Prop :=
  ∀ before after, ops = before ++ after →
    (sqliteIntents digests).intents ((sqliteIntents digests).after before) =
      (memoryIntents digests).intents ((memoryIntents digests).after before) ∧
    ∀ op rest, after = op :: rest →
      ((sqliteIntents digests).perform ((sqliteIntents digests).after before) op).1 =
        ((memoryIntents digests).perform ((memoryIntents digests).after before) op).1

section Runs

variable {digests : Digests} {ops : List LedgerOp}

theorem keyed_after (digests : Digests) (ops : List LedgerOp) :
    MemoryLedger.Keyed digests ((memoryIntents digests).after ops) :=
  run_invariant (P := MemoryLedger.Keyed digests) (fun _ op h => MemoryLedger.keyed_perform h op)
    MemoryLedger.keyed_nil ops

theorem after_eq_run (digests : Digests) (ops : List LedgerOp) :
    (sqliteIntents digests).after ops = run (Ledger.apply digests) [] ops := by
  have hStep : (sqliteIntents digests).apply = Ledger.apply digests := by
    funext ledger op
    exact Ledger.perform_snd digests ledger op
  rw [IntentStore.after, hStep]
  rfl

theorem sound_after (digests : Digests) (ops : List LedgerOp) :
    Ledger.Sound digests ((sqliteIntents digests).after ops) := by
  rw [after_eq_run]
  exact Ledger.sound_run ops

theorem createdBy_after {before : List LedgerOp} (hBefore : ∀ op ∈ before, op ∈ ops) :
    CreatedBy ops ((sqliteIntents digests).after before) := by
  rw [after_eq_run]
  have hMeets : Meets (Ledger.apply digests) (fun _ op => op ∈ ops) [] before :=
    Meets.of_mem _ hBefore
  refine Meets.run_invariant (fun ledger op hOp h => createdBy_apply hOp h) ?_ hMeets
  exact fun row hRow => absurd hRow List.not_mem_nil

theorem intents_of_meets (hTells : TellsApart digests ops) {before : List LedgerOp}
    (hBefore : ∀ op ∈ before, op ∈ ops)
    (hMeets : Meets (Ledger.apply digests) (Separate digests) [] before) :
    (sqliteIntents digests).after before =
      ((memoryIntents digests).after before).map Prod.snd := by
  induction before using List.reverseRecOn with
  | nil => rfl
  | append_singleton before op ih =>
    rw [meets_append] at hMeets
    have hOps : ∀ op ∈ before, op ∈ ops := fun given hGiven =>
      hBefore given (List.mem_append_left _ hGiven)
    have hSame := ih hOps hMeets.1
    have hSeparate := hMeets.2.1
    rw [← after_eq_run, hSame] at hSeparate
    have hStep := perform_same hTells (hSame ▸ sound_after digests before) (keyed_after digests before)
      (hSame ▸ createdBy_after hOps) (hBefore op (List.mem_append_right _ (List.mem_singleton.mpr rfl)))
      hSeparate
    rw [IntentStore.after_append_singleton, IntentStore.after_append_singleton, hSame]
    exact congrArg Prod.snd hStep

/-- On every run each store keeps one intent for a request, what it froze and the
Hub result it holds, and changes nothing when it refuses; and the two stores agree
all along if and only if every new request can be bound, names an epoch that is
not negative and joins to a text that no stored pair joins to. -/
theorem removal_intent_ledgers (digests : Digests) :
    (sqliteIntents digests).Reliable ∧ (memoryIntents digests).Reliable ∧
    ∀ ops, TellsApart digests ops →
      (IntentStoresAgree digests ops ↔
        Meets (Ledger.apply digests) (Separate digests) [] ops) := by
  refine ⟨Ledger.reliable digests, MemoryLedger.reliable digests, fun ops hTells => ?_⟩
  constructor
  · intro hAgree
    rw [meets_iff]
    intro before op after hSplit
    obtain ⟨hIntents, hResults⟩ := hAgree before (op :: after) hSplit
    have hSame : (sqliteIntents digests).after before =
        ((memoryIntents digests).after before).map Prod.snd := hIntents
    have hReply := hResults op after rfl
    rw [hSame] at hReply
    have hSeparate := separate_of_same (hSame ▸ sound_after digests before) hReply
    rw [← hSame, after_eq_run] at hSeparate
    exact hSeparate
  · rintro hMeets before after rfl
    rw [meets_append] at hMeets
    have hOps : ∀ op ∈ before, op ∈ before ++ after := fun _ hOp => List.mem_append_left _ hOp
    have hSame := intents_of_meets hTells hOps hMeets.1
    refine ⟨hSame, ?_⟩
    rintro op rest rfl
    have hSeparate := hMeets.2.1
    rw [← after_eq_run, hSame] at hSeparate
    have hStep := perform_same hTells (hSame ▸ sound_after digests before) (keyed_after digests before)
      (hSame ▸ createdBy_after hOps) (List.mem_append_right _ List.mem_cons_self) hSeparate
    rw [hSame]
    exact congrArg Prod.fst hStep

end Runs

namespace Joined

def content (ownerDomainId ingressRequestId deviceInstanceId : String) : IntentContent where
  ingressRequestId
  ownerDomainId
  deviceRef :=
    { deviceInstanceId, ownerDomainId, ownerDomainGeneration := 1, claimGeneration := 3
      trustEpoch := 2 }
  actorControllerId := "ectrl-0123456789abcdef0123"
  workloadPrincipalId := "eidolon-local-api"
  controllerResetEpoch := 4
  authorizationContextJson := "\x7b\x7d"
  authorizationContextSha256 := "44136fa355b3678a1146ad16f7e8649e94fb4fc21fe77e8310c060f61caaff8a"
  reason := "owner-removed"

def first : LedgerOp :=
  .getOrCreate (content "owner:a" "device-removal-1" "device-cb2f012772ec") 0

def second : LedgerOp :=
  .getOrCreate (content "owner" "a:device-removal-1" "device-0d2e7c11aa40") 1

def digests : Digests where
  uuid5 _ name :=
    if name = "eidolon-removal-intent-v1:owner:a:device-removal-1" then
      "543646dc05fa5a519ed1943ccf48142b"
    else if name = "eidolon-revoke-claim-v1:removal-intent-543646dc05fa5a519ed1943ccf48142b:" ++
        "device-cb2f012772ec:1:3:2" then
      "4451fdcb39dd51748ecf0313bf419b2c"
    else "3e74d492ff5f548e9f4d8734c77a62fd"
  sha256 _ := "44136fa355b3678a1146ad16f7e8649e94fb4fc21fe77e8310c060f61caaff8a"

theorem tellsApart : TellsApart digests [first, second] where
  injective := by decide +kernel
  hex := by decide +kernel

/-- Two pairs of Owner domain and request that join to one text: the table refuses
the second as a constraint violation, the dictionary as a reused request. -/
theorem joined_requests_answered_differently :
    TellsApart digests [first, second] ∧ ¬ IntentStoresAgree digests [first, second] := by
  refine ⟨tellsApart, fun hAgree => ?_⟩
  have hSame := (hAgree [first] [second] rfl).2 second [] rfl
  revert hSame
  decide +kernel

theorem removal_intent_ledgers_joined :
    TellsApart digests [first, second] ∧
    (IntentStoresAgree digests [first, second] ↔
      Meets (Ledger.apply digests) (Separate digests) [] [first, second]) :=
  ⟨tellsApart, (removal_intent_ledgers digests).2.2 [first, second] tellsApart⟩

end Joined

end EidolonAdmin.Removal
