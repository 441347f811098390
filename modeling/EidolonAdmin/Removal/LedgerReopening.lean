import EidolonAdmin.Removal.LedgerMigration

/-! # Which older ledgers can be opened

A ledger of version 0 or 1 cannot: the step from version 0 expects a column that its
own script does not copy, and what the step from version 1 accepts the step from
version 2 refuses. Versions 2 and 3 reach version 4, and an intent of version 3 is
resumed as long as its stored Hub result can still be read.
-/

namespace EidolonAdmin.Removal.LedgerMigration

open Foundation Foundation.Sql
open TableName ColumnName

variable {documents : Documents} {digests : Digests}

theorem initializeLedger_error {db : Database} {table : Table ColumnName} {error : OpenError}
    (hTable : db.tables removalIntents = some table)
    (hLadder : ladder documents db = .error error) :
    initializeLedger documents db = .error error := by
  simp only [initializeLedger, hTable, hLadder]

theorem initializeLedger_climbed {db next : Database} {table : Table ColumnName}
    (hTable : db.tables removalIntents = some table) (hLadder : ladder documents db = .ok (4, next)) :
    initializeLedger documents db = checkSchema next := by
  simp [initializeLedger, hTable, hLadder]

theorem rung_other {found version : Nat} (step : Database → Except OpenError Database)
    (db : Database) (h : found ≠ version) : rung version step (found, db) = .ok (found, db) := by
  rw [rung, if_neg h]

theorem rung_error {version : Nat} {step : Database → Except OpenError Database} {db : Database}
    {error : OpenError} (h : step db = .error error) :
    rung version step (version, db) = .error error := by
  rw [rung, if_pos rfl, h]
  rfl

theorem rung_ok {version : Nat} {step : Database → Except OpenError Database} {db next : Database}
    (h : step db = .ok next) : rung version step (version, db) = .ok (version + 1, next) := by
  rw [rung, if_pos rfl, h]
  rfl

theorem initializeLedger_below_two {db last : Database} {table : Table ColumnName}
    (hTable : db.tables removalIntents = some table) (hVersion : db.userVersion < 2) :
    initializeLedger documents db ≠ .ok last := by
  have hLadder : ∃ error, ladder documents db = .error error := by
    unfold ladder
    rcases Nat.lt_succ_iff_lt_or_eq.mp hVersion with hZero | hOne
    · rw [Nat.lt_one_iff.mp hZero]
      cases hStep : migrateGenerationScopedDraft documents db with
      | error error =>
        rw [rung_error hStep]
        exact ⟨error, rfl⟩
      | ok next => exact absurd hStep draft_refused
    · rw [hOne, rung_other _ db (show 1 ≠ 0 by decide)]
      simp only [bind, Except.bind]
      cases hStep : migrateAuthorizationContext documents db with
      | error error =>
        rw [rung_error hStep]
        exact ⟨error, rfl⟩
      | ok next =>
        rw [rung_ok hStep]
        simp only [Nat.reduceAdd]
        cases hNext : migrateAuthorizationContextBytes documents next with
        | error error =>
          rw [rung_error hNext]
          exact ⟨error, rfl⟩
        | ok after => exact absurd hNext (context_refused hTable hStep)
  obtain ⟨error, hError⟩ := hLadder
  rw [initializeLedger_error hTable hError]
  exact fun hOk => by cases hOk

theorem names_upgraded {table : Table ColumnName} (h : Upgradable documents table) :
    SameColumns (upgraded documents table).names columns := by
  rw [sameColumns_iff]
  intro c
  have hAdded : c ∈ (upgraded documents table).names ↔
      c ∈ table.names ∨ c = generationColumn.name := mem_names_addColumn
  rw [hAdded, h.names.mem_iff]
  cases c
  all_goals decide

theorem checkSchema_upgraded {db : Database} {table : Table ColumnName}
    (h : Upgradable documents table) (hKey : requestKey ∈ table.keys) :
    checkSchema (stamped db (upgraded documents table) 4) =
      .ok (stamped db (upgraded documents table) 4) := by
  have hListed := listed_of_table (stamped_tables db (upgraded documents table) 4)
  have hKeys : requestKey ∈ uniqueIndexes (stamped db (upgraded documents table) 4) := by
    rw [uniqueIndexes, stamped_tables]
    exact hKey
  rw [checkSchema, hListed, if_neg (not_not.mpr (names_upgraded h)),
    if_neg (not_not.mpr hKeys)]

theorem initializeLedger_three {db : Database} {table : Table ColumnName}
    (hTable : db.tables removalIntents = some table) (hVersion : db.userVersion = 3)
    (h : Upgradable documents table) (hKey : requestKey ∈ table.keys) :
    initializeLedger documents db = .ok (stamped db (upgraded documents table) 4) := by
  have hLadder : ladder documents db = .ok (4, stamped db (upgraded documents table) 4) := by
    rw [ladder, hVersion]
    simp only [rung_other _ db (show 3 ≠ 0 by decide), rung_other _ db (show 3 ≠ 1 by decide),
      rung_other _ db (show 3 ≠ 2 by decide), bind, Except.bind]
    exact rung_ok (generation_upgrades hTable h)
  rw [initializeLedger_climbed hTable hLadder]
  exact checkSchema_upgraded h hKey

theorem upgradable_bytes {table : Table ColumnName} (hRows : table.rows = [])
    (hNames : SameColumns table.names
      (columnsWithout [ownerDomainGeneration, authorizationContextJson]))
    (hLoose : ∀ key ∈ table.keys, deviceRefJson ∉ key ∧ ownerDomainGeneration ∉ key)
    (hUnchecked : ∀ column ∈ table.columns, column.name = deviceRefJson → column.check = none) :
    Upgradable documents (table.addColumn bytesColumn) := by
  have hNone : (table.addColumn bytesColumn).rows = [] := by simp [Table.addColumn, hRows]
  refine ⟨?_, hLoose, ?_, ?_, ?_, ?_⟩
  · rw [sameColumns_iff]
    intro c
    rw [mem_names_addColumn, hNames.mem_iff]
    cases c
    all_goals decide
  · intro column hColumn hName
    rcases List.mem_append.mp hColumn with hListed | hAdded
    · exact hUnchecked column hListed hName
    · rw [List.mem_singleton.mp hAdded]
      rfl
  · rw [hNone]
    exact fun row hRow => absurd hRow List.not_mem_nil
  · rw [hNone]
    exact .nil
  · rw [hNone]
    exact fun row hRow => absurd hRow List.not_mem_nil

theorem bytes_upgrades {db : Database} {table : Table ColumnName}
    (hTable : db.tables removalIntents = some table) (hRows : table.rows = [])
    (hNames : SameColumns table.names
      (columnsWithout [ownerDomainGeneration, authorizationContextJson])) :
    migrateAuthorizationContextBytes documents db =
      .ok (stamped db (table.addColumn bytesColumn) 3) := by
  have hNew : bytesColumn.name ∉ table.names := by
    rw [hNames.mem_iff]
    decide
  have hCount : rowCount db = 0 := by
    rw [rowCount, hTable, Option.map_some, hRows]
    rfl
  rw [migrateAuthorizationContextBytes, listed_of_table hTable, if_neg (not_not.mpr hNames),
    if_neg (not_not.mpr hCount), bytesScript, runScript,
    Connection.execAll_cons_of_ok (exec_addColumn hTable hNew (by decide))]
  exact runScript_stamp db (table.addColumn bytesColumn) 3

theorem initializeLedger_two {db : Database} {table : Table ColumnName}
    (hTable : db.tables removalIntents = some table) (hVersion : db.userVersion = 2)
    (hRows : table.rows = [])
    (hNames : SameColumns table.names
      (columnsWithout [ownerDomainGeneration, authorizationContextJson]))
    (hUpgradable : Upgradable documents (table.addColumn bytesColumn))
    (hKey : requestKey ∈ table.keys) :
    initializeLedger documents db =
      .ok (stamped db (upgraded documents (table.addColumn bytesColumn)) 4) := by
  have hLadder : ladder documents db =
      .ok (4, stamped db (upgraded documents (table.addColumn bytesColumn)) 4) := by
    rw [ladder, hVersion, rung_other _ db (show 2 ≠ 0 by decide)]
    simp only [bind, Except.bind]
    rw [rung_other _ db (show 2 ≠ 1 by decide)]
    simp only [rung_ok (bytes_upgrades hTable hRows hNames), Nat.reduceAdd]
    rw [rung_ok (generation_upgrades (stamped_tables db _ 3) hUpgradable)]
    simp [stamped, Db.put]
  rw [initializeLedger_climbed hTable hLadder]
  exact checkSchema_upgraded hUpgradable hKey

/-! ## The rows of version 3 -/

/-- A device reference as version 3 wrote it, without the generation of the domain. -/
structure LegacyDeviceRef where
  deviceInstanceId : String
  ownerDomainId : String
  claimGeneration : Int
  trustEpoch : Int

def LegacyDeviceRef.inGeneration (ref : LegacyDeviceRef) (generation : Int) : DeviceRef where
  deviceInstanceId := ref.deviceInstanceId
  ownerDomainId := ref.ownerDomainId
  ownerDomainGeneration := generation
  claimGeneration := ref.claimGeneration
  trustEpoch := ref.trustEpoch

def LegacyDeviceRef.members (ref : LegacyDeviceRef) : List (String × Json) :=
  [("device_instance_id", .str ref.deviceInstanceId), ("owner_domain_id", .str ref.ownerDomainId),
    ("claim_generation", .int ref.claimGeneration), ("trust_epoch", .int ref.trustEpoch)]

def deviceRefMembers (ref : DeviceRef) : List (String × Json) :=
  [("device_instance_id", .str ref.deviceInstanceId), ("owner_domain_id", .str ref.ownerDomainId),
    ("owner_domain_generation", .int ref.ownerDomainGeneration),
    ("claim_generation", .int ref.claimGeneration), ("trust_epoch", .int ref.trustEpoch)]

structure LegacyIntent where
  intentId : String
  ingressRequestId : String
  ownerDomainId : String
  deviceRef : LegacyDeviceRef
  deviceRefJson : String
  actorControllerId : String
  workloadPrincipalId : String
  controllerResetEpoch : Int
  authorizationContextJson : String
  authorizationContextSha256 : String
  reason : String
  hubCommandId : String
  state : IntentState
  hubResultJson : Option String
  createdAt : Int
  updatedAt : Int

def stateText : IntentState → String
  | .accepted => "accepted"
  | .hubRevoked => "hub-revoked"

def readState (value : String) : Option IntentState :=
  if value = "accepted" then some .accepted
  else if value = "hub-revoked" then some .hubRevoked
  else none

namespace LegacyIntent

def encode (documents : Documents) (intent : LegacyIntent) : Row ColumnName
  | .intentId => .text intent.intentId
  | .ingressRequestId => .text intent.ingressRequestId
  | .ownerDomainId => .text intent.ownerDomainId
  | .deviceId => .text intent.deviceRef.deviceInstanceId
  | .ownerDomainGeneration => .null
  | .claimGeneration => .integer intent.deviceRef.claimGeneration
  | .trustEpoch => .integer intent.deviceRef.trustEpoch
  | .deviceRefJson => .text intent.deviceRefJson
  | .actorControllerId => .text intent.actorControllerId
  | .workloadPrincipalId => .text intent.workloadPrincipalId
  | .controllerResetEpoch => .integer intent.controllerResetEpoch
  | .authorizationContextJson => .text intent.authorizationContextJson
  | .authorizationContextSha256 => .text intent.authorizationContextSha256
  | .reason => .text intent.reason
  | .hubCommandId => .text intent.hubCommandId
  | .state => .text (stateText intent.state)
  | .hubResultJson => (intent.hubResultJson.map Value.text).getD .null
  | .createdAt => .text (documents.showTime intent.createdAt)
  | .updatedAt => .text (documents.showTime intent.updatedAt)

/-- The removal submitted again, for the first generation of the domain. -/
def content (intent : LegacyIntent) : IntentContent where
  ingressRequestId := intent.ingressRequestId
  ownerDomainId := intent.ownerDomainId
  deviceRef := intent.deviceRef.inGeneration 1
  actorControllerId := intent.actorControllerId
  workloadPrincipalId := intent.workloadPrincipalId
  controllerResetEpoch := intent.controllerResetEpoch
  authorizationContextJson := intent.authorizationContextJson
  authorizationContextSha256 := intent.authorizationContextSha256
  reason := intent.reason

def resumed (intent : LegacyIntent) (hubResult : Option HubClaimRevocationResult) :
    RemovalIntent where
  toIntentContent := intent.content
  intentId := intent.intentId
  hubCommandId := intent.hubCommandId
  state := intent.state
  createdAt := intent.createdAt
  updatedAt := intent.updatedAt
  hubResult := hubResult

end LegacyIntent

/-! ## Submitting a removal to the opened ledger -/

def readText : Value → Option String
  | .text value => some value
  | _ => none

def readInteger : Value → Option Int
  | .integer value => some value
  | _ => none

/-- The column `hub_result_json`, where NULL is no result. -/
def readHubResult (documents : Documents) : Value → Option (Option HubClaimRevocationResult)
  | .null => some none
  | .text value => ((documents.parse value).bind documents.readResult).map some
  | .integer _ => none

/-- `_decode`, or nothing where it raises. -/
def decodeRow (documents : Documents) (row : Row ColumnName) : Option RemovalIntent := do
  let intentId ← readText (row .intentId)
  let ingressRequestId ← readText (row .ingressRequestId)
  let ownerDomainId ← readText (row .ownerDomainId)
  let reference ← (readText (row .deviceRefJson)).bind documents.parse
  let deviceRef ← documents.readDeviceRef reference
  let actorControllerId ← readText (row .actorControllerId)
  let workloadPrincipalId ← readText (row .workloadPrincipalId)
  let controllerResetEpoch ← readInteger (row .controllerResetEpoch)
  let authorizationContextJson ← readText (row .authorizationContextJson)
  let authorizationContextSha256 ← readText (row .authorizationContextSha256)
  let reason ← readText (row .reason)
  let hubCommandId ← readText (row .hubCommandId)
  let state ← (readText (row .state)).bind readState
  let createdAt ← (readText (row .createdAt)).bind documents.readTime
  let updatedAt ← (readText (row .updatedAt)).bind documents.readTime
  let hubResult ← readHubResult documents (row .hubResultJson)
  return { ingressRequestId, ownerDomainId, deviceRef, actorControllerId, workloadPrincipalId
           controllerResetEpoch, authorizationContextJson, authorizationContextSha256, reason
           intentId, hubCommandId, state, createdAt, updatedAt, hubResult }

/-- How `get_or_create` goes for a stored request, or that it is a new one. -/
inductive Resubmission where
  | hashMismatch
  | unreadable
  | reused
  | resumed (intent : RemovalIntent)
  | new
deriving DecidableEq, Repr

def resubmit (digests : Digests) (documents : Documents) (rows : List (Row ColumnName))
    (content : IntentContent) : Resubmission :=
  if digests.sha256 content.authorizationContextJson ≠ content.authorizationContextSha256 then
    .hashMismatch
  else
    match rows.find? fun row => row ownerDomainId = .text content.ownerDomainId ∧
      row ingressRequestId = .text content.ingressRequestId with
    | none => .new
    | some row =>
      match decodeRow documents row with
      | none => .unreadable
      | some current => if Ledger.sameContent current content then .resumed current else .reused

/-! ## An intent of version 3 in the opened ledger -/

/-- The contract package reads this reference whatever the order of its members. -/
def Documents.ReadsReference (documents : Documents) (ref : DeviceRef) : Prop :=
  ∀ members, members.Perm (deviceRefMembers ref) → documents.readDeviceRef (.obj members) = some ref

def generationMember : String × Json := ("owner_domain_generation", .int 1)

namespace LegacyIntent

/-- The texts of a row that version 3 wrote: its reference is an object of four
members, the object with a fifth one is read as it is written, and so are the times;
the digest is that of the authorization. -/
structure Written (documents : Documents) (digests : Digests) (intent : LegacyIntent) : Prop where
  reference : ∃ members, documents.parse intent.deviceRefJson = some (.obj members) ∧
    members.Perm intent.deviceRef.members ∧
    documents.parse (documents.render (.obj (members ++ [generationMember]))) =
      some (.obj (members ++ [generationMember]))
  created : documents.readTime (documents.showTime intent.createdAt) = some intent.createdAt
  updated : documents.readTime (documents.showTime intent.updatedAt) = some intent.updatedAt
  digest : digests.sha256 intent.authorizationContextJson = intent.authorizationContextSha256

/-- The row holds the intent; version 3 has no column for the generation. -/
def StoredAs (documents : Documents) (intent : LegacyIntent) (row : Row ColumnName) : Prop :=
  ∀ c, c ≠ .ownerDomainGeneration → row c = intent.encode documents c

def readResult (documents : Documents) (intent : LegacyIntent) :
    Option (Option HubClaimRevocationResult) :=
  readHubResult documents (intent.encode documents .hubResultJson)

/-- The intent in the opened ledger: every column is as it was but the reference, which
names the first generation, as the new column does. -/
structure KeptAs (documents : Documents) (intent : LegacyIntent) (row : Row ColumnName) :
    Prop where
  columns : ∀ c, c ≠ .ownerDomainGeneration → c ≠ .deviceRefJson →
    row c = intent.encode documents c
  generation : row .ownerDomainGeneration = .integer 1
  reference : ((readText (row .deviceRefJson)).bind documents.parse).bind
    documents.readDeviceRef = some (intent.deviceRef.inGeneration 1)

theorem setMember_reference {ref : LegacyDeviceRef} {members : List (String × Json)}
    (h : members.Perm ref.members) :
    setMember "owner_domain_generation" (.int 1) (.obj members) =
      .obj (members ++ [generationMember]) := by
  have hNames : "owner_domain_generation" ∉ members.map Prod.fst := by
    rw [(h.map Prod.fst).mem_iff]
    simp [LegacyDeviceRef.members]
  have hNone : ¬ (members.any fun member => member.1 = "owner_domain_generation") = true := by
    intro hAny
    obtain ⟨member, hMember, hName⟩ := List.any_eq_true.mp hAny
    exact hNames (List.mem_map.mpr ⟨member, hMember, by simpa using hName⟩)
  rw [setMember, if_neg hNone]
  rfl

theorem perm_deviceRefMembers {ref : LegacyDeviceRef} {members : List (String × Json)}
    (h : members.Perm ref.members) :
    (members ++ [generationMember]).Perm (deviceRefMembers (ref.inGeneration 1)) := by
  refine (h.append_right [generationMember]).trans ?_
  simp only [LegacyDeviceRef.members, deviceRefMembers, LegacyDeviceRef.inGeneration,
    generationMember, List.cons_append, List.nil_append]
  exact .cons _ (.cons _ ((List.Perm.cons _ (.swap _ _ _)).trans (.swap _ _ _)))

theorem jsonSet_reference {intent : LegacyIntent} (h : intent.Written documents digests)
    {row : Row ColumnName} (hRow : intent.StoredAs documents row) :
    ∃ members, members.Perm (deviceRefMembers (intent.deviceRef.inGeneration 1)) ∧
      documents.parse (documents.render (.obj members)) = some (.obj members) ∧
      documents.jsonSet "owner_domain_generation" (.int 1) (row .deviceRefJson) =
        some (.text (documents.render (.obj members))) := by
  obtain ⟨members, hParse, hPerm, hAgain⟩ := h.reference
  refine ⟨members ++ [generationMember], perm_deviceRefMembers hPerm, hAgain, ?_⟩
  rw [hRow _ (by decide)]
  simp only [encode, Documents.jsonSet, hParse, Option.map_some, setMember_reference hPerm]

theorem keptAs_upgraded {intent : LegacyIntent}
    (hReads : documents.ReadsReference (intent.deviceRef.inGeneration 1)) (h : intent.Written documents digests) {row : Row ColumnName}
    (hRow : intent.StoredAs documents row) :
    intent.KeptAs documents (upgradedRow documents row) := by
  obtain ⟨members, hPerm, hAgain, hSet⟩ := jsonSet_reference h hRow
  refine ⟨?_, ?_, ?_⟩
  · intro c hGeneration hReference
    rw [upgradedRow, Function.update_of_ne hReference, Function.update_of_ne hGeneration]
    exact hRow c hGeneration
  · rw [upgradedRow, Function.update_of_ne (by decide), Function.update_self]
  · rw [upgradedRow, Function.update_self, hSet]
    simp only [Option.getD_some, readText, Option.bind_some, hAgain]
    exact hReads _ hPerm

theorem readState_stateText (state : IntentState) : readState (stateText state) = some state := by
  cases state with
  | accepted => rfl
  | hubRevoked => rfl

theorem decodeRow_kept {intent : LegacyIntent} (h : intent.Written documents digests)
    {row : Row ColumnName} (hKept : intent.KeptAs documents row) :
    decodeRow documents row = (intent.readResult documents).map intent.resumed := by
  obtain ⟨reference, hParse, hRead⟩ := Option.bind_eq_some_iff.mp hKept.reference
  have hColumn : ∀ c, c ≠ .ownerDomainGeneration → c ≠ .deviceRefJson →
      row c = intent.encode documents c := hKept.columns
  unfold decodeRow
  rw [hParse, hColumn .intentId (by decide) (by decide),
    hColumn .ingressRequestId (by decide) (by decide),
    hColumn .ownerDomainId (by decide) (by decide),
    hColumn .actorControllerId (by decide) (by decide),
    hColumn .workloadPrincipalId (by decide) (by decide),
    hColumn .controllerResetEpoch (by decide) (by decide),
    hColumn .authorizationContextJson (by decide) (by decide),
    hColumn .authorizationContextSha256 (by decide) (by decide),
    hColumn .reason (by decide) (by decide), hColumn .hubCommandId (by decide) (by decide),
    hColumn .state (by decide) (by decide), hColumn .createdAt (by decide) (by decide),
    hColumn .updatedAt (by decide) (by decide), hColumn .hubResultJson (by decide) (by decide),
    ← readResult]
  simp only [encode, readText, readInteger, Option.bind_eq_bind, Option.bind_some, hRead,
    readState_stateText, h.created, h.updated]
  cases intent.readResult documents with
  | none => rfl
  | some result => rfl

theorem sameContent_resumed (intent : LegacyIntent) (result : Option HubClaimRevocationResult) :
    Ledger.sameContent (intent.resumed result) intent.content = true := by
  simp [Ledger.sameContent, resumed]

theorem upgradedRow_requestKey (row : Row ColumnName) {c : ColumnName} (h : c ∈ requestKey) :
    upgradedRow documents row c = row c := by
  have hOther : c ≠ .deviceRefJson ∧ c ≠ .ownerDomainGeneration := by
    revert h
    cases c
    all_goals decide
  rw [upgradedRow, Function.update_of_ne hOther.1, Function.update_of_ne hOther.2]

theorem find_request {intents : List LegacyIntent} {rows : List (Row ColumnName)}
    {table : Table ColumnName} (hKey : requestKey ∈ table.keys)
    (hRows : List.Forall₂ (StoredAs documents) intents rows)
    (hDistinct : rows.Pairwise table.Distinct) {intent : LegacyIntent} (hIntent : intent ∈ intents) :
    ∃ row ∈ rows, intent.StoredAs documents row ∧
      (rows.map (upgradedRow documents)).find? (fun row =>
        row .ownerDomainId = .text intent.content.ownerDomainId ∧
        row .ingressRequestId = .text intent.content.ingressRequestId) =
          some (upgradedRow documents row) := by
  induction hRows with
  | nil => cases hIntent
  | @cons head row intents rows hHead hRest ih =>
    obtain ⟨hFirst, hOthers⟩ := List.pairwise_cons.mp hDistinct
    rw [List.map_cons]
    rcases List.mem_cons.mp hIntent with rfl | hLater
    · refine ⟨row, List.mem_cons_self, hHead, List.find?_cons_of_pos ?_⟩
      rw [decide_eq_true_eq, upgradedRow_requestKey row (by decide), upgradedRow_requestKey row (by decide),
        hHead _ (by decide), hHead _ (by decide)]
      exact ⟨rfl, rfl⟩
    · obtain ⟨found, hFound, hStored, hFind⟩ := ih hOthers hLater
      refine ⟨found, List.mem_cons_of_mem _ hFound, hStored, ?_⟩
      rw [List.find?_cons_of_neg, hFind]
      rw [decide_eq_true_eq, upgradedRow_requestKey row (by decide), upgradedRow_requestKey row (by decide)]
      rintro ⟨hDomain, hRequest⟩
      refine hFirst found hFound requestKey hKey ?_
      intro c hC
      simp only [requestKey, List.mem_cons, List.not_mem_nil, or_false] at hC
      rcases hC with rfl | rfl
      · rw [hDomain, hStored _ (by decide)]
        exact ⟨rfl, fun hNull => by cases hNull⟩
      · rw [hRequest, hStored _ (by decide)]
        exact ⟨rfl, fun hNull => by cases hNull⟩

theorem resubmit_upgraded {intents : List LegacyIntent}
    {table : Table ColumnName} (hKey : requestKey ∈ table.keys)
    (hRows : List.Forall₂ (StoredAs documents) intents table.rows)
    (hDistinct : table.rows.Pairwise table.Distinct) {intent : LegacyIntent}
    (hIntent : intent ∈ intents)
    (hReads : documents.ReadsReference (intent.deviceRef.inGeneration 1))
    (hWritten : intent.Written documents digests) :
    resubmit digests documents (upgraded documents table).rows intent.content =
      ((intent.readResult documents).map fun result =>
        Resubmission.resumed (intent.resumed result)).getD .unreadable := by
  obtain ⟨row, _, hStored, hFind⟩ := find_request hKey hRows hDistinct hIntent
  have hDecoded := decodeRow_kept hWritten (keptAs_upgraded hReads hWritten hStored)
  have hDigest : ¬ digests.sha256 intent.content.authorizationContextJson ≠
      intent.content.authorizationContextSha256 := not_not.mpr hWritten.digest
  unfold resubmit
  rw [if_neg hDigest]
  simp only [upgraded, hFind, hDecoded]
  cases intent.readResult documents with
  | none => rfl
  | some result =>
    simp only [Option.map_some]
    exact if_pos (intent.sameContent_resumed result)

end LegacyIntent

/-! ## Opening an older ledger -/

/-- The columns that the steps up to this version leave: those of the table that the
step from version 0 creates, which it copies column for column, and those that the
steps from versions 1 and 2 add. -/
def versionColumns : Nat → List ColumnName
  | 0 | 1 => firstShape.names
  | 2 => firstShape.names ++ contextColumns.map Column.name
  | _ => firstShape.names ++ contextColumns.map Column.name ++ [bytesColumn.name]

/-- A ledger of this version: the columns in any order, the unique key of the version,
and rows that meet the constraints. No key and no check is on the reference. -/
structure AtVersion (v : Nat) (db : Database) (table : Table ColumnName) : Prop where
  found : db.tables removalIntents = some table
  version : db.userVersion = v
  names : SameColumns table.names (versionColumns v)
  key : (if v = 0 then draftKey else requestKey) ∈ table.keys
  loose : ∀ key ∈ table.keys, deviceRefJson ∉ key ∧ ownerDomainGeneration ∉ key
  unchecked : ∀ column ∈ table.columns, column.name = deviceRefJson → column.check = none
  admitted : ∀ row ∈ table.rows, table.Admits row
  distinct : table.rows.Pairwise table.Distinct

/-- Opening reaches version 4 and its columns, keeps every intent, and every removal
that is submitted again is resumed. -/
def Reopens (documents : Documents) (digests : Digests) (db : Database)
    (intents : List LegacyIntent) : Prop :=
  ∃ next table, initializeLedger documents db = .ok next ∧ next.userVersion = 4 ∧
    next.tables removalIntents = some table ∧ SameColumns table.names columns ∧
    List.Forall₂ (LegacyIntent.KeptAs documents) intents table.rows ∧
    ∀ intent ∈ intents, ∃ result,
      resubmit digests documents table.rows intent.content = .resumed (intent.resumed result)

theorem SameColumns.trans {first second third : List ColumnName} (h : SameColumns first second)
    (hNext : SameColumns second third) : SameColumns first third :=
  ⟨fun _ hMem => hNext.1 (h.1 hMem), fun _ hMem => h.2 (hNext.2 hMem)⟩

theorem reopens_two {db : Database} {table : Table ColumnName} (h : AtVersion 2 db table)
    (hRows : table.rows = []) : Reopens documents digests db [] := by
  have hNames : SameColumns table.names
      (columnsWithout [ownerDomainGeneration, authorizationContextJson]) :=
    h.names.trans (by decide)
  have hUpgradable : Upgradable documents (table.addColumn bytesColumn) :=
    upgradable_bytes hRows hNames h.loose h.unchecked
  have hNone : (upgraded documents (table.addColumn bytesColumn)).rows = [] := by
    simp [upgraded, Table.addColumn, hRows]
  refine ⟨_, _, initializeLedger_two h.found h.version hRows hNames hUpgradable h.key,
    rfl, stamped_tables _ _ _, names_upgraded hUpgradable, ?_, ?_⟩
  · rw [hNone]
    exact .nil
  · exact fun intent hIntent => absurd hIntent List.not_mem_nil

theorem forall₂_map_upgraded {intents : List LegacyIntent} {rows : List (Row ColumnName)}
    (hReads : ∀ intent ∈ intents, documents.ReadsReference (intent.deviceRef.inGeneration 1))
    (hRows : List.Forall₂ (LegacyIntent.StoredAs documents) intents rows)
    (hWritten : ∀ intent ∈ intents, intent.Written documents digests) :
    List.Forall₂ (LegacyIntent.KeptAs documents) intents (rows.map (upgradedRow documents)) := by
  induction hRows with
  | nil => exact .nil
  | cons hHead _ ih =>
    exact .cons (LegacyIntent.keptAs_upgraded (hReads _ List.mem_cons_self) (hWritten _ List.mem_cons_self) hHead)
      (ih (fun intent hIntent => hReads intent (List.mem_cons_of_mem _ hIntent))
        fun intent hIntent => hWritten intent (List.mem_cons_of_mem _ hIntent))

theorem exists_storedAs {intents : List LegacyIntent} {rows : List (Row ColumnName)}
    (hRows : List.Forall₂ (LegacyIntent.StoredAs documents) intents rows)
    {row : Row ColumnName} (hRow : row ∈ rows) :
    ∃ intent ∈ intents, intent.StoredAs documents row := by
  induction hRows with
  | nil => cases hRow
  | @cons intent head intents rows hHead _ ih =>
    rcases List.mem_cons.mp hRow with rfl | hLater
    · exact ⟨intent, List.mem_cons_self, hHead⟩
    · obtain ⟨found, hFound, hStored⟩ := ih hLater
      exact ⟨found, List.mem_cons_of_mem _ hFound, hStored⟩

theorem upgradable_three {db : Database} {table : Table ColumnName} (h : AtVersion 3 db table)
    {intents : List LegacyIntent}
    (hRows : List.Forall₂ (LegacyIntent.StoredAs documents) intents table.rows)
    (hWritten : ∀ intent ∈ intents, intent.Written documents digests) :
    Upgradable documents table := by
  refine ⟨h.names.trans (by decide), h.loose, h.unchecked, h.admitted, h.distinct, ?_⟩
  intro row hRow
  obtain ⟨intent, hIntent, hStored⟩ := exists_storedAs hRows hRow
  obtain ⟨members, _, _, hSet⟩ := LegacyIntent.jsonSet_reference (hWritten intent hIntent) hStored
  exact ⟨_, hSet⟩

theorem reopens_three {db : Database} {table : Table ColumnName} (h : AtVersion 3 db table)
    {intents : List LegacyIntent}
    (hReads : ∀ intent ∈ intents, documents.ReadsReference (intent.deviceRef.inGeneration 1))
    (hStored : List.Forall₂ (LegacyIntent.StoredAs documents) intents table.rows)
    (hWritten : ∀ intent ∈ intents, intent.Written documents digests)
    (hResults : ∀ intent ∈ intents, (intent.readResult documents).isSome) :
    Reopens documents digests db intents := by
  have hUpgradable : Upgradable documents table := upgradable_three h hStored hWritten
  refine ⟨_, _, initializeLedger_three h.found h.version hUpgradable h.key, rfl,
    stamped_tables _ _ _, names_upgraded hUpgradable,
    forall₂_map_upgraded hReads hStored hWritten, ?_⟩
  intro intent hIntent
  obtain ⟨result, hResult⟩ := Option.isSome_iff_exists.mp (hResults intent hIntent)
  refine ⟨result, ?_⟩
  rw [LegacyIntent.resubmit_upgraded h.key hStored h.distinct hIntent (hReads intent hIntent)
    (hWritten intent hIntent), hResult, Option.map_some, Option.getD_some]

theorem isSome_of_reopens_three {db : Database} {table : Table ColumnName} (h : AtVersion 3 db table)
    {intents : List LegacyIntent}
    (hReads : ∀ intent ∈ intents, documents.ReadsReference (intent.deviceRef.inGeneration 1))
    (hStored : List.Forall₂ (LegacyIntent.StoredAs documents) intents table.rows)
    (hWritten : ∀ intent ∈ intents, intent.Written documents digests)
    (hReopens : Reopens documents digests db intents) {intent : LegacyIntent}
    (hIntent : intent ∈ intents) : (intent.readResult documents).isSome := by
  obtain ⟨next, opened, hOpen, _, hOpened, _, _, hResumed⟩ := hReopens
  have hNext := initializeLedger_three h.found h.version (upgradable_three h hStored hWritten) h.key
  rw [hOpen] at hNext
  obtain rfl := Except.ok.inj hNext
  rw [stamped_tables] at hOpened
  obtain rfl := Option.some.inj hOpened
  obtain ⟨result, hResult⟩ := hResumed intent hIntent
  rw [LegacyIntent.resubmit_upgraded h.key hStored h.distinct hIntent (hReads intent hIntent)
    (hWritten intent hIntent)] at hResult
  cases hRead : intent.readResult documents with
  | none =>
    rw [hRead] at hResult
    cases hResult
  | some found => rfl

/-- An empty ledger of versions 0 to 3, or a ledger of version 3, is opened with every
intent kept and resumed exactly if it is of version 2 or 3 and its Hub results are read. -/
theorem removal_ledger_reopens_iff {v : Nat} (hV : v ≤ 3) {db : Database}
    {table : Table ColumnName} (h : AtVersion v db table) {intents : List LegacyIntent}
    (hReads : ∀ intent ∈ intents, documents.ReadsReference (intent.deviceRef.inGeneration 1))
    (hStored : List.Forall₂ (LegacyIntent.StoredAs documents) intents table.rows)
    (hRows : intents = [] ∨ v = 3)
    (hWritten : ∀ intent ∈ intents, intent.Written documents digests) :
    Reopens documents digests db intents ↔
      2 ≤ v ∧ ∀ intent ∈ intents, (intent.readResult documents).isSome := by
  constructor
  · intro hReopens
    constructor
    · obtain ⟨next, opened, hOpen, _⟩ := hReopens
      by_contra hOld
      refine initializeLedger_below_two h.found ?_ hOpen
      rw [h.version]
      exact Nat.lt_of_not_le hOld
    · intro intent hIntent
      rcases hRows with rfl | rfl
      · cases hIntent
      · exact isSome_of_reopens_three h hReads hStored hWritten hReopens hIntent
  · rintro ⟨hTwo, hResults⟩
    rcases Nat.lt_or_eq_of_le hV with hLess | rfl
    · obtain rfl : v = 2 := by omega
      obtain rfl : intents = [] := hRows.resolve_right (by decide)
      exact reopens_two h (List.forall₂_nil_left_iff.mp hStored)
    · exact reopens_three h hReads hStored hWritten hResults

/-! ## Stored ledgers -/

namespace StoredLedger

def showValue : Json → String
  | .str value => "\"" ++ value ++ "\""
  | .int value => toString value
  | _ => "null"

def showObject (members : List (String × Json)) : String :=
  "\x7b" ++ ",".intercalate (members.map fun member =>
    "\"" ++ member.1 ++ "\":" ++ showValue member.2) ++ "\x7d"

def reference : LegacyDeviceRef := ⟨"device-1", "owner-1", 3, 1⟩

def readDeviceRef (document : Json) : Option DeviceRef :=
  match document.get "device_instance_id", document.get "owner_domain_id",
    document.get "owner_domain_generation", document.get "claim_generation",
    document.get "trust_epoch" with
  | .str device, .str domain, .int generation, .int claim, .int epoch =>
    some ⟨device, domain, generation, claim, epoch⟩
  | _, _, _, _, _ => none

def texts : Documents where
  parse text :=
    if text = showObject reference.members then some (.obj reference.members)
    else if text = showObject (reference.members ++ [generationMember]) then
      some (.obj (reference.members ++ [generationMember]))
    else none
  render
    | .obj members => showObject members
    | document => showValue document
  readDeviceRef := readDeviceRef
  readResult _ := none
  showTime time := if time = 1785888000 then "2026-08-05T00:00:00Z" else ""
  readTime text := if text = "2026-08-05T00:00:00Z" then some 1785888000 else none

def hashes : Digests := ⟨fun space name => space ++ name, fun text => "sha256:" ++ text⟩

theorem get_of_mem {members : List (String × Json)} (hNames : (members.map Prod.fst).Nodup)
    {name : String} {value : Json} (h : (name, value) ∈ members) :
    (Json.obj members).get name = value := by
  have hFound : members.reverse.find? (fun member => member.1 = name) = some (name, value) := by
    have hReverse : (members.reverse.map Prod.fst).Nodup := by
      rw [List.map_reverse]
      exact List.nodup_reverse.mpr hNames
    have hMem : (name, value) ∈ members.reverse := List.mem_reverse.mpr h
    generalize members.reverse = stored at hReverse hMem
    induction stored with
    | nil => cases hMem
    | cons head stored ih =>
      rw [List.map_cons, List.nodup_cons] at hReverse
      rcases List.mem_cons.mp hMem with rfl | hLater
      · exact List.find?_cons_of_pos (by simp)
      · rw [List.find?_cons_of_neg, ih hReverse.2 hLater]
        intro hSame
        rw [decide_eq_true_eq] at hSame
        exact hReverse.1 (hSame ▸ List.mem_map_of_mem hLater)
  rw [Json.get, Json.get?, hFound]
  rfl

theorem reads_reference (ref : DeviceRef) : texts.ReadsReference ref := by
  intro members hPerm
  have hNames : (members.map Prod.fst).Nodup := by
    rw [(hPerm.map Prod.fst).nodup_iff]
    simp [deviceRefMembers]
  have hGet : ∀ member ∈ deviceRefMembers ref, (Json.obj members).get member.1 = member.2 :=
    fun member hMember => get_of_mem hNames (hPerm.mem_iff.mpr hMember)
  simp only [deviceRefMembers, List.forall_mem_cons, List.not_mem_nil, false_implies,
    implies_true, and_true] at hGet
  obtain ⟨hDevice, hDomain, hGeneration, hClaim, hEpoch⟩ := hGet
  simp only [texts, readDeviceRef, hDevice, hDomain, hGeneration, hClaim, hEpoch]

def ledger (version : Nat) (table : Table ColumnName) : Database where
  tables := Function.update (fun _ => none) removalIntents (some table)
  indexes := []
  userVersion := version

/-- The table that the step from version 0 copies: its own columns, and the older key. -/
def draftTable : Table ColumnName :=
  ⟨{ firstShape with keys := [[intentId], [hubCommandId], draftKey] }, []⟩

def firstTable : Table ColumnName := ⟨firstShape, []⟩

theorem not_reopens_of_below_two {db : Database} {table : Table ColumnName}
    (hTable : db.tables removalIntents = some table) (hVersion : db.userVersion < 2) :
    ¬ Reopens texts hashes db [] := by
  rintro ⟨next, _, hOpen, _⟩
  exact initializeLedger_below_two hTable hVersion hOpen

/-- Empty ledgers of versions 0 and 1 are refused. -/
theorem empty_ledgers_refused :
    (AtVersion 0 (ledger 0 draftTable) draftTable ∧
      initializeLedger texts (ledger 0 draftTable) = .error .unknownVersion ∧
      ¬ Reopens texts hashes (ledger 0 draftTable) []) ∧
    (AtVersion 1 (ledger 1 firstTable) firstTable ∧
      initializeLedger texts (ledger 1 firstTable) = .error .unknownVersion ∧
      ¬ Reopens texts hashes (ledger 1 firstTable) []) := by
  refine ⟨⟨⟨rfl, rfl, by decide, by decide, by decide, by decide, ?_, .nil⟩, rfl, ?_⟩,
    ⟨⟨rfl, rfl, by decide, by decide, by decide, by decide, ?_, .nil⟩, rfl, ?_⟩⟩
  · exact fun row hRow => absurd hRow List.not_mem_nil
  · exact not_reopens_of_below_two rfl (by decide)
  · exact fun row hRow => absurd hRow List.not_mem_nil
  · exact not_reopens_of_below_two rfl (by decide)

def intent : LegacyIntent where
  intentId := "intent-1"
  ingressRequestId := "request-1"
  ownerDomainId := "owner-1"
  deviceRef := reference
  deviceRefJson := showObject reference.members
  actorControllerId := "controller-1"
  workloadPrincipalId := "owner-ingress"
  controllerResetEpoch := 0
  authorizationContextJson := "\x7b\x7d"
  authorizationContextSha256 := "sha256:\x7b\x7d"
  reason := "owner-request"
  hubCommandId := "command-1"
  state := .accepted
  hubResultJson := none
  createdAt := 1785888000
  updatedAt := 1785888000

def thirdTable : Table ColumnName :=
  ⟨{ firstShape with columns := firstShape.columns ++ contextColumns ++ [bytesColumn] },
    [intent.encode texts]⟩

theorem written_intent : intent.Written texts hashes := by
  refine ⟨⟨reference.members, ?_, .refl _, ?_⟩, ?_, ?_, ?_⟩
  · rfl
  · rfl
  · decide +kernel
  · decide +kernel
  · decide +kernel

theorem atVersion_three : AtVersion 3 (ledger 3 thirdTable) thirdTable where
  found := rfl
  version := rfl
  names := by decide
  key := by decide
  loose := by decide
  unchecked := by decide
  admitted := by
    intro row hRow
    rw [List.mem_singleton.mp hRow]
    decide
  distinct := List.pairwise_singleton _ _

theorem removal_ledger_reopens_three :
    Reopens texts hashes (ledger 3 thirdTable) [intent] := by
  have hStored : List.Forall₂ (LegacyIntent.StoredAs texts) [intent] thirdTable.rows :=
    .cons (fun c _ => rfl) .nil
  have hWritten : ∀ stored ∈ [intent], stored.Written texts hashes := by
    intro stored hMem
    rw [List.mem_singleton.mp hMem]
    exact written_intent
  have hResults : ∀ stored ∈ [intent], (stored.readResult texts).isSome := by
    intro stored hMem
    rw [List.mem_singleton.mp hMem]
    rfl
  exact (removal_ledger_reopens_iff (le_refl 3) atVersion_three (fun _ _ => reads_reference _) hStored
    (.inr rfl) hWritten).mpr ⟨by decide, hResults⟩

end StoredLedger

end EidolonAdmin.Removal.LedgerMigration
