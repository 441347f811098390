import EidolonAdmin.ControlPlane.Clients

/-! # Which refusals can be reported

For every call of a client and all that it meets, the exact condition under which what the call
raises of its own can be published. A kind that no table lists, and texts of the answer that a
`Refusal` does not hold, are all that stands against it.
-/

namespace EidolonAdmin.ControlPlane

open Foundation Foundation.JsonText
open Text (ofString Encodable Bounded)

section Parts

variable {α β : Type} {world : World}

theorem reports_map_iff (f : α → β) {result : Except Raised α} : Reports (result.map f) ↔ Reports result := by
  cases result with
  | ok value => exact iff_of_true (reports_ok _) (reports_ok _)
  | error raised =>
    constructor
    · rintro h failure hSame
      cases hSame
      exact h failure rfl
    · rintro h failure hSame
      cases hSame
      exact h failure rfl

/-! ## Requests -/

theorem reports_requireCredential {authority kind detail : String} (hAuthority : authority ∈ authorities)
    (hKind : kind ∈ failureKinds) (hDetail : (ofString detail).length ≤ reasonLimit) (token : Text) :
    Reports (requireCredential authority kind detail token) :=
  reports_ite (reports_constant hAuthority hKind hDetail) (reports_ok ())

theorem reports_resolved {serviceId endpointId authority : String} (requiredContract : String)
    (hAuthority : authority ∈ authorities)
    (hMismatch : (ofString ("endpoint contract mismatch for " ++ serviceId ++ "/" ++ endpointId)).length ≤ reasonLimit)
    (hNotReady : (ofString ("service endpoint is not ready: " ++ serviceId ++ "/" ++ endpointId)).length ≤ reasonLimit) :
    Reports (resolve world.python serviceId endpointId requiredContract world.directory >>= fun _ =>
      request authority world.answer) :=
  reports_bind_iff.mpr
    ⟨reports_resolve requiredContract hMismatch hNotReady world.directory, fun _ _ => reports_request hAuthority _⟩

/-! ## Answers -/

theorem reports_relayed_iff {authority : String} (hAuthority : authority ∈ authorities)
    {asks : Except Raised Response} (hAsks : Reports asks) (model : Relayed) :
    Reports (relayed world asks authority model) ↔
      ∀ response, asks = .ok response → response.isSuccess = false → Speakable world.python response :=
  reports_answered_iff hAuthority hAsks _ fun _ => List.forall_mem_nil _

theorem reports_confirmed_iff {authority detail : String} (hAuthority : authority ∈ authorities)
    {asks : Except Raised Response} (hAsks : Reports asks) (model : List Byte → Option α) (holds : α → Bool)
    (hDetail : (ofString detail).length ≤ reasonLimit) :
    Reports (answered world.python asks authority model fun value => [(holds value, detail)]) ↔
      ∀ response, asks = .ok response → response.isSuccess = false → Speakable world.python response :=
  reports_answered_iff hAuthority hAsks model fun _ => List.forall_mem_singleton.mpr hDetail

theorem reports_confirmedBoth_iff {authority first second : String} (hAuthority : authority ∈ authorities)
    {asks : Except Raised Response} (hAsks : Reports asks) (model : List Byte → Option α) (holds holds' : α → Bool)
    (hFirst : (ofString first).length ≤ reasonLimit) (hSecond : (ofString second).length ≤ reasonLimit) :
    Reports (answered world.python asks authority model fun value => [(holds value, first), (holds' value, second)]) ↔
      ∀ response, asks = .ok response → response.isSuccess = false → Speakable world.python response :=
  reports_answered_iff hAuthority hAsks model fun _ =>
    List.forall_mem_cons.mpr ⟨hFirst, List.forall_mem_singleton.mpr hSecond⟩

theorem reports_read_iff {authority : String} (hAuthority : authority ∈ authorities) {asks : Except Raised Response}
    (hAsks : Reports asks) (read : Response → Except Raised α) (hRead : ∀ response, Reports (read response)) :
    Reports (asks >>= fun response =>
        if !response.isSuccess then raiseStatus world.python authority response else read response) ↔
      ∀ response, asks = .ok response → response.isSuccess = false → Speakable world.python response := by
  rw [reports_bind_iff]
  refine (and_iff_right hAsks).trans (forall_congr' fun response => forall_congr' fun _ => ?_)
  cases response.isSuccess with
  | false => simpa using reports_raiseStatus_iff hAuthority response
  | true => simpa using hRead response

theorem bounded_between_iff {head tail : String} {text : Text}
    (h : (ofString head).length + (ofString tail).length ≤ reasonLimit) :
    Bounded 0 reasonLimit (ofString head ++ text ++ ofString tail) ↔
      Encodable text ∧ text.length ≤ reasonLimit - ((ofString head).length + (ofString tail).length) := by
  rw [Bounded, Text.encodable_append, Text.encodable_append, List.length_append, List.length_append]
  have hHead := Text.encodable_ofString head
  have hTail := Text.encodable_ofString tail
  constructor
  · rintro ⟨⟨⟨_, hText⟩, _⟩, _, hLength⟩
    exact ⟨hText, by omega⟩
  · rintro ⟨hText, hLength⟩
    exact ⟨⟨⟨hHead, hText⟩, hTail⟩, Nat.zero_le _, by omega⟩

theorem reports_isValueError {result : Except Raised α} (hResult : Reports result) (error : LoadsError) :
    Reports (if isValueError error then result else .error .escaped) :=
  reports_ite hResult reports_escaped

end Parts

/-! ## Data -/

section Data

open DataAuthorityClient

variable {world : World} {token : Text}

inductive DataCall where
  | getCompanion (companionId : Text)
  | listOwnerCompanions (ownerId : Text)
  | getOwnerCompanion (ownerId companionId : Text)
  | renameCompanion (companionId : Text)
  | getPersonaTimeline
  | restorePersona
  | personaAuthoringTemplate
  | personaPresets
  | getPersona
  | authorPersona
  | getCompanionFaceState
  | getCompanionFace
  | setCompanionFace
  | clearCompanionFace
  | getOwnerDefaultRuntime (ownerId : Text)

namespace DataCall

def perform (world : World) (token : Text) : DataCall → Except Raised Unit
  | getCompanion companionId => (DataAuthorityClient.getCompanion world token companionId).map fun _ => ()
  | listOwnerCompanions ownerId => (DataAuthorityClient.listOwnerCompanions world token ownerId).map fun _ => ()
  | getOwnerCompanion ownerId companionId =>
    (DataAuthorityClient.getOwnerCompanion world token ownerId companionId).map fun _ => ()
  | renameCompanion companionId => (DataAuthorityClient.renameCompanion world token companionId).map fun _ => ()
  | getPersonaTimeline => (DataAuthorityClient.getPersonaTimeline world token).map fun _ => ()
  | restorePersona => (DataAuthorityClient.restorePersona world token).map fun _ => ()
  | personaAuthoringTemplate => (DataAuthorityClient.personaAuthoringTemplate world token).map fun _ => ()
  | personaPresets => (DataAuthorityClient.personaPresets world token).map fun _ => ()
  | getPersona => (DataAuthorityClient.getPersona world token).map fun _ => ()
  | authorPersona => (DataAuthorityClient.authorPersona world token).map fun _ => ()
  | getCompanionFaceState => (DataAuthorityClient.getCompanionFaceState world token).map fun _ => ()
  | getCompanionFace => (DataAuthorityClient.getCompanionFace world token).map fun _ => ()
  | setCompanionFace => (DataAuthorityClient.setCompanionFace world token).map fun _ => ()
  | clearCompanionFace => (DataAuthorityClient.clearCompanionFace world token).map fun _ => ()
  | getOwnerDefaultRuntime ownerId => (DataAuthorityClient.getOwnerDefaultRuntime world token ownerId).map fun _ => ()

def asks (world : World) (token : Text) : DataCall → Except Raised Response
  | getOwnerDefaultRuntime _ => call world token "companion-runtime-authority.http" dataRuntimeContract
  | _ => companionCall world token

/-- The answers that leave a call something to report: a face is served without a sentence of Data's,
and one that Data refuses is called `rejected`, which is no kind. -/
def Tells (python : Python) (response : Response) : DataCall → Prop
  | getCompanionFace => True
  | setCompanionFace => faceRefused response = false ∧ (response.isSuccess = false → Speakable python response)
  | _ => response.isSuccess = false → Speakable python response

end DataCall

theorem reports_dataCall {endpointId : String} (requiredContract : String)
    (hMismatch : (ofString ("endpoint contract mismatch for " ++ "data" ++ "/" ++ endpointId)).length ≤ reasonLimit)
    (hNotReady : (ofString ("service endpoint is not ready: " ++ "data" ++ "/" ++ endpointId)).length ≤ reasonLimit) :
    Reports (call world token endpointId requiredContract) :=
  reports_bind_iff.mpr ⟨reports_requireCredential (by decide) (by decide) (by decide) token,
    fun _ _ => reports_resolved requiredContract (by decide) hMismatch hNotReady⟩

theorem reports_companionCall : Reports (companionCall world token) :=
  reports_dataCall dataContract (by decide) (by decide)

theorem reports_getCompanionFace : Reports (getCompanionFace world token) := by
  refine reports_bind_iff.mpr ⟨reports_companionCall, fun response _ => ?_⟩
  refine reports_ite (reports_ok none) (reports_ite ?_ (reports_ite ?_ (reports_ok _)))
  · exact reports_constant (by decide) (by decide) (by decide)
  · exact reports_raiseViolation (by decide) (by decide)

theorem not_reports_rejected (status : Nat) :
    ¬ Reports (.error (.authority
      ⟨"data", "rejected", ofString "companion face was refused", status, none, false, none⟩) :
        Except Raised (List Byte)) := by
  rw [reports_authority_iff, AuthorityFailure.reportable_iff]
  exact fun h => absurd h.2.1 (by dsimp only; decide)

theorem reports_setCompanionFace_iff :
    Reports (setCompanionFace world token) ↔
      ∀ response, companionCall world token = .ok response →
        faceRefused response = false ∧ (response.isSuccess = false → Speakable world.python response) := by
  rw [setCompanionFace, reports_bind_iff]
  refine (and_iff_right reports_companionCall).trans (forall_congr' fun response => forall_congr' fun _ => ?_)
  cases faceRefused response with
  | true => exact iff_of_false (not_reports_rejected response.status) fun h => absurd h.1 (by decide)
  | false =>
    refine (reports_relayed_iff (by decide) (reports_ok response) .companionFace).trans ?_
    simp

theorem DataCall.reports_iff (operation : DataCall) :
    Reports (operation.perform world token) ↔
      ∀ response, operation.asks world token = .ok response → operation.Tells world.python response := by
  have hAsks : Reports (companionCall world token) := reports_companionCall
  cases operation with
  | getCompanion companionId =>
    exact (reports_map_iff _).trans (reports_confirmed_iff (by decide) hAsks _ _ (by decide))
  | listOwnerCompanions ownerId =>
    exact (reports_map_iff _).trans (reports_confirmed_iff (by decide) hAsks _ _ (by decide))
  | getOwnerCompanion ownerId companionId =>
    exact (reports_map_iff _).trans (reports_confirmed_iff (by decide) hAsks _ _ (by decide))
  | renameCompanion companionId =>
    exact (reports_map_iff _).trans (reports_confirmed_iff (by decide) hAsks _ _ (by decide))
  | getPersonaTimeline => exact (reports_map_iff _).trans (reports_relayed_iff (by decide) hAsks _)
  | restorePersona => exact (reports_map_iff _).trans (reports_relayed_iff (by decide) hAsks _)
  | personaAuthoringTemplate => exact (reports_map_iff _).trans (reports_relayed_iff (by decide) hAsks _)
  | personaPresets => exact (reports_map_iff _).trans (reports_relayed_iff (by decide) hAsks _)
  | getPersona => exact (reports_map_iff _).trans (reports_relayed_iff (by decide) hAsks _)
  | authorPersona => exact (reports_map_iff _).trans (reports_relayed_iff (by decide) hAsks _)
  | getCompanionFaceState => exact (reports_map_iff _).trans (reports_relayed_iff (by decide) hAsks _)
  | getCompanionFace =>
    exact (reports_map_iff _).trans (iff_of_true reports_getCompanionFace fun _ _ => trivial)
  | setCompanionFace => exact (reports_map_iff _).trans reports_setCompanionFace_iff
  | clearCompanionFace => exact (reports_map_iff _).trans (reports_relayed_iff (by decide) hAsks _)
  | getOwnerDefaultRuntime ownerId =>
    refine (reports_map_iff _).trans (reports_confirmed_iff (by decide) ?_ _ _ (by decide))
    exact reports_dataCall dataRuntimeContract (by decide) (by decide)

end Data

section Workspace

variable {world : World} {token : Text}

inductive WorkspaceCall where
  | smarthomeRegistry
  | begin (operationId requestFingerprint : Text)
  | getOwner (ownerId : Text)
  | renameOwner (ownerId : Text)
  | provisionCompanion (operationId : Text)
  | setDefaultCompanion (ownerId companionId : Text)
  | listGovernanceEvents (ownerId : Text)
  | setCompanionLifecycle (companionId lifecycleState : Text)
  | get (operationId : Text)

def WorkspaceCall.perform (world : World) (token : Text) : WorkspaceCall → Except Raised Unit
  | smarthomeRegistry => (DataWorkspaceAuthorityClient.smarthomeRegistry world token).map fun _ => ()
  | begin operationId requestFingerprint =>
    (DataWorkspaceAuthorityClient.initializeWorkspace world token operationId requestFingerprint).map fun _ => ()
  | getOwner ownerId => (DataWorkspaceAuthorityClient.getOwner world token ownerId).map fun _ => ()
  | renameOwner ownerId => (DataWorkspaceAuthorityClient.renameOwner world token ownerId).map fun _ => ()
  | provisionCompanion operationId =>
    (DataWorkspaceAuthorityClient.provisionCompanion world token operationId).map fun _ => ()
  | setDefaultCompanion ownerId companionId =>
    (DataWorkspaceAuthorityClient.setDefaultCompanion world token ownerId companionId).map fun _ => ()
  | listGovernanceEvents ownerId =>
    (DataWorkspaceAuthorityClient.listGovernanceEvents world token ownerId).map fun _ => ()
  | setCompanionLifecycle companionId lifecycleState =>
    (DataWorkspaceAuthorityClient.setCompanionLifecycle world token companionId lifecycleState).map fun _ => ()
  | get operationId => (DataWorkspaceAuthorityClient.get world token operationId).map fun _ => ()

theorem reports_workspaceCall : Reports (DataWorkspaceAuthorityClient.call world token) :=
  reports_bind_iff.mpr ⟨reports_requireCredential (by decide) (by decide) (by decide) token,
    fun _ _ => reports_resolved dataWorkspaceContract (by decide) (by decide) (by decide)⟩

theorem WorkspaceCall.reports_iff (operation : WorkspaceCall) :
    Reports (operation.perform world token) ↔
      ∀ response, DataWorkspaceAuthorityClient.call world token = .ok response →
        response.isSuccess = false → Speakable world.python response := by
  have hAsks : Reports (DataWorkspaceAuthorityClient.call world token) := reports_workspaceCall
  cases operation with
  | smarthomeRegistry => exact (reports_map_iff _).trans (reports_relayed_iff (by decide) hAsks _)
  | begin operationId requestFingerprint =>
    exact (reports_map_iff _).trans (reports_confirmedBoth_iff (by decide) hAsks _ _ _ (by decide) (by decide))
  | getOwner ownerId => exact (reports_map_iff _).trans (reports_confirmed_iff (by decide) hAsks _ _ (by decide))
  | renameOwner ownerId => exact (reports_map_iff _).trans (reports_confirmed_iff (by decide) hAsks _ _ (by decide))
  | provisionCompanion operationId =>
    exact (reports_map_iff _).trans (reports_confirmed_iff (by decide) hAsks _ _ (by decide))
  | setDefaultCompanion ownerId companionId =>
    exact (reports_map_iff _).trans (reports_confirmedBoth_iff (by decide) hAsks _ _ _ (by decide) (by decide))
  | listGovernanceEvents ownerId =>
    exact (reports_map_iff _).trans (reports_confirmed_iff (by decide) hAsks _ _ (by decide))
  | setCompanionLifecycle companionId lifecycleState =>
    exact (reports_map_iff _).trans (reports_confirmedBoth_iff (by decide) hAsks _ _ _ (by decide) (by decide))
  | get operationId => exact (reports_map_iff _).trans (reports_confirmed_iff (by decide) hAsks _ _ (by decide))

end Workspace

/-! ## Memory -/

section Supervisor

open MemorySupervisorClient

variable {world : World}

theorem reports_requestReconcile : Reports (requestReconcile world) := by
  unfold requestReconcile
  cases world.answer with
  | response response => exact reports_ok _
  | unreachable => exact reports_ok false
  | escaped => exact reports_escaped

def RealmsTell (world : World) (response : Response) : Prop :=
  ∀ text, readRealms world response = .ok (.error text) → Encodable text ∧ text.length ≤ reasonLimit - 28

theorem reports_readRealms (response : Response) : Reports (readRealms world response) := by
  unfold readRealms
  cases response.json world.python with
  | error error => exact reports_isValueError (reports_ok _) error
  | ok document => exact reports_ok _

/-- The supervisor's statuses from 400 on are called `runtime_unavailable`, which is no kind. -/
theorem reports_listRealms_iff :
    Reports (listRealms world) ↔
      ∀ response, world.answer = .response response → response.status < 400 ∧ RealmsTell world response := by
  unfold listRealms
  cases world.answer with
  | unreachable => exact iff_of_true reports_escaped fun _ h => nomatch h
  | escaped => exact iff_of_true reports_escaped fun _ h => nomatch h
  | response response =>
    simp only [Exchange.response.injEq, forall_eq']
    by_cases hStatus : response.status ≥ 400
    · rw [if_pos hStatus]
      refine iff_of_false ?_ fun h => absurd h.1 (Nat.not_lt.mpr hStatus)
      rw [reports_authority_iff, AuthorityFailure.reportable_iff]
      exact fun h => absurd h.2.1 (by dsimp only; decide)
    · rw [if_neg hStatus, reports_bind_iff]
      refine (and_iff_right (reports_readRealms response)).trans ?_
      refine Iff.trans ?_ (and_iff_right (Nat.lt_of_not_le hStatus)).symm
      have hFits : ∀ text, Bounded 0 reasonLimit (ofString "invalid realm runtime page: " ++ text) ↔
          Encodable text ∧ text.length ≤ reasonLimit - 28 := fun text => by
        have h := @bounded_between_iff "invalid realm runtime page: " "" text (by decide)
        rwa [show ofString "" = [] from rfl, List.append_nil] at h
      constructor
      · intro h text hText
        have hReports := h _ hText
        rw [reports_authority_iff, AuthorityFailure.reportable_iff] at hReports
        exact (hFits text).mp hReports.2.2.1
      · intro h read hRead
        cases read with
        | ok page => exact reports_ok page
        | error text =>
          have hText := (hFits text).mpr (h text hRead)
          refine reports_authority_iff.mpr (AuthorityFailure.reportable_iff.mpr ⟨?_, ?_, hText, fun _ hCode => nomatch hCode⟩)
          · exact (by decide : "memory" ∈ authorities)
          · exact (by decide : "contract_violation" ∈ failureKinds)

end Supervisor

section Recollections

open MemoryRecollectionsClient

variable {world : World} {token : Text}

inductive MemoryCall where
  | recollections
  | browse
  | status
  | graph
  | entries
  | exportMemory
  | forgetPreview
  | forgetConfirm
  | forgetStatus

namespace MemoryCall

def perform (world : World) (token ownerId : Text) : MemoryCall → Except Raised Unit
  | recollections => (MemoryRecollectionsClient.recollections world token ownerId).map fun _ => ()
  | browse => (MemoryRecollectionsClient.browse world token ownerId).map fun _ => ()
  | status => (MemoryRecollectionsClient.status world token ownerId).map fun _ => ()
  | graph => (MemoryRecollectionsClient.graph world token ownerId).map fun _ => ()
  | entries => (MemoryRecollectionsClient.entries world token ownerId).map fun _ => ()
  | exportMemory => (MemoryRecollectionsClient.exportMemory world token ownerId).map fun _ => ()
  | forgetPreview => (MemoryRecollectionsClient.forgetPreview world token ownerId).map fun _ => ()
  | forgetConfirm => (MemoryRecollectionsClient.forgetConfirm world token ownerId).map fun _ => ()
  | forgetStatus => (MemoryRecollectionsClient.forgetStatus world token ownerId).map fun _ => ()

def leaf : MemoryCall → String
  | recollections => "recollections"
  | browse => "browse"
  | status => "status"
  | graph => "graph"
  | entries => "entries"
  | exportMemory => "export"
  | forgetPreview => "forget/preview"
  | forgetConfirm => "forget/confirm"
  | forgetStatus => "forget/status"

end MemoryCall

/-- The realms' names fit into the sentence about them: about a lone realm that is read but not
running, and about more than one. -/
def Nameable (python : Python) : List Realm → Prop
  | [] => True
  | [realm] =>
    nonEmptyText (Dict.get realm (ofString "recollections_url")) ≠ none → isRunning python realm = false →
      Encodable (realmName realm) ∧ (realmName realm).length ≤ reasonLimit - 43
  | realms =>
    (∀ realm ∈ realms, Encodable (realmName realm)) ∧
      ((realms.map realmName).map List.length).sum + 2 * (realms.length - 1) ≤ reasonLimit - 118

theorem reports_discover (ownerId : Text) : Reports (discover world ownerId) := by
  refine reports_bind_iff.mpr ⟨reports_request (by decide) _, fun response _ => ?_⟩
  refine reports_ite (reports_constant (by decide) (by decide) (by decide)) ?_
  cases response.json world.python with
  | error error => exact reports_isValueError (reports_raiseViolation (by decide) (by decide)) error
  | ok document =>
    dsimp only
    cases memoryRealms document with
    | none => exact reports_raiseViolation (by decide) (by decide)
    | some realms => exact reports_ok _

/-- Sorting the names changes neither what they hold nor how long they are together. -/
theorem bounded_ambiguous_iff (first second : Realm) (rest : List Realm) :
    Bounded 0 reasonLimit (ambiguous (first :: second :: rest)) ↔
      Nameable world.python (first :: second :: rest) := by
  have hPerm := List.mergeSort_perm ((first :: second :: rest).map realmName) fun a b => decide (a ≤ b)
  rw [ambiguous, bounded_between_iff (by decide)]
  generalize ((first :: second :: rest).map realmName).mergeSort (fun a b => decide (a ≤ b)) = names at hPerm
  have hEncodable : (∀ text ∈ names, Encodable text) ↔
      ∀ realm ∈ first :: second :: rest, Encodable (realmName realm) := by
    simp only [hPerm.mem_iff]
    exact List.forall_mem_map
  have hLength : ((ofString ", ").intercalate names).length =
      (((first :: second :: rest).map realmName).map List.length).sum + 2 * (rest.length + 1) := by
    have hCount := hPerm.length_eq
    rw [← (hPerm.map List.length).sum_eq]
    cases names with
    | nil => simp at hCount
    | cons text names =>
      rw [Text.length_intercalate]
      simp only [List.length_cons, List.length_map, Nat.add_right_cancel_iff] at hCount
      rw [hCount]
      rfl
  rw [Text.encodable_intercalate_iff (Text.encodable_ofString _), hEncodable, hLength]
  rfl

theorem reports_readSurface_iff (realms : List Realm) :
    Reports (readSurface world realms) ↔ Nameable world.python realms := by
  match realms with
  | [] => exact iff_of_true (reports_constant (by decide) (by decide) (by decide)) trivial
  | [realm] =>
    unfold readSurface Nameable
    dsimp only
    cases nonEmptyText (Dict.get realm (ofString "recollections_url")) with
    | none =>
      dsimp only
      exact iff_of_true (reports_raiseViolation (by decide) (by decide)) fun h => absurd rfl h
    | some url =>
      dsimp only
      cases isRunning world.python realm with
      | true =>
        rw [if_pos rfl]
        exact iff_of_true (reports_ok url) fun _ h => nomatch h
      | false =>
        rw [if_neg (by decide), reports_authority_iff, AuthorityFailure.reportable_iff, notRunning]
        dsimp only
        rw [bounded_between_iff (by decide), and_iff_right (by decide), and_iff_right (by decide)]
        refine Iff.trans ?_ (forall_prop_of_true (Option.some_ne_none url)).symm
        refine Iff.trans ?_ (forall_prop_of_true rfl).symm
        exact and_iff_left fun _ hCode => nomatch hCode
  | first :: second :: rest =>
    rw [← bounded_ambiguous_iff]
    unfold readSurface
    dsimp only
    rw [reports_authority_iff, AuthorityFailure.reportable_iff]
    dsimp only
    rw [and_iff_right (by decide), and_iff_right (by decide)]
    exact and_iff_left fun _ hCode => nomatch hCode

def DiscoveryTells (world : World) (token ownerId : Text) : Prop :=
  token ≠ [] → ∀ realms, discover world ownerId = .ok realms → Nameable world.python realms

theorem reports_realmPath (publishedUrl leaf : Text) : Reports (realmPath publishedUrl leaf) := by
  unfold realmPath
  cases rpartition (ofString "/api/memory/v1/") publishedUrl with
  | none => exact reports_raiseViolation (by decide) (by decide)
  | some head => exact reports_ok _

theorem requireCredential_eq_ok_iff {authority kind detail : String} :
    requireCredential authority kind detail token = .ok () ↔ token ≠ [] := by
  unfold requireCredential
  split_ifs with hToken
  · exact iff_of_false (fun h => nomatch h) fun h => h hToken
  · exact iff_of_true rfl hToken

theorem reports_realmCall_iff (ownerId : Text) (leaf : String) :
    Reports (realmCall world token ownerId leaf) ↔ DiscoveryTells world token ownerId := by
  have hRest : ∀ space, Reports (realmPath space (ofString leaf) >>= fun _ => request "memory" world.answer) :=
    fun space => reports_bind_iff.mpr ⟨reports_realmPath _ _, fun _ _ => reports_request (by decide) _⟩
  rw [realmCall, reports_bind_iff]
  refine (and_iff_right (reports_requireCredential (by decide) (by decide) (by decide) token)).trans ?_
  have hSpace : Reports (spaceFor world ownerId) ↔
      ∀ realms, discover world ownerId = .ok realms → Nameable world.python realms := by
    rw [spaceFor, reports_bind_iff]
    refine (and_iff_right (reports_discover ownerId)).trans ?_
    exact forall_congr' fun realms => forall_congr' fun _ => reports_readSurface_iff realms
  rw [DiscoveryTells, ← hSpace, ← requireCredential_eq_ok_iff]
  constructor
  · exact fun h hToken => (reports_bind_iff.mp (h () hToken)).1
  · exact fun h _ hToken => reports_bind_iff.mpr ⟨h hToken, fun space _ => hRest space⟩

theorem reports_realmRelayed_iff (ownerId : Text) (leaf : String) (model : Relayed) :
    Reports (relayed world (realmCall world token ownerId leaf) "memory" model) ↔
      DiscoveryTells world token ownerId ∧
        ∀ response, realmCall world token ownerId leaf = .ok response →
          response.isSuccess = false → Speakable world.python response := by
  rw [← reports_realmCall_iff ownerId leaf]
  constructor
  · intro h
    have hAsks := (reports_bind_iff.mp h).1
    exact ⟨hAsks, (reports_relayed_iff (by decide) hAsks model).mp h⟩
  · exact fun h => (reports_relayed_iff (by decide) h.1 model).mpr h.2

theorem MemoryCall.reports_iff (ownerId : Text) (operation : MemoryCall) :
    Reports (operation.perform world token ownerId) ↔
      DiscoveryTells world token ownerId ∧
        ∀ response, realmCall world token ownerId operation.leaf = .ok response →
          response.isSuccess = false → Speakable world.python response := by
  cases operation with
  | recollections => exact (reports_map_iff _).trans (reports_realmRelayed_iff ownerId _ _)
  | browse => exact (reports_map_iff _).trans (reports_realmRelayed_iff ownerId _ _)
  | status => exact (reports_map_iff _).trans (reports_realmRelayed_iff ownerId _ _)
  | graph => exact (reports_map_iff _).trans (reports_realmRelayed_iff ownerId _ _)
  | entries => exact (reports_map_iff _).trans (reports_realmRelayed_iff ownerId _ _)
  | exportMemory => exact (reports_map_iff _).trans (reports_realmRelayed_iff ownerId _ _)
  | forgetPreview => exact (reports_map_iff _).trans (reports_realmRelayed_iff ownerId _ _)
  | forgetConfirm => exact (reports_map_iff _).trans (reports_realmRelayed_iff ownerId _ _)
  | forgetStatus => exact (reports_map_iff _).trans (reports_realmRelayed_iff ownerId _ _)

end Recollections

/-! ## Agent -/

section Agent

variable {world : World} {token : Text}

inductive AgentCall where
  | listConversations
  | listTranscript
  | listTasks
  | getTask (ownerId : Text)
  | cancelTask
  | retryTask
  | companionActivity
  | revokeRuntimeSessions
  | previewPersona

def AgentCall.perform (world : World) (token : Text) : AgentCall → Except Raised Unit
  | listConversations => (AgentActivityClient.listConversations world token).map fun _ => ()
  | listTranscript => (AgentActivityClient.listTranscript world token).map fun _ => ()
  | listTasks => (AgentActivityClient.listTasks world token).map fun _ => ()
  | getTask ownerId => (AgentActivityClient.getTask world token ownerId).map fun _ => ()
  | cancelTask => (AgentActivityClient.cancelTask world token).map fun _ => ()
  | retryTask => (AgentActivityClient.retryTask world token).map fun _ => ()
  | companionActivity => (AgentActivityClient.companionActivity world token).map fun _ => ()
  | revokeRuntimeSessions => (AgentActivityClient.revokeRuntimeSessions world token).map fun _ => ()
  | previewPersona => (AgentActivityClient.previewPersona world token).map fun _ => ()

theorem reports_agentCall : Reports (AgentActivityClient.call world token) :=
  reports_bind_iff.mpr ⟨reports_requireCredential (by decide) (by decide) (by decide) token,
    fun _ _ => reports_request (by decide) _⟩

theorem AgentCall.reports_iff (operation : AgentCall) :
    Reports (operation.perform world token) ↔
      ∀ response, AgentActivityClient.call world token = .ok response →
        response.isSuccess = false → Speakable world.python response := by
  have hAsks : Reports (AgentActivityClient.call world token) := reports_agentCall
  cases operation with
  | listConversations => exact (reports_map_iff _).trans (reports_relayed_iff (by decide) hAsks _)
  | listTranscript => exact (reports_map_iff _).trans (reports_relayed_iff (by decide) hAsks _)
  | listTasks => exact (reports_map_iff _).trans (reports_relayed_iff (by decide) hAsks _)
  | getTask ownerId =>
    refine (reports_map_iff _).trans (reports_bind_iff.trans ?_)
    refine Iff.trans (and_iff_left fun row _ => ?_) (reports_answered_iff (by decide) hAsks _ fun _ => List.forall_mem_nil _)
    exact reports_ite (reports_constant (by decide) (by decide) (by decide)) (reports_ok row)
  | cancelTask => exact (reports_map_iff _).trans (reports_relayed_iff (by decide) hAsks _)
  | retryTask => exact (reports_map_iff _).trans (reports_relayed_iff (by decide) hAsks _)
  | companionActivity => exact (reports_map_iff _).trans (reports_relayed_iff (by decide) hAsks _)
  | revokeRuntimeSessions => exact (reports_map_iff _).trans (reports_relayed_iff (by decide) hAsks _)
  | previewPersona => exact (reports_map_iff _).trans (reports_relayed_iff (by decide) hAsks _)

end Agent

/-! ## Hub -/

section Hub

open HubManagementClient

variable {world : World} {authorization token : Text}

inductive HubCall where
  | decideEnrollment (expectedProposalRevision : Int)
  | deviceConversation (action : String) (sessionId : Option Text)
  | roleGroup (action : String) (sessionId : Option Text)
  | sharedSession (action : String) (sessionId : Option Text)
  | readDeviceOutputConfiguration (deviceRef : Removal.DeviceRef)
  | setDeviceOutputPolicy (allowed : List Text)
  | getEnrollmentRecovery (enrollmentId : Text)
  | listEnrollmentRecovery (ownerDomainId : Text)
  | baseIdentityForKey
  | recordCommissioningStanding
  | withdrawController
  | listAuthorizedEnrollments
  | listClaims (ownerDomainId : Text)
  | listAuthorizedClaims
  | revoke (deviceRef : Removal.DeviceRef) (commandId : Text)
  | getDeviceControlOperation (deviceRef : Removal.DeviceRef)

namespace HubCall

def perform (world : World) (authorization : Text) : HubCall → Except Raised Unit
  | decideEnrollment revision => (HubManagementClient.decideEnrollment world authorization revision).map fun _ => ()
  | deviceConversation action sessionId =>
    (HubManagementClient.deviceConversation world authorization action sessionId).map fun _ => ()
  | roleGroup action sessionId => (HubManagementClient.roleGroup world authorization action sessionId).map fun _ => ()
  | sharedSession action sessionId =>
    (HubManagementClient.sharedSession world authorization action sessionId).map fun _ => ()
  | readDeviceOutputConfiguration deviceRef =>
    (HubManagementClient.readDeviceOutputConfiguration world authorization deviceRef).map fun _ => ()
  | setDeviceOutputPolicy allowed =>
    (HubManagementClient.setDeviceOutputPolicy world authorization allowed).map fun _ => ()
  | getEnrollmentRecovery enrollmentId =>
    (HubManagementClient.getEnrollmentRecovery world authorization enrollmentId).map fun _ => ()
  | listEnrollmentRecovery ownerDomainId =>
    (HubManagementClient.listEnrollmentRecovery world authorization ownerDomainId).map fun _ => ()
  | baseIdentityForKey => (HubManagementClient.baseIdentityForKey world authorization).map fun _ => ()
  | recordCommissioningStanding =>
    (HubManagementClient.recordCommissioningStanding world authorization).map fun _ => ()
  | withdrawController => (HubManagementClient.withdrawController world authorization).map fun _ => ()
  | listAuthorizedEnrollments => (HubManagementClient.listAuthorizedEnrollments world authorization).map fun _ => ()
  | listClaims ownerDomainId => (HubManagementClient.listClaims world authorization ownerDomainId).map fun _ => ()
  | listAuthorizedClaims => (HubManagementClient.listAuthorizedClaims world authorization).map fun _ => ()
  | revoke deviceRef commandId => (HubManagementClient.revoke world authorization deviceRef commandId).map fun _ => ()
  | getDeviceControlOperation deviceRef =>
    (HubManagementClient.getDeviceControlOperation world authorization deviceRef).map fun _ => ()

/-- A call sends nothing for an action that it does not know. -/
def sends : HubCall → Bool
  | deviceConversation action _ | roleGroup action _ => action ∈ ["open", "status", "close"]
  | sharedSession action _ => action ∈ ["open", "close"]
  | _ => true

/-- The calls that read an answer whatever its status is have no refusal to tell. -/
def Tells (python : Python) (response : Response) : HubCall → Prop
  | baseIdentityForKey | recordCommissioningStanding | withdrawController => True
  | _ => response.isSuccess = false → Speakable python response

end HubCall

theorem reports_hubCall : Reports (call world authorization) := by
  refine reports_bind_iff.mpr ⟨reports_resolve hubContract (by decide) (by decide) _, fun _ _ => ?_⟩
  refine reports_bind_iff.mpr ⟨?_, fun _ _ => reports_request (by decide) _⟩
  exact reports_ite (reports_constant (by decide) (by decide) (by decide)) (reports_ok ())

theorem reports_confirmSession (statusModel : Document → Option Text) (sessionId : Option Text)
    (response : Response) : Reports (confirmSession world statusModel sessionId response) := by
  unfold confirmSession
  cases response.json world.python with
  | error error => exact reports_isValueError (reports_raiseViolation (by decide) (by decide)) error
  | ok document =>
    dsimp only
    cases statusModel document with
    | none => exact reports_raiseViolation (by decide) (by decide)
    | some found =>
      cases sessionId with
      | none => exact reports_escaped
      | some expected => exact reports_ite (reports_raiseViolation (by decide) (by decide)) (reports_ok found)

theorem reports_conversationCommand_iff (action : String) (sessionId : Option Text)
    (statusModel : Document → Option Text) :
    Reports (conversationCommand world authorization action sessionId statusModel) ↔
      (action ∈ ["open", "status", "close"] → ∀ response, call world authorization = .ok response →
        response.isSuccess = false → Speakable world.python response) := by
  unfold conversationCommand
  by_cases hAction : action ∈ ["open", "status", "close"]
  · rw [if_neg (not_not_intro hAction), forall_prop_of_true hAction]
    exact reports_read_iff (by decide) reports_hubCall _ (reports_confirmSession statusModel sessionId)
  · rw [if_pos hAction]
    exact iff_of_true reports_escaped fun h => absurd h hAction

theorem reports_confirmSharedSession (action : String) (sessionId : Option Text) (response : Response) :
    Reports (confirmSharedSession world action sessionId response) := by
  unfold confirmSharedSession
  cases response.json world.python with
  | error error => exact reports_isValueError (reports_raiseViolation (by decide) (by decide)) error
  | ok result =>
    cases sessionId with
    | none => exact reports_escaped
    | some expected => exact reports_ite (reports_ok result) (reports_raiseViolation (by decide) (by decide))

theorem reports_sharedSession_iff (action : String) (sessionId : Option Text) :
    Reports (sharedSession world authorization action sessionId) ↔
      (action ∈ ["open", "close"] → ∀ response, call world authorization = .ok response →
        response.isSuccess = false → Speakable world.python response) := by
  unfold sharedSession
  by_cases hAction : action ∈ ["open", "close"]
  · rw [if_neg (not_not_intro hAction), forall_prop_of_true hAction]
    exact reports_read_iff (by decide) reports_hubCall _ (reports_confirmSharedSession action sessionId)
  · rw [if_pos hAction]
    exact iff_of_true reports_escaped fun h => absurd h hAction

theorem reports_unchecked : Reports (unchecked world authorization) := by
  refine reports_bind_iff.mpr ⟨reports_hubCall, fun response _ => ?_⟩
  cases response.json world.python with
  | error error => exact reports_escaped
  | ok document => exact reports_ok document

theorem HubCall.reports_iff (operation : HubCall) :
    Reports (operation.perform world authorization) ↔
      (operation.sends = true → ∀ response, call world authorization = .ok response →
        operation.Tells world.python response) := by
  have hAsks : Reports (call world authorization) := reports_hubCall
  have hUnchecked : Reports (unchecked world authorization) := reports_unchecked
  cases operation with
  | decideEnrollment revision =>
    refine (reports_map_iff _).trans (Iff.trans ?_ (forall_prop_of_true rfl).symm)
    exact reports_confirmed_iff (by decide) hAsks _ _ (by decide)
  | deviceConversation action sessionId =>
    refine (reports_map_iff _).trans ((reports_conversationCommand_iff action sessionId _).trans ?_)
    exact imp_congr_left decide_eq_true_iff.symm
  | roleGroup action sessionId =>
    refine (reports_map_iff _).trans ((reports_conversationCommand_iff action sessionId _).trans ?_)
    exact imp_congr_left decide_eq_true_iff.symm
  | sharedSession action sessionId =>
    refine (reports_map_iff _).trans ((reports_sharedSession_iff action sessionId).trans ?_)
    exact imp_congr_left decide_eq_true_iff.symm
  | readDeviceOutputConfiguration deviceRef =>
    refine (reports_map_iff _).trans (Iff.trans ?_ (forall_prop_of_true rfl).symm)
    exact reports_confirmed_iff (by decide) hAsks _ _ (by decide)
  | setDeviceOutputPolicy allowed =>
    refine (reports_map_iff _).trans (Iff.trans ?_ (forall_prop_of_true rfl).symm)
    exact reports_confirmed_iff (by decide) hAsks _ _ (by decide)
  | getEnrollmentRecovery enrollmentId =>
    refine (reports_map_iff _).trans (Iff.trans ?_ (forall_prop_of_true rfl).symm)
    exact reports_confirmed_iff (by decide) hAsks _ _ (by decide)
  | listEnrollmentRecovery ownerDomainId =>
    refine (reports_map_iff _).trans (Iff.trans ?_ (forall_prop_of_true rfl).symm)
    exact reports_confirmed_iff (by decide) hAsks _ _ (by decide)
  | baseIdentityForKey => exact (reports_map_iff _).trans (iff_of_true hUnchecked fun _ _ _ => trivial)
  | recordCommissioningStanding => exact (reports_map_iff _).trans (iff_of_true hUnchecked fun _ _ _ => trivial)
  | withdrawController => exact (reports_map_iff _).trans (iff_of_true hUnchecked fun _ _ _ => trivial)
  | listAuthorizedEnrollments =>
    refine (reports_map_iff _).trans (Iff.trans ?_ (forall_prop_of_true rfl).symm)
    exact reports_relayed_iff (by decide) hAsks _
  | listClaims ownerDomainId =>
    refine (reports_map_iff _).trans (Iff.trans ?_ (forall_prop_of_true rfl).symm)
    exact reports_confirmed_iff (by decide) hAsks _ _ (by decide)
  | listAuthorizedClaims =>
    refine (reports_map_iff _).trans (Iff.trans ?_ (forall_prop_of_true rfl).symm)
    exact reports_relayed_iff (by decide) hAsks _
  | revoke deviceRef commandId =>
    refine (reports_map_iff _).trans (Iff.trans ?_ (forall_prop_of_true rfl).symm)
    exact reports_confirmed_iff (by decide) hAsks _ _ (by decide)
  | getDeviceControlOperation deviceRef =>
    refine (reports_map_iff _).trans (Iff.trans ?_ (forall_prop_of_true rfl).symm)
    exact reports_confirmed_iff (by decide) hAsks _ _ (by decide)

theorem reports_ask : Reports (HubSmartHomeClient.ask world token) :=
  reports_bind_iff.mpr ⟨reports_requireCredential (by decide) (by decide) (by decide) token,
    fun _ _ => reports_resolved hubContract (by decide) (by decide) (by decide)⟩

theorem reports_readAnswer (response : Response) : Reports (HubSmartHomeClient.readAnswer world response) := by
  unfold HubSmartHomeClient.readAnswer
  split
  · exact reports_isValueError (reports_raiseViolation (by decide) (by decide)) _
  · exact reports_ok _
  · exact reports_raiseViolation (by decide) (by decide)

theorem reports_smartHome_iff :
    Reports (HubSmartHomeClient.call world token) ↔
      ∀ response, HubSmartHomeClient.ask world token = .ok response →
        response.isSuccess = false → Speakable world.python response :=
  reports_read_iff (by decide) reports_ask _ reports_readAnswer

end Hub

/-! ## Kernel -/

section Kernel

variable {world : World}

inductive KernelCall where
  | mount (ownerId deviceId : Text)
  | replaceAssignment (ownerId deviceId : Text) (companionId : Option Text)
  | listBodyEndpoints (ownerId : Text)
  | listMounts (ownerId : Text)

def KernelCall.perform (world : World) : KernelCall → Except Raised Unit
  | mount ownerId deviceId => (KernelMountClient.mount world ownerId deviceId).map fun _ => ()
  | replaceAssignment ownerId deviceId companionId =>
    (KernelMountClient.replaceAssignment world ownerId deviceId companionId).map fun _ => ()
  | listBodyEndpoints ownerId => (KernelMountClient.listBodyEndpoints world ownerId).map fun _ => ()
  | listMounts ownerId => (KernelMountClient.listMounts world ownerId).map fun _ => ()

theorem reports_kernelCall : Reports (KernelMountClient.call world) :=
  reports_resolved kernelContract (by decide) (by decide) (by decide)

theorem KernelCall.reports_iff (operation : KernelCall) :
    Reports (operation.perform world) ↔
      ∀ response, KernelMountClient.call world = .ok response →
        response.isSuccess = false → Speakable world.python response := by
  have hAsks : Reports (KernelMountClient.call world) := reports_kernelCall
  cases operation with
  | mount ownerId deviceId =>
    exact (reports_map_iff _).trans (reports_confirmed_iff (by decide) hAsks _ _ (by decide))
  | replaceAssignment ownerId deviceId companionId =>
    exact (reports_map_iff _).trans (reports_confirmed_iff (by decide) hAsks _ _ (by decide))
  | listBodyEndpoints ownerId =>
    exact (reports_map_iff _).trans (reports_confirmed_iff (by decide) hAsks _ _ (by decide))
  | listMounts ownerId =>
    exact (reports_map_iff _).trans (reports_confirmed_iff (by decide) hAsks _ _ (by decide))

end Kernel

/-! ## Every call -/

inductive Operation where
  | data (token : Text) (call : DataCall)
  | workspace (token : Text) (call : WorkspaceCall)
  | requestReconcile
  | listRealms
  | memory (token ownerId : Text) (call : MemoryCall)
  | agent (token : Text) (call : AgentCall)
  | hub (authorization : Text) (call : HubCall)
  | smartHome (token : Text)
  | kernel (call : KernelCall)

namespace Operation

def perform (world : World) : Operation → Except Raised Unit
  | data token call => call.perform world token
  | workspace token call => call.perform world token
  | requestReconcile => (MemorySupervisorClient.requestReconcile world).map fun _ => ()
  | listRealms => (MemorySupervisorClient.listRealms world).map fun _ => ()
  | memory token ownerId call => call.perform world token ownerId
  | agent token call => call.perform world token
  | hub authorization call => call.perform world authorization
  | smartHome token => (HubSmartHomeClient.call world token).map fun _ => ()
  | kernel call => call.perform world

/-- The answer to the request of the call leaves it something to report, and so does what the
discovery answers before it. -/
def Tellable (world : World) : Operation → Prop
  | data token call => ∀ response, call.asks world token = .ok response → call.Tells world.python response
  | workspace token _ =>
    ∀ response, DataWorkspaceAuthorityClient.call world token = .ok response →
      response.isSuccess = false → Speakable world.python response
  | requestReconcile => True
  | listRealms => ∀ response, world.answer = .response response → response.status < 400 ∧ RealmsTell world response
  | memory token ownerId call =>
    DiscoveryTells world token ownerId ∧
      ∀ response, MemoryRecollectionsClient.realmCall world token ownerId call.leaf = .ok response →
        response.isSuccess = false → Speakable world.python response
  | agent token _ =>
    ∀ response, AgentActivityClient.call world token = .ok response →
      response.isSuccess = false → Speakable world.python response
  | hub authorization call =>
    call.sends = true → ∀ response, HubManagementClient.call world authorization = .ok response →
      call.Tells world.python response
  | smartHome token =>
    ∀ response, HubSmartHomeClient.ask world token = .ok response →
      response.isSuccess = false → Speakable world.python response
  | kernel _ =>
    ∀ response, KernelMountClient.call world = .ok response →
      response.isSuccess = false → Speakable world.python response

/-- What a call raises of its own can be reported exactly where the answers leave it something to. -/
theorem reports_iff_tellable (operation : Operation) (world : World) :
    Reports (operation.perform world) ↔ operation.Tellable world := by
  cases operation with
  | data token call => exact call.reports_iff
  | workspace token call => exact call.reports_iff
  | requestReconcile => exact (reports_map_iff _).trans (iff_of_true reports_requestReconcile trivial)
  | listRealms => exact (reports_map_iff _).trans reports_listRealms_iff
  | memory token ownerId call => exact call.reports_iff ownerId
  | agent token call => exact call.reports_iff
  | hub authorization call => exact call.reports_iff
  | smartHome token => exact (reports_map_iff _).trans reports_smartHome_iff
  | kernel call => exact call.reports_iff

end Operation

def unavailableSupervisor : World where
  python := ⟨1000, fun _ => none, fun _ => true, fun _ => none, fun _ _ => []⟩
  contracts := {
    relays := fun _ _ => false
    companionIdentity := fun _ => none
    companionRosterPage := fun _ => none
    companionRuntimeSnapshot := fun _ => none
    workspaceOperation := fun _ => none
    companionProvision := fun _ => none
    ownerIdentity := fun _ => none
    ownerGovernanceEvents := fun _ => none
    companionLifecycleResult := fun _ => none
    taskRow := fun _ => none
    decideEnrollmentResult := fun _ => none
    deviceConversationStatus := fun _ => none
    roleGroupStatus := fun _ => none
    deviceOutputConfiguration := fun _ => none
    deviceOutputPolicy := fun _ => none
    enrollmentRecoveryProjection := fun _ => none
    enrollmentProposalPage := fun _ => none
    claimPage := fun _ => none
    hubClaimRevocationResult := fun _ => none
    deviceLocalEraseOperationStatus := fun _ => none
    kernelMutationResult := fun _ => none
    kernelBodyEndpoint := fun _ => none
    kernelBodyEndpointPage := fun _ => none
    kernelMountPage := fun _ => none
    memoryRealmRuntimePage := fun _ => .error [] }
  directory := .unreachable
  discovery := .unreachable
  answer := .response ⟨503, [], by decide⟩

/-- `list_realms` raises a failure of a kind that the table of public kinds does not have. -/
theorem unavailableSupervisor_not_reported : ¬ Reports (Operation.listRealms.perform unavailableSupervisor) := by
  intro h
  have hReports : Reports (MemorySupervisorClient.listRealms unavailableSupervisor) :=
    (reports_map_iff fun _ => ()).mp h
  have hStatus := (reports_listRealms_iff.mp hReports ⟨503, [], by decide⟩ rfl).1
  exact absurd hStatus (by decide)

end EidolonAdmin.ControlPlane
