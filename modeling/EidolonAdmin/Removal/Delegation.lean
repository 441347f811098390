import EidolonAdmin.Removal.Submission

/-! # What a removal delegation binds

`_handle_connection` of the Lifecycle Workflow daemon from the peer's credential to
its reply, and the calls in which a run names the business Owner. The delegation and
the ledger fix every field of a removal but that one.
-/

namespace EidolonAdmin.Removal

structure UnixPeerCredential where
  pid : Int
  uid : Int
  gid : Int
deriving DecidableEq, Repr

structure ExactUidWorkloadAuthorizer where
  expectedUid : Int
  principalId : String := "eidolon-local-api"

def ExactUidWorkloadAuthorizer.authorize (authorizer : ExactUidWorkloadAuthorizer)
    (credential : UnixPeerCredential) : Option String :=
  if credential.uid ≠ authorizer.expectedUid then none else some authorizer.principalId

structure LifecycleRemovalCall where
  payload : ControllerDeviceRemovalRequest
  authorizationContext : RemovalOwnerAuthorizationContext

/-- One connection: the credential if it can be read, the call if its frame is one,
and what the run reads besides. -/
structure Connection where
  credential : Option UnixPeerCredential
  call : Option LifecycleRemovalCall
  receivedAt : Int
  around : Surroundings

inductive Reply where
  | result (result : DeviceRemovalResult)
  | problem (code detail : String) (statusCode : Int)
deriving DecidableEq, Repr

namespace Reply

def authnInvalid : Reply := problem "AUTHN_INVALID" "Local workload authentication failed" 401

def authzDenied : Reply := problem "AUTHZ_DENIED" "Removal delegation is not authorized" 403

def invalidRequest : Reply := problem "INVALID_REQUEST" "Lifecycle Workflow request is invalid" 422

def ofOutcome : Except Raised DeviceRemovalResult → Reply
  | .ok value => result value
  | .error (.authority failure) => problem "WORKFLOW_FAILURE" failure.detail failure.statusCode
  | .error (.value _) => invalidRequest
  | .error .validation => invalidRequest
  | .error _ => problem "WORKFLOW_UNAVAILABLE" "Lifecycle Workflow is unavailable" 503

end Reply

section Daemon

variable (encoding : Encoding) (ports : HubPorts) (authorizer : ExactUidWorkloadAuthorizer)
  (connection : Connection) (ledger : Ledger)

/-- The workload and the call for which `remove_controller_device` is invoked. -/
def invocation : Except Reply (String × LifecycleRemovalCall) :=
  match connection.credential.bind authorizer.authorize with
  | none => .error .authnInvalid
  | some principalId =>
    match connection.call with
    | none => .error .invalidRequest
    | some call =>
      match admitCall encoding.toDigests principalId call.payload call.authorizationContext
        connection.receivedAt with
      | .error _ => .error .authzDenied
      | .ok () => .ok (principalId, call)

def handleConnection : Option Reply × Ledger :=
  match invocation encoding authorizer connection with
  | .error reply => (some reply, ledger)
  | .ok (principalId, call) =>
    (removeControllerDevice encoding ports call.payload principalId call.authorizationContext
      connection.around ledger).map (Option.map Reply.ofOutcome) id

inductive OwnerCall where
  | issueRemovalIntent (call : CredentialCall)
  | listMounts (ownerId : String)
deriving DecidableEq, Repr

def OwnerCall.ownerId : OwnerCall → String
  | issueRemovalIntent call => call.businessOwnerId
  | listMounts ownerId => ownerId

def observes (intent : RemovalIntent) (authorization : String) (around : Surroundings)
    (opened : Ledger) : Bool :=
  match intent.hubResult with
  | some _ => true
  | none =>
    match ports.revoke (revokeCall intent authorization) with
    | .error _ => false
    | .ok hub =>
      match (ledgerAtAnswer encoding around opened).markHubCommitted intent.intentId hub
        around.committedAt with
      | (.error _, _) => false
      | (.ok _, _) => true

def ownerCalls : List OwnerCall :=
  match invocation encoding authorizer connection, ports.hubCredentials with
  | .ok (principalId, call), some issue =>
    match openIntent encoding call.payload principalId call.authorizationContext
      connection.around.startedAt ledger with
    | (.error _, _) => []
    | (.ok intent, opened) =>
      .issueRemovalIntent (credentialCall call.payload intent) ::
        match issue (credentialCall call.payload intent) with
        | .error _ => []
        | .ok authorization =>
          if observes encoding ports intent authorization connection.around opened then
            [.listMounts call.payload.ownerId]
          else []
  | _, _ => []

def opens (intent : RemovalIntent) : Prop :=
  ∃ principalId call opened, invocation encoding authorizer connection = .ok (principalId, call) ∧
    openIntent encoding call.payload principalId call.authorizationContext
      connection.around.startedAt ledger = (.ok intent, opened)

/-- An invoked removal is that of its delegation, asked for by the one workload. -/
structure Delegated (call : LifecycleRemovalCall) : Prop where
  uid : ∃ credential, connection.credential = some credential ∧
    credential.uid = authorizer.expectedUid
  controller : call.authorizationContext.actorControllerId = call.payload.controllerId
  device : call.authorizationContext.targetDeviceRef.deviceInstanceId = call.payload.deviceId
  intentId : call.authorizationContext.intentId = encoding.removalIntentId call.payload.requestId
    call.authorizationContext.authorizedOwnerDomainId
  audience : call.authorizationContext.ownerAuthorizationContext.audience = "eidolon-admission"
  scopes : ∀ scope, scope ∈ call.authorizationContext.ownerAuthorizationContext.scopes ↔
    scope ∈ removalScopes
  presenter : call.authorizationContext.presenterWorkloadPrincipalId = "eidolon-lifecycle-workflow" ∧
    call.authorizationContext.ownerAuthorizationContext.workloadPrincipalId =
      call.authorizationContext.presenterWorkloadPrincipalId
  epoch : call.authorizationContext.controllerGrantGeneration = call.authorizationContext.resetEpoch

variable {encoding ports authorizer connection ledger}

theorem invocation_eq_ok_iff {principalId : String} {call : LifecycleRemovalCall} :
    invocation encoding authorizer connection = .ok (principalId, call) ↔
      (∃ credential, connection.credential = some credential ∧
        credential.uid = authorizer.expectedUid) ∧
      principalId = authorizer.principalId ∧ connection.call = some call ∧
      admitCall encoding.toDigests principalId call.payload call.authorizationContext
        connection.receivedAt = .ok () := by
  unfold invocation
  cases connection.credential with
  | none => simp
  | some credential =>
    by_cases hUid : credential.uid = authorizer.expectedUid
    · cases connection.call with
      | none => simp [ExactUidWorkloadAuthorizer.authorize, hUid]
      | some received =>
        simp only [Option.bind_some, ExactUidWorkloadAuthorizer.authorize, hUid, ne_eq,
          not_true_eq_false, if_false, Option.some.injEq, exists_eq_left', true_and]
        cases hAdmitted : admitCall encoding.toDigests authorizer.principalId received.payload
            received.authorizationContext connection.receivedAt with
        | error rejection =>
          simp only [reduceCtorEq, false_iff, not_and]
          rintro rfl rfl
          simp [hAdmitted]
        | ok =>
          simp only [Except.ok.injEq, Prod.mk.injEq]
          constructor
          · rintro ⟨rfl, rfl⟩
            exact ⟨rfl, rfl, hAdmitted⟩
          · rintro ⟨rfl, rfl, _⟩
            exact ⟨rfl, rfl⟩
    · simp [ExactUidWorkloadAuthorizer.authorize, hUid]

theorem delegationMatches_of_admitCall {digests : Digests} {principalId : String}
    {payload : ControllerDeviceRemovalRequest} {context : RemovalOwnerAuthorizationContext}
    {receivedAt : Int} (h : admitCall digests principalId payload context receivedAt = .ok ()) :
    delegationMatches digests principalId payload context = true := by
  unfold admitCall at h
  split at h
  · cases h
  · split at h
    · cases h
    · split at h
      · cases h
      · rename_i hMatches
        simpa using hMatches

theorem delegated_of_invocation {principalId : String} {call : LifecycleRemovalCall}
    (h : invocation encoding authorizer connection = .ok (principalId, call)) :
    Delegated encoding authorizer connection call := by
  obtain ⟨hUid, _, _, hAdmitted⟩ := invocation_eq_ok_iff.mp h
  have hMatches := delegationMatches_of_admitCall hAdmitted
  rw [delegationMatches, decide_eq_true_eq] at hMatches
  obtain ⟨_, hPresenter, hWorkload, hAudience, ⟨hNarrow, hWide⟩, hController, _, hDevice, hIntent,
    hEpoch⟩ := hMatches
  refine ⟨hUid, hController, hDevice, hIntent, hAudience, ?_, ⟨hPresenter, hWorkload⟩, hEpoch⟩
  intro scope
  constructor
  · intro hScope
    simpa using List.all_eq_true.mp hNarrow scope hScope
  · intro hScope
    simpa using List.all_eq_true.mp hWide scope hScope

/-- The run asks the issuer for nothing but what `ownerCalls` lists. -/
theorem handleConnection_congr {issue issue' : CredentialCall → Except Raised String}
    (hIssue : ports.hubCredentials = some issue)
    (hAgree : ∀ call, .issueRemovalIntent call ∈
      ownerCalls encoding ports authorizer connection ledger → issue' call = issue call) :
    handleConnection encoding { ports with hubCredentials := some issue' } authorizer connection
      ledger = handleConnection encoding ports authorizer connection ledger := by
  unfold handleConnection ownerCalls at *
  cases hInvoked : invocation encoding authorizer connection with
  | error reply => rfl
  | ok invoked =>
    obtain ⟨principalId, call⟩ := invoked
    simp only [hInvoked, hIssue] at hAgree ⊢
    congr 1
    unfold removeControllerDevice
    simp only [hIssue]
    split
    · rfl
    · rename_i intent opened hOpened
      rw [hOpened] at hAgree
      rw [hAgree (credentialCall call.payload intent) List.mem_cons_self]
      rfl

theorem ownerCalls_ownerId {principalId : String} {call : LifecycleRemovalCall}
    (h : invocation encoding authorizer connection = .ok (principalId, call)) {asked : OwnerCall}
    (hAsked : asked ∈ ownerCalls encoding ports authorizer connection ledger) :
    asked.ownerId = call.payload.ownerId := by
  unfold ownerCalls at hAsked
  rw [h] at hAsked
  split at hAsked
  · rename_i hSome _
    obtain ⟨rfl, rfl⟩ := Prod.mk.inj (Except.ok.inj hSome)
    split at hAsked
    · simp at hAsked
    · rcases List.mem_cons.mp hAsked with rfl | hRest
      · rfl
      · split at hRest
        · simp at hRest
        · split at hRest
          · rw [List.mem_singleton.mp hRest]
            rfl
          · simp at hRest
  · simp at hAsked

theorem issueRemovalIntent_mem_ownerCalls {principalId : String} {call : LifecycleRemovalCall}
    {issue : CredentialCall → Except Raised String} {intent : RemovalIntent} {opened : Ledger}
    (h : invocation encoding authorizer connection = .ok (principalId, call))
    (hIssue : ports.hubCredentials = some issue)
    (hOpened : openIntent encoding call.payload principalId call.authorizationContext
      connection.around.startedAt ledger = (.ok intent, opened)) :
    .issueRemovalIntent (credentialCall call.payload intent) ∈
      ownerCalls encoding ports authorizer connection ledger := by
  unfold ownerCalls
  rw [h, hIssue]
  simp only [hOpened]
  exact List.mem_cons_self

end Daemon

section Pair

variable (encoding : Encoding) (ports : HubPorts) (authorizer : ExactUidWorkloadAuthorizer)
  (first second : Connection) (ledger later : Ledger)

def Linked : Prop :=
  (∃ principalId call principalId' call',
    invocation encoding authorizer first = .ok (principalId, call) ∧
    invocation encoding authorizer second = .ok (principalId', call') ∧
    call.authorizationContext = call'.authorizationContext) ∨
  ∃ intent intent', opens encoding authorizer first ledger intent ∧
    opens encoding authorizer second later intent' ∧ intent.intentId = intent'.intentId

structure BindsOwner : Prop where
  owner : Linked encoding authorizer first second ledger later →
    ∀ asked ∈ ownerCalls encoding ports authorizer first ledger,
    ∀ asked' ∈ ownerCalls encoding ports authorizer second later, asked.ownerId = asked'.ownerId
  delegated : ∀ connection ∈ [first, second], ∀ principalId call,
    invocation encoding authorizer connection = .ok (principalId, call) →
    Delegated encoding authorizer connection call

variable {encoding ports authorizer first second ledger later}

theorem exists_opens_of_ownerCall {connection : Connection} {asked : OwnerCall}
    (h : asked ∈ ownerCalls encoding ports authorizer connection ledger) :
    ∃ principalId call intent, ports.hubCredentials.isSome ∧
      invocation encoding authorizer connection = .ok (principalId, call) ∧
      opens encoding authorizer connection ledger intent := by
  unfold ownerCalls at h
  split at h
  · rename_i principalId call issue hInvoked hIssue
    split at h
    · simp at h
    · rename_i intent opened hOpened
      exact ⟨principalId, call, intent, by simp [hIssue], hInvoked,
        principalId, call, opened, hInvoked, hOpened⟩
  · simp at h

/-- The Owner is bound exactly where linked calls that get to an intent name one Owner
in their payloads. -/
theorem bindsOwner_iff :
    BindsOwner encoding ports authorizer first second ledger later ↔
      (Linked encoding authorizer first second ledger later → ports.hubCredentials.isSome →
        ∀ principalId call principalId' call' intent intent',
        invocation encoding authorizer first = .ok (principalId, call) →
        invocation encoding authorizer second = .ok (principalId', call') →
        opens encoding authorizer first ledger intent →
        opens encoding authorizer second later intent' →
        call.payload.ownerId = call'.payload.ownerId) := by
  constructor
  · intro hBinds hLinked hSome principalId call principalId' call' intent intent' hFirst hSecond
      hOpens hOpens'
    obtain ⟨issue, hIssue⟩ := Option.isSome_iff_exists.mp hSome
    obtain ⟨_, _, opened, hInvoked, hOpened⟩ := hOpens
    obtain ⟨rfl, rfl⟩ := Prod.mk.inj (Except.ok.inj (hInvoked.symm.trans hFirst))
    obtain ⟨_, _, opened', hInvoked', hOpened'⟩ := hOpens'
    obtain ⟨rfl, rfl⟩ := Prod.mk.inj (Except.ok.inj (hInvoked'.symm.trans hSecond))
    exact hBinds.owner hLinked _ (issueRemovalIntent_mem_ownerCalls hFirst hIssue hOpened) _
      (issueRemovalIntent_mem_ownerCalls hSecond hIssue hOpened')
  · intro hOwners
    refine ⟨?_, fun connection _ principalId call hInvoked => delegated_of_invocation hInvoked⟩
    intro hLinked asked hAsked asked' hAsked'
    obtain ⟨_, call, _, hSome, hFirst, hOpens⟩ := exists_opens_of_ownerCall hAsked
    obtain ⟨_, call', _, _, hSecond, hOpens'⟩ := exists_opens_of_ownerCall hAsked'
    calc asked.ownerId = call.payload.ownerId := ownerCalls_ownerId hFirst hAsked
      _ = call'.payload.ownerId :=
        hOwners hLinked hSome _ _ _ _ _ _ hFirst hSecond hOpens hOpens'
      _ = asked'.ownerId := (ownerCalls_ownerId hSecond hAsked').symm

end Pair

namespace Sample

def localApi : ExactUidWorkloadAuthorizer where
  expectedUid := 995

def quiet : Surroundings where
  startedAt := 1787659200000000
  committedAt := 1787659200000000
  observedAt := fun _ => 1787659200000000
  meanwhile := []
  deadline := 0
  polls := []

def connectionOf (s : Submission) : Connection where
  credential := some ⟨4711, 995, 995⟩
  call := some ⟨s.payload, s.authorizationContext encoding.toDigests⟩
  receivedAt := s.receivedAt
  around := quiet

/-- The same delegation and request, with another business Owner. -/
def otherOwner : Submission :=
  { submission with payload := { payload with ownerId := "owner_0b7c2d9a4e1f60835566" } }

def unanswered : HubPorts where
  hubCredentials := some fun call => .ok call.businessOwnerId
  revoke := fun _ => .error (.value "unanswered")
  getDeviceControlOperation := fun _ => .error (.value "unanswered")

end Sample

theorem invocation_connectionOf {s : Submission} (h : s.Valid) :
    invocation Sample.encoding Sample.localApi (Sample.connectionOf s) =
      .ok ("eidolon-local-api", ⟨s.payload, s.authorizationContext Sample.encoding.toDigests⟩) :=
  invocation_eq_ok_iff.mpr
    ⟨⟨_, rfl, rfl⟩, rfl, rfl, admitCall_authorizationContext Sample.encoding.toDigests h⟩

/-- Under one delegation, and on the stored intent, Hub is asked for two Owners. -/
theorem delegation_leaves_owner_open :
    (Sample.submission.authorizationContext Sample.encoding.toDigests =
        Sample.otherOwner.authorizationContext Sample.encoding.toDigests) ∧
      Linked Sample.encoding Sample.localApi (Sample.connectionOf Sample.submission)
        (Sample.connectionOf Sample.otherOwner) [] [Sample.intent] ∧
      ¬ BindsOwner Sample.encoding Sample.unanswered Sample.localApi
        (Sample.connectionOf Sample.submission) (Sample.connectionOf Sample.otherOwner)
        [] [Sample.intent] := by
  have hFirst := invocation_connectionOf Sample.valid_submission
  have hSecond := invocation_connectionOf (s := Sample.otherOwner) ⟨by decide, rfl⟩
  have hLinked : Linked Sample.encoding Sample.localApi (Sample.connectionOf Sample.submission)
      (Sample.connectionOf Sample.otherOwner) [] [Sample.intent] :=
    .inl ⟨_, _, _, _, hFirst, hSecond, rfl⟩
  refine ⟨rfl, hLinked, fun hBinds => ?_⟩
  have hOpened : openIntent Sample.encoding Sample.payload "eidolon-local-api" Sample.context
      1787659200000000 [] = (.ok Sample.intent, [Sample.intent]) :=
    openIntent_new rfl (by decide) rfl
  have hResumed : openIntent Sample.encoding Sample.otherOwner.payload "eidolon-local-api"
      Sample.context 1787659200000000 [Sample.intent] = (.ok Sample.intent, [Sample.intent]) := by
    obtain ⟨hStored, hContent, _⟩ := Ledger.getOrCreate_ok (openIntent_ok_iff.mp hOpened).1
    exact openIntent_stored hStored hContent rfl
  have hOwner := hBinds.owner hLinked _
    (issueRemovalIntent_mem_ownerCalls hFirst rfl hOpened) _
    (issueRemovalIntent_mem_ownerCalls hSecond rfl hResumed)
  exact absurd hOwner (by decide)

end EidolonAdmin.Removal
