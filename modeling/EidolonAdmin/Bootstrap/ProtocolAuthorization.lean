import EidolonAdmin.Bootstrap.CommissioningProtocol
import EidolonAdmin.Bootstrap.NetworkOperations
import EidolonAdmin.Bootstrap.EpochFencing
import EidolonAdmin.Bootstrap.Refusals

/-! # What a commissioning link may do

Over every sequence of messages on a link and of anything else on the Host, a
message changes the store or starts to use the network port only under an
authorization that the check accepts when it starts. What it does behind its first
await is not checked again: it is a `resume` of the Host, elsewhere. Two things
stand outside: a wrong Setup code is counted, and a claim of a window already used
is answered again.
-/

namespace EidolonAdmin.Bootstrap

open Foundation Foundation.Table Foundation.Transition

namespace Store

variable {s t : Store} {sessionId secretHash now : String}

def HasCode (s : Store) (sessionId secretHash : String) : Prop :=
  ∃ row, s.sessionRow? sessionId = some row ∧ row.secretHash = secretHash

theorem hasCode_updateWhere {p : SessionRow → Bool} {f : SessionRow → SessionRow}
    (hRows : t.sessions = updateWhere p f s.sessions)
    (hId : ∀ row, (f row).sessionId = row.sessionId)
    (hHash : ∀ row, (f row).secretHash = row.secretHash) (h : s.HasCode sessionId secretHash) :
    t.HasCode sessionId secretHash := by
  obtain ⟨row, hRow, hCode⟩ := h
  refine ⟨if p row then f row else row, ?_, ?_⟩
  · rw [sessionRow?, hRows, lookup_updateWhere hId]
    rw [sessionRow?] at hRow
    rw [hRow]
    rfl
  · split
    · rw [hHash, hCode]
    · exact hCode

theorem hasCode_append {rows : List SessionRow} (hRows : t.sessions = s.sessions ++ rows)
    (h : s.HasCode sessionId secretHash) : t.HasCode sessionId secretHash := by
  obtain ⟨row, hRow, hCode⟩ := h
  refine ⟨row, ?_, hCode⟩
  rw [sessionRow?] at hRow ⊢
  rw [hRows, lookup_append, hRow]
  rfl

theorem hasCode_superseded {time : String} {rows : List SessionRow}
    (hRows : t.sessions = revokeUnspent time s.sessions ++ rows)
    (h : s.HasCode sessionId secretHash) : t.HasCode sessionId secretHash := by
  have hRevoked : ({ s with sessions := revokeUnspent time s.sessions } : Store).HasCode sessionId
      secretHash := hasCode_updateWhere rfl (fun _ => rfl) (fun _ => rfl) h
  exact hasCode_append hRows hRevoked

theorem hasCode_effect {call : StoreCall} (hEffect : Effect s call t)
    (h : s.HasCode sessionId secretHash) : t.HasCode sessionId secretHash := by
  cases hEffect with
  | refused | revoked | created | updated | interrupted | reconciled => exact h
  | issued => exact hasCode_superseded rfl h
  | recovered => exact hasCode_superseded rfl h
  | reset => exact hasCode_updateWhere rfl (fun _ => rfl) (fun _ => rfl) h
  | counted => exact hasCode_updateWhere rfl (fun _ => rfl) (fun _ => rfl) h
  | resumed => exact hasCode_updateWhere rfl (fun _ => rfl) (fun _ => rfl) h
  | claimed _ _ _ _ hInsert =>
    rw [insertGrant_frame hInsert]
    exact hasCode_updateWhere rfl (fun _ => rfl) (fun _ => rfl) h

theorem hasCode_run (calls : List StoreCall) (h : s.HasCode sessionId secretHash) :
    (run apply s calls).HasCode sessionId secretHash :=
  run_invariant (P := fun later => later.HasCode sessionId secretHash)
    (fun later call hCode => hasCode_effect (apply_effect later call) hCode) h calls

theorem authorize_hasCode (h : s.HasCode sessionId secretHash) :
    (s.authorizeCommissioningSession sessionId secretHash now).2 = s := by
  obtain ⟨row, hRow, hCode⟩ := h
  simp only [authorizeCommissioningSession, hRow, hCode, if_true]
  split
  · rfl
  · rfl

end Store

def Access.Known (s : Store) : Access → Prop
  | .setup sessionId secretHash => s.HasCode sessionId secretHash
  | .controller _ => True

theorem Store.requireAuthorized_known {s : Store} {access : Access} (h : access.Known s)
    (now : String) : (s.requireAuthorized access now).2 = s := by
  cases access with
  | setup sessionId secretHash => exact Store.authorize_hasCode h
  | controller grant => exact Store.requireAuthorized_controller grant now s

/-- `authorize` accepts the code of an open window and leaves the store alone; else
it changes at most the count of that window. -/
theorem Store.authorize_spec (platform : Platform) (sessionId secret : Json) (now : String)
    (s : Store) :
    (∃ id code row, s.sessionRow? id = some row ∧ row.isOpen now = true ∧
      row.secretHash = platform.sha256 code ∧
      s.authorize platform sessionId secret now = (.ok (.setup id (platform.sha256 code)), s)) ∨
    ∃ error, (s.authorize platform sessionId secret now).1 = .error error ∧
      ((s.authorize platform sessionId secret now).2 = s ∨
        ∃ id code row, s.sessionRow? id = some row ∧ row.isOpen now = true ∧
          row.secretHash ≠ platform.sha256 code ∧
          (s.authorize platform sessionId secret now).2 = s.countFailedAttempt id) := by
  unfold Store.authorize
  split
  · rename_i id code
    split
    · exact .inr ⟨_, rfl, .inl rfl⟩
    · simp only
      rcases Store.authorize_cases id (platform.sha256 code) now s with
        ⟨row, hRow, hOpen, hSecret, hEq⟩ | hEq | hEq
      · rw [hEq]
        exact .inl ⟨id, code, row, hRow, hOpen, hSecret, rfl⟩
      · rw [hEq]
        exact .inr ⟨.commissioningDenied, rfl, .inl rfl⟩
      · have hFound := Store.authorize_error hEq
        rw [hEq]
        rcases hFound with ⟨hSame, _⟩ | ⟨row, hRow, hOpen, hSecret, hCounted⟩
        · exact .inr ⟨.commissioningDenied, rfl, .inl hSame⟩
        · exact .inr ⟨.commissioningDenied, rfl, .inr ⟨id, code, row, hRow, hOpen, hSecret, rfl⟩⟩
  · exact .inr ⟨_, rfl, .inl rfl⟩

/-! ## What one message does -/

namespace ProtocolSession

variable (platform : Platform) (session : ProtocolSession) (s : Store) (request : Json)
  (readings : Readings)

def NetworkAction (access : Access) (readings : Readings) (a : Action) : Prop :=
  (∃ payload, a = .configureNetwork access payload readings.now readings.later) ∨
  (∃ operationId, a = .confirmNetwork access operationId readings.now) ∨
  ∃ operationId, a = .rollbackNetwork access operationId readings.now

inductive Did : ProtocolSession → List Action → Bool → Prop where
  | refused : Did session [] false
  | codeRefused {sessionId secret : Json} {error : ServiceError}
      (hOperation : (request.get "operation").isText "session.authenticate" = true)
      (hError : (s.authorize platform sessionId secret readings.now).1 = .error error) :
      Did session [.authorize sessionId secret readings.now] false
  | codeAccepted {sessionId secret : Json} {access : Access}
      (hNone : session.authorization = none)
      (hOk : (s.authorize platform sessionId secret readings.now).1 = .ok access) :
      Did { session with authorization := some access }
        [.authorize sessionId secret readings.now, .requireAuthorized access readings.later] false
  | challenged (pending : PendingChallenge) :
      Did { session with controllerChallenge := some pending } [] false
  | proofRefused : Did { session with controllerChallenge := none } [] false
  | proofAccepted {payload : Json} {grant : ControllerGrant}
      (hOk : session.authenticateController platform payload readings.monotonic s = .ok grant) :
      Did { authorization := some (.controller grant) }
        [.requireAuthorized (.controller grant) readings.later] false
  | checked {access : Access} (hAccess : session.authorization = some access) :
      Did session [.requireAuthorized access readings.now] false
  | scanned {access : Access} (hAccess : session.authorization = some access)
      (hOk : (s.requireAuthorized access readings.now).1 = .ok ()) :
      Did session [.requireAuthorized access readings.now] true
  | network {access : Access} {a : Action} (hAccess : session.authorization = some access)
      (hAction : NetworkAction access readings a) : Did session [a] false
  | claimed {sessionId secretHash : String} {payload : Json}
      (hAccess : session.authorization = some (.setup sessionId secretHash)) :
      Did session [.claimController sessionId secretHash payload readings.now readings.draw] false

theorem dispatch_session (settings : BootstrapSettings) (requestId operation payload : Json)
    (access : Access) :
    (session.dispatch platform settings requestId operation payload readings access s).session =
      session := by
  unfold dispatch
  split
  · rfl
  · split
    · split
      · rfl
      · rfl
    · split
      · rfl
      · split
        · rfl
        · split
          · rfl
          · split
            · cases access with
              | controller => rfl
              | setup => rfl
            · rfl

theorem handle_challenge (settings : BootstrapSettings) :
    (session.handle platform settings request readings s).session.controllerChallenge =
      session.controllerChallenge ∨
    (session.handle platform settings request readings s).session.controllerChallenge = none ∨
    ∃ pending,
      (session.handle platform settings request readings s).session.controllerChallenge =
        some pending ∧
      (session.handle platform settings request readings s).reply =
        some (.accepted (request.get "request_id") (.challenge pending)) := by
  unfold handle
  simp only
  split
  · exact .inl rfl
  · split
    · left
      unfold sessionAuthenticate
      split
      · rfl
      · simp only
        split
        · rfl
        · rfl
    · split
      · unfold controllerChallengeIssue
        split
        · exact .inl rfl
        · exact .inr (.inr ⟨_, rfl, rfl⟩)
      · split
        · right; left
          unfold controllerAuthenticate
          simp only
          split
          · rfl
          · rfl
        · split
          · exact .inl rfl
          · exact .inl (congrArg _ (dispatch_session platform session s readings settings _ _ _ _))

variable {platform session s request readings}

theorem dispatch_did {settings : BootstrapSettings} {requestId operation payload : Json}
    {access : Access} (hAccess : session.authorization = some access) :
    Did platform session s request readings
      (session.dispatch platform settings requestId operation payload readings access s).session
      (session.dispatch platform settings requestId operation payload readings access s).actions
      (session.dispatch platform settings requestId operation payload readings access s).scans := by
  unfold dispatch
  split
  · exact .checked hAccess
  · split
    · split
      · exact .checked hAccess
      · rename_i hOk
        exact .scanned hAccess (by rw [hOk])
    · split
      · exact .network hAccess (.inl ⟨_, rfl⟩)
      · split
        · exact .network hAccess (.inr (.inl ⟨_, rfl⟩))
        · split
          · exact .network hAccess (.inr (.inr ⟨_, rfl⟩))
          · split
            · cases access with
              | controller => exact .refused
              | setup sessionId secretHash => exact .claimed hAccess
            · exact .refused

theorem handle_did (settings : BootstrapSettings) :
    Did platform session s request readings
      (session.handle platform settings request readings s).session
      (session.handle platform settings request readings s).actions
      (session.handle platform settings request readings s).scans := by
  unfold handle
  simp only
  split
  · exact .refused
  · split
    · rename_i hOperation
      unfold sessionAuthenticate
      split
      · exact .refused
      · rename_i hNone
        simp only
        split
        · rename_i hError
          exact .codeRefused hOperation (by rw [hError])
        · rename_i hOk
          exact .codeAccepted (by simpa using hNone) (by rw [hOk])
    · split
      · unfold controllerChallengeIssue
        split
        · exact .refused
        · exact .challenged _
      · split
        · unfold controllerAuthenticate
          simp only
          split
          · exact .proofRefused
          · rename_i hOk
            exact .proofAccepted hOk
        · split
          · exact .refused
          · rename_i hAccess
            exact dispatch_did hAccess

theorem authenticateController_accepted {payload : Json} {monotonic : Rat} {grant : ControllerGrant}
    (h : session.authenticateController platform payload monotonic s = .ok grant) :
    ∃ pending, session.controllerChallenge = some pending ∧ monotonic < pending.expiresAt ∧
      grant.controllerId = pending.controllerId ∧ s.HoldsHost grant.controllerId ∧
      platform.verifySignature grant pending.challenge bleControllerAuthPurpose pending.resetEpoch
        (payload.get "signature") = true := by
  unfold ProtocolSession.authenticateController at h
  split at h
  · cases h
  · rename_i pending hPending
    split at h
    · cases h
    · rename_i hTime
      split at h
      · split at h
        · cases h
        · rename_i held hHeld
          split at h
          · rename_i hSignature
            cases h
            exact ⟨pending, hPending, not_le.mp hTime, Store.heldBy_named hHeld,
              Store.heldBy_ok hHeld, hSignature⟩
          · cases h
      · cases h

end ProtocolSession

/-! ## What the actions of a message do -/

namespace Host

variable {platform : Platform} {settings : BootstrapSettings} {h : Host} {access : Access}
  {readings : Readings} {a : Action}

theorem step_networkAction_refused (hAction : ProtocolSession.NetworkAction access readings a)
    (error : ServiceError)
    (hRefused : (h.store.requireAuthorized access readings.now).1 = .error error) :
    h.step platform settings a =
      { h with store := (h.store.requireAuthorized access readings.now).2 } := by
  have hAdmin : h.store.requireHostAdmin access readings.now =
      (.error error, (h.store.requireAuthorized access readings.now).2) := by
    unfold Store.requireHostAdmin
    rw [← Prod.eta (h.store.requireAuthorized access readings.now), hRefused]
  rcases hAction with ⟨payload, rfl⟩ | ⟨operationId, rfl⟩ | ⟨operationId, rfl⟩
  · simp only [step, Store.configureNetwork, hAdmin, pursue]
  · simp only [step, Store.confirmNetwork, Store.namedOperation, hAdmin, pursue]
  · simp only [step, Store.rollbackNetwork, Store.namedOperation, hAdmin, pursue]

theorem hasCode_step {sessionId secretHash : String} (a : Action)
    (hCode : h.store.HasCode sessionId secretHash) :
    (h.step platform settings a).store.HasCode sessionId secretHash := by
  obtain ⟨calls, _, hStore⟩ := step_reaches platform settings h a
  rw [hStore]
  exact Store.hasCode_run calls hCode

theorem known_run (actions : List Action) (hKnown : access.Known h.store) :
    access.Known (run (step platform settings) h actions).store := by
  cases access with
  | controller => trivial
  | setup sessionId secretHash =>
    exact run_invariant (P := fun later : Host => later.store.HasCode sessionId secretHash)
      (fun _ action hCode => hasCode_step action hCode) hKnown actions

end Host

/-- A claim of a window that this Controller has used already: the stored grant is
returned, and at most the standing window is opened. -/
def ReplayedClaim (platform : Platform) (settings : BootstrapSettings) (readings : Readings)
    (sessionId secretHash : String) (s t : Store) : Prop :=
  ∃ grant given, s.claimController sessionId secretHash grant readings.now = (.ok given, s) ∧
    t = (s.reopenStandingClaimWindow platform.sha256 settings readings.draw).2

theorem Store.claimAccess_effect {platform : Platform} {settings : BootstrapSettings}
    {readings : Readings} {sessionId secretHash : String} {payload : Json} {s : Store}
    (hCode : s.HasCode sessionId secretHash) :
    (s.claimAccess platform settings sessionId secretHash payload readings.now readings.draw).2 = s ∨
    (s.requireAuthorized (.setup sessionId secretHash) readings.now).1 = .ok () ∨
    ReplayedClaim platform settings readings sessionId secretHash s
      (s.claimAccess platform settings sessionId secretHash payload readings.now
        readings.draw).2 := by
  have hUncounted : ∀ {grant : ControllerGrant} {error : StoreError} {t : Store},
      s.claimController sessionId secretHash grant readings.now = (.error error, t) → t = s := by
    intro grant error t hError
    rcases Store.claim_error hError with ⟨hSame, _⟩ | ⟨row, hRow, _, hWrong, _⟩
    · exact hSame
    · obtain ⟨stored, hStored, hStoredCode⟩ := hCode
      rw [hRow] at hStored
      cases hStored
      exact absurd hStoredCode hWrong
  unfold Store.claimAccess
  split
  · exact .inl rfl
  · rename_i grant _
    split
    · rename_i given t hClaim
      rcases Store.claimController_ok hClaim with ⟨_, _, _, _, _, rfl⟩ | ⟨row, hRow, hOpen, hSecret, _⟩
      · exact .inr (.inr ⟨grant, given, hClaim, rfl⟩)
      · refine .inr (.inl ?_)
        simp [Store.requireAuthorized, Store.authorizeCommissioningSession, hRow, hOpen, hSecret,
          Store.denySetup]
    · rename_i hClaim
      exact .inl (hUncounted hClaim)
    · rename_i hClaim
      exact .inl (hUncounted hClaim)

namespace Link

variable (platform : Platform) (settings : BootstrapSettings)

/-- The check that every operation of a link makes first accepts the authorization
that the link holds. -/
def Authorized (link : Link) (now : String) : Prop :=
  ∃ access, link.session.authorization = some access ∧
    (link.host.store.requireAuthorized access now).1 = .ok ()

def next (link : Link) (request : Json) (readings : Readings) : Link :=
  link.step platform settings (.message request readings)

def CountedCode (link : Link) (request : Json) (readings : Readings) : Prop :=
  (request.get "operation").isText "session.authenticate" = true ∧
  ∃ sessionId code row, link.host.store.sessionRow? sessionId = some row ∧
    row.isOpen readings.now = true ∧ row.secretHash ≠ platform.sha256 code ∧
    (link.next platform settings request readings).host.store =
      link.host.store.countFailedAttempt sessionId

def AcceptedCode (link : Link) (request : Json) (readings : Readings) : Prop :=
  link.session.authorization = none ∧
  ∃ sessionId code row, link.host.store.sessionRow? sessionId = some row ∧
    row.isOpen readings.now = true ∧ row.secretHash = platform.sha256 code ∧
    (link.next platform settings request readings).session.authorization =
      some (.setup sessionId (platform.sha256 code))

def AcceptedProof (link : Link) (request : Json) (readings : Readings) : Prop :=
  ∃ pending grant signature, link.session.controllerChallenge = some pending ∧
    readings.monotonic < pending.expiresAt ∧ grant.controllerId = pending.controllerId ∧
    link.host.store.HoldsHost grant.controllerId ∧
    platform.verifySignature grant pending.challenge bleControllerAuthPurpose pending.resetEpoch
      signature = true ∧
    (link.next platform settings request readings).session.authorization = some (.controller grant)

/-- What one message on the link may do up to its first await. -/
structure Guarded (link : Link) (request : Json) (readings : Readings) : Prop where
  store : (link.next platform settings request readings).host.store = link.host.store ∨
    link.Authorized readings.now ∨ link.CountedCode platform settings request readings ∨
    ∃ sessionId secretHash, link.session.authorization = some (.setup sessionId secretHash) ∧
      ReplayedClaim platform settings readings sessionId secretHash link.host.store
        (link.next platform settings request readings).host.store
  network : ((link.handled platform settings request readings).scans = true ∨
      (link.next platform settings request readings).host.calls ≠ link.host.calls) →
    link.Authorized readings.now
  claim : ∀ sessionId secretHash payload now draw,
    .claimController sessionId secretHash payload now draw ∈
        (link.handled platform settings request readings).actions →
      link.session.authorization = some (.setup sessionId secretHash)
  authorization : (link.next platform settings request readings).session.authorization =
      link.session.authorization ∨
    link.AcceptedCode platform settings request readings ∨
    link.AcceptedProof platform settings request readings

def Known (link : Link) : Prop :=
  ∀ access, link.session.authorization = some access → access.Known link.host.store

theorem did (link : Link) (request : Json) (readings : Readings) :
    ProtocolSession.Did platform link.session link.host.store request readings
      (link.handled platform settings request readings).session
      (link.handled platform settings request readings).actions
      (link.handled platform settings request readings).scans :=
  ProtocolSession.handle_did settings

variable {platform settings} {link : Link} {request : Json} {readings : Readings}

theorem known_of_authorization
    (h : ∀ access, (link.handled platform settings request readings).session.authorization =
      some access → access.Known link.host.store) :
    (link.next platform settings request readings).Known :=
  fun access hAccess => Host.known_run _ (h access hAccess)

theorem known_next (hKnown : link.Known) (request : Json) (readings : Readings) :
    (link.next platform settings request readings).Known := by
  apply known_of_authorization
  intro access hAccess
  have hDid := link.did platform settings request readings
  generalize (link.handled platform settings request readings).session = session at hAccess hDid
  generalize (link.handled platform settings request readings).actions = actions at hDid
  generalize (link.handled platform settings request readings).scans = scans at hDid
  cases hDid with
  | refused | codeRefused | challenged | proofRefused | checked | scanned | network | claimed =>
    exact hKnown access hAccess
  | proofAccepted =>
    cases hAccess
    trivial
  | codeAccepted _ hOk =>
    cases hAccess
    rcases Store.authorize_spec platform _ _ readings.now link.host.store with
      ⟨id, code, row, hRow, _, hCode, hEq⟩ | ⟨error, hError, _⟩
    · rw [hEq] at hOk
      cases hOk
      exact ⟨row, hRow, hCode⟩
    · rw [hError] at hOk
      cases hOk

theorem known_step (link : Link) (event : LinkEvent) (hKnown : link.Known) :
    (link.step platform settings event).Known := by
  cases event with
  | message request readings => exact known_next hKnown request readings
  | elsewhere action => exact fun access hAccess => Host.known_run [action] (hKnown access hAccess)

theorem known_after (created : String) (events : List LinkEvent) :
    (after platform settings created events).Known :=
  run_invariant known_step (fun _ hAccess => by cases hAccess) events

/-! ## Every message is guarded -/

variable {session : ProtocolSession} {actions : List Action} {scans : Bool}

theorem authorized_or_refused {access : Access} (now : String) (hKnown : link.Known)
    (hAccess : link.session.authorization = some access) :
    link.Authorized now ∨
    ∃ error, link.host.store.requireAuthorized access now = (.error error, link.host.store) := by
  have hSame := Store.requireAuthorized_known (hKnown access hAccess) now
  rcases hCheck : link.host.store.requireAuthorized access now with ⟨outcome, t⟩
  rw [hCheck] at hSame
  cases outcome with
  | ok => exact .inl ⟨access, hAccess, by rw [hCheck]⟩
  | error error =>
    obtain rfl : t = link.host.store := hSame
    exact .inr ⟨error, rfl⟩

theorem store_of_did (hKnown : link.Known)
    (hDid : ProtocolSession.Did platform link.session link.host.store request readings session
      actions scans) :
    (run (Host.step platform settings) link.host actions).store = link.host.store ∨
    link.Authorized readings.now ∨
    ((request.get "operation").isText "session.authenticate" = true ∧
      ∃ sessionId code row, link.host.store.sessionRow? sessionId = some row ∧
        row.isOpen readings.now = true ∧ row.secretHash ≠ platform.sha256 code ∧
        (run (Host.step platform settings) link.host actions).store =
          link.host.store.countFailedAttempt sessionId) ∨
    ∃ sessionId secretHash, link.session.authorization = some (.setup sessionId secretHash) ∧
      ReplayedClaim platform settings readings sessionId secretHash link.host.store
        (run (Host.step platform settings) link.host actions).store := by
  cases hDid with
  | refused | challenged | proofRefused => exact .inl rfl
  | @codeRefused sessionId secret error hOperation hError =>
    rcases Store.authorize_spec platform sessionId secret readings.now link.host.store with
      ⟨id, code, row, _, _, _, hEq⟩ | ⟨_, _, hSame | hCounted⟩
    · rw [hEq] at hError
      cases hError
    · exact .inl hSame
    · exact .inr (.inr (.inl ⟨hOperation, hCounted⟩))
  | @codeAccepted sessionId secret access hNone hOk =>
    rcases Store.authorize_spec platform sessionId secret readings.now link.host.store with
      ⟨id, code, row, hRow, _, hCode, hEq⟩ | ⟨_, hError, _⟩
    · rw [hEq] at hOk
      cases hOk
      left
      simp only [run_cons, run_nil, Host.step, hEq]
      exact Store.authorize_hasCode ⟨row, hRow, hCode⟩
    · rw [hError] at hOk
      cases hOk
  | proofAccepted => exact .inl (Store.requireAuthorized_controller _ _ _)
  | checked hAccess => exact .inl (Store.requireAuthorized_known (hKnown _ hAccess) _)
  | scanned hAccess => exact .inl (Store.requireAuthorized_known (hKnown _ hAccess) _)
  | network hAccess hAction =>
    rcases authorized_or_refused readings.now hKnown hAccess with hAuthorized | ⟨error, hRefused⟩
    · exact .inr (.inl hAuthorized)
    · left
      simp only [run_cons, run_nil]
      rw [Host.step_networkAction_refused hAction error (by rw [hRefused]), hRefused]
  | claimed hAccess =>
    rcases Store.claimAccess_effect (hKnown _ hAccess) with hSame | hOk | hReplayed
    · exact .inl hSame
    · exact .inr (.inl ⟨_, hAccess, hOk⟩)
    · exact .inr (.inr (.inr ⟨_, _, hAccess, hReplayed⟩))

theorem network_of_did (hKnown : link.Known)
    (hDid : ProtocolSession.Did platform link.session link.host.store request readings session
      actions scans)
    (hUsed : scans = true ∨
      (run (Host.step platform settings) link.host actions).calls ≠ link.host.calls) :
    link.Authorized readings.now := by
  cases hDid with
  | scanned hAccess hOk => exact ⟨_, hAccess, hOk⟩
  | network hAccess hAction =>
    rcases authorized_or_refused readings.now hKnown hAccess with hAuthorized | ⟨error, hRefused⟩
    · exact hAuthorized
    · rcases hUsed with hScans | hCalls
      · cases hScans
      · refine absurd ?_ hCalls
        simp only [run_cons, run_nil]
        rw [Host.step_networkAction_refused hAction error (by rw [hRefused])]
  | refused | codeRefused | codeAccepted | challenged | proofRefused | proofAccepted | checked
  | claimed =>
    rcases hUsed with hScans | hCalls
    · cases hScans
    · exact absurd rfl hCalls

theorem claim_of_did
    (hDid : ProtocolSession.Did platform link.session link.host.store request readings session
      actions scans)
    {sessionId secretHash : String} {payload : Json} {now : String} {draw : WindowDraw}
    (hClaim : .claimController sessionId secretHash payload now draw ∈ actions) :
    link.session.authorization = some (.setup sessionId secretHash) := by
  cases hDid with
  | claimed hAccess =>
    rw [List.mem_singleton] at hClaim
    cases hClaim
    exact hAccess
  | network hAccess hAction =>
    rw [List.mem_singleton] at hClaim
    rcases hAction with ⟨_, rfl⟩ | ⟨_, rfl⟩ | ⟨_, rfl⟩
    · cases hClaim
    · cases hClaim
    · cases hClaim
  | refused | codeRefused | codeAccepted | challenged | proofRefused | proofAccepted | checked
  | scanned => simp at hClaim

theorem authorization_of_did
    (hDid : ProtocolSession.Did platform link.session link.host.store request readings session
      actions scans) :
    session.authorization = link.session.authorization ∨
    (link.session.authorization = none ∧
      ∃ sessionId code row, link.host.store.sessionRow? sessionId = some row ∧
        row.isOpen readings.now = true ∧ row.secretHash = platform.sha256 code ∧
        session.authorization = some (.setup sessionId (platform.sha256 code))) ∨
    ∃ pending grant signature, link.session.controllerChallenge = some pending ∧
      readings.monotonic < pending.expiresAt ∧ grant.controllerId = pending.controllerId ∧
      link.host.store.HoldsHost grant.controllerId ∧
      platform.verifySignature grant pending.challenge bleControllerAuthPurpose pending.resetEpoch
        signature = true ∧
      session.authorization = some (.controller grant) := by
  cases hDid with
  | refused | codeRefused | challenged | proofRefused | checked | scanned | network | claimed =>
    exact .inl rfl
  | @codeAccepted sessionId secret access hNone hOk =>
    rcases Store.authorize_spec platform sessionId secret readings.now link.host.store with
      ⟨id, code, row, hRow, hOpen, hCode, hEq⟩ | ⟨_, hError, _⟩
    · rw [hEq] at hOk
      cases hOk
      exact .inr (.inl ⟨hNone, id, code, row, hRow, hOpen, hCode, rfl⟩)
    · rw [hError] at hOk
      cases hOk
  | proofAccepted hOk =>
    obtain ⟨pending, hPending, hTime, hId, hHolds, hSignature⟩ :=
      ProtocolSession.authenticateController_accepted hOk
    exact .inr (.inr ⟨pending, _, _, hPending, hTime, hId, hHolds, hSignature, rfl⟩)

theorem guarded_of_known (hKnown : link.Known) (request : Json) (readings : Readings) :
    link.Guarded platform settings request readings where
  store := store_of_did hKnown (link.did platform settings request readings)
  network := network_of_did hKnown (link.did platform settings request readings)
  claim _ _ _ _ _ := claim_of_did (link.did platform settings request readings)
  authorization := authorization_of_did (link.did platform settings request readings)

/-! ## A challenge serves one attempt -/

def Attempts (platform : Platform) (link : Link) (event : LinkEvent)
    (pending : PendingChallenge) : Prop :=
  ∃ request readings payload, event = .message request readings ∧
    readRequest platform request = .ok payload ∧
    (request.get "operation").isText "controller.authenticate" = true ∧
    link.session.controllerChallenge = some pending

def IssuesChallenge (platform : Platform) (settings : BootstrapSettings) (link : Link)
    (event : LinkEvent) (pending : PendingChallenge) : Prop :=
  ∃ request readings, event = .message request readings ∧
    (link.handled platform settings request readings).reply =
      some (.accepted (request.get "request_id") (.challenge pending))

theorem attempt_spends (settings : BootstrapSettings) {event : LinkEvent} {pending : PendingChallenge}
    (h : link.Attempts platform event pending) :
    (link.step platform settings event).session.controllerChallenge = none := by
  obtain ⟨request, readings, payload, rfl, hRead, hOperation, _⟩ := h
  have hText : request.get "operation" = .str "controller.authenticate" := by
    cases hValue : request.get "operation" with
    | str value =>
      rw [hValue] at hOperation
      simpa [Json.isText] using hOperation
    | null | bool | int | float | arr | obj =>
      rw [hValue] at hOperation
      cases hOperation
  simp only [step, handled, ProtocolSession.handle, hRead, hText, Json.isText]
  simp only [String.reduceEq, decide_false, decide_true, Bool.false_eq_true, if_false, if_true,
    ProtocolSession.controllerAuthenticate]
  split
  · rfl
  · rfl

theorem challenge_step (event : LinkEvent) {pending : PendingChallenge}
    (hBefore : link.session.controllerChallenge ≠ some pending)
    (hAfter : (link.step platform settings event).session.controllerChallenge = some pending) :
    link.IssuesChallenge platform settings event pending := by
  cases event with
  | elsewhere action => exact absurd hAfter hBefore
  | message request readings =>
    rcases link.session.handle_challenge platform link.host.store request readings settings with
      hSame | hNone | ⟨issued, hIssued, hReply⟩
    · exact absurd (hSame.symm.trans hAfter) hBefore
    · cases hNone.symm.trans hAfter
    · cases hIssued.symm.trans hAfter
      exact ⟨request, readings, rfl, hReply⟩

/-- Over a run of messages on the link and of anything else on the Host: every message
is guarded, and two attempts never meet the same challenge. -/
structure ProtocolSafe (platform : Platform) (settings : BootstrapSettings) (created : String)
    (events : List LinkEvent) : Prop where
  guarded : ∀ before request readings rest,
    events = before ++ .message request readings :: rest →
    (after platform settings created before).Guarded platform settings request readings
  single : ∀ before first between second rest used again,
    events = before ++ first :: (between ++ second :: rest) →
    (after platform settings created before).Attempts platform first used →
    (after platform settings created (before ++ first :: between)).Attempts platform second again →
    ∃ earlier issue later, between = earlier ++ issue :: later ∧
      (after platform settings created (before ++ first :: earlier)).IssuesChallenge platform
        settings issue again

theorem protocol_safe (platform : Platform) (settings : BootstrapSettings) (created : String)
    (events : List LinkEvent) : ProtocolSafe platform settings created events where
  guarded before request readings _ _ :=
    guarded_of_known (known_after created before) request readings
  single := by
    rintro before first between second rest used again - hFirst ⟨_, _, _, _, _, _, hAgain⟩
    -- The first attempt leaves no challenge, so the one of the second was issued since.
    have hSpent := attempt_spends settings hFirst
    rw [after, run_append, run_cons] at hAgain
    obtain ⟨earlier, issue, later, hSplit, hBefore, hIssued⟩ := exists_step_of_run
      (P := fun link : Link => link.session.controllerChallenge = some again)
      (by rw [after] at hSpent; simp [hSpent]) hAgain
    refine ⟨earlier, issue, later, hSplit, ?_⟩
    rw [after, run_append, run_cons]
    exact challenge_step issue hBefore hIssued

end Link

namespace Unauthorized

open RollbackAfterConfirm (platform)

def document (operation : String) (payload : List (String × Json)) : Json :=
  .obj [("request_id", .str "11111111-2222-3333-4444-555555555555"),
    ("contract_version", .str "1"), ("operation", .str operation), ("payload", .obj payload)]

def readings (factoryText : Option String) : Readings where
  now := "2026-08-05T00:00:02Z"
  later := "2026-08-05T00:00:02Z"
  monotonic := 0
  challenge := ""
  draw := ⟨factoryText, "2026-08-05T00:00:03Z", "s2", "2026-08-05T00:00:03Z"⟩

def opened : List LinkEvent :=
  [.elsewhere (.issueSetupCode "13572468" "s1" "2026-08-05T00:00:00Z")]

def authenticate (code : String) : Json :=
  document "session.authenticate" [("commissioning_id", .str "s1"), ("setup_code", .str code)]

def claim : Json :=
  document "claim.complete"
    [("public_key", .str "key"), ("display_name", .str "Phone"), ("platform", .str "ios")]

def claimed : List LinkEvent :=
  opened ++ [.message (authenticate "13572468") (readings none), .message claim (readings none)]

def standing : BootstrapSettings := { claimWindow := .alwaysOpen }

def linkAfter (events : List LinkEvent) : Link :=
  Link.after platform standing "" events

def ChangesUnauthorized (link : Link) (request : Json) (readings : Readings) : Prop :=
  (link.next platform standing request readings).host.store ≠
      link.host.store ∧
    ¬ link.Authorized readings.now

theorem wrong_code_counted :
    ChangesUnauthorized (linkAfter opened) (authenticate "24681357") (readings none) := by
  constructor
  · intro hSame
    have hCounts : ((linkAfter opened).next platform standing
        (authenticate "24681357") (readings none)).host.store.sessions.map
          (fun row => row.failedAttempts) =
        (linkAfter opened).host.store.sessions.map (fun row => row.failedAttempts) := by rw [hSame]
    revert hCounts
    decide +kernel
  · rintro ⟨access, hAccess, _⟩
    have hNone : (linkAfter opened).session.authorization = none := rfl
    rw [hNone] at hAccess
    cases hAccess

theorem repeated_claim_reopens :
    ChangesUnauthorized (linkAfter claimed) claim (readings (some "13572468")) := by
  constructor
  · intro hSame
    have hCount : ((linkAfter claimed).next platform standing claim
        (readings (some "13572468"))).host.store.sessions.length =
        (linkAfter claimed).host.store.sessions.length := by rw [hSame]
    revert hCount
    decide +kernel
  · rintro ⟨access, hAccess, hOk⟩
    have hSetup : (linkAfter claimed).session.authorization = some (.setup "s1" "13572468") := by
      decide +kernel
    rw [hSetup] at hAccess
    cases hAccess
    have hRefused : ((linkAfter claimed).host.store.requireAuthorized (.setup "s1" "13572468")
        (readings (some "13572468")).now).1.toOption = none := by decide +kernel
    rw [hOk] at hRefused
    cases hRefused

/-- A wrong code is counted on a link without authorization, and a claim repeated
after its window was used reopens the standing window. -/
theorem store_changed_without_authorization :
    ChangesUnauthorized (linkAfter opened) (authenticate "24681357") (readings none) ∧
    ChangesUnauthorized (linkAfter claimed) claim (readings (some "13572468")) :=
  ⟨wrong_code_counted, repeated_claim_reopens⟩

end Unauthorized

end EidolonAdmin.Bootstrap
