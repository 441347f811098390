import EidolonAdmin.Foundation.Journal
import EidolonAdmin.Foundation.Leases
import EidolonAdmin.Bootstrap.EpochFencing

/-! # Sessions of the Local API

`LocalControllerSessionStore` and `authenticated_controller`, beside the bootstrap service that
remains the authority. A request is cut at its awaits: its call waits to be served, the answer is on
its way, and the Data plane may be asked whose Workspace this Host holds. What another request or the
bootstrap service does in between is another action.
-/

namespace EidolonAdmin.LocalApi

open Foundation Foundation.Transition Bootstrap

/-- `identity` tells the objects apart; what an object remembers of its Owner stands beside the table,
since a request keeps an object that the table no longer holds. -/
structure LocalControllerSession where
  identity : Nat
  tokenHash : String
  controllerId : String
  resetEpoch : Nat
  principal : ControllerPrincipal
  expiresAt : Int
deriving DecidableEq, Repr

def sessionLimit : Nat := 1024

inductive Route where
  /-- Nothing but the session. -/
  | session
  /-- `owner_and_controller`. -/
  | ownerScoped
  /-- Reading or creating the Workspace. -/
  | workspace
deriving DecidableEq, Repr

inductive Stage where
  | proving (proof : Json)
  | proved (result : Except Nat ControllerPrincipal)
  | validating (route : Route) (session : LocalControllerSession)
  | validated (route : Route) (session : LocalControllerSession) (result : Except Nat ControllerPrincipal)
  | resolving (route : Route) (session : LocalControllerSession)
  | ended (statusCode : Nat)

/-- A request that was under way is not answered by the process that went down. -/
def Stage.lost : Stage → Stage
  | .ended statusCode => .ended statusCode
  | _ => .ended 503

/-- What happened, in order; no operation reads it. -/
inductive Mark where
  /-- The bootstrap service withdrew all authority. -/
  | withdrawn
  | proved (principal : ControllerPrincipal) (store : Store)
  | issued (request : Nat) (session : LocalControllerSession) (token : String) (now : Int)
  | begun (request : Nat) (session : LocalControllerSession) (token : String) (now : Int)
  | validated (request : Nat) (session : LocalControllerSession) (store : Store)
  | refused (session : LocalControllerSession)
  | admitted (request : Nat) (session : LocalControllerSession)
  | told (session : LocalControllerSession) (ownerId : Option String)
  | scopedTo (request : Nat) (session : LocalControllerSession) (ownerId : String)

structure Ingress where
  host : Host
  sessions : List (String × LocalControllerSession) := []
  issued : Nat := 0
  /-- `owner_id` of the objects whose `owner_resolved` is set. -/
  owners : List (LocalControllerSession × Option String) := []
  requests : List Stage := []
  journal : List Mark := []

inductive IngressAction where
  | bootstrapd (action : Bootstrap.Action)
  | signIn (proof : Json)
  | request (route : Route) (authorization : Option String) (now : Int)
  /-- The bootstrap service serves the call of a request. -/
  | serve (request : Nat) (now : Rat)
  | unreachable (request : Nat)
  /-- The answer arrives; `token` is what is drawn where a session is issued. -/
  | arrive (request : Nat) (token : String) (now : Int)
  | dataAnswers (request : Nat) (answer : Except Nat (Option String))
  | restart

/-- `_bearer_token`. -/
def bearerToken : Option String → String
  | none => ""
  | some value =>
    let scheme := value.toList.takeWhile (· ≠ ' ')
    let token := (value.toList.dropWhile (· ≠ ' ')).drop 1
    if ' ' ∈ value.toList ∧ scheme.map Char.toLower = "bearer".toList then String.ofList token else ""

/-- The status of a call that `request_bootstrap` made with `authentication=True`. -/
def authenticationStatus : ServiceError → Nat
  | .rejected _ => 401
  | _ => 503

namespace Ingress

variable (platform : Platform) (settings : BootstrapSettings) (ttl : Int)

def ending (statusCode : Nat) (request : Nat) (s : Ingress) : Ingress :=
  { s with requests := s.requests.set request (.ended statusCode) }

def receive (route : Route) (authorization : Option String) (now : Int) (s : Ingress) : Ingress :=
  let token := bearerToken authorization
  if token.length ≠ 43 then { s with requests := s.requests ++ [.ended 401] }
  -- `token.encode("ascii")` raises.
  else if ¬ token.toList.all fun c => c.toNat < 128 then { s with requests := s.requests ++ [.ended 500] }
  else
    match Leases.lookup LocalControllerSession.expiresAt now (platform.sha256 token) s.sessions with
    | (none, rest) => { s with sessions := rest, requests := s.requests ++ [.ended 401] }
    | (some session, rest) =>
      { s with
        sessions := rest
        requests := s.requests ++ [.validating route session]
        journal := s.journal ++ [.begun s.requests.length session token now] }

def serve (request : Nat) (now : Rat) (s : Ingress) : Ingress :=
  match s.requests[request]? with
  | some (.proving proof) =>
    let result := (authenticateController platform proof now s.host.store s.host.challenges).1
    { s with
      host := s.host.step platform settings (.authenticateController proof now)
      requests := s.requests.set request (.proved (result.mapError authenticationStatus))
      journal := s.journal ++ (result.toOption.map fun principal => Mark.proved principal s.host.store).toList }
  | some (.validating route session) =>
    let result := s.host.store.validateController (.str session.controllerId) (.int session.resetEpoch)
    { s with
      requests := s.requests.set request (.validated route session (result.mapError authenticationStatus))
      journal := s.journal ++ (result.toOption.map fun _ => Mark.validated request session s.host.store).toList }
  | _ => s

def newSession (principal : ControllerPrincipal) (token : String) (now : Int) (s : Ingress) :
    LocalControllerSession where
  identity := s.issued
  tokenHash := platform.sha256 token
  controllerId := principal.controllerId
  resetEpoch := principal.resetEpoch
  principal
  expiresAt := now + ttl

def issue (request : Nat) (principal : ControllerPrincipal) (token : String) (now : Int) (s : Ingress) : Ingress :=
  let session := s.newSession platform ttl principal token now
  { s with
    sessions := Leases.give LocalControllerSession.expiresAt sessionLimit now session.tokenHash session s.sessions
    issued := s.issued + 1
    journal := s.journal ++ [.issued request session token now] }

/-- `owner_and_controller`, once the Owner of the session is known. -/
def scope (request : Nat) (session : LocalControllerSession) (ownerId : Option String) (s : Ingress) : Ingress :=
  match ownerId with
  | some ownerId =>
    if ownerId = "" then s.ending 409 request
    else { s.ending 200 request with journal := s.journal ++ [.scopedTo request session ownerId] }
  | none => s.ending 409 request

/-- What the route does behind `authenticated_controller`. -/
def proceed (request : Nat) (route : Route) (session : LocalControllerSession) (s : Ingress) : Ingress :=
  match route with
  | .session => s.ending 200 request
  | .workspace => { s with requests := s.requests.set request (.resolving route session) }
  | .ownerScoped =>
    match Dict.get s.owners session with
    | some ownerId => s.scope request session ownerId
    | none => { s with requests := s.requests.set request (.resolving route session) }

def arrive (request : Nat) (token : String) (now : Int) (s : Ingress) : Ingress :=
  match s.requests[request]? with
  | some (.proved (.ok principal)) => (s.issue platform ttl request principal token now).ending 200 request
  | some (.proved (.error statusCode)) => s.ending statusCode request
  | some (.validated route session (.ok _)) =>
    ({ s with journal := s.journal ++ [.admitted request session] } : Ingress).proceed request route session
  | some (.validated _ session (.error statusCode)) =>
    if statusCode = 401 then
      { s.ending 401 request with
        sessions := Leases.drop session.tokenHash s.sessions
        journal := s.journal ++ [.refused session] }
    else s.ending statusCode request
  | _ => s

def dataAnswers (request : Nat) (answer : Except Nat (Option String)) (s : Ingress) : Ingress :=
  match s.requests[request]? with
  | some (.resolving route session) =>
    match answer with
    | .error statusCode => s.ending statusCode request
    | .ok ownerId =>
      let told : Ingress :=
        { s with
          owners := Dict.set s.owners session ownerId
          journal := s.journal ++ [.told session ownerId] }
      if route = .ownerScoped then told.scope request session ownerId else told.ending 200 request
  | _ => s

def unreachable (request : Nat) (s : Ingress) : Ingress :=
  match s.requests[request]? with
  | some (.proving _) | some (.proved _) | some (.validating _ _) | some (.validated _ _ _) => s.ending 503 request
  | _ => s

def bootstrapd (action : Bootstrap.Action) (s : Ingress) : Ingress :=
  let host := s.host.step platform settings action
  { s with
    host
    journal := s.journal ++ if host.store.state.resetEpoch = s.host.store.state.resetEpoch then [] else [.withdrawn] }

def step (s : Ingress) : IngressAction → Ingress
  | .bootstrapd action => s.bootstrapd platform settings action
  | .signIn proof => { s with requests := s.requests ++ [.proving proof] }
  | .request route authorization now => s.receive platform route authorization now
  | .serve request now => s.serve platform settings request now
  | .unreachable request => s.unreachable request
  | .arrive request token now => s.arrive platform ttl request token now
  | .dataAnswers request answer => s.dataAnswers request answer
  | .restart => { s with sessions := [], owners := [], requests := s.requests.map Stage.lost }

def opened (now : String) : Ingress := { host := Host.create now }

end Ingress

/-! ## What stands before each mark -/

namespace Mark

def isWithdrawn : Mark → Bool
  | withdrawn => true
  | _ => false

/-- Marks that change neither the epoch, nor the sessions there are, nor what one was told. -/
def isQuiet : Mark → Bool
  | proved .. | begun .. | validated .. | admitted .. | scopedTo .. => true
  | _ => false

def answerTo (session : LocalControllerSession) : Mark → Option (Option String)
  | told other ownerId => if other = session then some ownerId else none
  | _ => none

end Mark

def lastTold (session : LocalControllerSession) (journal : List Mark) : Option (Option String) :=
  (journal.filterMap (Mark.answerTo session)).getLast?

/-- The store as it stood at this point holds the Controller, in the epoch named. -/
structure HoldsAt (journal : List Mark) (store : Store) (controllerId : String) (resetEpoch : Nat) : Prop where
  host : store.HoldsHost controllerId
  epoch : store.state.resetEpoch = resetEpoch
  now : store.state.resetEpoch = journal.countP Mark.isWithdrawn

structure IssuedFrom (platform : Platform) (ttl : Int) (session : LocalControllerSession) (token : String)
    (now : Int) : Prop where
  controllerId : session.controllerId = session.principal.controllerId
  resetEpoch : session.resetEpoch = session.principal.resetEpoch
  tokenHash : session.tokenHash = platform.sha256 token
  expiresAt : session.expiresAt = now + ttl

structure Presented (platform : Platform) (session : LocalControllerSession) (token : String) (now : Int) : Prop where
  tokenHash : session.tokenHash = platform.sha256 token
  live : now < session.expiresAt

def Grounds (platform : Platform) (ttl : Int) (earlier : List Mark) : Mark → Prop
  | .withdrawn => True
  | .refused _ => True
  | .proved principal store => HoldsAt earlier store principal.controllerId principal.resetEpoch
  | .issued _ session token now =>
    (∃ store, .proved session.principal store ∈ earlier) ∧ IssuedFrom platform ttl session token now
  | .begun _ session token now =>
    (∃ signIn token now, .issued signIn session token now ∈ earlier) ∧ .refused session ∉ earlier ∧
      Presented platform session token now
  | .validated request session store =>
    (∃ token now, .begun request session token now ∈ earlier) ∧
      HoldsAt earlier store session.controllerId session.resetEpoch
  | .admitted request session => ∃ store, .validated request session store ∈ earlier
  | .told session _ => ∃ request, .admitted request session ∈ earlier
  | .scopedTo request session ownerId =>
    .admitted request session ∈ earlier ∧ lastTold session earlier = some (some ownerId)

def Answered (journal : List Mark) (request : Nat) : Prop :=
  (∃ session, .admitted request session ∈ journal) ∨ ∃ session token now, .issued request session token now ∈ journal

def StageGrounds (journal : List Mark) (request : Nat) : Stage → Prop
  | .proved (.ok principal) => ∃ store, .proved principal store ∈ journal
  | .proved (.error statusCode) => statusCode ≠ 200
  | .validating _ session => ∃ token now, .begun request session token now ∈ journal
  | .validated _ session (.ok _) => ∃ store, .validated request session store ∈ journal
  | .validated _ session (.error statusCode) =>
    statusCode ≠ 200 ∧ ∃ token now, .begun request session token now ∈ journal
  | .resolving _ session => .admitted request session ∈ journal
  | .ended statusCode => statusCode = 200 → Answered journal request
  | .proving _ => True

theorem stageGrounds_append {journal : List Mark} {request : Nat} {stage : Stage}
    (h : StageGrounds journal request stage) (more : List Mark) : StageGrounds (journal ++ more) request stage := by
  have hMem : ∀ {mark : Mark}, mark ∈ journal → mark ∈ journal ++ more := List.mem_append_left _
  cases stage with
  | proving => trivial
  | ended =>
    exact fun hStatus => (h hStatus).imp (fun hAdmitted => hAdmitted.imp fun _ => hMem) fun hIssued =>
      hIssued.imp fun _ hToken => hToken.imp fun _ hNow => hNow.imp fun _ => hMem
  | proved result =>
    cases result with
    | error => exact h
    | ok principal => exact h.imp fun _ => hMem
  | validating => exact h.imp fun _ hNow => hNow.imp fun _ => hMem
  | validated _ _ result =>
    cases result with
    | error => exact ⟨h.1, h.2.imp fun _ hNow => hNow.imp fun _ => hMem⟩
    | ok => exact h.imp fun _ => hMem
  | resolving => exact hMem h

theorem lastTold_append_of_none {session : LocalControllerSession} {mark : Mark} (journal : List Mark)
    (h : mark.answerTo session = none) : lastTold session (journal ++ [mark]) = lastTold session journal := by
  simp [lastTold, h]

theorem lastTold_append_told (journal : List Mark) (session : LocalControllerSession) (ownerId : Option String) :
    lastTold session (journal ++ [.told session ownerId]) = some ownerId := by
  simp [lastTold, Mark.answerTo]

namespace Ingress

variable (platform : Platform) (settings : BootstrapSettings) (ttl : Int)

structure Sound (s : Ingress) : Prop where
  journal : Journal.Lawful (Grounds platform ttl) s.journal
  epoch : s.host.store.state.resetEpoch = s.journal.countP Mark.isWithdrawn
  sessions : ∀ item ∈ s.sessions, item.1 = item.2.tokenHash ∧
    (∃ signIn token now, .issued signIn item.2 token now ∈ s.journal) ∧ .refused item.2 ∉ s.journal
  issued : ∀ signIn session token now, .issued signIn session token now ∈ s.journal → session.identity < s.issued
  refused : ∀ session, .refused session ∈ s.journal → session.identity < s.issued
  owners : ∀ session ownerId, Dict.get s.owners session = some ownerId → lastTold session s.journal = some ownerId
  requests : ∀ (request : Nat) (stage : Stage), s.requests[request]? = some stage → StageGrounds s.journal request stage

variable {platform} {settings} {ttl} {s : Ingress}

theorem sound_opened (now : String) : Sound platform ttl (opened now) where
  journal := .nil
  epoch := rfl
  sessions := nofun
  issued := nofun
  refused := nofun
  owners := nofun
  requests := nofun

theorem Sound.setStage (h : s.Sound platform ttl) (request : Nat) (stage : Stage)
    (hStage : StageGrounds s.journal request stage) :
    Sound platform ttl { s with requests := s.requests.set request stage } := by
  refine ⟨h.journal, h.epoch, h.sessions, h.issued, h.refused, h.owners, ?_⟩
  intro other found hFound
  rw [List.getElem?_set] at hFound
  split_ifs at hFound with hSame hLt
  · cases hFound
    exact hSame ▸ hStage
  · exact h.requests other found hFound

theorem Sound.ending (h : s.Sound platform ttl) {statusCode request : Nat}
    (hStatus : statusCode = 200 → Answered s.journal request) : Sound platform ttl (s.ending statusCode request) :=
  h.setStage _ _ hStatus

theorem Sound.addStage (h : s.Sound platform ttl) (stage : Stage)
    (hStage : StageGrounds s.journal s.requests.length stage) :
    Sound platform ttl { s with requests := s.requests ++ [stage] } := by
  refine ⟨h.journal, h.epoch, h.sessions, h.issued, h.refused, h.owners, ?_⟩
  intro request found hFound
  rcases Nat.lt_trichotomy request s.requests.length with hLt | rfl | hGt
  · rw [List.getElem?_append_left hLt] at hFound
    exact h.requests request found hFound
  · rw [List.getElem?_concat_length] at hFound
    cases hFound
    exact hStage
  · rw [List.getElem?_eq_none (by rw [List.length_append]; exact hGt)] at hFound
    cases hFound

theorem Sound.keep (h : s.Sound platform ttl) {sessions : List (String × LocalControllerSession)}
    (hSublist : sessions.Sublist s.sessions) : Sound platform ttl { s with sessions := sessions } :=
  ⟨h.journal, h.epoch, fun item hItem => h.sessions item (hSublist.subset hItem), h.issued, h.refused, h.owners,
    h.requests⟩

theorem not_mem_quiet {mark : Mark} (hQuiet : mark.isQuiet = true) {journal : List Mark} {other : Mark}
    (hOther : other.isQuiet = false) (hMem : other ∈ journal ++ [mark]) : other ∈ journal := by
  rcases List.mem_append.mp hMem with hOld | hNew
  · exact hOld
  · rw [List.mem_singleton.mp hNew, hQuiet] at hOther
    cases hOther

theorem Sound.write (h : s.Sound platform ttl) (mark : Mark) (hQuiet : mark.isQuiet = true)
    (hRule : Grounds platform ttl s.journal mark) :
    Sound platform ttl { s with journal := s.journal ++ [mark] } := by
  refine ⟨h.journal.write hRule, ?_, ?_, ?_, ?_, ?_, ?_⟩
  · rw [h.epoch, List.countP_append]
    cases mark <;> first | rfl | cases hQuiet
  · intro item hItem
    obtain ⟨hKey, ⟨signIn, token, now, hIssued⟩, hRefused⟩ := h.sessions item hItem
    exact ⟨hKey, ⟨signIn, token, now, List.mem_append_left _ hIssued⟩, fun hMem => hRefused (not_mem_quiet hQuiet rfl hMem)⟩
  · exact fun signIn session token now hMem => h.issued signIn session token now (not_mem_quiet hQuiet rfl hMem)
  · exact fun session hMem => h.refused session (not_mem_quiet hQuiet rfl hMem)
  · intro session ownerId hGet
    rw [lastTold_append_of_none]
    · exact h.owners session ownerId hGet
    · cases mark <;> first | rfl | cases hQuiet
  · exact fun request stage hStage => stageGrounds_append (h.requests request stage hStage) [mark]

/-! ### What the bootstrap service vouches for -/

theorem authenticationStatus_ne (error : ServiceError) : authenticationStatus error ≠ 200 := by
  cases error <;> simp [authenticationStatus]

theorem heldBy_epoch {store : Store} {refusal : ServiceError} {controllerId : Json} {grant : ControllerGrant}
    (h : store.heldBy refusal controllerId = .ok grant) : grant.resetEpoch = store.state.resetEpoch := by
  unfold Store.heldBy at h
  split at h
  · split at h
    · split at h
      · split at h
        · rename_i hHolds
          cases h
          exact hHolds.2.1
        · cases h
      · cases h
    · cases h
  · cases h

theorem authenticateController_epoch {payload : Json} {now : Rat} {store : Store} {challenges : Challenges}
    {principal : ControllerPrincipal}
    (h : (authenticateController platform payload now store challenges).1 = .ok principal) :
    principal.resetEpoch = store.state.resetEpoch := by
  unfold authenticateController at h
  split at h
  · simp only at h
    split at h
    · cases h
    · split at h
      · cases h
      · split at h
        · split at h
          · cases h
          · rename_i grant hHeld
            split at h
            · cases h
              exact heldBy_epoch hHeld
            · cases h
        · cases h
  · cases h

theorem validateController_session {store : Store} {controllerId : String} {resetEpoch : Nat}
    {principal : ControllerPrincipal}
    (h : store.validateController (.str controllerId) (.int resetEpoch) = .ok principal) :
    store.HoldsHost controllerId ∧ store.state.resetEpoch = resetEpoch := by
  have hHolds := Store.validateController_ok h
  unfold Store.validateController at h
  split at h
  · cases h
  · rename_i grant hHeld
    split at h
    · rename_i hEpoch
      cases h
      rw [← Store.heldBy_named hHeld, ← heldBy_epoch hHeld]
      refine ⟨hHolds, ?_⟩
      simpa [Json.isInteger, Json.isNumber, eq_comm] using hEpoch
    · cases h

theorem Sound.proving (h : s.Sound platform ttl) {request : Nat} {proof : Json} {now : Rat}
    (hStage : s.requests[request]? = some (.proving proof)) :
    (s.serve platform settings request now).Sound platform ttl := by
  unfold serve
  rw [hStage]
  simp only
  cases hResult : (authenticateController platform proof now s.host.store s.host.challenges).1 with
  | error error =>
    have hSet := h.setStage request (.proved (.error (authenticationStatus error)))
      (authenticationStatus_ne error)
    simp only [Except.toOption, Option.map_none, Option.toList_none, List.append_nil]
    exact ⟨hSet.journal, hSet.epoch, hSet.sessions, hSet.issued, hSet.refused, hSet.owners, hSet.requests⟩
  | ok principal =>
    have hHolds : HoldsAt s.journal s.host.store principal.controllerId principal.resetEpoch :=
      ⟨authenticateController_ok hResult, (authenticateController_epoch hResult).symm, h.epoch⟩
    have hWritten := h.write (.proved principal s.host.store) rfl hHolds
    have hSet := hWritten.setStage request (.proved (.ok principal))
      ⟨s.host.store, List.mem_append_right _ List.mem_cons_self⟩
    exact ⟨hSet.journal, hSet.epoch, hSet.sessions, hSet.issued, hSet.refused, hSet.owners, hSet.requests⟩

theorem Sound.validating (h : s.Sound platform ttl) {request : Nat} {route : Route}
    {session : LocalControllerSession} {now : Rat}
    (hStage : s.requests[request]? = some (.validating route session)) :
    (s.serve platform settings request now).Sound platform ttl := by
  unfold serve
  rw [hStage]
  simp only
  have hBegun : ∃ token now, Mark.begun request session token now ∈ s.journal := h.requests request _ hStage
  cases hResult : s.host.store.validateController (.str session.controllerId) (.int session.resetEpoch) with
  | error error =>
    simp only [Except.toOption, Option.map_none, Option.toList_none, List.append_nil]
    exact h.setStage request (.validated route session (.error (authenticationStatus error)))
      ⟨authenticationStatus_ne error, hBegun⟩
  | ok principal =>
    obtain ⟨hHolds, hEpoch⟩ := validateController_session hResult
    have hWritten := h.write (.validated request session s.host.store) rfl ⟨hBegun, hHolds, hEpoch, h.epoch⟩
    exact hWritten.setStage request (.validated route session (.ok principal))
      ⟨s.host.store, List.mem_append_right _ List.mem_cons_self⟩

theorem sound_serve (h : s.Sound platform ttl) (request : Nat) (now : Rat) :
    (s.serve platform settings request now).Sound platform ttl := by
  cases hStage : s.requests[request]? with
  | none =>
    unfold serve
    rwa [hStage]
  | some stage =>
    cases stage with
    | proving proof => exact h.proving hStage
    | validating route session => exact h.validating hStage
    | proved | validated | resolving | ended =>
      unfold serve
      rwa [hStage]

theorem sound_receive (h : s.Sound platform ttl) (route : Route) (authorization : Option String) (now : Int) :
    (s.receive platform route authorization now).Sound platform ttl := by
  unfold receive
  simp only
  split
  · exact h.addStage (.ended 401) nofun
  split
  · exact h.addStage (.ended 500) nofun
  have hSublist : (Leases.lookup LocalControllerSession.expiresAt now (platform.sha256 (bearerToken authorization))
      s.sessions).2.Sublist s.sessions := Leases.lookup_sublist
  cases hLookup : Leases.lookup LocalControllerSession.expiresAt now (platform.sha256 (bearerToken authorization))
      s.sessions with
  | mk found rest =>
    rw [hLookup] at hSublist
    cases found with
    | none => exact (h.keep hSublist).addStage (.ended 401) nofun
    | some session =>
      obtain ⟨hMem, hLive, _⟩ := Leases.lookup_eq_some (congrArg Prod.fst hLookup)
      obtain ⟨hKey, hIssued, hRefused⟩ := h.sessions _ hMem
      have hWritten := (h.keep hSublist).write
        (.begun s.requests.length session (bearerToken authorization) now) rfl
        ⟨hIssued, hRefused, hKey.symm, hLive⟩
      exact hWritten.addStage (.validating route session)
        ⟨_, now, List.mem_append_right _ List.mem_cons_self⟩

theorem sound_issue (h : s.Sound platform ttl) (request : Nat) {principal : ControllerPrincipal} {token : String} {now : Int}
    (hProved : ∃ store, Mark.proved principal store ∈ s.journal) :
    (s.issue platform ttl request principal token now).Sound platform ttl := by
  unfold issue
  simp only
  have hFrom : IssuedFrom platform ttl (s.newSession platform ttl principal token now) token now := ⟨rfl, rfl, rfl, rfl⟩
  have hIdentity : (s.newSession platform ttl principal token now).identity = s.issued := rfl
  have hPrincipal : (s.newSession platform ttl principal token now).principal = principal := rfl
  generalize s.newSession platform ttl principal token now = session at hFrom hIdentity hPrincipal
  refine ⟨h.journal.write ⟨hPrincipal ▸ hProved, hFrom⟩, ?_, ?_, ?_, ?_, ?_, ?_⟩
  · rw [h.epoch, List.countP_append]
    rfl
  · intro item hItem
    rcases Leases.mem_give hItem with rfl | hOld
    · refine ⟨rfl, ⟨request, token, now, List.mem_append_right _ List.mem_cons_self⟩, fun hRefused => ?_⟩
      have hBefore := h.refused session (by simpa using hRefused)
      rw [hIdentity] at hBefore
      exact absurd hBefore (lt_irrefl _)
    · obtain ⟨hKey, ⟨signIn, token, now, hIssued⟩, hRefused⟩ := h.sessions item hOld
      exact ⟨hKey, ⟨signIn, token, now, List.mem_append_left _ hIssued⟩, by simpa using hRefused⟩
  · intro signIn other token now hMem
    rcases List.mem_append.mp hMem with hOld | hNew
    · exact Nat.lt_succ_of_lt (h.issued signIn other token now hOld)
    · cases List.mem_singleton.mp hNew
      rw [hIdentity]
      exact Nat.lt_succ_self _
  · intro other hMem
    exact Nat.lt_succ_of_lt (h.refused other (by simpa using hMem))
  · intro other ownerId hGet
    rw [lastTold_append_of_none _ rfl]
    exact h.owners other ownerId hGet
  · exact fun request stage hStage => stageGrounds_append (h.requests request stage hStage) _

theorem sound_scope (h : s.Sound platform ttl) {request : Nat} {session : LocalControllerSession}
    {ownerId : Option String} (hAdmitted : .admitted request session ∈ s.journal)
    (hTold : lastTold session s.journal = some ownerId) : (s.scope request session ownerId).Sound platform ttl := by
  unfold scope
  split
  · split_ifs
    · exact h.ending nofun
    · exact (h.ending fun _ => .inl ⟨session, hAdmitted⟩).write _ rfl ⟨hAdmitted, hTold⟩
  · exact h.ending nofun

theorem sound_refuse (h : s.Sound platform ttl) {request : Nat} {session : LocalControllerSession}
    (hIssued : ∃ signIn token now, Mark.issued signIn session token now ∈ s.journal) :
    Sound platform ttl { s.ending 401 request with
      sessions := Leases.drop session.tokenHash s.sessions
      journal := s.journal ++ [.refused session] } := by
  have hEnded : Sound platform ttl (s.ending 401 request) := h.ending nofun
  refine ⟨h.journal.write trivial, ?_, ?_, ?_, ?_, ?_, ?_⟩
  · rw [hEnded.epoch, List.countP_append]
    rfl
  · intro item hItem
    have hDropped := List.mem_filter.mp hItem
    obtain ⟨hKey, ⟨signIn, token, now, hItemIssued⟩, hRefused⟩ := h.sessions item hDropped.1
    refine ⟨hKey, ⟨signIn, token, now, List.mem_append_left _ hItemIssued⟩, fun hMem => ?_⟩
    rcases List.mem_append.mp hMem with hOld | hNew
    · exact hRefused hOld
    · cases List.mem_singleton.mp hNew
      exact of_decide_eq_true hDropped.2 hKey
  · intro signIn other token now hMem
    exact h.issued signIn other token now (by simpa using hMem)
  · intro other hMem
    rcases List.mem_append.mp hMem with hOld | hNew
    · exact h.refused other hOld
    · cases List.mem_singleton.mp hNew
      obtain ⟨signIn, token, now, hMem⟩ := hIssued
      exact h.issued signIn _ token now hMem
  · intro other ownerId hGet
    rw [lastTold_append_of_none _ rfl]
    exact h.owners other ownerId hGet
  · exact fun other stage hStage => stageGrounds_append (hEnded.requests other stage hStage) _

theorem sound_proceed (h : s.Sound platform ttl) {request : Nat} (route : Route) {session : LocalControllerSession}
    (hAdmitted : .admitted request session ∈ s.journal) : (s.proceed request route session).Sound platform ttl := by
  cases route with
  | session => exact h.ending fun _ => .inl ⟨session, hAdmitted⟩
  | workspace => exact h.setStage request (.resolving .workspace session) hAdmitted
  | ownerScoped =>
    unfold proceed
    cases hOwner : Dict.get s.owners session with
    | none => exact h.setStage request (.resolving .ownerScoped session) hAdmitted
    | some ownerId => exact sound_scope h hAdmitted (h.owners session ownerId hOwner)

theorem sound_arrive (h : s.Sound platform ttl) (request : Nat) (token : String) (now : Int) :
    (s.arrive platform ttl request token now).Sound platform ttl := by
  unfold arrive
  cases hStage : s.requests[request]? with
  | none => exact h
  | some stage =>
    have hGrounds := h.requests request stage hStage
    cases stage with
    | proving | validating | resolving | ended => exact h
    | proved result =>
      cases result with
      | error statusCode => exact h.ending fun hStatus => absurd hStatus hGrounds
      | ok principal =>
        exact (sound_issue h request hGrounds).ending fun _ =>
          .inr ⟨_, token, now, List.mem_append_right _ List.mem_cons_self⟩
    | validated route session result =>
      cases result with
      | ok principal =>
        have hAdmitted := h.write (.admitted request session) rfl hGrounds
        exact sound_proceed hAdmitted route (List.mem_append_right _ List.mem_cons_self)
      | error statusCode =>
        obtain ⟨hStatus, presented, time, hBegun⟩ := hGrounds
        obtain ⟨earlier, later, hSplit, _, hIssued, _⟩ := h.journal.of_mem hBegun
        simp only
        split_ifs
        · refine sound_refuse h (hIssued.imp fun signIn hToken => hToken.imp fun token hNow => hNow.imp fun now hMem => ?_)
          rw [hSplit]
          exact List.mem_append_left _ hMem
        · exact h.ending fun hSame => absurd hSame hStatus

theorem Sound.tell (h : s.Sound platform ttl) {request : Nat} {session : LocalControllerSession}
    (hAdmitted : .admitted request session ∈ s.journal) (ownerId : Option String) :
    Sound platform ttl { s with
      owners := Dict.set s.owners session ownerId
      journal := s.journal ++ [.told session ownerId] } := by
  refine ⟨h.journal.write ⟨request, hAdmitted⟩, ?_, ?_, ?_, ?_, ?_, ?_⟩
  · rw [h.epoch, List.countP_append]
    rfl
  · intro item hItem
    obtain ⟨hKey, ⟨signIn, token, now, hIssued⟩, hRefused⟩ := h.sessions item hItem
    exact ⟨hKey, ⟨signIn, token, now, List.mem_append_left _ hIssued⟩, by simpa using hRefused⟩
  · exact fun signIn other token now hMem => h.issued signIn other token now (by simpa using hMem)
  · exact fun other hMem => h.refused other (by simpa using hMem)
  · intro other found hGet
    rw [Dict.get_set] at hGet
    split_ifs at hGet with hSame
    · rw [← hSame, lastTold_append_told]
      exact congrArg some (Option.some.inj hGet)
    · have hOther : Mark.answerTo other (.told session ownerId) = none := if_neg (Ne.symm hSame)
      rw [lastTold_append_of_none _ hOther]
      exact h.owners other found hGet
  · exact fun other stage hStage => stageGrounds_append (h.requests other stage hStage) _

theorem sound_dataAnswers (h : s.Sound platform ttl) (request : Nat) (answer : Except Nat (Option String)) :
    (s.dataAnswers request answer).Sound platform ttl := by
  unfold dataAnswers
  split
  · rename_i route session hStage
    cases answer with
    | error statusCode => exact h.ending fun _ => .inl ⟨session, h.requests request _ hStage⟩
    | ok ownerId =>
      have hAdmitted : Mark.admitted request session ∈ s.journal := h.requests request _ hStage
      have hTold := h.tell hAdmitted ownerId
      simp only
      split_ifs
      · exact sound_scope hTold (List.mem_append_left _ hAdmitted) (lastTold_append_told _ _ _)
      · exact hTold.ending fun _ => .inl ⟨session, List.mem_append_left _ hAdmitted⟩
  · exact h

theorem sound_unreachable (h : s.Sound platform ttl) (request : Nat) :
    (s.unreachable request).Sound platform ttl := by
  unfold unreachable
  split
  all_goals first | exact h.ending nofun | exact h

theorem sound_bootstrapd (h : s.Sound platform ttl) (action : Bootstrap.Action) :
    (s.bootstrapd platform settings action).Sound platform ttl := by
  unfold bootstrapd
  simp only
  split_ifs with hSame
  · rw [List.append_nil]
    exact ⟨h.journal, hSame.trans h.epoch, h.sessions, h.issued, h.refused, h.owners, h.requests⟩
  · have hEpoch : (s.host.step platform settings action).store.state.resetEpoch =
        s.host.store.state.resetEpoch + 1 := by
      rcases Host.step_resetEpoch s.host action with hKept | ⟨_, hNext, _⟩
      · exact absurd hKept hSame
      · exact hNext
    refine ⟨h.journal.write trivial, ?_, ?_, ?_, ?_, ?_, ?_⟩
    · rw [List.countP_append, ← h.epoch]
      exact hEpoch
    · intro item hItem
      obtain ⟨hKey, ⟨signIn, token, now, hIssued⟩, hRefused⟩ := h.sessions item hItem
      exact ⟨hKey, ⟨signIn, token, now, List.mem_append_left _ hIssued⟩, by simpa using hRefused⟩
    · exact fun signIn other token now hMem => h.issued signIn other token now (by simpa using hMem)
    · exact fun other hMem => h.refused other (by simpa using hMem)
    · intro other found hGet
      rw [lastTold_append_of_none _ rfl]
      exact h.owners other found hGet
    · exact fun other stage hStage => stageGrounds_append (h.requests other stage hStage) _

theorem sound_restart (h : s.Sound platform ttl) : (s.step platform settings ttl .restart).Sound platform ttl := by
  refine ⟨h.journal, h.epoch, nofun, h.issued, h.refused, nofun, ?_⟩
  intro request stage hStage
  rw [step, List.getElem?_map, Option.map_eq_some_iff] at hStage
  obtain ⟨before, hBefore, rfl⟩ := hStage
  cases before with
  | ended statusCode => exact h.requests request (.ended statusCode) hBefore
  | _ => nofun

theorem sound_step (s : Ingress) (a : IngressAction) (h : s.Sound platform ttl) :
    (s.step platform settings ttl a).Sound platform ttl := by
  cases a with
  | bootstrapd action => exact sound_bootstrapd h action
  | signIn proof => exact h.addStage (.proving proof) trivial
  | request route authorization now => exact sound_receive h route authorization now
  | serve request now => exact sound_serve h request now
  | unreachable request => exact sound_unreachable h request
  | arrive request token now => exact sound_arrive h request token now
  | dataAnswers request answer => exact sound_dataAnswers h request answer
  | restart => exact sound_restart h

/-- The way of a request up to its admission: the Controller proved itself, was issued the session, came back
with the token of it, and the bootstrap service found it holding the Host. Between the proof and this
finding no authority was withdrawn, and before the request began the session was refused to none. -/
def CameThrough (platform : Platform) (ttl : Int) (request : Nat) (session : LocalControllerSession)
    (earlier : List Mark) : Prop :=
  ∃ before toIssue toBegin toValidate rest proofStore store signIn token issuedAt presented now,
    earlier = before ++ .proved session.principal proofStore :: (toIssue ++ .issued signIn session token issuedAt ::
      (toBegin ++ .begun request session presented now :: (toValidate ++ .validated request session store :: rest))) ∧
    proofStore.HoldsHost session.controllerId ∧ store.HoldsHost session.controllerId ∧
    .withdrawn ∉ toIssue ++ toBegin ++ toValidate ∧ .refused session ∉ before ++ toIssue ++ toBegin ∧
    platform.sha256 presented = platform.sha256 token ∧ session.expiresAt = issuedAt + ttl ∧ now < session.expiresAt

def ToldLast (session : LocalControllerSession) (ownerId : String) (earlier : List Mark) : Prop :=
  ∃ before rest asking, earlier = before ++ .told session (some ownerId) :: rest ∧
    .admitted asking session ∈ before ∧ ∀ other, .told session other ∉ rest

/-- What holds of the ingress in every state: only what was admitted or signed in is answered, only what came
through is admitted, and an Owner's routes serve the Owner that the Data plane named. -/
structure Guarded (platform : Platform) (ttl : Int) (s : Ingress) : Prop where
  answered : ∀ request : Nat, s.requests[request]? = some (.ended 200) → Answered s.journal request
  admitted : ∀ earlier request session later, s.journal = earlier ++ .admitted request session :: later →
    CameThrough platform ttl request session earlier
  ownerScoped : ∀ earlier request session ownerId later, s.journal = earlier ++ .scopedTo request session ownerId :: later →
    .admitted request session ∈ earlier ∧ ToldLast session ownerId earlier

theorem not_withdrawn {first second : List Mark} (h : (first ++ second).countP Mark.isWithdrawn = first.countP Mark.isWithdrawn) :
    Mark.withdrawn ∉ second := by
  rw [List.countP_append] at h
  intro hMem
  have hPos : 0 < second.countP Mark.isWithdrawn := List.countP_pos_iff.mpr ⟨_, hMem, rfl⟩
  omega

theorem cameThrough {earlier later : List Mark} {request : Nat} {session : LocalControllerSession}
    (h : Journal.Lawful (Grounds platform ttl) (earlier ++ .admitted request session :: later)) :
    CameThrough platform ttl request session earlier := by
  obtain ⟨store, hValidated⟩ := h.holds
  obtain ⟨toValidated, rest, rfl, hLawful, ⟨presented, now, hBegun⟩, hHolds⟩ := h.front.of_mem hValidated
  obtain ⟨toBegun, toValidate, rfl, hLawful, ⟨signIn, token, issuedAt, hIssued⟩, hRefused, hPresented⟩ :=
    hLawful.of_mem hBegun
  obtain ⟨toIssued, toBegin, rfl, hLawful, ⟨proofStore, hProved⟩, hFrom⟩ := hLawful.of_mem hIssued
  obtain ⟨before, toIssue, rfl, _, hProof⟩ := hLawful.of_mem hProved
  refine ⟨before, toIssue, toBegin, toValidate, rest, proofStore, store, signIn, token, issuedAt, presented, now,
    by simp only [List.append_assoc, List.cons_append], ?_, hHolds.host, ?_, ?_, ?_, hFrom.expiresAt, hPresented.live⟩
  · exact hFrom.controllerId ▸ hProof.host
  · have hEpoch := hHolds.now.symm.trans
      (hHolds.epoch.trans (hFrom.resetEpoch.trans (hProof.epoch.symm.trans hProof.now)))
    simp only [List.append_assoc, List.cons_append] at hEpoch
    have hNone := not_withdrawn hEpoch
    simpa using hNone
  · simpa using hRefused
  · exact hPresented.tokenHash.symm.trans hFrom.tokenHash

theorem toldLast {journal : List Mark} {session : LocalControllerSession} {ownerId : String}
    (h : Journal.Lawful (Grounds platform ttl) journal) (hTold : lastTold session journal = some (some ownerId)) :
    ToldLast session ownerId journal := by
  obtain ⟨answers, hAnswers⟩ := List.getLast?_eq_some_iff.mp hTold
  obtain ⟨front, back, hJournal, hFront, hBack⟩ := List.filterMap_eq_append_iff.mp hAnswers
  obtain ⟨skipped, mark, rest, hSplit, hSkipped, hMark, hRest⟩ := List.filterMap_eq_cons_iff.mp hBack
  have hToldMark : mark = .told session (some ownerId) := by
    cases mark with
    | told other answer =>
      simp only [Mark.answerTo] at hMark
      split_ifs at hMark with hSame
      cases hMark
      rw [hSame]
    | _ => cases hMark
  rw [hToldMark] at hSplit
  rw [hJournal, hSplit, ← List.append_assoc] at h ⊢
  obtain ⟨asking, hAdmitted⟩ := h.holds
  refine ⟨_, rest, asking, rfl, hAdmitted, fun other hOther => ?_⟩
  have hNone := List.filterMap_eq_nil_iff.mp hRest _ hOther
  simp [Mark.answerTo] at hNone

/-- Whatever requests, Controllers and the bootstrap service do, and in whatever order the answers come. -/
theorem guarded_of_run (platform : Platform) (settings : BootstrapSettings) (ttl : Int) (now : String)
    (actions : List IngressAction) :
    (run (step platform settings ttl) (opened now) actions).Guarded platform ttl := by
  have h : (run (step platform settings ttl) (opened now) actions).Sound platform ttl :=
    run_invariant (fun s a => sound_step s a) (sound_opened now) actions
  refine ⟨fun request hEnded => h.requests request _ hEnded rfl, ?_, ?_⟩
  · intro earlier request session later hSplit
    have hLawful := h.journal
    rw [hSplit] at hLawful
    exact cameThrough hLawful
  · intro earlier request session ownerId later hSplit
    have hLawful := h.journal
    rw [hSplit] at hLawful
    exact ⟨hLawful.holds.1, toldLast hLawful.front hLawful.holds.2⟩

/-! ## The table -/

variable (platform) (ttl) in
/-- A session is issued under a token that no session of the table has, and not before any of these was. -/
def Orderly (s : Ingress) : IngressAction → Prop
  | .arrive _ token now =>
    platform.sha256 token ∉ s.sessions.map Prod.fst ∧ ∀ item ∈ s.sessions, item.2.expiresAt ≤ now + ttl
  | _ => True

/-- The action is taken before the session ends; it does not refuse it, and if it issues another, fewer than the
table holds were issued since. -/
def Spares (session : LocalControllerSession) (s : Ingress) : IngressAction → Prop
  | .request _ _ now => now < session.expiresAt
  | .arrive request _ now =>
    now < session.expiresAt ∧
    (∀ principal, s.requests[request]? = some (.proved (.ok principal)) →
      s.issued < session.identity + sessionLimit) ∧
    ∀ route other, s.requests[request]? = some (.validated route other (.error 401)) →
      other.tokenHash ≠ session.tokenHash
  | .restart => False
  | _ => True

inductive TableStep (platform : Platform) (ttl : Int) (s : Ingress) : IngressAction → Ingress → Prop where
  | kept {a : IngressAction} {t : Ingress} (hSessions : t.sessions = s.sessions) (hIssued : t.issued = s.issued) :
      TableStep platform ttl s a t
  | looked {route : Route} {authorization : Option String} {now : Int} {t : Ingress} (token : String)
      (hSessions : t.sessions =
        (Leases.lookup LocalControllerSession.expiresAt now (platform.sha256 token) s.sessions).2)
      (hIssued : t.issued = s.issued) : TableStep platform ttl s (.request route authorization now) t
  | gave {request : Nat} {token : String} {now : Int} {t : Ingress} {principal : ControllerPrincipal}
      (session : LocalControllerSession) (hStage : s.requests[request]? = some (.proved (.ok principal)))
      (hHash : session.tokenHash = platform.sha256 token) (hEnd : session.expiresAt = now + ttl)
      (hSessions : t.sessions =
        Leases.give LocalControllerSession.expiresAt sessionLimit now session.tokenHash session s.sessions)
      (hIssued : t.issued = s.issued + 1) : TableStep platform ttl s (.arrive request token now) t
  | refused {request : Nat} {token : String} {now : Int} {t : Ingress} {route : Route}
      {session : LocalControllerSession}
      (hStage : s.requests[request]? = some (.validated route session (.error 401)))
      (hSessions : t.sessions = Leases.drop session.tokenHash s.sessions) (hIssued : t.issued = s.issued) :
      TableStep platform ttl s (.arrive request token now) t
  | emptied {t : Ingress} (hSessions : t.sessions = []) (hIssued : t.issued = s.issued) : TableStep platform ttl s .restart t

theorem scope_sessions (request : Nat) (session : LocalControllerSession) (ownerId : Option String) (s : Ingress) :
    (s.scope request session ownerId).sessions = s.sessions ∧ (s.scope request session ownerId).issued = s.issued := by
  unfold scope
  split
  · split_ifs
    · exact ⟨rfl, rfl⟩
    · exact ⟨rfl, rfl⟩
  · exact ⟨rfl, rfl⟩

theorem proceed_sessions (request : Nat) (route : Route) (session : LocalControllerSession) (s : Ingress) :
    (s.proceed request route session).sessions = s.sessions ∧ (s.proceed request route session).issued = s.issued := by
  unfold proceed
  cases route with
  | session | workspace => exact ⟨rfl, rfl⟩
  | ownerScoped =>
    simp only
    split
    · exact scope_sessions request session _ s
    · exact ⟨rfl, rfl⟩

theorem tableStep_arrive (s : Ingress) (request : Nat) (token : String) (now : Int) :
    TableStep platform ttl s (.arrive request token now)
      (s.arrive platform ttl request token now) := by
  unfold arrive
  split
  · rename_i principal hStage
    exact .gave _ hStage rfl rfl rfl rfl
  · exact .kept rfl rfl
  · rename_i route session _ _
    exact .kept (proceed_sessions request route session _).1 (proceed_sessions request route session _).2
  · rename_i route session statusCode hStage
    split_ifs with hRefused
    · subst hRefused
      exact .refused hStage rfl rfl
    · exact .kept rfl rfl
  · exact .kept rfl rfl

variable (platform settings ttl) in
theorem tableStep (s : Ingress) (a : IngressAction) :
    TableStep platform ttl s a (s.step platform settings ttl a) := by
  cases a with
  | bootstrapd | signIn => exact .kept rfl rfl
  | restart => exact .emptied rfl rfl
  | arrive request token now => exact tableStep_arrive s request token now
  | serve request now =>
    refine .kept ?_ ?_ <;> (simp only [step, serve]; split <;> rfl)
  | unreachable request =>
    refine .kept ?_ ?_ <;> (simp only [step, unreachable]; split <;> rfl)
  | dataAnswers request answer =>
    simp only [step, dataAnswers]
    split
    · split
      · exact .kept rfl rfl
      · split_ifs
        · exact .kept (scope_sessions ..).1 (scope_sessions ..).2
        · exact .kept rfl rfl
    · exact .kept rfl rfl
  | request route authorization now =>
    simp only [step, receive]
    split
    · exact .kept rfl rfl
    split
    · exact .kept rfl rfl
    generalize hLookup : Leases.lookup LocalControllerSession.expiresAt now
      (platform.sha256 (bearerToken authorization)) s.sessions = found
    obtain ⟨found, rest⟩ := found
    cases found with
    | none => exact .looked (bearerToken authorization) (congrArg Prod.snd hLookup).symm rfl
    | some session => exact .looked (bearerToken authorization) (congrArg Prod.snd hLookup).symm rfl

structure Bounded (s : Ingress) : Prop where
  nodup : (s.sessions.map Prod.fst).Nodup
  length : s.sessions.length ≤ sessionLimit

theorem bounded_opened (now : String) : (opened now).Bounded := ⟨List.nodup_nil, Nat.zero_le _⟩

variable (platform settings ttl) in
theorem bounded_step (s : Ingress) (a : IngressAction) (h : s.Bounded) : (s.step platform settings ttl a).Bounded := by
  have hSublist : ∀ {sessions : List (String × LocalControllerSession)}, sessions.Sublist s.sessions →
      (sessions.map Prod.fst).Nodup ∧ sessions.length ≤ sessionLimit := fun hSub =>
    ⟨h.nodup.sublist (hSub.map _), hSub.length_le.trans h.length⟩
  have hStep := tableStep platform settings ttl s a
  generalize s.step platform settings ttl a = t at hStep
  cases hStep with
  | kept hSessions _ => exact ⟨hSessions ▸ h.nodup, hSessions ▸ h.length⟩
  | looked token hSessions _ =>
    have hKept := hSublist (hSessions ▸ Leases.lookup_sublist)
    exact ⟨hKept.1, hKept.2⟩
  | gave session _ _ _ hSessions _ =>
    exact ⟨hSessions ▸ Leases.nodup_give h.nodup, hSessions ▸ Leases.length_give (by decide) h.length⟩
  | refused _ hSessions _ =>
    have hKept := hSublist (hSessions ▸ Leases.drop_sublist)
    exact ⟨hKept.1, hKept.2⟩
  | emptied hSessions _ =>
    have hKept := hSublist (hSessions ▸ List.nil_sublist _)
    exact ⟨hKept.1, hKept.2⟩

/-- The session stands in the table with at most as many behind it as were issued since. -/
structure Standing (session : LocalControllerSession) (s : Ingress) : Prop where
  bounded : s.Bounded
  ascending : Leases.Ascending LocalControllerSession.expiresAt s.sessions
  behind : ∃ n, Leases.Behind s.sessions (session.tokenHash, session) n ∧ session.identity + n < s.issued

theorem ascending_step {s : Ingress} {a : IngressAction} (hOrderly : s.Orderly platform ttl a)
    (h : Leases.Ascending LocalControllerSession.expiresAt s.sessions) :
    Leases.Ascending LocalControllerSession.expiresAt (s.step platform settings ttl a).sessions := by
  have hStep := tableStep platform settings ttl s a
  generalize s.step platform settings ttl a = t at hStep
  cases hStep with
  | kept hSessions _ => exact hSessions ▸ h
  | looked token hSessions _ => exact hSessions ▸ h.sublist Leases.lookup_sublist
  | gave session _ hHash hEnd hSessions _ =>
    rw [hSessions]
    exact Leases.ascending_give h (hHash ▸ hOrderly.1) (hEnd ▸ hOrderly.2)
  | refused _ hSessions _ => exact hSessions ▸ h.sublist Leases.drop_sublist
  | emptied hSessions _ => exact hSessions ▸ List.Pairwise.nil

theorem standing_step {session : LocalControllerSession} {s : Ingress} {a : IngressAction}
    (hGuard : s.Orderly platform ttl a ∧ s.Spares session a) (h : s.Standing session) :
    (s.step platform settings ttl a).Standing session := by
  have hBounded := bounded_step platform settings ttl s a h.bounded
  have hAscending : Leases.Ascending LocalControllerSession.expiresAt (s.step platform settings ttl a).sessions :=
    ascending_step hGuard.1 h.ascending
  refine ⟨hBounded, hAscending, ?_⟩
  obtain ⟨n, hBehind, hFew⟩ := h.behind
  have hMem := hBehind.mem
  have hStep := tableStep platform settings ttl s a
  generalize s.step platform settings ttl a = t at hStep
  cases hStep with
  | kept hSessions hIssued =>
    rw [hSessions, hIssued]
    exact ⟨n, hBehind, hFew⟩
  | @looked _ _ now _ token hSessions hIssued =>
    rw [hSessions, hIssued]
    refine ⟨n, ?_, hFew⟩
    have hStays : (session.tokenHash, session) ∈ (Leases.lookup LocalControllerSession.expiresAt now
        (platform.sha256 token) s.sessions).2 := Leases.mem_lookup h.bounded.nodup hMem hGuard.2 _
    unfold Leases.lookup at hStays ⊢
    split
    · exact hBehind
    · split
      · rename_i hGet hEnded
        simp only [hGet, if_pos hEnded] at hStays
        exact hBehind.filter (List.mem_filter.mp hStays).2
      · exact hBehind
  | gave other hStage hHash hEnd hSessions hIssued =>
    rw [hSessions, hIssued]
    have hRoom := hGuard.2.2.1 _ hStage
    exact ⟨n + 1, Leases.behind_give h.bounded.nodup h.ascending hBehind (by omega) hGuard.2.1 (hHash ▸ hGuard.1.1),
      by omega⟩
  | refused hStage hSessions hIssued =>
    rw [hSessions, hIssued]
    have hOther := hGuard.2.2.2 _ _ hStage
    exact ⟨n, hBehind.filter (decide_eq_true (Ne.symm hOther)), hFew⟩
  | emptied _ _ => exact hGuard.2.elim

theorem Standing.lookup {session : LocalControllerSession} {s : Ingress} (h : s.Standing session) {now : Int}
    (hLive : now < session.expiresAt) :
    Leases.lookup LocalControllerSession.expiresAt now session.tokenHash s.sessions = (some session, s.sessions) := by
  obtain ⟨n, hBehind, _⟩ := h.behind
  exact Leases.lookup_of_mem h.bounded.nodup hBehind.mem hLive

/-- The table is bounded, and a session that it took in is found until it ends, is refused or as many others
were issued as the table holds. -/
structure Retains (platform : Platform) (settings : BootstrapSettings) (ttl : Int) : Prop where
  bounded : ∀ now actions, (run (step platform settings ttl) (opened now) actions).Bounded
  found : ∀ start before request token now principal after,
    (run (step platform settings ttl) (opened start) before).requests[request]? = some (.proved (.ok principal)) →
    Meets (step platform settings ttl) (Orderly platform ttl) (opened start)
      (before ++ .arrive request token now :: after) →
    Meets (step platform settings ttl) (Spares ((run (step platform settings ttl) (opened start) before).newSession
        platform ttl principal token now))
      (run (step platform settings ttl) (opened start) (before ++ [.arrive request token now])) after →
    ∀ later < now + ttl, Leases.lookup LocalControllerSession.expiresAt later (platform.sha256 token)
        (run (step platform settings ttl) (opened start) (before ++ .arrive request token now :: after)).sessions =
      (some ((run (step platform settings ttl) (opened start) before).newSession platform ttl principal token now),
        (run (step platform settings ttl) (opened start) (before ++ .arrive request token now :: after)).sessions)

theorem sessions_retained (platform : Platform) (settings : BootstrapSettings) (ttl : Int) :
    Retains platform settings ttl := by
  have hBounded : ∀ now actions, (run (step platform settings ttl) (opened now) actions).Bounded := fun now actions =>
    run_invariant (fun s a => bounded_step platform settings ttl s a) (bounded_opened now) actions
  refine ⟨hBounded, ?_⟩
  intro start before request token now principal after hStage hOrderly hSpares later hLater
  rw [List.append_cons] at hOrderly ⊢
  obtain ⟨hFront, hBack⟩ := (meets_append _ _ _ _ _).mp hOrderly
  rw [run_append]
  have hIssue : (run (step platform settings ttl) (opened start) (before ++ [.arrive request token now])).Standing
      ((run (step platform settings ttl) (opened start) before).newSession platform ttl principal token now) := by
    refine ⟨hBounded _ _, ?_, 0, ?_, ?_⟩
    · refine Meets.run_invariant (P := fun s : Ingress => Leases.Ascending LocalControllerSession.expiresAt s.sessions)
        (fun s a => ascending_step) ?_ hFront
      exact List.Pairwise.nil
    · obtain ⟨_, hLast⟩ := (meets_append _ _ _ _ _).mp hFront
      rw [run_append, run_cons, run_nil]
      simp only [step, arrive, hStage]
      exact Leases.behind_given hLast.1.1
    · rw [run_append, run_cons, run_nil]
      simp only [step, arrive, hStage]
      exact Nat.lt_succ_self _
  have hStanding := Meets.run_invariant (fun s a hGuard h => standing_step hGuard h) hIssue
    ((meets_and _ _ _ _ _).mpr ⟨hBack, hSpares⟩)
  exact hStanding.lookup hLater

end Ingress

end EidolonAdmin.LocalApi
