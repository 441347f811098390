import EidolonAdmin.ControlPlane.Errors
import EidolonAdmin.Foundation.JsonSize
import EidolonAdmin.Foundation.Model

/-! # How the clients ask an authority

Whatever an authority answers, a client returns a value or raises; what it raises of its own is an
`AuthorityFailure` whose texts are constants or come from the answer.
-/

namespace EidolonAdmin.ControlPlane

open Foundation Foundation.JsonText
open Text (ofString Encodable Bounded)

/-- A response, whose status HTTP writes in three digits. -/
structure Response where
  status : Nat
  content : List Byte
  threeDigits : status < 1000

/-- What comes of a request: a response, a transport error that the clients expect, or another
exception. -/
inductive Exchange where
  | response (response : Response)
  | unreachable
  | escaped

inductive Raised where
  | authority (failure : AuthorityFailure)
  | escaped

/-- Python's recursion limit, its `str` of values that are no texts (absent where it raises), which
floats are true, the scheme and the network location of `urlparse` (absent where it raises), and
the message of what `json.loads` raises. -/
structure Python where
  room : Nat
  repr : Document → Option Text
  nonzero : Text → Bool
  urlparse : Text → Option (Text × Text)
  messageOf : LoadsError → List Byte → Text

section Http

variable (python : Python)

def truthy : Document → Bool
  | .null => false
  | .bool value => value
  | .int n => n != 0
  | .float literal => python.nonzero literal
  | .str text => !text.isEmpty
  | .arr items => !items.isEmpty
  | .obj members => !members.isEmpty

def Response.json (response : Response) : Except LoadsError Document := loads python.room response.content

/-- `RecursionError` is no `ValueError`. -/
def isValueError : LoadsError → Bool
  | .recursion => false
  | _ => true

def contractViolation (authority : String) (detail : Text) : AuthorityFailure :=
  ⟨authority, "contract_violation", detail, 502, none, false, none⟩

def raiseViolation {α : Type} (authority detail : String) : Except Raised α :=
  .error (.authority (contractViolation authority (ofString detail)))

/-! ## Refusals of an authority -/

def upstreamReturned (response : Response) : Text :=
  ofString "upstream returned HTTP " ++ printNat response.status

/-- `str(value)[:limit]` -/
def cut (limit : Nat) (value : Document) : Except Raised Text :=
  match strOf python.repr value with
  | none => .error .escaped
  | some text => .ok (text.take limit)

/-- `str(value)[:limit]` of a value that is true, and otherwise what stands for it. -/
def cutOr {β : Type} (limit : Nat) (absent : β) (wrap : Text → β) (value : Option Document) : Except Raised β :=
  match value.filter (truthy python) with
  | none => .ok absent
  | some value => (cut python limit value).map wrap

/-- `_response_detail` -/
def responseDetail (response : Response) : Except Raised (Text × Option Text) :=
  match response.json python with
  | .error error => if isValueError error then .ok (upstreamReturned response, none) else .error .escaped
  | .ok (.obj value) =>
    match Dict.get value (ofString "detail") with
    | some (.obj detail) => do
      let sentence ← cutOr python 500 ((upstreamReturned response).take 500) id (Dict.get detail (ofString "message"))
      let code ← cutOr python 64 none some (Dict.get detail (ofString "code"))
      return (sentence, code)
    | found => cutOr python 500 (upstreamReturned response, none) (fun sentence => (sentence, none)) found
  | .ok _ => .ok (upstreamReturned response, none)

def statusFailure (authority : String) (status : Nat) (detail : Text) (code : Option Text) : AuthorityFailure :=
  if status = 401 then ⟨authority, "unauthorized", detail, 401, some status, false, code⟩
  else if status = 403 then ⟨authority, "forbidden", detail, 403, some status, false, code⟩
  else if status = 404 then ⟨authority, "not_found", detail, 404, some status, false, code⟩
  else if status = 409 ∨ status = 412 then ⟨authority, "conflict", detail, 409, some status, false, code⟩
  else if status = 400 then ⟨authority, "invalid_request", detail, 422, some status, false, code⟩
  else if status = 422 then ⟨authority, "invalid_request", detail, 422, some status, false, code⟩
  else if status ≥ 500 then ⟨authority, "upstream_failure", detail, 502, some status, true, code⟩
  else ⟨authority, "upstream_failure", detail, 502, some status, false, code⟩

def raiseStatus {α : Type} (authority : String) (response : Response) : Except Raised α := do
  let (detail, code) ← responseDetail python response
  .error (.authority (statusFailure authority response.status detail code))

def Response.isSuccess (response : Response) : Bool := 200 ≤ response.status && response.status < 300

/-- `_parse`, where `model` is `model_validate_json`. -/
def parse {α : Type} (authority : String) (model : List Byte → Option α) (response : Response) : Except Raised α :=
  if !response.isSuccess then raiseStatus python authority response
  else
    match model response.content with
    | some value => .ok value
    | none => raiseViolation authority (authority ++ " response violated the consumed contract")

/-! ## Requests -/

/-- `_request`, which only sees what comes of the request. -/
def request (authority : String) : Exchange → Except Raised Response
  | .response response => .ok response
  | .unreachable =>
    .error (.authority ⟨authority, "unavailable", ofString (authority ++ " authority is unreachable"), 503, none, true, none⟩)
  | .escaped => .error .escaped

structure ServiceEndpoint where
  serviceId : { text : Text // Bounded 1 128 text }
  endpointId : { text : Text // Bounded 1 128 text }
  protocol : { text : Text // Bounded 1 32 text }
  address : { text : Text // Bounded 1 2048 text }
  contract : { text : Text // Bounded 1 256 text }

def ServiceEndpoint.model : Model :=
  .refine ServiceEndpoint
    (.object [
      .required "operation" (.constant "system.service-endpoint"),
      .required "service_id" (.text (Bounded 1 128)),
      .required "endpoint_id" (.text (Bounded 1 128)),
      .required "protocol" (.text (Bounded 1 32)),
      .required "address" (.text (Bounded 1 2048)),
      .required "contract" (.text (Bounded 1 256))] (by decide))
    (fun endpoint =>
      ((), endpoint.serviceId, endpoint.endpointId, endpoint.protocol, endpoint.address, endpoint.contract, ()))
    (fun (_, serviceId, endpointId, protocol, address, contract, _) =>
      some ⟨serviceId, endpointId, protocol, address, contract⟩)
    fun _ => rfl

/-- The checks of `resolve` on the endpoint that the directory describes. -/
def checkEndpoint (serviceId endpointId requiredContract : String) (endpoint : ServiceEndpoint) :
    Except Raised ServiceEndpoint :=
  if endpoint.serviceId.val ≠ ofString serviceId ∨ endpoint.endpointId.val ≠ ofString endpointId then
    raiseViolation "directory" "System Service Directory returned a different endpoint identity"
  else if endpoint.protocol.val ≠ ofString "http" then raiseViolation "directory" "resolved endpoint is not HTTP"
  else
    match python.urlparse endpoint.address.val with
    | none => .error .escaped
    | some (scheme, netloc) =>
      if ¬ ((scheme = ofString "http" ∨ scheme = ofString "https") ∧ netloc ≠ []) then
        raiseViolation "directory" "resolved endpoint address is not a valid HTTP URL"
      else if endpoint.contract.val ≠ ofString requiredContract then
        raiseViolation "directory" ("endpoint contract mismatch for " ++ serviceId ++ "/" ++ endpointId)
      else .ok endpoint

/-- `SystemDirectoryClient.resolve` -/
def resolve (serviceId endpointId requiredContract : String) : Exchange → Except Raised ServiceEndpoint
  | .unreachable =>
    .error (.authority ⟨"directory", "unavailable", ofString "System Service Directory is unreachable", 503, none, true,
      none⟩)
  | .escaped => .error .escaped
  | .response response =>
    if response.status = 404 ∨ response.status = 503 then
      .error (.authority ⟨"directory", "unavailable",
        ofString ("service endpoint is not ready: " ++ serviceId ++ "/" ++ endpointId), 503, some response.status, true,
        none⟩)
    else if response.status ≠ 200 then
      .error (.authority ⟨"directory", "upstream_failure",
        ofString "unexpected System Service Directory status " ++ printNat response.status, 502, some response.status,
        response.status ≥ 500, none⟩)
    else
      match response.json python with
      | .error error =>
        if isValueError error then
          raiseViolation "directory" "System Service Directory response violated the consumed contract"
        else .error .escaped
      | .ok document =>
        match ServiceEndpoint.model.validate document with
        | none => raiseViolation "directory" "System Service Directory response violated the consumed contract"
        | some endpoint => checkEndpoint python serviceId endpointId requiredContract endpoint

/-- What an answer must say of itself, each with the violation where it does not. -/
def confirm (authority : String) : List (Bool × String) → Except Raised Unit
  | [] => .ok ()
  | (holds, detail) :: rest => if holds then confirm authority rest else raiseViolation authority detail

def answered {α : Type} (asks : Except Raised Response) (authority : String) (model : List Byte → Option α)
    (confirmations : α → List (Bool × String)) : Except Raised α := do
  let response ← asks
  let value ← parse python authority model response
  confirm authority (confirmations value)
  return value

/-! ## What can be reported -/

def Reports {α : Type} (result : Except Raised α) : Prop :=
  ∀ failure, result = .error (.authority failure) → failure.Reportable

def shows (limit : Nat) (value : Option Document) : Option Text :=
  match value.filter (truthy python) with
  | none => some []
  | some value => (strOf python.repr value).map (List.take limit)

def Speakable (response : Response) : Prop :=
  ∀ value, response.json python = .ok (.obj value) →
    match Dict.get value (ofString "detail") with
    | some (.obj detail) =>
      ∀ sentence code, shows python 500 (Dict.get detail (ofString "message")) = some sentence →
        shows python 64 (Dict.get detail (ofString "code")) = some code → Encodable sentence ∧ Encodable code
    | found => ∀ sentence, shows python 500 found = some sentence → Encodable sentence

end Http

section Reporting

variable {python : Python} {α β : Type}

theorem reports_ok (value : α) : Reports (.ok value) := by
  intro failure h
  cases h

theorem reports_escaped : Reports (.error .escaped : Except Raised α) := by
  intro failure h
  cases h

theorem reports_authority_iff {failure : AuthorityFailure} :
    Reports (.error (.authority failure) : Except Raised α) ↔ failure.Reportable := by
  constructor
  · exact fun h => h failure rfl
  · intro h failure' hSame
    cases hSame
    exact h

theorem reports_bind_iff {first : Except Raised α} {next : α → Except Raised β} :
    Reports (first >>= next) ↔ Reports first ∧ ∀ value, first = .ok value → Reports (next value) := by
  cases first with
  | error raised =>
    constructor
    · intro h
      refine ⟨fun failure hSame => h failure ?_, fun value hOk => nomatch hOk⟩
      cases hSame
      rfl
    · rintro ⟨hFirst, _⟩ failure hSame
      cases hSame
      exact hFirst failure rfl
  | ok value =>
    constructor
    · intro h
      refine ⟨reports_ok value, fun value' hOk => ?_⟩
      cases hOk
      exact h
    · exact fun h => h.2 value rfl

theorem reports_ite {c : Prop} [Decidable c] {a b : Except Raised α} (hA : Reports a) (hB : Reports b) :
    Reports (if c then a else b) := by
  split_ifs
  · exact hA
  · exact hB

theorem reports_constant {authority kind detail : String} {statusCode : Nat} {upstreamStatus : Option Nat} {retryable : Bool}
    (hAuthority : authority ∈ authorities) (hKind : kind ∈ failureKinds)
    (hDetail : (ofString detail).length ≤ reasonLimit) :
    Reports (.error (.authority ⟨authority, kind, ofString detail, statusCode, upstreamStatus, retryable, none⟩) :
      Except Raised α) :=
  reports_authority_iff.mpr (AuthorityFailure.reportable_iff.mpr
    ⟨hAuthority, hKind, AuthorityFailure.bounded_ofString hDetail, fun _ hCode => nomatch hCode⟩)

theorem reports_raiseViolation {authority detail : String} (hAuthority : authority ∈ authorities)
    (hDetail : (ofString detail).length ≤ reasonLimit) : Reports (raiseViolation authority detail : Except Raised α) :=
  reports_constant hAuthority (by decide) hDetail

theorem reports_confirm {authority : String} (hAuthority : authority ∈ authorities) {confirmations : List (Bool × String)}
    (h : ∀ confirmation ∈ confirmations, (ofString confirmation.2).length ≤ reasonLimit) :
    Reports (confirm authority confirmations) := by
  induction confirmations with
  | nil => exact reports_ok ()
  | cons confirmation rest ih =>
    rw [List.forall_mem_cons] at h
    rw [confirm]
    split_ifs
    · exact ih h.2
    · exact reports_raiseViolation hAuthority h.1

/-! ## Refusals -/

theorem bounded_take {text : Text} {limit most : Nat} (hEncodable : Encodable (text.take limit)) (h : limit ≤ most) :
    Bounded 0 most (text.take limit) :=
  ⟨hEncodable, Nat.zero_le _, Nat.le_trans (List.length_take_le _ _) h⟩

theorem encodable_take {text : Text} (h : Encodable text) (limit : Nat) : Encodable (text.take limit) :=
  fun point hPoint => h point (List.mem_of_mem_take hPoint)

theorem encodable_upstreamReturned (response : Response) : Encodable (upstreamReturned response) :=
  Text.encodable_append.mpr ⟨Text.encodable_ofString _, encodable_printNat _⟩

theorem length_upstreamReturned_le (response : Response) : (upstreamReturned response).length ≤ reasonLimit := by
  have hStatus : (printNat response.status).length ≤ 3 := length_printNat_le (by decide) response.threeDigits
  have hPrefix : (ofString "upstream returned HTTP ").length = 23 := by decide
  rw [upstreamReturned, List.length_append, hPrefix]
  exact Nat.le_trans (Nat.add_le_add_left hStatus 23) (by decide)

theorem bounded_upstreamReturned (response : Response) : Bounded 0 reasonLimit (upstreamReturned response) :=
  ⟨encodable_upstreamReturned response, Nat.zero_le _, length_upstreamReturned_le response⟩

theorem cutOr_cases (python : Python) (limit : Nat) (absent : β) (wrap : Text → β) (good : β → Prop)
    (hAbsent : good absent) (hWrap : ∀ text : Text, good (wrap (text.take limit)) ↔ Encodable (text.take limit))
    (value : Option Document) :
    (shows python limit value = none ∧ cutOr python limit absent wrap value = .error .escaped) ∨
      ∃ shown result, shows python limit value = some shown ∧ cutOr python limit absent wrap value = .ok result ∧
        (good result ↔ Encodable shown) := by
  unfold shows cutOr cut
  cases value.filter (truthy python) with
  | none => exact .inr ⟨[], absent, rfl, rfl, iff_of_true hAbsent (List.forall_mem_nil _)⟩
  | some value =>
    dsimp only
    cases strOf python.repr value with
    | none => exact .inl ⟨rfl, rfl⟩
    | some text => exact .inr ⟨_, _, rfl, rfl, hWrap text⟩

theorem bounded_take_iff {text : Text} {limit most : Nat} (h : limit ≤ most) :
    Bounded 0 most (text.take limit) ↔ Encodable (text.take limit) :=
  ⟨fun hBounded => hBounded.1, fun hEncodable => bounded_take hEncodable h⟩

def Publishable (texts : Text × Option Text) : Prop :=
  Bounded 0 reasonLimit texts.1 ∧ ∀ text, texts.2 = some text → Bounded 0 codeLimit text

theorem publishable_sentence_iff {sentence : Text} : Publishable (sentence, none) ↔ Bounded 0 reasonLimit sentence :=
  and_iff_left fun _ hCode => nomatch hCode

theorem speakable_iff (response : Response) :
    Speakable python response ↔ ∀ texts, responseDetail python response = .ok texts → Publishable texts := by
  have hReturned := bounded_upstreamReturned response
  unfold Speakable responseDetail
  cases hJson : response.json python with
  | error error =>
    refine iff_of_true (fun value h => by cases h) fun texts h => ?_
    dsimp only at h
    split_ifs at h
    cases h
    exact publishable_sentence_iff.mpr hReturned
  | ok document =>
    cases document with
    | obj value =>
      simp only [Except.ok.injEq, Document.obj.injEq, forall_eq']
      split
      · rename_i detail _
        rcases cutOr_cases python 500 ((upstreamReturned response).take 500) id (Bounded 0 reasonLimit)
          (bounded_take (encodable_take hReturned.1 500) (by decide)) (fun text => bounded_take_iff (by decide))
          (Dict.get detail (ofString "message")) with ⟨hShows, hCut⟩ | ⟨shown, sentence, hShows, hCut, hGood⟩
        · rw [hShows, hCut]
          exact iff_of_true (fun _ _ h => by cases h) fun _ h => by cases h
        · rcases cutOr_cases python 64 none some (fun code => ∀ text, code = some text → Bounded 0 codeLimit text)
            (fun _ h => by cases h) (fun text => by simp [bounded_take_iff (by decide : 64 ≤ codeLimit)])
            (Dict.get detail (ofString "code")) with ⟨hShows', hCut'⟩ | ⟨shown', code, hShows', hCut', hGood'⟩
          · rw [hShows', hCut, hCut']
            exact iff_of_true (fun _ _ _ h => by cases h) fun _ h => by cases h
          · rw [hShows, hShows', hCut, hCut']
            constructor
            · rintro h texts hOk
              cases hOk
              obtain ⟨hShown, hShown'⟩ := h _ _ rfl rfl
              exact ⟨hGood.mpr hShown, hGood'.mpr hShown'⟩
            · rintro h _ _ hSome hSome'
              cases hSome
              cases hSome'
              obtain ⟨hSentence, hCode⟩ := h _ rfl
              exact ⟨hGood.mp hSentence, hGood'.mp hCode⟩
      · rcases cutOr_cases python 500 (upstreamReturned response, none) (fun sentence => (sentence, none)) Publishable
          (publishable_sentence_iff.mpr hReturned)
          (fun text => publishable_sentence_iff.trans (bounded_take_iff (by decide)))
          (Dict.get value (ofString "detail")) with ⟨hShows, hCut⟩ | ⟨shown, texts, hShows, hCut, hGood⟩
        · rw [hShows, hCut]
          exact iff_of_true (fun _ h => by cases h) fun _ h => by cases h
        · rw [hShows, hCut]
          constructor
          · rintro h texts hOk
            cases hOk
            exact hGood.mpr (h _ rfl)
          · rintro h _ hSome
            cases hSome
            exact hGood.mp (h _ rfl)
    | _ =>
      refine iff_of_true (fun value h => by cases h) fun texts h => ?_
      cases h
      exact publishable_sentence_iff.mpr hReturned

theorem reportable_statusFailure_iff {authority : String} (hAuthority : authority ∈ authorities) (status : Nat)
    (detail : Text) (code : Option Text) :
    (statusFailure authority status detail code).Reportable ↔ Publishable (detail, code) := by
  rw [AuthorityFailure.reportable_iff]
  unfold statusFailure
  split_ifs
  all_goals
    dsimp only
    exact (and_iff_right hAuthority).trans (and_iff_right (by decide))

theorem reports_cutOr (limit : Nat) (absent : β) (wrap : Text → β) (value : Option Document) :
    Reports (cutOr python limit absent wrap value) := by
  unfold cutOr cut
  cases value.filter (truthy python) with
  | none => exact reports_ok absent
  | some value =>
    dsimp only
    cases strOf python.repr value with
    | none => exact reports_escaped
    | some text => exact reports_ok _

theorem reports_responseDetail (response : Response) : Reports (responseDetail python response) := by
  unfold responseDetail
  split
  · split_ifs
    · exact reports_ok _
    · exact reports_escaped
  · split
    · refine reports_bind_iff.mpr ⟨reports_cutOr _ _ _ _, fun sentence _ => ?_⟩
      exact reports_bind_iff.mpr ⟨reports_cutOr _ _ _ _, fun code _ => reports_ok _⟩
    · exact reports_cutOr _ _ _ _
  · exact reports_ok _

theorem reports_raiseStatus_iff {authority : String} (hAuthority : authority ∈ authorities) (response : Response) :
    Reports (raiseStatus python authority response : Except Raised α) ↔ Speakable python response := by
  rw [raiseStatus, reports_bind_iff, speakable_iff]
  refine (and_iff_right (reports_responseDetail response)).trans (forall_congr' fun texts => ?_)
  exact forall_congr' fun _ => reports_authority_iff.trans (reportable_statusFailure_iff hAuthority _ _ _)

theorem reports_parse_iff {authority : String} (hAuthority : authority ∈ authorities) (model : List Byte → Option α)
    (response : Response) :
    Reports (parse python authority model response) ↔ (response.isSuccess = false → Speakable python response) := by
  unfold parse
  cases hSuccess : response.isSuccess with
  | false => simpa using reports_raiseStatus_iff hAuthority response
  | true =>
    refine iff_of_true ?_ fun h => absurd h (by decide)
    simp only [Bool.not_true, Bool.false_eq_true, if_false]
    cases model response.content with
    | some value => exact reports_ok value
    | none =>
      have hShort : ∀ authority ∈ authorities,
          (ofString (authority ++ " response violated the consumed contract")).length ≤ reasonLimit := by decide
      exact reports_raiseViolation hAuthority (hShort authority hAuthority)

/-! ## Requests -/

theorem reports_request {authority : String} (hAuthority : authority ∈ authorities) (exchange : Exchange) :
    Reports (request authority exchange) := by
  cases exchange with
  | response response => exact reports_ok response
  | escaped => exact reports_escaped
  | unreachable =>
    have hShort : ∀ authority ∈ authorities,
        (ofString (authority ++ " authority is unreachable")).length ≤ reasonLimit := by decide
    exact reports_constant hAuthority (by decide) (hShort authority hAuthority)

theorem bounded_directoryStatus (response : Response) :
    Bounded 0 reasonLimit (ofString "unexpected System Service Directory status " ++ printNat response.status) := by
  have hStatus : (printNat response.status).length ≤ 3 := length_printNat_le (by decide) response.threeDigits
  have hPrefix : (ofString "unexpected System Service Directory status ").length = 43 := by decide
  refine ⟨Text.encodable_append.mpr ⟨Text.encodable_ofString _, encodable_printNat _⟩, Nat.zero_le _, ?_⟩
  rw [List.length_append, hPrefix]
  exact Nat.le_trans (Nat.add_le_add_left hStatus 43) (by decide)

theorem reports_checkEndpoint {serviceId endpointId requiredContract : String}
    (h : (ofString ("endpoint contract mismatch for " ++ serviceId ++ "/" ++ endpointId)).length ≤ reasonLimit)
    (endpoint : ServiceEndpoint) :
    Reports (checkEndpoint python serviceId endpointId requiredContract endpoint) := by
  unfold checkEndpoint
  refine reports_ite (reports_raiseViolation (by decide) (by decide)) ?_
  refine reports_ite (reports_raiseViolation (by decide) (by decide)) ?_
  cases python.urlparse endpoint.address.val with
  | none => exact reports_escaped
  | some address =>
    refine reports_ite (reports_raiseViolation (by decide) (by decide)) ?_
    exact reports_ite (reports_raiseViolation (by decide) h) (reports_ok endpoint)

theorem reports_resolve {serviceId endpointId : String} (requiredContract : String)
    (hMismatch : (ofString ("endpoint contract mismatch for " ++ serviceId ++ "/" ++ endpointId)).length ≤ reasonLimit)
    (hNotReady : (ofString ("service endpoint is not ready: " ++ serviceId ++ "/" ++ endpointId)).length ≤ reasonLimit)
    (exchange : Exchange) : Reports (resolve python serviceId endpointId requiredContract exchange) := by
  cases exchange with
  | unreachable => exact reports_constant (by decide) (by decide) (by decide)
  | escaped => exact reports_escaped
  | response response =>
    unfold resolve
    refine reports_ite (reports_constant (by decide) (by decide) hNotReady) (reports_ite ?_ ?_)
    · refine reports_authority_iff.mpr (AuthorityFailure.reportable_iff.mpr ⟨by dsimp only; decide, by dsimp only; decide, ?_, ?_⟩)
      · exact bounded_directoryStatus response
      · exact fun _ hCode => nomatch hCode
    · cases response.json python with
      | error error => exact reports_ite (reports_raiseViolation (by decide) (by decide)) reports_escaped
      | ok document =>
        dsimp only
        cases ServiceEndpoint.model.validate document with
        | none => exact reports_raiseViolation (by decide) (by decide)
        | some endpoint => exact reports_checkEndpoint hMismatch endpoint

theorem reports_answered_iff {authority : String} (hAuthority : authority ∈ authorities)
    {asks : Except Raised Response} (hAsks : Reports asks) (model : List Byte → Option α)
    {confirmations : α → List (Bool × String)}
    (hShort : ∀ value, ∀ confirmation ∈ confirmations value, (ofString confirmation.2).length ≤ reasonLimit) :
    Reports (answered python asks authority model confirmations) ↔
      ∀ response, asks = .ok response → response.isSuccess = false → Speakable python response := by
  rw [answered, reports_bind_iff]
  refine (and_iff_right hAsks).trans (forall_congr' fun response => forall_congr' fun _ => ?_)
  rw [reports_bind_iff, reports_parse_iff hAuthority]
  refine and_iff_left_of_imp fun _ value _ => reports_bind_iff.mpr ⟨?_, fun _ _ => reports_ok value⟩
  exact reports_confirm hAuthority (hShort value)

end Reporting

end EidolonAdmin.ControlPlane
