import Mathlib.Data.List.DropRight
import Mathlib.Data.List.TakeWhile
import EidolonAdmin.Foundation.Dict
import EidolonAdmin.Foundation.Text

/-! # What the gateway sends on

`proxy_request` up to the call of the upstream: the address, and the headers with the credential that
the configuration gives the service. Names of headers are Latin-1.
-/

namespace EidolonAdmin.Gateway

open Foundation

abbrev Headers := List (Text × Text)

inductive AuthType where
  | none
  | bearer
  | passthrough
deriving DecidableEq, Repr

structure AuthConfig where
  type : AuthType := .none
  tokenEnv : Option Text := none
deriving DecidableEq, Repr

structure ServiceConfig where
  baseUrl : Text
  upstreamPrefix : Text := []
  auth : AuthConfig := {}
deriving DecidableEq, Repr

/-- The items of the request's headers, in order, with repetitions. -/
structure ProxiedRequest where
  subPath : Text
  query : Text
  headers : Headers
deriving DecidableEq, Repr

def lowerPoint (point : CodePoint) : CodePoint :=
  let n := point.val
  if (65 ≤ n ∧ n ≤ 90) ∨ (192 ≤ n ∧ n ≤ 222 ∧ n ≠ 215) then Fin.ofNat 0x110000 (n + 32) else point

def lower (text : Text) : Text := text.map lowerPoint

def hopByHop : List Text :=
  ["host", "connection", "keep-alive", "proxy-authenticate", "proxy-authorization", "te", "trailers",
    "transfer-encoding", "upgrade", "content-length"].map Text.ofString

def requestDrop : List Text := hopByHop ++ ["authorization", "cookie"].map Text.ofString

def dropped (name : Text) : Bool := requestDrop.contains (lower name)

def filterRequestHeaders (headers : Headers) : Headers :=
  headers.foldl (fun out header => if dropped header.1 then out else Dict.set out header.1 header.2) []

def slash : CodePoint := Text.ofChar '/'

def authorizationName : Text := Text.ofString "Authorization"

/-- `environ` is the environment of the process. An empty value counts as none. -/
def upstreamAuthHeaders (environ : Text → Option Text) (service : ServiceConfig) : Headers :=
  if service.auth.type ≠ .bearer then []
  else
    match service.auth.tokenEnv.filter (· ≠ []) with
    | none => []
    | some name =>
      match (environ name).filter (· ≠ []) with
      | none => []
      | some token => [(authorizationName, Text.ofString "Bearer " ++ token)]

def injectUpstreamAuth (environ : Text → Option Text) (service : ServiceConfig) (headers : Headers) : Headers :=
  (upstreamAuthHeaders environ service).foldl (fun out header => Dict.set out header.1 header.2) headers

def applyPassthroughAuth (request : ProxiedRequest) (service : ServiceConfig) (headers : Headers) : Headers :=
  if service.auth.type = .passthrough then
    match (Dict.get request.headers (Text.ofString "authorization")).filter (· ≠ []) with
    | none => headers
    | some authorization => Dict.set headers authorizationName authorization
  else headers

def buildTargetUrl (service : ServiceConfig) (subPath query : Text) : Text :=
  let sub := subPath.dropWhile (· = slash)
  let upstreamPrefix := service.upstreamPrefix.rdropWhile (· = slash)
  let url := service.baseUrl ++ upstreamPrefix ++ if sub = [] then [] else slash :: sub
  if query = [] then url else url ++ Text.ofChar '?' :: query

def forwardedHeaders (environ : Text → Option Text) (service : ServiceConfig) (request : ProxiedRequest) : Headers :=
  applyPassthroughAuth request service (injectUpstreamAuth environ service (filterRequestHeaders request.headers))

/-! ## What the upstream gets to see -/

/-- The credential that the configuration gives the service, of this Host or of the caller. -/
def credential (environ : Text → Option Text) (service : ServiceConfig) (request : ProxiedRequest) : Option Text :=
  match service.auth.type with
  | .none => none
  | .bearer =>
    (((service.auth.tokenEnv.filter (· ≠ [])).bind environ).filter (· ≠ [])).map (Text.ofString "Bearer " ++ ·)
  | .passthrough => (Dict.get request.headers (Text.ofString "authorization")).filter (· ≠ [])

def lastValue (headers : Headers) (name : Text) : Option Text := Dict.get headers.reverse name

theorem lastValue_append (headers : Headers) (header : Text × Text) (name : Text) :
    lastValue (headers ++ [header]) name = if header.1 = name then some header.2 else lastValue headers name := by
  rw [lastValue, List.reverse_append, List.reverse_singleton, List.singleton_append, Dict.get, Table.lookup,
    List.find?_cons]
  by_cases h : header.1 = name
  · simp [h]
  · simp [h, lastValue, Dict.get, Table.lookup]

theorem get_filterRequestHeaders (headers : Headers) (name : Text) :
    Dict.get (filterRequestHeaders headers) name =
      if dropped name then none else lastValue headers name := by
  induction headers using List.reverseRecOn with
  | nil => split <;> rfl
  | append_singleton headers header ih =>
    have hStep : filterRequestHeaders (headers ++ [header]) =
        if dropped header.1 then filterRequestHeaders headers
        else Dict.set (filterRequestHeaders headers) header.1 header.2 := List.foldl_concat ..
    rw [hStep, lastValue_append]
    by_cases hSame : header.1 = name
    · subst hSame
      by_cases hDrop : dropped header.1
      · simp only [ih, if_pos hDrop]
      · rw [if_neg hDrop, if_neg hDrop, Dict.get_set, if_pos rfl, if_pos rfl]
    · rw [if_neg hSame, ← ih]
      split
      · rfl
      · rw [Dict.get_set, if_neg (Ne.symm hSame)]

theorem authorizationName_dropped : dropped authorizationName := by decide

theorem get_injectUpstreamAuth (environ : Text → Option Text) (service : ServiceConfig) (headers : Headers)
    (name : Text) :
    Dict.get (injectUpstreamAuth environ service headers) name =
      ((upstreamAuthHeaders environ service).find? (·.1 = name)).elim (Dict.get headers name) fun header =>
        some header.2 := by
  unfold injectUpstreamAuth upstreamAuthHeaders
  split
  · rfl
  · split
    · rfl
    · split
      · rfl
      · rw [List.foldl_cons, List.foldl_nil, Dict.get_set, List.find?_singleton]
        by_cases h : name = authorizationName
        · simp [h]
        · simp [h, Ne.symm h]

theorem get_forwardedHeaders (environ : Text → Option Text) (service : ServiceConfig) (request : ProxiedRequest)
    (name : Text) :
    Dict.get (forwardedHeaders environ service request) name =
      if name = authorizationName then credential environ service request
      else if dropped name then none else lastValue request.headers name := by
  rw [← get_filterRequestHeaders]
  have hOwn : Dict.get (filterRequestHeaders request.headers) name =
      if name = authorizationName then none else Dict.get (filterRequestHeaders request.headers) name := by
    split
    case isTrue hName => rw [hName, get_filterRequestHeaders, if_pos authorizationName_dropped]
    case isFalse => rfl
  unfold forwardedHeaders applyPassthroughAuth credential
  cases hType : service.auth.type with
  | none =>
    have hInject : upstreamAuthHeaders environ service = [] := by simp [upstreamAuthHeaders, hType]
    rw [if_neg (by simp), get_injectUpstreamAuth, hInject]
    exact hOwn
  | bearer =>
    rw [if_neg (by simp), get_injectUpstreamAuth]
    unfold upstreamAuthHeaders
    rw [if_neg (by simp [hType])]
    cases service.auth.tokenEnv.filter (· ≠ []) with
    | none => exact hOwn
    | some variableName =>
      simp only [Option.bind_some]
      cases (environ variableName).filter (· ≠ []) with
      | none => exact hOwn
      | some token =>
        by_cases h : name = authorizationName
        · simp [h]
        · simp [h, Ne.symm h]
  | passthrough =>
    have hInject : injectUpstreamAuth environ service (filterRequestHeaders request.headers) =
        filterRequestHeaders request.headers := by simp [injectUpstreamAuth, upstreamAuthHeaders, hType]
    rw [if_pos rfl, hInject]
    cases (Dict.get request.headers (Text.ofString "authorization")).filter (· ≠ []) with
    | none => exact hOwn
    | some authorization => exact Dict.get_set _ _ _ _

/-! ## Whom the gateway calls -/

def schemeEnd : Text := Text.ofString "://"

def afterScheme : Text → Option Text
  | [] => none
  | point :: rest =>
    if schemeEnd <+: point :: rest then some ((point :: rest).drop schemeEnd.length) else afterScheme rest

def authorityEnds : List CodePoint := ['/', '?', '#'].map Text.ofChar

/-- The part of an address that names the machine and the port. -/
def authority (url : Text) : Option Text := (afterScheme url).map (List.takeWhile fun point => !authorityEnds.contains point)

theorem length_le_of_afterScheme {url rest : Text} (h : afterScheme url = some rest) :
    schemeEnd.length ≤ url.length := by
  induction url with
  | nil => simp [afterScheme] at h
  | cons point url ih =>
    unfold afterScheme at h
    split at h
    case isTrue hHere => exact hHere.length_le
    case isFalse => exact (ih h).trans (Nat.le_succ _)

theorem afterScheme_append {url rest : Text} (h : afterScheme url = some rest) (more : Text) :
    afterScheme (url ++ more) = some (rest ++ more) := by
  induction url with
  | nil => simp [afterScheme] at h
  | cons point url ih =>
    have hLength := length_le_of_afterScheme h
    unfold afterScheme at h
    rw [List.cons_append]
    unfold afterScheme
    split at h
    case isTrue hHere =>
      rw [← List.cons_append, if_pos (hHere.trans (List.prefix_append _ _)), List.drop_append_of_le_length hLength,
        Option.some.inj h]
    case isFalse hThere =>
      have hNot : ¬ schemeEnd <+: point :: (url ++ more) := fun hPrefix =>
        hThere (List.prefix_of_prefix_length_le hPrefix (List.prefix_append (point :: url) more) hLength)
      rw [if_neg hNot, ih h]

/-- What is put behind an address does not change whom it names, if it begins a path or a query. -/
theorem authority_append {url : Text} {host : Text} (h : authority url = some host) {point : CodePoint}
    (hPoint : point ∈ authorityEnds) (more : Text) : authority (url ++ point :: more) = some host := by
  obtain ⟨rest, hRest, hHost⟩ := Option.map_eq_some_iff.mp h
  rw [authority, afterScheme_append hRest, Option.map_some, ← hHost]
  congr 1
  rw [List.takeWhile_append]
  split
  case isTrue hAll =>
    rw [List.takeWhile_cons_of_neg (by simpa using hPoint), List.append_nil]
    exact ((List.takeWhile_prefix _).eq_of_length hAll).symm
  case isFalse => rfl

theorem authority_buildTargetUrl {service : ServiceConfig} {host : Text} (subPath query : Text)
    (h : authority (service.baseUrl ++ service.upstreamPrefix.rdropWhile (· = slash)) = some host) :
    authority (buildTargetUrl service subPath query) = some host := by
  have hSlash : slash ∈ authorityEnds := by decide
  have hMark : Text.ofChar '?' ∈ authorityEnds := by decide
  have hPath : ∀ sub : Text, authority (service.baseUrl ++ service.upstreamPrefix.rdropWhile (· = slash) ++
      if sub = [] then [] else slash :: sub) = some host := by
    intro sub
    split
    · rwa [List.append_nil]
    · exact authority_append h hSlash sub
  unfold buildTargetUrl
  simp only
  split
  · exact hPath _
  · exact authority_append (hPath _) hMark query

/-- What a request can and cannot decide of the call that is made for it. -/
structure Confined (environ : Text → Option Text) (service : ServiceConfig) (request : ProxiedRequest) : Prop where
  /-- The address names the machine of the configuration, whatever path and query were asked for. -/
  authority : ∀ host, authority (service.baseUrl ++ service.upstreamPrefix.rdropWhile (· = slash)) = some host →
    authority (buildTargetUrl service request.subPath request.query) = some host
  /-- Every header: the credential, which nothing in the request replaces or adds to, and the request's own as
  they came last, less those that are dropped under any spelling. -/
  header : ∀ name, Dict.get (forwardedHeaders environ service request) name =
    if name = authorizationName then credential environ service request
    else if dropped name then none else lastValue request.headers name

theorem confined (environ : Text → Option Text) (service : ServiceConfig) (request : ProxiedRequest) :
    Confined environ service request where
  authority _ h := authority_buildTargetUrl _ _ h
  header := get_forwardedHeaders environ service request

end EidolonAdmin.Gateway
