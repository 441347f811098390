import EidolonAdmin.Foundation.Dict
import EidolonAdmin.Foundation.Text
import EidolonAdmin.Foundation.Traverse

/-! # The failure vocabulary of the control plane

An `AuthorityFailure` holds any texts; the models that publish it hold only the authorities and the
kinds that `contracts` lists, and a reason and a code that are Unicode and not too long.
-/

namespace EidolonAdmin.ControlPlane

open Foundation
open Text (ofString Bounded)

inductive RefusalKind where
  | denied
  | notFound
  | conflict
  | invalid
  | notConfigured
  | notRunning
  | upstream
deriving DecidableEq, Repr

/-- `Authority` -/
def authorities : List String := ["directory", "data", "hub", "kernel", "memory", "agent"]

/-- `FailureKind` -/
def failureKinds : List String :=
  ["unauthorized", "forbidden", "not_found", "conflict", "invalid_request", "unavailable", "runtime_missing",
    "upstream_failure", "contract_violation", "configuration"]

/-- `PUBLIC_REFUSAL_KIND` -/
def publicRefusalKind : List (String × RefusalKind) := [
  ("unauthorized", .denied),
  ("forbidden", .denied),
  ("not_found", .notFound),
  ("conflict", .conflict),
  ("invalid_request", .invalid),
  ("unavailable", .notRunning),
  ("runtime_missing", .notRunning),
  ("upstream_failure", .upstream),
  ("contract_violation", .upstream),
  ("configuration", .notConfigured)]

structure AuthorityFailure where
  authority : String
  kind : String
  detail : Text
  statusCode : Nat
  upstreamStatus : Option Nat := none
  retryable : Bool := false
  code : Option Text := none

/-- `max_length` of the reason and of the code of a `Refusal`. -/
def reasonLimit : Nat := 512
def codeLimit : Nat := 64

structure Refusal where
  kind : RefusalKind
  reason : { text : Text // Bounded 0 reasonLimit text }
  code : Option { text : Text // Bounded 0 codeLimit text }
  retryable : Bool

structure WorkflowFailure where
  authority : { text : String // text ∈ authorities }
  kind : { text : String // text ∈ failureKinds }
  detail : Text
  refusal : Refusal
  code : Option Text
  upstreamStatus : Option Nat
  retryable : Bool

/-- `KeyError` of the table, or `ValidationError` of a model. -/
inductive ReportError where
  | key
  | validation
deriving DecidableEq, Repr

namespace Refusal

def validateCode : Option Text → Except ReportError (Option { text : Text // Bounded 0 codeLimit text })
  | none => .ok none
  | some code => if h : Bounded 0 codeLimit code then .ok (some ⟨code, h⟩) else .error .validation

def validate (kind : RefusalKind) (reason : Text) (code : Option Text) (retryable : Bool) :
    Except ReportError Refusal :=
  if h : Bounded 0 reasonLimit reason then
    (validateCode code).map fun code => ⟨kind, ⟨reason, h⟩, code, retryable⟩
  else .error .validation

end Refusal

namespace AuthorityFailure

variable (failure : AuthorityFailure)

def toRefusal : Except ReportError Refusal :=
  match Dict.get publicRefusalKind failure.kind with
  | none => .error .key
  | some kind => Refusal.validate kind failure.detail failure.code failure.retryable

def toWire : Except ReportError WorkflowFailure :=
  match failure.toRefusal with
  | .error error => .error error
  | .ok refusal =>
    if h : failure.authority ∈ authorities ∧ failure.kind ∈ failureKinds then
      .ok ⟨⟨failure.authority, h.1⟩, ⟨failure.kind, h.2⟩, failure.detail, refusal, failure.code,
        failure.upstreamStatus, failure.retryable⟩
    else .error .validation

def Reportable : Prop := (∃ wire, failure.toWire = .ok wire) ∧ ∃ refusal, failure.toRefusal = .ok refusal

end AuthorityFailure

/-! ## Which failures can be reported -/

theorem keys_publicRefusalKind : publicRefusalKind.map Prod.fst = failureKinds := rfl

theorem exists_validate_iff {kind : RefusalKind} {reason : Text} {code : Option Text} {retryable : Bool} :
    (∃ refusal, Refusal.validate kind reason code retryable = .ok refusal) ↔
      Bounded 0 reasonLimit reason ∧ ∀ text, code = some text → Bounded 0 codeLimit text := by
  unfold Refusal.validate
  by_cases hReason : Bounded 0 reasonLimit reason
  · rw [dif_pos hReason, Traverse.exists_map_ok_iff]
    cases code with
    | none => simp [Refusal.validateCode, hReason]
    | some text =>
      unfold Refusal.validateCode
      by_cases hCode : Bounded 0 codeLimit text
      · simp [hReason, hCode]
      · simp [hCode]
  · rw [dif_neg hReason]
    exact iff_of_false (fun ⟨_, h⟩ => nomatch h) fun h => hReason h.1

theorem get_publicRefusalKind_isSome_iff (kind : String) :
    (Dict.get publicRefusalKind kind).isSome ↔ kind ∈ failureKinds := by
  rw [← Option.ne_none_iff_isSome, Ne, Dict.get_eq_none_iff, ← keys_publicRefusalKind, List.mem_map]
  simp

namespace AuthorityFailure

variable {failure : AuthorityFailure}

theorem exists_toRefusal_iff :
    (∃ refusal, failure.toRefusal = .ok refusal) ↔
      failure.kind ∈ failureKinds ∧ Bounded 0 reasonLimit failure.detail ∧
        ∀ code, failure.code = some code → Bounded 0 codeLimit code := by
  rw [← get_publicRefusalKind_isSome_iff, toRefusal]
  cases Dict.get publicRefusalKind failure.kind with
  | none => exact iff_of_false (fun ⟨_, h⟩ => nomatch h) fun h => Bool.false_ne_true h.1
  | some kind =>
    rw [← @exists_validate_iff kind failure.detail failure.code failure.retryable]
    simp

theorem reportable_iff :
    failure.Reportable ↔
      failure.authority ∈ authorities ∧ failure.kind ∈ failureKinds ∧ Bounded 0 reasonLimit failure.detail ∧
        ∀ code, failure.code = some code → Bounded 0 codeLimit code := by
  rw [Reportable, ← exists_toRefusal_iff]
  constructor
  · rintro ⟨⟨wire, hWire⟩, hRefusal⟩
    refine ⟨?_, hRefusal⟩
    obtain ⟨refusal, hOk⟩ := hRefusal
    rw [toWire, hOk] at hWire
    dsimp only at hWire
    split_ifs at hWire with hListed
    exact hListed.1
  · rintro ⟨hAuthority, hRefusal⟩
    refine ⟨?_, hRefusal⟩
    have hKind := (exists_toRefusal_iff.mp hRefusal).1
    obtain ⟨refusal, hOk⟩ := hRefusal
    rw [toWire, hOk]
    exact ⟨_, dif_pos ⟨hAuthority, hKind⟩⟩

theorem bounded_ofString {most : Nat} {text : String} (h : (ofString text).length ≤ most) :
    Bounded 0 most (ofString text) :=
  ⟨Text.encodable_ofString text, Nat.zero_le _, h⟩

end AuthorityFailure

end EidolonAdmin.ControlPlane
