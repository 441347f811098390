import EidolonAdmin.Foundation.JsonSize
import EidolonAdmin.LifecycleWorkflow.Messages

/-! # Workflow frames

A frame is the length of a message's JSON in four bytes and the JSON. What was written of a message
is read back from the front of any stream, so that frames put behind one another are read as the
messages that they carry, unless an integer of a message has more digits than `json.loads` reads.
-/

namespace EidolonAdmin.LifecycleWorkflow

open Foundation Foundation.JsonText
open Text (ofString Bounded)

def maxFrameBytes : Nat := 256 * 1024

/-- Why a frame is not written or not read: `model_dump_json` cannot encode it, the stream ends,
the three `ValueError`s of the codec, and what `json.loads` raises beside them. -/
inductive FrameError where
  | serialization
  | incompleteRead
  | size
  | notJson
  | notObject
  | loads (error : LoadsError)
deriving DecidableEq, Repr

/-- `struct.Struct("!I").pack` -/
def packHeader (length : Nat) : List Byte :=
  [Text.byte (length / 16777216), Text.byte (length / 65536), Text.byte (length / 256), Text.byte length]

def unpackHeader (header : List Byte) : Nat := header.foldl (fun length b => length * 256 + b.val) 0

/-- `model_dump_json(exclude_none=True)` in UTF-8 -/
def bodyOf (model : Model) (value : model.Carrier) : Option (List Byte) := Text.encodeUtf8 (print (model.dump value))

def encodeFrame (model : Model) (value : model.Carrier) : Except FrameError (List Byte) :=
  match bodyOf model value with
  | none => .error .serialization
  | some body =>
    if body = [] ∨ maxFrameBytes < body.length then .error .size else .ok (packHeader body.length ++ body)

/-- `StreamReader.readexactly` on all bytes up to the end of the stream; a short read takes them. -/
def readexactly (n : Nat) (stream : List Byte) : Except FrameError (List Byte) × List Byte :=
  if stream.length < n then (.error .incompleteRead, []) else (.ok (stream.take n), stream.drop n)

def parseBody (room : Nat) (body : List Byte) : Except FrameError (List (Text × Document)) :=
  match loads room body with
  | .error .unicodeDecode | .error .jsonDecode => .error .notJson
  | .error error => .error (.loads error)
  | .ok (.obj members) => .ok members
  | .ok _ => .error .notObject

def readFrame (room : Nat) (stream : List Byte) : Except FrameError (List (Text × Document)) × List Byte :=
  match readexactly 4 stream with
  | (.error error, rest) => (.error error, rest)
  | (.ok header, rest) =>
    if ¬ (0 < unpackHeader header ∧ unpackHeader header ≤ maxFrameBytes) then (.error .size, rest)
    else
      match readexactly (unpackHeader header) rest with
      | (.error error, rest) => (.error error, rest)
      | (.ok body, rest) => (parseBody room body, rest)

/-- Why a message is not received: its frame is not read, or is refused by validation. -/
inductive ReceiveError where
  | frame (error : FrameError)
  | validation
deriving DecidableEq, Repr

/-- A frame read from the stream and validated. -/
def receive (room : Nat) (model : Model) (stream : List Byte) : Except ReceiveError model.Carrier × List Byte :=
  match readFrame room stream with
  | (.error error, rest) => (.error (.frame error), rest)
  | (.ok members, rest) =>
    match model.validate (.obj members) with
    | none => (.error .validation, rest)
    | some value => (.ok value, rest)

def encodeFrames {sdk : Sdk} : List (Message sdk) → Except FrameError (List Byte)
  | [] => .ok []
  | message :: messages => do
    return (← encodeFrame (message.1.model sdk) message.2) ++ (← encodeFrames messages)

def receiveAll (sdk : Sdk) (room : Nat) : List Kind → List Byte → Except ReceiveError (List (Message sdk)) × List Byte
  | [], stream => (.ok [], stream)
  | kind :: kinds, stream =>
    match receive room (kind.model sdk) stream with
    | (.error error, rest) => (.error error, rest)
    | (.ok value, rest) =>
      let (received, rest) := receiveAll sdk room kinds rest
      (received.map fun messages => ⟨kind, value⟩ :: messages, rest)

def Fits {sdk : Sdk} (message : Message sdk) : Prop :=
  ∃ body, bodyOf (message.1.model sdk) message.2 = some body ∧ 0 < body.length ∧ body.length ≤ maxFrameBytes

def IntsFit {sdk : Sdk} (message : Message sdk) : Prop := intsFit ((message.1.model sdk).dump message.2) = true

section Reading

variable {sdk : Sdk} {room : Nat}

/-! ## Headers -/

theorem unpackHeader_packHeader {length : Nat} (h : length < 4294967296) :
    unpackHeader (packHeader length) = length := by
  simp only [unpackHeader, packHeader, List.foldl_cons, List.foldl_nil, Text.val_byte]
  omega

theorem readexactly_append (taken rest : List Byte) : readexactly taken.length (taken ++ rest) = (.ok taken, rest) := by
  rw [readexactly, if_neg (by rw [List.length_append]; omega), List.take_left, List.drop_left]

theorem readFrame_append {header : List Byte} (hHeader : header.length = 4) (rest : List Byte) :
    readFrame room (header ++ rest) =
      if ¬ (0 < unpackHeader header ∧ unpackHeader header ≤ maxFrameBytes) then (.error .size, rest)
      else
        match readexactly (unpackHeader header) rest with
        | (.error error, rest) => (.error error, rest)
        | (.ok body, rest) => (parseBody room body, rest) := by
  have hRead : readexactly 4 (header ++ rest) = (.ok header, rest) := hHeader ▸ readexactly_append header rest
  rw [readFrame, hRead]

theorem readFrame_refuses {header : List Byte} (hHeader : header.length = 4)
    (hLength : ¬ (0 < unpackHeader header ∧ unpackHeader header ≤ maxFrameBytes)) (rest : List Byte) :
    readFrame room (header ++ rest) = (.error .size, rest) := by
  rw [readFrame_append hHeader, if_pos hLength]

theorem readFrame_packed {body : List Byte} (hSome : 0 < body.length)
    (hFits : body.length ≤ maxFrameBytes) (rest : List Byte) :
    readFrame room (packHeader body.length ++ body ++ rest) = (parseBody room body, rest) := by
  have hUnpack : unpackHeader (packHeader body.length) = body.length :=
    unpackHeader_packHeader (Nat.lt_of_le_of_lt hFits (by decide))
  rw [List.append_assoc, readFrame_append rfl, hUnpack, if_neg (not_not.mpr ⟨hSome, hFits⟩), readexactly_append]

/-! ## Messages -/

theorem bodyOf_eq_some {model : Model} {value : model.Carrier} {body : List Byte} (h : bodyOf model value = some body) :
    body = Text.utf8 (print (model.dump value)) := by
  unfold bodyOf Text.encodeUtf8 at h
  split_ifs at h
  exact (Option.some.inj h).symm

theorem encodeFrame_of_fits {model : Model} {value : model.Carrier} {body : List Byte}
    (hBody : bodyOf model value = some body) (hSome : 0 < body.length) (hFits : body.length ≤ maxFrameBytes) :
    encodeFrame model value = .ok (packHeader body.length ++ body) := by
  have hNot : ¬ (body = [] ∨ maxFrameBytes < body.length) := by
    rintro (hEmpty | hLong)
    · exact List.ne_nil_of_length_pos hSome hEmpty
    · exact Nat.not_lt.mpr hFits hLong
  rw [encodeFrame, hBody]
  exact if_neg hNot

theorem encodeFrame_refuses {model : Model} {value : model.Carrier} {body : List Byte}
    (hBody : bodyOf model value = some body) (hLong : maxFrameBytes < body.length) :
    encodeFrame model value = .error .size := by
  rw [encodeFrame, hBody]
  exact if_pos (.inr hLong)

theorem dump_kind (kind : Kind) (value : (kind.model sdk).Carrier) :
    ∃ members, (kind.model sdk).dump value = .obj members := by
  cases kind with
  | removalCall => exact ⟨_, rfl⟩
  | workflowReply => exact ⟨_, rfl⟩
  | capabilityCall =>
    obtain ⟨members, hDump, _⟩ := Operation.dump_model sdk value.1 value.2
    exact ⟨members, hDump⟩
  | capabilityReply => exact ⟨_, rfl⟩

theorem parseBody_dump {model : Model} (hRoom : model.depth ≤ room) {value : model.Carrier}
    {members : List (Text × Document)} (hDump : model.dump value = .obj members) :
    (intsFit (model.dump value) = true → parseBody room (Text.utf8 (print (model.dump value))) = .ok members) ∧
      (intsFit (model.dump value) = false →
        ∃ error, parseBody room (Text.utf8 (print (model.dump value))) = .error error) := by
  have hWellFormed := model.wellFormed value
  have hShallow : nesting (model.dump value) ≤ room := Nat.le_trans (model.shallow value) hRoom
  rw [hDump] at hWellFormed hShallow ⊢
  unfold parseBody
  rw [loads_print_obj]
  constructor
  · intro hInts
    rw [(decode_print_iff hWellFormed).mpr ((dumpable_iff _).mpr ⟨hInts, hShallow⟩)]
  · intro hInts
    have hNot : dumpable (.obj members) room = false := by
      rw [← Bool.not_eq_true, dumpable_iff, hInts]
      exact fun hBoth => Bool.false_ne_true hBoth.1
    obtain ⟨error, hError⟩ := decode_print_fails hWellFormed hNot
    rw [hError]
    cases error <;> exact ⟨_, rfl⟩

/-- A message that fits is received from the front of any stream exactly where its integers are
read. -/
theorem receive_frame_iff {kind : Kind} (hRoom : (kind.model sdk).depth ≤ room) {value : (kind.model sdk).Carrier}
    {body : List Byte} (hBody : bodyOf (kind.model sdk) value = some body) (hSome : 0 < body.length)
    (hFits : body.length ≤ maxFrameBytes) (rest : List Byte) :
    receive room (kind.model sdk) (packHeader body.length ++ body ++ rest) = (.ok value, rest) ↔
      intsFit ((kind.model sdk).dump value) = true := by
  obtain ⟨members, hDump⟩ := dump_kind kind value
  obtain ⟨hReads, hFails⟩ := parseBody_dump hRoom hDump
  rw [receive, readFrame_packed hSome hFits rest, bodyOf_eq_some hBody]
  cases hInts : intsFit ((kind.model sdk).dump value) with
  | true =>
    have hUndone := (kind.model sdk).undone value
    rw [hReads hInts]
    dsimp only
    rw [← hDump, hUndone]
    exact iff_of_true rfl rfl
  | false =>
    obtain ⟨error, hError⟩ := hFails hInts
    rw [hError]
    exact iff_of_false (fun hOk => nomatch hOk) Bool.false_ne_true

theorem receiveAll_encodeFrames (hRoom : ∀ kind, (Kind.model sdk kind).depth ≤ room) (rest : List Byte)
    {messages : List (Message sdk)} (h : ∀ message ∈ messages, Fits message ∧ IntsFit message) :
    ∃ frames, encodeFrames messages = .ok frames ∧
      receiveAll sdk room (messages.map Sigma.fst) (frames ++ rest) = (.ok messages, rest) := by
  induction messages with
  | nil => exact ⟨[], rfl, rfl⟩
  | cons message messages ih =>
    obtain ⟨⟨⟨body, hBody, hSome, hFits⟩, hInts⟩, hRest⟩ := List.forall_mem_cons.mp h
    obtain ⟨frames, hFrames, hReceived⟩ := ih hRest
    obtain ⟨kind, value⟩ := message
    refine ⟨packHeader body.length ++ body ++ frames, ?_, ?_⟩
    · rw [encodeFrames, hFrames, encodeFrame_of_fits hBody hSome hFits]
      rfl
    · have hFirst := (receive_frame_iff (hRoom kind) hBody hSome hFits (frames ++ rest)).mpr hInts
      rw [List.map_cons, List.append_assoc, receiveAll, hFirst]
      dsimp only
      rw [hReceived]
      rfl

/-- A message of 1 byte to 256 KiB is received as itself from the front of any stream exactly where
its integers have at most 4300 digits; frames of such messages are received in their order; a
larger message is not written, and a length outside these bounds is refused before the body. -/
theorem frames_read_back (hRoom : ∀ kind, (Kind.model sdk kind).depth ≤ room) :
    (∀ (message : Message sdk) (rest : List Byte), Fits message →
        ∃ frame, encodeFrame (message.1.model sdk) message.2 = .ok frame ∧
          (receive room (message.1.model sdk) (frame ++ rest) = (.ok message.2, rest) ↔ IntsFit message)) ∧
      (∀ (messages : List (Message sdk)) (rest : List Byte),
        (∀ message ∈ messages, Fits message ∧ IntsFit message) →
          ∃ frames, encodeFrames messages = .ok frames ∧
            receiveAll sdk room (messages.map Sigma.fst) (frames ++ rest) = (.ok messages, rest)) ∧
      (∀ (message : Message sdk) (body : List Byte), bodyOf (message.1.model sdk) message.2 = some body →
        maxFrameBytes < body.length → encodeFrame (message.1.model sdk) message.2 = .error .size) ∧
      ∀ header rest : List Byte, header.length = 4 →
        ¬ (0 < unpackHeader header ∧ unpackHeader header ≤ maxFrameBytes) →
          readFrame room (header ++ rest) = (.error .size, rest) := by
  refine ⟨?_, ?_, ?_, ?_⟩
  · rintro ⟨kind, value⟩ rest ⟨body, hBody, hSome, hFits⟩
    exact ⟨_, encodeFrame_of_fits hBody hSome hFits, receive_frame_iff (hRoom kind) hBody hSome hFits rest⟩
  · exact fun messages rest h => receiveAll_encodeFrames hRoom rest h
  · exact fun message body hBody hLong => encodeFrame_refuses hBody hLong
  · exact fun header rest hHeader hLength => readFrame_refuses hHeader hLength rest

theorem fits_iff (message : Message sdk) :
    Fits message ↔ Text.Encodable (print ((message.1.model sdk).dump message.2)) ∧
      0 < size ((message.1.model sdk).dump message.2) ∧ size ((message.1.model sdk).dump message.2) ≤ maxFrameBytes := by
  unfold Fits bodyOf Text.encodeUtf8
  split_ifs with hEncodable
  · simp [hEncodable, size, textSize]
  · simp [hEncodable]

end Reading

/-! ## A small SDK -/

namespace Sample

def noInt : Document → Option Int := fun _ => none

def deviceRef : Model :=
  .object [
    .required "device_instance_id" .string,
    .required "owner_domain_id" .string,
    .required "owner_domain_generation" (.number noInt),
    .required "claim_generation" (.number noInt),
    .required "trust_epoch" (.number noInt)] (by decide)

def actorRef : Model :=
  .object [
    .required "principal_id" .string,
    .required "principal_type" .string,
    .required "owner_domain_id" .string,
    .required "granted_scopes" (.tuple .string),
    .required "authentication_strength" .string] (by decide)

def ownerAuthorizationContext : Model :=
  .object [
    .required "workload_principal_id" .string,
    .withDefault "audience" .string (ofString "eidolon-admission"),
    .required "actor" actorRef,
    .required "authorized_owner_domain_id" .string,
    .required "scopes" (.tuple .string),
    .required "intent_id" .string,
    .required "target_device_ref" deviceRef,
    .required "issued_at" .string,
    .required "expires_at" .string] (by decide)

def hubClaimRevocationResult : Model :=
  .object [
    .required "command_id" .string,
    .required "outcome" .string,
    .required "device_ref" deviceRef,
    .required "aggregate_revision" (.number noInt),
    .required "occurred_at" .string,
    .optional "event_id" .string] (by decide)

def deviceLocalEraseOperationStatus : Model :=
  .object [
    .required "operation_id" .string,
    .required "device_ref" deviceRef,
    .required "state" .string,
    .optional "terminal_result" .string] (by decide)

def refusal : Model :=
  .object [
    .required "kind" .string,
    .required "reason" (.text (Bounded 0 512)),
    .optional "code" (.text (Bounded 0 64)),
    .required "retryable" (.boolean fun _ => none)] (by decide)

def small : Sdk where
  deviceRef := deviceRef
  ownerAuthorizationContext := ownerAuthorizationContext
  hubClaimRevocationResult := hubClaimRevocationResult
  deviceLocalEraseOperationStatus := deviceLocalEraseOperationStatus
  refusal := refusal
  datetime := .string
  laxInt := noInt
  laxBool := fun _ => none

theorem depth_le (kind : Kind) : (kind.model small).depth ≤ 1000 := by
  cases kind <;> decide

def device : deviceRef.Carrier :=
  (ofString "device-1", ofString "owner-1", (1 : Int), (3 : Int), (4 : Int), ())

def committed (revision : Int) : Message small :=
  ⟨.workflowReply, {
    result := some {
      requestId := ofString "request-1"
      intentId := ⟨ofString "removal-intent-1", by decide⟩
      deviceRef := device
      outcome := .accepted
      completedStage := .claimRevoked
      recovery := .none
      steps := [⟨.hubRevocation, .committed, none, some revision, none⟩]
      hub := none
      conditions := [] }
    problem := none
    exactlyOne := Bool.false_ne_true }⟩

def ready : Message small := ⟨.capabilityCall, ⟨.ready, ⟨⟩⟩⟩

def document (revision : Int) : Document :=
  .obj [
    (ofString "operation", .str (ofString "lifecycle.workflow-reply")),
    (ofString "contract_version", .str (ofString "1")),
    (ofString "result", .obj [
      (ofString "operation", .str (ofString "admin.device-removal-workflow")),
      (ofString "request_id", .str (ofString "request-1")),
      (ofString "intent_id", .str (ofString "removal-intent-1")),
      (ofString "device_ref", .obj [
        (ofString "device_instance_id", .str (ofString "device-1")),
        (ofString "owner_domain_id", .str (ofString "owner-1")),
        (ofString "owner_domain_generation", .int 1),
        (ofString "claim_generation", .int 3),
        (ofString "trust_epoch", .int 4)]),
      (ofString "outcome", .str (ofString "accepted")),
      (ofString "completed_stage", .str (ofString "claim_revoked")),
      (ofString "distributed_atomic", .bool false),
      (ofString "compensation", .str (ofString "none-safe-intermediate")),
      (ofString "recovery", .str (ofString "none")),
      (ofString "steps", .arr [.obj [
        (ofString "name", .str (ofString "hub_revocation")),
        (ofString "state", .str (ofString "committed")),
        (ofString "revision", .int revision)]]),
      (ofString "conditions", .arr [])])]

theorem dump_committed (revision : Int) :
    ((committed revision).1.model small).dump (committed revision).2 = document revision := rfl

theorem size_document (revision : Int) :
    size (document revision) + size (.int 0) = size (document 0) + size (.int revision) := by
  simp only [document, size_obj, size_arr, List.map_cons, List.map_nil, List.sum_cons, List.sum_nil,
    List.length_cons, List.length_nil]
  omega

def longRevision : Nat := 10 ^ intDigitLimit

theorem fits_committed : Fits (committed longRevision) := by
  have hLess : longRevision < 10 ^ (intDigitLimit + 1) := Nat.pow_lt_pow_right (by decide) (Nat.lt_succ_self _)
  have hDigits : size (.int longRevision) ≤ intDigitLimit + 1 := size_ofNat_le (Nat.succ_pos _) hLess
  have hSize := size_document longRevision
  have hShort : size (document 0) ≤ 1000 := by decide +kernel
  have hMax : maxFrameBytes = 262144 := rfl
  have hLimit : intDigitLimit = 4300 := rfl
  have hSome : 0 < size (document longRevision) := by
    rw [document, size_obj]
    omega
  rw [fits_iff, dump_committed]
  refine ⟨encodable_print (by rfl), hSome, ?_⟩
  omega

theorem not_intsFit_committed : ¬ IntsFit (committed longRevision) := by
  have hInt : intsFit (.int longRevision) = false := by
    rw [intsFit, Int.natAbs_natCast, longRevision]
    simp only [Nat.lt_irrefl, decide_false]
  rw [IntsFit, dump_committed]
  simp only [document, intsFit.eq_3, intsFit.eq_2, intsFitMembers, intsFitItems, hInt, Bool.false_and, Bool.and_false,
    Bool.false_eq_true, not_false_eq_true]

theorem fits_ready : Fits ready := by
  rw [fits_iff]
  decide +kernel

theorem intsFit_ready : IntsFit ready := rfl

end Sample

theorem frames_read_back_small :
    ∃ frames, encodeFrames [Sample.ready, Sample.ready] = .ok frames ∧
      receiveAll Sample.small 1000 [.capabilityCall, .capabilityCall] (frames ++ [Text.byte 0]) =
        (.ok [Sample.ready, Sample.ready], [Text.byte 0]) :=
  (frames_read_back Sample.depth_le).2.1 [Sample.ready, Sample.ready] [Text.byte 0]
    (by simp [Sample.fits_ready, Sample.intsFit_ready])

/-- A committed revision of 4301 digits is written and not read back. -/
theorem long_integer_not_read_back :
    ¬ ∀ (message : Message Sample.small) (rest : List Byte), Fits message →
        ∃ frame, encodeFrame (message.1.model Sample.small) message.2 = .ok frame ∧
          receive 1000 (message.1.model Sample.small) (frame ++ rest) = (.ok message.2, rest) := by
  intro hAll
  obtain ⟨frame, hFrame, hReceived⟩ := hAll _ [] Sample.fits_committed
  obtain ⟨body, hBody, hSome, hFits⟩ := Sample.fits_committed
  cases (encodeFrame_of_fits hBody hSome hFits).symm.trans hFrame
  exact Sample.not_intsFit_committed
    ((receive_frame_iff (Sample.depth_le _) hBody hSome hFits []).mp hReceived)

end EidolonAdmin.LifecycleWorkflow
