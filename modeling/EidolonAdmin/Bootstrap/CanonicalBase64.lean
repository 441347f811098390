import EidolonAdmin.Foundation.Base64

/-! # Canonical base64url

Keys, signatures and challenges reach the Host as unpadded base64url. Each reader pads the text,
decodes it with the lenient decoder of the library, encodes the bytes again and compares.
-/

namespace EidolonAdmin.Bootstrap

open Foundation Foundation.Base64

/-- Both functions named `_decode_base64url`, with the errors each one raises. A value that is
no text is absent. -/
def decodeBase64url {ε : Type} (required unreadable notCanonical : ε) (value : Option Text) :
    Except ε (List Byte) :=
  match value with
  | none => .error required
  | some value =>
    if value = [] then .error required
    else
      match urlsafeB64decode (value ++ paddingFor value.length) with
      | none => .error unreadable
      | some decoded =>
        if rstripPadding (urlsafeB64encode decoded) ≠ value then .error notCanonical else .ok decoded

/-- `CommissioningRequestRejected` -/
structure RequestRejected where
  code : String
  message : String
deriving DecidableEq, Repr

def CommissioningService.decodeBase64url (field : String) :
    Option Text → Except RequestRejected (List Byte) :=
  Bootstrap.decodeBase64url ⟨"invalid_request", field ++ " is required"⟩
    ⟨"invalid_request", field ++ " must be unpadded base64url"⟩
    ⟨"invalid_request", field ++ " must use canonical base64url"⟩

structure ControllerSignatureError where
  message : String
deriving DecidableEq, Repr

def ControllerAuth.decodeBase64url : Option Text → Except ControllerSignatureError (List Byte) :=
  Bootstrap.decodeBase64url ⟨"Controller signature is required"⟩
    ⟨"Controller value is not base64url"⟩ ⟨"Controller value is not canonical base64url"⟩

/-! The decoder alone reads many texts as the same bytes. -/

example : ["AAE=", "AAF=", "A A\nE=", "=AAE=", "AAE=tail"].map (urlsafeB64decode ∘ Text.ofString) =
    List.replicate 5 (some [0, 1]) := by decide

example : urlsafeB64decode (Text.ofString "+/-_") = urlsafeB64decode (Text.ofString "-_+/") := by
  decide

/-! ## What is accepted -/

section Accepted

variable {ε : Type} {required unreadable notCanonical : ε}

theorem decodeBase64url_encode {bytes : List Byte} (h : bytes ≠ []) :
    decodeBase64url required unreadable notCanonical (some (encode bytes)) = .ok bytes := by
  rw [decodeBase64url, if_neg (mt encode_eq_nil_iff.mp h), urlsafeB64decode_encode]
  dsimp only
  rw [rstripPadding_urlsafeB64encode, if_neg (not_not.mpr rfl)]

theorem encode_of_decodeBase64url {value : Text} {bytes : List Byte}
    (h : decodeBase64url required unreadable notCanonical (some value) = .ok bytes) :
    bytes ≠ [] ∧ encode bytes = value := by
  rw [decodeBase64url] at h
  split at h
  · cases h
  · rename_i hValue
    split at h
    · cases h
    · rename_i decoded hDecoded
      split at h
      · cases h
      · rename_i hCanonical
        obtain rfl := Except.ok.inj h
        rw [rstripPadding_urlsafeB64encode, not_not] at hCanonical
        refine ⟨?_, hCanonical⟩
        rintro rfl
        exact hValue (hCanonical.symm.trans (encode_eq_nil_iff.mpr rfl))

theorem decodeBase64url_eq_ok_iff {value : Text} {bytes : List Byte} :
    decodeBase64url required unreadable notCanonical (some value) = .ok bytes ↔
      bytes ≠ [] ∧ encode bytes = value := by
  constructor
  · exact encode_of_decodeBase64url
  · rintro ⟨hBytes, rfl⟩
    exact decodeBase64url_encode hBytes

end Accepted

/-- Either reader takes a text where it is the unpadded encoding of some bytes, and returns
those, so that a text that stands for a key or a signature is the only one that does. -/
theorem decodeBase64url_canonical (field : String) (value : Text) :
    (∀ bytes, CommissioningService.decodeBase64url field (some value) = .ok bytes ↔
      bytes ≠ [] ∧ encode bytes = value) ∧
    (∀ bytes, ControllerAuth.decodeBase64url (some value) = .ok bytes ↔
      bytes ≠ [] ∧ encode bytes = value) ∧
    (∀ field' value' bytes, CommissioningService.decodeBase64url field (some value) = .ok bytes →
      CommissioningService.decodeBase64url field' (some value') = .ok bytes → value = value') ∧
    ∀ value' bytes, ControllerAuth.decodeBase64url (some value) = .ok bytes →
      ControllerAuth.decodeBase64url (some value') = .ok bytes → value = value' := by
  refine ⟨fun bytes => decodeBase64url_eq_ok_iff, fun bytes => decodeBase64url_eq_ok_iff, ?_, ?_⟩
  · intro field' value' bytes h h'
    exact (encode_of_decodeBase64url h).2.symm.trans (encode_of_decodeBase64url h').2
  · intro value' bytes h h'
    exact (encode_of_decodeBase64url h).2.symm.trans (encode_of_decodeBase64url h').2

/-! ## The challenge of a Host proof -/

/-- `[A-Za-z0-9_-]` -/
def isUrlsafe (point : CodePoint) : Bool :=
  let n := point.val
  (65 ≤ n && n ≤ 90) || (97 ≤ n && n ≤ 122) || (48 ≤ n && n ≤ 57) ||
    point = Text.ofChar '_' || point = Text.ofChar '-'

/-- What `prove_host` requires of the challenge before it signs: the bytes it stands for, or the
message of `BootstrapOperationRejected`. -/
def proveHostChallenge (challenge : Option Text) : Except String (List Byte) :=
  match challenge with
  | none => .error "host proof challenge must be 32 unpadded base64url bytes"
  | some challenge =>
    if ¬ (challenge.length = 43 ∧ challenge.all isUrlsafe) then
      .error "host proof challenge must be 32 unpadded base64url bytes"
    else
      match urlsafeB64decode (challenge ++ [padding]) with
      | none => .error "host proof challenge is not valid base64url"
      | some decoded =>
        if decoded.length ≠ 32 then .error "host proof challenge must decode to 32 bytes"
        else if rstripPadding (urlsafeB64encode decoded) ≠ challenge then
          .error "host proof challenge must use canonical base64url encoding"
        else .ok decoded

theorem isUrlsafe_of_mem_encode {bytes : List Byte} {point : CodePoint} (h : point ∈ encode bytes) :
    isUrlsafe point = true := by
  have hAll : ∀ v : Fin 64, isUrlsafe (digit v) = true := by decide
  obtain ⟨v, hV, rfl⟩ := mem_encode h
  exact hAll ⟨v, hV⟩

theorem proveHostChallenge_eq_ok_iff {challenge : Text} {bytes : List Byte} :
    proveHostChallenge (some challenge) = .ok bytes ↔ bytes.length = 32 ∧ encode bytes = challenge := by
  rw [proveHostChallenge]
  constructor
  · intro h
    split_ifs at h with hShape
    split at h
    · cases h
    · rename_i decoded hDecoded
      split_ifs at h with hLength hCanonical
      obtain rfl := Except.ok.inj h
      rw [rstripPadding_urlsafeB64encode] at hCanonical
      exact ⟨not_not.mp hLength, not_not.mp hCanonical⟩
  · rintro ⟨hLength, rfl⟩
    have hEncoded : (encode bytes).length = 43 := by rw [length_encode, hLength]
    have hDecoded : urlsafeB64decode (encode bytes ++ [padding]) = some bytes := by
      have h := urlsafeB64decode_encode bytes
      rwa [hEncoded] at h
    have hShape : (encode bytes).all isUrlsafe = true :=
      List.all_eq_true.mpr fun point hPoint => isUrlsafe_of_mem_encode hPoint
    rw [if_neg (not_not.mpr ⟨hEncoded, hShape⟩), hDecoded]
    dsimp only
    rw [if_neg (not_not.mpr hLength), rstripPadding_urlsafeB64encode, if_neg (not_not.mpr rfl)]

end EidolonAdmin.Bootstrap
