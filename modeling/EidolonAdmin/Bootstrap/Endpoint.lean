import EidolonAdmin.Foundation.Base64
import EidolonAdmin.Foundation.JsonSize

/-! # The commissioning endpoint in one characteristic

The signed endpoint is read from a single GATT attribute of 512 bytes. The addresses that it
carries are admitted one after the other, each against the size of the whole document signed with
it; what is emitted is the document that was measured last and fitted.
-/

namespace EidolonAdmin.Bootstrap.Endpoint

open Foundation Foundation.JsonText
open Foundation.Text (ofString)

def gattMaxAttributeBytes : Nat := 512

abbrev Fields := List (Text × Document)

def canonical (value : Fields) : Text := print (sortKeys (.obj value))

/-- `encode_endpoint`, which the bytes that are signed are made with too. -/
def encodeEndpoint (endpoint : Fields) : List Byte := Text.utf8 (canonical endpoint)

def endpointSize (endpoint : Fields) : Nat := (encodeEndpoint endpoint).length

def addressList (addresses : List String) : Document := .arr (addresses.map fun address => .str (ofString address))

/-- `{**unsigned, "local_api_base_urls": addresses}` -/
def withAddresses (unsigned : Fields) (addresses : List String) : Fields :=
  Dict.set unsigned (ofString "local_api_base_urls") (addressList addresses)

/-- The setup session that a phone may present a code against. An ordinary window has no
clock on it. -/
structure SetupSession where
  commissioningId : String
  expiresAt : Option String
deriving DecidableEq, Repr

def expiry (expiresAt : Option String) : Document :=
  match expiresAt with
  | some moment => .str (ofString moment)
  | none => .null

def SetupSession.document (session : SetupSession) : Document :=
  .obj [(ofString "commissioning_id", .str (ofString session.commissioningId)),
    (ofString "expires_at", expiry session.expiresAt)]

structure HostFacts where
  hostPublicKey : String
  resetEpoch : Nat
  tlsSpkiFingerprint : String
  setupSession : Option SetupSession
deriving DecidableEq, Repr

def unsignedEndpoint (facts : HostFacts) : Fields :=
  [(ofString "contract_version", .str (ofString "1")),
    (ofString "purpose", .str (ofString "eidolon-ble-commissioning-endpoint-v1")),
    (ofString "host_public_key", .str (ofString facts.hostPublicKey)),
    (ofString "reset_epoch", .int facts.resetEpoch),
    (ofString "tls_spki_fingerprint", .str (ofString facts.tlsSpkiFingerprint)),
    (ofString "setup_session", (facts.setupSession.map SetupSession.document).getD .null),
    (ofString "local_api_base_urls", .arr [])]

section Sign

variable (sign : List Byte → List Byte)

def signMapping (value : Fields) : Text := Base64.encode (sign (encodeEndpoint value))

def signed (unsigned : Fields) : Fields :=
  Dict.set unsigned (ofString "signature") (.str (signMapping sign unsigned))

def probe (unsigned : Fields) (candidate : List String) : Fields := signed sign (withAddresses unsigned candidate)

/-- The loop of `_addresses_that_fit` with what it has admitted. -/
def admitEach (unsigned : Fields) : List String → List String → List String
  | admitted, [] => admitted
  | admitted, address :: rest =>
    if gattMaxAttributeBytes < endpointSize (probe sign unsigned (admitted ++ [address])) then admitted
    else admitEach unsigned (admitted ++ [address]) rest

def addressesThatFit (unsigned : Fields) (addresses : List String) : List String := admitEach sign unsigned [] addresses

def commissioningEndpoint (facts : HostFacts) (addresses : List String) : Fields :=
  let unsigned := unsignedEndpoint facts
  signed sign (withAddresses unsigned (addressesThatFit sign unsigned addresses))

end Sign

/-! ## Sizes -/

theorem sortKeys_addressList (addresses : List String) :
    sortKeys (addressList addresses) = addressList addresses := by
  have hItems : ∀ addresses : List String,
      sortItems (addresses.map fun address => .str (ofString address)) =
        addresses.map fun address => .str (ofString address) := by
    intro addresses
    induction addresses with
    | nil => rfl
    | cons address addresses ih => rw [List.map_cons, sortItems, ih, sortKeys_str]
  rw [addressList, sortKeys, hItems]

theorem escaped_digit {v : Nat} (h : v < 64) : escaped (Base64.digit v) = [Base64.digit v] := by
  have hAll : ∀ v : Fin 64, escaped (Base64.digit v) = [Base64.digit v] := by decide
  exact hAll ⟨v, h⟩

theorem printString_encode (bytes : List Byte) :
    printString (Base64.encode bytes) = quote :: Base64.encode bytes ++ [quote] := by
  have hEscaped : ∀ text : Text, (∀ point ∈ text, ∃ v < 64, point = Base64.digit v) →
      text.flatMap escaped = text := by
    intro text hText
    induction text with
    | nil => rfl
    | cons point text ih =>
      obtain ⟨⟨v, hV, rfl⟩, hRest⟩ := List.forall_mem_cons.mp hText
      rw [List.flatMap_cons, escaped_digit hV, ih hRest, List.singleton_append]
  rw [printString, hEscaped _ fun point hPoint => Base64.mem_encode hPoint]

theorem size_signature (bytes : List Byte) :
    size (sortKeys (.str (Base64.encode bytes))) = (4 * bytes.length + 2) / 3 + 2 := by
  have hQuote : (Text.utf8Point quote).length = 1 ∧ textSize [quote] = 1 := ⟨rfl, rfl⟩
  have hAscii : textSize (Base64.encode bytes) = (4 * bytes.length + 2) / 3 := by
    rw [textSize_ascii Base64.ascii_encode, Base64.length_encode]
  rw [sortKeys_str, size, print, printString_encode, List.cons_append, textSize_cons, textSize_append, hAscii,
    hQuote.1, hQuote.2]
  omega

theorem size_addressList_mono {candidate candidate' : List String} (h : candidate <+: candidate') :
    size (sortKeys (addressList candidate)) ≤ size (sortKeys (addressList candidate')) := by
  rw [sortKeys_addressList, sortKeys_addressList]
  exact size_arr_mono (h.map _)

section Carried

variable {sign : List Byte → List Byte} {unsigned : Fields}

/-- More addresses make the signed endpoint no smaller. -/
theorem endpointSize_probe_mono {n : Nat} (hLength : ∀ message, (sign message).length = n)
    (hUnique : (unsigned.map Prod.fst).Nodup) {candidate candidate' : List String} (h : candidate <+: candidate') :
    endpointSize (probe sign unsigned candidate) ≤ endpointSize (probe sign unsigned candidate') := by
  have hNames : ofString "signature" ≠ ofString "local_api_base_urls" := by decide
  have hKeys : (withAddresses unsigned candidate').map Prod.fst = (withAddresses unsigned candidate).map Prod.fst := by
    rw [withAddresses, withAddresses, Dict.keys_set, Dict.keys_set]
  have hGet : Dict.get (withAddresses unsigned candidate') (ofString "signature") =
      Dict.get (withAddresses unsigned candidate) (ofString "signature") := by
    rw [withAddresses, withAddresses, Dict.get_set, Dict.get_set, if_neg hNames, if_neg hNames]
  have hSignature : size (sortKeys (.str (signMapping sign (withAddresses unsigned candidate')))) =
      size (sortKeys (.str (signMapping sign (withAddresses unsigned candidate)))) := by
    rw [signMapping, signMapping, size_signature, size_signature, hLength, hLength]
  have hSigned := size_set_sub (Dict.nodup_set hUnique _ (addressList candidate)) hKeys hGet hSignature
  have hSet := size_set hUnique (ofString "local_api_base_urls") (addressList candidate)
  have hSet' := size_set hUnique (ofString "local_api_base_urls") (addressList candidate')
  have hList := size_addressList_mono h
  rw [Dict.keys_set] at hSet hSet'
  show size (sortKeys (.obj (Dict.set (withAddresses unsigned candidate) _ _))) ≤
    size (sortKeys (.obj (Dict.set (withAddresses unsigned candidate') _ _)))
  unfold withAddresses at hSigned ⊢
  omega

def Fits (sign : List Byte → List Byte) (unsigned : Fields) (candidate : List String) : Prop :=
  endpointSize (probe sign unsigned candidate) ≤ gattMaxAttributeBytes

/-- The loop admits a prefix that fits, and no longer one does. -/
theorem admit_longest {n : Nat} (hLength : ∀ message, (sign message).length = n)
    (hUnique : (unsigned.map Prod.fst).Nodup) (admitted rest : List String) :
    ∃ more, admitEach sign unsigned admitted rest = admitted ++ more ∧ more <+: rest ∧
      (Fits sign unsigned admitted → Fits sign unsigned (admitted ++ more)) ∧
      ∀ longer, longer <+: rest → Fits sign unsigned (admitted ++ longer) → longer <+: more := by
  induction rest generalizing admitted with
  | nil =>
    refine ⟨[], (List.append_nil admitted).symm, List.nil_prefix, ?_, fun longer hLonger _ => hLonger⟩
    rw [List.append_nil]
    exact id
  | cons address rest ih =>
    rw [admitEach]
    split_ifs with hFull
    · refine ⟨[], (List.append_nil admitted).symm, List.nil_prefix, ?_, ?_⟩
      · rw [List.append_nil]
        exact id
      · intro longer hLonger hFits
        cases longer with
        | nil => exact List.nil_prefix
        | cons first others =>
          obtain ⟨rfl, -⟩ := List.cons_prefix_cons.mp hLonger
          have hFirst : admitted ++ [first] <+: admitted ++ first :: others := ⟨others, by simp⟩
          exact absurd ((endpointSize_probe_mono hLength hUnique hFirst).trans hFits) (Nat.not_le.mpr hFull)
    · obtain ⟨more, hAdmitted, hPrefix, hFits, hLongest⟩ := ih (admitted ++ [address])
      have hAppend : ∀ others, admitted ++ [address] ++ others = admitted ++ address :: others := by simp
      rw [hAppend] at hAdmitted hFits
      refine ⟨address :: more, hAdmitted, List.cons_prefix_cons.mpr ⟨rfl, hPrefix⟩, ?_, ?_⟩
      · exact fun _ => hFits (Nat.not_lt.mp hFull)
      · intro longer hLonger hLongerFits
        cases longer with
        | nil => exact List.nil_prefix
        | cons first others =>
          obtain ⟨rfl, hOthers⟩ := List.cons_prefix_cons.mp hLonger
          rw [← hAppend] at hLongerFits
          exact List.cons_prefix_cons.mpr ⟨rfl, hLongest others hOthers hLongerFits⟩

end Carried

theorem nodup_unsignedEndpoint (facts : HostFacts) : ((unsignedEndpoint facts).map Prod.fst).Nodup := by
  have hKeys : (["contract_version", "purpose", "host_public_key", "reset_epoch", "tls_spki_fingerprint",
    "setup_session", "local_api_base_urls"].map ofString).Nodup := by decide
  exact hKeys

theorem signature_notMem (facts : HostFacts) (addresses : List String) :
    ofString "signature" ∉ (withAddresses (unsignedEndpoint facts) addresses).map Prod.fst := by
  have hKeys : ofString "signature" ∉ ["contract_version", "purpose", "host_public_key", "reset_epoch",
    "tls_spki_fingerprint", "setup_session", "local_api_base_urls"].map ofString := by decide
  have hPresent : ofString "local_api_base_urls" ∈ (unsignedEndpoint facts).map Prod.fst := by
    simp [unsignedEndpoint]
  rw [withAddresses, Dict.keys_set, if_pos hPresent]
  exact hKeys

theorem encodeUtf8_commissioningEndpoint (sign : List Byte → List Byte) (facts : HostFacts) (addresses : List String) :
    Text.encodeUtf8 (canonical (commissioningEndpoint sign facts addresses)) =
      some (encodeEndpoint (commissioningEndpoint sign facts addresses)) := by
  have hString : ∀ text, Text.Encodable (print (sortKeys (.str (ofString text)))) := by
    intro text
    rw [sortKeys_str, print]
    exact encodable_printString (Text.encodable_ofString text)
  have hSignature : ∀ bytes, Text.Encodable (print (sortKeys (.str (Base64.encode bytes)))) := by
    intro bytes
    rw [sortKeys_str, print]
    refine encodable_printString fun point hPoint => ?_
    have hAscii := Base64.ascii_encode point hPoint
    simp only [Text.isSurrogate, Bool.and_eq_false_iff, decide_eq_false_iff_not]
    omega
  have hList : ∀ addresses, Text.Encodable (print (sortKeys (addressList addresses))) := by
    intro addresses
    rw [sortKeys_addressList]
    refine encodable_print_arr ?_
    intro item hItem
    obtain ⟨address, -, rfl⟩ := List.mem_map.mp hItem
    rw [← sortKeys_str]
    exact hString address
  have hExpiry : ∀ expiresAt, Text.Encodable (print (sortKeys (expiry expiresAt))) := by
    intro expiresAt
    cases expiresAt with
    | none => decide
    | some moment => exact hString moment
  have hSession : Text.Encodable (print (sortKeys ((facts.setupSession.map SetupSession.document).getD .null))) := by
    cases facts.setupSession with
    | none => decide
    | some session =>
      refine encodable_print_sortKeys_obj ?_
      intro member hMember
      simp only [List.mem_cons, List.not_mem_nil, or_false] at hMember
      rcases hMember with rfl | rfl
      · exact ⟨Text.encodable_ofString _, hString _⟩
      · exact ⟨Text.encodable_ofString _, hExpiry _⟩
  have hUnsigned : ∀ member ∈ unsignedEndpoint facts,
      Text.Encodable member.1 ∧ Text.Encodable (print (sortKeys member.2)) := by
    intro member hMember
    simp only [unsignedEndpoint, List.mem_cons, List.not_mem_nil, or_false] at hMember
    rcases hMember with rfl | rfl | rfl | rfl | rfl | rfl | rfl
    · exact ⟨Text.encodable_ofString _, hString _⟩
    · exact ⟨Text.encodable_ofString _, hString _⟩
    · exact ⟨Text.encodable_ofString _, hString _⟩
    · exact ⟨Text.encodable_ofString _, encodable_printNat facts.resetEpoch⟩
    · exact ⟨Text.encodable_ofString _, hString _⟩
    · exact ⟨Text.encodable_ofString _, hSession⟩
    · exact ⟨Text.encodable_ofString _, by decide⟩
  refine if_pos (encodable_print_sortKeys_obj ?_)
  intro member hMember
  rw [commissioningEndpoint, signed] at hMember
  rcases Dict.mem_set.mp hMember with rfl | ⟨hMember, -⟩
  · exact ⟨Text.encodable_ofString _, hSignature _⟩
  · rw [withAddresses] at hMember
    rcases Dict.mem_set.mp hMember with rfl | ⟨hMember, -⟩
    · exact ⟨Text.encodable_ofString _, hList _⟩
    · exact hUnsigned member hMember

/-- The endpoint carries the longest prefix of the addresses that fits with its signature, fits
itself wherever the endpoint without addresses does, and is the document that was measured; its
signature is over all its other fields. -/
theorem commissioningEndpoint_carries_longest {sign : List Byte → List Byte} {n : Nat}
    (hLength : ∀ message, (sign message).length = n) {verify : List Byte → List Byte → Bool}
    (hVerify : ∀ message, verify message (sign message) = true) (facts : HostFacts) (addresses : List String) :
    ∃ carried fields signature bytes,
      carried <+: addresses ∧
      fields = withAddresses (unsignedEndpoint facts) carried ∧
      commissioningEndpoint sign facts addresses = fields ++ [(ofString "signature", .str signature)] ∧
      commissioningEndpoint sign facts addresses = probe sign (unsignedEndpoint facts) carried ∧
      (∀ candidate, candidate <+: addresses →
        endpointSize (probe sign (unsignedEndpoint facts) candidate) ≤ gattMaxAttributeBytes →
          candidate <+: carried) ∧
      (endpointSize (probe sign (unsignedEndpoint facts) []) ≤ gattMaxAttributeBytes →
        endpointSize (commissioningEndpoint sign facts addresses) ≤ gattMaxAttributeBytes) ∧
      Base64.urlsafeB64decode (signature ++ Base64.paddingFor signature.length) = some bytes ∧
      verify (encodeEndpoint fields) bytes = true := by
  obtain ⟨carried, hCarried, hPrefix, hFits, hLongest⟩ :=
    admit_longest hLength (nodup_unsignedEndpoint facts) [] addresses
  rw [List.nil_append] at hCarried hFits
  have hEndpoint : commissioningEndpoint sign facts addresses = probe sign (unsignedEndpoint facts) carried := by
    rw [commissioningEndpoint, addressesThatFit, hCarried]
    rfl
  refine ⟨carried, _, signMapping sign (withAddresses (unsignedEndpoint facts) carried), _, hPrefix, rfl, ?_,
    hEndpoint, ?_, ?_, Base64.urlsafeB64decode_encode _, hVerify _⟩
  · rw [hEndpoint]
    exact Dict.set_of_notMem (signature_notMem facts carried) _
  · exact hLongest
  · rw [hEndpoint]
    exact hFits

namespace Workstation

def checksum (message : List Byte) : List Byte :=
  List.replicate 64 (Text.byte (message.map Fin.val).sum)

def accepts (message signature : List Byte) : Bool := signature = checksum message

def facts : HostFacts where
  hostPublicKey := "AAECAwQFBgcICQoLDA0ODxAREhMUFRYXGBkaGxwdHh8"
  resetEpoch := 3
  tlsSpkiFingerprint := "sha256:AAECAwQFBgcICQoLDA0ODxAREhMUFRYXGBkaGxwdHh8"
  setupSession := some ⟨"6f1c2b9d-4e7a-4c1b-8d2f-0a9e5c3b7d61", none⟩

def addresses : List String :=
  ["https://192.168.1.20:8443", "https://192.168.1.21:8443", "https://10.0.0.5:8443",
    "https://[fd00:1:2:3:4:5:6:7]:8443"]

theorem endpoint_carries_first :
    ∃ carried, carried <+: addresses ∧ addresses.take 2 <+: carried ∧ carried ≠ addresses ∧
      commissioningEndpoint checksum facts addresses = probe checksum (unsignedEndpoint facts) carried ∧
      endpointSize (commissioningEndpoint checksum facts addresses) ≤ gattMaxAttributeBytes := by
  have hLength : ∀ message, (checksum message).length = 64 := fun message => List.length_replicate
  have hVerify : ∀ message, accepts message (checksum message) = true := fun message => decide_eq_true rfl
  have hEmpty : endpointSize (probe checksum (unsignedEndpoint facts) []) ≤ gattMaxAttributeBytes := by
    decide +kernel
  have hTwo : endpointSize (probe checksum (unsignedEndpoint facts) (addresses.take 2)) ≤
      gattMaxAttributeBytes := by
    decide +kernel
  have hAll : ¬ endpointSize (probe checksum (unsignedEndpoint facts) addresses) ≤ gattMaxAttributeBytes := by
    decide +kernel
  obtain ⟨carried, _, _, _, hPrefix, _, _, hEndpoint, hLongest, hFits, _⟩ :=
    commissioningEndpoint_carries_longest hLength hVerify facts addresses
  have hSize := hFits hEmpty
  refine ⟨carried, hPrefix, hLongest _ (List.take_prefix 2 addresses) hTwo, ?_, hEndpoint, hSize⟩
  rintro rfl
  rw [hEndpoint] at hSize
  exact hAll hSize

end Workstation

end EidolonAdmin.Bootstrap.Endpoint
