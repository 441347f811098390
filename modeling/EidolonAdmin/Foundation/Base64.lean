import EidolonAdmin.Foundation.Text

/-! # URL-safe base64

Python's `urlsafe_b64encode` and `urlsafe_b64decode`. The decoder passes over characters outside
both alphabets, drops unused trailing bits and ends at a closing padding; the encoding without
its padding is what it undoes.
-/

namespace EidolonAdmin.Foundation.Base64

open Text (ofChar byte)

def digit (v : Nat) : CodePoint :=
  if v < 26 then Fin.ofNat _ (65 + v)
  else if v < 52 then Fin.ofNat _ (71 + v)
  else if v < 62 then Fin.ofNat _ (v - 4)
  else if v = 62 then ofChar '-' else ofChar '_'

def value (point : CodePoint) : Option Nat :=
  let n := point.val
  if 65 ≤ n ∧ n ≤ 90 then some (n - 65)
  else if 97 ≤ n ∧ n ≤ 122 then some (n - 71)
  else if 48 ≤ n ∧ n ≤ 57 then some (n + 4)
  else if point = ofChar '-' ∨ point = ofChar '+' then some 62
  else if point = ofChar '_' ∨ point = ofChar '/' then some 63
  else none

def padding : CodePoint := ofChar '='

def encode : List Byte → Text
  | [] => []
  | [a] => [digit (a.val / 4), digit (a.val % 4 * 16)]
  | [a, b] => [digit (a.val / 4), digit (a.val % 4 * 16 + b.val / 16), digit (b.val % 16 * 4)]
  | a :: b :: c :: rest =>
    digit (a.val / 4) :: digit (a.val % 4 * 16 + b.val / 16) :: digit (b.val % 16 * 4 + c.val / 64) ::
      digit (c.val % 64) :: encode rest

/-- `"=" * (-length % 4)` -/
def paddingFor (length : Nat) : Text := List.replicate ((4 - length % 4) % 4) padding

def urlsafeB64encode (bytes : List Byte) : Text := encode bytes ++ paddingFor (encode bytes).length

/-- `binascii.a2b_base64` from `quad` characters into a group on, with the bits `left` over and
`pads` padding characters seen in a row. -/
def scan : Nat → Nat → Nat → Text → Option (List Byte)
  | quad, _, _, [] => if quad = 0 then some [] else none
  | quad, left, pads, point :: rest =>
    if point = padding then
      if 2 ≤ quad ∧ 4 ≤ quad + (pads + 1) then some []
      else scan quad left (if 2 ≤ quad then pads + 1 else pads) rest
    else
      match value point with
      | none => scan quad left pads rest
      | some v =>
        match quad with
        | 0 => scan 1 v 0 rest
        | 1 => (scan 2 (v % 16) 0 rest).map fun bytes => byte (left * 4 + v / 16) :: bytes
        | 2 => (scan 3 (v % 4) 0 rest).map fun bytes => byte (left * 16 + v / 4) :: bytes
        | _ => (scan 0 0 0 rest).map fun bytes => byte (left * 64 + v) :: bytes

/-- `urlsafe_b64decode` of a text, absent where it raises a `ValueError`. -/
def urlsafeB64decode (text : Text) : Option (List Byte) :=
  if text.all fun point => point.val < 128 then scan 0 0 0 text else none

/-- `.rstrip("=")` -/
def rstripPadding (text : Text) : Text := (text.reverse.dropWhile fun point => point = padding).reverse

/-! ## Digits -/

theorem value_digit {v : Nat} (h : v < 64) : value (digit v) = some v := by
  have hAll : ∀ v : Fin 64, value (digit v) = some v.val := by decide
  exact hAll ⟨v, h⟩

theorem digit_ne_padding {v : Nat} (h : v < 64) : digit v ≠ padding := by
  have hAll : ∀ v : Fin 64, digit v ≠ padding := by decide
  exact hAll ⟨v, h⟩

theorem digit_ascii {v : Nat} (h : v < 64) : (digit v).val < 128 := by
  have hAll : ∀ v : Fin 64, (digit v).val < 128 := by decide
  exact hAll ⟨v, h⟩

theorem mem_encode {bytes : List Byte} {point : CodePoint} (h : point ∈ encode bytes) :
    ∃ v < 64, point = digit v := by
  induction bytes using encode.induct with
  | case1 => cases h
  | case2 a =>
    have := a.isLt
    simp only [encode, List.mem_cons, List.not_mem_nil, or_false] at h
    rcases h with rfl | rfl
    · exact ⟨_, by omega, rfl⟩
    · exact ⟨_, by omega, rfl⟩
  | case3 a b =>
    have := a.isLt
    have := b.isLt
    simp only [encode, List.mem_cons, List.not_mem_nil, or_false] at h
    rcases h with rfl | rfl | rfl
    · exact ⟨_, by omega, rfl⟩
    · exact ⟨_, by omega, rfl⟩
    · exact ⟨_, by omega, rfl⟩
  | case4 a b c rest ih =>
    have := a.isLt
    have := b.isLt
    have := c.isLt
    simp only [encode, List.mem_cons] at h
    rcases h with rfl | rfl | rfl | rfl | h
    · exact ⟨_, by omega, rfl⟩
    · exact ⟨_, by omega, rfl⟩
    · exact ⟨_, by omega, rfl⟩
    · exact ⟨_, by omega, rfl⟩
    · exact ih h

theorem ascii_encode {bytes : List Byte} : ∀ point ∈ encode bytes, point.val < 128 := by
  intro point hPoint
  obtain ⟨v, hV, rfl⟩ := mem_encode hPoint
  exact digit_ascii hV

theorem ne_padding_of_mem_encode {bytes : List Byte} {point : CodePoint} (h : point ∈ encode bytes) :
    point ≠ padding := by
  obtain ⟨v, hV, rfl⟩ := mem_encode h
  exact digit_ne_padding hV

theorem encode_eq_nil_iff {bytes : List Byte} : encode bytes = [] ↔ bytes = [] := by
  cases bytes using encode.induct <;> simp [encode]

theorem length_encode (bytes : List Byte) : (encode bytes).length = (4 * bytes.length + 2) / 3 := by
  induction bytes using encode.induct with
  | case1 => rfl
  | case2 a => simp [encode]
  | case3 a b => simp [encode]
  | case4 a b c rest ih =>
    rw [encode]
    simp only [List.length_cons, ih]
    omega

theorem rstripPadding_urlsafeB64encode (bytes : List Byte) :
    rstripPadding (urlsafeB64encode bytes) = encode bytes := by
  have hPad : ∀ n (text : Text), (∀ point ∈ text, point ≠ padding) →
      (List.replicate n padding ++ text).dropWhile (fun point => point = padding) = text := by
    intro n text hText
    induction n with
    | zero =>
      cases text with
      | nil => rfl
      | cons point rest =>
        exact List.dropWhile_cons_of_neg (by simpa using hText point List.mem_cons_self)
    | succ n ih =>
      rw [List.replicate_succ, List.cons_append, List.dropWhile_cons_of_pos (by simp)]
      exact ih
  rw [rstripPadding, urlsafeB64encode, paddingFor, List.reverse_append, List.reverse_replicate,
    hPad _ _ fun point hPoint => ne_padding_of_mem_encode (List.mem_reverse.mp hPoint),
    List.reverse_reverse]

/-! ## Decoding undoes encoding -/

section Digit

variable {v : Nat} (h : v < 64) (left pads : Nat) (rest : Text)

include h

theorem scan_first : scan 0 left pads (digit v :: rest) = scan 1 v 0 rest := by
  rw [scan, if_neg (digit_ne_padding h), value_digit h]
  rfl

theorem scan_second : scan 1 left pads (digit v :: rest) =
    (scan 2 (v % 16) 0 rest).map fun bytes => byte (left * 4 + v / 16) :: bytes := by
  rw [scan, if_neg (digit_ne_padding h), value_digit h]
  rfl

theorem scan_third : scan 2 left pads (digit v :: rest) =
    (scan 3 (v % 4) 0 rest).map fun bytes => byte (left * 16 + v / 4) :: bytes := by
  rw [scan, if_neg (digit_ne_padding h), value_digit h]
  rfl

theorem scan_fourth : scan 3 left pads (digit v :: rest) =
    (scan 0 0 0 rest).map fun bytes => byte (left * 64 + v) :: bytes := by
  rw [scan, if_neg (digit_ne_padding h), value_digit h]
  rfl

end Digit

theorem byte_eq {n : Nat} {b : Byte} (h : n = b.val) : byte n = b := by
  subst h
  exact Fin.ext (Nat.mod_eq_of_lt b.isLt)

theorem scan_encode (bytes : List Byte) :
    scan 0 0 0 (encode bytes ++ paddingFor (encode bytes).length) = some bytes := by
  induction bytes using encode.induct with
  | case1 => rfl
  | case2 a =>
    have hA := a.isLt
    have hPadding : paddingFor (encode [a]).length = [padding, padding] := rfl
    rw [hPadding, encode, List.cons_append, List.singleton_append, scan_first (by omega),
      scan_second (by omega), byte_eq (b := a) (by omega)]
    rfl
  | case3 a b =>
    have hA := a.isLt
    have hB := b.isLt
    have hPadding : paddingFor (encode [a, b]).length = [padding] := rfl
    rw [hPadding, encode, List.cons_append, List.cons_append, List.singleton_append,
      scan_first (by omega), scan_second (by omega), scan_third (by omega), byte_eq (b := a) (by omega),
      byte_eq (b := b) (by omega)]
    rfl
  | case4 a b c rest ih =>
    have hA := a.isLt
    have hB := b.isLt
    have hC := c.isLt
    have hPadding : paddingFor (encode (a :: b :: c :: rest)).length = paddingFor (encode rest).length := by
      rw [paddingFor, paddingFor, encode, List.length_cons, List.length_cons, List.length_cons,
        List.length_cons, show ((encode rest).length + 1 + 1 + 1 + 1) % 4 = (encode rest).length % 4 by omega]
    rw [hPadding, encode]
    simp only [List.cons_append]
    rw [scan_first (by omega), scan_second (by omega), scan_third (by omega), scan_fourth (by omega), ih,
      byte_eq (b := a) (by omega), byte_eq (b := b) (by omega), byte_eq (b := c) (by omega)]
    rfl

theorem urlsafeB64decode_encode (bytes : List Byte) :
    urlsafeB64decode (encode bytes ++ paddingFor (encode bytes).length) = some bytes := by
  rw [urlsafeB64decode, if_pos]
  · exact scan_encode bytes
  · refine List.all_eq_true.mpr fun point hPoint => decide_eq_true ?_
    rcases List.mem_append.mp hPoint with h | h
    · exact ascii_encode point h
    · rw [List.eq_of_mem_replicate h]
      decide

end EidolonAdmin.Foundation.Base64
