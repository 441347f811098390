import Mathlib.Algebra.GroupWithZero.Nat
import Mathlib.Data.List.Basic

/-! # Texts and bytes

A Python text is a list of code points, which may be surrogates standing alone; `str.encode`
raises on those. UTF-8 is read and written for every code point here (`surrogatepass`), and
strictly where a text has no surrogate.
-/

namespace EidolonAdmin.Foundation

abbrev CodePoint := Fin 0x110000

instance neZero_codePoints : NeZero 0x110000 := ⟨by decide⟩

abbrev Text := List CodePoint

abbrev Byte := Fin 256

namespace Text

def ofChar (char : Char) : CodePoint :=
  ⟨char.toNat, by
    have h := char.valid
    unfold UInt32.isValidChar Nat.isValidChar at h
    show char.val.toNat < _
    omega⟩

def ofString (text : String) : Text := text.toList.map ofChar

def byte (n : Nat) : Byte := ⟨n % 256, Nat.mod_lt n (by decide)⟩

@[simp]
theorem val_byte (n : Nat) : (byte n).val = n % 256 := rfl

def isSurrogate (point : CodePoint) : Bool := 0xD800 ≤ point.val && point.val ≤ 0xDFFF

theorem isSurrogate_ofChar (char : Char) : isSurrogate (ofChar char) = false := by
  have h := char.valid
  unfold UInt32.isValidChar Nat.isValidChar at h
  have hVal : (ofChar char).val = char.val.toNat := rfl
  simp only [isSurrogate, hVal, Bool.and_eq_false_iff, decide_eq_false_iff_not]
  omega

def Encodable (text : Text) : Prop := ∀ point ∈ text, isSurrogate point = false

instance (text : Text) : Decidable (Encodable text) := List.decidableBAll _ _

theorem encodable_ofString (text : String) : Encodable (ofString text) := by
  intro point hPoint
  obtain ⟨char, _, rfl⟩ := List.mem_map.mp hPoint
  exact isSurrogate_ofChar char

theorem encodable_append {text rest : Text} : Encodable (text ++ rest) ↔ Encodable text ∧ Encodable rest :=
  List.forall_mem_append

theorem encodable_intercalate_iff {separator : Text} (hSeparator : Encodable separator) (texts : List Text) :
    Encodable (separator.intercalate texts) ↔ ∀ text ∈ texts, Encodable text := by
  induction texts with
  | nil => exact iff_of_true (List.forall_mem_nil _) (List.forall_mem_nil _)
  | cons text rest ih =>
    cases rest with
    | nil => rw [List.intercalate_singleton, List.forall_mem_singleton]
    | cons next rest =>
      rw [List.intercalate_cons_cons, encodable_append, encodable_append, ih, @List.forall_mem_cons _ _ text]
      exact and_congr_left fun _ => and_iff_left hSeparator

theorem length_intercalate (separator text : Text) (rest : List Text) :
    (separator.intercalate (text :: rest)).length =
      ((text :: rest).map List.length).sum + separator.length * rest.length := by
  induction rest generalizing text with
  | nil => simp
  | cons next rest ih =>
    rw [List.intercalate_cons_cons, List.length_append, List.length_append, ih next, @List.map_cons _ _ _ text,
      List.sum_cons, List.length_cons, Nat.mul_add]
    omega

/-- Unicode of a length within bounds, as a constrained text of a model must be. -/
def Bounded (least most : Nat) (text : Text) : Prop := Encodable text ∧ least ≤ text.length ∧ text.length ≤ most

instance (least most : Nat) : DecidablePred (Bounded least most) := fun _ => inferInstanceAs (Decidable (_ ∧ _))

/-- `str.isspace` of one character -/
def isSpace (point : CodePoint) : Bool :=
  let n := point.val
  (9 ≤ n && n ≤ 13) || (28 ≤ n && n ≤ 32) || n == 0x85 || n == 0xA0 || n == 0x1680 || (0x2000 ≤ n && n ≤ 0x200A) ||
    n == 0x2028 || n == 0x2029 || n == 0x202F || n == 0x205F || n == 0x3000

/-! ## UTF-8 -/

def utf8Point (point : CodePoint) : List Byte :=
  let n := point.val
  if n < 0x80 then [byte n]
  else if n < 0x800 then [byte (0xC0 + n / 64), byte (0x80 + n % 64)]
  else if n < 0x10000 then
    [byte (0xE0 + n / 4096), byte (0x80 + n / 64 % 64), byte (0x80 + n % 64)]
  else
    [byte (0xF0 + n / 262144), byte (0x80 + n / 4096 % 64), byte (0x80 + n / 64 % 64),
      byte (0x80 + n % 64)]

/-- The bytes of every code point, surrogates too. -/
def utf8 (text : Text) : List Byte := text.flatMap utf8Point

/-- `text.encode("utf-8")`, absent where it raises. -/
def encodeUtf8 (text : Text) : Option (List Byte) :=
  if Encodable text then some (utf8 text) else none

def isContinuation (b : Byte) : Bool := 0x80 ≤ b.val && b.val < 0xC0

/-- A code point that is at least `least`, which rules out overlong forms. -/
def point (least n : Nat) : Option CodePoint :=
  if h : least ≤ n ∧ n < 0x110000 then some ⟨n, h.2⟩ else none

/-- `bytes.decode("utf-8", "surrogatepass")`, absent where it raises. -/
def decodeUtf8 : List Byte → Option Text
  | [] => some []
  | a :: rest =>
    if a.val < 0x80 then do return (← point 0 a.val) :: (← decodeUtf8 rest)
    else if a.val < 0xC0 then none
    else if a.val < 0xE0 then
      match rest with
      | b :: rest =>
        if isContinuation b then do
          return (← point 0x80 (a.val % 32 * 64 + b.val % 64)) :: (← decodeUtf8 rest)
        else none
      | [] => none
    else if a.val < 0xF0 then
      match rest with
      | b :: c :: rest =>
        if isContinuation b && isContinuation c then do
          return (← point 0x800 (a.val % 16 * 4096 + b.val % 64 * 64 + c.val % 64)) :: (← decodeUtf8 rest)
        else none
      | _ => none
    else if a.val < 0xF8 then
      match rest with
      | b :: c :: d :: rest =>
        if isContinuation b && isContinuation c && isContinuation d then do
          return (← point 0x10000 (a.val % 8 * 262144 + b.val % 64 * 4096 + c.val % 64 * 64 + d.val % 64)) ::
            (← decodeUtf8 rest)
        else none
      | _ => none
    else none

theorem point_eq {least n : Nat} {p : CodePoint} (hLeast : least ≤ p.val) (hValue : n = p.val) :
    point least n = some p := by
  subst hValue
  rw [point, dif_pos ⟨hLeast, p.isLt⟩]

theorem isContinuation_byte {n : Nat} (h : n < 64) : isContinuation (byte (0x80 + n)) = true := by
  have hVal : (byte (0x80 + n)).val = 0x80 + n := by rw [val_byte]; omega
  rw [isContinuation, hVal, Bool.and_eq_true, decide_eq_true_eq, decide_eq_true_eq]
  omega

theorem decodeUtf8_point (p : CodePoint) (rest : List Byte) :
    decodeUtf8 (utf8Point p ++ rest) = (decodeUtf8 rest).map fun text => p :: text := by
  have hLt := p.isLt
  unfold utf8Point
  dsimp only
  split_ifs with hOne hTwo hThree
  · have hPoint : point 0 (byte p.val).val = some p :=
      point_eq (Nat.zero_le _) (by rw [val_byte]; omega)
    have hA : (byte p.val).val < 0x80 := by rw [val_byte]; omega
    rw [List.singleton_append, decodeUtf8.eq_def]
    dsimp only
    rw [if_pos hA, hPoint]
    cases decodeUtf8 rest <;> rfl
  · have hA : (byte (0xC0 + p.val / 64)).val = 0xC0 + p.val / 64 := by rw [val_byte]; omega
    have hB : (byte (0x80 + p.val % 64)).val = 0x80 + p.val % 64 := by rw [val_byte]; omega
    have hPoint : point 0x80 ((byte (0xC0 + p.val / 64)).val % 32 * 64 + (byte (0x80 + p.val % 64)).val % 64) =
        some p := point_eq (by omega) (by rw [hA, hB]; omega)
    rw [List.cons_append, List.singleton_append, decodeUtf8.eq_def]
    dsimp only
    rw [if_neg (by omega), if_neg (by omega),
      if_pos (by omega)]
    simp only [isContinuation_byte (Nat.mod_lt p.val (by decide : 0 < 64)), if_true, hPoint]
    cases decodeUtf8 rest <;> rfl
  · have hA : (byte (0xE0 + p.val / 4096)).val = 0xE0 + p.val / 4096 := by rw [val_byte]; omega
    have hB : (byte (0x80 + p.val / 64 % 64)).val = 0x80 + p.val / 64 % 64 := by rw [val_byte]; omega
    have hC : (byte (0x80 + p.val % 64)).val = 0x80 + p.val % 64 := by rw [val_byte]; omega
    have hPoint : point 0x800 ((byte (0xE0 + p.val / 4096)).val % 16 * 4096 +
        (byte (0x80 + p.val / 64 % 64)).val % 64 * 64 + (byte (0x80 + p.val % 64)).val % 64) = some p :=
      point_eq (by omega) (by rw [hA, hB, hC]; omega)
    rw [List.cons_append, List.cons_append, List.singleton_append, decodeUtf8.eq_def]
    dsimp only
    rw [if_neg (by omega),
      if_neg (by omega), if_neg (by omega), if_pos (by omega)]
    simp only [isContinuation_byte (Nat.mod_lt p.val (by decide : 0 < 64)),
      isContinuation_byte (Nat.mod_lt (p.val / 64) (by decide : 0 < 64)), Bool.and_self, if_true, hPoint]
    cases decodeUtf8 rest <;> rfl
  · have hA : (byte (0xF0 + p.val / 262144)).val = 0xF0 + p.val / 262144 := by rw [val_byte]; omega
    have hB : (byte (0x80 + p.val / 4096 % 64)).val = 0x80 + p.val / 4096 % 64 := by rw [val_byte]; omega
    have hC : (byte (0x80 + p.val / 64 % 64)).val = 0x80 + p.val / 64 % 64 := by rw [val_byte]; omega
    have hD : (byte (0x80 + p.val % 64)).val = 0x80 + p.val % 64 := by rw [val_byte]; omega
    have hPoint : point 0x10000 ((byte (0xF0 + p.val / 262144)).val % 8 * 262144 +
        (byte (0x80 + p.val / 4096 % 64)).val % 64 * 4096 + (byte (0x80 + p.val / 64 % 64)).val % 64 * 64 +
        (byte (0x80 + p.val % 64)).val % 64) = some p :=
      point_eq (by omega) (by rw [hA, hB, hC, hD]; omega)
    rw [List.cons_append, List.cons_append, List.cons_append, List.singleton_append, decodeUtf8.eq_def]
    dsimp only
    rw [if_neg (by omega), if_neg (by omega), if_neg (by omega), if_neg (by omega), if_pos (by omega)]
    simp only [isContinuation_byte (Nat.mod_lt p.val (by decide : 0 < 64)),
      isContinuation_byte (Nat.mod_lt (p.val / 64) (by decide : 0 < 64)),
      isContinuation_byte (Nat.mod_lt (p.val / 4096) (by decide : 0 < 64)), Bool.and_self, if_true, hPoint]
    cases decodeUtf8 rest <;> rfl

theorem decodeUtf8_utf8 (text : Text) : decodeUtf8 (utf8 text) = some text := by
  induction text with
  | nil => rfl
  | cons p rest ih =>
    rw [utf8, List.flatMap_cons, decodeUtf8_point, ← utf8, ih]
    rfl

end Text

end EidolonAdmin.Foundation
