import Mathlib.Data.List.TakeWhile
import EidolonAdmin.Foundation.JsonText

/-! # Reading printed scalars back

Strings, integers of a readable length and the constants are read back from what they print,
whatever stands behind them that does not go on with them.
-/

namespace EidolonAdmin.Foundation.JsonText

open Text (ofChar ofString)

/-! ## Strings -/

theorem unescape_shortEscape {point letter : CodePoint} (h : shortEscape point = some letter) :
    unescape letter = some point ∧ letter ≠ ofChar 'u' := by
  have hPoint : ∀ n, point.val = n → Fin.ofNat 0x110000 n = point := by
    rintro n rfl
    exact Fin.ofNat_val_eq_self point
  unfold shortEscape at h
  split_ifs at h with h8 h9 h10 h12 h13
  all_goals
    obtain rfl := Option.some.inj h
    refine ⟨?_, by decide⟩
  · rw [← hPoint 8 h8]
    decide
  · rw [← hPoint 9 h9]
    decide
  · rw [← hPoint 10 h10]
    decide
  · rw [← hPoint 12 h12]
    decide
  · rw [← hPoint 13 h13]
    decide

theorem hex4_hexPoint {n : Nat} (h : n < 0x20) :
    hex4 (digitPoint 0) (digitPoint 0) (hexPoint (n / 16)) (hexPoint (n % 16)) = some n := by
  have hAll : ∀ n : Fin 0x20,
      hex4 (digitPoint 0) (digitPoint 0) (hexPoint (n.val / 16)) (hexPoint (n.val % 16)) = some n.val := by
    decide
  exact hAll ⟨n, h⟩

theorem scanString_escaped (point : CodePoint) (text : Text) :
    scanString (escaped point ++ text) =
      (scanString text).map fun scanned => (point :: scanned.1, scanned.2) := by
  have hBackslash : backslash ≠ quote := by decide
  have hControl : ¬ backslash.val < 0x20 := by decide
  rw [escaped]
  by_cases hQuoted : point = quote ∨ point = backslash
  · have hUnescape : unescape point = some point := by
      rcases hQuoted with rfl | rfl
      · decide
      · decide
    have hLetter : point ≠ ofChar 'u' := by
      rcases hQuoted with rfl | rfl
      · decide
      · decide
    rw [if_pos hQuoted]
    simp only [List.cons_append, List.nil_append]
    rw [scanString.eq_def]
    simp only [if_neg hBackslash, if_neg hControl, if_true, if_neg hLetter, hUnescape]
  · rw [if_neg hQuoted]
    split
    · rename_i letter hLetter
      obtain ⟨hUnescape, hLetter⟩ := unescape_shortEscape hLetter
      simp only [List.cons_append, List.nil_append]
      rw [scanString.eq_def]
      simp only [if_neg hBackslash, if_neg hControl, if_true, if_neg hLetter, hUnescape]
    · by_cases hVal : point.val < 0x20
      · rw [if_pos hVal]
        have hLow : ¬ (0xD800 ≤ point.val ∧ point.val < 0xDC00) := by omega
        simp only [List.cons_append, List.nil_append]
        rw [scanString.eq_def]
        simp only [if_neg hBackslash, if_neg hControl, if_true, hex4_hexPoint hVal, if_neg hLow,
          Fin.ofNat_val_eq_self]
      · rw [if_neg hVal]
        push Not at hQuoted
        simp only [List.cons_append, List.nil_append]
        rw [scanString.eq_def]
        simp only [if_neg hQuoted.1, if_neg hVal, if_neg hQuoted.2]

theorem scanString_print (text rest : Text) :
    scanString (text.flatMap escaped ++ quote :: rest) = some (text, rest) := by
  induction text with
  | nil =>
    rw [List.flatMap_nil, List.nil_append, scanString.eq_def]
    simp only [if_true]
  | cons point text ih =>
    rw [List.flatMap_cons, List.append_assoc, scanString_escaped, ih]
    rfl

/-! ## Numbers -/

/-- What may stand after a number: nothing that goes on with it. -/
def Delimited (rest : Text) : Prop :=
  ∀ point ∈ rest.head?, isDigit point = false ∧ point ≠ ofChar '.' ∧ point ≠ ofChar 'e' ∧ point ≠ ofChar 'E'

theorem delimited_cons {point : CodePoint} {rest : Text}
    (h : point = ofChar ',' ∨ point = ofChar ']' ∨ point = ofChar '}') : Delimited (point :: rest) := by
  intro head hHead
  obtain rfl := Option.mem_some.mp hHead
  rcases h with rfl | rfl | rfl <;> decide

theorem delimited_nil : Delimited [] := by
  intro head hHead
  cases hHead

section Append

variable {rest : Text} (hRest : Delimited rest)

include hRest

theorem digits_append (text : Text) :
    (text ++ rest).takeWhile isDigit = text.takeWhile isDigit ∧
      (text ++ rest).dropWhile isDigit = text.dropWhile isDigit ++ rest := by
  induction text with
  | nil =>
    cases rest with
    | nil => exact ⟨rfl, rfl⟩
    | cons point rest =>
      have hPoint := (hRest point rfl).1
      exact ⟨List.takeWhile_cons_of_neg (by simp [hPoint]), List.dropWhile_cons_of_neg (by simp [hPoint])⟩
  | cons point text ih =>
    rw [List.cons_append, List.takeWhile_cons, List.takeWhile_cons, List.dropWhile_cons, List.dropWhile_cons,
      ih.1, ih.2]
    cases isDigit point <;> exact ⟨rfl, rfl⟩

theorem scanWhole_append {text whole left : Text} (h : scanWhole text = some (whole, left)) :
    scanWhole (text ++ rest) = some (whole, left ++ rest) := by
  cases text with
  | nil => cases h
  | cons point text =>
    rw [List.cons_append, scanWhole, (digits_append hRest text).1, (digits_append hRest text).2]
    rw [scanWhole] at h
    split_ifs at h ⊢ with hZero hDigit
    · cases h
      rfl
    · cases h
      rfl

theorem scanFraction_append (text : Text) :
    scanFraction (text ++ rest) = ((scanFraction text).1, (scanFraction text).2 ++ rest) := by
  rcases text with _ | ⟨point, _ | ⟨digit, text⟩⟩
  · rcases rest with _ | ⟨point, _ | ⟨digit, rest⟩⟩
    · rfl
    · rfl
    · have hDot := (hRest point rfl).2.1
      simp [scanFraction, hDot]
  · cases rest with
    | nil => rfl
    | cons digit rest =>
      have hDigit := (hRest digit rfl).1
      simp [scanFraction, hDigit]
  · simp only [List.cons_append, scanFraction, digits_append hRest text]
    split <;> rfl

theorem scanExponent_append {text : Text} (h : (scanExponent text).2 = []) :
    scanExponent (text ++ rest) = ((scanExponent text).1, rest) := by
  rcases text with _ | ⟨point, _ | ⟨sign, text⟩⟩
  · cases rest with
    | nil => rfl
    | cons point rest =>
      obtain ⟨-, -, hLower, hUpper⟩ := hRest point rfl
      simp [scanExponent, hLower, hUpper]
  · simp [scanExponent, scanSign] at h
  · have hSign : scanSign (sign :: text ++ rest) =
        ((scanSign (sign :: text)).1, (scanSign (sign :: text)).2 ++ rest) := by
      rw [List.cons_append, scanSign, scanSign]
      split_ifs <;> rfl
    rw [List.cons_append, scanExponent, hSign]
    rw [scanExponent] at h ⊢
    dsimp only at h ⊢
    rw [(digits_append hRest _).1, (digits_append hRest _).2]
    split_ifs at h ⊢ with hExponent
    have hLeft : (scanSign (sign :: text)).2.dropWhile isDigit = [] := h
    rw [hLeft]
    rfl

theorem scanUnsigned_append {negative : Bool} {text : Text} {document : Document}
    (h : scanUnsigned negative text = .ok (document, [])) :
    scanUnsigned negative (text ++ rest) = .ok (document, rest) := by
  unfold scanUnsigned at h
  cases hWhole : scanWhole text with
  | none =>
    rw [hWhole] at h
    cases h
  | some scanned =>
    obtain ⟨whole, left⟩ := scanned
    rw [hWhole] at h
    dsimp only at h
    have hLeft : (scanExponent (scanFraction left).2).2 = [] := by
      split_ifs at h
      all_goals exact (Prod.mk.inj (Except.ok.inj h)).2
    rw [scanUnsigned, scanWhole_append hRest hWhole]
    dsimp only
    rw [scanFraction_append hRest, scanExponent_append hRest hLeft]
    dsimp only
    split_ifs at h ⊢
    all_goals rw [(Prod.mk.inj (Except.ok.inj h)).1.symm]

theorem scanNumber_append {text : Text} {document : Document} (h : scanNumber text = .ok (document, [])) :
    scanNumber (text ++ rest) = .ok (document, rest) := by
  cases text with
  | nil => cases h
  | cons point text =>
    rw [List.cons_append, scanNumber]
    rw [scanNumber] at h
    split_ifs at h ⊢
    · exact scanUnsigned_append hRest h
    · exact scanUnsigned_append hRest h

end Append

/-! ## Integers -/

theorem isDigit_digitPoint {n : Nat} (h : n < 10) : isDigit (digitPoint n) = true := by
  have hAll : ∀ n : Fin 10, isDigit (digitPoint n.val) = true := by decide
  exact hAll ⟨n, h⟩

theorem val_digitPoint {n : Nat} (h : n < 10) : (digitPoint n).val - 48 = n := by
  have hAll : ∀ n : Fin 10, (digitPoint n.val).val - 48 = n.val := by decide
  exact hAll ⟨n, h⟩

theorem digitPoint_eq_zero_iff {n : Nat} (h : n < 10) : digitPoint n = digitPoint 0 ↔ n = 0 := by
  have hAll : ∀ n : Fin 10, digitPoint n.val = digitPoint 0 ↔ n.val = 0 := by decide
  exact hAll ⟨n, h⟩

theorem natOf_printNat (n : Nat) : natOf (printNat n) = n := by
  unfold natOf printNat
  split_ifs with hZero
  · subst hZero
    rfl
  · have hDigits : ((Nat.digits 10 n).reverse.map digitPoint).map (fun point => point.val - 48) =
        (Nat.digits 10 n).reverse := by
      rw [List.map_map]
      conv_rhs => rw [← List.map_id (Nat.digits 10 n).reverse]
      apply List.map_congr_left
      intro digit hDigit
      exact val_digitPoint (Nat.digits_lt_base (by decide) (List.mem_reverse.mp hDigit))
    rw [hDigits, List.reverse_reverse, Nat.ofDigits_digits]

theorem printNat_eq_cons (n : Nat) : ∃ digit rest, printNat n = digit :: rest ∧ isDigit digit = true := by
  unfold printNat
  split_ifs with hZero
  · exact ⟨_, _, rfl, by decide⟩
  · cases hDigits : (Nat.digits 10 n).reverse with
    | nil => exact absurd (List.reverse_eq_nil_iff.mp hDigits) (Nat.digits_ne_nil_iff_ne_zero.mpr hZero)
    | cons digit rest =>
      refine ⟨_, _, rfl, isDigit_digitPoint (Nat.digits_lt_base (m := n) (by decide) ?_)⟩
      rw [← List.mem_reverse, hDigits]
      exact List.mem_cons_self

theorem scanWhole_printNat (n : Nat) : scanWhole (printNat n) = some (printNat n, []) := by
  unfold printNat
  split_ifs with hZero
  · rw [scanWhole, if_pos rfl]
  · have hAll : ∀ digit ∈ (Nat.digits 10 n).reverse, digit < 10 := fun digit hDigit =>
      Nat.digits_lt_base (by decide) (List.mem_reverse.mp hDigit)
    have hLast := Nat.getLast_digit_ne_zero 10 hZero
    cases hDigits : (Nat.digits 10 n).reverse with
    | nil => exact absurd (List.reverse_eq_nil_iff.mp hDigits) (Nat.digits_ne_nil_iff_ne_zero.mpr hZero)
    | cons digit rest =>
      rw [hDigits] at hAll
      have hHead : digit ≠ 0 := by
        have hFirst := List.head?_reverse (l := Nat.digits 10 n)
        rw [hDigits, List.getLast?_eq_some_getLast (Nat.digits_ne_nil_iff_ne_zero.mpr hZero)] at hFirst
        rwa [Option.some.inj hFirst]
      have hRest : ∀ point ∈ rest.map digitPoint, isDigit point = true := by
        intro point hPoint
        obtain ⟨digit, hDigit, rfl⟩ := List.mem_map.mp hPoint
        exact isDigit_digitPoint (hAll digit (List.mem_cons_of_mem _ hDigit))
      have hDigit := hAll digit List.mem_cons_self
      rw [List.map_cons, scanWhole, if_neg (mt (digitPoint_eq_zero_iff hDigit).mp hHead),
        if_pos (isDigit_digitPoint hDigit), List.takeWhile_eq_self_iff.mpr hRest,
        List.dropWhile_eq_nil_iff.mpr hRest]

theorem length_printNat_le_iff (n : Nat) : (printNat n).length ≤ intDigitLimit ↔ n < 10 ^ intDigitLimit := by
  unfold printNat
  split_ifs with hZero
  · subst hZero
    exact iff_of_true (by decide) (Nat.pow_pos (by decide))
  · rw [List.length_map, List.length_reverse, Nat.digits_length_le_iff (by decide)]

theorem scanUnsigned_printNat {n : Nat} (h : n < 10 ^ intDigitLimit) (negative : Bool) :
    scanUnsigned negative (printNat n) = .ok (.int (if negative then - (n : Int) else n), []) := by
  have hLength := (length_printNat_le_iff n).mpr h
  rw [scanUnsigned, scanWhole_printNat]
  dsimp only
  rw [scanFraction.eq_def, scanExponent.eq_def]
  dsimp only
  rw [if_pos ⟨rfl, rfl⟩, if_neg (Nat.not_lt.mpr hLength), natOf_printNat]

theorem scanNumber_printInt {n : Int} (h : n.natAbs < 10 ^ intDigitLimit) :
    scanNumber (printInt n) = .ok (.int n, []) := by
  cases n with
  | ofNat n =>
    obtain ⟨digit, rest, hPrinted, hDigit⟩ := printNat_eq_cons n
    have hSign : digit ≠ ofChar '-' := by
      rintro rfl
      cases hDigit
    rw [printInt, hPrinted, scanNumber, if_neg hSign, ← hPrinted, scanUnsigned_printNat (n := n) h]
    rfl
  | negSucc n =>
    rw [printInt, scanNumber, if_pos rfl, scanUnsigned_printNat (n := n + 1) h]
    rfl

/-! ## Terms -/

def StartsNumber : Text → Prop
  | [] => False
  | point :: rest =>
    isDigit point = true ∨ (point = ofChar '-' ∧ ∃ digit ∈ rest.head?, isDigit digit = true)

theorem isDigit_of_scanWhole {text : Text} {scanned : Text × Text} (h : scanWhole text = some scanned) :
    ∃ digit ∈ text.head?, isDigit digit = true := by
  cases text with
  | nil => cases h
  | cons point rest =>
    refine ⟨point, rfl, ?_⟩
    rw [scanWhole] at h
    split_ifs at h with hZero hDigit
    · subst hZero
      decide
    · exact hDigit

theorem startsNumber_of_scanNumber {text : Text} {scanned : Document × Text}
    (h : scanNumber text = .ok scanned) : StartsNumber text := by
  cases text with
  | nil => cases h
  | cons point rest =>
    have hWhole : ∀ negative text, scanUnsigned negative text = .ok scanned →
        ∃ digit ∈ text.head?, isDigit digit = true := by
      intro negative text hScanned
      unfold scanUnsigned at hScanned
      cases hWhole : scanWhole text with
      | none =>
        rw [hWhole] at hScanned
        cases hScanned
      | some whole => exact isDigit_of_scanWhole hWhole
    rw [scanNumber] at h
    split_ifs at h with hSign
    · exact .inr ⟨hSign, hWhole true rest h⟩
    · obtain ⟨digit, hHead, hDigit⟩ := hWhole false (point :: rest) h
      obtain rfl := Option.mem_some.mp hHead
      exact .inl hDigit

theorem startsNumber_append {text : Text} (h : StartsNumber text) (rest : Text) : StartsNumber (text ++ rest) := by
  rcases text with _ | ⟨point, _ | ⟨next, text⟩⟩
  · exact h.elim
  · rcases h with hDigit | ⟨-, digit, hHead, -⟩
    · exact .inl hDigit
    · cases hHead
  · exact h

theorem scanConstant_append (name : String) (value : Document) (rest : Text) :
    scanConstant name value (ofString name ++ rest) = some (value, rest) := by
  rw [scanConstant, List.isPrefixOf?_eq_some_iff_append_eq.mpr rfl]
  rfl

theorem scanConstant_eq_none {name : String} {value : Document} {text : Text}
    (h : ¬ ofString name <+: text) : scanConstant name value text = none := by
  unfold scanConstant
  cases hPrefix : (ofString name).isPrefixOf? text with
  | none => rfl
  | some rest => exact absurd ⟨rest, List.isPrefixOf?_eq_some_iff_append_eq.mp hPrefix⟩ h

theorem scanConstant_append_of_head (name other : String) (value : Document) (rest : Text)
    (hEmpty : ofString name ≠ [] ∧ ofString other ≠ [])
    (hHead : (ofString name).head? ≠ (ofString other).head?) :
    scanConstant name value (ofString other ++ rest) = none := by
  apply scanConstant_eq_none
  rintro ⟨left, hLeft⟩
  have hHeads := congrArg List.head? hLeft
  rw [List.head?_append_of_ne_nil _ hEmpty.1, List.head?_append_of_ne_nil _ hEmpty.2] at hHeads
  exact hHead hHeads

theorem not_constant_of_startsNumber {text : Text} (h : StartsNumber text) :
    ∀ constant ∈ constants, ¬ ofString constant.1 <+: text := by
  have hConstants : ∀ constant ∈ constants, 2 ≤ (ofString constant.1).length ∧
      ((ofString constant.1).take 2).all (fun point => !isDigit point) = true := by
    decide
  intro constant hConstant hPrefix
  obtain ⟨hLength, hDigits⟩ := hConstants constant hConstant
  obtain ⟨rest, rfl⟩ := hPrefix
  match hName : ofString constant.1 with
  | [] => simp [hName] at hLength
  | [_] => simp [hName] at hLength
  | first :: second :: _ =>
    rw [hName] at h hDigits
    have hNone : isDigit first = false ∧ isDigit second = false := by simpa using hDigits
    rcases h with hDigit | ⟨-, digit, hHead, hDigit⟩
    · exact absurd hDigit (by simp [hNone.1])
    · obtain rfl := Option.mem_some.mp hHead
      exact absurd hDigit (by simp [hNone.2])

theorem scanScalar_number {text : Text} (h : StartsNumber text) : scanScalar text = scanNumber text := by
  have hNone : (constants.findSome? fun constant => scanConstant constant.1 constant.2 text) = none := by
    rw [List.findSome?_eq_none_iff]
    intro constant hConstant
    exact scanConstant_eq_none (not_constant_of_startsNumber h constant hConstant)
  rw [scanScalar, hNone]

section Term

variable (array object : Text → Scanned Document)

theorem scanTerm_scalar {point : CodePoint} {rest : Text}
    (h : point ≠ quote ∧ point ≠ ofChar '{' ∧ point ≠ ofChar '[') :
    scanTerm array object (point :: rest) = scanScalar (point :: rest) := by
  rw [scanTerm, if_neg h.1, if_neg h.2.1, if_neg h.2.2]

theorem scanTerm_of_startsNumber {text : Text} (h : StartsNumber text) :
    scanTerm array object text = scanNumber text := by
  cases text with
  | nil => exact h.elim
  | cons point rest =>
    have hPoint : point ≠ quote ∧ point ≠ ofChar '\x7b' ∧ point ≠ ofChar '[' := by
      rcases h with hDigit | ⟨rfl, -⟩
      · refine ⟨?_, ?_, ?_⟩ <;>
        · rintro rfl
          exact absurd hDigit (by decide)
      · decide
    rw [scanTerm_scalar array object hPoint, scanScalar_number h]

theorem scanTerm_number {text rest : Text} {document : Document} (hRest : Delimited rest)
    (h : scanNumber text = .ok (document, [])) :
    scanTerm array object (text ++ rest) = .ok (document, rest) := by
  have hStarts := startsNumber_append (startsNumber_of_scanNumber h) rest
  rw [scanTerm_of_startsNumber array object hStarts, scanNumber_append hRest h]

theorem scanTerm_string (text rest : Text) :
    scanTerm array object (printString text ++ rest) = .ok (.str text, rest) := by
  rw [printString, List.cons_append, List.cons_append, List.append_assoc, List.singleton_append, scanTerm,
    if_pos rfl, scanString_print]

theorem scanTerm_null (rest : Text) : scanTerm array object (ofString "null" ++ rest) = .ok (.null, rest) := by
  have hName : ofString "null" = ofChar 'n' :: ofString "ull" := by decide
  rw [hName, List.cons_append, scanTerm_scalar array object (by decide), ← List.cons_append, ← hName]
  simp [scanScalar, constants, scanConstant_append]

theorem scanTerm_true (rest : Text) :
    scanTerm array object (ofString "true" ++ rest) = .ok (.bool true, rest) := by
  have hName : ofString "true" = ofChar 't' :: ofString "rue" := by decide
  have hNull := scanConstant_append_of_head "null" "true" .null rest (by decide) (by decide)
  rw [hName, List.cons_append, scanTerm_scalar array object (by decide), ← List.cons_append, ← hName]
  simp [scanScalar, constants, scanConstant_append, hNull]

theorem scanTerm_false (rest : Text) :
    scanTerm array object (ofString "false" ++ rest) = .ok (.bool false, rest) := by
  have hName : ofString "false" = ofChar 'f' :: ofString "alse" := by decide
  have hNull := scanConstant_append_of_head "null" "false" .null rest (by decide) (by decide)
  have hTrue :=
    scanConstant_append_of_head "true" "false" (.bool true) rest (by decide) (by decide)
  rw [hName, List.cons_append, scanTerm_scalar array object (by decide), ← List.cons_append, ← hName]
  simp [scanScalar, constants, scanConstant_append, hNull, hTrue]

end Term

end EidolonAdmin.Foundation.JsonText
