import EidolonAdmin.Foundation.JsonText

/-! # Scanning ends

Every scanner leaves a shorter text than it was given. The loops over the items of an array and the
members of an object are bounded by the length of the text they start from, and no larger bound
makes them read anything else.
-/

namespace EidolonAdmin.Foundation.JsonText

open Text (ofChar ofString)

theorem length_skipSpace_le (text : Text) : (skipSpace text).length ≤ text.length :=
  (List.dropWhile_sublist _).length_le

theorem length_scanString {text : Text} {scanned : Text × Text} (h : scanString text = some scanned) :
    scanned.2.length < text.length := by
  fun_induction scanString text generalizing scanned
  case case2 =>
    cases h
    exact Nat.lt_succ_self _
  all_goals
    first
    | cases h
    | obtain ⟨inner, hInner, rfl⟩ := Option.map_eq_some_iff.mp h
      rename_i ih
      have hLess := ih hInner
      simp only [List.length_cons]
      omega

theorem length_scanKey {text : Text} {scanned : Text × Text} (h : scanKey text = some scanned) :
    scanned.2.length < text.length := by
  cases text with
  | nil => cases h
  | cons point rest =>
    rw [scanKey] at h
    split_ifs at h
    split at h
    · cases h
    · rename_i key left hKey
      have hString := length_scanString hKey
      have hColon := length_skipSpace_le left
      split at h
      · cases h
      · rename_i colon value hValue
        split_ifs at h
        cases h
        have hSpace := length_skipSpace_le value
        rw [hValue] at hColon
        simp only [List.length_cons] at hString hColon ⊢
        omega

/-! ## Numbers and constants -/

theorem length_scanWhole {text : Text} {scanned : Text × Text} (h : scanWhole text = some scanned) :
    scanned.2.length < text.length := by
  cases text with
  | nil => cases h
  | cons point rest =>
    rw [scanWhole] at h
    split_ifs at h
    · cases h
      exact Nat.lt_succ_self _
    · cases h
      exact Nat.lt_succ_of_le (List.dropWhile_sublist _).length_le

theorem length_scanFraction_le (text : Text) : (scanFraction text).2.length ≤ text.length := by
  rcases text with _ | ⟨point, _ | ⟨digit, rest⟩⟩
  · exact Nat.le_refl _
  · exact Nat.le_refl _
  · rw [scanFraction]
    split_ifs
    · have hDigits := (List.dropWhile_sublist (l := rest) isDigit).length_le
      simp only [List.length_cons]
      omega
    · exact Nat.le_refl _

theorem length_scanSign_le (text : Text) : (scanSign text).2.length ≤ text.length := by
  cases text with
  | nil => exact Nat.le_refl _
  | cons point rest =>
    rw [scanSign]
    split_ifs
    · exact Nat.le_succ _
    · exact Nat.le_refl _

theorem length_scanExponent_le (text : Text) : (scanExponent text).2.length ≤ text.length := by
  cases text with
  | nil => exact Nat.le_refl _
  | cons point rest =>
    rw [scanExponent]
    split_ifs
    · have hSign := length_scanSign_le rest
      have hDigits := (List.dropWhile_sublist (l := (scanSign rest).2) isDigit).length_le
      simp only [List.length_cons]
      omega
    · exact Nat.le_refl _

def Shortens (term : Text → Scanned Document) : Prop :=
  ∀ text document rest, term text = .ok (document, rest) → rest.length < text.length

theorem shortens_scanUnsigned (negative : Bool) : Shortens (scanUnsigned negative) := by
  intro text document rest h
  unfold scanUnsigned at h
  cases hWhole : scanWhole text with
  | none =>
    rw [hWhole] at h
    cases h
  | some scanned =>
    have hLeft : (scanExponent (scanFraction scanned.2).2).2 = rest := by
      rw [hWhole] at h
      dsimp only at h
      split_ifs at h
      all_goals exact (Prod.mk.inj (Except.ok.inj h)).2
    have hLess := length_scanWhole hWhole
    have hFraction := length_scanFraction_le scanned.2
    have hExponent := length_scanExponent_le (scanFraction scanned.2).2
    rw [hLeft] at hExponent
    omega

theorem shortens_scanNumber : Shortens scanNumber := by
  intro text document rest h
  cases text with
  | nil => cases h
  | cons point text =>
    rw [scanNumber] at h
    split_ifs at h
    · exact (shortens_scanUnsigned true _ _ _ h).trans (Nat.lt_succ_self _)
    · exact shortens_scanUnsigned false _ _ _ h

theorem shortens_scanScalar : Shortens scanScalar := by
  have hNames : ∀ constant ∈ constants, 0 < (ofString constant.1).length := by decide
  intro text document rest h
  rw [scanScalar] at h
  split at h
  · rename_i scanned hFound
    obtain ⟨constant, hConstant, hScanned⟩ := List.exists_of_findSome?_eq_some hFound
    cases h
    obtain ⟨left, hLeft, hEq⟩ := Option.map_eq_some_iff.mp hScanned
    cases hEq
    rw [← List.isPrefixOf?_eq_some_iff_append_eq.mp hLeft, List.length_append]
    exact Nat.lt_add_of_pos_left (hNames constant hConstant)
  · exact shortens_scanNumber _ _ _ h

/-! ## Containers -/

section Containers

variable {term : Text → Scanned Document} (hTerm : Shortens term)

include hTerm

theorem length_scanItems {fuel : Nat} {text rest : Text} {items : List Document}
    (h : scanItems term fuel text = .ok (items, rest)) : rest.length < text.length := by
  induction fuel generalizing text items with
  | zero => cases h
  | succ fuel ih =>
    rw [scanItems] at h
    split at h
    · cases h
    · rename_i item left hItem
      have hLess := hTerm _ _ _ hItem
      have hSpace := length_skipSpace_le left
      split at h
      · cases h
      · rename_i point after hAfter
        rw [hAfter, List.length_cons] at hSpace
        split_ifs at h
        · cases h
          omega
        · cases hInner : scanItems term fuel (skipSpace after) with
          | error error =>
            rw [hInner] at h
            cases h
          | ok scanned =>
            rw [hInner] at h
            cases h
            have hRest := ih hInner
            have hSkip := length_skipSpace_le after
            omega

theorem scanItems_fuel {fuel fuel' : Nat} {text : Text} (h : text.length < fuel) (h' : text.length < fuel') :
    scanItems term fuel text = scanItems term fuel' text := by
  induction fuel generalizing fuel' text with
  | zero => exact absurd h (Nat.not_lt_zero _)
  | succ fuel ih =>
    obtain ⟨fuel', rfl⟩ : ∃ n, fuel' = n + 1 := ⟨fuel' - 1, by omega⟩
    rw [scanItems, scanItems]
    cases hItem : term text with
    | error error => rfl
    | ok scanned =>
      have hLess := hTerm _ _ _ hItem
      have hSpace := length_skipSpace_le scanned.2
      dsimp only
      cases hAfter : skipSpace scanned.2 with
      | nil => rfl
      | cons point after =>
        have hSkip := length_skipSpace_le after
        rw [hAfter, List.length_cons] at hSpace
        dsimp only
        rw [@ih fuel' (skipSpace after) (by omega) (by omega)]

theorem length_scanMembers {fuel : Nat} {text rest : Text} {before members : List (Text × Document)}
    (h : scanMembers term fuel before text = .ok (members, rest)) : rest.length < text.length := by
  induction fuel generalizing text before with
  | zero => cases h
  | succ fuel ih =>
    rw [scanMembers] at h
    split at h
    · cases h
    · rename_i key value hKey
      have hColon := length_scanKey hKey
      split at h
      · cases h
      · rename_i document left hValue
        have hLess := hTerm _ _ _ hValue
        have hSpace := length_skipSpace_le left
        split at h
        · cases h
        · rename_i point after hAfter
          rw [hAfter, List.length_cons] at hSpace
          dsimp only at hColon
          split_ifs at h
          · cases h
            omega
          · have hRest := ih h
            have hSkip := length_skipSpace_le after
            omega

theorem scanMembers_fuel {fuel fuel' : Nat} {text : Text} (before : List (Text × Document))
    (h : text.length < fuel) (h' : text.length < fuel') :
    scanMembers term fuel before text = scanMembers term fuel' before text := by
  induction fuel generalizing fuel' text before with
  | zero => exact absurd h (Nat.not_lt_zero _)
  | succ fuel ih =>
    obtain ⟨fuel', rfl⟩ : ∃ n, fuel' = n + 1 := ⟨fuel' - 1, by omega⟩
    rw [scanMembers, scanMembers]
    cases hKey : scanKey text with
    | none => rfl
    | some keyed =>
      have hColon := length_scanKey hKey
      dsimp only
      cases hValue : term keyed.2 with
      | error error => rfl
      | ok scanned =>
        have hLess := hTerm _ _ _ hValue
        have hSpace := length_skipSpace_le scanned.2
        dsimp only
        cases hAfter : skipSpace scanned.2 with
        | nil => rfl
        | cons point after =>
          have hSkip := length_skipSpace_le after
          rw [hAfter, List.length_cons] at hSpace
          dsimp only
          rw [@ih fuel' (skipSpace after) _ (by omega) (by omega)]

theorem shortens_scanArray : Shortens (scanArray term) := by
  intro text document rest h
  have hSpace := length_skipSpace_le text
  rw [scanArray] at h
  split at h
  · cases h
  · rename_i point after hText
    rw [hText, List.length_cons] at hSpace
    split_ifs at h
    · cases h
      omega
    · cases hItems : scanItems term (text.length + 1) (point :: after) with
      | error error =>
        rw [hItems] at h
        cases h
      | ok scanned =>
        rw [hItems] at h
        cases h
        have hRest := length_scanItems hTerm hItems
        rw [List.length_cons] at hRest
        omega

theorem shortens_scanObject : Shortens (scanObject term) := by
  intro text document rest h
  have hSpace := length_skipSpace_le text
  rw [scanObject] at h
  split at h
  · cases h
  · rename_i point after hText
    rw [hText, List.length_cons] at hSpace
    split_ifs at h
    · cases h
      omega
    · cases hMembers : scanMembers term (text.length + 1) [] (point :: after) with
      | error error =>
        rw [hMembers] at h
        cases h
      | ok scanned =>
        rw [hMembers] at h
        cases h
        have hRest := length_scanMembers hTerm hMembers
        rw [List.length_cons] at hRest
        omega

end Containers

theorem shortens_scanTerm {array object : Text → Scanned Document} (hArray : Shortens array)
    (hObject : Shortens object) : Shortens (scanTerm array object) := by
  intro text document rest h
  cases text with
  | nil => cases h
  | cons point text =>
    rw [scanTerm] at h
    split_ifs at h
    · split at h
      · cases h
      · rename_i string left hString
        cases h
        exact (length_scanString hString).trans (Nat.lt_succ_self _)
    · exact (hObject _ _ _ h).trans (Nat.lt_succ_self _)
    · exact (hArray _ _ _ h).trans (Nat.lt_succ_self _)
    · exact shortens_scanScalar _ _ _ h

theorem shortens_scanOnce (room : Nat) : Shortens (scanOnce room) := by
  induction room with
  | zero =>
    rw [scanOnce]
    exact shortens_scanTerm (fun _ _ _ h => nomatch h) (fun _ _ _ h => nomatch h)
  | succ room ih => exact shortens_scanTerm (shortens_scanArray ih) (shortens_scanObject ih)

/-- The bound on the items of an array is never what ends them. -/
theorem scanArray_unbounded (room : Nat) {text : Text} {fuel : Nat} (h : text.length < fuel) :
    scanArray (scanOnce room) text =
      match skipSpace text with
      | [] => .error .jsonDecode
      | point :: rest =>
        if point = ofChar ']' then .ok (.arr [], rest)
        else (scanItems (scanOnce room) fuel (point :: rest)).map fun scanned => (.arr scanned.1, scanned.2) := by
  have hSpace := length_skipSpace_le text
  rw [scanArray]
  cases hText : skipSpace text with
  | nil => rfl
  | cons point rest =>
    rw [hText] at hSpace
    dsimp only
    rw [scanItems_fuel (shortens_scanOnce room) (Nat.lt_succ_of_le hSpace) (hSpace.trans_lt h)]

theorem scanObject_unbounded (room : Nat) {text : Text} {fuel : Nat} (h : text.length < fuel) :
    scanObject (scanOnce room) text =
      match skipSpace text with
      | [] => .error .jsonDecode
      | point :: rest =>
        if point = ofChar '}' then .ok (.obj [], rest)
        else
          (scanMembers (scanOnce room) fuel [] (point :: rest)).map fun scanned => (.obj scanned.1, scanned.2) := by
  have hSpace := length_skipSpace_le text
  rw [scanObject]
  cases hText : skipSpace text with
  | nil => rfl
  | cons point rest =>
    rw [hText] at hSpace
    dsimp only
    rw [scanMembers_fuel (shortens_scanOnce room) [] (Nat.lt_succ_of_le hSpace) (hSpace.trans_lt h)]

end EidolonAdmin.Foundation.JsonText
