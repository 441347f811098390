import EidolonAdmin.Foundation.JsonText

/-! # The bytes a document takes

The size in UTF-8 of what a document prints adds up over its items and members, so that the order
of keys does not matter and a longer array takes no fewer bytes.
-/

namespace EidolonAdmin.Foundation.JsonText

open Text (ofChar ofString)

def textSize (text : Text) : Nat := (Text.utf8 text).length

def size (document : Document) : Nat := textSize (print document)

theorem textSize_append (text rest : Text) : textSize (text ++ rest) = textSize text + textSize rest := by
  rw [textSize, textSize, textSize, Text.utf8, List.flatMap_append, List.length_append]
  rfl

theorem textSize_cons (point : CodePoint) (rest : Text) :
    textSize (point :: rest) = (Text.utf8Point point).length + textSize rest := by
  rw [textSize, Text.utf8, List.flatMap_cons, List.length_append]
  rfl

theorem length_utf8Point_ascii {point : CodePoint} (h : point.val < 0x80) : (Text.utf8Point point).length = 1 := by
  rw [Text.utf8Point, if_pos h]
  rfl

theorem textSize_ascii {text : Text} (h : ∀ point ∈ text, point.val < 0x80) : textSize text = text.length := by
  induction text with
  | nil => rfl
  | cons point rest ih =>
    obtain ⟨hPoint, hRest⟩ := List.forall_mem_cons.mp h
    rw [textSize_cons, length_utf8Point_ascii hPoint, ih hRest, List.length_cons, Nat.add_comm]

theorem textSize_commas (texts : List Text) :
    textSize (commas texts) = (texts.map textSize).sum + (texts.length - 1) := by
  have hComma : (Text.utf8Point (ofChar ',')).length = 1 := rfl
  induction texts with
  | nil => rfl
  | cons text texts ih =>
    cases texts with
    | nil => simp [commas]
    | cons next texts =>
      have hCommas : commas (text :: next :: texts) = text ++ ofChar ',' :: commas (next :: texts) := rfl
      rw [hCommas, textSize_append, textSize_cons, hComma, ih]
      simp only [List.map_cons, List.sum_cons, List.length_cons]
      omega

theorem size_arr (items : List Document) :
    size (.arr items) = 2 + (items.map size).sum + (items.length - 1) := by
  have hBrackets : (Text.utf8Point (ofChar '[')).length = 1 ∧ textSize [ofChar ']'] = 1 := ⟨rfl, rfl⟩
  rw [size, print, List.cons_append, textSize_cons, textSize_append, hBrackets.1, hBrackets.2,
    printItems_eq_map, textSize_commas, List.map_map, List.length_map]
  show _ + (_ + _ + _) = _ + (items.map (textSize ∘ print)).sum + _
  omega

theorem size_arr_mono {items items' : List Document} (h : items <+: items') :
    size (.arr items) ≤ size (.arr items') := by
  obtain ⟨more, rfl⟩ := h
  rw [size_arr, size_arr, List.map_append, List.sum_append, List.length_append]
  omega

theorem size_obj (members : List (Text × Document)) :
    size (.obj members) =
      2 + (members.length - 1) + ((members.map Prod.fst).map fun key => textSize (printString key) + 1).sum +
        (members.map fun member => size member.2).sum := by
  have hBraces : (Text.utf8Point (ofChar '{')).length = 1 ∧ textSize [ofChar '}'] = 1 ∧
      (Text.utf8Point (ofChar ':')).length = 1 := ⟨rfl, rfl, rfl⟩
  have hSum : ((members.map fun member => printString member.1 ++ ofChar ':' :: print member.2).map textSize).sum =
      ((members.map Prod.fst).map fun key => textSize (printString key) + 1).sum +
        (members.map fun member => size member.2).sum := by
    induction members with
    | nil => rfl
    | cons member members ih =>
      simp only [List.map_cons, List.sum_cons, ih, textSize_append, textSize_cons, hBraces.2.2, size]
      omega
  rw [size, print, List.cons_append, textSize_cons, textSize_append, hBraces.1, hBraces.2.1,
    printMembers_eq_map, textSize_commas, hSum, List.length_map]
  omega

theorem size_obj_perm {members members' : List (Text × Document)} (h : members.Perm members') :
    size (.obj members) = size (.obj members') := by
  rw [size_obj, size_obj, h.length_eq, ((h.map Prod.fst).map _).sum_eq, (h.map _).sum_eq]

theorem sortMembers_eq_map (members : List (Text × Document)) :
    sortMembers members = members.map fun member => (member.1, sortKeys member.2) := by
  induction members with
  | nil => rfl
  | cons member members ih => rw [sortMembers, ih, List.map_cons]

def keysSize (keys : List Text) : Nat :=
  2 + (keys.length - 1) + (keys.map fun key => textSize (printString key) + 1).sum

theorem size_sortKeys_obj (members : List (Text × Document)) :
    (size (sortKeys (.obj members)) : Int) =
      keysSize (members.map Prod.fst) + (members.map fun member => (size (sortKeys member.2) : Int)).sum := by
  have hSum : ((members.map fun member => size (sortKeys member.2)).sum : Int) =
      (members.map fun member => (size (sortKeys member.2) : Int)).sum := by
    induction members with
    | nil => rfl
    | cons member members ih =>
      rw [List.map_cons, List.map_cons, List.sum_cons, List.sum_cons, ← ih]
      rfl
  rw [sortKeys, size_obj_perm (List.perm_insertionSort _ _), sortMembers_eq_map, size_obj, ← hSum, List.length_map,
    List.map_map, List.map_map, List.map_map, keysSize, List.length_map, List.map_map]
  rfl

theorem size_set {members : List (Text × Document)} (hUnique : (members.map Prod.fst).Nodup) (key : Text)
    (value : Document) :
    (size (sortKeys (.obj (Dict.set members key value))) : Int) +
        (Dict.get members key).elim 0 (fun old => (size (sortKeys old) : Int)) =
      keysSize ((Dict.set members key value).map Prod.fst) + (members.map fun member => (size (sortKeys member.2) : Int)).sum +
        size (sortKeys value) := by
  have hSum := Dict.sum_set (fun document => (size (sortKeys document) : Int)) hUnique key value
  rw [size_sortKeys_obj]
  omega

theorem size_set_sub {members members' : List (Text × Document)} (hUnique : (members.map Prod.fst).Nodup)
    (hKeys : members'.map Prod.fst = members.map Prod.fst) {key : Text}
    (hGet : Dict.get members' key = Dict.get members key) {value value' : Document}
    (hSize : size (sortKeys value') = size (sortKeys value)) :
    (size (sortKeys (.obj (Dict.set members' key value'))) : Int) - size (sortKeys (.obj members')) =
      size (sortKeys (.obj (Dict.set members key value))) - size (sortKeys (.obj members)) := by
  have hSet := size_set hUnique key value
  have hSet' := size_set (hKeys ▸ hUnique) key value'
  have hAll := size_sortKeys_obj members
  have hAll' := size_sortKeys_obj members'
  have hSame : (Dict.set members' key value').map Prod.fst = (Dict.set members key value).map Prod.fst := by
    rw [Dict.keys_set, Dict.keys_set, hKeys]
  rw [hSame, hGet] at hSet'
  rw [hKeys] at hAll'
  omega

theorem length_printNat_le {n digits : Nat} (hSome : 0 < digits) (h : n < 10 ^ digits) :
    (printNat n).length ≤ digits := by
  unfold printNat
  split_ifs
  · exact hSome
  · rw [List.length_map, List.length_reverse]
    exact (Nat.digits_length_le_iff (by decide) n).mpr h

theorem size_ofNat_le {n digits : Nat} (hSome : 0 < digits) (h : n < 10 ^ digits) :
    size (.int (.ofNat n)) ≤ digits := by
  have hAscii : ∀ point ∈ printNat n, point.val < 0x80 := by
    have hDigit : ∀ digit : Fin 10, (digitPoint digit.val).val < 0x80 := by decide
    unfold printNat
    split_ifs
    · exact List.forall_mem_singleton.mpr (hDigit 0)
    · rw [List.forall_mem_map]
      intro digit hMem
      exact hDigit ⟨digit, Nat.digits_lt_base (by decide) (List.mem_reverse.mp hMem)⟩
  rw [size, print, printInt, textSize_ascii hAscii]
  exact length_printNat_le hSome h

/-! ## Documents without surrogates -/

theorem isSurrogate_digitPoint {n : Nat} (h : n < 10) : Text.isSurrogate (digitPoint n) = false := by
  have hAll : ∀ n : Fin 10, Text.isSurrogate (digitPoint n.val) = false := by decide
  exact hAll ⟨n, h⟩

theorem isSurrogate_hexPoint {n : Nat} (h : n < 16) : Text.isSurrogate (hexPoint n) = false := by
  have hAll : ∀ n : Fin 16, Text.isSurrogate (hexPoint n.val) = false := by decide
  exact hAll ⟨n, h⟩

theorem isSurrogate_shortEscape {point letter : CodePoint} (h : shortEscape point = some letter) :
    Text.isSurrogate letter = false := by
  unfold shortEscape at h
  split_ifs at h
  all_goals
    obtain rfl := Option.some.inj h
    decide

theorem encodable_escaped {point : CodePoint} (h : Text.isSurrogate point = false) :
    Text.Encodable (escaped point) := by
  have hBackslash : Text.isSurrogate backslash = false := by decide
  rw [escaped]
  by_cases hQuoted : point = quote ∨ point = backslash
  · rw [if_pos hQuoted]
    simp [Text.Encodable, h, hBackslash]
  · rw [if_neg hQuoted]
    cases hShort : shortEscape point with
    | some letter => simp [Text.Encodable, isSurrogate_shortEscape hShort, hBackslash]
    | none =>
      dsimp only
      by_cases hControl : point.val < 0x20
      · have hHigh := isSurrogate_hexPoint (n := point.val / 16) (by omega)
        have hLow := isSurrogate_hexPoint (n := point.val % 16) (by omega)
        have hLetter : Text.isSurrogate (ofChar 'u') = false := by decide
        simp [Text.Encodable, hControl, hBackslash, hLetter, isSurrogate_digitPoint, hHigh, hLow]
      · simp [Text.Encodable, hControl, h]

theorem encodable_printString {text : Text} (h : Text.Encodable text) : Text.Encodable (printString text) := by
  have hQuote : Text.Encodable [quote] := by decide
  have hEscaped : Text.Encodable (text.flatMap escaped) := by
    intro point hPoint
    obtain ⟨char, hChar, hPoint⟩ := List.mem_flatMap.mp hPoint
    exact encodable_escaped (h char hChar) point hPoint
  exact Text.encodable_append.mpr ⟨Text.encodable_append.mpr ⟨hQuote, hEscaped⟩, hQuote⟩

theorem encodable_printNat (n : Nat) : Text.Encodable (printNat n) := by
  unfold printNat
  split_ifs
  · decide
  · intro point hPoint
    obtain ⟨digit, hDigit, rfl⟩ := List.mem_map.mp hPoint
    exact isSurrogate_digitPoint (Nat.digits_lt_base (by decide) (List.mem_reverse.mp hDigit))

theorem encodable_commas {texts : List Text} (h : ∀ text ∈ texts, Text.Encodable text) :
    Text.Encodable (commas texts) := by
  induction texts with
  | nil => exact List.forall_mem_nil _
  | cons text texts ih =>
    obtain ⟨hText, hTexts⟩ := List.forall_mem_cons.mp h
    cases texts with
    | nil => exact hText
    | cons next texts =>
      have hComma : Text.Encodable [ofChar ','] := by decide
      exact Text.encodable_append.mpr ⟨hText, Text.encodable_append.mpr ⟨hComma, ih hTexts⟩⟩

theorem encodable_print_arr {items : List Document} (h : ∀ item ∈ items, Text.Encodable (print item)) :
    Text.Encodable (print (.arr items)) := by
  have hOpen : Text.Encodable [ofChar '['] := by decide
  have hClose : Text.Encodable [ofChar ']'] := by decide
  rw [print, printItems_eq_map]
  refine Text.encodable_append.mpr ⟨Text.encodable_append.mpr ⟨hOpen, encodable_commas ?_⟩, hClose⟩
  intro text hText
  obtain ⟨item, hItem, rfl⟩ := List.mem_map.mp hText
  exact h item hItem

theorem encodable_print_obj {members : List (Text × Document)}
    (h : ∀ member ∈ members, Text.Encodable member.1 ∧ Text.Encodable (print member.2)) :
    Text.Encodable (print (.obj members)) := by
  have hOpen : Text.Encodable [ofChar '{'] := by decide
  have hClose : Text.Encodable [ofChar '}'] := by decide
  have hColon : Text.Encodable [ofChar ':'] := by decide
  rw [print, printMembers_eq_map]
  refine Text.encodable_append.mpr ⟨Text.encodable_append.mpr ⟨hOpen, encodable_commas ?_⟩, hClose⟩
  intro text hText
  obtain ⟨member, hMember, rfl⟩ := List.mem_map.mp hText
  obtain ⟨hKey, hValue⟩ := h member hMember
  exact Text.encodable_append.mpr ⟨encodable_printString hKey, Text.encodable_append.mpr ⟨hColon, hValue⟩⟩

mutual

def unicode : Document → Bool
  | .str text => decide (Text.Encodable text)
  | .float literal => decide (Text.Encodable literal)
  | .arr items => unicodeItems items
  | .obj members => unicodeMembers members
  | _ => true

def unicodeItems : List Document → Bool
  | [] => true
  | item :: items => unicode item && unicodeItems items

def unicodeMembers : List (Text × Document) → Bool
  | [] => true
  | (key, value) :: members => decide (Text.Encodable key) && unicode value && unicodeMembers members

end

theorem unicodeItems_iff {items : List Document} : unicodeItems items = true ↔ ∀ item ∈ items, unicode item = true := by
  induction items with
  | nil => simp [unicodeItems]
  | cons item items ih => rw [unicodeItems, Bool.and_eq_true, ih, List.forall_mem_cons]

theorem unicodeMembers_iff {members : List (Text × Document)} :
    unicodeMembers members = true ↔ ∀ member ∈ members, Text.Encodable member.1 ∧ unicode member.2 = true := by
  induction members with
  | nil => simp [unicodeMembers]
  | cons member members ih =>
    rw [unicodeMembers, Bool.and_eq_true, Bool.and_eq_true, decide_eq_true_eq, ih, List.forall_mem_cons]

theorem encodable_print {document : Document} (h : unicode document = true) : Text.Encodable (print document) := by
  induction document using Document.inductionOn with
  | null => exact Text.encodable_ofString _
  | bool value => cases value <;> exact Text.encodable_ofString _
  | int value =>
    cases value with
    | ofNat n => exact encodable_printNat n
    | negSucc n =>
      have hSign : Text.Encodable [ofChar '-'] := by decide
      exact Text.encodable_append.mpr ⟨hSign, encodable_printNat (n + 1)⟩
  | float literal => exact of_decide_eq_true h
  | str text => exact encodable_printString (of_decide_eq_true h)
  | arr items ih =>
    rw [unicode, unicodeItems_iff] at h
    exact encodable_print_arr fun item hItem => ih item hItem (h item hItem)
  | obj members ih =>
    rw [unicode, unicodeMembers_iff] at h
    exact encodable_print_obj fun member hMember => ⟨(h member hMember).1, ih member hMember (h member hMember).2⟩

theorem encodable_print_sortKeys_obj {members : List (Text × Document)}
    (h : ∀ member ∈ members, Text.Encodable member.1 ∧ Text.Encodable (print (sortKeys member.2))) :
    Text.Encodable (print (sortKeys (.obj members))) := by
  rw [sortKeys, sortMembers_eq_map]
  refine encodable_print_obj fun sorted hSorted => ?_
  rw [List.mem_insertionSort] at hSorted
  obtain ⟨member, hMember, rfl⟩ := List.mem_map.mp hSorted
  exact h member hMember

end EidolonAdmin.Foundation.JsonText
