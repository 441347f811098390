import EidolonAdmin.Foundation.JsonScalars

/-! # Reading a printed document back

A document whose floats are literals and whose objects repeat no key is read back from what it
prints exactly where its integers have no more digits than are read and it is no deeper than the
recursion limit allows.
-/

namespace EidolonAdmin.Foundation.JsonText

open Text (ofChar ofString)

/-! ## Containers -/

def StartsTerm (text : Text) : Prop :=
  ∃ point rest, text = point :: rest ∧ isSpace point = false ∧ point ≠ ofChar ']'

theorem startsTerm_of_startsNumber {text : Text} (h : StartsNumber text) : StartsTerm text := by
  cases text with
  | nil => exact h.elim
  | cons point rest =>
    refine ⟨point, rest, rfl, ?_⟩
    rcases h with hDigit | ⟨rfl, -⟩
    · have hPoint : ∀ char, isDigit (ofChar char) = false → point ≠ ofChar char := by
        rintro char hChar rfl
        exact Bool.false_ne_true (hChar.symm.trans hDigit)
      simp [isSpace, hPoint ' ' rfl, hPoint '\t' rfl, hPoint '\n' rfl, hPoint '\r' rfl, hPoint ']' rfl]
    · decide

theorem skipSpace_cons {point : CodePoint} (h : isSpace point = false) (rest : Text) :
    skipSpace (point :: rest) = point :: rest :=
  List.dropWhile_cons_of_neg (by simp [h])

theorem StartsTerm.skipSpace_append {text : Text} (h : StartsTerm text) (rest : Text) :
    skipSpace (text ++ rest) = text ++ rest := by
  obtain ⟨point, left, rfl, hSpace, -⟩ := h
  exact skipSpace_cons hSpace _

theorem StartsTerm.commas {texts : List Text} (hTexts : ∀ text ∈ texts, StartsTerm text) (hSome : texts ≠ []) :
    StartsTerm (commas texts) := by
  match texts, hSome with
  | [text], _ => exact hTexts text List.mem_cons_self
  | text :: next :: texts, _ =>
    obtain ⟨point, left, rfl, hPoint⟩ := hTexts text List.mem_cons_self
    exact ⟨point, _, rfl, hPoint⟩

theorem length_le_length_commas {texts : List Text} (h : ∀ text ∈ texts, text ≠ []) :
    texts.length ≤ (commas texts).length := by
  induction texts with
  | nil => exact Nat.le_refl 0
  | cons text texts ih =>
    have hText := List.length_pos_of_ne_nil (h text List.mem_cons_self)
    have hTexts := ih fun other hOther => h other (List.mem_cons_of_mem _ hOther)
    cases texts with
    | nil => exact hText
    | cons next texts =>
      have hCommas : commas (text :: next :: texts) = text ++ ofChar ',' :: commas (next :: texts) := rfl
      simp only [hCommas, List.length_append, List.length_cons] at hTexts ⊢
      omega

/-- The document is read from what it prints, whatever ends it. -/
def Reads (term : Text → Scanned Document) (document : Document) : Prop :=
  ∀ rest, Delimited rest → term (print document ++ rest) = .ok (document, rest)

def Fails (term : Text → Scanned Document) (document : Document) : Prop :=
  ∀ rest, Delimited rest → ∃ error, term (print document ++ rest) = .error error

section Containers

variable {term : Text → Scanned Document}

theorem scanItems_last {item : Document} (h : Reads term item) (fuel : Nat) (rest : Text) :
    scanItems term (fuel + 1) (print item ++ ofChar ']' :: rest) = .ok ([item], rest) := by
  rw [scanItems, h _ (delimited_cons (by simp))]
  dsimp only
  rw [skipSpace_cons (by decide)]
  dsimp only
  rw [if_pos rfl]

theorem scanItems_more {item : Document} (h : Reads term item) {text : Text} (hText : StartsTerm text)
    (fuel : Nat) (rest : Text) :
    scanItems term (fuel + 1) (print item ++ ofChar ',' :: (text ++ rest)) =
      (scanItems term fuel (text ++ rest)).map fun scanned => (item :: scanned.1, scanned.2) := by
  rw [scanItems, h _ (delimited_cons (by simp))]
  dsimp only
  rw [skipSpace_cons (by decide)]
  dsimp only
  rw [if_neg (by decide), if_pos rfl, hText.skipSpace_append]

theorem startsTerm_commas_print {items : List Document} (hStarts : ∀ item ∈ items, StartsTerm (print item))
    (hSome : items ≠ []) : StartsTerm (commas (items.map print)) := by
  refine StartsTerm.commas ?_ (by simpa using hSome)
  intro text hText
  obtain ⟨item, hItem, rfl⟩ := List.mem_map.mp hText
  exact hStarts item hItem

theorem commas_print_cons (item next : Document) (items : List Document) (rest : Text) :
    commas ((item :: next :: items).map print) ++ rest =
      print item ++ ofChar ',' :: (commas ((next :: items).map print) ++ rest) := by
  have hCommas : commas ((item :: next :: items).map print) =
      print item ++ ofChar ',' :: commas ((next :: items).map print) := rfl
  rw [hCommas, List.append_assoc, List.cons_append]

theorem scanItems_print {items : List Document} (hReads : ∀ item ∈ items, Reads term item)
    (hStarts : ∀ item ∈ items, StartsTerm (print item)) (hSome : items ≠ []) (rest : Text) (fuel : Nat)
    (hFuel : items.length ≤ fuel) :
    scanItems term fuel (commas (items.map print) ++ ofChar ']' :: rest) = .ok (items, rest) := by
  induction items generalizing fuel with
  | nil => exact absurd rfl hSome
  | cons item items ih =>
    obtain ⟨fuel, rfl⟩ : ∃ n, fuel = n + 1 := ⟨fuel - 1, by rw [List.length_cons] at hFuel; omega⟩
    obtain ⟨hItem, hReads⟩ := List.forall_mem_cons.mp hReads
    obtain ⟨-, hStarts⟩ := List.forall_mem_cons.mp hStarts
    cases items with
    | nil => exact scanItems_last hItem fuel rest
    | cons next items =>
      have hNext : next :: items ≠ [] := List.cons_ne_nil next items
      rw [commas_print_cons, scanItems_more hItem (startsTerm_commas_print hStarts hNext),
        ih hReads hStarts hNext fuel (Nat.le_of_succ_le_succ hFuel)]
      rfl

theorem scanItems_fails {items : List Document} (hEach : ∀ item ∈ items, Reads term item ∨ Fails term item)
    (hFails : ∃ item ∈ items, Fails term item) (hStarts : ∀ item ∈ items, StartsTerm (print item)) (rest : Text)
    (fuel : Nat) (hFuel : items.length ≤ fuel) :
    ∃ error, scanItems term fuel (commas (items.map print) ++ ofChar ']' :: rest) = .error error := by
  have hFirst : ∀ item fuel text, Fails term item → Delimited text →
      ∃ error, scanItems term (fuel + 1) (print item ++ text) = .error error := by
    intro item fuel text hItem hText
    obtain ⟨error, hError⟩ := hItem text hText
    exact ⟨error, by rw [scanItems, hError]⟩
  induction items generalizing fuel with
  | nil =>
    obtain ⟨item, hItem, -⟩ := hFails
    cases hItem
  | cons item items ih =>
    obtain ⟨fuel, rfl⟩ : ∃ n, fuel = n + 1 := ⟨fuel - 1, by rw [List.length_cons] at hFuel; omega⟩
    obtain ⟨hItem, hEach⟩ := List.forall_mem_cons.mp hEach
    obtain ⟨-, hStarts⟩ := List.forall_mem_cons.mp hStarts
    cases items with
    | nil =>
      obtain ⟨other, hOther, hFails⟩ := hFails
      obtain rfl := List.mem_singleton.mp hOther
      exact hFirst other fuel _ hFails (delimited_cons (by simp))
    | cons next items =>
      rw [commas_print_cons]
      rcases hItem with hItem | hItem
      · rw [scanItems_more hItem (startsTerm_commas_print hStarts (List.cons_ne_nil next items))]
        have hLater : (∃ item ∈ next :: items, Fails term item) ∨ Fails term item := by
          obtain ⟨other, hOther, hFails⟩ := hFails
          rcases List.mem_cons.mp hOther with rfl | hOther
          · exact .inr hFails
          · exact .inl ⟨other, hOther, hFails⟩
        rcases hLater with hLater | hNever
        · obtain ⟨error, hError⟩ := ih hEach hLater hStarts fuel (Nat.le_of_succ_le_succ hFuel)
          rw [hError]
          exact ⟨error, rfl⟩
        · obtain ⟨error, hError⟩ := hNever [] delimited_nil
          rw [hItem [] delimited_nil] at hError
          cases hError
      · exact hFirst item fuel _ hItem (delimited_cons (by simp))

theorem scanKey_print (key text : Text) :
    scanKey (printString key ++ ofChar ':' :: text) = some (key, skipSpace text) := by
  rw [printString, List.cons_append, List.cons_append, List.append_assoc, List.singleton_append, scanKey,
    if_pos rfl, scanString_print]
  dsimp only
  rw [skipSpace_cons (by decide)]
  dsimp only
  rw [if_pos rfl]

def printMember (member : Text × Document) : Text := printString member.1 ++ ofChar ':' :: print member.2

theorem startsTerm_printMember (member : Text × Document) : StartsTerm (printMember member) :=
  ⟨quote, _, rfl, by decide, by decide⟩

section Member

variable {member : Text × Document} (hStart : StartsTerm (print member.2)) (before : List (Text × Document))
  (fuel : Nat) (rest : Text)

include hStart

theorem scanMembers_last (h : Reads term member.2) :
    scanMembers term (fuel + 1) before (printMember member ++ ofChar '\x7d' :: rest) =
      .ok (Dict.set before member.1 member.2, rest) := by
  rw [printMember, List.append_assoc, List.cons_append, scanMembers, scanKey_print, hStart.skipSpace_append]
  dsimp only
  rw [h _ (delimited_cons (by decide))]
  dsimp only
  rw [skipSpace_cons (by decide)]
  dsimp only
  rw [if_pos rfl]

theorem scanMembers_more (h : Reads term member.2) {text : Text} (hText : StartsTerm text) :
    scanMembers term (fuel + 1) before (printMember member ++ ofChar ',' :: (text ++ rest)) =
      scanMembers term fuel (Dict.set before member.1 member.2) (text ++ rest) := by
  rw [printMember, List.append_assoc, List.cons_append, scanMembers, scanKey_print, hStart.skipSpace_append]
  dsimp only
  rw [h _ (delimited_cons (by simp))]
  dsimp only
  rw [skipSpace_cons (by decide)]
  dsimp only
  rw [if_neg (by decide), if_pos rfl, hText.skipSpace_append]

theorem scanMembers_first (h : Fails term member.2) {text : Text} (hText : Delimited text) :
    ∃ error, scanMembers term (fuel + 1) before (printMember member ++ text) = .error error := by
  obtain ⟨error, hError⟩ := h text hText
  refine ⟨error, ?_⟩
  rw [printMember, List.append_assoc, List.cons_append, scanMembers, scanKey_print, hStart.skipSpace_append]
  dsimp only
  rw [hError]

end Member

theorem startsTerm_commas_printMember {members : List (Text × Document)} (hSome : members ≠ []) :
    StartsTerm (commas (members.map printMember)) := by
  refine StartsTerm.commas ?_ (by simpa using hSome)
  intro text hText
  obtain ⟨member, -, rfl⟩ := List.mem_map.mp hText
  exact startsTerm_printMember member

theorem commas_printMember_cons (member next : Text × Document) (members : List (Text × Document)) (rest : Text) :
    commas ((member :: next :: members).map printMember) ++ rest =
      printMember member ++ ofChar ',' :: (commas ((next :: members).map printMember) ++ rest) := by
  have hCommas : commas ((member :: next :: members).map printMember) =
      printMember member ++ ofChar ',' :: commas ((next :: members).map printMember) := rfl
  rw [hCommas, List.append_assoc, List.cons_append]

theorem scanMembers_print {members : List (Text × Document)} (hReads : ∀ member ∈ members, Reads term member.2)
    (hStarts : ∀ member ∈ members, StartsTerm (print member.2)) (hSome : members ≠ []) (rest : Text)
    (before : List (Text × Document)) (hKeys : ((before ++ members).map Prod.fst).Nodup) (fuel : Nat)
    (hFuel : members.length ≤ fuel) :
    scanMembers term fuel before (commas (members.map printMember) ++ ofChar '\x7d' :: rest) =
      .ok (before ++ members, rest) := by
  induction members generalizing fuel before with
  | nil => exact absurd rfl hSome
  | cons member members ih =>
    obtain ⟨fuel, rfl⟩ : ∃ n, fuel = n + 1 := ⟨fuel - 1, by rw [List.length_cons] at hFuel; omega⟩
    obtain ⟨hMember, hReads⟩ := List.forall_mem_cons.mp hReads
    obtain ⟨hStart, hStarts⟩ := List.forall_mem_cons.mp hStarts
    have hSet : Dict.set before member.1 member.2 = before ++ [member] := by
      apply Dict.set_of_notMem
      rw [List.map_append, List.map_cons] at hKeys
      have hHead := (List.nodup_cons.mp (List.nodup_middle.mp hKeys)).1
      exact fun hKey => hHead (List.mem_append_left _ hKey)
    cases members with
    | nil =>
      rw [← hSet]
      exact scanMembers_last hStart before fuel rest hMember
    | cons next members =>
      have hNext : next :: members ≠ [] := List.cons_ne_nil next members
      rw [commas_printMember_cons,
        scanMembers_more hStart before fuel _ hMember (startsTerm_commas_printMember hNext), hSet,
        ih hReads hStarts hNext (before ++ [member]) (by rwa [List.append_assoc]) fuel
          (Nat.le_of_succ_le_succ hFuel), List.append_assoc]
      rfl

theorem scanMembers_fails {members : List (Text × Document)}
    (hEach : ∀ member ∈ members, Reads term member.2 ∨ Fails term member.2)
    (hFails : ∃ member ∈ members, Fails term member.2)
    (hStarts : ∀ member ∈ members, StartsTerm (print member.2)) (rest : Text)
    (before : List (Text × Document)) (fuel : Nat) (hFuel : members.length ≤ fuel) :
    ∃ error, scanMembers term fuel before (commas (members.map printMember) ++ ofChar '\x7d' :: rest) =
      .error error := by
  induction members generalizing fuel before with
  | nil =>
    obtain ⟨member, hMember, -⟩ := hFails
    cases hMember
  | cons member members ih =>
    obtain ⟨fuel, rfl⟩ : ∃ n, fuel = n + 1 := ⟨fuel - 1, by rw [List.length_cons] at hFuel; omega⟩
    obtain ⟨hMember, hEach⟩ := List.forall_mem_cons.mp hEach
    obtain ⟨hStart, hStarts⟩ := List.forall_mem_cons.mp hStarts
    cases members with
    | nil =>
      obtain ⟨other, hOther, hFails⟩ := hFails
      obtain rfl := List.mem_singleton.mp hOther
      exact scanMembers_first hStart before fuel hFails (delimited_cons (by decide))
    | cons next members =>
      rw [commas_printMember_cons]
      rcases hMember with hMember | hMember
      · rw [scanMembers_more hStart before fuel _ hMember
          (startsTerm_commas_printMember (List.cons_ne_nil next members))]
        obtain ⟨other, hOther, hFails⟩ := hFails
        rcases List.mem_cons.mp hOther with rfl | hOther
        · obtain ⟨error, hError⟩ := hFails [] delimited_nil
          rw [hMember [] delimited_nil] at hError
          cases hError
        · exact ih hEach ⟨other, hOther, hFails⟩ hStarts _ fuel (Nat.le_of_succ_le_succ hFuel)
      · exact scanMembers_first hStart before fuel hMember (delimited_cons (by simp))

end Containers

/-! ## Documents -/

mutual

/-- Every float is the literal of one, and no object has a key twice. -/
def WellFormed : Document → Prop
  | .float literal => scanNumber literal = .ok (.float literal, [])
  | .arr items => WellFormedItems items
  | .obj members => (members.map Prod.fst).Nodup ∧ WellFormedMembers members
  | _ => True

def WellFormedItems : List Document → Prop
  | [] => True
  | item :: items => WellFormed item ∧ WellFormedItems items

def WellFormedMembers : List (Text × Document) → Prop
  | [] => True
  | (_, value) :: members => WellFormed value ∧ WellFormedMembers members

end

theorem wellFormedItems_iff {items : List Document} : WellFormedItems items ↔ ∀ item ∈ items, WellFormed item := by
  induction items with
  | nil => simp [WellFormedItems]
  | cons item items ih => rw [WellFormedItems, ih, List.forall_mem_cons]

theorem wellFormedMembers_iff {members : List (Text × Document)} :
    WellFormedMembers members ↔ ∀ member ∈ members, WellFormed member.2 := by
  induction members with
  | nil => simp [WellFormedMembers]
  | cons member members ih => rw [WellFormedMembers, ih, List.forall_mem_cons]

theorem startsTerm_printInt (n : Int) : StartsTerm (printInt n) := by
  cases n with
  | ofNat n =>
    obtain ⟨digit, rest, hPrinted, hDigit⟩ := printNat_eq_cons n
    rw [printInt, hPrinted]
    exact startsTerm_of_startsNumber (.inl hDigit)
  | negSucc n => exact ⟨ofChar '-', _, rfl, by decide, by decide⟩

theorem startsTerm_print {document : Document} (h : WellFormed document) : StartsTerm (print document) := by
  cases document with
  | null => exact ⟨_, _, rfl, by decide, by decide⟩
  | bool value =>
    cases value with
    | true => exact ⟨_, _, rfl, by decide, by decide⟩
    | false => exact ⟨_, _, rfl, by decide, by decide⟩
  | int n =>
    rw [print]
    exact startsTerm_printInt n
  | float literal =>
    rw [WellFormed] at h
    rw [print]
    exact startsTerm_of_startsNumber (startsNumber_of_scanNumber h)
  | str text =>
    rw [print]
    exact ⟨quote, _, rfl, by decide, by decide⟩
  | arr items =>
    rw [print]
    exact ⟨ofChar '[', _, rfl, by decide, by decide⟩
  | obj members =>
    rw [print]
    exact ⟨ofChar '{', _, rfl, by decide, by decide⟩

theorem ne_nil_of_startsTerm {text : Text} (h : StartsTerm text) : text ≠ [] := by
  obtain ⟨point, rest, rfl, -⟩ := h
  exact List.cons_ne_nil point rest

section Bodies

variable (term : Text → Scanned Document)

theorem scanArray_items {items : List Document} (hWellFormed : ∀ item ∈ items, WellFormed item)
    (hSome : items ≠ []) (rest : Text) :
    ∃ fuel, items.length ≤ fuel ∧
      scanArray term (commas (printItems items) ++ ofChar ']' :: rest) =
        (scanItems term fuel (commas (items.map print) ++ ofChar ']' :: rest)).map fun scanned =>
          (.arr scanned.1, scanned.2) := by
  have hTexts : ∀ text ∈ items.map print, StartsTerm text := by
    intro text hText
    obtain ⟨item, hItem, rfl⟩ := List.mem_map.mp hText
    exact startsTerm_print (hWellFormed item hItem)
  have hCommas := StartsTerm.commas hTexts (by simpa using hSome)
  have hFuel := length_le_length_commas fun text hText => ne_nil_of_startsTerm (hTexts text hText)
  rw [List.length_map] at hFuel
  refine ⟨(commas (items.map print) ++ ofChar ']' :: rest).length + 1, ?_, ?_⟩
  · rw [List.length_append]
    omega
  · rw [printItems_eq_map, scanArray, hCommas.skipSpace_append]
    obtain ⟨point, left, hText, -, hPoint⟩ := hCommas
    rw [hText, List.cons_append]
    dsimp only
    rw [if_neg hPoint]

theorem scanObject_members {members : List (Text × Document)} (hSome : members ≠ []) (rest : Text) :
    ∃ fuel, members.length ≤ fuel ∧
      scanObject term (commas (printMembers members) ++ ofChar '\x7d' :: rest) =
        (scanMembers term fuel [] (commas (members.map printMember) ++ ofChar '\x7d' :: rest)).map fun scanned =>
          (.obj scanned.1, scanned.2) := by
  have hPrinted : printMembers members = members.map printMember := printMembers_eq_map members
  have hTexts : ∀ text ∈ members.map printMember, StartsTerm text := by
    intro text hText
    obtain ⟨member, -, rfl⟩ := List.mem_map.mp hText
    exact startsTerm_printMember member
  have hFuel := length_le_length_commas fun text hText => ne_nil_of_startsTerm (hTexts text hText)
  rw [List.length_map] at hFuel
  refine ⟨(commas (members.map printMember) ++ ofChar '\x7d' :: rest).length + 1, ?_, ?_⟩
  · rw [List.length_append]
    omega
  · obtain ⟨member, others, rfl⟩ := List.exists_cons_of_ne_nil hSome
    have hHead : ∃ left, commas ((member :: others).map printMember) = quote :: left := by
      cases others with
      | nil => exact ⟨_, rfl⟩
      | cons next others => exact ⟨_, rfl⟩
    obtain ⟨left, hText⟩ := hHead
    rw [hPrinted, hText, List.cons_append, scanObject, skipSpace_cons (by decide)]
    dsimp only
    rw [if_neg (by decide)]

theorem scanArray_empty (rest : Text) :
    scanArray term (commas (printItems []) ++ ofChar ']' :: rest) = .ok (.arr [], rest) := by
  rw [printItems, commas, List.nil_append, scanArray, skipSpace_cons (by decide)]
  dsimp only
  rw [if_pos rfl]

theorem scanObject_empty (rest : Text) :
    scanObject term (commas (printMembers []) ++ ofChar '\x7d' :: rest) = .ok (.obj [], rest) := by
  rw [printMembers, commas, List.nil_append, scanObject, skipSpace_cons (by decide)]
  dsimp only
  rw [if_pos rfl]

end Bodies

theorem scanArray_print {room : Nat} {items : List Document} (hWellFormed : ∀ item ∈ items, WellFormed item)
    (hReads : ∀ item ∈ items, Reads (scanOnce room) item) (rest : Text) :
    scanArray (scanOnce room) (commas (printItems items) ++ ofChar ']' :: rest) = .ok (.arr items, rest) := by
  rcases eq_or_ne items [] with rfl | hSome
  · exact scanArray_empty _ rest
  · obtain ⟨fuel, hFuel, hArray⟩ := scanArray_items (scanOnce room) hWellFormed hSome rest
    have hStarts : ∀ item ∈ items, StartsTerm (print item) := fun item hItem =>
      startsTerm_print (hWellFormed item hItem)
    rw [hArray, scanItems_print hReads hStarts hSome rest fuel hFuel]
    rfl

theorem scanObject_print {room : Nat} {members : List (Text × Document)}
    (hKeys : (members.map Prod.fst).Nodup) (hWellFormed : ∀ member ∈ members, WellFormed member.2)
    (hReads : ∀ member ∈ members, Reads (scanOnce room) member.2) (rest : Text) :
    scanObject (scanOnce room) (commas (printMembers members) ++ ofChar '\x7d' :: rest) =
      .ok (.obj members, rest) := by
  rcases eq_or_ne members [] with rfl | hSome
  · exact scanObject_empty _ rest
  · obtain ⟨fuel, hFuel, hObject⟩ := scanObject_members (scanOnce room) hSome rest
    have hStarts : ∀ member ∈ members, StartsTerm (print member.2) := fun member hMember =>
      startsTerm_print (hWellFormed member hMember)
    rw [hObject, scanMembers_print hReads hStarts hSome rest [] hKeys fuel hFuel]
    rfl

theorem scanOnce_eq_scanTerm (room : Nat) : ∃ array object, scanOnce room = scanTerm array object := by
  cases room with
  | zero => exact ⟨_, _, rfl⟩
  | succ room => exact ⟨_, _, rfl⟩

theorem scanOnce_print (document : Document) :
    ∀ {room : Nat}, WellFormed document → dumpable document room = true → Reads (scanOnce room) document := by
  induction document using Document.inductionOn with
  | null =>
    intro room _ _ rest _
    obtain ⟨array, object, hOnce⟩ := scanOnce_eq_scanTerm room
    rw [hOnce, print, scanTerm_null]
  | bool value =>
    intro room _ _ rest _
    obtain ⟨array, object, hOnce⟩ := scanOnce_eq_scanTerm room
    cases value with
    | true => rw [hOnce, print, scanTerm_true]
    | false => rw [hOnce, print, scanTerm_false]
  | int n =>
    intro room _ h rest hRest
    obtain ⟨array, object, hOnce⟩ := scanOnce_eq_scanTerm room
    rw [dumpable, decide_eq_true_eq] at h
    rw [hOnce, print, scanTerm_number array object hRest (scanNumber_printInt h)]
  | float literal =>
    intro room h _ rest hRest
    obtain ⟨array, object, hOnce⟩ := scanOnce_eq_scanTerm room
    rw [WellFormed] at h
    rw [hOnce, print, scanTerm_number array object hRest h]
  | str text =>
    intro room _ _ rest _
    obtain ⟨array, object, hOnce⟩ := scanOnce_eq_scanTerm room
    rw [hOnce, print, scanTerm_string]
  | arr items ih =>
    intro room hWellFormed h rest _
    rw [WellFormed, wellFormedItems_iff] at hWellFormed
    rw [dumpable, Bool.and_eq_true, decide_eq_true_eq, dumpableItems_iff] at h
    obtain ⟨room, rfl⟩ : ∃ n, room = n + 1 := ⟨room - 1, by omega⟩
    rw [print, List.cons_append, List.cons_append, List.append_assoc, List.singleton_append, scanOnce, scanTerm,
      if_neg (by decide), if_neg (by decide), if_pos rfl]
    exact scanArray_print hWellFormed
      (fun item hItem => ih item hItem (hWellFormed item hItem) (h.2 item hItem)) rest
  | obj members ih =>
    intro room hWellFormed h rest _
    rw [WellFormed, wellFormedMembers_iff] at hWellFormed
    rw [dumpable, Bool.and_eq_true, decide_eq_true_eq, dumpableMembers_iff] at h
    obtain ⟨room, rfl⟩ : ∃ n, room = n + 1 := ⟨room - 1, by omega⟩
    rw [print, List.cons_append, List.cons_append, List.append_assoc, List.singleton_append, scanOnce, scanTerm,
      if_neg (by decide), if_pos rfl]
    exact scanObject_print hWellFormed.1 hWellFormed.2
      (fun member hMember => ih member hMember (hWellFormed.2 member hMember) (h.2 member hMember)) rest

/-! ## What is not read back -/

theorem scanUnsigned_long {n : Nat} (h : ¬ n < 10 ^ intDigitLimit) (negative : Bool) {rest : Text}
    (hRest : Delimited rest) : scanUnsigned negative (printNat n ++ rest) = .error .intDigits := by
  have hLength : intDigitLimit < (printNat n).length := Nat.not_le.mp (mt (length_printNat_le_iff n).mp h)
  have hFraction : scanFraction rest = ([], rest) := scanFraction_append hRest []
  have hExponent : scanExponent rest = ([], rest) := @scanExponent_append rest hRest [] rfl
  rw [scanUnsigned, scanWhole_append hRest (scanWhole_printNat n), List.nil_append]
  dsimp only
  rw [hFraction]
  dsimp only
  rw [hExponent, if_pos ⟨rfl, rfl⟩, if_pos hLength]

theorem scanNumber_long {n : Int} (h : ¬ n.natAbs < 10 ^ intDigitLimit) {rest : Text} (hRest : Delimited rest) :
    scanNumber (printInt n ++ rest) = .error .intDigits ∧ StartsNumber (printInt n ++ rest) := by
  cases n with
  | ofNat n =>
    obtain ⟨digit, left, hPrinted, hDigit⟩ := printNat_eq_cons n
    have hSign : digit ≠ ofChar '-' := by
      rintro rfl
      cases hDigit
    have hScanned := scanUnsigned_long (n := n) h false hRest
    rw [printInt, hPrinted, List.cons_append, scanNumber, if_neg hSign, ← List.cons_append, ← hPrinted]
    refine ⟨hScanned, ?_⟩
    rw [hPrinted]
    exact .inl hDigit
  | negSucc n =>
    obtain ⟨digit, left, hPrinted, hDigit⟩ := printNat_eq_cons (n + 1)
    rw [printInt, List.cons_append, scanNumber, if_pos rfl]
    refine ⟨scanUnsigned_long (n := n + 1) h true hRest, .inr ⟨rfl, digit, ?_, hDigit⟩⟩
    rw [hPrinted]
    rfl

theorem reads_or_fails {room : Nat} {document : Document} (hWellFormed : WellFormed document)
    (hFails : dumpable document room = false → Fails (scanOnce room) document) :
    Reads (scanOnce room) document ∨ Fails (scanOnce room) document := by
  cases hDumpable : dumpable document room with
  | true => exact .inl (scanOnce_print document hWellFormed hDumpable)
  | false => exact .inr (hFails hDumpable)

theorem scanOnce_fails (document : Document) :
    ∀ {room : Nat}, WellFormed document → dumpable document room = false → Fails (scanOnce room) document := by
  induction document using Document.inductionOn with
  | null =>
    intro room _ h
    simp [dumpable] at h
  | bool value =>
    intro room _ h
    simp [dumpable] at h
  | int n =>
    intro room _ h
    obtain ⟨array, object, hOnce⟩ := scanOnce_eq_scanTerm room
    rw [dumpable, decide_eq_false_iff_not] at h
    intro rest hRest
    obtain ⟨hScanned, hStarts⟩ := scanNumber_long h hRest
    exact ⟨_, by rw [hOnce, print, scanTerm_of_startsNumber array object hStarts, hScanned]⟩
  | float literal =>
    intro room _ h
    simp [dumpable] at h
  | str text =>
    intro room _ h
    simp [dumpable] at h
  | arr items ih =>
    intro room hWellFormed h rest _
    rw [WellFormed, wellFormedItems_iff] at hWellFormed
    rw [print, List.cons_append, List.cons_append, List.append_assoc, List.singleton_append]
    cases room with
    | zero =>
      rw [scanOnce, scanTerm, if_neg (by decide), if_neg (by decide), if_pos rfl]
      exact ⟨_, rfl⟩
    | succ room =>
      have hSome : ∃ item ∈ items, dumpable item room = false := by
        rw [dumpable, Bool.and_eq_false_iff, decide_eq_false_iff_not, ← Bool.not_eq_true, dumpableItems_iff] at h
        simpa using h
      obtain ⟨item, hItem, hNot⟩ := hSome
      obtain ⟨fuel, hFuel, hArray⟩ :=
        scanArray_items (scanOnce room) hWellFormed (List.ne_nil_of_mem hItem) rest
      obtain ⟨error, hError⟩ := scanItems_fails
        (fun other hOther => reads_or_fails (hWellFormed other hOther) (ih other hOther (hWellFormed other hOther)))
        ⟨item, hItem, ih item hItem (hWellFormed item hItem) hNot⟩
        (fun other hOther => startsTerm_print (hWellFormed other hOther)) rest fuel hFuel
      rw [scanOnce, scanTerm, if_neg (by decide), if_neg (by decide), if_pos rfl, hArray, hError]
      exact ⟨error, rfl⟩
  | obj members ih =>
    intro room hWellFormed h rest _
    rw [WellFormed, wellFormedMembers_iff] at hWellFormed
    obtain ⟨-, hWellFormed⟩ := hWellFormed
    rw [print, List.cons_append, List.cons_append, List.append_assoc, List.singleton_append]
    cases room with
    | zero =>
      rw [scanOnce, scanTerm, if_neg (by decide), if_pos rfl]
      exact ⟨_, rfl⟩
    | succ room =>
      have hSome : ∃ member ∈ members, dumpable member.2 room = false := by
        rw [dumpable, Bool.and_eq_false_iff, decide_eq_false_iff_not, ← Bool.not_eq_true, dumpableMembers_iff] at h
        simpa using h
      obtain ⟨member, hMember, hNot⟩ := hSome
      obtain ⟨fuel, hFuel, hObject⟩ := scanObject_members (scanOnce room) (List.ne_nil_of_mem hMember) rest
      obtain ⟨error, hError⟩ := scanMembers_fails
        (fun other hOther => reads_or_fails (hWellFormed other hOther) (ih other hOther (hWellFormed other hOther)))
        ⟨member, hMember, ih member hMember (hWellFormed member hMember) hNot⟩
        (fun other hOther => startsTerm_print (hWellFormed other hOther)) rest [] fuel hFuel
      rw [scanOnce, scanTerm, if_neg (by decide), if_pos rfl, hObject, hError]
      exact ⟨error, rfl⟩

theorem decode_print_fails {document : Document} {room : Nat} (hWellFormed : WellFormed document)
    (h : dumpable document room = false) : ∃ error, decode room (print document) = .error error := by
  obtain ⟨error, hError⟩ := scanOnce_fails document hWellFormed h [] delimited_nil
  have hSkip := (startsTerm_print hWellFormed).skipSpace_append []
  rw [List.append_nil] at hSkip hError
  rw [decode, hSkip, hError]
  exact ⟨error, rfl⟩

/-- What is printed is read back exactly where its integers and its nesting stay within limits. -/
theorem decode_print_iff {document : Document} {room : Nat} (hWellFormed : WellFormed document) :
    decode room (print document) = .ok document ↔ dumpable document room = true := by
  cases h : dumpable document room with
  | true =>
    have hRead := scanOnce_print document hWellFormed h [] delimited_nil
    have hSkip := (startsTerm_print hWellFormed).skipSpace_append []
    rw [List.append_nil] at hSkip hRead
    rw [decode, hSkip, hRead]
    exact iff_of_true rfl rfl
  | false =>
    obtain ⟨error, hError⟩ := decode_print_fails hWellFormed h
    rw [hError]
    exact iff_of_false (fun hOk => nomatch hOk) Bool.false_ne_true

/-! ## Bytes -/

theorem detectEncoding_ascii {a b : Byte} (hA : 0 < a.val ∧ a.val < 0x80) (hB : 0 < b.val) (rest : List Byte) :
    detectEncoding (a :: b :: rest) = (.utf8, a :: b :: rest) := by
  have hNot : ∀ n : Nat, n = 0 ∨ 0x80 ≤ n → (n == a.val) = false := by
    intro n hN
    rw [beq_eq_false_iff_ne]
    omega
  unfold detectEncoding
  simp only [List.map_cons, List.isPrefixOf_cons_cons, hNot 0 (.inl rfl), hNot 0xFF (.inr (by decide)),
    hNot 0xFE (.inr (by decide)), hNot 0xEF (.inr (by decide)), Bool.false_and, Bool.false_eq_true, if_false]
  rcases rest with _ | ⟨c, _ | ⟨d, rest⟩⟩
  · simp only [List.map_nil, if_neg (Nat.ne_of_gt hA.1), if_neg (Nat.ne_of_gt hB)]
  · rfl
  · simp only [List.map_cons, if_neg (Nat.ne_of_gt hA.1), if_neg (Nat.ne_of_gt hB)]

theorem print_obj_eq_cons (members : List (Text × Document)) :
    ∃ point rest, print (.obj members) = ofChar '{' :: point :: rest ∧ (point = quote ∨ point = ofChar '}') := by
  rw [print, printMembers_eq_map]
  cases members with
  | nil => exact ⟨ofChar '}', [], rfl, .inr rfl⟩
  | cons member members =>
    cases members with
    | nil => exact ⟨quote, _, rfl, .inl rfl⟩
    | cons next members => exact ⟨quote, _, rfl, .inl rfl⟩

theorem loads_print_obj (room : Nat) (members : List (Text × Document)) :
    loads room (Text.utf8 (print (.obj members))) = decode room (print (.obj members)) := by
  have hText : textOf (Text.utf8 (print (.obj members))) = some (print (.obj members)) := by
    obtain ⟨point, rest, hPrint, hPoint⟩ := print_obj_eq_cons members
    have hUtf8 : ∃ a b bytes, Text.utf8 (print (.obj members)) = a :: b :: bytes ∧ (0 < a.val ∧ a.val < 0x80) ∧
        0 < b.val := by
      rw [hPrint]
      rcases hPoint with rfl | rfl
      · exact ⟨_, _, Text.utf8 rest, rfl, by decide, by decide⟩
      · exact ⟨_, _, Text.utf8 rest, rfl, by decide, by decide⟩
    obtain ⟨a, b, bytes, hBytes, hA, hB⟩ := hUtf8
    rw [textOf, hBytes, detectEncoding_ascii hA hB bytes, ← hBytes]
    exact Text.decodeUtf8_utf8 _
  rw [loads, hText]

end EidolonAdmin.Foundation.JsonText
