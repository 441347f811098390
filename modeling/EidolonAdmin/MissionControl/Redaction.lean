import EidolonAdmin.Foundation.JsonText
import EidolonAdmin.Foundation.Traverse

/-! # What the console shows of a payload

`_safe_payload` keeps the shape of a payload, cuts its lists and puts a preview and a digest for
the texts it carries. Two payloads that differ only behind the previews look alike but for the
digests, unless a text cannot be encoded or the payload is nested too deep.
-/

namespace EidolonAdmin.MissionControl.Redaction

open Foundation
open Text (ofChar ofString isSpace)
open JsonText (strOf)

/-! ## Texts -/

/-- `" ".join(text.split())` -/
def compact (text : Text) : Text :=
  [ofChar ' '].intercalate ((text.splitOnP isSpace).filter (· ≠ []))

def textKeys : List String :=
  ["content", "text", "transcript", "user_text", "assistant_text", "prompt", "image", "image_url", "raw_image", "audio"]

/-- `str.lower` on ASCII; no other character lowers to a part of one of the keys. -/
def lower (point : CodePoint) : CodePoint :=
  if ofChar 'A' ≤ point ∧ point ≤ ofChar 'Z' then Fin.ofNat _ (point.val + 32) else point

def isTextKey (key : Text) : Bool := (textKeys.map ofString).contains (key.map lower)

/-! ## The code -/

/-- The recursion limit is reached, a text has a surrogate, or `str` raises. -/
inductive RedactionError where
  | recursion
  | unicodeEncode
  | str
deriving DecidableEq, Repr

section Redaction

-- What `str` makes of a value that is no text, absent where it raises, and SHA-1 in hexadecimal.
variable (repr : Document → Option Text) (hexdigest : List Byte → Text)

/-- `_redact_text` with `room` frames left. -/
def redactText (room keep : Nat) (text : Text) : Except RedactionError Text :=
  if room = 0 then .error .recursion
  else if text = [] then .ok []
  else
    match Text.encodeUtf8 text with
    | none => .error .unicodeEncode
    | some bytes =>
      let digest := (hexdigest bytes).take 8
      let preview := (compact text).take keep
      let suffix := if keep < (compact text).length then ofString "..." else []
      .ok (preview ++ suffix ++ ofString " [redacted:" ++ digest ++ ofString "]")

def safeMember (room : Nat) (inner : Document → Except RedactionError Document) (member : Text × Document) :
    Except RedactionError (Text × Document) :=
  if isTextKey member.1 then
    match strOf repr member.2 with
    | none => .error .str
    | some text => (redactText hexdigest room 40 text).map fun shown => (member.1, .str shown)
  else (inner member.2).map fun value => (member.1, value)

/-- `_safe_payload` with `room` frames left. -/
def safePayload : Nat → Document → Except RedactionError Document
  | 0, _ => .error .recursion
  | room + 1, .obj members =>
    (members.mapM (safeMember repr hexdigest room (safePayload room))).map .obj
  | room + 1, .arr items => ((items.take 20).mapM (safePayload room)).map .arr
  | room + 1, .str text =>
    if 160 < text.length then (redactText hexdigest room 40 text).map .str else .ok (.str text)
  | _ + 1, value => .ok value

/-! ## What is shown -/

def digestSuffix (text : Text) : Text :=
  ofString " [redacted:" ++ (hexdigest (Text.utf8 text)).take 8 ++ ofString "]"

/-- At most 40 characters of the compact text, with dots where there are more, and the digest. -/
def Preview (text shown : Text) : Prop :=
  ∃ dots, (dots = [] ∨ dots = ofString "...") ∧ shown = (compact text).take 40 ++ dots ++ digestSuffix hexdigest text

def ShownText (value result : Document) : Prop :=
  ∃ text shown, strOf repr value = some text ∧ result = .str shown ∧
    (text = [] ∧ shown = [] ∨ text ≠ [] ∧ Preview hexdigest text shown)

inductive Member (T R : Document → Document → Prop) : Text × Document → Text × Document → Prop where
  | text {key : Text} {value other : Document} : isTextKey key = true → T value other → Member T R (key, value) (key, other)
  | plain {key : Text} {value other : Document} :
      isTextKey key = false → R value other → Member T R (key, value) (key, other)

def Plain : Document → Prop
  | .arr _ | .obj _ => False
  | .str text => text.length ≤ 160
  | _ => True

inductive Redacts : Document → Document → Prop where
  | plain {value : Document} : Plain value → Redacts value value
  | text {text shown : Text} : 160 < text.length → Preview hexdigest text shown → Redacts (.str text) (.str shown)
  | arr {items results : List Document} : List.Forall₂ Redacts (items.take 20) results → Redacts (.arr items) (.arr results)
  | obj {members results : List (Text × Document)} :
      List.Forall₂ (Member (ShownText repr hexdigest) Redacts) members results → Redacts (.obj members) (.obj results)

/-! ## Two payloads -/

/-- Texts that differ only behind the first 40 characters of their compact forms. -/
def DifferBehind (a b : Text) : Prop :=
  40 < (compact a).length ∧ 40 < (compact b).length ∧ (compact a).take 40 = (compact b).take 40

def AlikeText (value other : Document) : Prop :=
  value = other ∨ ∃ a b, strOf repr value = some a ∧ strOf repr other = some b ∧ DifferBehind a b

/-- Payloads of one shape that differ only in texts that are redacted, and there behind what is
shown. -/
inductive Alike : Document → Document → Prop where
  | same (value : Document) : Alike value value
  | text {a b : Text} : 160 < a.length → 160 < b.length → DifferBehind a b → Alike (.str a) (.str b)
  | arr {items others : List Document} : List.Forall₂ Alike items others → Alike (.arr items) (.arr others)
  | obj {members others : List (Text × Document)} :
      List.Forall₂ (Member (AlikeText repr) Alike) members others → Alike (.obj members) (.obj others)

/-- Results that are equal but for the digests at the end of texts. -/
inductive SameButDigests : Document → Document → Prop where
  | same (value : Document) : SameButDigests value value
  | text (shown a b : Text) :
      SameButDigests (.str (shown ++ digestSuffix hexdigest a)) (.str (shown ++ digestSuffix hexdigest b))
  | arr {results others : List Document} :
      List.Forall₂ SameButDigests results others → SameButDigests (.arr results) (.arr others)
  | obj {results others : List (Text × Document)} :
      List.Forall₂ (Member SameButDigests SameButDigests) results others → SameButDigests (.obj results) (.obj others)

/-! ## What the code needs -/

mutual

def frames : Document → Nat
  | .str text => if 160 < text.length then 2 else 1
  | .arr items => framesItems 20 items + 1
  | .obj members => framesMembers members + 1
  | _ => 1

def framesItems : Nat → List Document → Nat
  | n + 1, item :: items => max (frames item) (framesItems n items)
  | _, _ => 0

def framesMembers : List (Text × Document) → Nat
  | [] => 0
  | (key, value) :: members => max (if isTextKey key then 1 else frames value) (framesMembers members)

end

mutual

/-- The texts that are redacted, absent where `str` gives none. -/
def texts : Document → List (Option Text)
  | .str text => if 160 < text.length then [some text] else []
  | .arr items => textsItems 20 items
  | .obj members => textsMembers members
  | _ => []

def textsItems : Nat → List Document → List (Option Text)
  | n + 1, item :: items => texts item ++ textsItems n items
  | _, _ => []

def textsMembers : List (Text × Document) → List (Option Text)
  | [] => []
  | (key, value) :: members => (if isTextKey key then [strOf repr value] else texts value) ++ textsMembers members

end

/-- Every text that is redacted has a string form without surrogates, and the payload is nested no
deeper than the frames allow. -/
structure Showable (room : Nat) (payload : Document) : Prop where
  frames : frames payload ≤ room
  texts : ∀ form ∈ texts repr payload, ∃ text, form = some text ∧ Text.Encodable text

/-! ## Texts that are redacted -/

def shownText (text : Text) : Text :=
  (compact text).take 40 ++ (if 40 < (compact text).length then ofString "..." else []) ++ digestSuffix hexdigest text

variable {repr} {hexdigest} {room : Nat}

theorem redactText_eq_ok_iff {text shown : Text} :
    redactText hexdigest room 40 text = .ok shown ↔
      0 < room ∧ (text = [] ∧ shown = [] ∨ text ≠ [] ∧ Text.Encodable text ∧ shown = shownText hexdigest text) := by
  unfold redactText Text.encodeUtf8
  by_cases hRoom : room = 0
  · simp [hRoom]
  · by_cases hEmpty : text = []
    · simp [hRoom, hEmpty, Nat.pos_of_ne_zero hRoom, eq_comm]
    · by_cases hEncodable : Text.Encodable text
      · simp [hRoom, hEmpty, hEncodable, Nat.pos_of_ne_zero hRoom, shownText, digestSuffix, eq_comm]
      · simp [hRoom, hEmpty, hEncodable]

theorem exists_redactText_iff (text : Text) :
    (∃ shown, redactText hexdigest room 40 text = .ok shown) ↔ 0 < room ∧ Text.Encodable text := by
  simp only [redactText_eq_ok_iff]
  constructor
  · rintro ⟨shown, hRoom, ⟨rfl, _⟩ | ⟨_, hEncodable, _⟩⟩
    · exact ⟨hRoom, List.forall_mem_nil _⟩
    · exact ⟨hRoom, hEncodable⟩
  · rintro ⟨hRoom, hEncodable⟩
    by_cases hEmpty : text = []
    · exact ⟨[], hRoom, .inl ⟨hEmpty, rfl⟩⟩
    · exact ⟨_, hRoom, .inr ⟨hEmpty, hEncodable, rfl⟩⟩

theorem preview_shownText (text : Text) : Preview hexdigest text (shownText hexdigest text) := by
  refine ⟨_, ?_, rfl⟩
  split_ifs
  · exact .inr rfl
  · exact .inl rfl

theorem shownText_of_differBehind {a b : Text} (h : DifferBehind a b) :
    ∃ shown, shownText hexdigest a = shown ++ digestSuffix hexdigest a ∧
      shownText hexdigest b = shown ++ digestSuffix hexdigest b := by
  obtain ⟨hA, hB, hSame⟩ := h
  refine ⟨_, rfl, ?_⟩
  rw [shownText, if_pos hA, if_pos hB, hSame]

theorem ne_nil_of_differBehind {a b : Text} (h : DifferBehind a b) : a ≠ [] ∧ b ≠ [] := by
  have hEmpty : ¬ 40 < (compact []).length := by decide
  constructor
  · rintro rfl
    exact hEmpty h.1
  · rintro rfl
    exact hEmpty h.2.1

/-! ## Where the code returns -/

theorem framesItems_le_iff {n limit : Nat} {items : List Document} :
    framesItems n items ≤ limit ↔ ∀ item ∈ items.take n, frames item ≤ limit := by
  induction n generalizing items with
  | zero => simp [framesItems]
  | succ n ih =>
    cases items with
    | nil => simp [framesItems]
    | cons item items => rw [framesItems, max_le_iff, ih, List.take_succ_cons, List.forall_mem_cons]

theorem framesMembers_le_iff {limit : Nat} {members : List (Text × Document)} :
    framesMembers members ≤ limit ↔
      ∀ member ∈ members, (if isTextKey member.1 then 1 else frames member.2) ≤ limit := by
  induction members with
  | nil => simp [framesMembers]
  | cons member members ih => rw [framesMembers, max_le_iff, ih, List.forall_mem_cons]

theorem mem_textsItems {n : Nat} {items : List Document} {form : Option Text} :
    form ∈ textsItems repr n items ↔ ∃ item ∈ items.take n, form ∈ texts repr item := by
  induction n generalizing items with
  | zero => simp [textsItems]
  | succ n ih =>
    cases items with
    | nil => simp [textsItems]
    | cons item items => rw [textsItems, List.mem_append, ih, List.take_succ_cons, List.exists_mem_cons_iff]

theorem mem_textsMembers {members : List (Text × Document)} {form : Option Text} :
    form ∈ textsMembers repr members ↔
      ∃ member ∈ members, form ∈ if isTextKey member.1 then [strOf repr member.2] else texts repr member.2 := by
  induction members with
  | nil => simp [textsMembers]
  | cons member members ih => rw [textsMembers, List.mem_append, ih, List.exists_mem_cons_iff]

theorem showable_arr_iff {items : List Document} :
    Showable repr (room + 1) (.arr items) ↔ ∀ item ∈ items.take 20, Showable repr room item := by
  constructor
  · rintro ⟨hFrames, hTexts⟩ item hItem
    rw [frames, Nat.add_le_add_iff_right, framesItems_le_iff] at hFrames
    refine ⟨hFrames item hItem, fun form hForm => hTexts form ?_⟩
    rw [texts, mem_textsItems]
    exact ⟨item, hItem, hForm⟩
  · intro h
    refine ⟨?_, fun form hForm => ?_⟩
    · rw [frames, Nat.add_le_add_iff_right, framesItems_le_iff]
      exact fun item hItem => (h item hItem).frames
    · rw [texts, mem_textsItems] at hForm
      obtain ⟨item, hItem, hForm⟩ := hForm
      exact (h item hItem).texts form hForm

def MemberShowable (repr : Document → Option Text) (room : Nat) (member : Text × Document) : Prop :=
  if isTextKey member.1 then 0 < room ∧ ∃ text, strOf repr member.2 = some text ∧ Text.Encodable text
  else Showable repr room member.2

theorem showable_obj_iff {members : List (Text × Document)} :
    Showable repr (room + 1) (.obj members) ↔ ∀ member ∈ members, MemberShowable repr room member := by
  constructor
  · rintro ⟨hFrames, hTexts⟩ member hMember
    rw [frames, Nat.add_le_add_iff_right, framesMembers_le_iff] at hFrames
    have hFrame := hFrames member hMember
    have hForm : ∀ form ∈ (if isTextKey member.1 then [strOf repr member.2] else texts repr member.2),
        ∃ text, form = some text ∧ Text.Encodable text := fun form hForm =>
      hTexts form (mem_textsMembers.mpr ⟨member, hMember, hForm⟩)
    unfold MemberShowable
    by_cases hKey : isTextKey member.1 = true
    · rw [if_pos hKey] at hFrame hForm ⊢
      exact ⟨hFrame, hForm _ List.mem_cons_self⟩
    · rw [if_neg hKey] at hFrame hForm ⊢
      exact ⟨hFrame, hForm⟩
  · intro h
    unfold MemberShowable at h
    refine ⟨?_, fun form hForm => ?_⟩
    · rw [frames, Nat.add_le_add_iff_right, framesMembers_le_iff]
      intro member hMember
      have hMember := h member hMember
      split_ifs at hMember ⊢
      · exact hMember.1
      · exact hMember.frames
    · rw [texts, mem_textsMembers] at hForm
      obtain ⟨member, hMember, hForm⟩ := hForm
      have hMember := h member hMember
      split_ifs at hMember hForm
      · obtain rfl := List.mem_singleton.mp hForm
        exact hMember.2
      · exact hMember.texts form hForm

/-- The code returns exactly where the payload is showable. -/
theorem exists_safePayload_iff (payload : Document) :
    (∃ result, safePayload repr hexdigest room payload = .ok result) ↔ Showable repr room payload := by
  induction payload using Document.inductionOn generalizing room with
  | null | bool | int | float =>
    cases room with
    | zero => exact iff_of_false (fun ⟨_, h⟩ => nomatch h) fun h => absurd h.frames (by simp [frames])
    | succ room => exact iff_of_true ⟨_, rfl⟩ ⟨by simp [frames], by simp [texts]⟩
  | str text =>
    cases room with
    | zero =>
      refine iff_of_false (fun ⟨_, h⟩ => nomatch h) fun h => absurd h.frames ?_
      rw [frames]
      split_ifs <;> simp
    | succ room =>
      rw [safePayload]
      by_cases hLong : 160 < text.length
      · rw [if_pos hLong, Traverse.exists_map_ok_iff, exists_redactText_iff]
        constructor
        · exact fun ⟨hRoom, hEncodable⟩ => ⟨by simp [frames, hLong]; omega, by simp [texts, hLong, hEncodable]⟩
        · rintro ⟨hFrames, hTexts⟩
          simp only [frames, texts, if_pos hLong, List.forall_mem_singleton, Option.some.injEq, exists_eq_left'] at hFrames hTexts
          exact ⟨by omega, hTexts⟩
      · rw [if_neg hLong]
        exact iff_of_true ⟨_, rfl⟩ ⟨by simp [frames, hLong], by simp [texts, hLong]⟩
  | arr items ih =>
    cases room with
    | zero => exact iff_of_false (fun ⟨_, h⟩ => nomatch h) fun h => absurd h.frames (by simp [frames])
    | succ room =>
      rw [safePayload, Traverse.exists_map_ok_iff, Traverse.exists_mapM_ok_iff, showable_arr_iff]
      exact forall₂_congr fun item hItem => ih item (List.mem_of_mem_take hItem)
  | obj members ih =>
    cases room with
    | zero => exact iff_of_false (fun ⟨_, h⟩ => nomatch h) fun h => absurd h.frames (by simp [frames])
    | succ room =>
      rw [safePayload, Traverse.exists_map_ok_iff, Traverse.exists_mapM_ok_iff, showable_obj_iff]
      refine forall₂_congr fun member hMember => ?_
      unfold safeMember MemberShowable
      split_ifs
      · cases hForm : strOf repr member.2 with
        | none => simp
        | some text => simp [Traverse.exists_map_ok_iff, exists_redactText_iff]
      · rw [Traverse.exists_map_ok_iff, ih member hMember]

/-! ## What it returns -/

theorem safePayload_arr {items : List Document} {result : Document}
    (h : safePayload repr hexdigest (room + 1) (.arr items) = .ok result) :
    ∃ results, result = .arr results ∧
      List.Forall₂ (fun item result => safePayload repr hexdigest room item = .ok result) (items.take 20) results := by
  rw [safePayload] at h
  cases hItems : (items.take 20).mapM (safePayload repr hexdigest room) with
  | error error =>
    rw [hItems] at h
    cases h
  | ok results =>
    rw [hItems] at h
    cases h
    exact ⟨results, rfl, Traverse.mapM_ok_iff.mp hItems⟩

theorem safePayload_obj {members : List (Text × Document)} {result : Document}
    (h : safePayload repr hexdigest (room + 1) (.obj members) = .ok result) :
    ∃ results, result = .obj results ∧
      List.Forall₂ (fun member result => safeMember repr hexdigest room (safePayload repr hexdigest room) member = .ok result)
        members results := by
  rw [safePayload] at h
  cases hMembers : members.mapM (safeMember repr hexdigest room (safePayload repr hexdigest room)) with
  | error error =>
    rw [hMembers] at h
    cases h
  | ok results =>
    rw [hMembers] at h
    cases h
    exact ⟨results, rfl, Traverse.mapM_ok_iff.mp hMembers⟩

theorem safeMember_ok {inner : Document → Except RedactionError Document} {member result : Text × Document}
    (h : safeMember repr hexdigest room inner member = .ok result) :
    member.1 = result.1 ∧
      (isTextKey member.1 = true ∧ (∃ text shown, strOf repr member.2 = some text ∧ result.2 = .str shown ∧
          redactText hexdigest room 40 text = .ok shown) ∨
        isTextKey member.1 = false ∧ inner member.2 = .ok result.2) := by
  unfold safeMember at h
  by_cases hKey : isTextKey member.1 = true
  · rw [if_pos hKey] at h
    cases hForm : strOf repr member.2 with
    | none =>
      rw [hForm] at h
      cases h
    | some text =>
      rw [hForm] at h
      cases hShown : redactText hexdigest room 40 text with
      | error error =>
        simp only [hShown] at h
        cases h
      | ok shown =>
        simp only [hShown] at h
        cases h
        exact ⟨rfl, .inl ⟨hKey, text, shown, rfl, rfl, hShown⟩⟩
  · rw [if_neg hKey] at h
    cases hInner : inner member.2 with
    | error error =>
      rw [hInner] at h
      cases h
    | ok value =>
      rw [hInner] at h
      cases h
      exact ⟨rfl, .inr ⟨Bool.not_eq_true _ ▸ hKey, rfl⟩⟩

theorem safePayload_str {text : Text} {result : Document}
    (h : safePayload repr hexdigest (room + 1) (.str text) = .ok result) :
    160 < text.length ∧ result = .str (shownText hexdigest text) ∨ text.length ≤ 160 ∧ result = .str text := by
  rw [safePayload] at h
  split_ifs at h with hLong
  · cases hShown : redactText hexdigest room 40 text with
    | error error =>
      rw [hShown] at h
      cases h
    | ok shown =>
      rw [hShown] at h
      cases h
      obtain ⟨_, ⟨rfl, _⟩ | ⟨_, _, rfl⟩⟩ := redactText_eq_ok_iff.mp hShown
      · exact absurd hLong (by decide)
      · exact .inl ⟨hLong, rfl⟩
  · cases h
    exact .inr ⟨Nat.not_lt.mp hLong, rfl⟩

theorem safePayload_redacts {payload result : Document} (h : safePayload repr hexdigest room payload = .ok result) :
    Redacts repr hexdigest payload result := by
  induction payload using Document.inductionOn generalizing room result with
  | null | bool | int | float =>
    cases room with
    | zero => cases h
    | succ room =>
      cases h
      exact .plain trivial
  | str text =>
    cases room with
    | zero => cases h
    | succ room =>
      rcases safePayload_str h with ⟨hLong, rfl⟩ | ⟨hShort, rfl⟩
      · exact .text hLong (preview_shownText text)
      · exact .plain hShort
  | arr items ih =>
    cases room with
    | zero => cases h
    | succ room =>
      obtain ⟨results, rfl, hItems⟩ := safePayload_arr h
      refine .arr (Traverse.forall₂_imp_of_mem hItems ?_)
      exact fun item hItem result hResult => ih item (List.mem_of_mem_take hItem) hResult
  | obj members ih =>
    cases room with
    | zero => cases h
    | succ room =>
      obtain ⟨results, rfl, hMembers⟩ := safePayload_obj h
      refine .obj (Traverse.forall₂_imp_of_mem hMembers ?_)
      rintro ⟨key, value⟩ hMember ⟨key', result⟩ hResult
      obtain ⟨rfl, ⟨hKey, text, shown, hForm, rfl, hShown⟩ | ⟨hKey, hInner⟩⟩ := safeMember_ok hResult
      · refine .text hKey ⟨text, shown, hForm, rfl, ?_⟩
        obtain ⟨_, hEmpty | ⟨hSome, _, rfl⟩⟩ := redactText_eq_ok_iff.mp hShown
        · exact .inl hEmpty
        · exact .inr ⟨hSome, preview_shownText text⟩
      · exact .plain hKey (ih (key, value) hMember hInner)

theorem sameButDigests_shownText {a b : Text} (h : DifferBehind a b) :
    SameButDigests hexdigest (.str (shownText hexdigest a)) (.str (shownText hexdigest b)) := by
  obtain ⟨shown, hA, hB⟩ := @shownText_of_differBehind hexdigest a b h
  rw [hA, hB]
  exact .text shown a b

theorem safeMember_alike {inner : Document → Except RedactionError Document} {member other result result' : Text × Document}
    (hAlike : Member (AlikeText repr) (Alike repr) member other)
    (h : safeMember repr hexdigest room inner member = .ok result)
    (h' : safeMember repr hexdigest room inner other = .ok result')
    (ih : ∀ value value' : Document, Alike repr member.2 other.2 → inner member.2 = .ok value →
      inner other.2 = .ok value' → SameButDigests hexdigest value value') :
    Member (SameButDigests hexdigest) (SameButDigests hexdigest) result result' := by
  obtain ⟨hFirst, hCase⟩ := safeMember_ok h
  obtain ⟨hFirst', hCase'⟩ := safeMember_ok h'
  obtain ⟨key, result⟩ := result
  obtain ⟨key', result'⟩ := result'
  cases hAlike with
  | text hKey hText =>
    cases hFirst
    cases hFirst'
    rcases hCase with ⟨_, a, shown, hA, rfl, hShown⟩ | ⟨hNot, _⟩
    · rcases hCase' with ⟨_, b, shown', hB, rfl, hShown'⟩ | ⟨hNot, _⟩
      · refine .text hKey ?_
        rcases hText with hSame | ⟨a', b', hA', hB', hBehind⟩
        · cases hSame
          cases hA.symm.trans hB
          cases hShown.symm.trans hShown'
          exact .same _
        · cases hA.symm.trans hA'
          cases hB.symm.trans hB'
          obtain ⟨hSomeA, hSomeB⟩ := ne_nil_of_differBehind hBehind
          obtain ⟨_, ⟨hEmpty, _⟩ | ⟨_, _, rfl⟩⟩ := redactText_eq_ok_iff.mp hShown
          · exact absurd hEmpty hSomeA
          · obtain ⟨_, ⟨hEmpty, _⟩ | ⟨_, _, rfl⟩⟩ := redactText_eq_ok_iff.mp hShown'
            · exact absurd hEmpty hSomeB
            · exact sameButDigests_shownText hBehind
      · exact absurd hKey (by rw [hNot]; decide)
    · exact absurd hKey (by rw [hNot]; decide)
  | plain hKey hValue =>
    cases hFirst
    cases hFirst'
    rcases hCase with ⟨hText, _⟩ | ⟨_, hInner⟩
    · exact absurd hText (by rw [hKey]; decide)
    · rcases hCase' with ⟨hText, _⟩ | ⟨_, hInner'⟩
      · exact absurd hText (by rw [hKey]; decide)
      · exact .plain hKey (ih _ _ hValue hInner hInner')

theorem safePayload_alike {payload other result result' : Document} (hAlike : Alike repr payload other)
    (h : safePayload repr hexdigest room payload = .ok result)
    (h' : safePayload repr hexdigest room other = .ok result') : SameButDigests hexdigest result result' := by
  induction payload using Document.inductionOn generalizing room other result result' with
  | null | bool | int | float =>
    cases hAlike
    cases h.symm.trans h'
    exact .same result
  | str text =>
    cases hAlike with
    | same =>
      cases h.symm.trans h'
      exact .same result
    | text hA hB hBehind =>
      cases room with
      | zero => cases h
      | succ room =>
        rcases safePayload_str h with ⟨_, rfl⟩ | ⟨hShort, _⟩
        · rcases safePayload_str h' with ⟨_, rfl⟩ | ⟨hShort, _⟩
          · exact sameButDigests_shownText hBehind
          · exact absurd hB (Nat.not_lt.mpr hShort)
        · exact absurd hA (Nat.not_lt.mpr hShort)
  | arr items ih =>
    cases hAlike with
    | same =>
      cases h.symm.trans h'
      exact .same result
    | arr hItems =>
      cases room with
      | zero => cases h
      | succ room =>
        obtain ⟨results, rfl, hResults⟩ := safePayload_arr h
        obtain ⟨results', rfl, hResults'⟩ := safePayload_arr h'
        refine .arr (Traverse.forall₂_outputs (List.forall₂_take 20 hItems) hResults hResults' ?_)
        exact fun item hItem other value value' hEach hValue hValue' =>
          ih item (List.mem_of_mem_take hItem) hEach hValue hValue'
  | obj members ih =>
    cases hAlike with
    | same =>
      cases h.symm.trans h'
      exact .same result
    | obj hMembers =>
      cases room with
      | zero => cases h
      | succ room =>
        obtain ⟨results, rfl, hResults⟩ := safePayload_obj h
        obtain ⟨results', rfl, hResults'⟩ := safePayload_obj h'
        refine .obj (Traverse.forall₂_outputs hMembers hResults hResults' ?_)
        exact fun member hMember other value value' hEach hValue hValue' =>
          safeMember_alike hEach hValue hValue' fun _ _ hInner hOk hOk' => ih member hMember hInner hOk hOk'

/-- A payload is redacted, and two that are alike are the same but for the digests, exactly where
each text that is redacted can be encoded and the nesting is within the recursion limit. -/
theorem redacted_iff_showable (repr : Document → Option Text) (hexdigest : List Byte → Text) (room : Nat) :
    (∀ payload, (∃ result, safePayload repr hexdigest room payload = .ok result ∧ Redacts repr hexdigest payload result) ↔
        Showable repr room payload) ∧
      ∀ payload other, Alike repr payload other →
        ((∃ result result', safePayload repr hexdigest room payload = .ok result ∧
            safePayload repr hexdigest room other = .ok result' ∧ SameButDigests hexdigest result result') ↔
          Showable repr room payload ∧ Showable repr room other) := by
  constructor
  · intro payload
    rw [← @exists_safePayload_iff repr hexdigest room payload]
    exact exists_congr fun result => and_iff_left_of_imp safePayload_redacts
  · intro payload other hAlike
    rw [← @exists_safePayload_iff repr hexdigest room payload, ← @exists_safePayload_iff repr hexdigest room other]
    constructor
    · rintro ⟨result, result', h, h', _⟩
      exact ⟨⟨result, h⟩, result', h'⟩
    · rintro ⟨⟨result, h⟩, result', h'⟩
      exact ⟨result, result', h, h', safePayload_alike hAlike h h'⟩

end Redaction

/-- A surrogate standing alone, which a JSON text can escape, cannot be hashed. -/
theorem surrogate_not_redacted :
    ¬ ∃ result, safePayload (fun _ => none) (fun _ => []) 1000 (.obj [(ofString "text", .str [Fin.ofNat _ 0xD800])]) =
      .ok result := by
  rw [exists_safePayload_iff]
  intro hShowable
  obtain ⟨text, hText, hEncodable⟩ := hShowable.texts (some [Fin.ofNat _ 0xD800]) (by decide)
  cases hText
  exact absurd hEncodable (by decide)

end EidolonAdmin.MissionControl.Redaction
