import Mathlib.Data.List.ReduceOption
import EidolonAdmin.Bootstrap.TlsSession

/-! # What a commissioning link may send

The lines of the stream decide which objects the session receives. It closes without an exception
where the first line that is no object is refused as JSON, and where nothing that the protocol
answers is refused by the encoder; a line that is text in no encoding, an integer too long to read
and a document too deep are not refused as JSON.
-/

namespace EidolonAdmin.Bootstrap.TlsSession

open Foundation Foundation.JsonText

variable {σ : Type} {room : Nat} {env : Environment σ} {tail : List Byte} {ending : End}

/-- The JSON object that a line of at most 64 KiB is. -/
def objectOf (room : Nat) (raw : List Byte) : Option Members :=
  if raw ≠ [] ∧ raw.length ≤ maxApplicationMessage then
    match loads room raw with
    | .ok (.obj members) => some members
    | _ => none
  else none

def expected (room : Nat) (bytes : List Byte) (ending : End) : List Members × End :=
  let objects := (linesOf bytes).1.map (objectOf room)
  ((objects.takeWhile Option.isSome).reduceOption,
    if objects.all Option.isSome ∧ (linesOf bytes).2.length ≤ maxApplicationMessage then ending else .returned)

/-- The line is a document or is refused as JSON: it is text in the encoding it shows, and the
scanner meets no integer with too many digits and no nesting beyond its room. -/
def Regular (room : Nat) (raw : List Byte) : Prop :=
  ∀ error, loads room raw = .error error → error = .jsonDecode

def FirstRefusedRegular (room : Nat) (lines : List (List Byte)) : Prop :=
  ∀ before raw after, lines = before ++ raw :: after → (∀ line ∈ before, (objectOf room line).isSome) →
    raw ≠ [] → raw.length ≤ maxApplicationMessage → Regular room raw

/-! ## Lines -/

theorem judge_of_some {raw : List Byte} {members : Members} (h : objectOf room raw = some members) :
    judge room raw = .object members := by
  unfold objectOf at h
  split_ifs at h with hFits
  have hShort : ¬ (raw = [] ∨ maxApplicationMessage < raw.length) := by
    rintro (hEmpty | hLong)
    · exact hFits.1 hEmpty
    · exact absurd hFits.2 (Nat.not_le.mpr hLong)
  split at h
  · rename_i found hLoads
    cases h
    rw [judge, if_neg hShort, hLoads]
  · cases h

theorem judge_of_none {raw : List Byte} (h : objectOf room raw = none) :
    (judge room raw = .closed ∧ (raw ≠ [] → raw.length ≤ maxApplicationMessage → Regular room raw)) ∨
      ∃ error, judge room raw = .raised (.loads error) ∧ raw ≠ [] ∧ raw.length ≤ maxApplicationMessage ∧
        loads room raw = .error error ∧ error ≠ .jsonDecode := by
  unfold objectOf at h
  by_cases hFits : raw ≠ [] ∧ raw.length ≤ maxApplicationMessage
  · have hShort : ¬ (raw = [] ∨ maxApplicationMessage < raw.length) := by
      rintro (hEmpty | hLong)
      · exact hFits.1 hEmpty
      · exact absurd hFits.2 (Nat.not_le.mpr hLong)
    rw [if_pos hFits] at h
    rw [judge, if_neg hShort]
    unfold Regular
    cases hLoads : loads room raw with
    | error error =>
      cases error with
      | jsonDecode => exact .inl ⟨rfl, fun _ _ error hError => (Except.error.inj hError).symm⟩
      | unicodeDecode => exact .inr ⟨_, rfl, hFits.1, hFits.2, rfl, by decide⟩
      | intDigits => exact .inr ⟨_, rfl, hFits.1, hFits.2, rfl, by decide⟩
      | recursion => exact .inr ⟨_, rfl, hFits.1, hFits.2, rfl, by decide⟩
    | ok document =>
      rw [hLoads] at h
      refine .inl ⟨?_, fun _ _ error hError => by cases hError⟩
      cases document with
      | obj members => cases h
      | _ => rfl
  · have hRefused : raw = [] ∨ maxApplicationMessage < raw.length := by
      rw [not_and_or, not_not, Nat.not_le] at hFits
      exact hFits
    refine .inl ⟨by rw [judge, if_pos hRefused], fun hEmpty hLong => absurd ⟨hEmpty, hLong⟩ hFits⟩

theorem firstRefusedRegular_cons {raw : List Byte} {lines : List (List Byte)}
    (h : (objectOf room raw).isSome = true) :
    FirstRefusedRegular room (raw :: lines) ↔ FirstRefusedRegular room lines := by
  constructor
  · intro hAll before line after hSplit hBefore
    refine hAll (raw :: before) line after (congrArg (raw :: ·) hSplit) ?_
    exact List.forall_mem_cons.mpr ⟨h, hBefore⟩
  · intro hLines before line after hSplit hBefore hEmpty hLong
    cases before with
    | nil =>
      cases hSplit
      intro error hError
      unfold objectOf at h
      rw [if_pos ⟨hEmpty, hLong⟩, hError] at h
      cases h
    | cons first before =>
      obtain ⟨rfl, hRest⟩ := List.cons.inj hSplit
      exact hLines before line after hRest (fun line hLine => hBefore line (List.mem_cons_of_mem _ hLine))
        hEmpty hLong

theorem firstRefusedRegular_of_none {raw : List Byte} {lines : List (List Byte)}
    (h : objectOf room raw = none) :
    FirstRefusedRegular room (raw :: lines) ↔
      (raw ≠ [] → raw.length ≤ maxApplicationMessage → Regular room raw) := by
  constructor
  · intro hAll
    exact hAll [] raw lines rfl (List.forall_mem_nil _)
  · intro hRegular before line after hSplit hBefore
    cases before with
    | nil =>
      cases hSplit
      exact hRegular
    | cons first before =>
      obtain ⟨rfl, -⟩ := List.cons.inj hSplit
      have hSome := hBefore raw List.mem_cons_self
      rw [h] at hSome
      cases hSome

/-- The objects received are those of the lines, and the session closes at the first line that is
none, exactly where that line is regular. -/
theorem serveLines_record (lines : List (List Byte)) (objects : List Members) :
    serveLines room (fun objects members => .ok (objects ++ [members])) tail ending lines objects =
        (objects ++ ((lines.map (objectOf room)).takeWhile Option.isSome).reduceOption,
          if (lines.map (objectOf room)).all Option.isSome ∧ tail.length ≤ maxApplicationMessage then ending
          else .returned) ↔
      FirstRefusedRegular room lines := by
  induction lines generalizing objects with
  | nil =>
    refine iff_of_true ?_ ?_
    · rw [serveLines]
      by_cases hTail : maxApplicationMessage < tail.length
      · simp [hTail, Nat.not_le.mpr hTail]
      · simp [hTail, Nat.not_lt.mp hTail]
    · intro before raw after hSplit
      exact absurd hSplit.symm (List.append_ne_nil_of_right_ne_nil before (List.cons_ne_nil raw after))
  | cons raw lines ih =>
    cases hObject : objectOf room raw with
    | some members =>
      rw [firstRefusedRegular_cons (by rw [hObject]; rfl), ← ih (objects ++ [members]), serveLines,
        judge_of_some hObject]
      simp [hObject]
    | none =>
      rw [firstRefusedRegular_of_none hObject, serveLines]
      rcases judge_of_none hObject with ⟨hJudge, hRegular⟩ | ⟨error, hJudge, hEmpty, hLong, hLoads, hError⟩
      · rw [hJudge]
        refine iff_of_true ?_ hRegular
        simp [hObject]
      · rw [hJudge]
        refine iff_of_false ?_ ?_
        · simp [hObject]
        · intro hRegular
          exact hError (hRegular hEmpty hLong error hLoads)

/-! ## Runs -/

/-- The answer is none that can be printed and encoded, or TLS raises an error while it is sent. -/
def Unanswerable (env : Environment σ) (s : σ) (members : Members) : Prop :=
  dumps env.dumpRoom (env.handle s members).1 = none ∨
    ∃ text, dumps env.dumpRoom (env.handle s members).1 = some text ∧
      (¬ Text.Encodable text ∨
        Text.Encodable text ∧ (Text.utf8 text ++ [newline]).length ≤ maxApplicationMessage ∧
          ∃ failure, env.send (env.handle s members).2 (Text.utf8 text ++ [newline]) = .error (.raised failure))

inductive Fault (room : Nat) (env : Environment σ) (tail : List Byte) (ending : End) :
    List (List Byte) → σ → Prop where
  | unreadable {raw : List Byte} {lines : List (List Byte)} {s : σ} {error : LoadsError} :
      raw ≠ [] → raw.length ≤ maxApplicationMessage → loads room raw = .error error → error ≠ .jsonDecode →
      Fault room env tail ending (raw :: lines) s
  | unanswerable {raw : List Byte} {lines : List (List Byte)} {s : σ} {members : Members} :
      objectOf room raw = some members → Unanswerable env s members →
      Fault room env tail ending (raw :: lines) s
  | later {raw : List Byte} {lines : List (List Byte)} {s s' : σ} {members : Members} :
      objectOf room raw = some members → answer env s members = .ok s' → Fault room env tail ending lines s' →
      Fault room env tail ending (raw :: lines) s
  | reading {s : σ} {failure : Failure} : tail.length ≤ maxApplicationMessage → ending = .raised failure →
      Fault room env tail ending [] s

theorem answer_raised_iff {s : σ} {members : Members} :
    (∃ failure, answer env s members = .error (.raised failure)) ↔ Unanswerable env s members := by
  unfold answer sendJson Unanswerable
  cases dumps env.dumpRoom (env.handle s members).1 with
  | none => simp
  | some text =>
    dsimp only
    by_cases hText : Text.Encodable text
    · have hPayload : Text.encodeUtf8 text = some (Text.utf8 text) := if_pos hText
      rw [hPayload]
      simp only [Option.some.injEq, reduceCtorEq, false_or, exists_eq_left', hText, not_true_eq_false, true_and]
      generalize Text.utf8 text ++ [newline] = payload
      split_ifs with hLong
      · simp [Nat.not_le.mpr hLong]
      · simp [Nat.not_lt.mp hLong]
    · have hPayload : Text.encodeUtf8 text = none := if_neg hText
      rw [hPayload]
      simp [hText]

theorem serveLines_raised_iff (lines : List (List Byte)) (s : σ) :
    (∃ failure, (serveLines room (answer env) tail ending lines s).2 = .raised failure) ↔
      Fault room env tail ending lines s := by
  induction lines generalizing s with
  | nil =>
    rw [serveLines]
    constructor
    · rintro ⟨failure, hEnding⟩
      split_ifs at hEnding with hLong
      exact .reading (Nat.not_lt.mp hLong) hEnding
    · intro hFault
      cases hFault with
      | reading hShort hEnding => exact ⟨_, by rw [if_neg (Nat.not_lt.mpr hShort), hEnding]⟩
  | cons raw lines ih =>
    rw [serveLines]
    cases hObject : objectOf room raw with
    | none =>
      rcases judge_of_none hObject with ⟨hJudge, hRegular⟩ | ⟨error, hJudge, hEmpty, hLong, hLoads, hError⟩
      · rw [hJudge]
        refine iff_of_false ?_ ?_
        · rintro ⟨failure, hEnding⟩
          cases hEnding
        · intro hFault
          cases hFault with
          | unreadable hEmpty hLong hLoads hError => exact hError (hRegular hEmpty hLong _ hLoads)
          | unanswerable hSome =>
            rw [hObject] at hSome
            cases hSome
          | later hSome =>
            rw [hObject] at hSome
            cases hSome
      · rw [hJudge]
        exact iff_of_true ⟨_, rfl⟩ (.unreadable hEmpty hLong hLoads hError)
    | some members =>
      rw [judge_of_some hObject]
      dsimp only
      cases hAnswer : answer env s members with
      | error stop =>
        constructor
        · rintro ⟨failure, rfl⟩
          exact .unanswerable hObject (answer_raised_iff.mp ⟨failure, hAnswer⟩)
        · intro hFault
          cases hFault with
          | unreadable hEmpty hLong hLoads =>
            rw [objectOf, if_pos ⟨hEmpty, hLong⟩, hLoads] at hObject
            cases hObject
          | unanswerable hSome hUnanswerable =>
            cases hObject.symm.trans hSome
            obtain ⟨failure, hRaised⟩ := answer_raised_iff.mpr hUnanswerable
            exact ⟨failure, Except.error.inj (hAnswer.symm.trans hRaised)⟩
          | later hSome hOk =>
            cases hObject.symm.trans hSome
            cases hAnswer.symm.trans hOk
      | ok s' =>
        rw [ih s']
        constructor
        · exact fun hFault => .later hObject hAnswer hFault
        · intro hFault
          cases hFault with
          | unreadable hEmpty hLong hLoads =>
            rw [objectOf, if_pos ⟨hEmpty, hLong⟩, hLoads] at hObject
            cases hObject
          | unanswerable hSome hUnanswerable =>
            cases hObject.symm.trans hSome
            obtain ⟨failure, hRaised⟩ := answer_raised_iff.mpr hUnanswerable
            cases hAnswer.symm.trans hRaised
          | later hSome hOk hLater =>
            cases hObject.symm.trans hSome
            cases hAnswer.symm.trans hOk
            exact hLater

/-! ## What a session may be sent -/

/-- Over this stream the session receives the objects of its lines and, once it ends, has closed
and raises nothing. -/
def Framed (room : Nat) (env : Environment σ) (reads : List TlsRead) (s : σ) : Prop :=
  receiveAll room reads = expected room (bytesOf reads) (endingOf reads) ∧
    ((runCommissioningTlsSession room env reads s).ending = .waiting ∨
      (runCommissioningTlsSession room env reads s).ending = .returned ∧
        (runCommissioningTlsSession room env reads s).closed = true)

structure Unsurprising (room : Nat) (env : Environment σ) (bytes : List Byte) (ending : End) (s : σ) : Prop where
  refused : FirstRefusedRegular room (linesOf bytes).1
  handshake : ∀ failure, env.handshake s ≠ .error (.raised failure)
  session : ∀ s', env.handshake s = .ok s' → ¬ Fault room env (linesOf bytes).2 ending (linesOf bytes).1 s'

theorem receiveAll_eq_expected_iff (reads : List TlsRead) :
    receiveAll room reads = expected room (bytesOf reads) (endingOf reads) ↔
      FirstRefusedRegular room (linesOf (bytesOf reads)).1 := by
  rw [receiveAll, serve_eq_serveLines, List.nil_append, ← serveLines_record (linesOf (bytesOf reads)).1 []]
  rfl

theorem finish_closes_iff (env : Environment σ) (last : σ × End) :
    ((finish env last).ending = .waiting ∨
        (finish env last).ending = .returned ∧ (finish env last).closed = true) ↔
      ∀ failure, last.2 ≠ .raised failure := by
  obtain ⟨s, ending⟩ := last
  cases ending with
  | waiting => simp [finish]
  | returned => simp [finish]
  | raised failure => simp [finish]

theorem converse_raised_iff (reads : List TlsRead) (s : σ) :
    (∃ failure, (converse room env reads s).2 = .raised failure) ↔
      (∃ failure, env.handshake s = .error (.raised failure)) ∨
        ∃ s', env.handshake s = .ok s' ∧
          Fault room env (linesOf (bytesOf reads)).2 (endingOf reads) (linesOf (bytesOf reads)).1 s' := by
  unfold converse
  cases env.handshake s with
  | error ending => simp
  | ok s' =>
    dsimp only
    rw [serve_eq_serveLines, List.nil_append, serveLines_raised_iff]
    simp

/-- A peer that does all it is asked, under Python's usual recursion limit. -/
def willing : Environment Unit where
  handshake _ := .ok ()
  handle _ _ := (.null, ())
  send _ _ := .ok ()
  close := id
  dumpRoom := 1000

end EidolonAdmin.Bootstrap.TlsSession
