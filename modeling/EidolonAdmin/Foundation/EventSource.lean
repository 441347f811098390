import Mathlib.Data.List.TakeWhile
import EidolonAdmin.Foundation.Text

/-! # Reading an event stream

How the reader of `text/event-stream` takes a stream apart, byte by byte: lines end in a newline, a
carriage return or both; a line names a field; an empty line dispatches what was collected. A byte
order mark in front of the stream is dropped. The reconnection time is left out, and text is compared
by its bytes.
-/

namespace EidolonAdmin.Foundation.EventSource

abbrev Bytes := List Byte

def newline : Byte := Text.byte 10

def carriageReturn : Byte := Text.byte 13

def colon : Byte := Text.byte 58

def space : Byte := Text.byte 32

def ascii (text : String) : Bytes := Text.utf8 (Text.ofString text)

def messageType : Bytes := ascii "message"

structure Message where
  eventType : Bytes
  data : Bytes
  lastEventId : Bytes
deriving DecidableEq, Repr

structure Reader where
  line : Bytes := []
  /-- The last byte was a carriage return; a newline behind it belongs to it. -/
  afterReturn : Bool := false
  data : Bytes := []
  /-- The type that the next event gets. -/
  eventType : Bytes := messageType
  /-- The last id read, and the last one that the source has taken over. -/
  id : Bytes := []
  lastEventId : Bytes := []
  messages : List Message := []
deriving DecidableEq, Repr

def unspaced (value : Bytes) : Bytes := if value.head? = some space then value.drop 1 else value

def field (line : Bytes) : Bytes × Bytes :=
  (line.takeWhile (· ≠ colon), unspaced ((line.dropWhile (· ≠ colon)).drop 1))

theorem field_of_colon {name : Bytes} (h : colon ∉ name) (value : Bytes) :
    field (name ++ colon :: value) = (name, unspaced value) := by
  have hName : ∀ b ∈ name, decide (b ≠ colon) = true := fun b hB => decide_eq_true fun hSame => h (hSame ▸ hB)
  rw [field, List.takeWhile_append_of_pos hName, List.dropWhile_append_of_pos hName]
  simp

theorem field_of_no_colon {line : Bytes} (h : colon ∉ line) : field line = (line, []) := by
  have hLine : ∀ b ∈ line, decide (b ≠ colon) = true := fun b hB => decide_eq_true fun hSame => h (hSame ▸ hB)
  rw [field, List.takeWhile_eq_self_iff.mpr hLine, List.dropWhile_eq_nil_iff.mpr hLine]
  rfl

theorem length_unspaced (value : Bytes) : value.length ≤ (unspaced value).length + 1 := by
  unfold unspaced
  split
  · rw [List.length_drop]
    omega
  · omega

namespace Reader

def dispatch (s : Reader) : Reader :=
  { s with
    data := []
    eventType := messageType
    lastEventId := s.id
    messages := s.messages ++ if s.data = [] then [] else [⟨s.eventType, s.data.dropLast, s.id⟩] }

def processField (s : Reader) (name value : Bytes) : Reader :=
  if name = ascii "event" then { s with eventType := if value = [] then messageType else value }
  else if name = ascii "data" then { s with data := s.data ++ value ++ [newline] }
  else if name = ascii "id" ∧ Text.byte 0 ∉ value then { s with id := value }
  else s

def endLine (s : Reader) : Reader :=
  if s.line = [] then s.dispatch
  else { s.processField (field s.line).1 (field s.line).2 with line := [] }

def step (s : Reader) (b : Byte) : Reader :=
  if b = newline then { (if s.afterReturn then s else s.endLine) with afterReturn := false }
  else if b = carriageReturn then { s.endLine with afterReturn := true }
  else { s with line := s.line ++ [b], afterReturn := false }

def feed (s : Reader) (bytes : Bytes) : Reader := bytes.foldl step s

/-- What a page can see of it: the messages, and the id that a reconnection presents. -/
def seen (s : Reader) : List Message × Bytes := (s.messages, s.lastEventId)

/-- Nothing of an event was read yet. -/
structure Idle (s : Reader) : Prop where
  line : s.line = []
  data : s.data = []
  eventType : s.eventType = messageType
  id : s.lastEventId = s.id

end Reader

def Plain (text : Bytes) : Prop := newline ∉ text ∧ carriageReturn ∉ text

instance (text : Bytes) : Decidable (Plain text) := inferInstanceAs (Decidable (_ ∧ _))

/-- A line with a value, and the empty line that makes it an event. -/
def dataFrame (text : Bytes) : Bytes := ascii "data: " ++ text ++ [newline, newline]

/-- A line that is ignored, and the empty line behind it. -/
def comment (text : Bytes) : Bytes := colon :: text ++ [newline, newline]

namespace Reader

variable {s : Reader} {text : Bytes}

theorem feed_append (s : Reader) (first second : Bytes) : s.feed (first ++ second) = (s.feed first).feed second :=
  List.foldl_append

theorem feed_cons (s : Reader) (b : Byte) (rest : Bytes) : s.feed (b :: rest) = (s.step b).feed rest := rfl

theorem step_newline (h : s.afterReturn = false) : s.step newline = { s.endLine with afterReturn := false } := by
  rw [step, if_pos rfl, h]
  rfl

theorem step_plain {b : Byte} (hNewline : b ≠ newline) (hReturn : b ≠ carriageReturn) :
    s.step b = { s with line := s.line ++ [b], afterReturn := false } := by
  rw [step, if_neg hNewline, if_neg hReturn]

theorem feed_plain {b : Byte} (h : Plain (b :: text)) :
    s.feed (b :: text) = { s with line := s.line ++ b :: text, afterReturn := false } := by
  induction text generalizing s b with
  | nil =>
    obtain ⟨hNewline, hReturn⟩ := h
    exact step_plain (fun hSame => hNewline (hSame ▸ List.mem_cons_self))
      fun hSame => hReturn (hSame ▸ List.mem_cons_self)
  | cons c text ih =>
    obtain ⟨hNewline, hReturn⟩ := h
    rw [feed_cons, step_plain (fun hSame => hNewline (hSame ▸ List.mem_cons_self))
      fun hSame => hReturn (hSame ▸ List.mem_cons_self)]
    rw [ih ⟨fun hMem => hNewline (List.mem_cons_of_mem _ hMem), fun hMem => hReturn (List.mem_cons_of_mem _ hMem)⟩]
    simp

theorem feed_line {b : Byte} (h : Plain (b :: text)) :
    s.feed (b :: text ++ [newline]) =
      { s.processField (field (s.line ++ b :: text)).1 (field (s.line ++ b :: text)).2 with
        line := [], afterReturn := false } := by
  rw [feed_append, feed_plain h, feed_cons, step_newline rfl, endLine, if_neg (by simp)]
  unfold processField
  simp only [feed, List.foldl_nil]
  split_ifs <;> rfl

theorem endLine_empty (h : s.line = []) : s.endLine = s.dispatch := if_pos h

theorem feed_frame {b : Byte} (h : Plain (b :: text)) :
    s.feed (b :: text ++ [newline, newline]) =
      { (s.processField (field (s.line ++ b :: text)).1 (field (s.line ++ b :: text)).2).dispatch with
        line := [], afterReturn := false } := by
  have hSplit : b :: text ++ [newline, newline] = (b :: text ++ [newline]) ++ [newline] := by simp
  rw [hSplit, feed_append, feed_line h, feed_cons, step_newline rfl, endLine_empty rfl]
  rfl

/-! ## Comments -/

theorem field_comment (text : Bytes) : (field (colon :: text)).1 = [] := by
  rw [← List.nil_append (colon :: text), field_of_colon List.not_mem_nil]

theorem processField_nil (s : Reader) (value : Bytes) : s.processField [] value = s := by
  have hEvent : ([] : Bytes) ≠ ascii "event" := by decide
  have hData : ([] : Bytes) ≠ ascii "data" := by decide
  have hId : ([] : Bytes) ≠ ascii "id" := by decide
  rw [processField, if_neg hEvent, if_neg hData, if_neg fun h => hId h.1]

theorem feed_comment (hText : Plain (colon :: text)) (hLine : s.line = []) :
    s.feed (comment text) = { s.dispatch with line := [], afterReturn := false } := by
  rw [comment, feed_frame hText, hLine, List.nil_append, field_comment, processField_nil]

theorem dispatch_idle (h : s.Idle) : s.dispatch = s := by
  obtain ⟨line, afterReturn, data, eventType, id, lastEventId, messages⟩ := s
  obtain ⟨hLine, hData, hType, hId⟩ := h
  simp only at hLine hData hType hId
  subst hLine hData hType hId
  simp [dispatch]

theorem endLine_idle (h : s.Idle) : s.endLine = s := (endLine_empty h.line).trans (dispatch_idle h)

theorem Idle.afterReturn (h : s.Idle) (value : Bool) : Idle { s with afterReturn := value } :=
  ⟨h.line, h.data, h.eventType, h.id⟩

theorem step_idle (h : s.Idle) (b : Byte) : ({ s with afterReturn := false } : Reader).step b = s.step b := by
  have hLeft := endLine_idle (h.afterReturn false)
  have hRight := endLine_idle h
  by_cases hNewline : b = newline
  · simp only [step, if_pos hNewline, hLeft, hRight, ite_self]
  · by_cases hReturn : b = carriageReturn
    · simp only [step, if_neg hNewline, if_pos hReturn, hLeft, hRight]
    · rw [step_plain hNewline hReturn, step_plain hNewline hReturn]

theorem seen_feed_idle (h : s.Idle) (rest : Bytes) :
    (({ s with afterReturn := false } : Reader).feed rest).seen = (s.feed rest).seen := by
  cases rest with
  | nil => rfl
  | cons b rest => rw [feed_cons, feed_cons, step_idle h]

theorem seen_comment_of_idle (hText : Plain (colon :: text)) (h : s.Idle) (rest : Bytes) :
    (s.feed (comment text ++ rest)).seen = (s.feed rest).seen := by
  have hSame : ({ s with line := [], afterReturn := false } : Reader) = { s with afterReturn := false } := by
    rw [← h.line]
  rw [feed_append, feed_comment hText h.line, dispatch_idle h, hSame, seen_feed_idle h]

/-- The shortest event: a field without a value, and an empty line. -/
def bareEvent : Bytes := ascii "data" ++ [newline, newline]

/-- Behind anything at all the shortest event is another field, or one with a value. -/
theorem field_append_data_ne {line : Bytes} (h : line ≠ []) : field (line ++ ascii "data") ≠ (ascii "data", []) := by
  intro hField
  by_cases hColon : colon ∈ line
  · obtain ⟨name, value, rfl, hName⟩ := List.eq_append_cons_of_mem hColon
    rw [List.append_assoc, List.cons_append, field_of_colon hName] at hField
    have hLength := length_unspaced (value ++ ascii "data")
    rw [(Prod.mk.inj hField).2, List.length_append] at hLength
    have hData : (ascii "data").length = 4 := by decide
    simp only [List.length_nil, hData] at hLength
    omega
  · have hData : colon ∉ ascii "data" := by decide
    rw [field_of_no_colon fun hMem => (List.mem_append.mp hMem).elim hColon hData] at hField
    exact h (List.append_left_eq_self.mp (Prod.mk.inj hField).1)

theorem feed_bareEvent (s : Reader) :
    s.feed bareEvent =
      { (s.processField (field (s.line ++ ascii "data")).1 (field (s.line ++ ascii "data")).2).dispatch with
        line := [], afterReturn := false } := by
  have hPlain : Plain (Text.byte 100 :: [Text.byte 97, Text.byte 116, Text.byte 97]) := by decide
  exact feed_frame hPlain

theorem data_processField (s : Reader) (name value : Bytes) :
    (s.processField name value).data = s.data ++ if name = ascii "data" then value ++ [newline] else [] := by
  have hOther : ascii "event" ≠ ascii "data" := by decide
  unfold processField
  split
  case isTrue hEvent => rw [hEvent, if_neg hOther, List.append_nil]
  case isFalse =>
    split
    · rw [List.append_assoc]
    · split
      · rw [List.append_nil]
      · rw [List.append_nil]

theorem messages_processField (s : Reader) (name value : Bytes) : (s.processField name value).messages = s.messages := by
  unfold processField
  split_ifs <;> rfl

theorem data_of_dispatch {u : Reader} (h : u.dispatch.messages = u.messages) : u.data = [] := by
  by_contra hData
  rw [dispatch, if_neg hData] at h
  exact List.cons_ne_nil _ _ (List.append_right_eq_self.mp h)

theorem messages_dispatch_quiet (h : s.data = []) : s.dispatch.messages = s.messages := by
  rw [dispatch, if_pos h, List.append_nil]

theorem messages_bareEvent (h : s.data = []) :
    ∃ eventType lastEventId, (s.feed bareEvent).messages =
      s.messages ++ if (field (s.line ++ ascii "data")).1 = ascii "data" then
        [⟨eventType, (field (s.line ++ ascii "data")).2, lastEventId⟩] else [] := by
  rw [feed_bareEvent]
  generalize field (s.line ++ ascii "data") = named
  refine ⟨(s.processField named.1 named.2).eventType, (s.processField named.1 named.2).id, ?_⟩
  simp only [dispatch, data_processField, messages_processField, h, List.nil_append]
  by_cases hName : named.1 = ascii "data"
  · rw [if_pos hName, if_pos hName, if_neg (by simp), List.dropLast_concat]
  · rw [if_neg hName, if_neg hName, if_pos rfl]

theorem messages_bareEvent_of_line (hLine : s.line = []) (hData : s.data = []) :
    (s.feed bareEvent).messages = s.messages ++ [⟨s.eventType, [], s.id⟩] := by
  have hField : field (ascii "data") = (ascii "data", []) := by decide
  have hEvent : ascii "data" ≠ ascii "event" := by decide
  rw [feed_bareEvent, hLine, List.nil_append, hField]
  simp [processField, if_neg hEvent, dispatch, hData]

/-- Had the reader collected anything, the comment would show in one of two continuations: the end of the
stream, or one more event. -/
theorem idle_of_seen_comment (hText : Plain (colon :: text)) (hEnd : (s.feed (comment text)).seen = s.seen)
    (hBare : (s.feed (comment text ++ bareEvent)).seen = (s.feed bareEvent).seen) : s.Idle := by
  have hComment := feed_frame (s := s) hText
  set t := s.processField (field (s.line ++ colon :: text)).1 (field (s.line ++ colon :: text)).2 with hT
  have hMessages : t.messages = s.messages := messages_processField s _ _
  rw [comment, hComment] at hEnd
  obtain ⟨hSilent, hLast⟩ := Prod.mk.inj hEnd
  have hQuiet : t.data = [] := data_of_dispatch (hSilent.trans hMessages.symm)
  have hData : s.data = [] := by
    rw [hT, data_processField] at hQuiet
    exact (List.append_eq_nil_iff.mp hQuiet).1
  have hEvent := congrArg Prod.fst hBare
  rw [feed_append, comment, hComment, seen, seen, messages_bareEvent_of_line rfl rfl,
    messages_dispatch_quiet hQuiet, hMessages] at hEvent
  have hLine : s.line = [] := by
    by_contra hLine
    obtain ⟨eventType, lastEventId, hOther⟩ := messages_bareEvent hData
    rw [hOther, List.append_cancel_left_eq] at hEvent
    split at hEvent
    case isTrue hName =>
      have hValue := (Message.mk.inj (List.cons_eq_cons.mp hEvent).1).2.1
      exact field_append_data_ne hLine (Prod.ext hName hValue.symm)
    case isFalse => exact List.cons_ne_nil _ _ hEvent
  have hIdle : t = s := by rw [hT, hLine, List.nil_append, field_comment, processField_nil]
  rw [messages_bareEvent_of_line hLine hData, List.append_cancel_left_eq] at hEvent
  rw [hIdle] at hLast
  exact ⟨hLine, hData, (Message.mk.inj (List.cons_eq_cons.mp hEvent).1).1.symm, hLast.symm⟩

theorem messages_step (s : Reader) (b : Byte) : s.messages <+: (s.step b).messages := by
  have hEnd : s.messages <+: s.endLine.messages := by
    unfold endLine
    split
    · exact List.prefix_append _ _
    · exact (messages_processField s _ _) ▸ List.prefix_rfl
  unfold step
  split
  · split
    · exact List.prefix_rfl
    · exact hEnd
  · split
    · exact hEnd
    · exact List.prefix_rfl

theorem messages_feed (s : Reader) (bytes : Bytes) : s.messages <+: (s.feed bytes).messages := by
  induction bytes generalizing s with
  | nil => exact List.prefix_rfl
  | cons b rest ih => exact (messages_step s b).trans (ih (s.step b))

/-! ## Events of one line -/

theorem field_data (text : Bytes) : field (ascii "data: " ++ text) = (ascii "data", text) := by
  have hName : colon ∉ ascii "data" := by decide
  exact field_of_colon hName (space :: text)

theorem plain_append {first second : Bytes} : Plain (first ++ second) ↔ Plain first ∧ Plain second := by
  simp only [Plain, List.mem_append, not_or, and_and_and_comm]

theorem feed_dataFrame (hText : Plain text) (h : s.Idle) :
    s.feed (dataFrame text) = { s with messages := s.messages ++ [⟨messageType, text, s.id⟩], afterReturn := false } := by
  have hHead : Plain (ascii "data: ") := by decide
  have hEvent : ascii "data" ≠ ascii "event" := by decide
  have hFrame : s.feed (dataFrame text) =
      { (s.processField (field (s.line ++ (ascii "data: " ++ text))).1
          (field (s.line ++ (ascii "data: " ++ text))).2).dispatch with line := [], afterReturn := false } :=
    feed_frame (plain_append.mpr ⟨hHead, hText⟩)
  rw [hFrame, h.line, List.nil_append, field_data, processField, if_neg hEvent, if_pos rfl]
  simp [dispatch, h.data, h.eventType, h.id, h.line]

theorem feed_dataFrames {texts : List Bytes} (hTexts : ∀ text ∈ texts, Plain text) (h : s.Idle) :
    (s.feed (texts.flatMap dataFrame)).Idle ∧
      (s.feed (texts.flatMap dataFrame)).messages = s.messages ++ texts.map fun text => ⟨messageType, text, s.id⟩ := by
  induction texts generalizing s with
  | nil => exact ⟨h, (List.append_nil _).symm⟩
  | cons text rest ih =>
    rw [List.flatMap_cons, feed_append, feed_dataFrame (hTexts text List.mem_cons_self) h]
    obtain ⟨hIdle, hMessages⟩ := ih (s := { s with messages := s.messages ++ [⟨messageType, text, s.id⟩], afterReturn := false })
      (fun other hOther => hTexts other (List.mem_cons_of_mem _ hOther)) ⟨h.line, h.data, h.eventType, h.id⟩
    refine ⟨hIdle, ?_⟩
    rw [hMessages, List.append_assoc]
    rfl

theorem idle_empty : Idle {} := ⟨rfl, rfl, rfl, rfl⟩

end Reader

/-! ## Whole streams -/

def byteOrderMark : Bytes := [Text.byte 0xEF, Text.byte 0xBB, Text.byte 0xBF]

def unmarked (bytes : Bytes) : Bytes := if byteOrderMark <+: bytes then bytes.drop byteOrderMark.length else bytes

/-- The reader of a connection that has brought the bytes. -/
def readerOf (bytes : Bytes) : Reader := Reader.feed {} (unmarked bytes)

/-- Only a stream that breaks off inside a mark is read otherwise once more of it comes. -/
theorem unmarked_append {bytes rest : Bytes}
    (h : ∀ missing, bytes ++ missing = byteOrderMark → missing <+: rest → missing = []) :
    unmarked (bytes ++ rest) = unmarked bytes ++ rest := by
  by_cases hMarked : byteOrderMark <+: bytes
  · obtain ⟨text, rfl⟩ := hMarked
    rw [List.append_assoc, unmarked, unmarked, if_pos (List.prefix_append _ _), if_pos (List.prefix_append _ _),
      List.drop_left, List.drop_left]
  · have hNot : ¬ byteOrderMark <+: bytes ++ rest := by
      intro hPrefix
      obtain ⟨missing, hMissing⟩ := (List.prefix_or_prefix_of_prefix hPrefix (List.prefix_append bytes rest)).resolve_left
        hMarked
      have hRest : missing <+: rest := by
        rw [← hMissing] at hPrefix
        exact (List.prefix_append_right_inj bytes).mp hPrefix
      rw [h missing hMissing hRest, List.append_nil] at hMissing
      exact hMarked (hMissing ▸ List.prefix_rfl)
    rw [unmarked, unmarked, if_neg hNot, if_neg hMarked]

theorem readerOf_append {bytes rest : Bytes}
    (h : ∀ missing, bytes ++ missing = byteOrderMark → missing <+: rest → missing = []) :
    readerOf (bytes ++ rest) = (readerOf bytes).feed rest := by
  rw [readerOf, readerOf, unmarked_append h, Reader.feed_append]

/-- What begins with a byte that no mark has. -/
def Apart (rest : Bytes) : Prop := ∀ b ∈ rest.head?, b ∉ byteOrderMark

theorem apart_cons {b : Byte} {rest : Bytes} (h : b ∉ byteOrderMark) : Apart (b :: rest) := by
  intro first hFirst
  exact Option.some.inj hFirst ▸ h

theorem readerOf_append_apart {bytes rest : Bytes} (h : Apart rest) :
    readerOf (bytes ++ rest) = (readerOf bytes).feed rest := by
  refine readerOf_append fun missing hMark hPrefix => ?_
  cases missing with
  | nil => rfl
  | cons b others =>
    obtain ⟨more, rfl⟩ := hPrefix
    exact absurd (hMark ▸ List.mem_append_right _ List.mem_cons_self) (h b rfl)

theorem readerOf_eq_feed {bytes : Bytes} (h : Apart bytes) : readerOf bytes = Reader.feed {} bytes := by
  rw [← List.nil_append bytes, readerOf_append_apart h, List.nil_append]
  rfl

/-- A stream that breaks off inside a mark has brought no message and no whole line. -/
theorem readerOf_of_inside {bytes missing : Bytes} (hMissing : missing ≠ []) (h : bytes ++ missing = byteOrderMark) :
    (readerOf bytes).messages = [] ∧ (bytes ≠ [] → ¬ (readerOf bytes).Idle) := by
  have hTake : bytes = byteOrderMark.take bytes.length := by rw [← h, List.take_left]
  have hLength : bytes.length + missing.length = 3 := by rw [← List.length_append, h]; rfl
  have hPos := List.length_pos_iff.mpr hMissing
  obtain hZero | hOne | hTwo : bytes.length = 0 ∨ bytes.length = 1 ∨ bytes.length = 2 := by omega
  · rw [hTake, hZero]
    exact ⟨rfl, fun hEmpty => absurd rfl hEmpty⟩
  · rw [hTake, hOne]
    exact ⟨by decide, fun _ hIdle => absurd hIdle.line (by decide)⟩
  · rw [hTake, hTwo]
    exact ⟨by decide, fun _ hIdle => absurd hIdle.line (by decide)⟩

theorem messages_append (bytes rest : Bytes) : (readerOf bytes).messages <+: (readerOf (bytes ++ rest)).messages := by
  by_cases hInside : ∃ missing, missing ≠ [] ∧ bytes ++ missing = byteOrderMark
  · obtain ⟨missing, hMissing, hMark⟩ := hInside
    rw [(readerOf_of_inside hMissing hMark).1]
    exact List.nil_prefix
  · rw [readerOf_append fun missing hMark _ => by_contra fun hMissing => hInside ⟨missing, hMissing, hMark⟩]
    exact Reader.messages_feed _ rest

/-! ## Streams that cannot be told apart -/

/-- No continuation tells the two apart. -/
def Indistinct (first second : Bytes) : Prop :=
  ∀ rest, (readerOf (first ++ rest)).seen = (readerOf (second ++ rest)).seen

theorem Indistinct.refl (bytes : Bytes) : Indistinct bytes bytes := fun _ => rfl

theorem Indistinct.symm {first second : Bytes} (h : Indistinct first second) : Indistinct second first :=
  fun rest => (h rest).symm

theorem Indistinct.trans {first second third : Bytes} (h : Indistinct first second) (h' : Indistinct second third) :
    Indistinct first third :=
  fun rest => (h rest).trans (h' rest)

theorem Indistinct.append {first second : Bytes} (h : Indistinct first second) (bytes : Bytes) :
    Indistinct (first ++ bytes) (second ++ bytes) := by
  intro rest
  rw [List.append_assoc, List.append_assoc]
  exact h (bytes ++ rest)

theorem apart_comment (text rest : Bytes) : Apart (comment text ++ rest) := apart_cons (by decide)

/-- In front of the stream a comment shows: a mark behind it is not dropped any more. -/
theorem not_indistinct_front {text : Bytes} (hText : Plain (colon :: text)) : ¬ Indistinct (comment text) [] := by
  intro h
  have hMarked := h (byteOrderMark ++ Reader.bareEvent)
  rw [readerOf_eq_feed (apart_comment text _), Reader.seen_comment_of_idle hText Reader.idle_empty] at hMarked
  revert hMarked
  decide

/-- A comment cannot be told from nothing exactly where the stream has begun and stands between two events. -/
theorem indistinct_comment_iff {text : Bytes} (hText : Plain (colon :: text)) (bytes : Bytes) :
    Indistinct (bytes ++ comment text) bytes ↔ bytes ≠ [] ∧ (readerOf bytes).Idle := by
  constructor
  · intro h
    constructor
    · rintro rfl
      exact not_indistinct_front hText h
    · have hBare : Apart Reader.bareEvent := apart_cons (by decide)
      have hEnd := h []
      have hEvent := h Reader.bareEvent
      rw [List.append_assoc, readerOf_append_apart (apart_comment text _)] at hEnd hEvent
      rw [List.append_nil, List.append_nil] at hEnd
      rw [readerOf_append_apart hBare] at hEvent
      exact Reader.idle_of_seen_comment hText hEnd hEvent
  · rintro ⟨hBegun, hIdle⟩ rest
    have hRest : readerOf (bytes ++ rest) = (readerOf bytes).feed rest :=
      readerOf_append fun missing hMark _ =>
        by_contra fun hMissing => (readerOf_of_inside hMissing hMark).2 hBegun hIdle
    rw [List.append_assoc, readerOf_append_apart (apart_comment text rest), hRest]
    exact Reader.seen_comment_of_idle hText hIdle rest

end EidolonAdmin.Foundation.EventSource
