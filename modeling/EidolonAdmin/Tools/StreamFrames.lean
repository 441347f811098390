import EidolonAdmin.Foundation.EventSource

/-! # The frames of the tool streams

`_sse` of the ESP32 and of the mobile router, which write every line of a job's log, of a serial
port or of a device's log as one event, and the page that reads them.
-/

namespace EidolonAdmin.Tools

open Foundation Foundation.EventSource

def backslash : CodePoint := Text.ofChar '\\'

/-- `line.replace("\r", "").replace("\n", "\\n")` -/
def safe (line : Text) : Text :=
  (line.filter fun point => point.val ≠ 13).flatMap fun point =>
    if point.val = 10 then [backslash, Text.ofChar 'n'] else [point]

/-- The lines come out of `decode(errors="replace")`, so that they can be encoded. -/
def sse (line : String) : Bytes := dataFrame (Text.utf8 (safe (Text.ofString line)))

/-! ## A frame is one line -/

theorem val_of_mem_utf8Point {point : CodePoint} {b : Byte} (hMem : b ∈ Text.utf8Point point) (hAscii : b.val < 0x80) :
    point.val = b.val := by
  have hPoint := point.isLt
  unfold Text.utf8Point at hMem
  simp only at hMem
  split at hMem
  case isTrue h =>
    rw [List.mem_singleton.mp hMem, Text.val_byte]
    omega
  case isFalse h =>
    exfalso
    split at hMem
    · simp only [List.mem_cons, List.not_mem_nil, or_false] at hMem
      rcases hMem with rfl | rfl <;> simp only [Text.val_byte] at hAscii <;> omega
    · split at hMem
      · simp only [List.mem_cons, List.not_mem_nil, or_false] at hMem
        rcases hMem with rfl | rfl | rfl <;> simp only [Text.val_byte] at hAscii <;> omega
      · simp only [List.mem_cons, List.not_mem_nil, or_false] at hMem
        rcases hMem with rfl | rfl | rfl | rfl <;> simp only [Text.val_byte] at hAscii <;> omega

theorem val_of_mem_safe {line : Text} {point : CodePoint} (h : point ∈ safe line) : point.val ≠ 10 ∧ point.val ≠ 13 := by
  obtain ⟨source, hSource, hPoint⟩ := List.mem_flatMap.mp h
  have hReturn : source.val ≠ 13 := by simpa using (List.mem_filter.mp hSource).2
  split at hPoint
  case isTrue =>
    rcases List.mem_pair.mp hPoint with rfl | rfl <;> decide
  case isFalse hNewline =>
    rw [List.mem_singleton.mp hPoint]
    exact ⟨hNewline, hReturn⟩

theorem plain_safe (line : Text) : Plain (Text.utf8 (safe line)) := by
  have hNot : ∀ b : Byte, b.val < 0x80 → b ∈ Text.utf8 (safe line) → b.val ≠ 10 ∧ b.val ≠ 13 := by
    intro b hAscii hMem
    obtain ⟨point, hPoint, hByte⟩ := List.mem_flatMap.mp hMem
    exact val_of_mem_utf8Point hByte hAscii ▸ val_of_mem_safe hPoint
  exact ⟨fun hMem => (hNot newline (by decide) hMem).1 rfl, fun hMem => (hNot carriageReturn (by decide) hMem).2 rfl⟩

theorem safe_eq_self {line : Text} (h : ∀ point ∈ line, point.val ≠ 10 ∧ point.val ≠ 13) : safe line = line := by
  have hFilter : (line.filter fun point => decide (point.val ≠ 13)) = line :=
    List.filter_eq_self.mpr fun point hPoint => decide_eq_true (h point hPoint).2
  rw [safe, hFilter]
  clear hFilter
  induction line with
  | nil => rfl
  | cons point rest ih =>
    rw [List.flatMap_cons, if_neg (h point List.mem_cons_self).1,
      ih fun other hOther => h other (List.mem_cons_of_mem point hOther)]
    rfl

def message (line : String) : Message := ⟨messageType, Text.utf8 (safe (Text.ofString line)), []⟩

structure Shown (lines : List String) : Prop where
  /-- One unnamed message for each line, in order; nothing is left that would run into what comes next. -/
  messages : (readerOf (lines.flatMap sse)).messages = lines.map message
  idle : (readerOf (lines.flatMap sse)).Idle
  /-- A connection that breaks off anywhere has shown whole lines only. -/
  cut : ∀ part, part <+: lines.flatMap sse → ∃ n, (readerOf part).messages = (lines.take n).map message
  texts : ∀ line, Text.decodeUtf8 (message line).data = some (safe (Text.ofString line))
  /-- A line that holds no line end is shown as it is. -/
  unbroken : ∀ line : String, (∀ point ∈ Text.ofString line, point.val ≠ 10 ∧ point.val ≠ 13) →
    safe (Text.ofString line) = Text.ofString line

theorem shown (lines : List String) : Shown lines := by
  have hFrames : lines.flatMap sse = (lines.map fun line => Text.utf8 (safe (Text.ofString line))).flatMap dataFrame := by
    rw [List.flatMap_map]
    rfl
  have hPlain : ∀ text ∈ lines.map (fun line => Text.utf8 (safe (Text.ofString line))), Plain text := by
    intro text hText
    obtain ⟨line, _, rfl⟩ := List.mem_map.mp hText
    exact plain_safe _
  obtain ⟨hIdle, hMessages⟩ := Reader.feed_dataFrames hPlain Reader.idle_empty
  have hFeed : readerOf (lines.flatMap sse) = Reader.feed {} (lines.flatMap sse) := by
    refine readerOf_eq_feed ?_
    cases lines with
    | nil => nofun
    | cons line rest => exact apart_cons (by decide)
  have hAll : (readerOf (lines.flatMap sse)).messages = lines.map message := by
    rw [hFeed, hFrames, hMessages, List.map_map]
    rfl
  refine ⟨hAll, ?_, ?_, fun line => Text.decodeUtf8_utf8 _, fun line => safe_eq_self⟩
  · rw [hFeed, hFrames]
    exact hIdle
  · rintro part ⟨rest, hRest⟩
    have hPrefix := messages_append part rest
    rw [hRest, hAll] at hPrefix
    refine ⟨(readerOf part).messages.length, ?_⟩
    rw [List.map_take]
    exact List.prefix_iff_eq_take.mp hPrefix

end EidolonAdmin.Tools
