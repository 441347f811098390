import Mathlib.Data.List.Basic

/-! # Text files read back line by line

Python's `str.splitlines` and the newline translation of text files. A file of lines that
each end in a newline gives its lines back, unless a line itself holds a line boundary.
-/

namespace EidolonAdmin.Foundation.Lines

/-- The characters `str.splitlines` breaks a text at. -/
def isBoundary (c : Char) : Bool :=
  c ∈ ['\n', '\r', '\x0b', '\x0c', '\x1c', '\x1d', '\x1e', '\u0085', '\u2028', '\u2029']

def splitlinesFrom (current : List Char) : List Char → List (List Char)
  | [] => if current = [] then [] else [current]
  | '\r' :: '\n' :: rest => current :: splitlinesFrom [] rest
  | c :: rest =>
    if isBoundary c then current :: splitlinesFrom [] rest else splitlinesFrom (current ++ [c]) rest

def splitlines (text : List Char) : List (List Char) := splitlinesFrom [] text

/-- What reading in text mode makes of the newlines of other systems. -/
def universalNewlines : List Char → List Char
  | [] => []
  | '\r' :: '\n' :: rest => '\n' :: universalNewlines rest
  | c :: rest => (if c = '\r' then '\n' else c) :: universalNewlines rest

def unlines (lines : List (List Char)) : List Char := lines.flatMap fun line => line ++ ['\n']

theorem unlines_cons (line : List Char) (lines : List (List Char)) :
    unlines (line :: lines) = line ++ '\n' :: unlines lines := by
  simp [unlines]

def Unbroken (line : List Char) : Prop := ∀ c ∈ line, isBoundary c = false

instance (line : List Char) : Decidable (Unbroken line) :=
  inferInstanceAs (Decidable (∀ c ∈ line, isBoundary c = false))

theorem Unbroken.tail {c : Char} {line : List Char} (h : Unbroken (c :: line)) : Unbroken line :=
  fun d hD => h d (List.mem_cons_of_mem c hD)

theorem Unbroken.head_ne_return {c : Char} {line : List Char} (h : Unbroken (c :: line)) : c ≠ '\r' := by
  rintro rfl
  exact absurd (h '\r' List.mem_cons_self) (by decide)

theorem universalNewlines_cons {c : Char} (h : c ≠ '\r') (rest : List Char) :
    universalNewlines (c :: rest) = c :: universalNewlines rest := by
  rw [universalNewlines.eq_3 c rest (fun _ hC => absurd hC h), if_neg h]

theorem universalNewlines_line {line : List Char} (h : Unbroken line) (rest : List Char) :
    universalNewlines (line ++ '\n' :: rest) = line ++ '\n' :: universalNewlines rest := by
  induction line with
  | nil => exact universalNewlines_cons (by decide) rest
  | cons c line ih =>
    rw [List.cons_append, universalNewlines_cons h.head_ne_return, ih h.tail, List.cons_append]

theorem universalNewlines_unlines {lines : List (List Char)} (h : ∀ line ∈ lines, Unbroken line) :
    universalNewlines (unlines lines) = unlines lines := by
  induction lines with
  | nil => rfl
  | cons line lines ih =>
    rw [List.forall_mem_cons] at h
    rw [unlines_cons, universalNewlines_line h.1, ih h.2]

theorem splitlinesFrom_cons {c : Char} (h : c ≠ '\r') (current rest : List Char) :
    splitlinesFrom current (c :: rest) =
      if isBoundary c then current :: splitlinesFrom [] rest
      else splitlinesFrom (current ++ [c]) rest :=
  splitlinesFrom.eq_3 current c rest fun _ hC => absurd hC h

theorem splitlinesFrom_line {line : List Char} (h : Unbroken line) (current rest : List Char) :
    splitlinesFrom current (line ++ '\n' :: rest) = (current ++ line) :: splitlinesFrom [] rest := by
  induction line generalizing current with
  | nil =>
    have hBreak : isBoundary '\n' = true := by decide
    rw [List.nil_append, splitlinesFrom_cons (by decide), if_pos hBreak, List.append_nil]
  | cons c line ih =>
    have hPlain : isBoundary c = false := h c List.mem_cons_self
    rw [List.cons_append, splitlinesFrom_cons h.head_ne_return, if_neg (by simp [hPlain]), ih h.tail,
      List.append_assoc, List.singleton_append]

theorem splitlines_unlines {lines : List (List Char)} (h : ∀ line ∈ lines, Unbroken line) :
    splitlines (unlines lines) = lines := by
  induction lines with
  | nil => rfl
  | cons line lines ih =>
    rw [List.forall_mem_cons] at h
    rw [splitlines, unlines_cons, splitlinesFrom_line h.1, List.nil_append]
    exact congrArg (line :: ·) (ih h.2)

/-- A line that is broken somewhere comes back in several pieces. -/
example : splitlines (universalNewlines (unlines ["5 %\r9 %\r".toList])) =
    ["5 %".toList, "9 %".toList] := by decide

end EidolonAdmin.Foundation.Lines
