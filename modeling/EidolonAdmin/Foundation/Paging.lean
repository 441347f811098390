import Mathlib.Data.List.Basic
import Mathlib.Order.Lattice

/-! # Paging by a key

Rows stand in descending order of a key. A page holds the first rows whose key is below the
cursor, and a full page names the cursor of the next one, read off its last row. Equal keys at
the end of a page, and a last row without a cursor, decide what following the cursors loses.
-/

namespace EidolonAdmin.Foundation.Paging

variable {ρ τ : Type*} [LinearOrder τ] (key : ρ → τ) (cursor : ρ → Option τ)

def remaining (rows : List ρ) (before : Option τ) : List ρ :=
  rows.filter fun row => before.all fun bound => key row < bound

def page (rows : List ρ) (limit : Nat) (before : Option τ) : List ρ :=
  (remaining key rows before).take limit

/-- The cursor after a page, which a short page does not have. -/
def next (limit : Nat) (rows : List ρ) : Option τ :=
  if rows.length = limit then rows.getLast?.bind cursor else none

/-- What following the cursors from `before` on until there is none yields. -/
inductive Yields (rows : List ρ) (limit : Nat) : Option τ → List ρ → Prop
  | last {before : Option τ} (hStop : next cursor limit (page key rows limit before) = none) :
      Yields rows limit before (page key rows limit before)
  | more {before : Option τ} {bound : τ} {rest : List ρ}
      (hNext : next cursor limit (page key rows limit before) = some bound)
      (hRest : Yields rows limit (some bound) rest) :
      Yields rows limit before (page key rows limit before ++ rest)

/-- The last row of each full page has a cursor, and the row after it is below that cursor. -/
def Separated (limit : Nat) (rows : List ρ) : Prop :=
  ∀ (k : Nat) (last following : ρ), rows[(k + 1) * limit - 1]? = some last →
    rows[(k + 1) * limit]? = some following → ∃ bound, cursor last = some bound ∧ key following < bound

variable {key cursor} {rows : List ρ} {limit : Nat}

def Descending (key : ρ → τ) (rows : List ρ) : Prop := rows.Pairwise fun a b => key b ≤ key a

@[simp]
theorem remaining_none : remaining key rows none = rows := by simp [remaining]

theorem remaining_sublist (before : Option τ) : (remaining key rows before).Sublist rows :=
  List.filter_sublist

theorem mem_remaining {before : Option τ} {row : ρ} :
    row ∈ remaining key rows before ↔ row ∈ rows ∧ ∀ bound ∈ before, key row < bound := by
  cases before <;> simp [remaining]

theorem descending_remaining (h : Descending key rows) (before : Option τ) :
    Descending key (remaining key rows before) := h.sublist (remaining_sublist before)

omit [LinearOrder τ] in
theorem next_eq_some {bound : τ} (h : next cursor limit rows = some bound) :
    rows.length = limit ∧ ∃ last, rows.getLast? = some last ∧ cursor last = some bound := by
  unfold next at h
  split at h
  · rename_i hFull
    exact ⟨hFull, Option.bind_eq_some_iff.mp h⟩
  · cases h

theorem getLast?_take (h : limit ≤ rows.length) (hPos : 0 < limit) :
    (rows.take limit).getLast? = rows[limit - 1]? := by
  rw [List.getLast?_eq_getElem?, List.length_take, Nat.min_eq_left h,
    List.getElem?_take_of_lt (by omega)]

theorem le_of_mem_take (hOrder : Descending key rows) {last row : ρ} {bound : τ} (hPos : 0 < limit)
    (hLast : rows[limit - 1]? = some last) (hBound : bound ≤ key last) (hRow : row ∈ rows.take limit) :
    bound ≤ key row := by
  obtain ⟨i, hI, rfl⟩ := List.mem_take_iff_getElem.mp hRow
  obtain ⟨hLt, rfl⟩ := List.getElem?_eq_some_iff.mp hLast
  rcases Nat.lt_or_ge i (limit - 1) with hBefore | hAt
  · exact hBound.trans (List.pairwise_iff_getElem.mp hOrder i (limit - 1) (by omega) hLt hBefore)
  · have hEq : i = limit - 1 := by omega
    subst hEq
    exact hBound

theorem remaining_some (hOrder : Descending key rows) {before : Option τ} {last : ρ} {bound : τ}
    (hPos : 0 < limit) (hLast : (remaining key rows before)[limit - 1]? = some last)
    (hBound : bound ≤ key last) :
    remaining key rows (some bound) =
      ((remaining key rows before).drop limit).filter fun row => key row < bound := by
  have hMem : last ∈ remaining key rows before := List.mem_of_getElem? hLast
  have hSame : remaining key rows (some bound) =
      (remaining key rows before).filter fun row => key row < bound := by
    unfold remaining
    rw [List.filter_filter]
    refine List.filter_congr fun row _ => ?_
    cases before with
    | none => simp
    | some outer =>
      have hOuter : key last < outer := (mem_remaining.mp hMem).2 outer rfl
      simp only [Option.all_some]
      by_cases hRow : key row < bound
      · simp [hRow, (hRow.trans_le hBound).trans hOuter]
      · simp [hRow]
  have hNone : ((remaining key rows before).take limit).filter (fun row => key row < bound) = [] := by
    rw [List.filter_eq_nil_iff]
    intro row hRow
    have := le_of_mem_take (descending_remaining hOrder before) hPos hLast hBound hRow
    simpa using this
  conv_lhs => rw [hSame, ← List.take_append_drop limit (remaining key rows before), List.filter_append,
    hNone, List.nil_append]

theorem separated_of_length_le (h : rows.length ≤ limit) : Separated key cursor limit rows := by
  intro k last following _ hFollowing
  obtain ⟨hLt, _⟩ := List.getElem?_eq_some_iff.mp hFollowing
  have : limit ≤ (k + 1) * limit := Nat.le_mul_of_pos_left limit (Nat.succ_pos k)
  omega

theorem separated_iff (hPos : 0 < limit) :
    Separated key cursor limit rows ↔
      (∀ last following, rows[limit - 1]? = some last → rows[limit]? = some following →
        ∃ bound, cursor last = some bound ∧ key following < bound) ∧
      Separated key cursor limit (rows.drop limit) := by
  have hShift : ∀ k, (k + 1 + 1) * limit = limit + (k + 1) * limit := fun k => by
    rw [Nat.succ_mul (k + 1), Nat.add_comm]
  have hFirst : ∀ k, 0 < (k + 1) * limit := fun k => Nat.mul_pos (Nat.succ_pos k) hPos
  constructor
  · intro h
    refine ⟨fun last following hLast hFollowing => h 0 last following (by simpa using hLast)
      (by simpa using hFollowing), fun k last following hLast hFollowing => ?_⟩
    rw [List.getElem?_drop] at hLast hFollowing
    refine h (k + 1) last following ?_ (by rwa [hShift])
    rw [hShift, Nat.add_sub_assoc (hFirst k)]
    exact hLast
  · rintro ⟨hHead, hTail⟩ k last following hLast hFollowing
    cases k with
    | zero => exact hHead last following (by simpa using hLast) (by simpa using hFollowing)
    | succ k =>
      rw [hShift] at hLast hFollowing
      rw [Nat.add_sub_assoc (hFirst k)] at hLast
      exact hTail k last following (by rwa [List.getElem?_drop]) (by rwa [List.getElem?_drop])

/-- What is yielded stands in the order of the rows, and nothing is lost only where the pages
are separated. -/
theorem Yields.sublist_remaining (hOrder : Descending key rows) (hPos : 0 < limit)
    (hCursor : ∀ row ∈ rows, ∀ bound, cursor row = some bound → bound ≤ key row)
    {before : Option τ} {seen : List ρ} (h : Yields key cursor rows limit before seen) :
    seen.Sublist (remaining key rows before) ∧
      (seen.length = (remaining key rows before).length →
        Separated key cursor limit (remaining key rows before)) := by
  induction h with
  | @last before hStop =>
    refine ⟨List.take_sublist limit _, fun hLength => separated_of_length_le ?_⟩
    rw [page, List.length_take] at hLength
    omega
  | @more before bound rest hNext hRest ih =>
    obtain ⟨hFull, last, hLast, hBound⟩ := next_eq_some hNext
    have hLe : limit ≤ (remaining key rows before).length := by
      rw [page, List.length_take] at hFull
      omega
    rw [page, getLast?_take hLe hPos] at hLast
    have hMem : last ∈ rows := (remaining_sublist before).subset (List.mem_of_getElem? hLast)
    have hAfter := remaining_some hOrder hPos hLast (hCursor last hMem bound hBound)
    rw [hAfter] at ih
    have hRestSub : rest.Sublist ((remaining key rows before).drop limit) :=
      ih.1.trans List.filter_sublist
    refine ⟨?_, fun hLength => ?_⟩
    · conv_rhs => rw [← List.take_append_drop limit (remaining key rows before)]
      exact (List.Sublist.refl _).append hRestSub
    · have hRestLength : rest.length = ((remaining key rows before).drop limit).length := by
        rw [List.length_append, page, List.length_take] at hLength
        rw [List.length_drop]
        omega
      have hKept : ((remaining key rows before).drop limit).filter (fun row => key row < bound) =
          (remaining key rows before).drop limit := by
        refine List.filter_sublist.eq_of_length_le ?_
        rw [← hRestLength]
        exact ih.1.length_le
      rw [hKept] at ih
      refine (separated_iff hPos).mpr ⟨fun last' following hLast' hFollowing => ?_, ih.2 hRestLength⟩
      obtain rfl : last = last' := Option.some.inj (hLast.symm.trans hLast')
      refine ⟨bound, hBound, ?_⟩
      have hIn : following ∈ (remaining key rows before).drop limit :=
        List.mem_of_getElem? (i := 0) (by rwa [List.getElem?_drop])
      rw [← hKept] at hIn
      simpa using (List.mem_filter.mp hIn).2

omit [LinearOrder τ] in
theorem next_of_length_ne (h : rows.length ≠ limit) : next cursor limit rows = none := if_neg h

theorem Separated.yields (hOrder : Descending key rows) (hPos : 0 < limit)
    (hCursor : ∀ row ∈ rows, ∀ bound, cursor row = some bound → bound ≤ key row)
    (before : Option τ) (hPages : Separated key cursor limit (remaining key rows before)) :
    Yields key cursor rows limit before (remaining key rows before) := by
  induction hSize : (remaining key rows before).length using Nat.strongRecOn generalizing before with
  | ind size ih =>
    subst hSize
    by_cases hShort : (remaining key rows before).length < limit
    · have hPage : page key rows limit before = remaining key rows before :=
        List.take_of_length_le (Nat.le_of_lt hShort)
      rw [← hPage]
      refine .last (next_of_length_ne ?_)
      rw [hPage]
      omega
    have hLe : limit ≤ (remaining key rows before).length := Nat.le_of_not_lt hShort
    have hFull : (page key rows limit before).length = limit := by
      rw [page, List.length_take]
      omega
    obtain ⟨last, hLast⟩ : ∃ last, (remaining key rows before)[limit - 1]? = some last :=
      ⟨_, List.getElem?_eq_getElem (by omega)⟩
    have hMem : last ∈ rows := (remaining_sublist before).subset (List.mem_of_getElem? hLast)
    have hNext : next cursor limit (page key rows limit before) = cursor last := by
      rw [next, if_pos hFull, page, getLast?_take hLe hPos, hLast]
      rfl
    cases hBound : cursor last with
    | none =>
      -- without a cursor the log must end with this page
      have hEnd : (remaining key rows before).length ≤ limit := by
        by_contra hMore
        obtain ⟨_, hSome, _⟩ := ((separated_iff hPos).mp hPages).1 last _ hLast
          (List.getElem?_eq_getElem (Nat.lt_of_not_le hMore))
        rw [hBound] at hSome
        cases hSome
      have hPage : page key rows limit before = remaining key rows before :=
        List.take_of_length_le hEnd
      conv in remaining key rows before => rw [← hPage]
      exact .last (hNext.trans hBound)
    | some bound =>
      have hAfter := remaining_some hOrder hPos hLast (hCursor last hMem bound hBound)
      have hKept : remaining key rows (some bound) = (remaining key rows before).drop limit := by
        rw [hAfter, List.filter_eq_self]
        intro row hRow
        obtain ⟨i, hI, rfl⟩ := List.mem_drop_iff_getElem.mp hRow
        have hLt : limit < (remaining key rows before).length := by omega
        obtain ⟨bound', hSame, hBelow⟩ := ((separated_iff hPos).mp hPages).1 last _ hLast
          (List.getElem?_eq_getElem hLt)
        obtain rfl : bound = bound' := Option.some.inj (hBound.symm.trans hSame)
        rcases Nat.eq_zero_or_pos i with rfl | hI
        · simpa using hBelow
        · have := List.pairwise_iff_getElem.mp (descending_remaining hOrder before) limit (limit + i) hLt
            (by omega) (by omega)
          simpa using this.trans_lt hBelow
      have hRest := ih (remaining key rows (some bound)).length
        (by rw [hKept, List.length_drop]; omega) (some bound)
        (by rw [hKept]; exact ((separated_iff hPos).mp hPages).2) rfl
      rw [hKept] at hRest
      conv_rhs => rw [← List.take_append_drop limit (remaining key rows before)]
      exact .more (hNext.trans hBound) hRest

/-- Following the cursors yields all the rows, in their order, exactly when the pages are
separated. -/
theorem yields_all_iff (hOrder : Descending key rows) (hPos : 0 < limit)
    (hCursor : ∀ row ∈ rows, ∀ bound, cursor row = some bound → bound ≤ key row) :
    (∃ seen, Yields key cursor rows limit none seen ∧ seen.length = rows.length) ↔
      Separated key cursor limit rows := by
  constructor
  · rintro ⟨seen, hYields, hLength⟩
    have := (hYields.sublist_remaining hOrder hPos hCursor).2
    rw [remaining_none] at this
    exact this hLength
  · intro hPages
    have := Separated.yields hOrder hPos hCursor none (by rwa [remaining_none])
    rw [remaining_none] at this
    exact ⟨rows, this, rfl⟩

end EidolonAdmin.Foundation.Paging
