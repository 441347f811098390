import Mathlib.Data.List.Sort

/-! # Tables keyed by an integer primary key

A row inserted without a key gets the largest stored key plus one. Reading such a
table in key order with a limit returns the smallest keys, so what is left out
lies behind everything that was returned.
-/

namespace EidolonAdmin.Foundation.Rowid

universe u

variable {ρ : Type u} (key : ρ → Nat)

def largest (rows : List ρ) : Nat := rows.foldr (fun row n => max (key row) n) 0

def nextRowid (rows : List ρ) : Nat := largest key rows + 1

/-- `LIMIT n`, where a negative number is no limit. -/
def limited (limit : Int) (rows : List ρ) : List ρ :=
  if limit < 0 then rows else rows.take limit.toNat

def ascending (rows : List ρ) : List ρ := rows.insertionSort fun a b => key a ≤ key b

def descending (rows : List ρ) : List ρ := rows.insertionSort fun a b => key b ≤ key a

variable {key}

theorem key_le_largest {rows : List ρ} {row : ρ} (h : row ∈ rows) : key row ≤ largest key rows := by
  induction rows with
  | nil => cases h
  | cons first rest ih =>
    simp only [largest, List.foldr_cons] at ih ⊢
    rcases List.mem_cons.mp h with rfl | hRest
    · omega
    · have := ih hRest
      omega

theorem exists_key_eq_largest {rows : List ρ} (h : rows ≠ []) :
    ∃ row ∈ rows, key row = largest key rows := by
  induction rows with
  | nil => exact absurd rfl h
  | cons first rest ih =>
    simp only [largest, List.foldr_cons] at ih ⊢
    by_cases hRest : rest = []
    · exact ⟨first, by simp, by simp [hRest]⟩
    · obtain ⟨row, hRow, hKey⟩ := ih hRest
      by_cases hMax : key first ≤ key row
      · refine ⟨row, List.mem_cons_of_mem _ hRow, ?_⟩
        omega
      · refine ⟨first, List.mem_cons_self, ?_⟩
        omega

theorem largest_le {rows : List ρ} {bound : Nat} (h : ∀ row ∈ rows, key row ≤ bound) :
    largest key rows ≤ bound := by
  by_cases hNil : rows = []
  · rw [hNil]
    exact Nat.zero_le bound
  · obtain ⟨row, hRow, hKey⟩ : ∃ row ∈ rows, key row = largest key rows :=
      exists_key_eq_largest hNil
    rw [← hKey]
    exact h row hRow

theorem nextRowid_le {rows : List ρ} {bound : Nat} (hPos : 0 < bound)
    (h : ∀ row ∈ rows, key row < bound) : nextRowid key rows ≤ bound := by
  have hLe : largest key rows ≤ bound - 1 := largest_le fun row hRow => Nat.le_pred_of_lt (h row hRow)
  unfold nextRowid
  omega

theorem largest_append (rows more : List ρ) :
    largest key (rows ++ more) = max (largest key rows) (largest key more) := by
  induction rows with
  | nil => simp [largest]
  | cons first rest ih =>
    simp only [largest, List.cons_append, List.foldr_cons] at ih ⊢
    rw [ih]
    omega

theorem mem_limited {limit : Int} {rows : List ρ} {row : ρ} (h : row ∈ limited limit rows) :
    row ∈ rows := by
  unfold limited at h
  split at h
  · exact h
  · exact List.mem_of_mem_take h

theorem mem_limited_ascending {limit : Int} {rows : List ρ} {row : ρ}
    (hUnique : (rows.map key).Nodup) (hRow : row ∈ rows) :
    row ∈ limited limit (ascending key rows) ∨
      (((limited limit (ascending key rows)).length : Int) = limit ∧
        ∀ returned ∈ limited limit (ascending key rows), key returned < key row) := by
  have hMem : row ∈ ascending key rows := List.mem_insertionSort _ |>.mpr hRow
  unfold limited
  split
  · exact .inl hMem
  · rename_i hLimit
    by_cases hTaken : row ∈ (ascending key rows).take limit.toNat
    · exact .inl hTaken
    · right
      have hSplit := List.take_append_drop limit.toNat (ascending key rows)
      have hDropped : row ∈ (ascending key rows).drop limit.toNat := by
        rw [← hSplit, List.mem_append] at hMem
        exact hMem.resolve_left hTaken
      constructor
      · have hLength : limit.toNat < (ascending key rows).length := by
          by_contra hShort
          rw [List.drop_eq_nil_of_le (by omega)] at hDropped
          cases hDropped
        rw [List.length_take]
        omega
      · intro returned hReturned
        have hSorted : (ascending key rows).Pairwise fun a b => key a ≤ key b :=
          List.pairwise_insertionSort _ rows
        rw [← hSplit, List.pairwise_append] at hSorted
        have hLe := hSorted.2.2 returned hReturned row hDropped
        refine lt_of_le_of_ne hLe fun hSame => hTaken ?_
        have hStored : returned ∈ rows :=
          (List.mem_insertionSort _).mp (List.mem_of_mem_take hReturned)
        rwa [← List.inj_on_of_nodup_map hUnique hStored hRow hSame]

theorem length_descending (rows : List ρ) : (descending key rows).length = rows.length :=
  List.length_insertionSort _ rows

theorem descending_split {rows : List ρ} {row : ρ} {k : Nat} (hUnique : (rows.map key).Nodup)
    (h : (descending key rows)[k]? = some row) :
    ∃ newer older, descending key rows = newer ++ row :: older ∧ newer.length = k ∧
      (∀ other ∈ newer, key row < key other) ∧ ∀ other ∈ older, key other < key row := by
  obtain ⟨hLt, hRow⟩ := List.getElem?_eq_some_iff.mp h
  have hSplit : descending key rows =
      (descending key rows).take k ++ row :: (descending key rows).drop (k + 1) := by
    rw [← hRow, ← List.drop_eq_getElem_cons hLt, List.take_append_drop]
  have hDistinct : ((descending key rows).map key).Nodup :=
    ((List.perm_insertionSort _ rows).map key).nodup_iff.mpr hUnique
  have hSorted : (descending key rows).Pairwise fun a b => key b ≤ key a :=
    List.pairwise_insertionSort _ rows
  have hStrict : (descending key rows).Pairwise fun a b => key b < key a := by
    refine (hSorted.and (List.pairwise_map.mp hDistinct)).imp ?_
    rintro a b ⟨hLe, hNe⟩
    exact lt_of_le_of_ne hLe (Ne.symm hNe)
  rw [hSplit, List.pairwise_append, List.pairwise_cons] at hStrict
  refine ⟨_, _, hSplit, ?_, ?_, hStrict.2.1.1⟩
  · rw [List.length_take]
    omega
  · exact fun other hOther => hStrict.2.2 other hOther row List.mem_cons_self

theorem length_newer {rows : List ρ} {row : ρ} {k : Nat} (hUnique : (rows.map key).Nodup)
    (h : (descending key rows)[k]? = some row) :
    (rows.filter fun other => key row < key other).length = k ∧
      (rows.filter fun other => ¬ key other < key row).length = k + 1 := by
  obtain ⟨newer, older, hSplit, hLength, hNewer, hOlder⟩ := descending_split hUnique h
  have hCount : ∀ p : ρ → Bool, (rows.filter p).length =
      (newer.filter p).length + ((row :: older).filter p).length := by
    intro p
    have hPerm : (descending key rows).Perm rows := List.perm_insertionSort _ rows
    rw [← (hPerm.filter p).length_eq, hSplit, List.filter_append, List.length_append]
  have hBehind : ∀ other ∈ older, ¬ key row < key other := fun other hOther => by
    have := hOlder other hOther
    omega
  have hBefore : ∀ other ∈ newer, ¬ key other < key row := fun other hOther => by
    have := hNewer other hOther
    omega
  constructor
  · rw [hCount, List.filter_eq_self.mpr (by simpa using hNewer), List.filter_cons_of_neg (by simp),
      List.filter_eq_nil_iff.mpr (by simpa using hBehind)]
    exact hLength
  · rw [hCount, List.filter_eq_self.mpr (by simpa using hBefore), List.filter_cons_of_pos (by simp),
      List.filter_eq_nil_iff.mpr (by simpa using hOlder), hLength]
    rfl

end EidolonAdmin.Foundation.Rowid
