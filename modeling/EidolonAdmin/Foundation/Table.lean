import Mathlib.Data.List.Nodup

/-! # Tables of rows with a unique key

A table is the list of its rows in insertion order. An `UPDATE ... WHERE` is
`updateWhere`, a point `SELECT` is `lookup`; a unique key is the absence of
duplicates among the keys of the rows.
-/

namespace EidolonAdmin.Foundation.Table

universe u v

variable {ρ : Type u} {κ : Type v}

def updateWhere (p : ρ → Bool) (f : ρ → ρ) (rows : List ρ) : List ρ :=
  rows.map fun row => if p row then f row else row

theorem mem_updateWhere {p : ρ → Bool} {f : ρ → ρ} {rows : List ρ} {row : ρ} :
    row ∈ updateWhere p f rows ↔ ∃ old ∈ rows, (if p old then f old else old) = row :=
  List.mem_map

theorem forall_updateWhere {P : ρ → Prop} {p : ρ → Bool} {f : ρ → ρ} {rows : List ρ}
    (h : ∀ row ∈ rows, P row) (hWrite : ∀ row, P row → P (f row)) :
    ∀ row ∈ updateWhere p f rows, P row := by
  intro row hRow
  obtain ⟨old, hOld, rfl⟩ := mem_updateWhere.mp hRow
  split
  · exact hWrite old (h old hOld)
  · exact h old hOld

theorem map_updateWhere (column : ρ → κ) {p : ρ → Bool} {f : ρ → ρ} {rows : List ρ}
    (hColumn : ∀ row, column (f row) = column row) :
    (updateWhere p f rows).map column = rows.map column := by
  simp only [updateWhere, List.map_map]
  apply List.map_congr_left
  intro row _
  simp only [Function.comp_apply]
  split
  · exact hColumn row
  · rfl

theorem nodup_append_row {key : ρ → κ} {rows : List ρ} {row : ρ} (hUnique : (rows.map key).Nodup)
    (hFresh : ∀ old ∈ rows, key old ≠ key row) : ((rows ++ [row]).map key).Nodup := by
  rw [List.map_append, List.nodup_append]
  refine ⟨hUnique, by simp, ?_⟩
  intro a hA b hB
  obtain ⟨old, hOld, rfl⟩ := List.mem_map.mp hA
  have hRow : b = key row := by simpa using hB
  rw [hRow]
  exact hFresh old hOld

theorem exists_other_key {key : ρ → κ} {rows : List ρ} {row : ρ} (hUnique : (rows.map key).Nodup)
    (hRow : row ∈ rows) (hLength : rows.length ≠ 1) : ∃ other ∈ rows, key other ≠ key row := by
  match rows with
  | [] => cases hRow
  | [_] => exact absurd rfl hLength
  | first :: second :: rest =>
    have hNe : key first ≠ key second := by
      intro hSame
      simp [hSame] at hUnique
    by_cases hFirst : key first = key row
    · exact ⟨second, by simp, fun hSecond => hNe (hFirst.trans hSecond.symm)⟩
    · exact ⟨first, by simp, hFirst⟩

variable [DecidableEq κ]

def lookup (key : ρ → κ) (k : κ) (rows : List ρ) : Option ρ := rows.find? fun row => key row = k

theorem lookup_mem {key : ρ → κ} {k : κ} {rows : List ρ} {row : ρ}
    (h : lookup key k rows = some row) : row ∈ rows ∧ key row = k :=
  ⟨List.mem_of_find?_eq_some h, by simpa using List.find?_some h⟩

theorem lookup_eq_none_iff {key : ρ → κ} {k : κ} {rows : List ρ} :
    lookup key k rows = none ↔ ∀ row ∈ rows, key row ≠ k := by
  simp [lookup]

theorem lookup_eq_some_iff {key : ρ → κ} {k : κ} {rows : List ρ} {row : ρ}
    (hUnique : (rows.map key).Nodup) :
    lookup key k rows = some row ↔ row ∈ rows ∧ key row = k := by
  refine ⟨lookup_mem, ?_⟩
  rintro ⟨hMem, hKey⟩
  cases hFound : lookup key k rows with
  | none => exact absurd hKey (lookup_eq_none_iff.mp hFound row hMem)
  | some other =>
    obtain ⟨hOther, hOtherKey⟩ := lookup_mem hFound
    rw [List.inj_on_of_nodup_map hUnique hOther hMem (hOtherKey.trans hKey.symm)]

theorem lookup_updateWhere {key : ρ → κ} {k : κ} {p : ρ → Bool} {f : ρ → ρ} {rows : List ρ}
    (hKey : ∀ row, key (f row) = key row) :
    lookup key k (updateWhere p f rows) =
      (lookup key k rows).map fun row => if p row then f row else row := by
  induction rows with
  | nil => rfl
  | cons row rest ih =>
    have hHead : key (if p row then f row else row) = key row := by
      split
      · exact hKey row
      · rfl
    simp only [lookup, updateWhere, List.map_cons, List.find?_cons, hHead] at ih ⊢
    split
    · rfl
    · exact ih

theorem filterMap_key {β : Type*} {key : ρ → κ} {column : ρ → Option β} {rows : List ρ} {row : ρ}
    (hUnique : (rows.map key).Nodup) (hRow : row ∈ rows) :
    rows.filterMap (fun other => if key other = key row then column other else none) =
      (column row).toList := by
  induction rows with
  | nil => cases hRow
  | cons head rest ih =>
    rw [List.map_cons, List.nodup_cons] at hUnique
    rcases List.mem_cons.mp hRow with rfl | hRest
    · have hNone : rest.filterMap (fun other => if key other = key row then column other else none) =
          [] := by
        refine List.filterMap_eq_nil_iff.mpr fun other hOther => if_neg fun hSame => ?_
        exact hUnique.1 (List.mem_map.mpr ⟨other, hOther, hSame⟩)
      cases hColumn : column row <;> simp [hColumn, hNone]
    · have hOther : key head ≠ key row := fun hSame =>
        hUnique.1 (List.mem_map.mpr ⟨row, hRest, hSame.symm⟩)
      simp only [List.filterMap_cons, if_neg hOther]
      exact ih hUnique.2 hRest

theorem lookup_append {key : ρ → κ} {k : κ} {rows more : List ρ} :
    lookup key k (rows ++ more) = (lookup key k rows).or (lookup key k more) :=
  List.find?_append

end EidolonAdmin.Foundation.Table
