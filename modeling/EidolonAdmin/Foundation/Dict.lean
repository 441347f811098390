import Mathlib.Algebra.Ring.Int.Defs
import Mathlib.Data.List.Induction
import EidolonAdmin.Foundation.Table

/-! # Insertion-ordered dictionaries

A dictionary is the list of its items in the order their keys were first
assigned. Assigning a key that is present replaces its value in place.
-/

namespace EidolonAdmin.Foundation.Dict

open Table

universe u v w

variable {κ : Type u} {ν : Type v} [DecidableEq κ]

def get (items : List (κ × ν)) (k : κ) : Option ν := (lookup Prod.fst k items).map Prod.snd

def set (items : List (κ × ν)) (k : κ) (value : ν) : List (κ × ν) :=
  if (lookup Prod.fst k items).isSome then
    updateWhere (fun item => item.1 = k) (fun item => (item.1, value)) items
  else items ++ [(k, value)]

theorem nodup_set {items : List (κ × ν)} (hUnique : (items.map Prod.fst).Nodup) (k : κ)
    (value : ν) : ((set items k value).map Prod.fst).Nodup := by
  unfold set
  split
  · rw [map_updateWhere Prod.fst]
    · exact hUnique
    · exact fun _ => rfl
  · rename_i hAbsent
    apply nodup_append_row hUnique
    exact lookup_eq_none_iff.mp (by simpa using hAbsent)

theorem mem_set {items : List (κ × ν)} {k : κ} {value : ν} {item : κ × ν} :
    item ∈ set items k value ↔ item = (k, value) ∨ (item ∈ items ∧ item.1 ≠ k) := by
  unfold set
  split
  · rename_i hPresent
    rw [mem_updateWhere]
    constructor
    · rintro ⟨old, hOld, rfl⟩
      by_cases hKey : old.1 = k
      · exact .inl (by simp [hKey])
      · exact .inr (by simpa [hKey] using hOld)
    · rintro (rfl | ⟨hItem, hKey⟩)
      · obtain ⟨found, hFound⟩ := Option.isSome_iff_exists.mp hPresent
        obtain ⟨hMem, hKey⟩ := lookup_mem hFound
        exact ⟨found, hMem, by simp [hKey]⟩
      · exact ⟨item, hItem, by simp [hKey]⟩
  · rename_i hAbsent
    have hNone := lookup_eq_none_iff.mp (Option.not_isSome_iff_eq_none.mp hAbsent)
    rw [List.mem_append, List.mem_singleton]
    constructor
    · rintro (hItem | rfl)
      · exact .inr ⟨hItem, hNone item hItem⟩
      · exact .inl rfl
    · rintro (rfl | ⟨hItem, _⟩)
      · exact .inr rfl
      · exact .inl hItem

theorem get_set (items : List (κ × ν)) (k k' : κ) (value : ν) :
    get (set items k value) k' = if k' = k then some value else get items k' := by
  unfold set get
  split
  · rename_i hPresent
    rw [lookup_updateWhere]
    · by_cases hKey : k' = k
      · subst hKey
        obtain ⟨found, hFound⟩ := Option.isSome_iff_exists.mp hPresent
        simp [hFound, (lookup_mem hFound).2]
      · cases hFound : lookup Prod.fst k' items with
        | none => simp [hKey]
        | some item => simp [hKey, (lookup_mem hFound).2]
    · exact fun _ => rfl
  · rename_i hAbsent
    rw [lookup_append]
    by_cases hKey : k' = k
    · subst hKey
      rw [Option.not_isSome_iff_eq_none.mp hAbsent]
      simp [lookup]
    · simp [hKey, lookup, Ne.symm hKey]

theorem get_mem {items : List (κ × ν)} {k : κ} {value : ν} (h : get items k = some value) :
    (k, value) ∈ items := by
  obtain ⟨item, hFound, rfl⟩ := Option.map_eq_some_iff.mp h
  obtain ⟨hMem, rfl⟩ := lookup_mem hFound
  exact hMem

theorem get_eq_none_iff {items : List (κ × ν)} {k : κ} :
    get items k = none ↔ ∀ item ∈ items, item.1 ≠ k := by
  rw [get, Option.map_eq_none_iff, lookup_eq_none_iff]

theorem get_eq_some_iff {items : List (κ × ν)} {k : κ} {value : ν}
    (hUnique : (items.map Prod.fst).Nodup) :
    get items k = some value ↔ (k, value) ∈ items := by
  refine ⟨get_mem, fun hMem => ?_⟩
  rw [get, (lookup_eq_some_iff hUnique).mpr ⟨hMem, rfl⟩]
  rfl

theorem keys_set (items : List (κ × ν)) (k : κ) (value : ν) :
    (set items k value).map Prod.fst =
      if k ∈ items.map Prod.fst then items.map Prod.fst else items.map Prod.fst ++ [k] := by
  have hPresent : (lookup Prod.fst k items).isSome = true ↔ k ∈ items.map Prod.fst := by
    rw [← Option.ne_none_iff_isSome, Ne, lookup_eq_none_iff]
    simp
  unfold set
  split
  · rename_i hKey
    rw [if_pos (hPresent.mp hKey)]
    exact map_updateWhere Prod.fst fun _ => rfl
  · rename_i hKey
    rw [if_neg fun hIn => hKey (hPresent.mpr hIn), List.map_append]
    rfl

theorem set_of_notMem {items : List (κ × ν)} {k : κ} (h : k ∉ items.map Prod.fst) (value : ν) :
    set items k value = items ++ [(k, value)] := by
  have hAbsent : lookup Prod.fst k items = none := by
    rw [lookup_eq_none_iff]
    intro item hItem hKey
    exact h (List.mem_map.mpr ⟨item, hItem, hKey⟩)
  rw [set, if_neg (by simp [hAbsent])]

theorem sum_set (weight : ν → Int) {items : List (κ × ν)} (hUnique : (items.map Prod.fst).Nodup) (k : κ)
    (value : ν) : ((set items k value).map fun item => weight item.2).sum +
      (get items k).elim 0 weight = (items.map fun item => weight item.2).sum + weight value := by
  cases hFound : get items k with
  | none =>
    have hAbsent : lookup Prod.fst k items = none := Option.map_eq_none_iff.mp hFound
    simp [set, hAbsent]
  | some old =>
    obtain ⟨before, after, rfl⟩ := List.append_of_mem (get_mem hFound)
    have hPresent : (lookup Prod.fst k (before ++ (k, old) :: after)).isSome = true := by
      rw [get, Option.map_eq_some_iff] at hFound
      obtain ⟨item, hItem, -⟩ := hFound
      simp [hItem]
    rw [List.map_append, List.map_cons] at hUnique
    have hOthers : ∀ item ∈ before ++ after, item.1 ≠ k := by
      intro item hItem hKey
      have hNodup := List.nodup_middle.mp hUnique
      rw [List.nodup_cons, ← List.map_append] at hNodup
      exact hNodup.1 (List.mem_map.mpr ⟨item, hItem, hKey⟩)
    have hKeep : ∀ items : List (κ × ν), (∀ item ∈ items, item.1 ≠ k) →
        updateWhere (fun item => item.1 = k) (fun item => (item.1, value)) items = items := by
      intro items hItems
      unfold updateWhere
      conv_rhs => rw [← List.map_id items]
      exact List.map_congr_left fun item hItem => by simp [hItems item hItem]
    have hSet : set (before ++ (k, old) :: after) k value = before ++ (k, value) :: after := by
      rw [set, if_pos hPresent]
      have hBefore := hKeep before fun item hItem => hOthers item (List.mem_append_left _ hItem)
      have hAfter := hKeep after fun item hItem => hOthers item (List.mem_append_right _ hItem)
      unfold updateWhere at hBefore hAfter ⊢
      rw [List.map_append, List.map_cons, hBefore, hAfter]
      simp
    rw [hSet]
    simp only [List.map_append, List.map_cons, List.sum_append, List.sum_cons, Option.elim_some]
    omega

section Values

variable {items : List (κ × ν)}

theorem lookup_values (key : ν → κ) (hKeys : ∀ item ∈ items, item.1 = key item.2) (k : κ) :
    lookup key k (items.map Prod.snd) = get items k := by
  induction items with
  | nil => rfl
  | cons item rest ih =>
    have hRest := ih fun other hOther => hKeys other (List.mem_cons_of_mem item hOther)
    have hHead : item.1 = key item.2 := hKeys item List.mem_cons_self
    simp only [lookup, get, List.map_cons, List.find?_cons, hHead] at hRest ⊢
    split
    · rfl
    · exact hRest

theorem values_set_of_get_none {k : κ} (hAbsent : get items k = none) (value : ν) :
    (set items k value).map Prod.snd = items.map Prod.snd ++ [value] := by
  have hNone : lookup Prod.fst k items = none := by simpa [get] using hAbsent
  rw [set, if_neg (by simp [hNone]), List.map_append]
  rfl

theorem values_set_of_get_some (key : ν → κ) (hUnique : (items.map Prod.fst).Nodup)
    (hKeys : ∀ item ∈ items, item.1 = key item.2) {k : κ} {old value : ν} {f : ν → ν}
    (hStored : get items k = some old) (hWrite : f old = value) :
    (set items k value).map Prod.snd =
      updateWhere (fun row => key row = k) f (items.map Prod.snd) := by
  obtain ⟨found, hFound, _⟩ := Option.map_eq_some_iff.mp hStored
  rw [set, if_pos (by simp [hFound]), updateWhere, updateWhere, List.map_map, List.map_map]
  apply List.map_congr_left
  intro item hItem
  by_cases hKey : item.1 = k
  · have hValue : item.2 = old := by
      have hGet := (get_eq_some_iff hUnique).mpr (show (k, item.2) ∈ items from hKey ▸ hItem)
      exact Option.some.inj (hGet.symm.trans hStored)
    have hRow : key item.2 = k := (hKeys item hItem).symm.trans hKey
    simp only [Function.comp_apply, hKey, hRow, decide_true, if_true]
    rw [hValue, hWrite]
  · have hRow : key item.2 ≠ k := fun hSame => hKey ((hKeys item hItem).trans hSame)
    simp [hKey, hRow]

end Values

def last {ρ : Type w} (key : ρ → κ) (rows : List ρ) (k : κ) : Option ρ :=
  rows.reverse.find? fun row => key row = k

section Last

variable {ρ : Type w} {key : ρ → κ} {rows : List ρ} {row : ρ} {k : κ}

theorem last_append_singleton :
    last key (rows ++ [row]) k = if key row = k then some row else last key rows k := by
  unfold last
  rw [List.reverse_append, List.reverse_singleton, List.singleton_append, List.find?_cons]
  by_cases hKey : key row = k
  · simp [hKey]
  · simp [hKey]

theorem isSome_last : (last key rows k).isSome ↔ ∃ row ∈ rows, key row = k := by
  simp [last, List.find?_isSome]

theorem last_eq_some_iff (hUnique : (rows.map key).Nodup) :
    last key rows k = some row ↔ row ∈ rows ∧ key row = k := by
  have hReversed : (rows.reverse.map key).Nodup := by
    rw [List.map_reverse]
    exact List.nodup_reverse.mpr hUnique
  have hFound : lookup key k rows.reverse = some row ↔ _ := lookup_eq_some_iff hReversed
  rwa [List.mem_reverse] at hFound

theorem last_eq_getLast : last key rows k = (rows.filter fun row => key row = k).getLast? := by
  rw [last, ← List.head?_filter, List.filter_reverse, List.head?_reverse]

end Last

/-- The dictionary that each row assigns its own key of, one row after the other. -/
def index (key : ν → κ) (rows : List ν) : List (κ × ν) :=
  rows.foldl (fun items row => set items (key row) row) []

section Index

variable (key : ν → κ)

theorem index_append_singleton (rows : List ν) (row : ν) :
    index key (rows ++ [row]) = set (index key rows) (key row) row := by
  unfold index
  rw [List.foldl_append]
  rfl

theorem get_index (rows : List ν) (k : κ) : get (index key rows) k = last key rows k := by
  induction rows using List.reverseRecOn with
  | nil => rfl
  | append_singleton rows row ih =>
    rw [index_append_singleton, get_set, ih, last_append_singleton]
    simp only [eq_comm]

theorem nodup_index (rows : List ν) : ((index key rows).map Prod.fst).Nodup := by
  induction rows using List.reverseRecOn with
  | nil => exact List.nodup_nil
  | append_singleton rows row ih =>
    rw [index_append_singleton]
    exact nodup_set ih _ _

theorem key_of_mem_index {rows : List ν} {item : κ × ν} (h : item ∈ index key rows) :
    item.1 = key item.2 := by
  induction rows using List.reverseRecOn with
  | nil => exact absurd h List.not_mem_nil
  | append_singleton rows row ih =>
    rw [index_append_singleton, mem_set] at h
    obtain rfl | ⟨hOld, -⟩ := h
    · rfl
    · exact ih hOld

theorem mem_values_index {rows : List ν} {row : ν} :
    row ∈ (index key rows).map Prod.snd ↔ last key rows (key row) = some row := by
  rw [← get_index, get_eq_some_iff (nodup_index key rows), List.mem_map]
  constructor
  · rintro ⟨item, hItem, rfl⟩
    rwa [← key_of_mem_index key hItem]
  · intro hItem
    exact ⟨_, hItem, rfl⟩

theorem nodup_keys_index (rows : List ν) : (((index key rows).map Prod.snd).map key).Nodup := by
  have hKeys : ((index key rows).map Prod.snd).map key = (index key rows).map Prod.fst := by
    rw [List.map_map]
    exact List.map_congr_left fun item hItem => (key_of_mem_index key hItem).symm
  rw [hKeys]
  exact nodup_index key rows

end Index

section Upsert

variable {ρ : Type w} (key : ρ → κ) (f : ρ → Option ν → ν)

def upsertAll (items : List (κ × ν)) (rows : List ρ) : List (κ × ν) :=
  rows.foldl (fun items row => set items (key row) (f row (get items (key row)))) items

theorem upsertAll_append_singleton (items : List (κ × ν)) (rows : List ρ) (row : ρ) :
    upsertAll key f items (rows ++ [row]) =
      set (upsertAll key f items rows) (key row) (f row (get (upsertAll key f items rows) (key row))) := by
  unfold upsertAll
  rw [List.foldl_append]
  rfl

theorem nodup_upsertAll {items : List (κ × ν)} (hUnique : (items.map Prod.fst).Nodup) (rows : List ρ) :
    ((upsertAll key f items rows).map Prod.fst).Nodup := by
  induction rows using List.reverseRecOn with
  | nil => exact hUnique
  | append_singleton rows row ih =>
    rw [upsertAll_append_singleton]
    exact nodup_set ih _ _

theorem get_upsertAll (hLast : ∀ row earlier old, f row (some (f earlier old)) = f row old)
    (items : List (κ × ν)) (rows : List ρ) (k : κ) :
    get (upsertAll key f items rows) k =
      ((last key rows k).map fun row => f row (get items k)).or (get items k) := by
  induction rows using List.reverseRecOn with
  | nil => rfl
  | append_singleton rows row ih =>
    rw [upsertAll_append_singleton, get_set, last_append_singleton]
    by_cases hKey : key row = k
    · subst hKey
      simp only [if_true, Option.map_some, Option.some_or]
      rw [ih]
      cases last key rows (key row) with
      | none => rfl
      | some earlier => simp [hLast]
    · simp [hKey, Ne.symm hKey, ih]

end Upsert

section Group

variable {ρ : Type w} (key : ρ → Option κ)

/-- The rows under each key, in their order; a row without a key is passed over. -/
def group (rows : List ρ) : List (κ × List ρ) :=
  rows.foldl (fun items row =>
    (key row).elim items fun k => set items k ((get items k).getD [] ++ [row])) []

theorem group_append_singleton (rows : List ρ) (row : ρ) :
    group key (rows ++ [row]) =
      (key row).elim (group key rows) fun k =>
        set (group key rows) k ((get (group key rows) k).getD [] ++ [row]) := by
  unfold group
  rw [List.foldl_append]
  rfl

theorem nodup_group (rows : List ρ) : ((group key rows).map Prod.fst).Nodup := by
  induction rows using List.reverseRecOn with
  | nil => exact List.nodup_nil
  | append_singleton rows row ih =>
    rw [group_append_singleton]
    cases key row with
    | none => exact ih
    | some k => exact nodup_set ih _ _

theorem getD_get_group (rows : List ρ) (k : κ) :
    (get (group key rows) k).getD [] = rows.filter fun row => key row = some k := by
  induction rows using List.reverseRecOn with
  | nil => rfl
  | append_singleton rows row ih =>
    rw [group_append_singleton, List.filter_append]
    cases hRow : key row with
    | none => simp [ih, hRow]
    | some other =>
      by_cases hKey : other = k
      · subst hKey
        simp [get_set, ih, hRow]
      · simp [get_set, ih, hRow, hKey, Ne.symm hKey]

theorem isSome_get_group (rows : List ρ) (k : κ) :
    (get (group key rows) k).isSome ↔ ∃ row ∈ rows, key row = some k := by
  induction rows using List.reverseRecOn with
  | nil => simp [group, get, lookup]
  | append_singleton rows row ih =>
    rw [group_append_singleton]
    cases hRow : key row with
    | none => simp [ih, hRow]
    | some other =>
      by_cases hKey : other = k
      · subst hKey
        simp [get_set, hRow]
      · simp [get_set, ih, hRow, hKey, Ne.symm hKey]

theorem mem_keys_group {rows : List ρ} {k : κ} :
    k ∈ (group key rows).map Prod.fst ↔ ∃ row ∈ rows, key row = some k := by
  rw [← isSome_get_group, Option.isSome_iff_ne_none, ne_eq, get_eq_none_iff, List.mem_map]
  simp

theorem rows_of_mem_group {rows : List ρ} {item : κ × List ρ} (h : item ∈ group key rows) :
    item.2 = rows.filter fun row => key row = some item.1 := by
  have hGet := (get_eq_some_iff (nodup_group key rows)).mpr (show (item.1, item.2) ∈ group key rows from h)
  rw [← getD_get_group, hGet]
  rfl

end Group

end EidolonAdmin.Foundation.Dict
