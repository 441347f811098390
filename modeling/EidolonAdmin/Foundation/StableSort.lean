import Mathlib.Data.List.Sort

/-! # A stable sort and what comes ahead

Items that the order does not tell apart keep the order they were given in: the place of
an item settles a tie. The end of an ordered list is told by how many come later.
-/

namespace EidolonAdmin.Foundation.StableSort

universe u

variable {α : Type u} (r : α → α → Prop)

def ComesBefore (a b : α × Nat) : Prop := r a.1 b.1 ∧ (r b.1 a.1 → a.2 < b.2)

instance [DecidableRel r] : DecidableRel (ComesBefore r) := fun _ _ => inferInstanceAs (Decidable (_ ∧ _))

def aheadOf [DecidableRel r] (p : α → Bool) (items : List α) : List α :=
  (items.zipIdx.filter fun item =>
    ∀ other ∈ items.zipIdx, p other.1 → ComesBefore r item other).map Prod.fst

variable {r}

theorem comesBefore_asymm {a b : α × Nat} (h : ComesBefore r a b) : ¬ ComesBefore r b a := by
  rintro ⟨hBack, hLater⟩
  have hFirst := h.2 hBack
  have hSecond := hLater h.1
  omega

section Total

variable [DecidableRel r] (hTotal : ∀ a b, r a b ∨ r b a) (hTrans : ∀ a b c, r a b → r b c → r a c)

include hTotal hTrans

theorem pairwise_orderedInsert {item : α × Nat} {items : List (α × Nat)}
    (hSorted : items.Pairwise (ComesBefore r)) (hLater : ∀ other ∈ items, item.2 < other.2) :
    (items.orderedInsert (fun a b => r a.1 b.1) item).Pairwise (ComesBefore r) := by
  induction items with
  | nil => exact List.pairwise_singleton _ _
  | cons first rest ih =>
    rw [List.forall_mem_cons] at hLater
    rw [List.pairwise_cons] at hSorted
    by_cases hFirst : r item.1 first.1
    · rw [List.orderedInsert_cons, if_pos hFirst]
      refine List.pairwise_cons.mpr ⟨?_, List.pairwise_cons.mpr hSorted⟩
      rw [List.forall_mem_cons]
      refine ⟨⟨hFirst, fun _ => hLater.1⟩, fun other hOther => ?_⟩
      exact ⟨hTrans _ _ _ hFirst (hSorted.1 other hOther).1, fun _ => hLater.2 other hOther⟩
    · rw [List.orderedInsert_cons, if_neg hFirst]
      refine List.pairwise_cons.mpr ⟨fun other hOther => ?_, ih hSorted.2 hLater.2⟩
      obtain rfl | hOther := (List.mem_orderedInsert _).mp hOther
      · exact ⟨(hTotal _ _).resolve_left hFirst, fun hItem => absurd hItem hFirst⟩
      · exact hSorted.1 other hOther

theorem exists_places (items : List α) (start : Nat) :
    ∃ placed : List (α × Nat), placed.Perm (items.zipIdx start) ∧
      placed.map Prod.fst = items.insertionSort r ∧ placed.Pairwise (ComesBefore r) := by
  induction items generalizing start with
  | nil => exact ⟨[], List.Perm.refl _, rfl, List.Pairwise.nil⟩
  | cons item rest ih =>
    obtain ⟨placed, hPerm, hMap, hSorted⟩ := ih (start + 1)
    refine ⟨placed.orderedInsert (fun a b => r a.1 b.1) (item, start), ?_, ?_, ?_⟩
    · rw [List.zipIdx_cons]
      exact (List.perm_orderedInsert _ _ _).trans (hPerm.cons _)
    · rw [List.map_orderedInsert _ r, hMap, List.insertionSort_cons]
      · exact fun _ _ => Iff.rfl
      · exact fun _ _ => Iff.rfl
    · refine pairwise_orderedInsert hTotal hTrans hSorted fun other hOther => ?_
      have hPlace := List.le_snd_of_mem_zipIdx (hPerm.subset hOther)
      exact hPlace

omit hTotal hTrans in
theorem takeWhile_eq_filter {placed : List (α × Nat)} (p : α → Bool)
    (hSorted : placed.Pairwise (ComesBefore r)) :
    placed.takeWhile (fun item => !p item.1) =
      placed.filter fun item => ∀ other ∈ placed, p other.1 → ComesBefore r item other := by
  induction placed with
  | nil => rfl
  | cons first rest ih =>
    rw [List.pairwise_cons] at hSorted
    by_cases hFirst : p first.1
    · rw [List.takeWhile_cons_of_neg (by simp [hFirst])]
      refine (List.filter_eq_nil_iff.mpr fun item hItem => ?_).symm
      simp only [decide_eq_true_eq, not_forall]
      refine ⟨first, List.mem_cons_self, hFirst, ?_⟩
      obtain rfl | hItem := List.mem_cons.mp hItem
      · exact fun hSelf => comesBefore_asymm hSelf hSelf
      · exact comesBefore_asymm (hSorted.1 item hItem)
    · rw [List.takeWhile_cons_of_pos (by simpa using hFirst), ih hSorted.2,
        List.filter_cons_of_pos]
      · congr 1
        refine List.filter_congr fun item hItem => ?_
        simp [hFirst]
      · simp only [decide_eq_true_eq, List.forall_mem_cons]
        exact ⟨fun hHas => absurd hHas hFirst, fun other hOther _ => hSorted.1 other hOther⟩

theorem takeWhile_insertionSort_perm (p : α → Bool) (items : List α) :
    ((items.insertionSort r).takeWhile fun item => !p item).Perm (aheadOf r p items) := by
  obtain ⟨placed, hPerm, hMap, hSorted⟩ := exists_places hTotal hTrans items 0
  rw [← hMap, List.takeWhile_map]
  refine List.Perm.map Prod.fst ?_
  change (placed.takeWhile fun item => !p item.1).Perm _
  rw [takeWhile_eq_filter p hSorted]
  have hMembers : ∀ item : α × Nat, (∀ other ∈ placed, p other.1 → ComesBefore r item other) ↔
      ∀ other ∈ items.zipIdx, p other.1 → ComesBefore r item other := by
    intro item
    constructor
    · intro h other hOther
      exact h other (hPerm.mem_iff.mpr hOther)
    · intro h other hOther
      exact h other (hPerm.mem_iff.mp hOther)
  simp only [hMembers]
  exact hPerm.filter _

end Total

theorem mem_drop_iff [DecidableRel r] (hAsymm : ∀ a b, r a b → ¬ r b a) {items : List α}
    (hSorted : items.Pairwise r) {item : α} (hItem : item ∈ items) (n : Nat) :
    item ∈ items.drop (items.length - n) ↔ items.countP (fun other => r item other) < n := by
  have hIrrefl : ∀ a, ¬ r a a := fun a h => hAsymm a a h h
  induction items with
  | nil => cases hItem
  | cons first rest ih =>
    rw [List.pairwise_cons] at hSorted
    by_cases hSelf : item = first
    · subst hSelf
      have hAbsent : item ∉ rest := fun hRest => hIrrefl item (hSorted.1 item hRest)
      have hAll : rest.countP (fun other => r item other) = rest.length :=
        List.countP_eq_length.mpr fun other hOther => decide_eq_true (hSorted.1 other hOther)
      rw [List.countP_cons_of_neg (by simpa using hIrrefl item), hAll, List.length_cons]
      by_cases hFew : rest.length < n
      · rw [show rest.length + 1 - n = 0 by omega, List.drop_zero]
        simp [hFew]
      · rw [show rest.length + 1 - n = (rest.length - n) + 1 by omega, List.drop_succ_cons]
        exact iff_of_false (fun h => hAbsent (List.mem_of_mem_drop h)) hFew
    · have hRest : item ∈ rest := (List.mem_cons.mp hItem).resolve_left hSelf
      have hBack : ¬ r item first := hAsymm first item (hSorted.1 item hRest)
      rw [List.countP_cons_of_neg (by simpa using hBack), List.length_cons]
      refine Iff.trans ?_ (ih hSorted.2 hRest)
      by_cases hFew : rest.length < n
      · rw [show rest.length + 1 - n = 0 by omega, show rest.length - n = 0 by omega]
        simp [hRest]
      · rw [show rest.length + 1 - n = (rest.length - n) + 1 by omega, List.drop_succ_cons]

variable (key : α → Int)

def firstMax : List α → Option α
  | [] => none
  | item :: rest =>
    some (rest.foldl (fun best other => if key best < key other then other else best) item)

variable {key}

theorem foldl_max (key : α → Int) (best : α) (rest : List α) :
    let last := rest.foldl (fun best other => if key best < key other then other else best) best
    (last = best ∨ last ∈ rest) ∧ key best ≤ key last ∧ ∀ other ∈ rest, key other ≤ key last := by
  induction rest generalizing best with
  | nil => simp
  | cons item rest ih =>
    simp only [List.foldl_cons, List.forall_mem_cons]
    by_cases hLess : key best < key item
    · obtain ⟨hMem, hLe, hRest⟩ := ih item
      simp only [if_pos hLess]
      exact ⟨.inr (List.mem_cons.mpr hMem), by omega, hLe, hRest⟩
    · obtain ⟨hMem, hLe, hRest⟩ := ih best
      simp only [if_neg hLess]
      exact ⟨hMem.imp_right (List.mem_cons_of_mem item), hLe, by omega, hRest⟩

theorem firstMax_spec {items : List α} {item : α} (h : firstMax key items = some item) :
    item ∈ items ∧ ∀ other ∈ items, key other ≤ key item := by
  cases items with
  | nil => cases h
  | cons first rest =>
    obtain ⟨hMem, hLe, hRest⟩ := foldl_max key first rest
    rw [firstMax, Option.some.injEq] at h
    rw [h] at hMem hLe hRest
    exact ⟨List.mem_cons.mpr hMem, List.forall_mem_cons.mpr ⟨hLe, hRest⟩⟩

theorem exists_firstMax {items : List α} {item : α} (h : item ∈ items) :
    ∃ best, firstMax key items = some best := by
  cases items with
  | nil => cases h
  | cons first rest => exact ⟨_, rfl⟩

end EidolonAdmin.Foundation.StableSort
