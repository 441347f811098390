import Mathlib.Algebra.BigOperators.Group.Finset.Basic
import Mathlib.Algebra.Order.BigOperators.Group.Multiset
import Mathlib.Data.List.Nodup
import Mathlib.Data.List.TakeWhile
import Mathlib.Logic.Function.Basic

/-! # A quota for each key, under one limit for all

A list is gone through from its front. An item is passed over once its key has used up
its quota, unless it is exempt; the walk stops when the overall limit is reached.
-/

namespace EidolonAdmin.Foundation.Quota

universe u v

variable {α : Type u} {κ : Type v} [DecidableEq κ] (key : α → κ) (exempt : α → Bool) (quota : Nat)

/-- The items that their quotas admit, with the number already used of each. -/
def admitted : (κ → Nat) → List α → List α
  | _, [] => []
  | used, item :: rest =>
    if quota ≤ used (key item) ∧ ¬ exempt item then admitted used rest
    else item :: admitted (Function.update used (key item) (used (key item) + 1)) rest

def admitUpTo (limit : Nat) : (κ → Nat) → List α → List α → List α
  | _, kept, [] => kept
  | used, kept, item :: rest =>
    if quota ≤ used (key item) ∧ ¬ exempt item then admitUpTo limit used kept rest
    else if limit ≤ (kept ++ [item]).length then kept ++ [item]
    else admitUpTo limit (Function.update used (key item) (used (key item) + 1)) (kept ++ [item]) rest

/-- What a key may show of its items when the exempt ones come first. -/
def share (items : List α) (k : κ) : Nat :=
  max (((items.filter exempt).map key).count k) (min ((items.map key).count k) quota)

def demand (items : List α) : Nat := ∑ k ∈ (items.map key).toFinset, share key exempt quota items k

variable {key exempt quota} {items : List α} {used : κ → Nat}

theorem admitted_sublist : (admitted key exempt quota used items).Sublist items := by
  induction items generalizing used with
  | nil => exact List.Sublist.slnil
  | cons item rest ih =>
    unfold admitted
    split
    · exact ih.cons item
    · exact ih.cons_cons item

theorem admitUpTo_eq {limit : Nat} {kept : List α} (h : kept.length < limit) :
    admitUpTo key exempt quota limit used kept items =
      (kept ++ admitted key exempt quota used items).take limit := by
  induction items generalizing used kept with
  | nil =>
    unfold admitUpTo admitted
    rw [List.append_nil, List.take_of_length_le (by omega)]
  | cons item rest ih =>
    unfold admitUpTo admitted
    split
    · exact ih h
    · split
      · rename_i hFull
        rw [List.length_append, List.length_singleton] at hFull
        have hLength : limit = (kept ++ [item]).length := by
          rw [List.length_append, List.length_singleton]
          omega
        rw [List.append_cons kept item (admitted _ _ _ _ rest), List.take_left' hLength.symm]
      · rename_i hRoom
        rw [ih (by omega), List.append_assoc, List.singleton_append]

theorem admitted_append (first second : List α) :
    admitted key exempt quota used (first ++ second) =
      admitted key exempt quota used first ++
        admitted key exempt quota
          (fun k => used k + ((admitted key exempt quota used first).map key).count k) second := by
  induction first generalizing used with
  | nil => simp [admitted]
  | cons item rest ih =>
    simp only [List.cons_append, admitted]
    split
    · exact ih
    · rw [ih, List.cons_append]
      congr 3
      funext k
      by_cases hKey : key item = k
      · subst hKey
        simp only [Function.update_self, List.map_cons, List.count_cons_self]
        omega
      · simp [Function.update_of_ne (Ne.symm hKey), hKey]

theorem count_admitted_of_none (h : ∀ item ∈ items, exempt item = false) (k : κ) :
    ((admitted key exempt quota used items).map key).count k =
      min ((items.map key).count k) (quota - used k) := by
  induction items generalizing used with
  | nil => simp [admitted]
  | cons item rest ih =>
    rw [List.forall_mem_cons] at h
    have hRest : ∀ used : κ → Nat, ((admitted key exempt quota used rest).map key).count k =
        min ((rest.map key).count k) (quota - used k) := fun used => ih h.2
    unfold admitted
    by_cases hKey : key item = k
    · subst hKey
      split
      · rename_i hFull
        rw [hRest]
        omega
      · rename_i hRoom
        simp only [h.1, Bool.false_eq_true, not_false_eq_true, and_true] at hRoom
        simp only [List.map_cons, List.count_cons_self, hRest, Function.update_self]
        omega
    · split
      · rw [hRest, List.map_cons, List.count_cons_of_ne hKey]
      · rw [List.map_cons, List.count_cons_of_ne hKey, hRest, List.map_cons,
          List.count_cons_of_ne hKey, Function.update_of_ne (Ne.symm hKey)]

def ExemptFirst (exempt : α → Bool) (items : List α) : Prop :=
  items.Pairwise fun a b => exempt b → exempt a

theorem count_admitted (h : ExemptFirst exempt items) (k : κ) :
    ((admitted key exempt quota used items).map key).count k =
      ((items.filter exempt).map key).count k +
        min ((items.map key).count k - ((items.filter exempt).map key).count k)
          (quota - (used k + ((items.filter exempt).map key).count k)) := by
  induction items generalizing used with
  | nil => simp [admitted]
  | cons item rest ih =>
    unfold ExemptFirst at h
    rw [List.pairwise_cons] at h
    by_cases hExempt : exempt item
    · have hStep : admitted key exempt quota used (item :: rest) =
          item :: admitted key exempt quota (Function.update used (key item) (used (key item) + 1)) rest := by
        rw [admitted, if_neg (by simp [hExempt])]
      rw [hStep, List.map_cons, List.filter_cons_of_pos hExempt, List.map_cons, List.map_cons]
      by_cases hKey : key item = k
      · subst hKey
        simp only [List.count_cons_self, ih h.2, Function.update_self]
        omega
      · simp only [List.count_cons_of_ne hKey, ih h.2, Function.update_of_ne (Ne.symm hKey)]
    · have hNone : ∀ other ∈ item :: rest, exempt other = false := by
        rw [List.forall_mem_cons]
        refine ⟨by simpa using hExempt, fun other hOther => ?_⟩
        by_contra hOtherExempt
        exact hExempt (h.1 other hOther (by simpa using hOtherExempt))
      have hFilter : (item :: rest).filter exempt = [] := by
        rw [List.filter_eq_nil_iff]
        intro other hOther
        simp [hNone other hOther]
      rw [count_admitted_of_none hNone, hFilter]
      simp

theorem count_filter_le {f : α → κ} {p : α → Bool} (items : List α) (k : κ) :
    ((items.filter p).map f).count k ≤ (items.map f).count k :=
  (List.filter_sublist.map f).count_le k

theorem count_admitted_eq_share (h : ExemptFirst exempt items) (k : κ) :
    ((admitted key exempt quota (fun _ => 0) items).map key).count k = share key exempt quota items k := by
  have hLe := count_filter_le (p := exempt) (f := key) items k
  rw [count_admitted h, share]
  omega

theorem length_admitted (h : ExemptFirst exempt items) :
    (admitted key exempt quota (fun _ => 0) items).length = demand key exempt quota items := by
  have hKeys : ((admitted key exempt quota (fun _ => 0) items).map key).toFinset ⊆
      (items.map key).toFinset := by
    intro k hK
    rw [List.mem_toFinset] at hK ⊢
    exact (admitted_sublist.map key).subset hK
  calc (admitted key exempt quota (fun _ => 0) items).length
      = ((admitted key exempt quota (fun _ => 0) items).map key).length := (List.length_map key).symm
    _ = ∑ k ∈ ((admitted key exempt quota (fun _ => 0) items).map key).toFinset,
          ((admitted key exempt quota (fun _ => 0) items).map key).count k :=
        (List.sum_toFinset_count_eq_length _).symm
    _ = ∑ k ∈ (items.map key).toFinset,
          ((admitted key exempt quota (fun _ => 0) items).map key).count k := by
        refine Finset.sum_subset hKeys fun k _ hAbsent => ?_
        exact List.count_eq_zero.mpr fun hMem => hAbsent (List.mem_toFinset.mpr hMem)
    _ = demand key exempt quota items :=
        Finset.sum_congr rfl fun k _ => count_admitted_eq_share h k

/-- All items are admitted exactly if no key has more than its quota, or only exempt ones. -/
theorem admitted_eq_self_iff (h : ExemptFirst exempt items) :
    admitted key exempt quota (fun _ => 0) items = items ↔
      ∀ k, (items.map key).count k ≤ quota ∨
        ((items.filter exempt).map key).count k = (items.map key).count k := by
  constructor
  · intro hSelf k
    have hCount : ((admitted key exempt quota (fun _ => 0) items).map key).count k = _ :=
      count_admitted_eq_share h k
    have hLe := count_filter_le (p := exempt) (f := key) items k
    rw [hSelf, share] at hCount
    omega
  · intro hAll
    have hPerm : ((admitted key exempt quota (fun _ => 0) items).map key).Perm (items.map key) := by
      refine List.perm_iff_count.mpr fun k => ?_
      have hLe := count_filter_le (p := exempt) (f := key) items k
      have hShare := hAll k
      rw [count_admitted_eq_share h, share]
      omega
    refine admitted_sublist.eq_of_length ?_
    have hLength := hPerm.length_eq
    rwa [List.length_map, List.length_map] at hLength

theorem demand_perm {others : List α} (h : items.Perm others) :
    demand key exempt quota items = demand key exempt quota others := by
  have hKeys : (items.map key).toFinset = (others.map key).toFinset :=
    List.toFinset_eq_of_perm _ _ (h.map key)
  unfold demand
  rw [hKeys]
  refine Finset.sum_congr rfl fun k _ => ?_
  rw [share, share, ((h.filter exempt).map key).count_eq k, (h.map key).count_eq k]

/-- A key is shown exactly if those ahead of its first item leave it a place. -/
theorem shown_iff {limit : Nat} {k : κ} (hFirst : ExemptFirst exempt items) (hQuota : 0 < quota)
    (hKey : k ∈ items.map key) :
    (∃ item ∈ (admitted key exempt quota (fun _ => 0) items).take limit, key item = k) ↔
      demand key exempt quota (items.takeWhile fun item => !decide (key item = k)) < limit := by
  set ahead := items.takeWhile fun item => !decide (key item = k) with hAhead
  have hAbsent : ∀ item ∈ ahead, key item ≠ k := by
    intro item hItem
    simpa using List.mem_takeWhile_imp hItem
  have hShown : ∀ item ∈ admitted key exempt quota (fun _ => 0) ahead, key item ≠ k :=
    fun item hItem => hAbsent item (admitted_sublist.subset hItem)
  have hCount : ((admitted key exempt quota (fun _ => 0) ahead).map key).count k = 0 := by
    refine List.count_eq_zero.mpr fun hMem => ?_
    obtain ⟨item, hItem, hItemKey⟩ := List.mem_map.mp hMem
    exact hShown item hItem hItemKey
  have hLength : (admitted key exempt quota (fun _ => 0) ahead).length = demand key exempt quota ahead :=
    length_admitted (hFirst.sublist (List.takeWhile_sublist _))
  have hSplit := List.takeWhile_append_dropWhile (p := fun item => !decide (key item = k)) (l := items)
  rcases hRest : items.dropWhile fun item => !decide (key item = k) with _ | ⟨item, rest⟩
  · -- the key would not occur at all
    rw [hRest, List.append_nil, ← hAhead] at hSplit
    obtain ⟨item, hItem, hItemKey⟩ := List.mem_map.mp hKey
    rw [← hSplit] at hItem
    exact absurd hItemKey (hAbsent item hItem)
  · have hItem : key item = k := by
      have hHead := List.head_dropWhile_not (fun item => !decide (key item = k))
        (l := items) (by simp [hRest])
      simpa [hRest] using hHead
    rw [hRest, ← hAhead] at hSplit
    rw [← hSplit, admitted_append, admitted, if_neg (by simp [hItem, hCount]; omega), ← hLength]
    constructor
    · rintro ⟨shown, hMem, hKeyShown⟩
      by_contra hFull
      rw [List.take_append_of_le_length (by omega)] at hMem
      exact hShown shown (List.mem_of_mem_take hMem) hKeyShown
    · intro hRoom
      refine ⟨item, ?_, hItem⟩
      rw [List.mem_take_iff_getElem]
      refine ⟨(admitted key exempt quota (fun _ => 0) ahead).length, ?_, ?_⟩
      · simp only [List.length_append, List.length_cons]
        omega
      · simp

end EidolonAdmin.Foundation.Quota
