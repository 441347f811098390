import Mathlib.Data.List.Forall2

/-! # Going through a list with a function that can fail

The whole is there exactly if every item is.
-/

namespace EidolonAdmin.Foundation.Traverse

universe u v w

variable {α : Type u} {β : Type v} {f : α → Option β} {xs : List α} {ys : List β}

theorem mapM_eq_filterMap (h : ∀ x ∈ xs, (f x).isSome) : xs.mapM f = some (xs.filterMap f) := by
  induction xs with
  | nil => rfl
  | cons x rest ih =>
    rw [List.forall_mem_cons] at h
    obtain ⟨y, hY⟩ := Option.isSome_iff_exists.mp h.1
    rw [List.mapM_cons, hY, ih h.2, List.filterMap_cons_some hY]
    rfl

theorem isSome_of_mapM (h : xs.mapM f = some ys) : ∀ x ∈ xs, (f x).isSome := by
  induction xs generalizing ys with
  | nil => exact fun x hX => absurd hX List.not_mem_nil
  | cons x rest ih =>
    rw [List.mapM_cons] at h
    obtain ⟨y, hY, h⟩ := Option.bind_eq_some_iff.mp h
    obtain ⟨ys', hYs, -⟩ := Option.bind_eq_some_iff.mp h
    rw [List.forall_mem_cons]
    exact ⟨by simp [hY], ih hYs⟩

theorem isSome_mapM_iff : (xs.mapM f).isSome ↔ ∀ x ∈ xs, (f x).isSome := by
  constructor
  · intro h
    obtain ⟨ys, hYs⟩ := Option.isSome_iff_exists.mp h
    exact isSome_of_mapM hYs
  · intro h
    rw [mapM_eq_filterMap h]
    rfl

theorem eq_filterMap_of_mapM (h : xs.mapM f = some ys) : ys = xs.filterMap f := by
  rw [mapM_eq_filterMap (isSome_of_mapM h)] at h
  exact (Option.some.inj h).symm

theorem map_eq_of_mapM (h : xs.mapM f = some ys) : xs.map f = ys.map some := by
  induction xs generalizing ys with
  | nil => cases h; rfl
  | cons x rest ih =>
    rw [List.mapM_cons] at h
    obtain ⟨y, hY, h⟩ := Option.bind_eq_some_iff.mp h
    obtain ⟨ys', hYs, h⟩ := Option.bind_eq_some_iff.mp h
    cases h
    rw [List.map_cons, List.map_cons, hY, ih hYs]

theorem mem_of_mapM (h : xs.mapM f = some ys) {y : β} : y ∈ ys ↔ ∃ x ∈ xs, f x = some y := by
  rw [eq_filterMap_of_mapM h, List.mem_filterMap]

theorem mapM_eq_map_mapM {γ : Type w} {key : α → γ} {g : γ → Option β} (h : ∀ x ∈ xs, f x = g (key x)) :
    xs.mapM f = (xs.map key).mapM g := by
  induction xs with
  | nil => rfl
  | cons x rest ih =>
    rw [List.forall_mem_cons] at h
    rw [List.map_cons, List.mapM_cons, List.mapM_cons, h.1, ih h.2]

/-! ## Errors -/

variable {ε : Type*} {γ : Type w}

theorem exists_map_ok_iff {h : β → γ} {found : Except ε β} : (∃ c, found.map h = .ok c) ↔ ∃ b, found = .ok b := by
  cases found with
  | error error => exact iff_of_false (fun ⟨_, h⟩ => nomatch h) fun ⟨_, h⟩ => nomatch h
  | ok b => exact iff_of_true ⟨_, rfl⟩ ⟨_, rfl⟩

theorem mapM_ok_iff {g : α → Except ε β} {xs : List α} {ys : List β} :
    xs.mapM g = .ok ys ↔ List.Forall₂ (fun x y => g x = .ok y) xs ys := by
  induction xs generalizing ys with
  | nil =>
    rw [List.mapM_nil, List.forall₂_nil_left_iff]
    exact ⟨fun h => (Except.ok.inj h).symm, fun h => congrArg Except.ok h.symm⟩
  | cons x rest ih =>
    rw [List.mapM_cons, List.forall₂_cons_left_iff]
    cases hX : g x with
    | error error => exact iff_of_false (fun h => nomatch h) fun ⟨_, _, h, _⟩ => nomatch h
    | ok y =>
      cases hRest : rest.mapM g with
      | error error =>
        refine iff_of_false (fun h => nomatch h) fun ⟨_, ys', _, h, _⟩ => ?_
        cases hRest.symm.trans (ih.mpr h)
      | ok ys' =>
        constructor
        · rintro h
          cases h
          exact ⟨y, ys', rfl, ih.mp hRest, rfl⟩
        · rintro ⟨_, _, h, hYs, rfl⟩
          cases h
          cases hRest.symm.trans (ih.mpr hYs)
          rfl

theorem exists_mapM_ok_iff {g : α → Except ε β} {xs : List α} :
    (∃ ys, xs.mapM g = .ok ys) ↔ ∀ x ∈ xs, ∃ y, g x = .ok y := by
  induction xs with
  | nil => exact iff_of_true ⟨[], rfl⟩ (List.forall_mem_nil _)
  | cons x rest ih =>
    rw [List.forall_mem_cons, ← ih]
    simp only [mapM_ok_iff, List.forall₂_cons_left_iff]
    constructor
    · rintro ⟨_, y, ys, hY, hYs, rfl⟩
      exact ⟨⟨y, hY⟩, ys, hYs⟩
    · rintro ⟨⟨y, hY⟩, ys, hYs⟩
      exact ⟨y :: ys, y, ys, hY, hYs, rfl⟩

theorem forall₂_imp_of_mem {R S : α → β → Prop} {xs : List α} {ys : List β} (hAll : List.Forall₂ R xs ys)
    (h : ∀ x ∈ xs, ∀ y, R x y → S x y) : List.Forall₂ S xs ys := by
  induction hAll with
  | nil => exact .nil
  | cons hHead _ ih =>
    rw [List.forall_mem_cons] at h
    exact .cons (h.1 _ hHead) (ih h.2)

theorem forall₂_outputs {R : α → β → Prop} {S : γ → γ → Prop} {f : α → Except ε γ} {g : β → Except ε γ}
    {xs : List α} {ys : List β} {us vs : List γ} (hInputs : List.Forall₂ R xs ys)
    (hF : List.Forall₂ (fun x u => f x = .ok u) xs us) (hG : List.Forall₂ (fun y v => g y = .ok v) ys vs)
    (h : ∀ x ∈ xs, ∀ y u v, R x y → f x = .ok u → g y = .ok v → S u v) : List.Forall₂ S us vs := by
  induction hInputs generalizing us vs with
  | nil =>
    cases hF
    cases hG
    exact .nil
  | cons hHead _ ih =>
    cases hF with
    | cons hU hUs =>
      cases hG with
      | cons hV hVs =>
        rw [List.forall_mem_cons] at h
        exact .cons (h.1 _ _ _ hHead hU hV) (ih hUs hVs h.2)

end EidolonAdmin.Foundation.Traverse
