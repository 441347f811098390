import Mathlib.Data.List.Induction

/-! # Journals whose entries rest on earlier ones

A rule says what must stand in a journal before an entry. A journal that was written entry by entry
under the rule has below each of its entries what the rule asks for.
-/

namespace EidolonAdmin.Foundation.Journal

universe u

variable {μ : Type u}

inductive Lawful (rule : List μ → μ → Prop) : List μ → Prop where
  | nil : Lawful rule []
  | write {journal : List μ} {mark : μ} (h : Lawful rule journal) (hRule : rule journal mark) :
      Lawful rule (journal ++ [mark])

variable {rule : List μ → μ → Prop} {journal : List μ}

theorem Lawful.front {earlier later : List μ} (h : Lawful rule (earlier ++ later)) : Lawful rule earlier := by
  induction later using List.reverseRecOn with
  | nil => rwa [List.append_nil] at h
  | append_singleton later last ih =>
    rw [← List.append_assoc] at h
    generalize hAll : earlier ++ later ++ [last] = all at h
    cases h with
    | nil => exact absurd hAll (by simp)
    | write hBefore =>
      obtain ⟨rfl, _⟩ := List.append_inj' hAll rfl
      exact ih hBefore

theorem Lawful.holds {earlier later : List μ} {mark : μ} (h : Lawful rule (earlier ++ mark :: later)) :
    rule earlier mark := by
  rw [List.append_cons] at h
  have hFront := h.front
  generalize hAll : earlier ++ [mark] = all at hFront
  cases hFront with
  | nil => exact absurd hAll (by simp)
  | write _ hRule =>
    obtain ⟨rfl, hMark⟩ := List.append_inj' hAll rfl
    cases hMark
    exact hRule

theorem Lawful.of_mem {mark : μ} (h : Lawful rule journal) (hMem : mark ∈ journal) :
    ∃ earlier later, journal = earlier ++ mark :: later ∧ Lawful rule earlier ∧ rule earlier mark := by
  obtain ⟨earlier, later, rfl⟩ := List.append_of_mem hMem
  exact ⟨earlier, later, rfl, h.front, h.holds⟩

end EidolonAdmin.Foundation.Journal
