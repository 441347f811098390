import Mathlib.Data.List.Basic

/-! # Deterministic machines and the states their runs reach

A machine is a total step function. The rules below are the only inductions over
runs in this development: an invariant, an invariant under a guard that every
step of the run meets, a relation between an earlier and a later state, and the
refinement of each step by a run of a lower machine.
-/

namespace EidolonAdmin.Foundation.Transition

universe u v w x

variable {σ : Type u} {α : Type v} {τ : Type w} {β : Type x}

def run (step : σ → α → σ) (s : σ) (actions : List α) : σ := actions.foldl step s

@[simp] theorem run_nil (step : σ → α → σ) (s : σ) : run step s [] = s := rfl

@[simp] theorem run_cons (step : σ → α → σ) (s : σ) (a : α) (rest : List α) :
    run step s (a :: rest) = run step (step s a) rest := rfl

theorem run_append (step : σ → α → σ) (s : σ) (first second : List α) :
    run step s (first ++ second) = run step (run step s first) second :=
  List.foldl_append

theorem run_invariant {step : σ → α → σ} {P : σ → Prop} (hStep : ∀ s a, P s → P (step s a))
    {s : σ} (h : P s) (actions : List α) : P (run step s actions) := by
  induction actions generalizing s with
  | nil => exact h
  | cons a rest ih => exact ih (hStep s a h)

/-- Every action of the run meets the guard in the state it is performed in. -/
def Meets (step : σ → α → σ) (guard : σ → α → Prop) : σ → List α → Prop
  | _, [] => True
  | s, a :: rest => guard s a ∧ Meets step guard (step s a) rest

instance instDecidableMeets {step : σ → α → σ} {guard : σ → α → Prop} [∀ s a, Decidable (guard s a)] :
    ∀ s actions, Decidable (Meets step guard s actions)
  | _, [] => .isTrue trivial
  | s, a :: rest =>
    have : Decidable (Meets step guard (step s a) rest) := instDecidableMeets (step s a) rest
    inferInstanceAs (Decidable (_ ∧ _))

theorem meets_append (step : σ → α → σ) (guard : σ → α → Prop) (s : σ) (first second : List α) :
    Meets step guard s (first ++ second) ↔
      Meets step guard s first ∧ Meets step guard (run step s first) second := by
  induction first generalizing s with
  | nil => simp [Meets]
  | cons a rest ih => simp only [List.cons_append, Meets, run_cons, ih, and_assoc]

theorem meets_iff (step : σ → α → σ) (guard : σ → α → Prop) (s : σ) (actions : List α) :
    Meets step guard s actions ↔
      ∀ before a after, actions = before ++ a :: after → guard (run step s before) a := by
  constructor
  · intro h before a after hSplit
    rw [hSplit, meets_append] at h
    exact h.2.1
  · intro h
    induction actions generalizing s with
    | nil => trivial
    | cons a rest ih =>
      refine ⟨h [] a rest rfl, ih (step s a) ?_⟩
      intro before b after hSplit
      exact h (a :: before) b after (by rw [hSplit, List.cons_append])

theorem Meets.of_mem {step : σ → α → σ} {Q : α → Prop} (s : σ) {actions : List α}
    (h : ∀ a ∈ actions, Q a) : Meets step (fun _ a => Q a) s actions := by
  induction actions generalizing s with
  | nil => trivial
  | cons a rest ih =>
    exact ⟨h a List.mem_cons_self, ih (step s a) fun b hB => h b (List.mem_cons_of_mem a hB)⟩

theorem Meets.run_invariant {step : σ → α → σ} {guard : σ → α → Prop} {P : σ → Prop}
    (hStep : ∀ s a, guard s a → P s → P (step s a)) {s : σ} (h : P s) {actions : List α}
    (hMeets : Meets step guard s actions) : P (run step s actions) := by
  induction actions generalizing s with
  | nil => exact h
  | cons a rest ih => exact ih (hStep s a hMeets.1 h) hMeets.2

theorem meets_and (step : σ → α → σ) (guard other : σ → α → Prop) (s : σ) (actions : List α) :
    Meets step (fun s a => guard s a ∧ other s a) s actions ↔
      Meets step guard s actions ∧ Meets step other s actions := by
  induction actions generalizing s with
  | nil => simp [Meets]
  | cons a rest ih => simp only [Meets, ih, and_and_and_comm]

theorem Meets.imp {step : σ → α → σ} {guard other : σ → α → Prop} {P : σ → Prop}
    (hStep : ∀ s a, guard s a → P s → P (step s a)) (hImp : ∀ s a, guard s a → P s → other s a)
    {s : σ} (h : P s) {actions : List α} (hMeets : Meets step guard s actions) :
    Meets step other s actions := by
  induction actions generalizing s with
  | nil => trivial
  | cons a rest ih => exact ⟨hImp s a hMeets.1 h, ih (hStep s a hMeets.1 h) hMeets.2⟩

/-- A run in which some step misses the guard ends where such a step leads. -/
theorem run_of_not_meets {step : σ → α → σ} {guard : σ → α → Prop} {P Q : σ → Prop}
    (hStep : ∀ s a, guard s a → P s → P (step s a)) (hMiss : ∀ s a, ¬ guard s a → P s → Q (step s a))
    (hKeep : ∀ s a, Q s → Q (step s a)) {s : σ} (h : P s) {actions : List α}
    (hNot : ¬ Meets step guard s actions) : Q (run step s actions) := by
  induction actions generalizing s with
  | nil => exact absurd trivial hNot
  | cons a rest ih =>
    by_cases hGuard : guard s a
    · exact ih (hStep s a hGuard h) fun hRest => hNot ⟨hGuard, hRest⟩
    · exact EidolonAdmin.Foundation.Transition.run_invariant hKeep (hMiss s a hGuard h) rest

/-- A reflexive, transitive relation that every guarded step respects relates the
first state of a run to its last. -/
theorem Meets.run_related {step : σ → α → σ} {guard : σ → α → Prop} {P : σ → Prop}
    {R : σ → σ → Prop} (hRefl : ∀ s, R s s) (hTrans : ∀ s t r, R s t → R t r → R s r)
    (hStep : ∀ s a, guard s a → P s → P (step s a))
    (hRel : ∀ s a, guard s a → P s → R s (step s a)) {s : σ} (h : P s) {actions : List α}
    (hMeets : Meets step guard s actions) : R s (run step s actions) := by
  induction actions generalizing s with
  | nil => exact hRefl s
  | cons a rest ih =>
    exact hTrans _ _ _ (hRel s a hMeets.1 h) (ih (hStep s a hMeets.1 h) hMeets.2)

theorem exists_step_of_run {step : σ → α → σ} {P : σ → Prop} {s : σ} {actions : List α}
    (hStart : ¬ P s) (hEnd : P (run step s actions)) :
    ∃ before a after, actions = before ++ a :: after ∧ ¬ P (run step s before) ∧
      P (step (run step s before) a) := by
  induction actions generalizing s with
  | nil => exact absurd hEnd hStart
  | cons a rest ih =>
    by_cases hNext : P (step s a)
    · exact ⟨[], a, rest, rfl, hStart, hNext⟩
    · obtain ⟨before, b, after, hSplit, hBefore, hAfter⟩ := ih hNext hEnd
      exact ⟨a :: before, b, after, by rw [hSplit, List.cons_append], hBefore, hAfter⟩

theorem bind_eq_ok_iff {ε : Type u} {γ δ : Type v} {first : Except ε γ} {next : γ → Except ε δ} {result : δ} :
    first >>= next = .ok result ↔ ∃ value, first = .ok value ∧ next value = .ok result := by
  cases first with
  | error error => simp [bind, Except.bind]
  | ok value => simp [bind, Except.bind]

end EidolonAdmin.Foundation.Transition
