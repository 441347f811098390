import Mathlib.Data.List.Basic

/-! # Connections, implicit transactions and interrupted runs

A connection holds what is durable and, inside a transaction, what is pending. A
statement run through `execute` opens a transaction if it is one that the driver
opens one for; any other commits by itself unless a transaction is open. A script
commits what is pending and then each of its statements by itself. A process that
stops loses what is pending.
-/

namespace EidolonAdmin.Foundation

structure Connection (δ : Type) where
  durable : δ
  pending : Option δ

inductive Call (σ : Type) where
  | script (statement : σ)
  | execute (statement : σ)
  | commit

namespace Connection

variable {δ δ' σ ε ε' : Type}

def fresh (d : δ) : Connection δ := ⟨d, none⟩

def view (c : Connection δ) : δ := c.pending.getD c.durable

def map (f : δ → δ') (c : Connection δ) : Connection δ' := ⟨f c.durable, c.pending.map f⟩

theorem view_map (f : δ → δ') (c : Connection δ) : (c.map f).view = f c.view := by
  obtain ⟨durable, pending⟩ := c
  cases pending <;> rfl

variable (exec : δ → σ → Except ε δ) (opens : σ → Bool)

def perform (c : Connection δ) : Call σ → Except ε (Connection δ)
  | .script statement =>
    match exec c.view statement with
    | .error e => .error e
    | .ok d => .ok (fresh d)
  | .execute statement =>
    match exec c.view statement with
    | .error e => .error e
    | .ok d => .ok (if c.pending.isSome || opens statement then ⟨c.durable, some d⟩ else fresh d)
  | .commit => .ok (fresh c.view)

def performAll (c : Connection δ) : List (Call σ) → Except ε (Connection δ)
  | [] => .ok c
  | call :: rest =>
    match c.perform exec opens call with
    | .error e => .error e
    | .ok next => next.performAll rest

def execAll (d : δ) : List σ → Except ε δ
  | [] => .ok d
  | statement :: rest =>
    match exec d statement with
    | .error e => .error e
    | .ok next => execAll next rest

def executescript (statements : List σ) : List (Call σ) := statements.map .script

/-- What a process finds that starts after the first `k` calls have been performed. -/
def stoppedAfter (k : Nat) (d : δ) (calls : List (Call σ)) : Except ε δ :=
  match (fresh d).performAll exec opens (calls.take k) with
  | .error e => .error e
  | .ok c => .ok c.durable

variable {exec opens}

theorem performAll_executescript (d : δ) (statements : List σ) :
    (fresh d).performAll exec opens (executescript statements) =
      match execAll exec d statements with
      | .error e => .error e
      | .ok next => .ok (fresh next) := by
  induction statements generalizing d with
  | nil => rfl
  | cons statement rest ih =>
    rw [executescript, List.map_cons, performAll, perform, execAll]
    have hView : (fresh d).view = d := rfl
    rw [hView]
    cases exec d statement with
    | error e => rfl
    | ok next => exact ih next

theorem execAll_cons_of_ok {d next : δ} {statement : σ} (h : exec d statement = .ok next)
    (rest : List σ) : execAll exec d (statement :: rest) = execAll exec next rest := by
  rw [execAll, h]

theorem performAll_executescript_of_ok {d next : δ} {statements : List σ}
    (h : execAll exec d statements = .ok next) :
    (fresh d).performAll exec opens (executescript statements) = .ok (fresh next) := by
  rw [performAll_executescript, h]

theorem performAll_execute_of_ok {d next : δ} {statement : σ} (h : exec d statement = .ok next)
    (hOpens : opens statement = false) :
    (fresh d).performAll exec opens [.execute statement] = .ok (fresh next) := by
  have hView : (fresh d).view = d := rfl
  have hPending : (fresh d).pending.isSome = false := rfl
  simp [performAll, perform, hView, hPending, h, hOpens]

theorem performAll_append (c : Connection δ) (first second : List (Call σ)) :
    c.performAll exec opens (first ++ second) =
      match c.performAll exec opens first with
      | .error e => .error e
      | .ok next => next.performAll exec opens second := by
  induction first generalizing c with
  | nil => rfl
  | cons call rest ih =>
    rw [List.cons_append, performAll, performAll]
    cases c.perform exec opens call with
    | error e => rfl
    | ok next => exact ih next

theorem performAll_append_of_ok {c next : Connection δ} {first : List (Call σ)}
    (h : c.performAll exec opens first = .ok next) (second : List (Call σ)) :
    c.performAll exec opens (first ++ second) = next.performAll exec opens second := by
  rw [performAll_append, h]

theorem exists_of_performAll_append {c last : Connection δ} {first second : List (Call σ)}
    (h : c.performAll exec opens (first ++ second) = .ok last) :
    ∃ next, c.performAll exec opens first = .ok next ∧
      next.performAll exec opens second = .ok last := by
  rw [performAll_append] at h
  cases hFirst : c.performAll exec opens first with
  | error e => rw [hFirst] at h; cases h
  | ok next => exact ⟨next, rfl, by rw [hFirst] at h; exact h⟩

theorem stoppedAfter_eq_ok {k : Nat} {d stopped : δ} {calls : List (Call σ)} :
    stoppedAfter exec opens k d calls = .ok stopped ↔
      ∃ c, (fresh d).performAll exec opens (calls.take k) = .ok c ∧ c.durable = stopped := by
  unfold stoppedAfter
  cases (fresh d).performAll exec opens (calls.take k) with
  | error e => simp
  | ok c => simp

theorem durable_of_pending {c last : Connection δ} {statements : List σ}
    (hPending : c.pending.isSome = true)
    (h : c.performAll exec opens (statements.map .execute) = .ok last) :
    last.durable = c.durable := by
  induction statements generalizing c with
  | nil => cases h; rfl
  | cons statement rest ih =>
    rw [List.map_cons, performAll, perform] at h
    cases hRun : exec c.view statement with
    | error e => rw [hRun] at h; cases h
    | ok d =>
      rw [hRun] at h
      simp only [hPending, Bool.true_or, if_true] at h
      have hLast : last.durable = (⟨c.durable, some d⟩ : Connection δ).durable := ih rfl h
      exact hLast

theorem durable_of_opens {d : δ} {last : Connection δ} {statement : σ} {rest : List σ}
    (hOpens : opens statement = true)
    (h : (fresh d).performAll exec opens ((statement :: rest).map .execute) = .ok last) :
    last.durable = d := by
  rw [List.map_cons, performAll, perform] at h
  cases hRun : exec (fresh d).view statement with
  | error e => rw [hRun] at h; cases h
  | ok next =>
    rw [hRun] at h
    simp only [hOpens, Bool.or_true, if_true] at h
    have hPending : (⟨(fresh d).durable, some next⟩ : Connection δ).pending.isSome = true := rfl
    exact durable_of_pending hPending h

/-! ## Simulation -/

section Simulation

variable {exec' : δ' → σ → Except ε' δ'} {f : δ → δ'}

theorem perform_simulates
    (hExec : ∀ d statement d', exec d statement = .ok d' → exec' (f d) statement = .ok (f d'))
    {c next : Connection δ} {call : Call σ} (h : c.perform exec opens call = .ok next) :
    (c.map f).perform exec' opens call = .ok (next.map f) := by
  cases call with
  | commit =>
    cases h
    rw [perform, view_map]
    rfl
  | script statement =>
    rw [perform] at h
    cases hRun : exec c.view statement with
    | error e => rw [hRun] at h; cases h
    | ok d =>
      rw [hRun] at h
      cases h
      rw [perform, view_map, hExec _ _ _ hRun]
      rfl
  | execute statement =>
    rw [perform] at h
    cases hRun : exec c.view statement with
    | error e => rw [hRun] at h; cases h
    | ok d =>
      rw [hRun] at h
      cases h
      rw [perform, view_map, hExec _ _ _ hRun]
      have hOpen : (c.map f).pending.isSome = c.pending.isSome := Option.isSome_map
      simp only [hOpen]
      split <;> rfl

theorem performAll_simulates
    (hExec : ∀ d statement d', exec d statement = .ok d' → exec' (f d) statement = .ok (f d'))
    {c last : Connection δ} {calls : List (Call σ)}
    (h : c.performAll exec opens calls = .ok last) :
    (c.map f).performAll exec' opens calls = .ok (last.map f) := by
  induction calls generalizing c with
  | nil => cases h; rfl
  | cons call rest ih =>
    rw [performAll] at h
    cases hCall : c.perform exec opens call with
    | error e => rw [hCall] at h; cases h
    | ok next =>
      rw [hCall] at h
      rw [performAll, perform_simulates hExec hCall]
      exact ih h

theorem stoppedAfter_simulates
    (hExec : ∀ d statement d', exec d statement = .ok d' → exec' (f d) statement = .ok (f d'))
    {k : Nat} {d stopped : δ} {calls : List (Call σ)}
    (h : stoppedAfter exec opens k d calls = .ok stopped) :
    stoppedAfter exec' opens k (f d) calls = .ok (f stopped) := by
  obtain ⟨c, hRun, rfl⟩ := stoppedAfter_eq_ok.mp h
  exact stoppedAfter_eq_ok.mpr ⟨c.map f, performAll_simulates hExec hRun, rfl⟩

end Simulation

end Connection

end EidolonAdmin.Foundation
