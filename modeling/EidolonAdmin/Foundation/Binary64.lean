import Mathlib.Data.Nat.Log
import Mathlib.Tactic.Ring

/-! # Whole numbers as doubles

What a natural number becomes as an IEEE 754 binary64 number: the nearest one with 53
significant bits, and of two equally near ones the even one. Up to `2 ^ 53` that is the number
itself.
-/

namespace EidolonAdmin.Foundation.Binary64

/-- `n / d` to the nearest whole number, ties to even. -/
def halfEven (n d : Nat) : Nat :=
  let q := n / d
  if 2 * (n % d) < d then q
  else if 2 * (n % d) = d then q + q % 2
  else q + 1

def unit (n : Nat) : Nat := 2 ^ (Nat.log 2 n - 52)

def round (n : Nat) : Nat := halfEven n (unit n) * unit n

def overflow : Nat := 2 ^ 1024

/-- `float(n)`, absent where `n` is too large. -/
def ofNat (n : Nat) : Option Nat := if round n < overflow then some (round n) else none

/-- `round(a - b)` of two whole doubles. -/
def difference (a b : Nat) : Int := if b ≤ a then (round (a - b) : Int) else -(round (b - a) : Int)

def Exact (n : Nat) : Prop := round n = n

instance (n : Nat) : Decidable (Exact n) := inferInstanceAs (Decidable (round n = n))

/-- A whole number with 53 significant bits. -/
def Representable (n : Nat) : Prop := ∃ c e, c ≤ 2 ^ 53 ∧ n = c * 2 ^ e

theorem lt_unit (n : Nat) : n < 2 ^ 53 * unit n := by
  have hLog : n < 2 ^ (Nat.log 2 n + 1) := Nat.lt_pow_succ_log_self (by decide) n
  refine hLog.trans_le ?_
  rw [unit, ← Nat.pow_add]
  exact Nat.pow_le_pow_right (by decide) (by omega)

theorem representable_round (n : Nat) : Representable (round n) := by
  have hPos : 0 < unit n := Nat.pow_pos (by decide)
  have hQuotient : n / unit n < 2 ^ 53 := (Nat.div_lt_iff_lt_mul hPos).mpr (lt_unit n)
  refine ⟨halfEven n (unit n), Nat.log 2 n - 52, ?_, rfl⟩
  unfold halfEven
  dsimp only
  split_ifs <;> omega

theorem representable_zero : Representable 0 := ⟨0, 0, by decide, rfl⟩

theorem exact_of_lt {n : Nat} (h : n < 2 ^ 53) : Exact n := by
  have hLog : Nat.log 2 n - 52 = 0 := by
    rcases Nat.eq_zero_or_pos n with rfl | hPos
    · rfl
    · have := Nat.log_lt_of_lt_pow (Nat.pos_iff_ne_zero.mp hPos) h
      omega
  simp [Exact, round, unit, hLog, halfEven, Nat.mod_one]

theorem exact_of_le {n : Nat} (h : n ≤ 2 ^ 53) : Exact n := by
  rcases Nat.lt_or_eq_of_le h with hLt | rfl
  · exact exact_of_lt hLt
  · rw [Exact, round, unit, Nat.log_pow (by decide)]
    decide

theorem lt_overflow : 2 ^ 53 < overflow := by
  rw [overflow, Nat.pow_lt_pow_iff_right (by decide)]
  decide

theorem ofNat_of_round_le {n : Nat} (h : round n ≤ 2 ^ 53) : ofNat n = some (round n) :=
  if_pos (Nat.lt_of_le_of_lt h lt_overflow)

theorem ofNat_of_le {n : Nat} (h : n ≤ 2 ^ 53) : ofNat n = some n := by
  have hExact : round n = n := exact_of_le h
  rw [ofNat_of_round_le (hExact.symm ▸ h), hExact]

theorem ofNat_eq_some {n m : Nat} (h : ofNat n = some m) : m = round n := by
  unfold ofNat at h
  split at h
  · exact (Option.some.inj h).symm
  · cases h

theorem representable_ofNat {n m : Nat} (h : ofNat n = some m) : Representable m := by
  rw [ofNat_eq_some h]
  exact representable_round n

/-- What a step from one whole double to another adds, as a running maximum counts it. -/
def advance (a b : Nat) : Nat := if b ≤ a then round (a - b) else 0

theorem max_difference (a b : Nat) : max 0 (difference a b) = advance a b := by
  unfold difference advance
  split_ifs <;> omega

/-- Where the difference is a double, the step adds what the maximum grows by. -/
theorem advance_add {a b : Nat} (h : b ≤ a → Exact (a - b)) : b + advance a b = max b a := by
  unfold advance
  split
  · rename_i hLe
    rw [h hLe]
    omega
  · omega

end EidolonAdmin.Foundation.Binary64
