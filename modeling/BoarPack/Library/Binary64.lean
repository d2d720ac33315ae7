import Mathlib.Data.Int.Log
import Mathlib.Data.Rat.Floor
import Mathlib.Tactic.Linarith
import Mathlib.Tactic.NormNum

/-! The rounding of binary64 arithmetic, as a function on the rationals: to 53 significant bits, ties to even, with
gradual underflow and without the bound from which a result is infinite. -/
namespace Binary64

/-- The nearest whole number, of two the even one. -/
def roundEven (x : Rat) : Int :=
  if x - x.floor < 1 / 2 ∨ (x - x.floor = 1 / 2 ∧ x.floor % 2 = 0) then x.floor else x.floor + 1

/-- The exponent of the last bit that is kept. -/
def exponent (x : Rat) : Int := max (Int.log 2 x - 52) (-1074)

def magnitude (x : Rat) : Rat := roundEven (x / 2 ^ exponent x) * 2 ^ exponent x

/-- What an operation returns whose exact result is `x`. -/
def double (x : Rat) : Rat := if 0 ≤ x then magnitude x else -magnitude (-x)

example : double (3 / 10) = 5404319552844595 / 18014398509481984 := by decide +kernel

theorem floor_le_roundEven (x : Rat) : x.floor ≤ roundEven x := by
  unfold roundEven
  split <;> omega

theorem roundEven_le_succ (x : Rat) : roundEven x ≤ x.floor + 1 := by
  unfold roundEven
  split <;> omega

theorem roundEven_mono {x y : Rat} (le : x ≤ y) : roundEven x ≤ roundEven y := by
  rcases lt_or_eq_of_le (Rat.floor_monotone le) with less | same
  · have first := roundEven_le_succ x
    have second := floor_le_roundEven y
    omega
  · unfold roundEven
    rw [same]
    -- What is rounded down is rounded down as well when it is less.
    split
    next => split <;> omega
    next up =>
      rw [if_neg]
      rintro (below | ⟨half,even⟩)
      · exact up (Or.inl (by linarith))
      · rcases lt_or_eq_of_le le with smaller | equal
        · exact up (Or.inl (by linarith))
        · exact up (Or.inr ⟨equal ▸ half,even⟩)

@[simp] theorem roundEven_int (n : Int) : roundEven n = n := by
  simp [roundEven]

theorem unit_pos (x : Rat) : (0 : Rat) < 2 ^ exponent x := zpow_pos (by norm_num) _

theorem magnitude_nonneg {x : Rat} (positive : 0 ≤ x) : 0 ≤ magnitude x := by
  have least : 0 ≤ roundEven (x / 2 ^ exponent x) := by
    rw [← roundEven_int 0]
    exact roundEven_mono (by simpa using div_nonneg positive (unit_pos x).le)
  exact mul_nonneg (by exact_mod_cast least) (unit_pos x).le

/-- A power of two that is a multiple of the last bit bounds what it bounds before the rounding. -/
theorem magnitude_le_zpow {x : Rat} {e : Int} (kept : exponent x ≤ e) (le : x ≤ 2 ^ e) : magnitude x ≤ 2 ^ e := by
  obtain ⟨k,rfl⟩ := Int.le.dest kept
  have split : (2 : Rat) ^ (exponent x + k) = ((2 ^ k : Int) : Rat) * 2 ^ exponent x := by
    rw [zpow_add₀ (by norm_num),zpow_natCast]
    push_cast
    ring
  have bound : roundEven (x / 2 ^ exponent x) ≤ 2 ^ k := by
    rw [← roundEven_int (2 ^ k)]
    apply roundEven_mono
    rw [div_le_iff₀ (unit_pos x),← split]
    exact le
  rw [magnitude,split]
  exact mul_le_mul_of_nonneg_right (by exact_mod_cast bound) (unit_pos x).le

theorem zpow_le_magnitude {x : Rat} {e : Int} (kept : exponent x ≤ e) (le : 2 ^ e ≤ x) : 2 ^ e ≤ magnitude x := by
  obtain ⟨k,rfl⟩ := Int.le.dest kept
  have split : (2 : Rat) ^ (exponent x + k) = ((2 ^ k : Int) : Rat) * 2 ^ exponent x := by
    rw [zpow_add₀ (by norm_num),zpow_natCast]
    push_cast
    ring
  have bound : 2 ^ k ≤ roundEven (x / 2 ^ exponent x) := by
    rw [← roundEven_int (2 ^ k)]
    apply roundEven_mono
    rw [le_div_iff₀ (unit_pos x),← split]
    exact le
  rw [magnitude,split]
  exact mul_le_mul_of_nonneg_right (by exact_mod_cast bound) (unit_pos x).le

theorem magnitude_mono {x y : Rat} (positive : 0 < x) (le : x ≤ y) : magnitude x ≤ magnitude y := by
  have logs : Int.log 2 x ≤ Int.log 2 y := Int.log_mono_right positive le
  by_cases same : exponent x = exponent y
  · unfold magnitude
    rw [same]
    have rounded := roundEven_mono (div_le_div_of_nonneg_right le (unit_pos y).le)
    exact mul_le_mul_of_nonneg_right (by exact_mod_cast rounded) (unit_pos y).le
  -- A power of two lies between them.
  · have normal : exponent y = Int.log 2 y - 52 ∧ Int.log 2 x < Int.log 2 y ∧ exponent x ≤ Int.log 2 y := by
      unfold exponent at same ⊢
      omega
    calc magnitude x
      _ ≤ 2 ^ Int.log 2 y := by
          refine magnitude_le_zpow normal.2.2 (le_of_lt ?_)
          exact (Int.lt_zpow_iff_log_lt (by norm_num) positive).mpr normal.2.1
      _ ≤ magnitude y :=
          zpow_le_magnitude (by omega) (Int.zpow_log_le_self (by norm_num) (lt_of_lt_of_le positive le))

@[simp] theorem double_zero : double 0 = 0 := by decide +kernel

theorem double_neg (x : Rat) : double (-x) = -double x := by
  unfold double
  rcases lt_trichotomy x 0 with negative | rfl | positive
  · rw [if_pos (by linarith),if_neg (by linarith),neg_neg]
  · decide +kernel
  · rw [if_neg (by linarith),if_pos positive.le,neg_neg]

theorem double_nonneg {x : Rat} (positive : 0 ≤ x) : 0 ≤ double x := by
  rw [double,if_pos positive]
  exact magnitude_nonneg positive

theorem double_mono {x y : Rat} (le : x ≤ y) : double x ≤ double y := by
  rcases lt_trichotomy x 0 with negative | rfl | positive
  · have below : double x = -magnitude (-x) := if_neg (by linarith)
    rcases lt_or_ge y 0 with last | last
    · have above : double y = -magnitude (-y) := if_neg (by linarith)
      rw [below,above]
      exact neg_le_neg (magnitude_mono (by linarith) (by linarith))
    · have first := magnitude_nonneg (x := -x) (by linarith)
      have second := double_nonneg last
      linarith
  · rw [double_zero]
    exact double_nonneg le
  · rw [double,double,if_pos positive.le,if_pos (positive.le.trans le)]
    exact magnitude_mono positive le

theorem magnitude_nat (n : Nat) (bound : n < 2 ^ 53) : magnitude n = n := by
  rcases Nat.eq_zero_or_pos n with rfl | positive
  · decide +kernel
  have small : Int.log 2 (n : Rat) < 53 := by
    rw [← Int.lt_zpow_iff_log_lt (by norm_num) (by exact_mod_cast positive)]
    exact_mod_cast bound
  have kept : exponent n ≤ 0 := by
    unfold exponent
    omega
  obtain ⟨k,above⟩ := Int.le.dest kept
  have scaled : (n : Rat) / 2 ^ exponent n = ((n * 2 ^ k : Int) : Rat) := by
    have inverse : exponent (n : Rat) = -k := by omega
    rw [inverse,zpow_neg,div_inv_eq_mul,zpow_natCast]
    push_cast
    rfl
  rw [magnitude,scaled,roundEven_int,← scaled]
  exact div_mul_cancel₀ _ (unit_pos n).ne'

/-- Whole numbers below `2 ^ 53` are kept. -/
theorem double_int (n : Int) (bound : n.natAbs < 2 ^ 53) : double n = n := by
  rcases Int.natAbs_eq n with same | same
  · rw [same]
    simpa [double] using magnitude_nat n.natAbs bound
  · rw [same]
    push_cast
    rw [double_neg]
    congr 1
    simpa [double] using magnitude_nat n.natAbs bound

end Binary64
