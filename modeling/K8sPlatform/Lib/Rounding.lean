import Mathlib.Algebra.Order.Floor.Ring
import Mathlib.Data.Int.Log
import Mathlib.Data.Rat.Floor
import Mathlib.Tactic.Linarith

/-! # Rounding to a number of binary digits -/

namespace Rounding

variable {K : Type*} [Field K] [LinearOrder K] [FloorRing K]

/-- The nearest integer; of two that are as near, the even one. -/
def nearestEven (x : K) : ℤ :=
  if 2 * (x - ⌊x⌋) < 1 then ⌊x⌋
  else if 1 < 2 * (x - ⌊x⌋) then ⌊x⌋ + 1
  else ⌊x⌋ + ⌊x⌋ % 2

theorem floor_le_nearestEven (x : K) : ⌊x⌋ ≤ nearestEven x := by
  unfold nearestEven
  split_ifs <;> omega

theorem nearestEven_le (x : K) : nearestEven x ≤ ⌊x⌋ + 1 := by
  unfold nearestEven
  split_ifs <;> omega

section

variable [IsStrictOrderedRing K]

theorem abs_nearestEven_sub_le (x : K) : |(nearestEven x : K) - x| ≤ 1 / 2 := by
  have lower := Int.floor_le x
  have upper := Int.lt_floor_add_one x
  unfold nearestEven
  split_ifs with less more
  · rw [abs_le]
    constructor <;> linarith
  · push_cast
    rw [abs_le]
    constructor <;> linarith
  · have half : x - ⌊x⌋ = 1 / 2 := by linarith
    rw [abs_le]
    rcases Int.emod_two_eq_zero_or_one ⌊x⌋ with even | odd
    · rw [even]
      push_cast
      constructor <;> linarith
    · rw [odd]
      push_cast
      constructor <;> linarith

@[simp] theorem nearestEven_intCast (n : ℤ) : nearestEven (n : K) = n := by
  simp [nearestEven]

theorem nearestEven_mono {x y : K} (le : x ≤ y) : nearestEven x ≤ nearestEven y := by
  rcases (Int.floor_le_floor le).lt_or_eq with less | same
  · calc nearestEven x ≤ ⌊x⌋ + 1 := nearestEven_le x
      _ ≤ ⌊y⌋ := less
      _ ≤ nearestEven y := floor_le_nearestEven y
  · -- Between two integers only the distance to the lower one counts.
    have part : x - ⌊x⌋ ≤ y - ⌊y⌋ := by
      rw [same]
      linarith
    unfold nearestEven
    rw [← same] at part ⊢
    split_ifs <;> first | omega | (exfalso; linarith)

end

/-! ## To a number of digits -/

/-- The distance of the numbers with a leading digit and `p` digits behind it, around `x`. -/
def spacing (p : ℕ) (x : K) : K := 2 ^ (Int.log 2 x - p)

/-- A number that is not negative, to a leading binary digit and `p` digits behind it. -/
def significant (p : ℕ) (x : K) : K :=
  if x = 0 then 0 else nearestEven (x / spacing p x) * spacing p x

variable {p : ℕ} {x y : K}

@[simp] theorem significant_zero (p : ℕ) : significant p (0 : K) = 0 := if_pos rfl

theorem pow_mul_spacing (p : ℕ) (x : K) : (2 : K) ^ p * spacing p x = 2 ^ Int.log 2 x := by
  rw [spacing, ← zpow_natCast, ← zpow_add₀ (by norm_num)]
  congr 1
  omega

variable [IsStrictOrderedRing K]

theorem spacing_pos (p : ℕ) (x : K) : 0 < spacing p x := zpow_pos two_pos _

theorem le_significant (pos : 0 < x) : 2 ^ Int.log 2 x ≤ significant p x := by
  have whole : (2 : K) ^ p ≤ x / spacing p x := by
    rw [le_div_iff₀ (spacing_pos p x), pow_mul_spacing]
    exact_mod_cast Int.zpow_log_le_self one_lt_two pos
  have rounded : (2 ^ p : ℤ) ≤ nearestEven (x / spacing p x) := by
    rw [← nearestEven_intCast (K := K) (2 ^ p)]
    exact nearestEven_mono (by push_cast; exact whole)
  have cast : (2 : K) ^ p ≤ nearestEven (x / spacing p x) := by exact_mod_cast rounded
  rw [significant, if_neg pos.ne', ← pow_mul_spacing p x]
  exact mul_le_mul_of_nonneg_right cast (spacing_pos p x).le

theorem significant_le (pos : 0 < x) : significant p x ≤ 2 ^ (Int.log 2 x + 1) := by
  have double : (2 : K) ^ (p + 1) * spacing p x = 2 ^ (Int.log 2 x + 1) := by
    rw [pow_succ, mul_right_comm, pow_mul_spacing, zpow_add_one₀ (by norm_num)]
  have whole : x / spacing p x ≤ (2 : K) ^ (p + 1) := by
    rw [div_le_iff₀ (spacing_pos p x), double]
    exact_mod_cast (Int.lt_zpow_succ_log_self one_lt_two x).le
  have rounded : nearestEven (x / spacing p x) ≤ (2 ^ (p + 1) : ℤ) := by
    rw [← nearestEven_intCast (K := K) (2 ^ (p + 1))]
    exact nearestEven_mono (by push_cast; exact whole)
  have cast : (nearestEven (x / spacing p x) : K) ≤ 2 ^ (p + 1) := by exact_mod_cast rounded
  rw [significant, if_neg pos.ne', ← double]
  exact mul_le_mul_of_nonneg_right cast (spacing_pos p x).le

theorem significant_pos (pos : 0 < x) : 0 < significant p x :=
  (zpow_pos two_pos _).trans_le (le_significant pos)

theorem significant_nonneg (nonneg : 0 ≤ x) : 0 ≤ significant p x := by
  rcases nonneg.eq_or_lt with rfl | pos
  · simp
  · exact (significant_pos pos).le

/-- Rounding moves a number by half a unit of its last digit at most. -/
theorem abs_significant_sub_le (pos : 0 < x) : |significant p x - x| ≤ x / 2 ^ (p + 1) := by
  have unit := spacing_pos p x
  have apart : significant p x - x = (nearestEven (x / spacing p x) - x / spacing p x) *
      spacing p x := by
    rw [significant, if_neg pos.ne', sub_mul, div_mul_cancel₀ _ unit.ne']
  have size : spacing p x ≤ x / 2 ^ p := by
    rw [le_div_iff₀ (by positivity), mul_comm, pow_mul_spacing]
    exact_mod_cast Int.zpow_log_le_self one_lt_two pos
  calc |significant p x - x|
      = |nearestEven (x / spacing p x) - x / spacing p x| * spacing p x := by
        rw [apart, abs_mul, abs_of_pos unit]
    _ ≤ 1 / 2 * (x / 2 ^ p) := mul_le_mul (abs_nearestEven_sub_le _) size unit.le (by norm_num)
    _ = x / 2 ^ (p + 1) := by
        rw [pow_succ]
        ring

/-- Numbers of one size are rounded in the same steps, and those of a smaller size stay below
those of a greater one. -/
theorem significant_mono (nonneg : 0 ≤ x) (le : x ≤ y) : significant p x ≤ significant p y := by
  rcases nonneg.eq_or_lt with rfl | pos
  · rw [significant_zero]
    exact significant_nonneg le
  have posY : 0 < y := pos.trans_le le
  rcases (Int.log_mono_right (b := 2) pos le).lt_or_eq with smaller | same
  · calc significant p x ≤ 2 ^ (Int.log 2 x + 1) := significant_le pos
      _ ≤ 2 ^ Int.log 2 y := zpow_le_zpow_right₀ one_le_two smaller
      _ ≤ significant p y := le_significant posY
  · have spacings : spacing p x = spacing p y := by rw [spacing, spacing, same]
    rw [significant, significant, if_neg pos.ne', if_neg posY.ne', spacings]
    have rounded := nearestEven_mono (div_le_div_of_nonneg_right le (spacing_pos p y).le)
    exact mul_le_mul_of_nonneg_right (by exact_mod_cast rounded) (spacing_pos p y).le

/-- A natural number that has the digits is not changed. -/
theorem significant_natCast {n : ℕ} (small : n < 2 ^ (p + 1)) : significant p (n : K) = n := by
  rcases Nat.eq_zero_or_pos n with rfl | pos
  · simp
  have size : Nat.log 2 n ≤ p := Nat.lt_succ_iff.1 (Nat.log_lt_of_lt_pow pos.ne' small)
  have whole : (n : K) / spacing p (n : K) = ((n * 2 ^ (p - Nat.log 2 n) : ℕ) : ℤ) := by
    rw [spacing, Int.log_natCast, div_eq_mul_inv, ← zpow_neg]
    push_cast
    rw [← zpow_natCast]
    congr 2
    omega
  have nonzero : (n : K) ≠ 0 := by exact_mod_cast pos.ne'
  rw [significant, if_neg nonzero, whole, nearestEven_intCast, ← whole,
    div_mul_cancel₀ _ (spacing_pos p _).ne']

end Rounding
