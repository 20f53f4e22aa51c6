import K8sPlatform.Lib.Rounding
import Mathlib.Tactic.FieldSimp
import Mathlib.Tactic.Positivity

/-! # Numbers of the double format -/

namespace Double

/-- A finite number, an infinity with its sign, or no number. The sign of zero is left out. -/
inductive Number
  | nan
  | inf (negative : Bool)
  | fin (q : ℚ)
  deriving DecidableEq

/-- A number that is not negative, to the digits that the format has at its size. -/
def roundAbs (x : ℚ) : ℚ :=
  if x < 2 ^ (-1022 : ℤ) then Rounding.nearestEven (x * 2 ^ 1074) / 2 ^ 1074
  else Rounding.significant 52 x

def ofRat (x : ℚ) : Number :=
  if 2 ^ 1024 ≤ roundAbs |x| then .inf (x < 0)
  else .fin (if x < 0 then -roundAbs |x| else roundAbs |x|)

namespace Number

def mul : Number → Number → Number
  | .fin a, .fin b => ofRat (a * b)
  | .inf neg, .fin b => if b = 0 then .nan else .inf (neg != decide (b < 0))
  | .fin a, .inf neg => if a = 0 then .nan else .inf (neg != decide (a < 0))
  | .inf neg, .inf neg' => .inf (neg != neg')
  | _, _ => .nan

/-- No quotient by zero is asked for. -/
def div : Number → Number → Number
  | .fin a, .fin b => if b = 0 then .nan else ofRat (a / b)
  | .inf neg, .fin b => .inf (neg != decide (b < 0))
  | .fin _, .inf _ => .fin 0
  | _, _ => .nan

/-- `Math.round`: the nearest integer, the greater one of two. -/
def round : Number → Number
  | .fin q => .fin ⌊q + 1 / 2⌋
  | x => x

/-- `Math.min` with a bound that is a finite number. -/
def min (bound : ℚ) : Number → Number
  | .nan => .nan
  | .inf true => .inf true
  | .inf false => .fin bound
  | .fin q => .fin (Min.min bound q)

end Number

/-! ## Relative errors -/

/-- Half a unit of the last digit. -/
def ulp : ℚ := 1 / 2 ^ 53

/-- A factor that `n` roundings can come to. -/
def Near (n : ℕ) (s : ℚ) : Prop := |s - 1| ≤ n * ulp

theorem ulp_pos : 0 < ulp := by norm_num [ulp]

theorem near_one (n : ℕ) : Near n 1 := by
  have nonneg : 0 ≤ n * ulp := mul_nonneg (Nat.cast_nonneg n) ulp_pos.le
  simpa [Near] using nonneg

theorem Near.mono {m n : ℕ} {s : ℚ} (h : Near m s) (le : m ≤ n) : Near n s :=
  h.trans (mul_le_mul_of_nonneg_right (by exact_mod_cast le) ulp_pos.le)

/-- A few roundings leave more than a half. -/
theorem Near.pos {n : ℕ} {s : ℚ} (h : Near n s) (few : n ≤ 100) : 1 / 2 < s := by
  have bound := abs_le.1 (h.mono few)
  have small : ((100 : ℕ) : ℚ) * ulp < 1 / 2 := by norm_num [ulp]
  push_cast at bound small
  linarith [bound.1]

theorem Near.lt_two {n : ℕ} {s : ℚ} (h : Near n s) (few : n ≤ 100) : s < 2 := by
  have bound := abs_le.1 (h.mono few)
  have small : ((100 : ℕ) : ℚ) * ulp < 1 / 2 := by norm_num [ulp]
  push_cast at bound small
  linarith [bound.2]

theorem small_product {m n : ℕ} (few : m ≤ 100) (few' : n ≤ 100) :
    (m * ulp) * (n * ulp) ≤ ulp := by
  have first : (m : ℚ) * ulp ≤ 100 * ulp :=
    mul_le_mul_of_nonneg_right (by exact_mod_cast few) ulp_pos.le
  have second : (n : ℚ) * ulp ≤ 100 * ulp :=
    mul_le_mul_of_nonneg_right (by exact_mod_cast few') ulp_pos.le
  calc (m * ulp) * (n * ulp) ≤ (100 * ulp) * (100 * ulp) :=
        mul_le_mul first second (by positivity [ulp_pos]) (by norm_num [ulp])
    _ ≤ ulp := by norm_num [ulp]

theorem Near.mul {m n : ℕ} {s t : ℚ} (hs : Near m s) (ht : Near n t) (few : m ≤ 100)
    (few' : n ≤ 100) : Near (m + n + 1) (s * t) := by
  have parts : s * t - 1 = (s - 1) * (t - 1) + (s - 1) + (t - 1) := by ring
  have product : |(s - 1) * (t - 1)| ≤ ulp := by
    rw [abs_mul]
    exact (mul_le_mul hs ht (abs_nonneg _) ((abs_nonneg _).trans hs)).trans
      (small_product few few')
  have triangle := abs_add_le ((s - 1) * (t - 1) + (s - 1)) (t - 1)
  have triangle' := abs_add_le ((s - 1) * (t - 1)) (s - 1)
  unfold Near at *
  rw [parts]
  push_cast
  linarith

theorem Near.inv {n : ℕ} {s : ℚ} (h : Near n s) (few : n ≤ 50) : Near (2 * n) s⁻¹ := by
  have pos := h.pos (few.trans (by decide))
  have apart : s⁻¹ - 1 = (1 - s) * s⁻¹ := by
    field_simp
  have inverse : |s⁻¹| ≤ 2 := by
    rw [abs_inv, abs_of_pos (by linarith)]
    exact (inv_le_comm₀ (by linarith) (by norm_num)).2 (by linarith)
  unfold Near at *
  rw [apart, abs_mul, abs_sub_comm]
  push_cast
  calc |s - 1| * |s⁻¹| ≤ (n * ulp) * 2 :=
        mul_le_mul h inverse (abs_nonneg _) ((abs_nonneg _).trans h)
    _ = 2 * n * ulp := by ring

@[simp] theorem ofRat_zero : ofRat 0 = .fin 0 := by
  have none_ : Rounding.nearestEven (0 : ℚ) = 0 := by
    exact_mod_cast Rounding.nearestEven_intCast (K := ℚ) 0
  have zero : roundAbs |0| = 0 := by
    rw [abs_zero, roundAbs, if_pos (zpow_pos two_pos _), zero_mul, none_, Int.cast_zero, zero_div]
  rw [ofRat, zero, if_neg (not_le.2 (by positivity)), if_neg (lt_irrefl 0)]

/-! ## Sizes -/

/-- The smallest number that has all its digits. -/
def minNormal : ℚ := 2 ^ (-1022 : ℤ)

/-- The greatest number of the format. -/
def maxFinite : ℚ := 2 ^ 1024 - 2 ^ 971

theorem minNormal_pos : 0 < minNormal := zpow_pos two_pos _

theorem minNormal_lt : minNormal < 1 / 1000000 := by decide +kernel

theorem one_lt_maxFinite : 1 < maxFinite := by decide +kernel

theorem minNormal_scaled : minNormal * 2 ^ 1074 = 2 ^ 52 := by decide +kernel

theorem significant_maxFinite : Rounding.significant 52 maxFinite = maxFinite := by
  unfold maxFinite
  decide +kernel

/-- A thousandth of the greatest number is rounded down. -/
theorem significant_thousandth : Rounding.significant 52 (maxFinite / 1000) ≤ maxFinite / 1000 := by
  unfold maxFinite
  decide +kernel

theorem roundAbs_normal {x : ℚ} (normal : minNormal ≤ x) :
    roundAbs x = Rounding.significant 52 x := if_neg (not_lt.2 normal)

theorem roundAbs_le {x : ℚ} (normal : minNormal ≤ x) (finite : x ≤ maxFinite) :
    roundAbs x ≤ maxFinite := by
  rw [roundAbs_normal normal, ← significant_maxFinite]
  exact Rounding.significant_mono (minNormal_pos.le.trans normal) finite

/-- What a thousand times is finite, is so after it was rounded. -/
theorem thousand_roundAbs_le {x : ℚ} (normal : minNormal ≤ x) (finite : 1000 * x ≤ maxFinite) :
    1000 * roundAbs x ≤ maxFinite := by
  have below : x ≤ maxFinite / 1000 := by linarith
  have rounded := Rounding.significant_mono (p := 52) (minNormal_pos.le.trans normal) below
  rw [roundAbs_normal normal]
  linarith [rounded.trans significant_thousandth]

theorem maxFinite_lt : maxFinite < 2 ^ 1024 := by
  rw [maxFinite, sub_lt_self_iff]
  positivity

/-- A number that is not too small is rounded by a factor. -/
theorem exists_roundAbs {x : ℚ} (normal : minNormal ≤ |x|) :
    ∃ s, Near 1 s ∧ roundAbs |x| = |x * s| ∧
      (roundAbs |x| < 2 ^ 1024 → ofRat x = .fin (x * s)) := by
  have pos : 0 < |x| := minNormal_pos.trans_le normal
  have error := Rounding.abs_significant_sub_le (p := 52) pos
  rw [← roundAbs_normal normal] at error
  have factor : Near 1 (roundAbs |x| / |x|) := by
    have apart : roundAbs |x| / |x| - 1 = (roundAbs |x| - |x|) / |x| := by
      field_simp
    rw [Near, apart, abs_div, abs_abs, div_le_iff₀ pos, ulp]
    push_cast
    linarith
  have nonneg : 0 ≤ roundAbs |x| := by
    rw [roundAbs_normal normal]
    exact Rounding.significant_nonneg pos.le
  refine ⟨roundAbs |x| / |x|, factor, ?_, fun finite => ?_⟩
  · rw [abs_mul, abs_div, abs_abs, abs_of_nonneg nonneg, mul_div_cancel₀ _ pos.ne']
  · rw [ofRat, if_neg (not_le.2 finite)]
    apply congrArg Number.fin
    have nonzero : x ≠ 0 := abs_pos.1 pos
    generalize roundAbs |x| = m
    split_ifs with negative
    · rw [abs_of_neg negative]
      field_simp
    · rw [abs_of_nonneg (not_lt.1 negative)]
      field_simp

/-- Neither too small nor too great. -/
theorem exists_ofRat {x : ℚ} (normal : minNormal ≤ |x|) (finite : |x| ≤ maxFinite) :
    ∃ s, Near 1 s ∧ ofRat x = .fin (x * s) ∧ |x * s| = roundAbs |x| := by
  obtain ⟨s, near, size, rounded⟩ := exists_roundAbs normal
  exact ⟨s, near, rounded ((roundAbs_le normal finite).trans_lt maxFinite_lt), size.symm⟩

/-- A number that is not too small overflows, or not. -/
theorem ofRat_normal {x : ℚ} (normal : minNormal ≤ |x|) :
    (∃ s, Near 1 s ∧ ofRat x = .fin (x * s)) ∨ ofRat x = .inf (x < 0) ∧ 2 ^ 1023 ≤ |x| := by
  obtain ⟨s, near, size, rounded⟩ := exists_roundAbs normal
  by_cases finite : roundAbs |x| < 2 ^ 1024
  · exact .inl ⟨s, near, rounded finite⟩
  · refine .inr ⟨if_pos (not_lt.1 finite), ?_⟩
    have pos := near.pos (by decide)
    have double : |x * s| ≤ |x| * 2 := by
      rw [abs_mul, abs_of_pos (a := s) (by linarith)]
      exact mul_le_mul_of_nonneg_left (near.lt_two (by decide)).le (abs_nonneg x)
    have great : 2 ^ 1023 * 2 ≤ |x| * 2 := by
      rw [← pow_succ]
      exact (not_lt.1 finite).trans (size.trans_le double)
    exact le_of_mul_le_mul_right great two_pos

/-- A number that loses digits is rounded to one that is no more than the smallest with all. -/
theorem ofRat_tiny {x : ℚ} (tiny : |x| < minNormal) : ∃ v, ofRat x = .fin v ∧ |v| ≤ minNormal := by
  have scaled : |x| * 2 ^ 1074 ≤ ((2 ^ 52 : ℤ) : ℚ) := by
    have power : ((2 ^ 52 : ℤ) : ℚ) = 2 ^ 52 := by norm_num
    rw [power, ← minNormal_scaled]
    exact mul_le_mul_of_nonneg_right tiny.le (by positivity)
  have upper := Rounding.nearestEven_mono scaled
  have lower := Rounding.nearestEven_mono (x := ((0 : ℤ) : ℚ)) (y := |x| * 2 ^ 1074)
    (by push_cast; positivity)
  rw [Rounding.nearestEven_intCast] at upper lower
  have upper' : (Rounding.nearestEven (|x| * 2 ^ 1074) : ℚ) ≤ 2 ^ 52 := by exact_mod_cast upper
  have lower' : (0 : ℚ) ≤ Rounding.nearestEven (|x| * 2 ^ 1074) := by exact_mod_cast lower
  have digits : roundAbs |x| = Rounding.nearestEven (|x| * 2 ^ 1074) / 2 ^ 1074 := if_pos tiny
  have nonneg : 0 ≤ roundAbs |x| := by
    rw [digits]
    positivity
  have small : roundAbs |x| ≤ minNormal := by
    rw [digits]
    rwa [div_le_iff₀ (by positivity), minNormal_scaled]
  have one : roundAbs |x| < 1 := by linarith [minNormal_lt]
  have finite := one.trans (one_lt_maxFinite.trans maxFinite_lt)
  refine ⟨_, if_neg (not_le.2 finite), ?_⟩
  split_ifs
  · rwa [abs_neg, abs_of_nonneg nonneg]
  · rwa [abs_of_nonneg nonneg]

/-- A small number stays small. -/
theorem ofRat_small {x : ℚ} (small : |x| ≤ 1 / 8) : ∃ v, ofRat x = .fin v ∧ |v| < 1 / 2 := by
  by_cases tiny : |x| < minNormal
  · obtain ⟨v, rounded, le⟩ := ofRat_tiny tiny
    exact ⟨v, rounded, by linarith [minNormal_lt]⟩
  · have finite : |x| ≤ maxFinite := by linarith [one_lt_maxFinite]
    obtain ⟨s, near, rounded, -⟩ := exists_ofRat (not_lt.1 tiny) finite
    refine ⟨x * s, rounded, ?_⟩
    have low := near.pos (by decide)
    have high := near.lt_two (by decide)
    rw [abs_mul, abs_of_pos (a := s) (by linarith)]
    nlinarith [abs_nonneg x]

end Double
