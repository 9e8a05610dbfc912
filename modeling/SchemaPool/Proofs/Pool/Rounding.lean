import Mathlib.Algebra.Order.Field.Power
import Mathlib.Algebra.Order.Field.Rat
import Mathlib.Data.Rat.Cast.Order
import Mathlib.Tactic.FieldSimp
import Mathlib.Tactic.GCongr
import Mathlib.Tactic.Linarith
import Mathlib.Tactic.NormNum
import Mathlib.Tactic.Positivity
import Mathlib.Tactic.Ring
import SchemaPool.Pool.Binary64

/-! # What rounding to double precision decides

A quotient is rounded to 53 binary digits: its unit is the power of two for which it has 53 digits
before the point (`exponentFor_spec`), and the number of units is rounded to a whole number with
halves going to the even neighbour (`lt_roundDiv_iff`).  So a rounded quotient is greater than a
given number just if the exact one is beyond the middle between that number and the next, or is the
middle itself when that number is odd (`exceeds_ofRatio_iff`, `exceeds_div_iff`).  Whole numbers up
to 53 digits are not changed by rounding (`value_ofNat`). -/

namespace SchemaPool.Binary64

/-! ## Rounding to a whole number -/

/-- A quotient is rounded to more than `c` just if it is more than half a unit above `c`, or
exactly that and `c` is odd. -/
theorem lt_roundDiv_iff {num den c : Nat} (positive : 0 < den) :
    c < roundDiv num den ↔
      (2 * c + 1) * den < 2 * num ∨ (2 * c + 1) * den = 2 * num ∧ c % 2 = 1 := by
  have whole := Nat.div_add_mod num den
  have part := Nat.mod_lt num positive
  rw [roundDiv]
  generalize num / den = q at *
  generalize num % den = r at *
  subst whole
  rcases Nat.lt_trichotomy c q with below | here | above
  · have apart := Nat.mul_le_mul_left den below
    have place : (2 * c + 1) * den + den ≤ 2 * (den * q) := by linarith
    split
    · omega
    · split <;> omega
  · have place : (2 * c + 1) * den = 2 * (den * q) + den := by rw [here]; ring
    split
    · omega
    · split <;> omega
  · have apart := Nat.mul_le_mul_left den above
    have place : 2 * (den * q) + 3 * den ≤ (2 * c + 1) * den := by linarith
    split
    · omega
    · split <;> omega

theorem div_le_roundDiv (num den : Nat) : num / den ≤ roundDiv num den := by
  rw [roundDiv]
  split
  · omega
  · split <;> omega

theorem roundDiv_le (num den : Nat) : roundDiv num den ≤ num / den + 1 := by
  rw [roundDiv]
  split
  · omega
  · split <;> omega

theorem roundDiv_one (n : Nat) : roundDiv n 1 = n := by
  rw [roundDiv]
  split <;> omega

/-! ## Scaling -/

variable {num den : Nat}

/-- What is rounded when the unit is `2 ^ e`. -/
theorem scaled_eq (num den : Nat) (e : ℤ) :
    ((num * twoTo (-e).toNat : ℕ) : ℚ) / (den * twoTo e.toNat : ℕ) = num / den / 2 ^ e := by
  have power (n : ℕ) : ((twoTo n : ℕ) : ℚ) = 2 ^ n := by simp [twoTo]
  have unit : (2 : ℚ) ^ (-e).toNat / 2 ^ e.toNat = (2 ^ e)⁻¹ := by
    rw [← zpow_natCast, ← zpow_natCast, ← zpow_sub₀ two_ne_zero, ← zpow_neg]
    congr 1
    omega
  push_cast
  rw [power, power, mul_div_mul_comm, unit, div_eq_mul_inv _ ((2 : ℚ) ^ e)]

theorem scaled_pos (bottom : 0 < den) (e : ℤ) : 0 < den * twoTo e.toNat :=
  Nat.mul_pos bottom (Nat.pow_pos Nat.zero_lt_two)

/-- The unit is such that there are 53 binary digits before the point. -/
theorem exponentFor_spec (top : 0 < num) (bottom : 0 < den) :
    2 ^ 52 ≤ (num / den / 2 ^ exponentFor num den : ℚ) ∧
      (num / den / 2 ^ exponentFor num den : ℚ) < 2 ^ 53 := by
  let guess : ℤ := (num.log2 : ℤ) - den.log2 - 52
  have positive : (0 : ℚ) < den := by exact_mod_cast bottom
  have unit : (0 : ℚ) < 2 ^ guess := by positivity
  have numLow : (2 : ℚ) ^ (num.log2 : ℤ) ≤ num := by
    exact_mod_cast Nat.log2_self_le top.ne'
  have numHigh : (num : ℚ) < 2 ^ ((num.log2 : ℤ) + 1) := by
    exact_mod_cast Nat.lt_log2_self
  have denLow : (2 : ℚ) ^ (den.log2 : ℤ) ≤ den := by
    exact_mod_cast Nat.log2_self_le bottom.ne'
  have denHigh : (den : ℚ) ≤ 2 ^ ((den.log2 : ℤ) + 1) := by
    exact_mod_cast Nat.lt_log2_self.le
  -- The lengths of the two numbers leave the unit open between the guess and the one below it.
  have lower : (2 : ℚ) ^ 51 ≤ num / den / 2 ^ guess := by
    rw [le_div_iff₀ unit, le_div_iff₀ positive]
    calc (2 : ℚ) ^ 51 * 2 ^ guess * den ≤ 2 ^ 51 * 2 ^ guess * 2 ^ ((den.log2 : ℤ) + 1) := by
          gcongr
      _ = 2 ^ (num.log2 : ℤ) := by
          rw [← zpow_natCast 2 51, ← zpow_add₀ two_ne_zero, ← zpow_add₀ two_ne_zero]
          congr 1
          simp only [guess]
          push_cast
          ring
      _ ≤ num := numLow
  have upper : (num / den / 2 ^ guess : ℚ) < 2 ^ 53 := by
    rw [div_lt_iff₀ unit, div_lt_iff₀ positive]
    calc (num : ℚ) < 2 ^ ((num.log2 : ℤ) + 1) := numHigh
      _ = 2 ^ 53 * 2 ^ guess * 2 ^ (den.log2 : ℤ) := by
          rw [← zpow_natCast 2 53, ← zpow_add₀ two_ne_zero, ← zpow_add₀ two_ne_zero]
          congr 1
          simp only [guess]
          push_cast
          ring
      _ ≤ 2 ^ 53 * 2 ^ guess * den := by gcongr
  have test : num * twoTo (-guess).toNat < twoTo 52 * (den * twoTo guess.toNat) ↔
      (num / den / 2 ^ guess : ℚ) < 2 ^ 52 := by
    have divisor : (0 : ℚ) < (den * twoTo guess.toNat : ℕ) := by
      exact_mod_cast scaled_pos bottom guess
    rw [← scaled_eq, div_lt_iff₀ divisor]
    exact_mod_cast Iff.rfl
  have chosen : exponentFor num den =
      if (num / den / 2 ^ guess : ℚ) < 2 ^ 52 then guess - 1 else guess := if_congr test rfl rfl
  rw [chosen]
  split
  · next small =>
    have double : (num / den / 2 ^ (guess - 1) : ℚ) = 2 * (num / den / 2 ^ guess) := by
      rw [zpow_sub_one₀ two_ne_zero]
      field_simp
    rw [double]
    constructor <;> linarith
  · next large => exact ⟨not_lt.1 large, upper⟩

/-! ## Rounding a quotient -/

/-- The number of units that a quotient is rounded to. -/
def units (num den : Nat) : Nat :=
  roundDiv (num * twoTo (-exponentFor num den).toNat) (den * twoTo (exponentFor num den).toNat)

theorem units_bounds (top : 0 < num) (bottom : 0 < den) :
    2 ^ 52 ≤ units num den ∧ units num den ≤ 2 ^ 53 := by
  obtain ⟨lower, upper⟩ := exponentFor_spec top bottom
  have divisor := scaled_pos bottom (exponentFor num den)
  rw [← scaled_eq] at lower upper
  rw [units]
  generalize num * twoTo _ = n at lower upper ⊢
  generalize den * twoTo _ = d at divisor lower upper ⊢
  have positive : (0 : ℚ) < d := by exact_mod_cast divisor
  rw [le_div_iff₀ positive] at lower
  rw [div_lt_iff₀ positive] at upper
  have low : 2 ^ 52 ≤ n / d := (Nat.le_div_iff_mul_le divisor).2 (by exact_mod_cast lower)
  have high : n / d < 2 ^ 53 := (Nat.div_lt_iff_lt_mul divisor).2 (by exact_mod_cast upper)
  exact ⟨low.trans (div_le_roundDiv n d), (roundDiv_le n d).trans high⟩

/-- Halves of the unit decide. -/
theorem lt_units_iff (bottom : 0 < den) (c : Nat) :
    c < units num den ↔ ((c : ℚ) + 1 / 2) * 2 ^ exponentFor num den < num / den ∨
      ((c : ℚ) + 1 / 2) * 2 ^ exponentFor num den = num / den ∧ c % 2 = 1 := by
  have unit : (0 : ℚ) < 2 ^ exponentFor num den := by positivity
  have divisor := scaled_pos bottom (exponentFor num den)
  rw [← lt_div_iff₀ unit, ← eq_div_iff unit.ne', ← scaled_eq, units]
  generalize num * twoTo _ = n
  generalize den * twoTo _ = d at divisor ⊢
  have positive : (0 : ℚ) < d := by exact_mod_cast divisor
  have double : ((c : ℚ) + 1 / 2) * d = ((2 * c + 1) * d : ℕ) / 2 := by
    push_cast
    ring
  rw [lt_roundDiv_iff divisor, lt_div_iff₀ positive, eq_div_iff positive.ne', double,
    div_lt_iff₀ two_pos, div_eq_iff two_ne_zero, mul_comm (n : ℚ)]
  norm_cast

/-- The number as a fraction. -/
def value (a : Binary64) : ℚ := a.mantissa * 2 ^ a.exponent

theorem ofRatio_eq (top : 0 < num) (bottom : 0 < den) :
    ofRatio num den = if units num den = 2 ^ 53 then ⟨2 ^ 52, exponentFor num den + 1⟩
      else ⟨units num den, exponentFor num den⟩ := by
  rw [ofRatio, if_neg (by omega)]
  rfl

theorem value_ofRatio (top : 0 < num) (bottom : 0 < den) :
    (ofRatio num den).value = units num den * 2 ^ exponentFor num den := by
  rw [ofRatio_eq top bottom]
  split
  · next carried =>
    rw [value, carried, zpow_add_one₀ two_ne_zero]
    push_cast
    ring
  · rfl

/-- A number whose mantissa has all its digits and whose exponent is not too small. -/
structure IsNormal (a : Binary64) : Prop where
  least : 2 ^ 52 ≤ a.mantissa
  most : a.mantissa < 2 ^ 53
  exponent : -1075 ≤ a.exponent

theorem bits_of_isNormal {a : Binary64} (normal : a.IsNormal) :
    (a.bits : ℤ) = (a.exponent + 1075) * 2 ^ 52 + (a.mantissa - 2 ^ 52) := by
  obtain ⟨least, most, exponent⟩ := normal
  have width : twoTo 52 = 2 ^ 52 := rfl
  rw [bits, width, if_neg (by omega)]
  omega

theorem bits_ofRatio (top : 0 < num) (bottom : 0 < den) (range : -1075 ≤ exponentFor num den) :
    ((ofRatio num den).bits : ℤ) =
      (exponentFor num den + 1075) * 2 ^ 52 + (units num den - 2 ^ 52) := by
  obtain ⟨lower, upper⟩ := units_bounds top bottom
  rw [ofRatio_eq top bottom]
  split
  · next carried =>
    have normal : IsNormal ⟨2 ^ 52, exponentFor num den + 1⟩ :=
      ⟨le_rfl, by norm_num, by dsimp only; omega⟩
    rw [bits_of_isNormal normal]
    dsimp only
    omega
  · next kept =>
    exact bits_of_isNormal ⟨lower, lt_of_le_of_ne upper kept, range⟩

/-- The middle between a number and the next one. -/
def middle (a : Binary64) : ℚ := (a.mantissa + 1 / 2) * 2 ^ a.exponent

/-- The number lies below the quotient when both are rounded to 53 digits. -/
def IsBelow (a : Binary64) (x : ℚ) : Prop :=
  a.middle < x ∨ a.middle = x ∧ a.mantissa % 2 = 1

theorem le_exponentFor (top : 0 < num) (bottom : 0 < den)
    (range : 2 ^ (-1022 : ℤ) ≤ (num / den : ℚ)) : -1075 ≤ exponentFor num den := by
  have high := (exponentFor_spec top bottom).2
  rw [div_lt_iff₀ (by positivity), ← zpow_natCast, ← zpow_add₀ two_ne_zero] at high
  have apart := (zpow_lt_zpow_iff_right₀ one_lt_two).1 (range.trans_lt high)
  push_cast at apart
  omega

/-- A quotient is rounded to more than `b` just if it is beyond the middle between `b` and the next
number, or if it is the middle and `b` is odd. -/
theorem exceeds_ofRatio_iff {b : Binary64} (normal : b.IsNormal) (top : 0 < num) (bottom : 0 < den)
    (range : 2 ^ (-1022 : ℤ) ≤ (num / den : ℚ)) :
    (ofRatio num den).exceeds b = true ↔ b.IsBelow (num / den) := by
  have bits := bits_ofRatio top bottom (le_exponentFor top bottom range)
  have bits' := bits_of_isNormal normal
  obtain ⟨least, most, -⟩ := normal
  obtain ⟨lower, upper⟩ := units_bounds top bottom
  obtain ⟨low, high⟩ := exponentFor_spec top bottom
  have decides := @lt_units_iff num den bottom b.mantissa
  rw [exceeds, decide_eq_true_iff, ← Int.ofNat_lt, bits, bits', IsBelow, middle]
  generalize exponentFor num den = e at *
  rw [le_div_iff₀ (by positivity)] at low
  rw [div_lt_iff₀ (by positivity)] at high
  rcases lt_trichotomy e b.exponent with below | rfl | above
  · have least : (2 : ℚ) ^ 52 ≤ b.mantissa := by exact_mod_cast least
    have short : (num / den : ℚ) < ((b.mantissa : ℚ) + 1 / 2) * 2 ^ b.exponent := by
      calc (num / den : ℚ) < 2 ^ 53 * 2 ^ e := high
        _ = 2 ^ 52 * 2 ^ (e + 1) := by rw [zpow_add_one₀ two_ne_zero]; ring
        _ ≤ 2 ^ 52 * 2 ^ b.exponent := by gcongr; norm_num; exact below
        _ ≤ _ := by gcongr; linarith
    constructor
    · intro more
      omega
    · rintro (beyond | ⟨middle, -⟩)
      · exact absurd beyond short.not_gt
      · exact absurd middle short.ne'
  · rw [← decides]
    omega
  · have most : (b.mantissa : ℚ) + 1 ≤ 2 ^ 53 := by exact_mod_cast most
    have beyond : ((b.mantissa : ℚ) + 1 / 2) * 2 ^ b.exponent < num / den := by
      calc ((b.mantissa : ℚ) + 1 / 2) * 2 ^ b.exponent < 2 ^ 53 * 2 ^ b.exponent := by
            gcongr; linarith
        _ = 2 ^ 52 * 2 ^ (b.exponent + 1) := by rw [zpow_add_one₀ two_ne_zero]; ring
        _ ≤ 2 ^ 52 * 2 ^ e := by gcongr; norm_num; exact above
        _ ≤ _ := low
    constructor
    · intro
      exact .inl beyond
    · intro
      omega

/-! ## Whole numbers and their quotients -/

/-- A number of up to 53 digits is not changed. -/
theorem value_ofNat {n : Nat} (small : n < 2 ^ 53) : (ofNat n).value = n := by
  rcases Nat.eq_zero_or_pos n with rfl | positive
  · simp [ofNat, ofRatio, value]
  · have low := (exponentFor_spec positive Nat.one_pos).1
    have whole := value_ofRatio positive Nat.one_pos
    have bound : (n : ℚ) < 2 ^ 53 := by exact_mod_cast small
    rw [units] at whole
    generalize exponentFor n 1 = e at low whole
    -- With so few digits the unit is at most one, and so nothing is rounded.
    have fine : e ≤ 0 := by
      rw [Nat.cast_one, div_one, le_div_iff₀ (by positivity)] at low
      have short : (2 : ℚ) ^ e < 2 ^ (1 : ℤ) := by linarith
      have apart := (zpow_lt_zpow_iff_right₀ one_lt_two).1 short
      omega
    have scaled := scaled_eq n 1 e
    have unit : 1 * twoTo e.toNat = 1 := by rw [Int.toNat_of_nonpos fine]; rfl
    rw [unit, Nat.cast_one, div_one, div_one] at scaled
    rw [ofNat, whole, unit, roundDiv_one, scaled]
    exact div_mul_cancel₀ _ (by positivity)

theorem le_value_ofNat {n : Nat} (large : 2 ^ 53 ≤ n) : 2 ^ 53 ≤ (ofNat n).value := by
  have positive : 0 < n := by omega
  have high := (exponentFor_spec positive Nat.one_pos).2
  have least : (2 : ℚ) ^ 52 ≤ units n 1 := by
    exact_mod_cast (units_bounds positive Nat.one_pos).1
  have bound : (2 : ℚ) ^ 53 ≤ n := by exact_mod_cast large
  rw [ofNat, value_ofRatio positive Nat.one_pos]
  generalize exponentFor n 1 = e at high ⊢
  have coarse : 1 ≤ e := by
    rw [Nat.cast_one, div_one, div_lt_iff₀ (by positivity)] at high
    have long : (2 : ℚ) ^ (0 : ℤ) < 2 ^ e := by
      rw [zpow_zero]
      linarith
    exact (zpow_lt_zpow_iff_right₀ one_lt_two).1 long
  calc (2 : ℚ) ^ 53 = 2 ^ 52 * 2 ^ (1 : ℤ) := by norm_num
    _ ≤ (units n 1 : ℚ) * 2 ^ e := by gcongr; norm_num

theorem exceeds_div_iff {a b c : Binary64} (normal : c.IsNormal) (top : 0 < a.value)
    (bottom : 0 < b.value) (range : 2 ^ (-1022 : ℤ) ≤ a.value / b.value) :
    (a.div b).exceeds c = true ↔ c.IsBelow (a.value / b.value) := by
  have filled {d : Binary64} (positive : 0 < d.value) : 0 < d.mantissa := by
    refine Nat.pos_of_ne_zero fun zero => ?_
    simp [value, zero] at positive
  have scale (n : ℕ) : 0 < twoTo n := Nat.pow_pos Nat.zero_lt_two
  have ratio : ((a.mantissa * twoTo (a.exponent - b.exponent).toNat : ℕ) : ℚ) /
      (b.mantissa * twoTo (-(a.exponent - b.exponent)).toNat : ℕ) = a.value / b.value := by
    have scaled := scaled_eq a.mantissa b.mantissa (-(a.exponent - b.exponent))
    rw [neg_neg] at scaled
    rw [scaled, value, value, zpow_neg, zpow_sub₀ two_ne_zero]
    field_simp
  rw [← ratio] at range ⊢
  exact exceeds_ofRatio_iff normal (Nat.mul_pos (filled top) (scale _))
    (Nat.mul_pos (filled bottom) (scale _)) range

end SchemaPool.Binary64
