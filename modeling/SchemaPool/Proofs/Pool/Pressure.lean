import SchemaPool.Pool.Basic
import SchemaPool.Proofs.Pool.Rounding

/-! # When a pool is under pressure

The share of a pool's connections that is lent out is rounded up to three times before it is
compared with four fifths, which are rounded themselves.  In a pool of up to `2 ^ 50` connections
none of this matters: a share above four fifths is too far above for rounding to hide it
(`exceeds_fourFifths_iff`), and so the exact numbers decide (`PoolStatus.pressure_exact`). -/

namespace SchemaPool

namespace Binary64

theorem fourFifths_eq : fourFifths = ⟨7205759403792794, -53⟩ := by decide +kernel

theorem isNormal_fourFifths : fourFifths.IsNormal := by
  rw [fourFifths_eq]
  exact ⟨by norm_num, by norm_num, by norm_num⟩

/-- The double next to four fifths is even, so the middle behind it is rounded down. -/
theorem fourFifths_isBelow_iff {x : ℚ} :
    fourFifths.IsBelow x ↔ 14411518807585589 < 2 ^ 54 * x := by
  have middle : fourFifths.middle = 14411518807585589 / 2 ^ 54 := by
    rw [middle, fourFifths_eq]
    norm_num
  have even : fourFifths.mantissa % 2 ≠ 1 := by
    rw [fourFifths_eq]
    decide
  rw [IsBelow, middle, div_lt_iff₀ (by positivity), mul_comm x]
  simp [even]

theorem ofNat_zero : ofNat 0 = ⟨0, 0⟩ := by
  simp [ofNat, ofRatio]

theorem div_zero_left (b : Binary64) : (⟨0, 0⟩ : Binary64).div b = ⟨0, 0⟩ := by
  simp [div, ofRatio]

theorem exceeds_zero (b : Binary64) : (⟨0, 0⟩ : Binary64).exceeds b = false := by
  simp [exceeds, bits]

/-- A share is rounded to more than four fifths just if it is more. -/
theorem exceeds_fourFifths_iff {part whole : Nat} (positive : 0 < whole) (small : whole ≤ 2 ^ 50) :
    ((ofNat part).div (ofNat whole)).exceeds fourFifths = true ↔ 4 * whole < 5 * part := by
  rcases Nat.eq_zero_or_pos part with rfl | some
  · rw [ofNat_zero, div_zero_left, exceeds_zero]
    simp
  · have bottom : (ofNat whole).value = whole := value_ofNat (by omega)
    have least : (1 : ℚ) ≤ whole := by exact_mod_cast positive
    have most : (whole : ℚ) ≤ 2 ^ 50 := by exact_mod_cast small
    -- The part may have been rounded, but then it is so great that this makes no difference.
    have decided : 1 ≤ (ofNat part).value ∧
        ((14411518807585589 * whole : ℚ) < 2 ^ 54 * (ofNat part).value ↔
          4 * whole < 5 * part) := by
      by_cases exactly : part < 2 ^ 53
      · rw [value_ofNat exactly]
        norm_cast
        omega
      · have great := le_value_ofNat (not_lt.1 exactly)
        have beyond : (14411518807585589 * whole : ℚ) < 2 ^ 54 * (ofNat part).value := by linarith
        simp only [beyond, true_iff]
        exact ⟨by linarith, by omega⟩
    have range : (2 : ℚ) ^ (-1022 : ℤ) ≤ (ofNat part).value / (ofNat whole).value := by
      rw [bottom, le_div_iff₀ (by linarith)]
      calc (2 : ℚ) ^ (-1022 : ℤ) * whole ≤ 2 ^ (-50 : ℤ) * 2 ^ 50 := by gcongr <;> norm_num
        _ = 1 := by norm_num
        _ ≤ (ofNat part).value := decided.1
    rw [exceeds_div_iff isNormal_fourFifths (by linarith) (by linarith) range,
      fourFifths_isBelow_iff, bottom, ← mul_div_assoc, lt_div_iff₀ (by linarith)]
    exact decided.2

end Binary64

namespace PoolStatus

variable {s : PoolStatus}

theorem utilization_of_idle (idle : s.maxSize = 0 ∨ s.size ≤ s.available) :
    s.utilization = ⟨0, 0⟩ := by
  rw [utilization]
  split
  · rfl
  · next some =>
    rw [Nat.sub_eq_zero_of_le (idle.resolve_left some), Binary64.ofNat_zero,
      Binary64.div_zero_left]

/-- A pool that may have up to `2 ^ 50` connections is under pressure just if somebody waits or more
than four fifths of them are lent out, counted exactly.  Nothing counts as lent out if there are as
many idle connections as connections or more, or if the pool may have none. -/
theorem pressure_exact (s : PoolStatus) (small : s.maxSize ≤ 2 ^ 50) :
    (s.isUnderPressure = true ↔ 0 < s.waiting ∨
      0 < s.maxSize ∧ 4 * (s.maxSize : ℤ) < 5 * max ((s.size : ℤ) - s.available) 0) ∧
    (s.maxSize = 0 ∨ s.size ≤ s.available → s.utilization = ⟨0, 0⟩) := by
  refine ⟨?_, utilization_of_idle⟩
  have lent : 4 * (s.maxSize : ℤ) < 5 * max ((s.size : ℤ) - s.available) 0 ↔
      4 * s.maxSize < 5 * (s.size - s.available) := by omega
  rw [isUnderPressure, Bool.or_eq_true, decide_eq_true_iff, lent]
  refine or_congr_right ?_
  rcases Nat.eq_zero_or_pos s.maxSize with none | some
  · rw [utilization_of_idle (.inl none), Binary64.exceeds_zero]
    simp [none]
  · rw [utilization, if_neg some.ne', Binary64.exceeds_fourFifths_iff some small]
    simp [some]

/-- In the greatest such pool one connection makes the difference.  Of a pool that has been closed
nothing counts as lent out. -/
theorem pressure_exact_of_limit :
    (PoolStatus.mk (2 ^ 50) (2 ^ 50) 225179981368525 0).isUnderPressure = false ∧
      (PoolStatus.mk (2 ^ 50) (2 ^ 50) 225179981368524 0).isUnderPressure = true ∧
      (PoolStatus.mk 0 3 5 0).utilization = ⟨0, 0⟩ := by
  have below := (pressure_exact ⟨2 ^ 50, 2 ^ 50, 225179981368525, 0⟩ le_rfl).1
  have above := (pressure_exact ⟨2 ^ 50, 2 ^ 50, 225179981368524, 0⟩ le_rfl).1
  have closed := (pressure_exact ⟨0, 3, 5, 0⟩ (Nat.zero_le _)).2
  refine ⟨?_, above.2 (by norm_num), closed (.inl rfl)⟩
  rw [Bool.eq_false_iff, ne_eq, below]
  norm_num

end PoolStatus

end SchemaPool
