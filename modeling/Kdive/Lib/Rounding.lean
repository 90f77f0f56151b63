import Mathlib.Data.Int.Log
import Mathlib.Data.Rat.Floor
import Mathlib.Algebra.Order.Floor.Ring
import Mathlib.Tactic.Linarith

/-!
# Rounding

`halfEven` rounds a rational to the nearest integer, and to the even one from the middle.
`toDouble` rounds a nonnegative rational to a binary64, by `halfEven` of its significand.
Both are monotone (`halfEven_mono`, `toDouble_mono`).
-/

namespace Rounding

/-! ## To an integer -/

/-- The nearest integer, the even one from the middle. -/
def halfEven (x : ℚ) : ℤ :=
  let below := ⌊x⌋
  if x - below < 1 / 2 then below
  else if 1 / 2 < x - below then below + 1
  else if below % 2 = 0 then below
  else below + 1

/-- It is the integer below, or the one above. -/
theorem floor_le_halfEven (x : ℚ) : ⌊x⌋ ≤ halfEven x ∧ halfEven x ≤ ⌊x⌋ + 1 := by
  rw [halfEven]
  split
  · omega
  · split
    · omega
    · split <;> omega

@[simp] theorem halfEven_intCast (n : ℤ) : halfEven n = n := by
  rw [halfEven]
  rw [Int.floor_intCast, sub_self, if_pos (by norm_num)]

theorem halfEven_mono {x y : ℚ} (h : x ≤ y) : halfEven x ≤ halfEven y := by
  have hfloor : ⌊x⌋ ≤ ⌊y⌋ := Int.floor_mono h
  rcases hfloor.lt_or_eq with hlt | heq
  · exact (floor_le_halfEven x).2.trans ((by omega : ⌊x⌋ + 1 ≤ ⌊y⌋).trans (floor_le_halfEven y).1)
  · -- between the same two integers, the distance to the lower one decides
    have hdistance : x - ⌊x⌋ ≤ y - ⌊x⌋ := sub_le_sub_right h _
    rw [halfEven, halfEven]
    rw [← heq]
    split
    · split
      · exact le_refl _
      · split
        · omega
        · split <;> omega
    · rename_i hx
      rw [if_neg (fun hy => hx (lt_of_le_of_lt hdistance hy))]
      split
      · rename_i hx'
        rw [if_pos (lt_of_lt_of_le hx' hdistance)]
      · split
        · split <;> omega
        · split <;> omega

theorem halfEven_le {x : ℚ} {n : ℤ} (h : x ≤ n) : halfEven x ≤ n := by
  simpa using halfEven_mono h

theorem le_halfEven {x : ℚ} {n : ℤ} (h : (n : ℚ) ≤ x) : n ≤ halfEven x := by
  simpa using halfEven_mono h

/-! ## To a binary64 -/

/-- The exponent of the last bit of a binary64 near `x`. -/
def lastBit (x : ℚ) : ℤ := max (Int.log 2 x - 52) (-1074)

/-- The nearest binary64, of a number that is not negative and not too large. -/
def toDouble (x : ℚ) : ℚ := halfEven (x / 2 ^ lastBit x) * 2 ^ lastBit x

@[simp] theorem toDouble_zero : toDouble 0 = 0 := by
  have hzero : halfEven 0 = 0 := by
    have := halfEven_intCast 0
    rwa [Int.cast_zero] at this
  rw [toDouble, zero_div, hzero, Int.cast_zero, zero_mul]

theorem lastBit_mono {x y : ℚ} (hx : 0 < x) (h : x ≤ y) : lastBit x ≤ lastBit y :=
  max_le_max (Int.sub_le_sub_right (Int.log_mono_right hx h) _) (le_refl _)

theorem toDouble_mono {x y : ℚ} (hx : 0 ≤ x) (h : x ≤ y) : toDouble x ≤ toDouble y := by
  have hpos : ∀ k : ℤ, (0 : ℚ) < 2 ^ k := fun k => zpow_pos (by norm_num) k
  rcases hx.eq_or_lt with rfl | hx
  · rw [toDouble_zero, toDouble]
    have hnonneg : (0 : ℤ) ≤ halfEven (y / 2 ^ lastBit y) :=
      le_halfEven (by rw [Int.cast_zero]; exact div_nonneg h (hpos _).le)
    exact mul_nonneg (Int.cast_nonneg hnonneg) (hpos _).le
  · rcases (lastBit_mono hx h).lt_or_eq with hlt | heq
    · -- a power of two lies between the two numbers, and neither is rounded past it
      have hnormal : lastBit y = Int.log 2 y - 52 := by
        rw [lastBit, max_eq_left_iff]
        by_contra hsmall
        rw [lastBit, lastBit, max_eq_right (by omega : Int.log 2 y - 52 ≤ -1074)] at hlt
        exact absurd (le_max_right (Int.log 2 x - 52) (-1074)) (by omega)
      have hlog : Int.log 2 x < Int.log 2 y := by
        have := le_max_left (Int.log 2 x - 52) (-1074)
        rw [← lastBit] at this
        omega
      have hxlt : x < 2 ^ Int.log 2 y := (Int.lt_zpow_iff_log_lt (by norm_num) hx).mpr hlog
      have hyge : (2 : ℚ) ^ Int.log 2 y ≤ y :=
        Int.zpow_log_le_self (by norm_num) (hx.trans_le h)
      have hleft : toDouble x ≤ 2 ^ Int.log 2 y := by
        have hsplit : (2 : ℚ) ^ Int.log 2 y =
            ((2 ^ (Int.log 2 y - lastBit x).toNat : ℤ) : ℚ) * 2 ^ lastBit x := by
          rw [Int.cast_pow, Int.cast_ofNat, ← zpow_natCast, ← zpow_add₀ (by norm_num)]
          congr 1
          omega
        rw [toDouble, hsplit]
        refine mul_le_mul_of_nonneg_right (Int.cast_le.mpr (halfEven_le ?_)) (hpos _).le
        rw [div_le_iff₀ (hpos _), ← hsplit]
        exact hxlt.le
      have hright : 2 ^ Int.log 2 y ≤ toDouble y := by
        have hsplit : (2 : ℚ) ^ Int.log 2 y = ((2 ^ 52 : ℤ) : ℚ) * 2 ^ lastBit y := by
          rw [hnormal, Int.cast_pow, Int.cast_ofNat, ← zpow_natCast, ← zpow_add₀ (by norm_num)]
          congr 1
          omega
        rw [toDouble, hsplit]
        refine mul_le_mul_of_nonneg_right (Int.cast_le.mpr (le_halfEven ?_)) (hpos _).le
        rw [le_div_iff₀ (hpos _), ← hsplit]
        exact hyge
      exact hleft.trans hright
    · rw [toDouble, toDouble, heq]
      exact mul_le_mul_of_nonneg_right
        (Int.cast_le.mpr (halfEven_mono (div_le_div_of_nonneg_right h (hpos _).le))) (hpos _).le

end Rounding
