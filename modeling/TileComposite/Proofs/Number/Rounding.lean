import Mathlib.Algebra.Order.Field.Power
import Mathlib.Data.Int.Log
import Mathlib.Data.Nat.Log
import Mathlib.Tactic.FieldSimp
import Mathlib.Tactic.Positivity
import Mathlib.Tactic.Ring
import TileComposite.Number.Arithmetic
import TileComposite.Proofs.Number.Nearest

/-! Rounding to a binary format. A rational goes to a nearest point of a grid that is
uniform around it, so that what lies on the grid is kept. Whole numbers with no more digits
than the format are on it, and a quotient of such numbers is rounded so finely that it is
nearest to the same whole number as before. -/
namespace TileComposite

variable {q : Rat}

/-- The exponent from bit lengths is the binary logarithm, rounded down. -/
theorem floorLog2_eq (positive : 0 < q) : floorLog2 q = Int.log 2 q := by
  have num_pos : 0 < q.num := Rat.num_pos.mpr positive
  have num_ne : q.num.natAbs ≠ 0 := by omega
  have den_pos : (0 : Rat) < q.den := by exact_mod_cast q.den_pos
  have value : q * q.den = q.num.natAbs := by
    rw [Rat.mul_den_eq_num, ← Int.cast_natCast, Int.natAbs_of_nonneg num_pos.le]
  have numLower : (2 : Rat) ^ (q.num.natAbs.log2 : Int) ≤ q.num.natAbs := by
    exact_mod_cast Nat.log2_self_le num_ne
  have numUpper : (q.num.natAbs : Rat) < 2 ^ (q.num.natAbs.log2 + 1 : Int) := by
    exact_mod_cast Nat.lt_log2_self (n := q.num.natAbs)
  have denLower : (2 : Rat) ^ (q.den.log2 : Int) ≤ q.den := by
    exact_mod_cast Nat.log2_self_le q.den_nz
  have denUpper : (q.den : Rat) < 2 ^ (q.den.log2 + 1 : Int) := by
    exact_mod_cast Nat.lt_log2_self (n := q.den)
  have above : (2 : Rat) ^ ((q.num.natAbs.log2 : Int) - q.den.log2 - 1) ≤ q := by
    refine le_of_mul_le_mul_right ?_ den_pos
    calc (2 : Rat) ^ ((q.num.natAbs.log2 : Int) - q.den.log2 - 1) * q.den
        ≤ 2 ^ ((q.num.natAbs.log2 : Int) - q.den.log2 - 1) * 2 ^ (q.den.log2 + 1 : Int) := by gcongr
      _ = 2 ^ (q.num.natAbs.log2 : Int) := by rw [← zpow_add₀ two_ne_zero]; congr 1; omega
      _ ≤ q * q.den := value ▸ numLower
  have below : q < 2 ^ ((q.num.natAbs.log2 : Int) - q.den.log2 + 1) := by
    refine lt_of_mul_lt_mul_right ?_ den_pos.le
    calc q * q.den < 2 ^ (q.num.natAbs.log2 + 1 : Int) := value ▸ numUpper
      _ = 2 ^ ((q.num.natAbs.log2 : Int) - q.den.log2 + 1) * 2 ^ (q.den.log2 : Int) := by
        rw [← zpow_add₀ two_ne_zero]; congr 1; omega
      _ ≤ 2 ^ ((q.num.natAbs.log2 : Int) - q.den.log2 + 1) * q.den := by gcongr
  have atLeast := (Int.zpow_le_iff_le_log Nat.one_lt_two positive).mp above
  have atMost := (Int.lt_zpow_iff_log_lt Nat.one_lt_two positive).mp below
  unfold floorLog2
  dsimp only
  split
  · have := (Int.lt_zpow_iff_log_lt Nat.one_lt_two positive).mp ‹_›
    omega
  · have := (Int.zpow_le_iff_le_log Nat.one_lt_two positive).mp (not_lt.mp ‹_›)
    omega

namespace Format
variable (f : Format)

/-- The distance of neighbouring points of the grid around a rational. -/
def spacing (q : Rat) : Rat := 2 ^ f.gridExponent q

/-- The point of the grid to which a rational is rounded, in any range of exponents. -/
def gridPoint (q : Rat) : Rat := nearestInt (q / f.spacing q) * f.spacing q

theorem spacing_pos (q : Rat) : 0 < f.spacing q := by
  unfold spacing
  positivity

theorem round_eq (q : Rat) : f.round q =
    if f.gridPoint q = 0 then .zero (q < 0)
    else if f.largest < f.gridPoint q then .infinite false
    else if f.gridPoint q < -f.largest then .infinite true
    else .finite (f.gridPoint q) := by
  have zero_iff : f.gridPoint q = 0 ↔ nearestInt (q / f.spacing q) = 0 := by
    rw [gridPoint, mul_eq_zero, or_iff_left (f.spacing_pos q).ne', Int.cast_eq_zero]
  simp only [zero_iff]
  rfl

theorem toRat?_round (inside : |f.gridPoint q| ≤ f.largest) :
    (f.round q).toRat? = some (f.gridPoint q) := by
  obtain ⟨lower, upper⟩ := abs_le.mp inside
  rw [round_eq]
  split
  · rename_i zero
    rw [zero]
    cases decide (q < 0) <;> rfl
  · rw [if_neg (not_lt.mpr upper), if_neg (not_lt.mpr lower)]
    rfl

theorem gridPoint_error (q : Rat) : |q - f.gridPoint q| ≤ f.spacing q / 2 := by
  have positive := f.spacing_pos q
  have scaled : q - f.gridPoint q =
      (q / f.spacing q - nearestInt (q / f.spacing q)) * f.spacing q := by
    rw [gridPoint, sub_mul, div_mul_cancel₀ _ positive.ne']
  rw [scaled, abs_mul, abs_of_pos positive]
  have near := (nearestInt_spec (q / f.spacing q)).near
  have := mul_le_mul_of_nonneg_right near positive.le
  linarith

theorem gridPoint_of_multiple {k : Int} (multiple : q = k * f.spacing q) : f.gridPoint q = q := by
  have positive := f.spacing_pos q
  have quotient : q / f.spacing q = k := by
    rw [div_eq_iff positive.ne']
    exact multiple
  rw [gridPoint, quotient, nearestInt_intCast]
  exact multiple.symm

theorem magnitude_eq (q : Rat) : q.abs = |q| := by
  obtain nonneg | nonpos := le_total 0 q
  · rw [Rat.abs_of_nonneg nonneg, abs_of_nonneg nonneg]
  · rw [Rat.abs_of_nonpos nonpos, abs_of_nonpos nonpos]

variable {f}

theorem gridExponent_of_pos (positive : 0 < |q|) :
    f.gridExponent q = max (Int.log 2 |q|) f.minExponent - f.digits + 1 := by
  rw [gridExponent, if_neg (abs_pos.mp positive), magnitude_eq, floorLog2_eq positive]

theorem gridExponent_zero : f.gridExponent 0 = f.minExponent - f.digits + 1 := by
  rw [gridExponent, if_pos rfl, max_self]

theorem gridExponent_le {k : Int} (below : |q| < 2 ^ k) (normal : f.minExponent < k) :
    f.gridExponent q ≤ k - f.digits := by
  obtain rfl | nonzero := eq_or_ne q 0
  · rw [gridExponent_zero]
    omega
  · have positive := abs_pos.mpr nonzero
    have log_lt := (Int.lt_zpow_iff_log_lt Nat.one_lt_two positive).mp below
    rw [gridExponent_of_pos positive]
    omega

/-- The digits of a format cover the rational, or the least normal number. -/
theorem spacing_mul_le (q : Rat) :
    f.spacing q * 2 ^ (f.digits - 1 : Int) ≤ max |q| (2 ^ f.minExponent) := by
  rw [spacing, ← zpow_add₀ two_ne_zero]
  obtain rfl | nonzero := eq_or_ne q 0
  · rw [gridExponent_zero]
    refine le_max_of_le_right (zpow_le_zpow_right₀ one_le_two ?_)
    omega
  · have positive := abs_pos.mpr nonzero
    rw [gridExponent_of_pos positive]
    obtain below | above := le_total (Int.log 2 |q|) f.minExponent
    · rw [max_eq_right below]
      refine le_max_of_le_right (zpow_le_zpow_right₀ one_le_two ?_)
      omega
    · rw [max_eq_left above]
      have covered : (2 : Rat) ^ Int.log 2 |q| ≤ |q| := Int.zpow_log_le_self Nat.one_lt_two positive
      refine le_max_of_le_left (le_trans (zpow_le_zpow_right₀ one_le_two ?_) covered)
      omega

/-- The points of a grid that is no finer than the one around a rational are on that one too. -/
theorem exists_multiple {e : Int} (coarse : f.gridExponent q ≤ e) (n : Int) :
    ∃ k : Int, (n * 2 ^ e : Rat) = k * f.spacing q := by
  have exponent : (((e - f.gridExponent q).toNat : Nat) : Int) = e - f.gridExponent q := by omega
  have scale : (2 : Rat) ^ e = 2 ^ (e - f.gridExponent q).toNat * f.spacing q := by
    rw [spacing, ← zpow_natCast, exponent, ← zpow_add₀ two_ne_zero, sub_add_cancel]
  refine ⟨n * 2 ^ (e - f.gridExponent q).toNat, ?_⟩
  push_cast
  rw [mul_assoc, ← scale]

/-- A rational on a grid that is no finer than the one around it is rounded to itself. -/
theorem gridPoint_of_coarse {e n : Int} (coarse : f.gridExponent q ≤ e)
    (value : q = n * 2 ^ e) : f.gridPoint q = q := by
  obtain ⟨k, multiple⟩ := exists_multiple coarse n
  exact f.gridPoint_of_multiple (value.trans multiple)

/-! ### Quotients -/

variable {p r : Int}

/-- The grid around a quotient is finer than its denominator. -/
theorem spacing_quotient (positive : 0 < r) (few : |(p : Rat)| < 2 ^ (f.digits - 1 : Int))
    (moderate : (r : Rat) * 2 ^ f.minExponent < 2 ^ (f.digits - 1 : Int)) :
    f.spacing (p / r) * r < 1 := by
  have positive' : (0 : Rat) < r := by exact_mod_cast positive
  have scale : (0 : Rat) < 2 ^ (f.digits - 1 : Int) := by positivity
  -- All digits of the format but one are room enough for the numerator.
  refine lt_of_mul_lt_mul_right ?_ scale.le
  calc f.spacing (p / r) * r * 2 ^ (f.digits - 1 : Int)
      = f.spacing (p / r) * 2 ^ (f.digits - 1 : Int) * r := by ring
    _ ≤ max |(p / r : Rat)| (2 ^ f.minExponent) * r := by
      gcongr
      exact spacing_mul_le _
    _ = max |(p : Rat)| (r * 2 ^ f.minExponent) := by
      rw [max_mul_of_nonneg _ _ positive'.le, abs_div, abs_of_pos positive',
        div_mul_cancel₀ _ positive'.ne', mul_comm (r : Rat)]
    _ < 1 * 2 ^ (f.digits - 1 : Int) := by
      rw [one_mul]
      exact max_lt few moderate

/-- A quotient that is not half-way between whole numbers stays away from half-way points, by
half of the denominator at least. -/
theorem quotient_room {m : Int} (positive : 0 < r) (less : |(p / r - m : Rat)| < 1 / 2) :
    |(p / r - m : Rat)| * (2 * r) ≤ r - 1 := by
  have positive' : (0 : Rat) < r := by exact_mod_cast positive
  -- Twice the distance to `m`, in units of the denominator, is a whole number.
  have distance : |(p / r - m : Rat)| * (2 * r) = |(2 * p - 2 * m * r : Int)| := by
    rw [← abs_of_pos (by linarith : (0 : Rat) < 2 * r), ← abs_mul, Int.cast_abs]
    congr 1
    push_cast
    field_simp
  have size : |(2 * p - 2 * m * r : Int)| < r := by
    have scaled := mul_lt_mul_of_pos_right less (by linarith : (0 : Rat) < 2 * r)
    rw [distance] at scaled
    have scaled' : ((|(2 * p - 2 * m * r : Int)| : Int) : Rat) < r := by linarith
    exact_mod_cast scaled'
  rw [distance]
  exact_mod_cast Int.le_sub_one_of_lt size

/-- Rounding on a finer grid does not use up the room between a quotient and a half-way point,
and leaves a quotient that is half-way where it is. -/
theorem nearestInt_gridPoint (positive : 0 < r) (fine : f.spacing (p / r) * r < 1) :
    nearestInt (f.gridPoint (p / r)) = nearestInt (p / r) := by
  have at_least_one : (1 : Rat) ≤ r := by exact_mod_cast positive
  have spacing_pos := f.spacing_pos (p / r)
  have spec := nearestInt_spec (p / r : Rat)
  obtain tie | less := eq_or_lt_of_le spec.near
  · -- Halves are on a grid whose spacing is below one.
    have negative : f.gridExponent (p / r) ≤ -1 := by
      by_contra large
      have nonneg : 0 ≤ f.gridExponent (p / r) := by omega
      have wide : 1 ≤ f.spacing (p / r) := one_le_zpow₀ one_le_two nonneg
      nlinarith
    obtain ⟨k, value⟩ := exists_halves_of_tie tie
    rw [gridPoint_of_coarse negative value]
  · have room := quotient_room positive less
    have error := f.gridPoint_error (p / r)
    refine nearestInt_eq (nearestEven_of_lt ?_)
    have triangle : |f.gridPoint (p / r) - nearestInt (p / r)| ≤
        |p / r - f.gridPoint (p / r)| + |(p / r - nearestInt (p / r) : Rat)| := by
      rw [abs_sub_comm (p / r : Rat) (f.gridPoint _)]
      exact abs_sub_le _ _ _
    nlinarith

end Format

/-! ### Double precision -/

theorem two_pow_le_largest : (2 : Rat) ^ (53 : Int) ≤ binary64.largest := by
  decide +kernel

/-- A quotient of whole numbers of 52 digits is rounded to a number that is nearest to the
same whole number. -/
theorem nearestInt_round_quotient {p r : Int} (positive : 0 < r) (few : |p| < 2 ^ 52)
    (moderate : r < 2 ^ 52) : ∃ v, (binary64.round (p / r)).toRat? = some v ∧
      nearestInt v = nearestInt (p / r) := by
  have positive' : (1 : Rat) ≤ r := by exact_mod_cast positive
  have few' : |(p : Rat)| < 2 ^ (52 : Int) := by exact_mod_cast few
  have moderate' : (r : Rat) * 2 ^ (-1022 : Int) < 2 ^ (52 : Int) := by
    have small : (2 : Rat) ^ (-1022 : Int) ≤ 2 ^ (0 : Int) :=
      zpow_le_zpow_right₀ one_le_two (by omega)
    have below : (r : Rat) < 2 ^ (52 : Int) := by exact_mod_cast moderate
    rw [zpow_zero] at small
    nlinarith
  have fine : binary64.spacing (p / r) * r < 1 :=
    Format.spacing_quotient positive few' moderate'
  refine ⟨_, binary64.toRat?_round ?_, Format.nearestInt_gridPoint positive fine⟩
  have error := binary64.gridPoint_error (p / r)
  have spacing_pos := binary64.spacing_pos (p / r)
  have quotient : |(p / r : Rat)| ≤ |(p : Rat)| := by
    rw [abs_div]
    exact div_le_self (abs_nonneg _) (positive'.trans (le_abs_self _))
  have triangle := abs_sub_abs_le_abs_sub (binary64.gridPoint (p / r)) (p / r)
  rw [abs_sub_comm] at triangle
  have := two_pow_le_largest
  norm_num at few' this
  nlinarith

end TileComposite
