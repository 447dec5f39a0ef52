import Mathlib.Data.Rat.Floor
import Mathlib.Tactic.Linarith
import TileComposite.Number.Basic

/-! Whole numbers near a rational. One of them is nearest, or the even one of the two that
are equally near, and rounding finds it. -/
namespace TileComposite

/-- The whole number is at most a half away, and at a half it is even. -/
structure NearestEven (q : Rat) (n : Int) : Prop where
  near : |q - n| ≤ 1 / 2
  even : |q - n| = 1 / 2 → n % 2 = 0

variable {q r : Rat} {m n : Int}

theorem nearestEven_of_lt (near : |q - n| < 1 / 2) : NearestEven q n :=
  ⟨near.le, fun half => absurd half near.ne⟩

/-- Whole numbers a half away on both sides cannot both be even. -/
theorem NearestEven.mono (first : NearestEven q m) (second : NearestEven r n) (le : q ≤ r) :
    m ≤ n := by
  by_contra greater
  have next : n + 1 ≤ m := by omega
  have next' : (n : Rat) + 1 ≤ m := by exact_mod_cast next
  have below := (abs_le.mp first.near).1
  have above := (abs_le.mp second.near).2
  have half : r - n = 1 / 2 := by linarith
  have half' : q - m = -(1 / 2) := by linarith
  have adjacent : m = n + 1 := by
    have : (m : Rat) = n + 1 := by linarith
    exact_mod_cast this
  have evenFirst := first.even (by rw [half', abs_neg]; norm_num)
  have evenSecond := second.even (by rw [half]; norm_num)
  omega

theorem NearestEven.unique (first : NearestEven q m) (second : NearestEven q n) : m = n :=
  Int.le_antisymm (first.mono second le_rfl) (second.mono first le_rfl)

/-- Other whole numbers are not nearer. -/
theorem NearestEven.nearest (nearest : NearestEven q n) (m : Int) : |q - n| ≤ |q - m| := by
  obtain rfl | other := eq_or_ne m n
  · rfl
  · have apart : (1 : Rat) ≤ |(m - n : Rat)| := by
      exact_mod_cast Int.one_le_abs (sub_ne_zero.mpr other)
    have triangle : |(m - n : Rat)| ≤ |m - q| + |q - n| := abs_sub_le _ _ _
    rw [abs_sub_comm (m : Rat) q] at triangle
    have := nearest.near
    linarith

/-- No whole number lies between a rational and the nearest one. -/
theorem NearestEven.le_of_le (nearest : NearestEven q n) (lower : (m : Rat) ≤ q) : m ≤ n := by
  by_contra less
  have next : (n : Rat) + 1 ≤ m := by exact_mod_cast Int.add_one_le_of_lt (not_le.mp less)
  have above := (abs_le.mp nearest.near).2
  linarith

theorem NearestEven.ge_of_ge (nearest : NearestEven q n) (upper : q ≤ m) : n ≤ m := by
  by_contra more
  have next : (m : Rat) + 1 ≤ n := by exact_mod_cast Int.add_one_le_of_lt (not_le.mp more)
  have below := (abs_le.mp nearest.near).1
  linarith

/-- A rational half-way between whole numbers is a whole number of halves. -/
theorem exists_halves_of_tie (tie : |q - n| = 1 / 2) : ∃ k : Int, q = k * 2 ^ (-1 : Int) := by
  rw [zpow_neg_one]
  obtain above | below := eq_or_eq_neg_of_abs_eq tie
  · refine ⟨2 * n + 1, ?_⟩
    push_cast
    linarith
  · refine ⟨2 * n - 1, ?_⟩
    push_cast
    linarith

theorem nearestInt_spec (q : Rat) : NearestEven q (nearestInt q) := by
  have lower : (q.floor : Rat) ≤ q := Int.floor_le q
  have upper : q < q.floor + 1 := Int.lt_floor_add_one q
  unfold nearestInt
  dsimp only
  split
  · exact nearestEven_of_lt (abs_lt.mpr ⟨by linarith, by linarith⟩)
  · split
    · refine nearestEven_of_lt ?_
      push_cast
      exact abs_lt.mpr ⟨by linarith, by linarith⟩
    · have half : q - q.floor = 1 / 2 := by linarith
      split
      · exact ⟨by rw [half]; norm_num, fun _ => ‹_›⟩
      · have half' : q - (q.floor + 1 : Int) = -(1 / 2) := by push_cast; linarith
        exact ⟨by rw [half', abs_neg]; norm_num, fun _ => by omega⟩

theorem nearestInt_eq (nearest : NearestEven q n) : nearestInt q = n :=
  (nearestInt_spec q).unique nearest

theorem nearestInt_mono (le : q ≤ r) : nearestInt q ≤ nearestInt r :=
  (nearestInt_spec q).mono (nearestInt_spec r) le

theorem nearestInt_intCast (n : Int) : nearestInt n = n := by
  refine nearestInt_eq (nearestEven_of_lt ?_)
  rw [sub_self, abs_zero]
  norm_num

/-- Rounding and moving into a range of whole numbers go together in any order. -/
theorem nearestInt_confined (first last : Int) (q : Rat) :
    nearestInt (min (last : Rat) (max (first : Rat) q)) = min last (max first (nearestInt q)) := by
  have monotone : Monotone nearestInt := fun _ _ => nearestInt_mono
  rw [monotone.map_min, monotone.map_max, nearestInt_intCast, nearestInt_intCast]

end TileComposite
