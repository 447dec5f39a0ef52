import TileComposite.Number.Arithmetic
import TileComposite.Proofs.Number.Points

/-! Running sums in a binary format. A sum that began at zero never becomes a negative zero, so
that a zero of either sign adds nothing to it and terms that are zero can be left out. One
undefined term leaves the whole sum undefined. -/
namespace TileComposite

theorem Number.toRat?_zero (negative : Bool) : (zero negative).toRat? = some 0 := by
  cases negative <;> rfl

namespace Format
variable {f : Format} {q r : Rat} {x y : Number}

theorem holds_mul (digits : 0 < f.digits) (x y : Number) : f.Holds (f.mul x y) := by
  unfold mul
  dsimp only
  split
  case h_7 =>
    split
    · exact holds_zero _
    · exact holds_round digits _
  case h_3 | h_4 => split <;> rfl
  case h_1 | h_2 => rfl
  case h_5 | h_6 => exact holds_zero _

/-- A product that the format holds is exact, up to the sign of a zero. -/
theorem mul_value (first : x.toRat? = some q) (second : y.toRat? = some r)
    (point : f.Point (q * r)) : (f.mul x y).toRat? = some (q * r) := by
  cases x with
  | nan | infinite => cases first
  | negZero =>
    cases first
    rw [zero_mul]
    cases y with
    | nan | infinite => cases second
    | negZero | finite => exact Number.toRat?_zero _
  | finite =>
    cases first
    cases y with
    | nan | infinite => cases second
    | negZero =>
      cases second
      rw [mul_zero]
      exact Number.toRat?_zero _
    | finite =>
      cases second
      change Number.toRat? (if q * r = 0 then _ else _) = _
      split
      · rename_i zero
        rw [zero]
        exact Number.toRat?_zero _
      · rw [round_point point]
        rfl

theorem mul_zero_infinite (zero : x.toRat? = some 0) (infinite : y.toRat? = none) :
    f.mul x y = .nan := by
  cases x with
  | nan | infinite => cases zero
  | negZero | finite =>
    cases zero
    cases y with
    | nan | infinite => rfl
    | negZero | finite => cases infinite

/-! ### Multiples of the least spacing -/

theorem Point.multiple (point : f.Point q) : ∃ k : Int, q = k * 2 ^ f.leastExponent := by
  obtain ⟨n, e, rfl, _, coarse, _⟩ := point
  refine ⟨n * 2 ^ (e - f.leastExponent).toNat, ?_⟩
  have exponent : (((e - f.leastExponent).toNat : Nat) : Int) = e - f.leastExponent := by omega
  push_cast
  rw [mul_assoc, ← zpow_natCast, exponent, ← zpow_add₀ two_ne_zero, sub_add_cancel]

/-- The spacing around a multiple of the least spacing does not exceed it. -/
theorem spacing_le (digits : 0 < f.digits) {k : Int} (value : q = k * 2 ^ f.leastExponent)
    (nonzero : q ≠ 0) : f.spacing q ≤ |q| := by
  have positive := abs_pos.mpr nonzero
  rw [spacing, gridExponent_of_pos positive]
  obtain below | above := le_total (Int.log 2 |q|) f.minExponent
  · have unit : 1 ≤ |k| := Int.one_le_abs (by rintro rfl; simp at value; exact nonzero value)
    have unit' : (1 : Rat) ≤ |(k : Rat)| := by exact_mod_cast unit
    have scale : (0 : Rat) < 2 ^ f.leastExponent := by positivity
    rw [max_eq_right below, value, abs_mul, abs_of_pos scale]
    exact le_mul_of_one_le_left scale.le unit'
  · have covered : (2 : Rat) ^ Int.log 2 |q| ≤ |q| := Int.zpow_log_le_self Nat.one_lt_two positive
    rw [max_eq_left above]
    refine le_trans (zpow_le_zpow_right₀ one_le_two ?_) covered
    omega

/-- Such a multiple does not underflow. -/
theorem round_ne_negZero (digits : 0 < f.digits) {k : Int} (value : q = k * 2 ^ f.leastExponent) :
    f.round q ≠ .negZero := by
  intro vanishes
  obtain rfl | nonzero := eq_or_ne q 0
  · rw [round_point point_zero] at vanishes
    cases vanishes
  · have positive := abs_pos.mpr nonzero
    have error := f.gridPoint_error q
    have small := spacing_le digits value nonzero
    -- Rounded to zero, it would be off by all of itself, but half a spacing is the most.
    rw [round_eq] at vanishes
    split at vanishes
    · rename_i zero
      rw [zero, sub_zero] at error
      linarith
    · split at vanishes
      · cases vanishes
      · split at vanishes <;> cases vanishes

/-! ### Sums -/

/-- What a sum can be that began at zero. -/
structure Accumulated (f : Format) (x : Number) : Prop where
  holds : f.Holds x
  ne_negZero : x ≠ .negZero

theorem accumulated_zero : f.Accumulated 0 := ⟨holds_zero false, nofun⟩

theorem Accumulated.add (digits : 0 < f.digits) (sum : f.Accumulated x) (term : f.Holds y) :
    f.Accumulated (f.add x y) := by
  cases x with
  | negZero => exact absurd rfl sum.ne_negZero
  | nan => exact ⟨rfl, nofun⟩
  | infinite s =>
    cases y with
    | infinite t =>
      change f.Accumulated (if s = t then .infinite s else .nan)
      split <;> exact ⟨rfl, nofun⟩
    | _ => exact ⟨rfl, nofun⟩
  | finite p =>
    cases y with
    | nan | infinite => exact ⟨rfl, nofun⟩
    | negZero => exact ⟨holds_round digits p, sum.holds.trans_ne nofun⟩
    | finite q =>
      obtain ⟨k, first⟩ := ((holds_finite_iff digits).mp sum.holds).multiple
      obtain ⟨l, second⟩ := ((holds_finite_iff digits).mp term).multiple
      refine ⟨holds_round digits (p + q), round_ne_negZero digits (k := k + l) ?_⟩
      push_cast
      rw [first, second, add_mul]

theorem Accumulated.add_nothing (sum : f.Accumulated x) (zero : y.toRat? = some 0) :
    f.add x y = x := by
  cases x with
  | negZero => exact absurd rfl sum.ne_negZero
  | nan => rfl
  | infinite s =>
    cases y with
    | nan | infinite => cases zero
    | negZero | finite => rfl
  | finite p =>
    cases y with
    | nan | infinite => cases zero
    | negZero => exact sum.holds
    | finite q =>
      cases zero
      exact (congrArg f.round (add_zero p)).trans sum.holds

/-- A sum begins with its first term. -/
theorem zero_add_value (value : x.toRat? = some q) (point : f.Point q) : f.add 0 x = .finite q := by
  cases x with
  | nan | infinite => cases value
  | negZero =>
    cases value
    exact round_point point
  | finite =>
    cases value
    exact (congrArg f.round (zero_add q)).trans (round_point point)

theorem add_nan (x : Number) : f.add x .nan = .nan := by
  cases x <;> rfl

section
variable {α : Type} {term : α → Number} {terms : List α}

/-- Terms that are zero add nothing. -/
theorem foldl_filter (digits : 0 < f.digits) {keep : α → Bool}
    (holds : ∀ a ∈ terms, f.Holds (term a))
    (zero : ∀ a ∈ terms, keep a = false → (term a).toRat? = some 0) (sum : f.Accumulated x) :
    (terms.filter keep).foldl (fun sum a => f.add sum (term a)) x =
      terms.foldl (fun sum a => f.add sum (term a)) x := by
  -- On the terms, from any sum that began at zero. A term that is kept leads to another such sum.
  induction terms generalizing x with
  | nil => rfl
  | cons a terms ih =>
    have ih {y : Number} (sum : f.Accumulated y) :=
      ih (fun b member => holds b (List.mem_cons_of_mem a member))
        (fun b member => zero b (List.mem_cons_of_mem a member)) sum
    rw [List.foldl_cons]
    cases kept : keep a with
    | true =>
      rw [List.filter_cons_of_pos kept, List.foldl_cons]
      exact ih (sum.add digits (holds a List.mem_cons_self))
    | false =>
      rw [List.filter_cons_of_neg (by simp [kept]), sum.add_nothing (zero a List.mem_cons_self kept)]
      exact ih sum

theorem foldl_nan (undefined : ∃ a ∈ terms, term a = .nan) (x : Number) :
    terms.foldl (fun sum a => f.add sum (term a)) x = .nan := by
  obtain ⟨a, member, undefined⟩ := undefined
  obtain ⟨before, after, rfl⟩ := List.append_of_mem member
  rw [List.foldl_append, List.foldl_cons, undefined, add_nan]
  clear member
  induction after with
  | nil => rfl
  | cons b after ih => exact ih

end
end Format
end TileComposite
