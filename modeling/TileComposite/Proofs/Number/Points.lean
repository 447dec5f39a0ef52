import TileComposite.Proofs.Number.Rounding

/-! The numbers that a binary format holds: whole multiples of powers of two that have no more
digits than the format, from its least spacing up to its largest number. Rounding ends in one of
them, a wider format holds them too, and the product of two is exact where there are digits
enough for both. -/
namespace TileComposite.Format
variable {f g : Format} {q r : Rat} {x : Number}

/-- The exponent of the spacing below the least normal number. -/
def leastExponent (f : Format) : Int := f.minExponent - f.digits + 1

/-- A rational that needs no rounding. -/
def Point (f : Format) (q : Rat) : Prop :=
  ∃ n e : Int, q = n * 2 ^ e ∧ |n| < 2 ^ f.digits ∧ f.leastExponent ≤ e ∧ |q| ≤ f.largest

theorem leastExponent_le (q : Rat) : f.leastExponent ≤ f.gridExponent q := by
  unfold leastExponent
  rcases eq_or_ne q 0 with rfl | nonzero
  · rw [gridExponent_zero]
  · rw [gridExponent_of_pos (abs_pos.mpr nonzero)]
    omega

theorem abs_multiple_lt {n e : Int} {digits : Nat} (few : |n| < 2 ^ digits) :
    |(n * 2 ^ e : Rat)| < 2 ^ (e + digits) := by
  have few' : |(n : Rat)| < 2 ^ digits := by exact_mod_cast few
  have positive : (0 : Rat) < 2 ^ e := by positivity
  rw [abs_mul, abs_of_pos positive, zpow_add₀ two_ne_zero, zpow_natCast, mul_comm]
  gcongr

/-- A multiple with few digits is on the grid around it. -/
theorem gridPoint_of_few {n e : Int} (few : |n| < 2 ^ f.digits) (coarse : f.leastExponent ≤ e) :
    f.gridPoint (n * 2 ^ e) = n * 2 ^ e := by
  refine gridPoint_of_coarse ?_ rfl
  have normal : f.minExponent < e + f.digits := by
    unfold leastExponent at coarse
    omega
  have := gridExponent_le (abs_multiple_lt few) normal
  omega

theorem round_point (point : f.Point q) : f.round q = .finite q := by
  obtain ⟨n, e, rfl, few, coarse, inside⟩ := point
  obtain ⟨lower, upper⟩ := abs_le.mp inside
  rw [round_eq, gridPoint_of_few few coarse, if_neg (not_lt.mpr upper), if_neg (not_lt.mpr lower)]
  split
  · rename_i zero
    rw [zero]
    rfl
  · rfl

theorem Point.holds (point : f.Point q) : f.Holds (.finite q) := round_point point

/-! ### Rounding gives points -/

/-- In units of the spacing around it a rational has no more digits than the format. -/
theorem abs_div_spacing_lt (q : Rat) : |q / f.spacing q| < 2 ^ f.digits := by
  rcases eq_or_ne q 0 with rfl | nonzero
  · rw [zero_div, abs_zero]
    positivity
  · have positive := abs_pos.mpr nonzero
    have below : |q| < 2 ^ (Int.log 2 |q| + 1) := Int.lt_zpow_succ_log_self Nat.one_lt_two _
    rw [abs_div, abs_of_pos (f.spacing_pos q), div_lt_iff₀ (f.spacing_pos q), spacing,
      gridExponent_of_pos positive, ← zpow_natCast, ← zpow_add₀ two_ne_zero]
    refine below.trans_le (zpow_le_zpow_right₀ one_le_two ?_)
    omega

theorem abs_nearestInt_le {bound : Int} (inside : |q| < bound) : |nearestInt q| ≤ bound := by
  have near := abs_le.mp (nearestInt_spec q).near
  obtain ⟨lower, upper⟩ := abs_lt.mp inside
  have above : (nearestInt q : Rat) < (bound + 1 : Int) := by push_cast; linarith
  have below : ((-bound - 1 : Int) : Rat) < nearestInt q := by push_cast; linarith
  have above' : nearestInt q < bound + 1 := by exact_mod_cast above
  have below' : -bound - 1 < nearestInt q := by exact_mod_cast below
  exact abs_le.mpr ⟨by omega, by omega⟩

/-- The point next to a rational may be the power of two that has one digit more. -/
theorem point_gridPoint (digits : 0 < f.digits) (inside : |f.gridPoint q| ≤ f.largest) :
    f.Point (f.gridPoint q) := by
  have least := f.leastExponent_le q
  have bound : |nearestInt (q / f.spacing q)| ≤ 2 ^ f.digits := by
    refine abs_nearestInt_le ?_
    exact_mod_cast abs_div_spacing_lt (f := f) q
  unfold gridPoint at inside ⊢
  generalize nearestInt (q / f.spacing q) = n at bound inside ⊢
  rcases bound.lt_or_eq with few | full
  · exact ⟨n, f.gridExponent q, rfl, few, least, inside⟩
  -- Rounded up to a power of two: one unit of a coarser grid.
  · refine ⟨n.sign, f.gridExponent q + f.digits, ?_, ?_, by omega, inside⟩
    · have power : n = n.sign * 2 ^ f.digits := by rw [← full, Int.sign_mul_abs]
      rw [spacing, zpow_add₀ two_ne_zero, zpow_natCast]
      conv_lhs => rw [power]
      push_cast
      ring
    · have short : |n.sign| ≤ 1 := by
        rcases Int.sign_trichotomy n with h | h | h <;> simp [h]
      exact short.trans_lt (one_lt_pow₀ one_lt_two digits.ne')

theorem largest_nonneg (f : Format) : 0 ≤ f.largest :=
  mul_nonneg (Nat.cast_nonneg _) (zpow_nonneg zero_le_two _)

theorem point_zero : f.Point 0 :=
  ⟨0, f.leastExponent, by simp, by simp, le_rfl, by simpa using f.largest_nonneg⟩

theorem holds_zero (negative : Bool) : f.Holds (.zero negative) := by
  cases negative with
  | true => rfl
  | false => exact point_zero.holds

/-- Rounding ends in a number of the format. -/
theorem holds_round (digits : 0 < f.digits) (q : Rat) : f.Holds (f.round q) := by
  rw [round_eq]
  split
  · exact holds_zero _
  · split
    · rfl
    · split
      · rfl
      · exact (point_gridPoint digits (abs_le.mpr ⟨not_lt.mp ‹_›, not_lt.mp ‹_›⟩)).holds

theorem holds_ofNumber (digits : 0 < f.digits) (x : Number) : f.Holds (f.ofNumber x) := by
  cases x with
  | nan | infinite | negZero => rfl
  | finite q => exact holds_round digits q

/-- What a format holds is on its own grid, inside of its range. -/
theorem gridPoint_of_holds (holds : f.Holds (.finite q)) :
    f.gridPoint q = q ∧ |f.gridPoint q| ≤ f.largest := by
  change f.round q = .finite q at holds
  rw [round_eq] at holds
  split at holds
  · rename_i zero
    rw [zero, abs_zero]
    cases negative : decide (q < 0) <;> rw [negative] at holds <;> cases holds
    exact ⟨rfl, f.largest_nonneg⟩
  · split at holds
    · cases holds
    · split at holds
      · cases holds
      · exact ⟨Number.finite.inj holds, abs_le.mpr ⟨not_lt.mp ‹_›, not_lt.mp ‹_›⟩⟩

theorem abs_le_largest (holds : f.Holds (.finite q)) : |q| ≤ f.largest := by
  obtain ⟨kept, inside⟩ := gridPoint_of_holds holds
  rwa [kept] at inside

theorem holds_finite_iff (digits : 0 < f.digits) : f.Holds (.finite q) ↔ f.Point q := by
  refine ⟨fun holds => ?_, Point.holds⟩
  obtain ⟨kept, inside⟩ := gridPoint_of_holds holds
  rw [← kept]
  exact point_gridPoint digits inside

/-! ### Formats with room for others -/

theorem Point.mono (digits : f.digits ≤ g.digits) (least : g.leastExponent ≤ f.leastExponent)
    (largest : f.largest ≤ g.largest) (point : f.Point q) : g.Point q := by
  obtain ⟨n, e, value, few, coarse, inside⟩ := point
  exact ⟨n, e, value, few.trans_le (pow_le_pow_right₀ one_le_two digits), least.trans coarse,
    inside.trans largest⟩

/-- A format with twice the digits and twice the exponents holds products. -/
theorem Point.mul (digits : f.digits + f.digits ≤ g.digits)
    (least : g.leastExponent ≤ f.leastExponent + f.leastExponent)
    (largest : f.largest * f.largest ≤ g.largest) (first : f.Point q) (second : f.Point r) :
    g.Point (q * r) := by
  obtain ⟨m, d, rfl, fewFirst, coarseFirst, insideFirst⟩ := first
  obtain ⟨n, e, rfl, fewSecond, coarseSecond, insideSecond⟩ := second
  refine ⟨m * n, d + e, ?_, ?_, by omega, ?_⟩
  · rw [zpow_add₀ two_ne_zero]
    push_cast
    ring
  · calc |m * n| = |m| * |n| := abs_mul m n
      _ < 2 ^ f.digits * 2 ^ f.digits := mul_lt_mul'' fewFirst fewSecond (abs_nonneg m) (abs_nonneg n)
      _ ≤ 2 ^ g.digits := by
        rw [← pow_add]
        exact pow_le_pow_right₀ one_le_two digits
  · rw [abs_mul]
    exact (mul_le_mul insideFirst insideSecond (abs_nonneg _) f.largest_nonneg).trans largest

/-! ### Precisions -/

theorem Point.single (point : binary16.Point q) : binary32.Point q :=
  point.mono (by decide) (by decide) (by decide +kernel)

theorem Point.double (point : binary32.Point q) : binary64.Point q :=
  point.mono (by decide) (by decide) (by decide +kernel)

theorem Holds.single (holds : binary16.Holds x) : binary32.Holds x := by
  cases x with
  | nan | infinite | negZero => rfl
  | finite => exact ((holds_finite_iff (by decide)).mp holds).single.holds

theorem Holds.double (holds : binary32.Holds x) : binary64.Holds x := by
  cases x with
  | nan | infinite | negZero => rfl
  | finite => exact ((holds_finite_iff (by decide)).mp holds).double.holds

/-- The product of two numbers of single precision is exact in double precision. -/
theorem Point.double_mul (first : binary32.Point q) (second : binary32.Point r) :
    binary64.Point (q * r) :=
  first.mul (by decide) (by decide) (by decide +kernel) second

/-- Whole numbers without more digits than the format are on its grid. -/
theorem point_whole {n : Int} (few : |n| < 2 ^ f.digits) (fine : f.leastExponent ≤ 0)
    (room : (2 : Rat) ^ f.digits ≤ f.largest) : f.Point n := by
  have few' : |(n : Rat)| < 2 ^ f.digits := by exact_mod_cast few
  exact ⟨n, 0, by rw [zpow_zero, mul_one], few, fine, few'.le.trans room⟩

theorem round_whole {n : Int} (few : |n| < 2 ^ 53) : binary64.round n = .ofInt n :=
  round_point (point_whole few (by decide) (by decide +kernel))

/-! ### Formats of elements -/

/-- The formats of elements. -/
def Standard (f : Format) : Prop := f = binary16 ∨ f = binary32 ∨ f = binary64

theorem Standard.digits_pos (standard : f.Standard) : 0 < f.digits := by
  obtain rfl | rfl | rfl := standard <;> decide

theorem Standard.holds_whole (standard : f.Standard) {n : Int} (few : |n| < 2 ^ f.digits) :
    f.Holds (.ofInt n) := by
  refine (point_whole few ?_ ?_).holds
  · obtain rfl | rfl | rfl := standard <;> decide
  · obtain rfl | rfl | rfl := standard <;> decide +kernel

theorem Standard.point_largest (standard : f.Standard) : f.Point f.largest := by
  refine (holds_finite_iff standard.digits_pos).mp ?_
  obtain rfl | rfl | rfl := standard <;> decide +kernel

/-- With one digit more a whole number may lie between two numbers of the format. -/
theorem Standard.not_holds_whole (standard : f.Standard) :
    ¬f.Holds (.ofInt (2 ^ f.digits + 1)) := by
  obtain rfl | rfl | rfl := standard <;> decide +kernel

/-- A format with more digits holds what one with fewer does. -/
theorem Standard.holds_wider (narrow : f.Standard) (wide : g.Standard)
    (digits : f.digits ≤ g.digits) (holds : f.Holds x) : g.Holds x := by
  obtain rfl | rfl | rfl := narrow
  · obtain rfl | rfl | rfl := wide
    · exact holds
    · exact holds.single
    · exact holds.single.double
  · obtain rfl | rfl | rfl := wide
    · exact absurd digits (by decide)
    · exact holds
    · exact holds.double
  · obtain rfl | rfl | rfl := wide
    · exact absurd digits (by decide)
    · exact absurd digits (by decide)
    · exact holds

end TileComposite.Format
