import TileComposite.Proofs.Number.Points

/-! Order under rounding to a binary format. A number of the format that is no point of the grid
around a rational is so small that a point of the grid separates the two. So rounding does not
cross a number of the format, no number of the format is nearer than the one it gives, and it
does not change the order of rationals. -/
namespace TileComposite.Format
variable {f : Format} {q r : Rat}

theorem Point.neg (point : f.Point r) : f.Point (-r) := by
  obtain ⟨n, e, rfl, few, coarse, inside⟩ := point
  refine ⟨-n, e, by push_cast; ring, by rwa [abs_neg], coarse, by rwa [abs_neg]⟩

/-- Between numbers of the format there is no room beyond its largest one. -/
theorem abs_le_of_between {low high : Rat} (first : f.Point low) (last : f.Point high)
    (above : low ≤ q) (below : q ≤ high) : |q| ≤ f.largest := by
  have lower := (abs_le.mp (abs_le_largest first.holds)).1
  have upper := (abs_le.mp (abs_le_largest last.holds)).2
  exact abs_le.mpr ⟨lower.trans above, below.trans upper⟩

/-- Between a number of the format and a rational there is a point of the grid around the
rational. -/
theorem exists_multiple_between (digits : 0 < f.digits) (point : f.Point r) (q : Rat) :
    ∃ k : Int, min r q ≤ k * f.spacing q ∧ k * f.spacing q ≤ max r q := by
  obtain ⟨n, e, value, few, coarse, -⟩ := point
  obtain fine | small := le_or_gt (f.gridExponent q) e
  · obtain ⟨k, multiple⟩ := exists_multiple fine n
    refine ⟨k, ?_⟩
    rw [← value.trans multiple]
    exact ⟨min_le_left r q, le_max_left r q⟩
  -- The first number with the exponent of the rational lies between them.
  · have normal : (2 : Rat) ^ f.minExponent < f.spacing q * 2 ^ (f.digits - 1 : Int) := by
      rw [spacing, ← zpow_add₀ two_ne_zero]
      refine zpow_lt_zpow_right₀ one_lt_two ?_
      unfold leastExponent at coarse
      omega
    have above : f.spacing q * 2 ^ (f.digits - 1 : Int) ≤ |q| :=
      (le_max_iff.mp (spacing_mul_le q)).resolve_right normal.not_ge
    have below : |r| < f.spacing q * 2 ^ (f.digits - 1 : Int) := by
      rw [value, spacing, ← zpow_add₀ two_ne_zero]
      exact (abs_multiple_lt few).trans_le (zpow_le_zpow_right₀ one_le_two (by omega))
    have first : f.spacing q * 2 ^ (f.digits - 1 : Int) =
        (2 ^ (f.digits - 1) : Int) * f.spacing q := by
      have exponent : ((f.digits - 1 : Nat) : Int) = f.digits - 1 := by omega
      rw [← exponent, zpow_natCast, mul_comm]
      push_cast
      rfl
    rw [first] at above below
    obtain ⟨lower, upper⟩ := abs_lt.mp below
    obtain nonneg | nonpos := le_total 0 q
    · rw [abs_of_nonneg nonneg] at above
      exact ⟨_, (min_le_left r q).trans upper.le, above.trans (le_max_right r q)⟩
    · rw [abs_of_nonpos nonpos] at above
      refine ⟨-2 ^ (f.digits - 1), (min_le_right r q).trans ?_, le_trans ?_ (le_max_left r q)⟩ <;>
      · push_cast at above lower ⊢
        linarith

/-- Rounding does not cross a number of the format. -/
theorem le_gridPoint (digits : 0 < f.digits) (point : f.Point r) (le : r ≤ q) :
    r ≤ f.gridPoint q := by
  obtain ⟨k, above, below⟩ := exists_multiple_between digits point q
  rw [min_eq_left le] at above
  rw [max_eq_right le] at below
  have positive := f.spacing_pos q
  have whole : k ≤ nearestInt (q / f.spacing q) :=
    (nearestInt_spec _).le_of_le ((le_div_iff₀ positive).mpr below)
  have whole' : (k : Rat) ≤ nearestInt (q / f.spacing q) := by exact_mod_cast whole
  exact above.trans (mul_le_mul_of_nonneg_right whole' positive.le)

theorem gridPoint_le (digits : 0 < f.digits) (point : f.Point r) (le : q ≤ r) :
    f.gridPoint q ≤ r := by
  obtain ⟨k, above, below⟩ := exists_multiple_between digits point q
  rw [min_eq_right le] at above
  rw [max_eq_left le] at below
  have positive := f.spacing_pos q
  have whole : nearestInt (q / f.spacing q) ≤ k :=
    (nearestInt_spec _).ge_of_ge ((div_le_iff₀ positive).mpr above)
  have whole' : (nearestInt (q / f.spacing q) : Rat) ≤ k := by exact_mod_cast whole
  exact (mul_le_mul_of_nonneg_right whole' positive.le).trans below

/-- No number of the format is nearer than the one that rounding gives. -/
theorem gridPoint_nearest (digits : 0 < f.digits) (point : f.Point r) (q : Rat) :
    |q - f.gridPoint q| ≤ |q - r| := by
  obtain ⟨k, above, below⟩ := exists_multiple_between digits point q
  have positive := f.spacing_pos q
  have scaled (n : Int) : |q - n * f.spacing q| = |q / f.spacing q - n| * f.spacing q := by
    rw [← abs_of_pos positive, ← abs_mul, abs_of_pos positive, sub_mul,
      div_mul_cancel₀ _ positive.ne']
  calc |q - f.gridPoint q|
      = |q / f.spacing q - nearestInt (q / f.spacing q)| * f.spacing q := scaled _
    _ ≤ |q / f.spacing q - k| * f.spacing q :=
      mul_le_mul_of_nonneg_right ((nearestInt_spec _).nearest k) positive.le
    _ = |q - k * f.spacing q| := (scaled k).symm
    _ ≤ |q - r| := by
      obtain le | le := le_total r q
      · rw [min_eq_left le] at above
        rw [max_eq_right le] at below
        rw [abs_of_nonneg (by linarith), abs_of_nonneg (by linarith)]
        linarith
      · rw [min_eq_right le] at above
        rw [max_eq_left le] at below
        rw [abs_of_nonpos (by linarith), abs_of_nonpos (by linarith)]
        linarith

/-- A greater rational is not rounded to a lesser number of the format. -/
theorem gridPoint_mono (digits : 0 < f.digits) (first : f.Point (f.gridPoint q))
    (second : f.Point (f.gridPoint r)) (le : q ≤ r) : f.gridPoint q ≤ f.gridPoint r := by
  by_contra greater
  have crossed : f.gridPoint r < f.gridPoint q := not_le.mp greater
  -- The numbers are on the wrong sides, so that each rational is as near to both.
  have below : f.gridPoint r < q := by
    by_contra reached
    exact greater (gridPoint_le digits second (not_lt.mp reached))
  have above : r < f.gridPoint q := by
    by_contra reached
    exact greater (le_gridPoint digits first (not_lt.mp reached))
  have nearFirst := gridPoint_nearest digits second q
  have nearSecond := gridPoint_nearest digits first r
  rw [abs_of_neg (by linarith), abs_of_pos (by linarith)] at nearFirst
  rw [abs_of_pos (by linarith), abs_of_neg (by linarith)] at nearSecond
  have same : q = r := by linarith
  rw [same] at crossed
  exact lt_irrefl _ crossed

end TileComposite.Format
