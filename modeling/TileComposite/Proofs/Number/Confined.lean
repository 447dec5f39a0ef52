import TileComposite.Proofs.Number.Nearest

/-! Numbers moved into a range. A number has one place in a range, whether it is finite or
infinite. Clamping moves it there, in the order of the numbers, and in a range of whole numbers it
does not matter whether rounding or clamping comes first. -/
namespace TileComposite

namespace Number
variable {x y : Number} {q r low high : Rat}

/-- Where a number is in a range. -/
def confined (low high : Rat) : Number → Rat
  | infinite true => low
  | infinite false => high
  | x => min high (max low (x.toRat?.getD 0))

theorem infinite_or_value (defined : x.isNaN = false) :
    (∃ negative, x = infinite negative) ∨ ∃ q, x.toRat? = some q := by
  cases x with
  | nan => cases defined
  | infinite negative => exact .inl ⟨negative, rfl⟩
  | negZero => exact .inr ⟨0, rfl⟩
  | finite q => exact .inr ⟨q, rfl⟩

theorem isNaN_of_value (value : x.toRat? = some q) : x.isNaN = false := by
  cases x with
  | nan => cases value
  | _ => rfl

theorem lt_of_values (first : x.toRat? = some q) (second : y.toRat? = some r) :
    x.lt y = decide (q < r) := by
  cases x <;> cases first <;> cases y <;> cases second <;> rfl

theorem confined_of_value (value : x.toRat? = some q) :
    x.confined low high = min high (max low q) := by
  cases x <;> cases value <;> rfl

theorem atLeast_value (value : x.toRat? = some q) :
    (x.atLeast (finite low)).toRat? = some (max low q) := by
  rw [atLeast, isNaN_of_value value, lt_of_values value rfl]
  change (if decide (q < low) then finite low else x).toRat? = _
  by_cases below : q < low
  · rw [if_pos (decide_eq_true below), max_eq_left below.le]
    rfl
  · rw [if_neg (by simpa using below), max_eq_right (not_lt.mp below)]
    exact value

theorem atMost_value (value : x.toRat? = some q) :
    (x.atMost (finite high)).toRat? = some (min high q) := by
  rw [atMost, isNaN_of_value value, lt_of_values rfl value]
  change (if decide (high < q) then finite high else x).toRat? = _
  by_cases above : high < q
  · rw [if_pos (decide_eq_true above), min_eq_left above.le]
    rfl
  · rw [if_neg (by simpa using above), min_eq_right (not_lt.mp above)]
    exact value

/-- Clamping moves a number to its place in the range. -/
theorem clamp_value (defined : x.isNaN = false) (ordered : low ≤ high) :
    (x.clamp (finite low) (finite high)).toRat? = some (x.confined low high) := by
  obtain ⟨negative, rfl⟩ | ⟨q, value⟩ := infinite_or_value defined
  · cases negative with
    | false => rfl
    | true => exact (atMost_value rfl).trans (congrArg some (min_eq_right ordered))
  · rw [confined_of_value value]
    exact atMost_value (atLeast_value value)

theorem confined_mem (ordered : low ≤ high) (x : Number) :
    low ≤ x.confined low high ∧ x.confined low high ≤ high := by
  unfold confined
  split
  · exact ⟨le_rfl, ordered⟩
  · exact ⟨ordered, le_rfl⟩
  · exact ⟨le_min ordered (le_max_left low _), min_le_left high _⟩

theorem confined_mono (first : x.isNaN = false) (second : y.isNaN = false) (le : ¬y.lt x)
    (ordered : low ≤ high) : x.confined low high ≤ y.confined low high := by
  obtain ⟨negative, rfl⟩ | ⟨q, value⟩ := infinite_or_value first
  · cases negative with
    | true => exact (confined_mem ordered y).1
    | false =>
      cases y with
      | nan => cases second
      | negZero | finite => exact absurd rfl le
      | infinite negative =>
        cases negative with
        | true => exact absurd rfl le
        | false => exact le_rfl
  · obtain ⟨negative, rfl⟩ | ⟨r, value'⟩ := infinite_or_value second
    · cases negative with
      | false => exact (confined_mem ordered x).2
      | true =>
        refine absurd ?_ le
        cases x <;> cases value <;> rfl
    · rw [lt_of_values value' value, decide_eq_true_eq, not_lt] at le
      rw [confined_of_value value, confined_of_value value']
      exact min_le_min_left high (max_le_max_left low le)

/-- Rounding gives the nearest whole number, or a negative zero for it. -/
theorem rounded_value (value : x.toRat? = some q) :
    x.rounded.toRat? = some (nearestInt q : Rat) := by
  cases x with
  | nan | infinite => cases value
  | negZero =>
    cases value
    exact congrArg (fun n : Int => some (n : Rat)) (nearestInt_intCast 0).symm
  | finite =>
    cases value
    change (if nearestInt q = 0 then zero (q < 0) else ofInt (nearestInt q)).toRat? = _
    split
    · rename_i isZero
      rw [isZero]
      cases decide (q < 0) <;> rfl
    · rfl

/-- Whether rounding or moving into a range of whole numbers comes first does not matter. -/
theorem confined_rounded {first last : Int} (defined : x.isNaN = false) :
    x.rounded.confined first last = nearestInt (x.confined first last) := by
  obtain ⟨negative, rfl⟩ | ⟨q, value⟩ := infinite_or_value defined
  · cases negative with
    | true => exact congrArg Int.cast (nearestInt_intCast first).symm
    | false => exact congrArg Int.cast (nearestInt_intCast last).symm
  · rw [confined_of_value value, confined_of_value (rounded_value value), nearestInt_confined]
    push_cast
    rfl

end Number

end TileComposite
