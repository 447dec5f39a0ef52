import TileComposite.Pixel.Buffer
import TileComposite.Proofs.Number.Confined
import TileComposite.Proofs.Number.Rounding

/-! Pixels of integer types. Their elements are whole numbers of a range, and casting a
number into a part of that range rounds to the nearest whole number and clamps it, without
wrapping around. -/
namespace TileComposite

theorem Number.lt_ofInt {m n : Int} : (ofInt m).lt (ofInt n) = decide (m < n) := by
  rw [lt_of_values rfl rfl]
  simp only [Int.cast_lt]

namespace ElementDomain
variable {x : Number} {bits : Nat} {low high : Int}

theorem holds_ofInt_iff {n : Int} :
    (whole bits low high).Holds (.ofInt n) ↔ low ≤ n ∧ n ≤ high := by
  change (n : Rat) = (n : Rat).floor ∧ low ≤ (n : Rat).floor ∧ (n : Rat).floor ≤ high ↔ _
  rw [Rat.floor_intCast]
  exact and_iff_right rfl

theorem holds_ofInt {n : Int} (lower : low ≤ n) (upper : n ≤ high) :
    (whole bits low high).Holds (.ofInt n) :=
  holds_ofInt_iff.mpr ⟨lower, upper⟩

theorem exists_of_holds (holds : (whole bits low high).Holds x) :
    ∃ n : Int, x = .ofInt n ∧ low ≤ n ∧ n ≤ high := by
  cases x with
  | nan | infinite | negZero => exact holds.elim
  | finite q => exact ⟨q.floor, congrArg Number.finite holds.1, holds.2⟩

theorem ofNumber_ofInt {n : Int} (lower : low ≤ n) (upper : n ≤ high) :
    (whole bits low high).ofNumber (.ofInt n) = .ofInt n := by
  have floor (n : Int) : (n : Rat).floor = n := Rat.floor_intCast n
  have whole : (if (n : Rat) < 0 then -(-(n : Rat)).floor else (n : Rat).floor) = n := by
    rw [← Int.cast_neg, floor, floor, neg_neg, ite_self]
  change Number.ofInt (low + ((if (n : Rat) < 0 then -(-(n : Rat)).floor else (n : Rat).floor)
    - low) % (high - low + 1)) = _
  rw [whole, Int.emod_eq_of_lt (by omega) (by omega), add_sub_cancel]

/-- A whole number of the range is stored as it is, a negative zero as zero. -/
theorem ofNumber_of_value {n : Int} (value : x.toRat? = some (n : Rat)) (lower : low ≤ n)
    (upper : n ≤ high) : (whole bits low high).ofNumber x = .ofInt n := by
  cases x with
  | nan | infinite => cases value
  | negZero =>
    have zero : (n : Rat) = 0 := (Option.some.inj value).symm
    rw [Int.cast_eq_zero.mp zero]
    rfl
  | finite q =>
    obtain rfl : q = n := Option.some.inj value
    exact ofNumber_ofInt lower upper

end ElementDomain

namespace PixelType
variable {p : PixelType} {x : Number} {q : Rat} {bits : Nat} {low high first last : Int}

/-- Rounding and then clamping is never undone by narrowing. -/
theorem cast_nearest (domain : p.element.domain = .whole bits low high)
    (lower : low ≤ first) (ordered : first ≤ last) (upper : last ≤ high)
    (defined : x.isNaN = false) :
    (x.rounded.clamp (.ofInt first) (.ofInt last)).toRat? =
        some (nearestInt (x.confined first last) : Rat) ∧
      p.cast (.ofInt first, .ofInt last) x = .ofInt (nearestInt (x.confined first last)) := by
  have ordered' : (first : Rat) ≤ last := by exact_mod_cast ordered
  have integer : p.isInteger = true := by
    unfold isInteger
    rw [domain]
  have rounded : x.rounded.isNaN = false := by
    obtain ⟨negative, rfl⟩ | ⟨q, value⟩ := Number.infinite_or_value defined
    · rfl
    · exact Number.isNaN_of_value (Number.rounded_value value)
  have clamped := Number.clamp_value rounded ordered'
  rw [Number.confined_rounded defined] at clamped
  obtain ⟨above, below⟩ := Number.confined_mem ordered' x
  have above := (nearestInt_spec _).le_of_le above
  have below := (nearestInt_spec _).ge_of_ge below
  refine ⟨clamped, ?_⟩
  unfold cast
  rw [integer, domain, if_pos rfl]
  exact ElementDomain.ofNumber_of_value clamped (lower.trans above) (below.trans upper)

/-- A cast to an integer type is the nearest whole number, moved into the range. -/
theorem cast_whole (domain : p.element.domain = .whole bits low high) (lower : low ≤ first)
    (ordered : first ≤ last) (upper : last ≤ high) (value : x.toRat? = some q) :
    p.cast (.ofInt first, .ofInt last) x = .ofInt (max first (min last (nearestInt q))) := by
  rw [(cast_nearest domain lower ordered upper (Number.isNaN_of_value value)).2,
    Number.confined_of_value value, nearestInt_confined]
  congr 1
  omega

end PixelType

namespace Buffer
variable {b : Buffer} {bits : Nat} {low high : Int}

/-- The whole part of the element at an offset. -/
def whole (b : Buffer) (offset : Nat) : Int := ((b.get offset).toRat?.getD 0).floor

theorem holds_get (wellFormed : b.WellFormed) {offset : Nat} (inside : offset < volume b.shape) :
    b.element.domain.Holds (b.get offset) := by
  have bound : offset < b.data.size := wellFormed.size_eq ▸ inside
  have got : b.get offset = b.data[offset] := by
    rw [get, Array.getElem?_eq_getElem bound]
    rfl
  rw [got]
  exact wellFormed.holds b.data[offset] (Array.getElem_mem bound)

/-- The elements of an integer buffer are whole numbers of its range. -/
theorem get_whole (wellFormed : b.WellFormed) (domain : b.element.domain = .whole bits low high)
    {offset : Nat} (inside : offset < volume b.shape) :
    b.get offset = .ofInt (b.whole offset) ∧ low ≤ b.whole offset ∧ b.whole offset ≤ high := by
  obtain ⟨n, element, ranged⟩ := ElementDomain.exists_of_holds (domain ▸ holds_get wellFormed inside)
  have same : b.whole offset = n := by
    rw [whole, element]
    exact Rat.floor_intCast n
  rw [same]
  exact ⟨element, ranged⟩

end Buffer
end TileComposite
