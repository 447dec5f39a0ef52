import TileComposite.Proofs.Composite.Samples
import TileComposite.Proofs.Number.Accumulation

/-! A tile averaged alone. Where its alpha is positive and not more than full coverage the
composite has its numbers: the product of a weight and a colour is exact in the accumulator, so
that dividing by the weight gives back the colour, and casting keeps it. Where its alpha is not
positive the composite is zero. -/
namespace TileComposite
open Format (Point)

/-! ### Casts of elements -/

namespace Number
variable {a b v : Rat}

theorem clamp_finite (lower : a ≤ v) (upper : v ≤ b) :
    (finite v).clamp (finite a) (finite b) = finite v := by
  have floor : (finite v).atLeast (finite a) = finite v := by
    change (if decide (v < a) then finite a else finite v) = _
    rw [if_neg (by simpa using lower)]
  rw [clamp, floor]
  change (if decide (b < v) then finite b else finite v) = _
  rw [if_neg (by simpa using upper)]

/-- What is not above zero is clamped to a range that begins there. -/
theorem clamp_nonpos {x : Number} (below : x.lt (finite 0) ∨ x = finite 0) (nonneg : 0 ≤ b) :
    x.clamp (finite 0) (finite b) = finite 0 := by
  have floor : x.atLeast (finite 0) = finite 0 := by
    rcases below with negative | rfl
    · have defined : ¬(x.isNaN || (finite 0).isNaN) = true := by
        cases x with
        | nan => cases negative
        | _ => exact nofun
      rw [atLeast, if_neg defined, if_pos negative]
    · rfl
  rw [clamp, floor]
  exact clamp_finite le_rfl nonneg

theorem finite_of_between {x : Number} (positive : lt 0 x) (within : ¬(finite b).lt x) :
    ∃ a, x = finite a ∧ 0 < a := by
  cases x with
  | nan | negZero => cases positive
  | infinite negative =>
    cases negative with
    | true => cases positive
    | false => exact absurd rfl within
  | finite a => exact ⟨a, rfl, of_decide_eq_true positive⟩

theorem nonpos_cases {x : Number} (defined : x.isNaN = false) (nonpos : ¬lt 0 x) :
    x.lt 0 ∨ x = 0 ∨ x = negZero := by
  cases x with
  | nan => cases defined
  | negZero => exact .inr (.inr rfl)
  | infinite negative =>
    cases negative with
    | true => exact .inl rfl
    | false => exact absurd rfl nonpos
  | finite q =>
    have below : q ≤ 0 := not_lt.mp fun above => nonpos (decide_eq_true above)
    rcases below.lt_or_eq with negative | rfl
    · exact .inl (decide_eq_true negative)
    · exact .inr (.inl rfl)

end Number

namespace PixelType
variable {p : PixelType} {x : Number} {v : Rat}

theorem cast_value (holds : p.element.domain.Holds (.finite v)) :
    p.cast p.valueRange (.finite v) = .finite v := by
  have inside : (Number.finite v).clamp p.valueRange.1 p.valueRange.2 = .finite v := by
    unfold valueRange
    cases domain : p.element.domain with
    | whole bits low high =>
      rw [domain] at holds
      obtain ⟨n, same, lower, upper⟩ := ElementDomain.exists_of_holds holds
      cases same
      exact Number.clamp_finite (by exact_mod_cast lower) (by exact_mod_cast upper)
    | floating f =>
      rw [domain] at holds
      obtain ⟨lower, upper⟩ := abs_le.mp (Format.abs_le_largest holds)
      exact Number.clamp_finite lower upper
  rw [cast_element holds, inside, ElementDomain.ofNumber_of_holds holds]

/-- Alpha begins at zero. -/
theorem alphaRange_eq (p : PixelType) :
    ∃ top : Rat, p.alphaRange = (.finite 0, .finite top) ∧ 0 ≤ top := by
  unfold alphaRange
  cases domain : p.element.domain with
  | whole bits low high =>
    obtain ⟨-, highest, -⟩ := ElementType.range_of_domain domain
    exact ⟨high, rfl, by exact_mod_cast highest⟩
  | floating f => exact ⟨1, rfl, zero_le_one⟩

theorem cast_alpha (holds : p.element.domain.Holds (.finite v)) (nonneg : 0 ≤ v)
    (within : ¬p.alphaRange.2.lt (.finite v)) :
    p.cast p.alphaRange (.finite v) = .finite v := by
  obtain ⟨top, range, -⟩ := p.alphaRange_eq
  rw [range] at within ⊢
  have upper : v ≤ top := not_lt.mp fun above => within (decide_eq_true above)
  rw [cast_element holds]
  dsimp only
  rw [Number.clamp_finite nonneg upper, ElementDomain.ofNumber_of_holds holds]

theorem cast_alpha_nonpos (holds : p.element.domain.Holds x) (below : x.lt 0 ∨ x = 0) :
    p.cast p.alphaRange x = 0 := by
  obtain ⟨top, range, nonneg⟩ := p.alphaRange_eq
  rw [range, cast_element holds, Number.clamp_nonpos below nonneg]
  exact ElementDomain.ofNumber_of_holds p.element.holds_zero

end PixelType

/-! ### One sample -/

namespace Composite
variable {weight colour : Number} {a v : Rat}

theorem coverage_single (holds : binary64.Holds weight) (colour : Number) :
    coverage [⟨weight, colour⟩] = if weight = .negZero then 0 else weight := by
  cases weight with
  | nan | infinite => rfl
  | negZero => exact Format.round_point Format.point_zero
  | finite q => exact (congrArg binary64.round (zero_add q)).trans holds

/-- Nothing is lost in the product of a weight and a colour, nor in the quotient. -/
theorem mean_single (positive : 0 < a) (weight : binary32.Point a)
    (value : colour.toRat? = some v) (point : binary32.Point v) :
    mean [⟨.finite a, colour⟩] = .finite v := by
  have exact_product : binary64.Point (a * v) := weight.double_mul point
  have total : coverage [⟨.finite a, colour⟩] = .finite a :=
    coverage_single weight.double.holds colour
  have sum : weightedSum [⟨.finite a, colour⟩] = .finite (a * v) :=
    Format.zero_add_value (Format.mul_value rfl value exact_product) exact_product
  have covered : Number.lt 0 (.finite a) = true := decide_eq_true positive
  have upward : decide (a < 0) = false := decide_eq_false (not_lt.mpr positive.le)
  rw [mean, total, sum, if_pos covered]
  change (if a = 0 then _ else if a * v = 0 then
    Number.zero (decide (a * v < 0) ^^ decide (a < 0)) else binary64.round (a * v / a)) = _
  rw [if_neg positive.ne', mul_div_cancel_left₀ v positive.ne', upward]
  -- The quotient of a product that vanished is a zero, not rounded at all.
  split
  · rename_i zero
    obtain rfl : v = 0 := (mul_eq_zero.mp zero).resolve_left positive.ne'
    rw [mul_zero]
    rfl
  · exact Format.round_point point.double

variable {p : PixelType} {height width row col pixel channel : Nat} {b composite : Buffer}

/-- A pixel of a tile and of the composite of the tile alone. -/
structure Kept (p : PixelType) (pixel : Nat) (b composite : Buffer) : Prop where
  covered : Number.lt 0 (b.get (pixel * p.channels + p.alpha)) →
    ¬p.alphaRange.2.lt (b.get (pixel * p.channels + p.alpha)) →
    ∀ channel < p.channels, ∀ v, (b.get (pixel * p.channels + channel)).toRat? = some v →
      (composite.get (pixel * p.channels + channel)).toRat? = some v
  uncovered : (b.get (pixel * p.channels + p.alpha)).isNaN = false →
    ¬Number.lt 0 (b.get (pixel * p.channels + p.alpha)) →
    ∀ channel < p.channels, composite.get (pixel * p.channels + channel) = 0

section
variable (supported : p ∈ PixelType.supported) (tile : Tile p height width b)
  (inside : pixel < height * width)
include supported tile inside

theorem get_alone (known : channel < p.channels) :
    (ofStack p height width [b]).get (pixel * p.channels + channel) = blend p channel
      [⟨b.get (pixel * p.channels + p.alpha), b.get (pixel * p.channels + channel)⟩] := by
  rw [get_ofStack inside known, List.map_singleton, tile.accepts.sample_eq supported inside known]

theorem get_covered (positive : Number.lt 0 (b.get (pixel * p.channels + p.alpha)))
    (within : ¬p.alphaRange.2.lt (b.get (pixel * p.channels + p.alpha)))
    (known : channel < p.channels) (value : (b.get (pixel * p.channels + channel)).toRat? = some v) :
    (ofStack p height width [b]).get (pixel * p.channels + channel) = .finite v := by
  have alpha_holds := tile.holds_get inside p.alpha_lt_channels
  have colour_holds := ElementType.holds_of_value (tile.holds_get inside known) value
  obtain ⟨top, range, -⟩ := p.alphaRange_eq
  obtain ⟨a, alpha, above⟩ := Number.finite_of_between positive (range ▸ within)
  rw [get_alone supported tile inside known]
  rw [alpha] at alpha_holds within ⊢
  have weight := PixelType.single_of_holds supported alpha_holds
  have point := PixelType.single_of_holds supported colour_holds
  rw [Format.holds_finite_iff (by decide)] at weight point
  unfold blend
  split
  · rename_i same
    rw [same, alpha] at value
    cases value
    rw [coverage_single weight.double.holds, if_neg nofun,
      PixelType.cast_alpha alpha_holds above.le within]
  · rw [mean_single above weight value point, PixelType.cast_value colour_holds]

theorem get_uncovered (defined : (b.get (pixel * p.channels + p.alpha)).isNaN = false)
    (nonpos : ¬Number.lt 0 (b.get (pixel * p.channels + p.alpha))) (known : channel < p.channels) :
    (ofStack p height width [b]).get (pixel * p.channels + channel) = 0 := by
  have holds := tile.holds_get inside p.alpha_lt_channels
  have single := PixelType.single_of_holds supported holds
  rw [get_alone supported tile inside known]
  generalize b.get (pixel * p.channels + p.alpha) = weight at *
  have total : coverage [⟨weight, b.get (pixel * p.channels + channel)⟩] = 0 ∨
      coverage [⟨weight, b.get (pixel * p.channels + channel)⟩] = weight ∧ weight.lt 0 := by
    rw [coverage_single single.double]
    rcases Number.nonpos_cases defined nonpos with negative | rfl | rfl
    · refine .inr ⟨if_neg ?_, negative⟩
      rintro rfl
      cases negative
    · exact .inl (if_neg nofun)
    · exact .inl (if_pos rfl)
  unfold blend
  split
  · rcases total with none | ⟨some, negative⟩
    · rw [none]
      exact PixelType.cast_alpha_nonpos p.element.holds_zero (.inr rfl)
    · rw [some]
      exact PixelType.cast_alpha_nonpos holds (.inl negative)
  · rw [mean_uncovered]
    · exact PixelType.cast_value p.element.holds_zero
    · rcases total with none | ⟨some, -⟩
      · rw [none]
        exact nofun
      · rwa [some]

end

theorem kept_ofStack (supported : p ∈ PixelType.supported) (tile : Tile p height width b)
    (inside : pixel < height * width) : Kept p pixel b (ofStack p height width [b]) := by
  constructor
  · intro positive within channel known v value
    rw [get_covered supported tile inside positive within known value]
    rfl
  · intro defined nonpos channel known
    exact get_uncovered supported tile inside defined nonpos known

/-- A tile averaged alone keeps its numbers wherever its alpha is positive and not more than full
coverage, and is zero wherever its alpha is not positive. -/
theorem weightedAverage_alone (supported : p ∈ PixelType.supported) (tile : Tile p height width b)
    (below : row < height) (left : col < width) :
    ∃ composite, weightedAverage p [b] = .ok composite ∧ composite.element = p.element ∧
      composite.shape = [height, width, p.channels] ∧
      Kept p (row * width + col) b composite := by
  have accepts : ∀ c ∈ [b], Accepts p height width c :=
    List.forall_mem_singleton.mpr tile.accepts
  exact ⟨_, weightedAverage_rows (List.cons_ne_nil b []) accepts (Nat.zero_lt_of_lt below), rfl, rfl,
    kept_ofStack supported tile (pixel_lt below left)⟩

/-- The largest colour under the least weight. -/
theorem weightedAverage_alone_largest :
    let p : PixelType := ⟨.graya, .float32⟩
    let least : Rat := 2 ^ (-149 : Int)
    let tile : Buffer := ⟨.float32, [1, 1, 2], #[.finite (-binary32.largest), .finite least]⟩
    ∃ composite, weightedAverage p [tile] = .ok composite ∧
      (composite.get 0).toRat? = some (-binary32.largest) ∧
      (composite.get 1).toRat? = some least := by
  intro p least b
  have tile : Tile p 1 1 b := ⟨⟨rfl, by decide +kernel⟩, rfl, rfl⟩
  obtain ⟨composite, averaged, -, -, kept⟩ :=
    weightedAverage_alone (p := p) (by decide) tile Nat.one_pos Nat.one_pos
  have values := kept.covered (by decide +kernel) (by decide +kernel)
  exact ⟨composite, averaged, values 0 (by decide) _ rfl, values 1 (by decide) _ rfl⟩

end Composite
end TileComposite
