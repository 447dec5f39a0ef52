import TileComposite.Proofs.Number.Order
import TileComposite.Proofs.Pixel.Widening

/-! Saturation of casts. A number has one place in a range, whether it is finite or infinite, and
casting into the range gives the number of the channel type that is nearest to that place. So
casts keep the order of numbers and stay in the range, and for integer types it does not matter
whether rounding or clamping comes first. -/
namespace TileComposite

/-- A number within the range of a format is rounded to a number of the format. -/
theorem Format.Standard.ofNumber_value {f : Format} {x : Number} {q : Rat} (standard : f.Standard)
    (value : x.toRat? = some q) (inside : |q| ≤ f.largest) :
    (f.ofNumber x).toRat? = some (f.gridPoint q) ∧ f.Point (f.gridPoint q) := by
  obtain ⟨lower, upper⟩ := abs_le.mp inside
  have within : |f.gridPoint q| ≤ f.largest := abs_le.mpr
    ⟨le_gridPoint standard.digits_pos standard.point_largest.neg lower,
      gridPoint_le standard.digits_pos standard.point_largest upper⟩
  refine ⟨?_, point_gridPoint standard.digits_pos within⟩
  cases x with
  | nan | infinite => cases value
  | negZero =>
    cases value
    rw [(gridPoint_of_holds point_zero.holds).1]
    rfl
  | finite =>
    cases value
    exact f.toRat?_round within

namespace PixelType
variable {p : PixelType} {range : Number × Number} {x y : Number} {low high : Rat}

/-! ### One channel type -/

/-- Casting into a range moves a number to its place in the range, and then to the element that
fits there. -/
structure Fits (p : PixelType) (low high : Rat) (fit : Rat → Rat) : Prop where
  cast_value : ∀ x : Number, x.isNaN = false →
    (p.cast (.finite low, .finite high) x).toRat? = some (fit (x.confined low high))
  ordered : low ≤ high
  mono : ∀ q r, low ≤ q → q ≤ r → r ≤ high → fit q ≤ fit r
  inside : ∀ q, low ≤ q → q ≤ high → low ≤ fit q ∧ fit q ≤ high
  kept : ∀ q, p.element.domain.Holds (.finite q) → fit q = q

section
variable {bits : Nat} {least greatest first last : Int}

theorem range_whole (domain : p.element.domain = .whole bits least greatest)
    (own : range = p.valueRange ∨ range = p.alphaRange) : ∃ first last : Int,
      range = (.ofInt first, .ofInt last) ∧ least ≤ first ∧ first ≤ last ∧ last ≤ greatest := by
  obtain ⟨lowest, highest, -⟩ := ElementType.range_of_domain domain
  unfold valueRange alphaRange at own
  rw [domain] at own
  obtain rfl | rfl := own
  · exact ⟨least, greatest, rfl, le_rfl, lowest.trans highest, le_rfl⟩
  · exact ⟨0, greatest, rfl, lowest, highest, le_rfl⟩

theorem fits_whole (domain : p.element.domain = .whole bits least greatest)
    (lower : least ≤ first) (ordered : first ≤ last) (upper : last ≤ greatest) :
    p.Fits first last fun q => nearestInt q where
  cast_value x defined :=
    congrArg Number.toRat? (cast_nearest domain lower ordered upper defined).2
  ordered := by exact_mod_cast ordered
  mono q r _ le _ := by exact_mod_cast nearestInt_mono le
  inside q above below := by
    have nearest := nearestInt_spec q
    exact_mod_cast And.intro (nearest.le_of_le above) (nearest.ge_of_ge below)
  kept q holds := by
    rw [domain] at holds
    obtain ⟨n, same, -⟩ := ElementDomain.exists_of_holds holds
    cases same
    rw [nearestInt_intCast]

end

section
variable {f : Format}

theorem range_floating (domain : p.element.domain = .floating f)
    (own : range = p.valueRange ∨ range = p.alphaRange) : ∃ low high : Rat,
      range = (.finite low, .finite high) ∧ f.Point low ∧ low ≤ high ∧ f.Point high := by
  have standard := ElementType.format_of_domain domain
  unfold valueRange alphaRange at own
  rw [domain] at own
  obtain rfl | rfl := own
  · have nonneg := f.largest_nonneg
    exact ⟨-f.largest, f.largest, rfl, standard.point_largest.neg, by linarith,
      standard.point_largest⟩
  · have one : f.Point 1 := by
      refine (Format.holds_finite_iff standard.digits_pos).mp ?_
      exact standard.holds_whole (one_lt_pow₀ one_lt_two standard.digits_pos.ne')
    exact ⟨0, 1, rfl, Format.point_zero, zero_le_one, one⟩

variable (domain : p.element.domain = .floating f) (first : f.Point low) (ordered : low ≤ high)
  (last : f.Point high)
include domain first ordered last

/-- Narrowing a clamped number does not overflow. -/
theorem cast_rounded (defined : x.isNaN = false) :
    (p.cast (.finite low, .finite high) x).toRat? = some (f.gridPoint (x.confined low high)) ∧
      f.Point (f.gridPoint (x.confined low high)) := by
  obtain ⟨above, below⟩ := Number.confined_mem ordered x
  rw [cast_floating domain]
  exact (ElementType.format_of_domain domain).ofNumber_value (Number.clamp_value defined ordered)
    (Format.abs_le_of_between first last above below)

theorem fits_floating : p.Fits low high f.gridPoint := by
  have standard := ElementType.format_of_domain domain
  have point {q : Rat} (above : low ≤ q) (below : q ≤ high) : f.Point (f.gridPoint q) :=
    (standard.ofNumber_value (x := .finite q) rfl
      (Format.abs_le_of_between first last above below)).2
  refine ⟨fun x defined => (cast_rounded domain first ordered last defined).1, ordered, ?_, ?_, ?_⟩
  · intro q r above le below
    exact Format.gridPoint_mono standard.digits_pos (point above (le.trans below))
      (point (above.trans le) below) le
  · intro q above below
    exact ⟨Format.le_gridPoint standard.digits_pos first above,
      Format.gridPoint_le standard.digits_pos last below⟩
  · intro q holds
    rw [domain] at holds
    exact (Format.gridPoint_of_holds holds).1

end

/-! ### All channel types -/

/-- Casting into a range of the channel type saturates. -/
structure Saturates (p : PixelType) (low high : Rat) : Prop where
  monotone : ∀ x y : Number, x.isNaN = false → y.isNaN = false → ¬y.lt x →
    ¬(p.cast (.finite low, .finite high) y).lt (p.cast (.finite low, .finite high) x)
  inside : ∀ x : Number, x.isNaN = false →
    ∃ v, (p.cast (.finite low, .finite high) x).toRat? = some v ∧ low ≤ v ∧ v ≤ high
  /-- Elements in the range keep their value, whatever becomes of the sign of a zero. -/
  kept : ∀ (x : Number) v, p.element.domain.Holds x → x.toRat? = some v → low ≤ v → v ≤ high →
    (p.cast (.finite low, .finite high) x).toRat? = some v
  /-- Integer types: it does not matter which comes first, rounding or clamping. -/
  whole : p.isInteger → ∀ x : Number, x.isNaN = false → ∃ (n : Int) (c : Rat),
    p.cast (.finite low, .finite high) x = .ofInt n ∧
      (x.clamp (.finite low) (.finite high)).toRat? = some c ∧ NearestEven c n ∧
      (x.rounded.clamp (.finite low) (.finite high)).toRat? = some (n : Rat) ∧
      (x.clamp (.finite low) (.finite high)).rounded.toRat? = some (n : Rat)
  /-- Floating types: no number of the format is nearer to the clamped number. -/
  floating : ∀ f, p.element.domain = .floating f → ∀ x : Number, x.isNaN = false → ∃ c v,
    (x.clamp (.finite low) (.finite high)).toRat? = some c ∧
      (p.cast (.finite low, .finite high) x).toRat? = some v ∧ f.Holds (.finite v) ∧
      ∀ r, f.Holds (.finite r) → |c - v| ≤ |c - r|

theorem Fits.monotone {fit : Rat → Rat} (fits : p.Fits low high fit) (first : x.isNaN = false)
    (second : y.isNaN = false) (le : ¬y.lt x) :
    ¬(p.cast (.finite low, .finite high) y).lt (p.cast (.finite low, .finite high) x) := by
  rw [Number.lt_of_values (fits.cast_value y second) (fits.cast_value x first), decide_eq_true_eq,
    not_lt]
  exact fits.mono _ _ (Number.confined_mem fits.ordered x).1
    (Number.confined_mono first second le fits.ordered) (Number.confined_mem fits.ordered y).2

theorem Fits.cast_inside {fit : Rat → Rat} (fits : p.Fits low high fit)
    (defined : x.isNaN = false) :
    ∃ v, (p.cast (.finite low, .finite high) x).toRat? = some v ∧ low ≤ v ∧ v ≤ high := by
  obtain ⟨above, below⟩ := Number.confined_mem fits.ordered x
  exact ⟨_, fits.cast_value x defined, fits.inside _ above below⟩

theorem Fits.cast_kept {fit : Rat → Rat} {v : Rat} (fits : p.Fits low high fit)
    (holds : p.element.domain.Holds x) (value : x.toRat? = some v) (above : low ≤ v)
    (below : v ≤ high) : (p.cast (.finite low, .finite high) x).toRat? = some v := by
  rw [fits.cast_value x (Number.isNaN_of_value value), Number.confined_of_value value,
    max_eq_right above, min_eq_right below, fits.kept v (ElementType.holds_of_value holds value)]

/-- Casts into the range of a channel type or of its alpha saturate: they keep the order of all
numbers but undefined ones, infinite ones included, and end in the range, at the number of the
type that is nearest to the clamped number. -/
theorem cast_saturates (own : range = p.valueRange ∨ range = p.alphaRange) :
    ∃ low high : Rat, range = (.finite low, .finite high) ∧ p.Saturates low high := by
  cases domain : p.element.domain with
  | whole bits least greatest =>
    obtain ⟨first, last, rfl, lower, ordered, upper⟩ := range_whole domain own
    have fits := fits_whole domain lower ordered upper
    refine ⟨first, last, rfl, fun x y => fits.monotone, fun x => fits.cast_inside,
      fun x v => fits.cast_kept, fun _ x defined => ?_, fun f floating => ?_⟩
    · obtain ⟨rounded, nearest⟩ := cast_nearest domain lower ordered upper defined
      have clamped := Number.clamp_value defined fits.ordered
      exact ⟨_, _, nearest, clamped, nearestInt_spec _, rounded, Number.rounded_value clamped⟩
    · cases domain.symm.trans floating
  | floating f =>
    obtain ⟨low, high, rfl, first, ordered, last⟩ := range_floating domain own
    have fits := fits_floating domain first ordered last
    have digits := (ElementType.format_of_domain domain).digits_pos
    refine ⟨low, high, rfl, fun x y => fits.monotone, fun x => fits.cast_inside,
      fun x v => fits.cast_kept, fun integer => ?_, fun g same x defined => ?_⟩
    · unfold isInteger at integer
      rw [domain] at integer
      cases integer
    · cases domain.symm.trans same
      obtain ⟨value, point⟩ := cast_rounded domain first ordered last defined
      refine ⟨_, _, Number.clamp_value defined ordered, value, point.holds, fun r holds => ?_⟩
      exact Format.gridPoint_nearest digits ((Format.holds_finite_iff digits).mp holds) _

/-- A double number beyond the largest single one, and infinity beyond both. -/
theorem cast_saturates_beyond :
    let p : PixelType := ⟨.graya, .float32⟩
    ∃ v w, (p.cast p.valueRange (.finite (2 * binary32.largest))).toRat? = some v ∧
      (p.cast p.valueRange (.infinite false)).toRat? = some w ∧ v ≤ w ∧ w ≤ binary32.largest := by
  intro p
  obtain ⟨low, high, range, saturates⟩ := cast_saturates (p := p) (.inl rfl)
  have top : high = binary32.largest := by
    have same : Number.finite high = .finite binary32.largest := congrArg Prod.snd range.symm
    exact Number.finite.inj same
  rw [range]
  obtain ⟨v, value, -⟩ := saturates.inside (.finite (2 * binary32.largest)) rfl
  obtain ⟨w, value', -, below⟩ := saturates.inside (.infinite false) rfl
  have le := saturates.monotone (.finite (2 * binary32.largest)) (.infinite false) rfl rfl nofun
  rw [Number.lt_of_values value' value, decide_eq_true_eq, not_lt] at le
  exact ⟨v, w, value, value', le, top ▸ below⟩

end PixelType
end TileComposite
