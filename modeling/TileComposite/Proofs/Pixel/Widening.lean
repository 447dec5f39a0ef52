import TileComposite.Proofs.Number.Points
import TileComposite.Proofs.Pixel.Whole

/-! Elements of pixel types. Narrowing a number ends in an element, and keeps what is one
already. Where reading elements of one type as those of another is safe, all of them are elements
of the other type as well, but for long integers in double precision. So what a supported pixel
type accepts in another element type has numbers of its own, and of single precision. -/
namespace TileComposite
open Format (Point)

theorem Number.rounded_ofInt (n : Int) : (ofInt n).rounded = ofInt n := by
  change (if nearestInt n = 0 then zero (decide ((n : Rat) < 0)) else ofInt (nearestInt n)) = _
  rw [nearestInt_intCast]
  split
  · rename_i isZero
    rw [isZero]
    rfl
  · rfl

namespace ElementDomain
variable {x : Number}

theorem ofNumber_of_holds {d : ElementDomain} (holds : d.Holds x) : d.ofNumber x = x := by
  cases d with
  | whole bits low high =>
    obtain ⟨n, rfl, lower, upper⟩ := exists_of_holds holds
    exact ofNumber_ofInt lower upper
  | floating f => exact holds

end ElementDomain

namespace ElementType
variable {t u : ElementType} {x : Number} {bits : Nat} {low high : Int} {f : Format}

theorem range_of_domain (domain : t.domain = .whole bits low high) :
    low ≤ 0 ∧ 0 ≤ high ∧ -2 ^ bits < low ∧ high < 2 ^ bits := by
  cases t <;> cases domain <;> decide

theorem format_of_domain (domain : t.domain = .floating f) : f.Standard := by
  unfold Format.Standard
  cases t <;> cases domain <;> decide

theorem holds_zero (t : ElementType) : t.domain.Holds 0 := by
  cases domain : t.domain with
  | whole bits low high =>
    obtain ⟨lowest, highest, -⟩ := range_of_domain domain
    exact ElementDomain.holds_ofInt lowest highest
  | floating f => exact Format.holds_zero false

/-- Of a negative zero that is an element, the zero is one. -/
theorem holds_of_value {v : Rat} (holds : t.domain.Holds x) (value : x.toRat? = some v) :
    t.domain.Holds (.finite v) := by
  cases x with
  | nan | infinite => cases value
  | negZero =>
    cases value
    exact t.holds_zero
  | finite =>
    cases value
    exact holds

/-- Whatever is narrowed to an element type becomes one of its elements. -/
theorem holds_ofNumber (t : ElementType) (x : Number) : t.domain.Holds (t.domain.ofNumber x) := by
  cases domain : t.domain with
  | whole bits low high =>
    obtain ⟨lowest, highest, -⟩ := range_of_domain domain
    cases x with
    | nan | infinite | negZero => exact ElementDomain.holds_ofInt lowest highest
    | finite q =>
      have length : 0 < high - low + 1 := by omega
      refine ElementDomain.holds_ofInt ?_ ?_
      · have := Int.emod_nonneg ((if q < 0 then -(-q).floor else q.floor) - low) length.ne'
        omega
      · have := Int.emod_lt_of_pos ((if q < 0 then -(-q).floor else q.floor) - low) length
        omega
  | floating f => exact Format.holds_ofNumber (format_of_domain domain).digits_pos x

/-- An integer type with more digits than double precision. -/
def Long (t : ElementType) : Prop := t = .int64 ∨ t = .uint64

theorem long_iff (domain : t.domain = .whole bits low high) : t.Long ↔ binary64.digits ≤ bits := by
  unfold Long
  cases t <;> cases domain <;> decide

theorem double_iff (domain : u.domain = .floating f) : u = .float64 ↔ f = binary64 := by
  cases u <;> cases domain <;> decide

/-- Of a type with that many digits the whole number beyond a format's digits is an element. -/
theorem long_whole (domain : t.domain = .whole bits low high) (standard : f.Standard)
    (many : f.digits ≤ bits) : 2 ^ f.digits + 1 ≤ high := by
  obtain rfl | rfl | rfl := standard <;> cases t <;> cases domain <;> revert many <;> decide

/-- A range of whole numbers is in a format just when the format has more digits than the range
has bits. -/
theorem whole_in_format_iff (domain : t.domain = .whole bits low high) (standard : f.Standard) :
    (∀ x, t.domain.Holds x → f.Holds x) ↔ bits < f.digits := by
  obtain ⟨lowest, highest, least, greatest⟩ := range_of_domain domain
  rw [domain]
  constructor
  · intro all
    by_contra many
    have room := long_whole domain standard (Nat.le_of_not_lt many)
    have lower : low ≤ 2 ^ f.digits + 1 := by
      have : (0 : Int) ≤ 2 ^ f.digits := by positivity
      omega
    exact standard.not_holds_whole (all _ (ElementDomain.holds_ofInt lower room))
  · intro few x holds
    obtain ⟨n, rfl, lower, upper⟩ := ElementDomain.exists_of_holds holds
    have room : (2 : Int) ^ bits ≤ 2 ^ f.digits := pow_le_pow_right₀ one_le_two few.le
    exact standard.holds_whole (abs_lt.mpr ⟨by omega, by omega⟩)

theorem whole_in_whole_iff {bits' : Nat} {low' high' : Int} (ordered : low ≤ high) :
    (∀ x, (ElementDomain.whole bits low high).Holds x →
      (ElementDomain.whole bits' low' high').Holds x) ↔ low' ≤ low ∧ high ≤ high' := by
  constructor
  · intro all
    have first := all _ (ElementDomain.holds_ofInt le_rfl ordered)
    have last := all _ (ElementDomain.holds_ofInt ordered le_rfl)
    exact ⟨(ElementDomain.holds_ofInt_iff.mp first).1, (ElementDomain.holds_ofInt_iff.mp last).2⟩
  · rintro ⟨lower, upper⟩ x holds
    obtain ⟨n, rfl, above, below⟩ := ElementDomain.exists_of_holds holds
    exact ElementDomain.holds_ofInt (lower.trans above) (below.trans upper)

theorem format_in_format_iff {g : Format} (narrow : f.Standard) (wide : g.Standard) :
    (∀ x, f.Holds x → g.Holds x) ↔ f.digits ≤ g.digits := by
  constructor
  · intro all
    by_contra fewer
    have room : |(2 : Int) ^ g.digits + 1| < 2 ^ f.digits := by
      have step : (2 : Int) ^ (g.digits + 1) ≤ 2 ^ f.digits :=
        pow_le_pow_right₀ one_le_two (Nat.lt_of_not_le fewer)
      have : (1 : Int) < 2 ^ g.digits := by
        obtain rfl | rfl | rfl := wide <;> decide
      rw [pow_succ] at step
      rw [abs_of_pos (by omega)]
      omega
    exact wide.not_holds_whole (all _ (narrow.holds_whole room))
  · exact fun digits x => narrow.holds_wider wide digits

/-- Reading elements of a type as those of another is safe just when all of them are elements of
it, but for long integers, which double precision does not hold. -/
theorem widens_iff : (∀ x, t.domain.Holds x → u.domain.Holds x) ↔
    t.domain.widensTo u.domain ∧ ¬(t.Long ∧ u = .float64) := by
  cases source : t.domain with
  | whole bits low high =>
    obtain ⟨lowest, highest, -⟩ := range_of_domain source
    cases target : u.domain with
    | whole bits' low' high' =>
      have single : ¬(t.Long ∧ u = .float64) := by
        rintro ⟨-, rfl⟩
        cases target
      rw [whole_in_whole_iff (lowest.trans highest)]
      simp [ElementDomain.widensTo, single]
    | floating f =>
      have standard : f.Standard := format_of_domain target
      have inFormat := whole_in_format_iff source standard
      rw [source] at inFormat
      rw [long_iff source, double_iff target]
      refine inFormat.trans ?_
      simp only [ElementDomain.widensTo, Bool.or_eq_true, decide_eq_true_eq, beq_iff_eq]
      constructor
      · intro few
        refine ⟨.inl few, ?_⟩
        rintro ⟨many, rfl⟩
        omega
      · rintro ⟨few | rfl, short⟩
        · exact few
        · exact Nat.lt_of_not_le fun many => short ⟨many, rfl⟩
  | floating f =>
    have short : ¬(t.Long ∧ u = .float64) := by
      rintro ⟨rfl | rfl, -⟩ <;> cases source
    cases target : u.domain with
    | whole => simpa [ElementDomain.widensTo] using ⟨.nan, rfl, id⟩
    | floating g =>
      have inFormat := format_in_format_iff (format_of_domain source) (format_of_domain target)
      refine inFormat.trans ?_
      simp [ElementDomain.widensTo, short]

/-- An element that widens to single precision is of single precision. -/
theorem single_of_holds (widens : t.domain.widensTo (.floating binary32))
    (holds : t.domain.Holds x) : binary32.Holds x := by
  have short : ¬(t.Long ∧ ElementType.float32 = .float64) := by
    rintro ⟨-, ⟨⟩⟩
  exact (widens_iff (u := .float32)).mpr ⟨widens, short⟩ x holds

end ElementType

namespace PixelType
variable {p : PixelType} {b tile : Buffer} {x : Number} {range : Number × Number}

theorem element_of_supported (supported : p ∈ PixelType.supported) :
    p.element = .uint8 ∨ p.element = .int16 ∨ p.element = .float32 := by
  revert p
  decide

theorem floating_of_infinite (holds : p.element.domain.Holds x) (infinite : x.toRat? = none) :
    ∃ f, p.element.domain = .floating f := by
  cases domain : p.element.domain with
  | floating f => exact ⟨f, rfl⟩
  | whole =>
    rw [domain] at holds
    obtain ⟨n, rfl, _⟩ := ElementDomain.exists_of_holds holds
    cases infinite

theorem cast_floating {f : Format} (domain : p.element.domain = .floating f) :
    p.cast range x = f.ofNumber (x.clamp range.1 range.2) := by
  unfold cast isInteger
  rw [domain]
  rfl

/-- An element is not rounded before it is clamped. -/
theorem cast_element (holds : p.element.domain.Holds x) :
    p.cast range x = p.element.domain.ofNumber (x.clamp range.1 range.2) := by
  cases domain : p.element.domain with
  | floating => exact cast_floating domain
  | whole =>
    rw [domain] at holds
    obtain ⟨n, rfl, _⟩ := ElementDomain.exists_of_holds holds
    unfold cast isInteger
    rw [domain]
    dsimp only
    rw [if_pos rfl, Number.rounded_ofInt]

theorem cast_holds (p : PixelType) (range : Number × Number) (x : Number) :
    p.element.domain.Holds (p.cast range x) :=
  p.element.holds_ofNumber _

/-- The elements of an accepted buffer are elements of the pixel type. -/
theorem holds_of_validate (supported : p ∈ PixelType.supported) (accepted : p.validate b = .ok tile)
    (wellFormed : b.WellFormed) : ∀ x ∈ b.data, p.element.domain.Holds x := by
  intro x member
  have holds := wellFormed.holds x member
  unfold validate at accepted
  split at accepted
  · split at accepted
    · rename_i same
      rwa [same] at holds
    · split at accepted
      · have short : ¬(b.element.Long ∧ p.element = .float64) := by
          rintro ⟨-, double⟩
          rcases element_of_supported supported with h | h | h <;> cases h.symm.trans double
        exact ElementType.widens_iff.mpr ⟨‹_›, short⟩ x holds
      · cases accepted
  · cases accepted

end PixelType
end TileComposite
