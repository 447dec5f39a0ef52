import Mathlib.Algebra.BigOperators.Group.List.Basic
import TileComposite.Proofs.Aggregate.Stack
import TileComposite.Proofs.Number.Points
import TileComposite.Proofs.Pixel.Whole

/-! Blends of whole numbers. The sums of a stack stay within the digits of the accumulator, and
the rounded quotient is nearest to the same whole number as the exact one, so that a blend is
what exact arithmetic gives. -/
namespace TileComposite.Composite

/-! ### Sums -/

/-- A weight and a colour, both whole. -/
def wholeSample (s : Int × Int) : Sample := ⟨.ofInt s.1, .ofInt s.2⟩

variable {m n : Int}

theorem add_whole (few : |m + n| < 2 ^ 53) :
    binary64.add (.ofInt m) (.ofInt n) = .ofInt (m + n) := by
  change binary64.round ((m : Rat) + n) = _
  rw [← Int.cast_add, Format.round_whole few]

/-- A product that is zero may be a negative zero, which adds nothing. -/
theorem add_product {start : Int} (fewTerm : |m * n| < 2 ^ 53) (few : |start + m * n| < 2 ^ 53) :
    binary64.add (.ofInt start) (binary64.mul (.ofInt m) (.ofInt n)) = .ofInt (start + m * n) := by
  have product : binary64.mul (.ofInt m) (.ofInt n) =
      if ((m * n : Int) : Rat) = 0 then .zero (decide ((m : Rat) < 0) ^^ decide ((n : Rat) < 0))
      else binary64.round (m * n : Int) := by
    rw [Int.cast_mul]
    rfl
  rw [product]
  split
  · have nothing : m * n = 0 := by exact_mod_cast ‹((m * n : Int) : Rat) = 0›
    rw [nothing, add_zero] at few ⊢
    cases decide ((m : Rat) < 0) ^^ decide ((n : Rat) < 0) with
    | true => exact Format.round_whole few
    | false =>
      change binary64.round ((start : Rat) + 0) = _
      rw [add_zero, Format.round_whole few]
  · rw [Format.round_whole fewTerm, add_whole few]

/-- A sum whose terms are bounded is exact as long as it cannot outgrow the accumulator. -/
theorem foldl_whole {α : Type} {accumulate : Number → α → Number} (value : α → Int) (bound : Int)
    (bounded : ∀ start x, |value x| ≤ bound → |start + value x| < 2 ^ 53 →
      accumulate (.ofInt start) x = .ofInt (start + value x))
    (terms : List α) (small : ∀ x ∈ terms, |value x| ≤ bound) (start : Int)
    (room : |start| + terms.length * bound < 2 ^ 53) :
    terms.foldl accumulate (.ofInt start) = .ofInt (start + (terms.map value).sum) := by
  -- What is left of the room goes down by one bound with every term.
  induction terms generalizing start with
  | nil => simp
  | cons x terms ih =>
    have first := small x List.mem_cons_self
    have triangle := abs_add_le start (value x)
    have nonneg : 0 ≤ terms.length * bound :=
      mul_nonneg (Int.natCast_nonneg _) ((abs_nonneg _).trans first)
    rw [List.length_cons] at room
    push_cast at room
    rw [List.foldl_cons, bounded start x first (by linarith), List.map_cons, List.sum_cons,
      ← add_assoc]
    exact ih (fun y member => small y (List.mem_cons_of_mem x member)) _ (by linarith)

/-- The samples of a stack are whole numbers of 16 bits with a sign. -/
def Narrow (samples : List (Int × Int)) : Prop := ∀ s ∈ samples, |s.1| ≤ 2 ^ 15 ∧ |s.2| ≤ 2 ^ 15

variable {samples : List (Int × Int)}

theorem coverage_whole (narrow : Narrow samples) (few : samples.length < 2 ^ 22) :
    coverage (samples.map wholeSample) = .ofInt (samples.map Prod.fst).sum := by
  rw [coverage, List.foldl_map]
  refine (foldl_whole Prod.fst (2 ^ 15) (fun start s _ => add_whole) samples
    (fun s member => (narrow s member).1) 0 ?_).trans ?_
  · rw [abs_zero]
    omega
  · rw [zero_add]

theorem product_le {s : Int × Int} (weight : |s.1| ≤ 2 ^ 15) (colour : |s.2| ≤ 2 ^ 15) :
    |s.1 * s.2| ≤ 2 ^ 30 := by
  rw [abs_mul]
  have := mul_le_mul weight colour (abs_nonneg _) (by norm_num)
  linarith

theorem weightedSum_whole (narrow : Narrow samples) (few : samples.length < 2 ^ 22) :
    weightedSum (samples.map wholeSample) = .ofInt (samples.map fun s => s.1 * s.2).sum := by
  rw [weightedSum, List.foldl_map]
  refine (foldl_whole (fun s : Int × Int => s.1 * s.2) (2 ^ 30)
    (fun start s small => add_product (small.trans_lt (by norm_num))) samples
    (fun s member => product_le (narrow s member).1 (narrow s member).2) 0 ?_).trans ?_
  · rw [abs_zero]
    omega
  · rw [zero_add]

/-- The sums of a narrow stack have no more than 52 digits. -/
theorem abs_sum_lt (value : Int × Int → Int) (few : samples.length < 2 ^ 22)
    (small : ∀ s ∈ samples, |value s| ≤ 2 ^ 30) : |(samples.map value).sum| < 2 ^ 52 := by
  have bound (terms : List (Int × Int)) (small : ∀ s ∈ terms, |value s| ≤ 2 ^ 30) :
      |(terms.map value).sum| ≤ terms.length * 2 ^ 30 := by
    induction terms with
    | nil => simp
    | cons s terms ih =>
      have first := small s List.mem_cons_self
      have rest := ih fun t member => small t (List.mem_cons_of_mem s member)
      rw [List.map_cons, List.sum_cons, List.length_cons]
      push_cast
      exact (abs_add_le _ _).trans (by linarith)
  have := bound samples small
  omega

/-! ### Blending -/

theorem div_whole (positive : 0 < n) (few : |m| < 2 ^ 52) (moderate : n < 2 ^ 52) :
    ∃ v, (binary64.div (.ofInt m) (.ofInt n)).toRat? = some v ∧
      nearestInt v = nearestInt (m / n) := by
  have positive' : (0 : Rat) < n := by exact_mod_cast positive
  have quotient : binary64.div (.ofInt m) (.ofInt n) =
      if (n : Rat) = 0 then if (m : Rat) = 0 then .nan else
        .infinite (decide ((m : Rat) < 0) ^^ decide ((n : Rat) < 0))
      else if (m : Rat) = 0 then .zero (decide ((m : Rat) < 0) ^^ decide ((n : Rat) < 0))
      else binary64.round (m / n) := rfl
  rw [quotient, if_neg positive'.ne']
  split
  · rename_i zero
    rw [zero, zero_div, decide_eq_false (not_lt.mpr positive'.le)]
    exact ⟨0, rfl, rfl⟩
  · exact nearestInt_round_quotient positive few moderate

variable {p : PixelType} {bits : Nat} {low high : Int}

/-- The supported integer types hold zero and no more than 16 bits. -/
theorem range_of_supported (supported : p ∈ PixelType.supported)
    (domain : p.element.domain = .whole bits low high) :
    low ≤ 0 ∧ 0 ≤ high ∧ -2 ^ 15 ≤ low ∧ high ≤ 2 ^ 15 := by
  simp only [PixelType.supported, List.mem_cons, List.not_mem_nil, or_false] at supported
  obtain rfl | rfl | rfl | rfl := supported <;> cases domain <;> decide

theorem valueRange_whole (domain : p.element.domain = .whole bits low high) :
    p.valueRange = (.ofInt low, .ofInt high) := by
  rw [PixelType.valueRange, domain]

theorem alphaRange_whole (domain : p.element.domain = .whole bits low high) :
    p.alphaRange = (.ofInt 0, .ofInt high) := by
  rw [PixelType.alphaRange, domain]
  rfl

theorem cast_whole_ofInt (domain : p.element.domain = .whole bits low high) {first last : Int}
    (lower : low ≤ first) (ordered : first ≤ last) (upper : last ≤ high) (n : Int) :
    p.cast (.ofInt first, .ofInt last) (.ofInt n) = .ofInt (max first (min last n)) := by
  have value : (Number.ofInt n).toRat? = some (n : Rat) := rfl
  rw [PixelType.cast_whole domain lower ordered upper value, nearestInt_intCast]

theorem blend_alpha (supported : p ∈ PixelType.supported)
    (domain : p.element.domain = .whole bits low high) (narrow : Narrow samples)
    (few : samples.length < 2 ^ 22) :
    blend p p.alpha (samples.map wholeSample) =
      .ofInt (max 0 (min high (samples.map Prod.fst).sum)) := by
  obtain ⟨lowest, highest, _⟩ := range_of_supported supported domain
  rw [blend, if_pos rfl, alphaRange_whole domain, coverage_whole narrow few,
    cast_whole_ofInt domain lowest highest le_rfl]

/-- A colour is the exact mean, rounded to the nearest whole number and moved into the range of
the type, or zero where the total weight is not positive. -/
theorem blend_colour (supported : p ∈ PixelType.supported)
    (domain : p.element.domain = .whole bits low high) (narrow : Narrow samples)
    (few : samples.length < 2 ^ 22) {channel : Nat} (colour : channel ≠ p.alpha) :
    blend p channel (samples.map wholeSample) =
      if 0 < (samples.map Prod.fst).sum then
        .ofInt (max low (min high (nearestInt
          ((samples.map fun s => s.1 * s.2).sum / (samples.map Prod.fst).sum))))
      else .ofInt 0 := by
  obtain ⟨lowest, highest, _⟩ := range_of_supported supported domain
  have covered : Number.lt 0 (coverage (samples.map wholeSample)) =
      decide (0 < (samples.map Prod.fst).sum) := by
    rw [coverage_whole narrow few]
    exact Number.lt_ofInt (m := 0)
  rw [blend, if_neg colour, valueRange_whole domain, mean, covered]
  by_cases positive : 0 < (samples.map Prod.fst).sum
  · rw [if_pos (decide_eq_true positive), if_pos positive, coverage_whole narrow few,
      weightedSum_whole narrow few]
    have fewSum := abs_sum_lt (fun s => s.1 * s.2) few
      fun s member => product_le (narrow s member).1 (narrow s member).2
    have fewTotal := abs_sum_lt Prod.fst few fun s member =>
      (narrow s member).1.trans (by norm_num)
    obtain ⟨v, value, nearest⟩ := div_whole positive fewSum (lt_of_abs_lt fewTotal)
    rw [PixelType.cast_whole domain le_rfl (lowest.trans highest) le_rfl value, nearest]
  · have zero : (0 : Number) = .ofInt 0 := rfl
    rw [if_neg (by simpa using positive), if_neg positive, zero,
      cast_whole_ofInt domain le_rfl (lowest.trans highest) le_rfl]
    congr 1
    omega

/-- The order of the samples does not matter to a blend of whole numbers. -/
theorem blend_perm (supported : p ∈ PixelType.supported)
    (domain : p.element.domain = .whole bits low high) {samples others : List (Int × Int)}
    (perm : others.Perm samples) (narrow : Narrow samples) (few : samples.length < 2 ^ 22)
    (channel : Nat) :
    blend p channel (others.map wholeSample) = blend p channel (samples.map wholeSample) := by
  have narrow' : Narrow others := fun s member => narrow s (perm.mem_iff.mp member)
  have few' : others.length < 2 ^ 22 := perm.length_eq ▸ few
  have total := (perm.map Prod.fst).sum_eq
  have products := (perm.map fun s => s.1 * s.2).sum_eq
  by_cases alpha : channel = p.alpha
  · rw [alpha, blend_alpha supported domain narrow few, blend_alpha supported domain narrow' few',
      total]
  · rw [blend_colour supported domain narrow few alpha,
      blend_colour supported domain narrow' few' alpha, total, products]

end TileComposite.Composite
