import Mathlib.Algebra.BigOperators.Ring.List
import Mathlib.Algebra.Order.BigOperators.Group.List
import TileComposite.Proofs.Composite.Samples

/-! Colours of integer composites between colours of the buffers. A mean under weights that are
not negative lies between the least and the greatest of what it weighs, and neither rounding nor
clamping leaves that range. A negative weight takes the mean out of it. -/
namespace TileComposite.Composite
variable {p : PixelType} {buffers : List Buffer} {height width row col pixel channel bits : Nat}
  {low high n : Int}

/-- The colours at a pixel of the buffers that have alpha there. -/
def colours (p : PixelType) (buffers : List Buffer) (pixel channel : Nat) : List Int :=
  (buffers.filter fun b => b.whole (pixel * p.channels + p.alpha) ≠ 0).map fun b =>
    b.whole (pixel * p.channels + channel)

/-- A whole number between the least and the greatest of a list. -/
def Between (terms : List Int) (n : Int) : Prop :=
  ∃ least greatest, terms.min? = some least ∧ terms.max? = some greatest ∧
    least ≤ n ∧ n ≤ greatest

theorem mem_colours {c : Int} : c ∈ colours p buffers pixel channel ↔
    ∃ b ∈ buffers, b.whole (pixel * p.channels + p.alpha) ≠ 0 ∧
      b.whole (pixel * p.channels + channel) = c := by
  simp [colours, and_assoc]

/-! ### Weighted sums -/

/-- A weighted sum grows with its terms, wherever they have a weight. -/
theorem sum_weighted_le {w f g : Buffer → Int} (unsigned : ∀ b ∈ buffers, 0 ≤ w b)
    (le : ∀ b ∈ buffers, w b ≠ 0 → f b ≤ g b) :
    (buffers.map fun b => w b * f b).sum ≤ (buffers.map fun b => w b * g b).sum := by
  refine List.sum_le_sum fun b member => ?_
  obtain none | some := eq_or_ne (w b) 0
  · rw [none, zero_mul, zero_mul]
  · exact mul_le_mul_of_nonneg_left (le b member some) (unsigned b member)

/-- The mean of bounded colours has their bounds. -/
theorem mean_mem {least greatest : Int}
    (unsigned : ∀ b ∈ buffers, 0 ≤ b.whole (pixel * p.channels + p.alpha))
    (covered : 0 < weight p buffers pixel)
    (bounds : ∀ c ∈ colours p buffers pixel channel, least ≤ c ∧ c ≤ greatest) :
    (least : Rat) ≤ weighted p buffers pixel channel / weight p buffers pixel ∧
      (weighted p buffers pixel channel / weight p buffers pixel : Rat) ≤ greatest := by
  have each (b : Buffer) (member : b ∈ buffers)
      (some : b.whole (pixel * p.channels + p.alpha) ≠ 0) :=
    bounds _ (mem_colours.mpr ⟨b, member, some, rfl⟩)
  have covered' : (0 : Rat) < weight p buffers pixel := by exact_mod_cast covered
  have lower := sum_weighted_le unsigned fun b member some => (each b member some).1
  have upper := sum_weighted_le unsigned fun b member some => (each b member some).2
  rw [List.sum_map_mul_right] at lower upper
  constructor
  · rw [le_div_iff₀ covered', mul_comm]
    exact_mod_cast lower
  · rw [div_le_iff₀ covered', mul_comm]
    exact_mod_cast upper

theorem colours_ne_nil (covered : 0 < weight p buffers pixel) (channel : Nat) :
    colours p buffers pixel channel ≠ [] := by
  intro empty
  have weightless : ∀ b ∈ buffers, b.whole (pixel * p.channels + p.alpha) = 0 := by
    intro b member
    by_contra some
    exact List.not_mem_nil (empty ▸ mem_colours.mpr ⟨b, member, some, rfl⟩)
  have none : weight p buffers pixel = 0 := by
    unfold weight
    rw [List.map_congr_left weightless]
    simp
  omega

/-- Each colour of an integer composite lies between the least and the greatest colour of the
buffers that have alpha at the pixel, if no alpha is negative there and their sum is positive. -/
theorem weightedAverage_between (supported : p ∈ PixelType.supported)
    (domain : p.element.domain = .whole bits low high) (few : buffers.length < 2 ^ 22)
    (accepts : ∀ b ∈ buffers, Accepts p height width b) (below : row < height) (left : col < width)
    (unsigned : ∀ b ∈ buffers, 0 ≤ b.whole ((row * width + col) * p.channels + p.alpha))
    (covered : 0 < weight p buffers (row * width + col)) :
    let pixel := row * width + col
    ∃ composite, weightedAverage p buffers = .ok composite ∧
      ∀ channel < p.alpha, ∃ n, composite.get (pixel * p.channels + channel) = .ofInt n ∧
        Between (colours p buffers pixel channel) n := by
  intro pixel
  have inside : pixel < height * width := pixel_lt below left
  have nonempty : buffers ≠ [] := by
    rintro rfl
    exact absurd covered (lt_irrefl 0)
  have exact_pixel := exactPixel_accepts supported domain few accepts inside
  refine ⟨_, weightedAverage_rows nonempty accepts (Nat.zero_lt_of_lt below), ?_⟩
  intro channel colour
  obtain ⟨n, nearest, got⟩ := exact_pixel.covered covered channel colour
  have some_colours := colours_ne_nil covered channel
  obtain ⟨least, minimum⟩ :=
    Option.ne_none_iff_exists'.mp (mt List.min?_eq_none_iff.mp some_colours)
  obtain ⟨greatest, maximum⟩ :=
    Option.ne_none_iff_exists'.mp (mt List.max?_eq_none_iff.mp some_colours)
  obtain ⟨least_mem, lower⟩ := List.min?_eq_some_iff.mp minimum
  obtain ⟨greatest_mem, upper⟩ := List.max?_eq_some_iff.mp maximum
  obtain ⟨above, under⟩ := mean_mem unsigned covered fun c member => ⟨lower c member, upper c member⟩
  have atLeast := nearest.le_of_le above
  have atMost := nearest.ge_of_ge under
  -- The colours of the buffers are in the range of the type, so that clamping does nothing.
  have ranged {c : Int} (member : c ∈ colours p buffers pixel channel) : low ≤ c ∧ c ≤ high := by
    obtain ⟨b, listed, -, rfl⟩ := mem_colours.mp member
    exact (accepts b listed).whole_mem supported domain inside (colour.trans p.alpha_lt_channels)
  have lowest := (ranged least_mem).1
  have highest := (ranged greatest_mem).2
  refine ⟨n, ?_, least, greatest, minimum, maximum, atLeast, atMost⟩
  rw [got, min_eq_right (atMost.trans highest), max_eq_right (lowest.trans atLeast)]

/-- Two thirds of the way from three to seven, and a buffer without alpha far outside. -/
theorem weightedAverage_between_thirds :
    let p : PixelType := ⟨.graya, .int16⟩
    let tile (element : ElementType) (colour weight : Rat) : Buffer :=
      ⟨element, [1, 1, 2], #[.finite colour, .finite weight]⟩
    let buffers := [tile .int16 3 100, tile .uint8 7 200, tile .int16 (-900) 0]
    ∃ composite, weightedAverage p buffers = .ok composite ∧
      ∃ n, composite.get 0 = .ofInt n ∧ Between (colours p buffers 0 0) n := by
  intro p tile buffers
  have accepts : ∀ b ∈ buffers, Accepts p 1 1 b := by
    simp only [buffers, List.forall_mem_cons, List.not_mem_nil, false_implies, implies_true, and_true]
    refine ⟨?_, ?_, ?_⟩ <;> exact ⟨⟨rfl, by decide⟩, ⟨_, rfl⟩, rfl⟩
  obtain ⟨composite, averaged, between⟩ := weightedAverage_between (p := p) (by decide) rfl
    (by decide) accepts Nat.one_pos Nat.one_pos (by decide) (by decide)
  exact ⟨composite, averaged, between 0 (by decide)⟩

/-- Under a negative weight the mean of zero and one is below zero. -/
theorem negative_weight_escapes :
    let p : PixelType := ⟨.graya, .int16⟩
    let tile (colour weight : Rat) : Buffer :=
      ⟨.int16, [1, 1, 2], #[.finite colour, .finite weight]⟩
    let buffers := [tile 0 2, tile 1 (-1)]
    (∀ b ∈ buffers, Accepts p 1 1 b) ∧ 0 < weight p buffers 0 ∧
      weightedAverage p buffers = .ok (tile (-1) 1) ∧
      ¬Between (colours p buffers 0 0) (-1) := by
  intro p tile buffers
  refine ⟨?_, by decide, by decide +kernel, ?_⟩
  · simp only [buffers, List.forall_mem_cons, List.not_mem_nil, false_implies, implies_true, and_true]
    refine ⟨?_, ?_⟩ <;> exact ⟨⟨rfl, by decide⟩, ⟨_, rfl⟩, rfl⟩
  · rintro ⟨least, greatest, minimum, -, above, -⟩
    have zero : (colours p buffers 0 0).min? = some 0 := by decide
    rw [zero] at minimum
    cases minimum
    exact absurd above (by decide)

end TileComposite.Composite
