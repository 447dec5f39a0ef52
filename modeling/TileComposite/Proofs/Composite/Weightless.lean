import TileComposite.Proofs.Composite.Samples
import TileComposite.Proofs.Number.Accumulation

/-! Buffers without alpha at a pixel. They take no part in the composite of the pixel: the other
buffers alone give the same, unless one without alpha has a colour there that is not finite. Such
a colour makes the weighted sum undefined, although its weight is zero, and the undefined mean
stays in the composite wherever the pixel is covered. -/
namespace TileComposite.Composite

/-- A sample that weighs nothing. -/
def Sample.Weightless (s : Sample) : Prop := s.weight.toRat? = some 0

instance : DecidablePred Sample.Weightless := fun _ => inferInstanceAs (Decidable (_ = _))

/-- The buffer has no alpha at the pixel. -/
def Weightless (p : PixelType) (pixel : Nat) (b : Buffer) : Prop :=
  (b.get (pixel * p.channels + p.alpha)).toRat? = some 0

instance (p : PixelType) (pixel : Nat) : DecidablePred (Weightless p pixel) :=
  fun _ => inferInstanceAs (Decidable (_ = _))

/-- The total alpha at the pixel is positive, but a buffer without alpha has a colour there that
is not finite. -/
def Tainted (p : PixelType) (pixel channel : Nat) (buffers : List Buffer) : Prop :=
  Number.lt 0 (coverage (buffers.map (sample p pixel channel))) ∧
    ∃ b ∈ buffers, Weightless p pixel b ∧ (b.get (pixel * p.channels + channel)).toRat? = none

instance (p : PixelType) (pixel channel : Nat) (buffers : List Buffer) :
    Decidable (Tainted p pixel channel buffers) := inferInstanceAs (Decidable (_ ∧ _))

/-! ### Sums -/

variable {stack : List Sample}

theorem coverage_filter (holds : ∀ s ∈ stack, binary64.Holds s.weight) :
    coverage (stack.filter fun s => ¬s.Weightless) = coverage stack := by
  refine Format.foldl_filter (by decide) holds (fun s _ dropped => ?_) Format.accumulated_zero
  have weightless : s.Weightless := by simpa using dropped
  exact weightless

theorem weightedSum_filter
    (finite : ∀ s ∈ stack, s.Weightless → s.colour.toRat? ≠ none) :
    weightedSum (stack.filter fun s => ¬s.Weightless) = weightedSum stack := by
  refine Format.foldl_filter (by decide) (fun s _ => Format.holds_mul (by decide) _ _)
    (fun s member dropped => ?_) Format.accumulated_zero
  have weightless : s.Weightless := by simpa using dropped
  obtain ⟨q, value⟩ := Option.ne_none_iff_exists'.mp (finite s member weightless)
  have product := Format.mul_value (f := binary64) weightless value (by
    rw [zero_mul]
    exact Format.point_zero)
  rwa [zero_mul] at product

theorem weightedSum_undefined
    (infinite : ∃ s ∈ stack, s.Weightless ∧ s.colour.toRat? = none) :
    weightedSum stack = .nan := by
  obtain ⟨s, member, weightless, infinite⟩ := infinite
  exact Format.foldl_nan ⟨s, member, Format.mul_zero_infinite weightless infinite⟩ 0

theorem mean_filter (holds : ∀ s ∈ stack, binary64.Holds s.weight)
    (finite : ∀ s ∈ stack, s.Weightless → s.colour.toRat? ≠ none) :
    mean (stack.filter fun s => ¬s.Weightless) = mean stack := by
  rw [mean, coverage_filter holds, weightedSum_filter finite]
  rfl

theorem mean_undefined (covered : Number.lt 0 (coverage stack))
    (infinite : ∃ s ∈ stack, s.Weightless ∧ s.colour.toRat? = none) : mean stack = .nan := by
  refine (if_pos covered).trans ?_
  rw [weightedSum_undefined infinite]
  rfl

/-! ### Pixels -/

variable {p : PixelType} {height width row col pixel channel : Nat} {b : Buffer}
  {buffers : List Buffer}

section
variable (supported : p ∈ PixelType.supported)
  (accepts : ∀ b ∈ buffers, Accepts p height width b) (inside : pixel < height * width)
include supported accepts inside

/-- The samples of the buffers that have alpha at a pixel. -/
theorem samples_filter (known : channel < p.channels) :
    (buffers.filter fun b => ¬Weightless p pixel b).map (sample p pixel channel) =
      (buffers.map (sample p pixel channel)).filter fun s => ¬s.Weightless := by
  rw [List.filter_map]
  congr 1
  refine List.filter_congr fun b member => ?_
  rw [Function.comp_apply, (accepts b member).sample_eq supported inside known]
  rfl

theorem holds_samples (known : channel < p.channels) :
    ∀ s ∈ buffers.map (sample p pixel channel), binary64.Holds s.weight := by
  intro s listed
  obtain ⟨b, member, rfl⟩ := List.mem_map.mp listed
  rw [(accepts b member).sample_eq supported inside known]
  exact (PixelType.single_of_holds supported
    ((accepts b member).holds_get supported inside p.alpha_lt_channels)).double

theorem tainted_iff (known : channel < p.channels) :
    Tainted p pixel channel buffers ↔
      Number.lt 0 (coverage (buffers.map (sample p pixel channel))) ∧
        ∃ s ∈ buffers.map (sample p pixel channel), s.Weightless ∧ s.colour.toRat? = none := by
  simp only [Tainted, List.mem_map, exists_exists_and_eq_and]
  refine and_congr_right fun _ => exists_congr fun b => and_congr_right fun member => ?_
  rw [(accepts b member).sample_eq supported inside known]
  rfl

theorem blend_alpha_filter :
    blend p p.alpha (buffers.map (sample p pixel p.alpha)) =
      blend p p.alpha ((buffers.filter fun b => ¬Weightless p pixel b).map
        (sample p pixel p.alpha)) := by
  rw [samples_filter supported accepts inside p.alpha_lt_channels]
  rw [blend, blend, if_pos rfl, if_pos rfl,
    coverage_filter (holds_samples supported accepts inside p.alpha_lt_channels)]

/-- A colour of the composite of all buffers, by that of the buffers with alpha. -/
theorem blend_colour_filter (below : channel < p.alpha) :
    blend p channel (buffers.map (sample p pixel channel)) =
      if Tainted p pixel channel buffers then .nan
      else blend p channel ((buffers.filter fun b => ¬Weightless p pixel b).map
        (sample p pixel channel)) := by
  have known := below.trans p.alpha_lt_channels
  have holds := holds_samples supported accepts inside known
  have undefined := tainted_iff supported accepts inside known
  rw [samples_filter supported accepts inside known, blend, blend, if_neg below.ne,
    if_neg below.ne]
  split
  · rename_i tainted
    obtain ⟨covered, infinite⟩ := undefined.mp tainted
    obtain ⟨-, b, member, -, colour⟩ := tainted
    have element := (accepts b member).holds_get supported inside known
    obtain ⟨f, domain⟩ := PixelType.floating_of_infinite element colour
    rw [mean_undefined covered infinite, PixelType.cast_floating domain]
    rfl
  · rename_i clean
    by_cases positive : Number.lt 0 (coverage (buffers.map (sample p pixel channel)))
    · have finite : ∀ s ∈ buffers.map (sample p pixel channel), s.Weightless →
          s.colour.toRat? ≠ none := fun s member weightless infinite =>
        clean (undefined.mpr ⟨positive, s, member, weightless, infinite⟩)
      rw [mean_filter holds finite]
    · rw [mean_uncovered positive, mean_uncovered (by rwa [coverage_filter holds])]

end

/-- Buffers without alpha at a pixel do not take part in it: without them the composite has the
same alpha and the same colours there. Only a colour that is not finite in such a buffer shows,
as an undefined one, where the total alpha is positive. -/
theorem weightedAverage_weightless (supported : p ∈ PixelType.supported)
    (accepts : ∀ b ∈ buffers, Accepts p height width b) (below : row < height) (left : col < width)
    (weighs : ∃ b ∈ buffers, ¬Weightless p (row * width + col) b) :
    let pixel := row * width + col
    ∃ composite rest, weightedAverage p buffers = .ok composite ∧
      weightedAverage p (buffers.filter fun b => ¬Weightless p pixel b) = .ok rest ∧
      composite.get (pixel * p.channels + p.alpha) = rest.get (pixel * p.channels + p.alpha) ∧
      ∀ channel < p.alpha, composite.get (pixel * p.channels + channel) =
        if Tainted p pixel channel buffers then .nan
        else rest.get (pixel * p.channels + channel) := by
  intro pixel
  have inside : pixel < height * width := pixel_lt below left
  have rows := Nat.zero_lt_of_lt below
  obtain ⟨b, member, weight⟩ := weighs
  have kept : b ∈ buffers.filter fun b => ¬Weightless p pixel b := by simp [member, pixel, weight]
  refine ⟨_, _, weightedAverage_rows (List.ne_nil_of_mem member) accepts rows,
    weightedAverage_rows (List.ne_nil_of_mem kept)
      (fun b member => accepts b (List.mem_of_mem_filter member)) rows, ?_, ?_⟩
  · rw [get_ofStack inside p.alpha_lt_channels, get_ofStack inside p.alpha_lt_channels,
      blend_alpha_filter supported accepts inside]
  · intro channel below
    have known := below.trans p.alpha_lt_channels
    rw [get_ofStack inside known, get_ofStack inside known,
      blend_colour_filter supported accepts inside below]

/-- Narrower elements, and a weight that is a negative zero. -/
theorem weightedAverage_weightless_negZero :
    let p : PixelType := ⟨.graya, .float32⟩
    let tile (element : ElementType) (colour weight : Number) : Buffer :=
      ⟨element, [1, 1, 2], #[colour, weight]⟩
    ∃ composite rest,
      weightedAverage p [tile .float32 3 1, tile .float16 7 .negZero, tile .int8 5 1] =
        .ok composite ∧
      weightedAverage p [tile .float32 3 1, tile .int8 5 1] = .ok rest ∧
      composite.get 1 = rest.get 1 ∧ composite.get 0 = rest.get 0 := by
  intro p tile
  have accepts : ∀ b ∈ [tile .float32 3 1, tile .float16 7 .negZero, tile .int8 5 1],
      Accepts p 1 1 b := by
    simp only [List.forall_mem_cons, List.not_mem_nil, false_implies, implies_true, and_true]
    refine ⟨?_, ?_, ?_⟩ <;> exact ⟨⟨rfl, by decide +kernel⟩, ⟨_, rfl⟩, rfl⟩
  obtain ⟨composite, rest, averaged, others, alpha, colours⟩ := weightedAverage_weightless
    (p := p) (by decide) accepts Nat.one_pos Nat.one_pos ⟨_, List.mem_cons_self, by decide⟩
  refine ⟨composite, rest, averaged, others, alpha, (colours 0 (by decide)).trans ?_⟩
  exact if_neg (by decide +kernel)

/-- A colour that is not finite shows in the composite although its weight is zero. -/
theorem infinite_colour_taints :
    let p : PixelType := ⟨.graya, .float32⟩
    let tile (colour weight : Number) : Buffer := ⟨.float32, [1, 1, 2], #[colour, weight]⟩
    let buffers := [tile .nan 0, tile 1 1]
    (∀ b ∈ buffers, Accepts p 1 1 b) ∧ (∃ b ∈ buffers, ¬Weightless p 0 b) ∧
      weightedAverage p buffers = .ok (tile .nan 1) ∧
      weightedAverage p (buffers.filter fun b => ¬Weightless p 0 b) = .ok (tile 1 1) := by
  intro p tile buffers
  refine ⟨?_, ⟨_, List.mem_cons_of_mem _ List.mem_cons_self, by decide⟩, by decide +kernel,
    by decide +kernel⟩
  simp only [buffers, List.forall_mem_cons, List.not_mem_nil, false_implies, implies_true, and_true]
  refine ⟨?_, ?_⟩ <;> exact ⟨⟨rfl, by decide +kernel⟩, ⟨_, rfl⟩, rfl⟩

end TileComposite.Composite
