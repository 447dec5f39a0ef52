import TileComposite.Proofs.Composite.Sums

/-! The weighted average of integer tiles, pixel by pixel. Every element of a composite is what
exact arithmetic gives for the samples of its pixel, rounded once at the end, whatever the
order of the tiles. -/
namespace TileComposite.Composite

/-- The weight and the colour of a buffer's pixel in a channel. -/
def wholes (p : PixelType) (pixel channel : Nat) (b : Buffer) : Int × Int :=
  (b.whole (pixel * p.channels + p.alpha), b.whole (pixel * p.channels + channel))

/-- The total weight of a pixel. -/
def weight (p : PixelType) (buffers : List Buffer) (pixel : Nat) : Int :=
  (buffers.map fun b => b.whole (pixel * p.channels + p.alpha)).sum

/-- The sum of a pixel's colours in a channel, each as often as its weight says. -/
def weighted (p : PixelType) (buffers : List Buffer) (pixel channel : Nat) : Int :=
  (buffers.map fun b => b.whole (pixel * p.channels + p.alpha) *
    b.whole (pixel * p.channels + channel)).sum

/-- A pixel of a composite: its alpha is the total weight, as far as alpha reaches, and each
colour the mean, rounded to a nearest whole number and as far as the type reaches. Without
weight the pixel has no colour. -/
structure ExactPixel (p : PixelType) (low high : Int) (buffers : List Buffer) (pixel : Nat)
    (composite : Buffer) : Prop where
  alpha : composite.get (pixel * p.channels + p.alpha) =
    .ofInt (max 0 (min high (weight p buffers pixel)))
  covered : 0 < weight p buffers pixel → ∀ channel < p.alpha,
    ∃ n, NearestEven (weighted p buffers pixel channel / weight p buffers pixel) n ∧
      composite.get (pixel * p.channels + channel) = .ofInt (max low (min high n))
  uncovered : weight p buffers pixel ≤ 0 → ∀ channel < p.alpha,
    composite.get (pixel * p.channels + channel) = .ofInt 0

/-- A tile in the elements of its pixel type. -/
structure Tile (p : PixelType) (height width : Nat) (b : Buffer) : Prop where
  wellFormed : b.WellFormed
  element_eq : b.element = p.element
  shape_eq : b.shape = [height, width, p.channels]

variable {p : PixelType} {bits : Nat} {low high : Int} {height width pixel channel : Nat}
  {b : Buffer} {buffers others : List Buffer}

theorem volume_eq (height width channels : Nat) :
    Buffer.volume [height, width, channels] = height * width * channels := by
  simp [Buffer.volume, Nat.mul_assoc]

theorem offset_lt (inside : pixel < height * width) (known : channel < p.channels) :
    pixel * p.channels + channel < Buffer.volume [height, width, p.channels] := by
  have elements := Nat.mul_le_mul_right p.channels (Nat.succ_le_of_lt inside)
  rw [Nat.succ_mul] at elements
  rw [volume_eq]
  omega

theorem channelCount_eq (shape : b.shape = [height, width, p.channels]) :
    channelCount b = p.channels := by
  rw [channelCount, shape]
  rfl

/-- In accumulator precision an element of a narrow integer type is what it was. -/
theorem ofNumber_whole {n : Int} (few : |n| ≤ 2 ^ 15) : binary64.ofNumber (.ofInt n) = .ofInt n :=
  Format.round_whole (few.trans_lt (by norm_num))

theorem sample_whole (supported : p ∈ PixelType.supported)
    (domain : p.element.domain = .whole bits low high) (tile : Tile p height width b)
    (inside : pixel < height * width) (known : channel < p.channels) :
    sample p pixel channel b = wholeSample (wholes p pixel channel b) ∧
      |(wholes p pixel channel b).1| ≤ 2 ^ 15 ∧ |(wholes p pixel channel b).2| ≤ 2 ^ 15 := by
  obtain ⟨_, _, lowest, highest⟩ := range_of_supported supported domain
  have element {c : Nat} (known : c < p.channels) :
      binary64.ofNumber (b.get (pixel * p.channels + c)) =
          .ofInt (b.whole (pixel * p.channels + c)) ∧
        |b.whole (pixel * p.channels + c)| ≤ 2 ^ 15 := by
    have offset := offset_lt inside known
    rw [← tile.shape_eq] at offset
    rw [← tile.element_eq] at domain
    obtain ⟨got, lower, upper⟩ := Buffer.get_whole tile.wellFormed domain offset
    have few := abs_le.mpr ⟨lowest.trans lower, upper.trans highest⟩
    exact ⟨by rw [got, ofNumber_whole few], few⟩
  have alpha := element p.alpha_lt_channels
  have colour := element known
  refine ⟨?_, alpha.2, colour.2⟩
  rw [sample, channelCount_eq tile.shape_eq]
  exact congrArg₂ Sample.mk alpha.1 colour.1

theorem samples_whole (supported : p ∈ PixelType.supported)
    (domain : p.element.domain = .whole bits low high)
    (tiles : ∀ b ∈ buffers, Tile p height width b)
    (inside : pixel < height * width) (known : channel < p.channels) :
    buffers.map (sample p pixel channel) =
        (buffers.map (wholes p pixel channel)).map wholeSample ∧
      Narrow (buffers.map (wholes p pixel channel)) := by
  have each {b : Buffer} (member : b ∈ buffers) :=
    sample_whole supported domain (tiles b member) inside known
  constructor
  · rw [List.map_map]
    exact List.map_congr_left fun b member => (each member).1
  · intro s member
    obtain ⟨b, listed, rfl⟩ := List.mem_map.mp member
    exact (each listed).2

theorem get_ofStack (inside : pixel < height * width) (known : channel < p.channels) :
    (ofStack p height width buffers).get (pixel * p.channels + channel) =
      blend p channel (buffers.map (sample p pixel channel)) := by
  have offset := offset_lt inside known
  have positive : 0 < p.channels := Nat.zero_lt_of_lt known
  have remainder : (pixel * p.channels + channel) % p.channels = channel := by
    rw [Nat.mul_add_mod', Nat.mod_eq_of_lt known]
  have quotient : (pixel * p.channels + channel) / p.channels = pixel := by
    rw [Nat.mul_comm, Nat.mul_add_div positive, Nat.div_eq_of_lt known, add_zero]
  rw [Buffer.get, ofStack, Array.getElem?_ofFn, dif_pos offset]
  dsimp only
  rw [remainder, quotient]
  rfl

theorem exactPixel_ofStack (supported : p ∈ PixelType.supported)
    (domain : p.element.domain = .whole bits low high) (few : buffers.length < 2 ^ 22)
    (tiles : ∀ b ∈ buffers, Tile p height width b) (inside : pixel < height * width) :
    ExactPixel p low high buffers pixel (ofStack p height width buffers) := by
  have blended {channel : Nat} (known : channel < p.channels) :=
    samples_whole supported domain tiles inside known
  have few' (channel : Nat) : (buffers.map (wholes p pixel channel)).length < 2 ^ 22 := by
    rwa [List.length_map]
  have total (channel : Nat) :
      ((buffers.map (wholes p pixel channel)).map Prod.fst).sum = weight p buffers pixel := by
    rw [List.map_map]
    rfl
  have products (channel : Nat) : ((buffers.map (wholes p pixel channel)).map
      fun s => s.1 * s.2).sum = weighted p buffers pixel channel := by
    rw [List.map_map]
    rfl
  have colour {channel : Nat} (below : channel < p.alpha) :
      (ofStack p height width buffers).get (pixel * p.channels + channel) =
        if 0 < weight p buffers pixel then
          .ofInt (max low (min high (nearestInt
            (weighted p buffers pixel channel / weight p buffers pixel))))
        else .ofInt 0 := by
    have known := below.trans p.alpha_lt_channels
    obtain ⟨whole, narrow⟩ := blended known
    rw [get_ofStack inside known, whole,
      blend_colour supported domain narrow (few' channel) below.ne, total, products]
  constructor
  · obtain ⟨whole, narrow⟩ := blended p.alpha_lt_channels
    rw [get_ofStack inside p.alpha_lt_channels, whole,
      blend_alpha supported domain narrow (few' p.alpha), total]
  · intro positive channel below
    exact ⟨_, nearestInt_spec _, by rw [colour below, if_pos positive]⟩
  · intro negative channel below
    rw [colour below, if_neg (not_lt.mpr negative)]

theorem ofStack_perm (supported : p ∈ PixelType.supported)
    (domain : p.element.domain = .whole bits low high) (few : buffers.length < 2 ^ 22)
    (tiles : ∀ b ∈ buffers, Tile p height width b) (perm : others.Perm buffers) :
    ofStack p height width others = ofStack p height width buffers := by
  have tiles' : ∀ b ∈ others, Tile p height width b := fun b member =>
    tiles b (perm.mem_iff.mp member)
  unfold ofStack
  congr 2
  funext i
  have positive : 0 < p.channels := Nat.zero_lt_of_lt p.alpha_lt_channels
  have known : i.val % p.channels < p.channels := Nat.mod_lt _ positive
  have inside : i.val / p.channels < height * width :=
    Nat.div_lt_of_lt_mul (by rw [Nat.mul_comm, ← volume_eq]; exact i.isLt)
  obtain ⟨whole, narrow⟩ := samples_whole supported domain tiles inside known
  obtain ⟨whole', _⟩ := samples_whole supported domain tiles' inside known
  dsimp only
  rw [whole, whole']
  exact blend_perm supported domain (perm.map _) narrow (by rwa [List.length_map]) _

/-- The average of integer tiles is exact in every pixel, as if no sum, product or quotient had
been rounded, and the order of the tiles does not matter. -/
theorem weightedAverage_exact (supported : p ∈ PixelType.supported)
    (domain : p.element.domain = .whole bits low high) (nonempty : buffers ≠ [])
    (few : buffers.length < 2 ^ 22) (tiles : ∀ b ∈ buffers, Tile p height width b) :
    (∀ row < height, ∀ col < width, ∃ composite,
      weightedAverage p buffers = .ok composite ∧ composite.element = p.element ∧
        composite.shape = [height, width, p.channels] ∧
        ExactPixel p low high buffers (row * width + col) composite) ∧
    ∀ others, others.Perm buffers → weightedAverage p others = weightedAverage p buffers := by
  have averaged := weightedAverage_eq nonempty fun b member => (tiles b member).shape_eq
  constructor
  · intro row below col left
    have grid : isGrid height width := isGrid_iff.mpr fun flat => by omega
    have inside : row * width + col < height * width := by
      calc row * width + col < (row + 1) * width := by rw [add_mul]; omega
        _ ≤ height * width := Nat.mul_le_mul_right _ below
    rw [if_pos grid] at averaged
    exact ⟨_, averaged, rfl, rfl, exactPixel_ofStack supported domain few tiles inside⟩
  · intro others perm
    have nonempty' : others ≠ [] := fun empty => nonempty (List.Perm.eq_nil (empty ▸ perm.symm))
    have averaged' := weightedAverage_eq nonempty' fun b member =>
      (tiles b (perm.mem_iff.mp member)).shape_eq
    rw [averaged, averaged', ofStack_perm supported domain few tiles perm]

/-- A weight of three and a negative one: the mean of five and a half goes to the even six. -/
theorem weightedAverage_exact_tie :
    let p : PixelType := ⟨.graya, .int16⟩
    let tile (colour weight : Rat) : Buffer :=
      ⟨.int16, [1, 1, 2], #[.finite colour, .finite weight]⟩
    ∃ composite, weightedAverage p [tile 7 3, tile 10 (-1)] = .ok composite ∧
      ExactPixel p (-32768) 32767 [tile 7 3, tile 10 (-1)] 0 composite := by
  intro p tile
  have tiles : ∀ b ∈ [tile 7 3, tile 10 (-1)], Tile p 1 1 b := by
    rw [List.forall_mem_cons, List.forall_mem_singleton]
    exact ⟨⟨⟨rfl, by decide⟩, rfl, rfl⟩, ⟨⟨rfl, by decide⟩, rfl, rfl⟩⟩
  have exact_average := weightedAverage_exact (p := p) (by decide) rfl (List.cons_ne_nil _ _)
    (by decide) tiles
  obtain ⟨composite, averaged, _, _, pixel⟩ := exact_average.1 0 Nat.one_pos 0 Nat.one_pos
  exact ⟨composite, averaged, pixel⟩

end TileComposite.Composite
