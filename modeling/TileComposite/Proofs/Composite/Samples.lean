import TileComposite.Proofs.Composite.Exact
import TileComposite.Proofs.Pixel.Widening

/-! Samples of the buffers that a pixel type accepts. Whatever their element type, the numbers
of such buffers are numbers of the pixel type and of single precision, so that the accumulator
takes them as they are. -/
namespace TileComposite
variable {p : PixelType} {b : Buffer} {x : Number} {height width row col pixel channel : Nat}

/-- Elements of a supported pixel type are numbers of single precision. -/
theorem PixelType.single_of_holds (supported : p ∈ PixelType.supported)
    (holds : p.element.domain.Holds x) : binary32.Holds x := by
  refine ElementType.single_of_holds ?_ holds
  rcases PixelType.element_of_supported supported with h | h | h <;> rw [h] <;> decide

namespace Composite
variable {buffers : List Buffer}

/-- A buffer of the given height and width that the pixel type accepts. -/
structure Accepts (p : PixelType) (height width : Nat) (b : Buffer) : Prop where
  wellFormed : b.WellFormed
  accepted : ∃ tile, p.validate b = .ok tile
  shape_eq : b.shape = [height, width, p.channels]

/-- The buffer with its numbers taken for elements of the pixel type. -/
def retyped (p : PixelType) (b : Buffer) : Buffer := { b with element := p.element }

theorem Accepts.tile (supported : p ∈ PixelType.supported) (accepts : Accepts p height width b) :
    Tile p height width (retyped p b) := by
  obtain ⟨tile, accepted⟩ := accepts.accepted
  have holds := PixelType.holds_of_validate supported accepted accepts.wellFormed
  exact ⟨⟨accepts.wellFormed.size_eq, holds⟩, rfl, accepts.shape_eq⟩

/-- A tile of the pixel type is read as it is. -/
theorem Tile.validate_eq (tile : Tile p height width b) : p.validate b = .ok b := by
  rw [PixelType.validate, tile.shape_eq, if_pos ⟨rfl, rfl⟩, if_pos tile.element_eq]

theorem Tile.accepts (tile : Tile p height width b) : Accepts p height width b :=
  ⟨tile.wellFormed, ⟨b, tile.validate_eq⟩, tile.shape_eq⟩

theorem Tile.holds_get (tile : Tile p height width b) (inside : pixel < height * width)
    (known : channel < p.channels) :
    p.element.domain.Holds (b.get (pixel * p.channels + channel)) := by
  have holds := Buffer.holds_get tile.wellFormed (tile.shape_eq ▸ offset_lt inside known)
  rwa [tile.element_eq] at holds

theorem Accepts.holds_get (supported : p ∈ PixelType.supported)
    (accepts : Accepts p height width b) (inside : pixel < height * width)
    (known : channel < p.channels) :
    p.element.domain.Holds (b.get (pixel * p.channels + channel)) :=
  (accepts.tile supported).holds_get inside known

/-- The sample of an accepted buffer holds its numbers. -/
theorem Accepts.sample_eq (supported : p ∈ PixelType.supported)
    (accepts : Accepts p height width b) (inside : pixel < height * width)
    (known : channel < p.channels) :
    sample p pixel channel b =
      ⟨b.get (pixel * p.channels + p.alpha), b.get (pixel * p.channels + channel)⟩ := by
  have kept {c : Nat} (known : c < p.channels) :
      binary64.ofNumber (b.get (pixel * p.channels + c)) = b.get (pixel * p.channels + c) :=
    (PixelType.single_of_holds supported (accepts.holds_get supported inside known)).double
  rw [sample, channelCount_eq accepts.shape_eq]
  exact congrArg₂ Sample.mk (kept p.alpha_lt_channels) (kept known)

theorem pixel_lt (below : row < height) (left : col < width) : row * width + col < height * width :=
  calc row * width + col < (row + 1) * width := by rw [add_mul]; omega
    _ ≤ height * width := Nat.mul_le_mul_right _ below

theorem mean_uncovered {stack : List Sample} (uncovered : ¬Number.lt 0 (coverage stack)) :
    mean stack = 0 :=
  if_neg uncovered

/-- Buffers with rows have a composite. -/
theorem weightedAverage_rows (nonempty : buffers ≠ [])
    (accepts : ∀ b ∈ buffers, Accepts p height width b) (rows : 0 < height) :
    weightedAverage p buffers = .ok (ofStack p height width buffers) := by
  have grid : isGrid height width := isGrid_iff.mpr fun flat => by omega
  rw [weightedAverage_eq nonempty fun b member => (accepts b member).shape_eq, if_pos grid]

/-! ### Integer buffers -/

variable {bits : Nat} {low high : Int}

/-- The exact pixel of tiles is that of all accepted buffers, whose numbers are the same. -/
theorem exactPixel_accepts (supported : p ∈ PixelType.supported)
    (domain : p.element.domain = .whole bits low high) (few : buffers.length < 2 ^ 22)
    (accepts : ∀ b ∈ buffers, Accepts p height width b) (inside : pixel < height * width) :
    ExactPixel p low high buffers pixel (ofStack p height width buffers) := by
  have tiles : ∀ b ∈ buffers.map (retyped p), Tile p height width b := by
    intro b listed
    obtain ⟨c, member, rfl⟩ := List.mem_map.mp listed
    exact (accepts c member).tile supported
  have pixels := exactPixel_ofStack supported domain (by rwa [List.length_map]) tiles inside
  have composite : ofStack p height width (buffers.map (retyped p)) =
      ofStack p height width buffers := by
    simp only [ofStack, List.map_map]
    rfl
  have total : weight p (buffers.map (retyped p)) pixel = weight p buffers pixel := by
    simp only [weight, List.map_map]
    rfl
  have sum (channel : Nat) : weighted p (buffers.map (retyped p)) pixel channel =
      weighted p buffers pixel channel := by
    simp only [weighted, List.map_map]
    rfl
  rw [composite] at pixels
  constructor
  · rw [← total]
    exact pixels.alpha
  · simp only [← total, ← sum]
    exact pixels.covered
  · rw [← total]
    exact pixels.uncovered

theorem Accepts.whole_mem (supported : p ∈ PixelType.supported)
    (domain : p.element.domain = .whole bits low high) (accepts : Accepts p height width b)
    (inside : pixel < height * width) (known : channel < p.channels) :
    low ≤ b.whole (pixel * p.channels + channel) ∧ b.whole (pixel * p.channels + channel) ≤ high := by
  have tile := accepts.tile supported
  have offset := offset_lt inside known
  rw [← tile.shape_eq] at offset
  rw [← tile.element_eq] at domain
  exact (Buffer.get_whole tile.wellFormed domain offset).2

end Composite
end TileComposite
