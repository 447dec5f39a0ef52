import TileComposite.Pixel.Capacity

/-! Pixel buffers: elements of one type in rows of a rectangular shape, the last
axis running fastest. A tile of a plate has the axes height, width and channel. -/
namespace TileComposite

structure Buffer where
  element : ElementType
  shape : List Nat
  data : Array Number
  deriving DecidableEq

namespace Buffer

/-- Number of elements of a shape. -/
def volume (shape : List Nat) : Nat := shape.foldr (· * ·) 1

/-- A well-formed buffer has as many elements as its shape asks for, each of its
element type. -/
structure WellFormed (b : Buffer) : Prop where
  size_eq : b.data.size = volume b.shape
  holds : ∀ x ∈ b.data, b.element.domain.Holds x

/-- The element at an offset; none is missing in a well-formed buffer. -/
def get (b : Buffer) (offset : Nat) : Number := b.data[offset]?.getD 0

/-- A buffer whose last axis repeats the given elements: all of them in order, or
the only one. -/
def fill (element : ElementType) (shape : List Nat) (row : Array Number) : Buffer :=
  ⟨element, shape, .ofFn fun i : Fin (volume shape) => row[i.val % row.size]?.getD 0⟩

end Buffer

namespace PixelType

/-- A buffer of zeros for a tile of the given width and height. -/
def empty (p : PixelType) (width height : Int) : Except Failure Buffer := do
  let shape ← checkExtents p.element [height, width, p.channels]
  return ⟨p.element, shape, .replicate (Buffer.volume shape) 0⟩

/-- Reads a stored buffer as a tile of the pixel type: its shape must have three
axes, the last as long as a pixel has channels, and its elements must widen to
those of the type. -/
def validate (p : PixelType) (b : Buffer) : Except Failure Buffer :=
  if b.shape.length = 3 ∧ b.shape[2]? = some p.channels then
    if b.element = p.element then .ok b
    else if b.element.domain.widensTo p.element.domain then
      .ok ⟨p.element, b.shape, b.data.map p.element.domain.ofNumber⟩
    else .error (.unreadableElement b.element p)
  else .error (.unexpectedShape p b.shape)

end PixelType
end TileComposite
