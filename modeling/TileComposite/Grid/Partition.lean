import TileComposite.Grid.Slot
import TileComposite.Grid.Unit

/-! The square grid of a pyramid level and its partition into blocks, row by row
of blocks. Blocks in the last row and column are clipped to the grid. -/
namespace TileComposite

/-- Width and height of the grid at a level. -/
def levelSize (level : Int) : Except Failure Int :=
  if level < 0 then .error (.negativeLevel level) else .ok (Nat.pow 2 level.toNat)

/-- Edge length of a block, in cells. -/
structure BlockSize where
  edge : Int
  edge_pos : 1 ≤ edge := by omega
  deriving DecidableEq

namespace BlockSize

def standard : BlockSize := ⟨4, by decide⟩

def ofEdge (edge : Int) : Except Failure BlockSize :=
  if h : 1 ≤ edge then .ok ⟨edge, h⟩ else .error (.emptyBlock edge)

theorem start_le_min (b : BlockSize) (size start : Int) (h : start ≤ size) :
    start ≤ min (start + b.edge) size := by
  have := b.edge_pos
  omega

/-- From a start on, the starts of blocks that lie inside the grid, an edge apart. -/
def startsFrom (b : BlockSize) (size start : Int) : List Int :=
  if start < size then start :: b.startsFrom size (start + b.edge) else []
termination_by (size - start).toNat
decreasing_by
  have := b.edge_pos
  omega

/-- The starts of the blocks along an edge of the grid. -/
def starts (b : BlockSize) (size : Int) : List Int := b.startsFrom size 0

/-- The block that starts at a column and a row, clipped to the grid. -/
def block? (b : BlockSize) (size level colMin rowMin : Int) : Option WorkUnit :=
  if h : colMin ≤ size ∧ rowMin ≤ size then
    some ⟨level, colMin, rowMin, min (colMin + b.edge) size, min (rowMin + b.edge) size,
      b.start_le_min size colMin h.1, b.start_le_min size rowMin h.2⟩
  else none

/-- Covers a square grid with blocks; block rows outside, block columns inside. -/
def partition (b : BlockSize) (size level : Int) : Except Failure (List WorkUnit) :=
  if size < 0 then .error (.negativeGrid size)
  else .ok <| (b.starts size).flatMap fun rowMin =>
    (b.starts size).filterMap fun colMin => b.block? size level colMin rowMin

/-- Number of blocks along an edge of the grid: the quotient rounded up. -/
def blocksAlong (b : BlockSize) (size : Int) : Int := -((-size).fdiv b.edge)

/-- Number of blocks of a grid. -/
def unitCount (b : BlockSize) (size : Int) : Int := b.blocksAlong size * b.blocksAlong size

/-- The share of a slot in the partition of a level. -/
def unitsForSlot (b : BlockSize) (level : Int) (slot : Slot) : Except Failure (List WorkUnit) := do
  return slot.select (← b.partition (← levelSize level) level)

end BlockSize
end TileComposite
