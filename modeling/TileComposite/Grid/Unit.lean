import TileComposite.Failure

/-! Rectangles of grid cells at one pyramid level. Ranges are half-open, and the
cells of a rectangle are listed column by column. -/
namespace TileComposite

/-- A grid cell. -/
structure Cell where
  col : Int
  row : Int
  deriving DecidableEq

structure WorkUnit where
  level : Int
  colMin : Int
  rowMin : Int
  colMax : Int
  rowMax : Int
  cols_ordered : colMin ≤ colMax := by omega
  rows_ordered : rowMin ≤ rowMax := by omega
  deriving DecidableEq

namespace WorkUnit

/-- The unit of the given bounds, refused when a range is inverted. -/
def ofBounds (level colMin rowMin colMax rowMax : Int) : Except Failure WorkUnit :=
  if h : colMin ≤ colMax ∧ rowMin ≤ rowMax then
    .ok ⟨level, colMin, rowMin, colMax, rowMax, h.1, h.2⟩
  else .error (.invertedUnit colMin rowMin colMax rowMax)

def width (u : WorkUnit) : Int := u.colMax - u.colMin

def height (u : WorkUnit) : Int := u.rowMax - u.rowMin

def cellCount (u : WorkUnit) : Int := u.width * u.height

/-- The whole numbers from `low` up to but not including `high`. -/
def span (low high : Int) : List Int :=
  (List.range (high - low).toNat).map fun (i : Nat) => low + i

/-- Columns outside, rows inside. -/
def cells (u : WorkUnit) : List Cell :=
  (span u.colMin u.colMax).flatMap fun col =>
    (span u.rowMin u.rowMax).map fun row => ⟨col, row⟩

/-- The label of a unit that is labelled, see `Labelled`. -/
def text (u : WorkUnit) : String :=
  s!"L{u.level}[{u.colMin}:{u.colMax}, {u.rowMin}:{u.rowMax}]"

/-- No integer is too long for the label of the unit. -/
def Labelled (u : WorkUnit) : Prop :=
  ∀ n ∈ [u.level, u.colMin, u.colMax, u.rowMin, u.rowMax], Text.Writable n

instance : DecidablePred Labelled := fun u => inferInstanceAs
  (Decidable (∀ n ∈ [u.level, u.colMin, u.colMax, u.rowMin, u.rowMax], Text.Writable n))

end WorkUnit
end TileComposite
