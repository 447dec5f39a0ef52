import TileComposite.Composite
import TileComposite.Plate.Program

/-! Aggregation: every stored version of each cell becomes one composite. The
cells of the work units are handled strictly one after another, each by a search,
a read of every version found, and a write in three phases. A cell without
versions is skipped. The first failure ends the run; nothing is retried and
earlier cells keep their composites. A run by itself writes no log; one that is
logged fails where a line of the log cannot be written. -/
namespace TileComposite

/-- Settings of an aggregation. -/
structure Aggregation where
  pixel : PixelType
  reducer : Reducer
  level : Int
  first : Int
  last : Int
  output : Int

/-- Counters of an aggregation. -/
structure Summary where
  units : Nat := 0
  visited : Nat := 0
  reduced : Nat := 0
  skipped : Nat := 0
  tiles : Nat := 0
  deriving DecidableEq

/-- Counts a visited cell from which a number of tiles was read. -/
def Summary.visit (s : Summary) (tiles : Nat) : Summary :=
  if tiles = 0 then { s with visited := s.visited + 1, skipped := s.skipped + 1 }
  else
    { s with visited := s.visited + 1, reduced := s.reduced + 1, tiles := s.tiles + tiles }

namespace Aggregation

variable (a : Aggregation)

/-- The search for the versions of a cell. -/
def request (cell : Cell) : Call := .search a.level cell a.first a.last true

/-- The versions of a cell. A tile that is not found is the same as none. -/
def query (cell : Cell) : Program (List TileId) :=
  .call (a.request cell) fun
    | .ok found => .done (found.getD [])
    | .error e => if e.category = .tileNotFound then .done [] else .fail e

/-- The stored version of a cell under a transaction. -/
def tile (cell : Cell) (transaction : Int) : TileId := ⟨a.level, cell.col, cell.row, transaction⟩

/-- Accepts a buffer as a tile of the pixel type, or blames the version. -/
def accept (cell : Cell) (transaction : Int) (b : Buffer) : Except Failure Buffer :=
  (a.pixel.validate b).mapError (.rejectedTile cell.col cell.row transaction)

/-- Ascending order of shapes, axis by axis. -/
def shapeLe : List Nat → List Nat → Bool
  | [], _ => true
  | _ :: _, [] => false
  | m :: s, n :: t => decide (m < n) || (decide (m = n) && shapeLe s t)

/-- The different shapes among buffers, in ascending order. -/
def shapes (buffers : List Buffer) : List (List Nat) :=
  (buffers.map (·.shape)).eraseDups.mergeSort shapeLe

/-- The buffers have one shape. -/
def sameSize (cell : Cell) (buffers : List Buffer) : Except Failure Unit :=
  let found := shapes buffers
  if 1 < found.length then .error (.unequalTiles cell.col cell.row found) else .ok ()

/-- Reads one version of a cell. -/
def readVersion (cell : Cell) (id : TileId) : Program Buffer := do
  let b ← Program.require (.read (a.tile cell id.transaction) true)
  .ofExcept (a.accept cell id.transaction b)

/-- Reads versions of a cell in order. -/
def readVersions (cell : Cell) : List TileId → Program (List Buffer)
  | [] => .done []
  | id :: ids => do
    let b ← a.readVersion cell id
    let bs ← readVersions cell ids
    .done (b :: bs)

/-- Reads the versions of a cell, which must agree in size. -/
def load (cell : Cell) (ids : List TileId) : Program (List Buffer) := do
  let buffers ← a.readVersions cell ids
  .ofExcept (sameSize cell buffers)
  .done buffers

/-- Writes a composite through the three phases. -/
def commit (cell : Cell) (b : Buffer) : Program Unit := do
  Program.require .writeRequest
  Program.require (.writeUpdate (a.tile cell a.output) b)
  Program.require .writeComplete

/-- Reduces a cell and returns the number of versions it had. -/
def processCell (cell : Cell) : Program Nat := do
  let ids ← a.query cell
  if ids.isEmpty then .done 0
  else
    let buffers ← a.load cell ids
    let composite ← .ofExcept (a.reducer.reduce a.pixel buffers)
    a.commit cell composite
    .done ids.length

/-- Reduces cells in order, counting on from a summary. -/
def processCells : List Cell → Summary → Program Summary
  | [], s => .done s
  | cell :: cells, s => do
    let tiles ← a.processCell cell
    processCells cells (s.visit tiles)

/-- Reduces the units from position `i` on, out of `total`, reporting each unit as
it begins. -/
def processFrom (total : Nat) : Nat → List WorkUnit → Summary → Program Summary
  | _, [], s => .done s
  | i, unit :: units, s =>
    .report ⟨total, i, some unit.text, .processing⟩ do
      let s ← a.processCells unit.cells s
      processFrom total (i + 1) units s

/-- Reduces every cell of the units. -/
def process (units : List WorkUnit) : Program Summary :=
  .report ⟨units.length, 0, none, .processing⟩ do
    let summary ← a.processFrom units.length 0 units { units := units.length }
    .report ⟨units.length, units.length, none, .complete⟩ (.done summary)

/-- Reduces every cell of the units, up to the first unit whose label cannot be written. -/
def processLogged (units : List WorkUnit) : Program Summary :=
  let labelled := units.takeWhile fun unit => unit.Labelled
  .report ⟨units.length, 0, none, .processing⟩ do
    let summary ← a.processFrom units.length 0 labelled { units := units.length }
    if labelled.length < units.length then .fail .unlogged
    else .report ⟨units.length, units.length, none, .complete⟩ (.done summary)

end Aggregation
end TileComposite
