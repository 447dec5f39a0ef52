import Std.Data.ExtTreeMap
import TileComposite.Plate.Protocol

/-! A plate held in memory: a map from tile versions to buffers. Updates are
staged while a write is open and become visible together, in their order, when
the write completes. Every call is logged, whatever becomes of it. -/
namespace TileComposite

/-! ### Order of tile versions -/

namespace TileId

/-- By level, then column, then row, then transaction. -/
instance : Ord TileId where
  compare a b :=
    (((compare a.level b.level).then (compare a.col b.col)).then (compare a.row b.row)).then
      (compare a.transaction b.transaction)

theorem compare_eq : (compare : TileId → TileId → Ordering) =
    compareLex (compareLex (compareLex (compareOn level) (compareOn col)) (compareOn row))
      (compareOn transaction) := rfl

instance : Std.TransOrd TileId := by
  unfold Std.TransOrd
  rw [compare_eq]
  infer_instance

instance : Std.LawfulEqOrd TileId where
  eq_of_compare {a b} h := by
    change (((compare a.level b.level).then (compare a.col b.col)).then
      (compare a.row b.row)).then (compare a.transaction b.transaction) = .eq at h
    simp only [Ordering.then_eq_eq] at h
    obtain ⟨⟨⟨hl, hc⟩, hr⟩, ht⟩ := h
    cases a
    cases b
    congr
    · exact Std.LawfulEqOrd.eq_of_compare hl
    · exact Std.LawfulEqOrd.eq_of_compare hc
    · exact Std.LawfulEqOrd.eq_of_compare hr
    · exact Std.LawfulEqOrd.eq_of_compare ht

end TileId

/-- The tiles of a plate, by version. -/
abbrev TileMap := Std.ExtTreeMap TileId Buffer

/-- A tile map with staged updates applied in order. -/
def TileMap.apply (tiles : TileMap) (staged : List (TileId × Buffer)) : TileMap :=
  staged.foldl (fun m (id, b) => m.insert id b) tiles

/-- A plate in memory. `staged` is present while a write is open. -/
structure MemoryPlate where
  levels : Int
  format : Declared PixelFormat
  channel : Declared ChannelType
  tiles : TileMap := ∅
  staged : Option (List (TileId × Buffer)) := none
  log : Array Call := #[]

namespace MemoryPlate

/-- An empty plate with a number of levels. Declarations are kept as they are. -/
def create (levels : Int) (format : Declared PixelFormat := .member .rgba)
    (channel : Declared ChannelType := .member .uint8) : Except Failure MemoryPlate :=
  if levels < 0 then .error (.negativeLevelCount levels)
  else .ok ⟨levels, format, channel, ∅, none, #[]⟩

def writeOpen (p : MemoryPlate) : Bool := p.staged.isSome

def checkLevel (p : MemoryPlate) (level : Int) : Except Failure Unit :=
  if 0 ≤ level ∧ level < p.levels then .ok () else .error (.levelOutside level p.levels)

/-- Stores a tile outside of the protocol. -/
def put (p : MemoryPlate) (id : TileId) (b : Buffer) : Except Failure MemoryPlate := do
  p.checkLevel id.level
  return { p with tiles := p.tiles.insert id b }

/-- The stored tile of a version, if there is one. -/
def get? (p : MemoryPlate) (id : TileId) : Option Buffer := p.tiles[id]?

/-- Puts a version in its place among versions by ascending transaction, before those of
its own transaction. -/
def insertVersion (id : TileId) : List TileId → List TileId
  | [] => [id]
  | other :: rest =>
    if id.transaction ≤ other.transaction then id :: other :: rest
    else other :: insertVersion id rest

/-- The versions at a cell with a transaction from `first` to `last`, picked from a
listing in any order and sorted by their transactions. -/
def sorted (level : Int) (cell : Cell) (first last : Int) (listing : List TileId) : List TileId :=
  let picked := listing.filter fun id =>
    id.level = level ∧ id.col = cell.col ∧ id.row = cell.row
      ∧ first ≤ id.transaction ∧ id.transaction ≤ last
  picked.foldr insertVersion []

/-- The stored versions at a cell, by ascending transaction. -/
def versions (p : MemoryPlate) (level : Int) (cell : Cell) (first last : Int) : List TileId :=
  sorted level cell first last p.tiles.keys

/-- Finds the versions at a cell; having none is a failure. -/
def search (p : MemoryPlate) (level : Int) (cell : Cell) (first last : Int) :
    Except Failure (List TileId) := do
  p.checkLevel level
  match p.versions level cell first last with
  | [] => .error (.noTiles cell.col cell.row level first last)
  | ids => return ids

def read (p : MemoryPlate) (id : TileId) : Except Failure Buffer :=
  match p.tiles[id]? with
  | some b => .ok b
  | none => .error (.noTile id.col id.row id.level id.transaction)

/-- Opens a write with nothing staged. -/
def request (p : MemoryPlate) : Except Failure MemoryPlate :=
  match p.staged with
  | some _ => .error .writeOpen
  | none => .ok { p with staged := some [] }

/-- Stages a tile for the open write. -/
def update (p : MemoryPlate) (id : TileId) (b : Buffer) : Except Failure MemoryPlate :=
  match p.staged with
  | none => .error .updateUnrequested
  | some staged => do
    p.checkLevel id.level
    return { p with staged := some (staged ++ [(id, b)]) }

/-- Makes the staged tiles visible and closes the write. -/
def complete (p : MemoryPlate) : Except Failure MemoryPlate :=
  match p.staged with
  | none => .error .completeUnrequested
  | some staged => .ok { p with tiles := TileMap.apply p.tiles staged, staged := none }

/-- Carries out a change of the plate, which stays as it was if the change fails. -/
def attempt (p : MemoryPlate) : Except Failure MemoryPlate → Except Failure Unit × MemoryPlate
  | .ok q => (.ok (), q)
  | .error e => (.error e, p)

/-- Answers a call, after logging it. -/
def respond (c : Call) (plate : MemoryPlate) : Except Failure c.Reply × MemoryPlate :=
  let p := { plate with log := plate.log.push c }
  match c with
  | .search level cell first last _ => ((p.search level cell first last).map some, p)
  | .read id _ => (p.read id, p)
  | .writeRequest => p.attempt p.request
  | .writeUpdate id b => p.attempt (p.update id b)
  | .writeComplete => p.attempt p.complete

end MemoryPlate

/-- A plate in memory as a plate. -/
def memoryPlate : Plate MemoryPlate where
  levels := MemoryPlate.levels
  format := MemoryPlate.format
  channel := MemoryPlate.channel
  respond := MemoryPlate.respond

end TileComposite
