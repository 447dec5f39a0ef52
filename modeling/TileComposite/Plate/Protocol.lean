import TileComposite.Grid.Unit
import TileComposite.Pixel.Buffer
import TileComposite.Pixel.Declared

/-! The protocol of a plate, a tiled and versioned raster pyramid. A tile version
is found by a search over transactions, read, and written in three phases: a
request, an update and a completion. Every call is data, so that a plate is any
function from calls to replies that carries a state along. -/
namespace TileComposite

/-- The place and transaction of a tile version. -/
structure TileId where
  level : Int
  col : Int
  row : Int
  transaction : Int
  deriving DecidableEq

inductive Method where
  | search | read | writeRequest | writeUpdate | writeComplete
  deriving DecidableEq

namespace Method

def all : List Method := [search, read, writeRequest, writeUpdate, writeComplete]

def name : Method → String
  | search => "search_by_location"
  | read => "read"
  | writeRequest => "write_request"
  | writeUpdate => "write_update"
  | writeComplete => "write_complete"

def ofName? (name : String) : Option Method := all.find? (·.name = name)

end Method

/-- A call to a plate. An exact search or read stays at its cell. -/
inductive Call where
  | search (level : Int) (cell : Cell) (first last : Int) (exact : Bool)
  | read (tile : TileId) (exact : Bool)
  | writeRequest
  | writeUpdate (tile : TileId) (buffer : Buffer)
  | writeComplete
  deriving DecidableEq

namespace Call

/-- What a call returns. A search may return nothing at all. -/
def Reply : Call → Type
  | search .. => Option (List TileId)
  | read .. => Buffer
  | writeRequest | writeUpdate .. | writeComplete => Unit

def method : Call → Method
  | search .. => .search
  | read .. => .read
  | writeRequest => .writeRequest
  | writeUpdate .. => .writeUpdate
  | writeComplete => .writeComplete

end Call

/-- A plate with states `σ`: what it declares, and how it answers a call. A call
that fails may still change the state. -/
structure Plate (σ : Type) where
  levels : σ → Int
  format : σ → Declared PixelFormat
  channel : σ → Declared ChannelType
  respond : (c : Call) → σ → Except Failure c.Reply × σ

end TileComposite
