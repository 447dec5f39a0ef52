import TileComposite.Pixel.Element

/-! Pixel types: a layout of channels, of which the last is alpha, and the type
of every channel. A computed plane is cast back to the channel type by rounding,
clamping and narrowing, so that no value wraps around. -/
namespace TileComposite

inductive PixelFormat where
  | gray | graya | rgb | rgba
  deriving DecidableEq

inductive ChannelType where
  | uint8 | int16 | uint16 | float32 | float64
  deriving DecidableEq

namespace PixelFormat

def all : List PixelFormat := [gray, graya, rgb, rgba]

def name : PixelFormat → String
  | gray => "gray"
  | graya => "graya"
  | rgb => "rgb"
  | rgba => "rgba"

def ofName? (name : String) : Option PixelFormat := all.find? (·.name = name)

/-- Channels per pixel, alpha included. -/
def channels : PixelFormat → Nat
  | gray => 1
  | graya => 2
  | rgb => 3
  | rgba => 4

end PixelFormat

namespace ChannelType

def all : List ChannelType := [uint8, int16, uint16, float32, float64]

def element : ChannelType → ElementType
  | uint8 => .uint8
  | int16 => .int16
  | uint16 => .uint16
  | float32 => .float32
  | float64 => .float64

def name (c : ChannelType) : String := c.element.name

def ofName? (name : String) : Option ChannelType := all.find? (·.name = name)

end ChannelType

structure PixelType where
  format : PixelFormat
  channel : ChannelType
  deriving DecidableEq

namespace PixelType

def channels (p : PixelType) : Nat := p.format.channels

/-- The position of the alpha channel. -/
def alpha (p : PixelType) : Nat := p.channels - 1

def element (p : PixelType) : ElementType := p.channel.element

def text (p : PixelType) : String := p.format.name ++ "<" ++ p.channel.name ++ ">"

def isInteger (p : PixelType) : Bool :=
  match p.element.domain with
  | .whole .. => true
  | .floating _ => false

/-- The least and the largest finite value of a channel. -/
def valueRange (p : PixelType) : Number × Number :=
  match p.element.domain with
  | .whole _ low high => (.ofInt low, .ofInt high)
  | .floating f => (.finite (-f.largest), .finite f.largest)

/-- The range of alpha: from zero to full coverage, which is the largest value of
an integer type and one of a floating type. -/
def alphaRange (p : PixelType) : Number × Number :=
  match p.element.domain with
  | .whole _ _ high => (0, .ofInt high)
  | .floating _ => (0, 1)

/-- Casts one value of a computed plane into a range of the channel type: integer
types round first, all types clamp, and the result is narrowed to an element. -/
def cast (p : PixelType) (range : Number × Number) (x : Number) : Number :=
  let whole := if p.isInteger then x.rounded else x
  p.element.domain.ofNumber (whole.clamp range.1 range.2)

/-- The pixel types that a plate can be reduced in. -/
def supported : List PixelType :=
  [⟨.graya, .uint8⟩, ⟨.graya, .int16⟩, ⟨.graya, .float32⟩, ⟨.rgba, .uint8⟩]

end PixelType
end TileComposite
