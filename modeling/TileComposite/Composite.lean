import TileComposite.Number.Arithmetic
import TileComposite.Pixel.Buffer
import TileComposite.Value
import TileComposite.Text.Blank
import TileComposite.Text.Lower

/-! The alpha-weighted average of stacked tile versions. Each version contributes
to a colour in proportion to its alpha, and the composite's alpha is the total
coverage, saturated at the range of alpha. Where nothing covers a pixel, the
pixel is zero. Every output element depends on one pixel of the stack alone. -/
namespace TileComposite
namespace Composite

/-- One version's alpha and colour at a pixel. -/
structure Sample where
  weight : Number
  colour : Number
  deriving DecidableEq

/-- Total coverage, accumulated from the first version to the last. -/
def coverage (stack : List Sample) : Number :=
  stack.foldl (fun sum s => binary64.add sum s.weight) 0

def weightedSum (stack : List Sample) : Number :=
  stack.foldl (fun sum s => binary64.add sum (binary64.mul s.weight s.colour)) 0

/-- The weighted mean of a colour, or zero where the coverage is not positive. -/
def mean (stack : List Sample) : Number :=
  let total := coverage stack
  if Number.lt 0 total then binary64.div (weightedSum stack) total else 0

/-- The output element of a channel from the samples of that channel. -/
def blend (p : PixelType) (channel : Nat) (stack : List Sample) : Number :=
  if channel = p.alpha then p.cast p.alphaRange (coverage stack)
  else p.cast p.valueRange (mean stack)

/-- Length of the channel axis. -/
def channelCount (b : Buffer) : Nat := b.shape[2]?.getD 0

/-- The sample of a buffer at a pixel, in accumulator precision. -/
def sample (p : PixelType) (pixel channel : Nat) (b : Buffer) : Sample :=
  let element (c : Nat) := binary64.ofNumber (b.get (pixel * channelCount b + c))
  ⟨element p.alpha, element channel⟩

/-- A grid of pixels that planes can be accumulated over. Without rows it has one
column at most. -/
def isGrid (height width : Nat) : Bool := 0 < height || width ≤ 1

/-- The planes of a buffer can be accumulated over a grid of pixels: it has the
channels of the type, and each plane has the height and width of the grid. A
fourth axis of length one does not matter. -/
def checkPlanes (p : PixelType) (height width : Nat) (b : Buffer) : Except Failure Unit :=
  match b.shape with
  | h :: w :: channels :: rest =>
    if channels ≤ p.alpha then .error (.missingChannel p.alpha channels)
    else if isGrid height width ∧ h = height ∧ w = width ∧ (rest = [] ∨ rest = [1]) then .ok ()
    else .error .unequalPlanes
  | _ => .error (.notChanneled b.shape.length)

/-- The composite of versions whose planes have been checked. -/
def ofStack (p : PixelType) (height width : Nat) (buffers : List Buffer) : Buffer where
  element := p.element
  shape := [height, width, p.channels]
  data := .ofFn fun i : Fin (Buffer.volume [height, width, p.channels]) =>
    let channel := i.val % p.channels
    blend p channel (buffers.map (sample p (i.val / p.channels) channel))

/-- Reduces buffers of one size to their alpha-weighted average. -/
def weightedAverage (p : PixelType) (buffers : List Buffer) : Except Failure Buffer :=
  match buffers with
  | [] => .error .nothingToReduce
  | first :: _ =>
    match first.shape with
    | height :: width :: _ => do
      buffers.forM (checkPlanes p height width)
      return ofStack p height width buffers
    | _ => .error (.notAPlane first.shape.length)

end Composite

/-! ### Reducers by name -/

/-- The reduction functions. -/
inductive Reducer where
  | weightedAverage
  deriving DecidableEq

namespace Reducer

/-- The name that selects a reducer, in lower case. -/
def key : Reducer → String
  | weightedAverage => "weightedavg"

/-- The name shown to users. -/
def displayName : Reducer → String
  | weightedAverage => "WeightedAvg"

/-- The reducer of a name, whatever its case and surrounding blanks. -/
def ofName (name : Value) : Except Failure Reducer :=
  let stripped := name.shown?.map fun s => String.ofList (Text.trim Text.isBlank s.toList)
  if stripped.map Text.lower = some (key .weightedAverage) then .ok .weightedAverage
  else .error (.unknownReducer name.shown?)

/-- Applies a reducer to the versions of a tile. -/
def reduce : Reducer → PixelType → List Buffer → Except Failure Buffer
  | weightedAverage => Composite.weightedAverage

end Reducer
end TileComposite
