import TileComposite.Failure
import TileComposite.Text.Lower
import TileComposite.Value

/-! What a plate declares about its pixels, and the pixel type it stands for. A
declaration is a known layout or channel type, or plain data that may name one
in any case. -/
namespace TileComposite

inductive Declared (α : Type) where
  | member (a : α)
  | plain (v : Value)

namespace Declared

/-- The member that is declared, directly or by its name. -/
def member? (named : String → Option α) : Declared α → Option α
  | member a => some a
  | plain v => v.shown?.bind fun s => named (Text.lower s)

end Declared

/-- The spelling of a member: its name in capitals. -/
def capitals (name : String) : String := String.ofList (name.toList.map Char.toUpper)

def PixelFormat.ofCapitals? (text : String) : Option PixelFormat :=
  all.find? fun f => capitals f.name = text

def ChannelType.ofCapitals? (text : String) : Option ChannelType :=
  all.find? fun c => capitals c.name = text

/-- How messages show a declared layout. -/
def Declared.formatText? : Declared PixelFormat → Option String
  | member f => some ("PixelFormat." ++ capitals f.name)
  | plain v => v.shown?

/-- How messages show a declared channel type. -/
def Declared.channelText? : Declared ChannelType → Option String
  | member c => some ("ChannelType." ++ capitals c.name)
  | plain v => v.shown?

/-- The supported pixel type that a plate declares. The layout is judged first. -/
def PixelType.resolve (format : Declared PixelFormat) (channel : Declared ChannelType) :
    Except Failure PixelType :=
  match (format.member? PixelFormat.ofName?).filter (supported.map (·.format)).contains with
  | none => .error (.unsupportedFormat format.formatText?)
  | some f =>
    match supported.find? fun p =>
        p.format = f ∧ channel.member? ChannelType.ofName? = some p.channel with
    | some p => .ok p
    | none => .error (.unsupportedChannel channel.channelText? f)

end TileComposite
