import TileComposite.Number.Format

/-! Element types of pixel buffers: truth values, whole numbers of a fixed range
and numbers of a floating format. -/
namespace TileComposite

inductive ElementType where
  | bool
  | int8 | int16 | int32 | int64
  | uint8 | uint16 | uint32 | uint64
  | float16 | float32 | float64
  deriving DecidableEq

/-- The numbers of an element type: the whole ones from `low` to `high`, whose
range takes `bits` bits, or those of a floating format. -/
inductive ElementDomain where
  | whole (bits : Nat) (low high : Int)
  | floating (format : Format)
  deriving DecidableEq

namespace ElementDomain

def signed (bits : Nat) : ElementDomain :=
  whole bits (-Nat.pow 2 (bits - 1)) (Nat.pow 2 (bits - 1) - 1)

def unsigned (bits : Nat) : ElementDomain := whole bits 0 (Nat.pow 2 bits - 1)

/-- A domain holds a number that it can represent exactly. -/
def Holds : ElementDomain → Number → Prop
  | whole _ low high, .finite q => q = q.floor ∧ low ≤ q.floor ∧ q.floor ≤ high
  | whole .., _ => False
  | floating f, x => f.Holds x

instance (d : ElementDomain) (x : Number) : Decidable (d.Holds x) :=
  match d, x with
  | whole .., .finite _ => inferInstanceAs (Decidable (_ ∧ _))
  | whole .., .nan | whole .., .infinite _ | whole .., .negZero => isFalse id
  | floating f, x => inferInstanceAs (Decidable (f.Holds x))

/-- Reading numbers of the first domain as numbers of the second is safe. A range
goes into a range that contains it and a format into one at least as wide; whole
numbers go into a format with more digits than they have bits, and into the
widest format always. -/
def widensTo : ElementDomain → ElementDomain → Bool
  | whole _ low high, whole _ low' high' => low' ≤ low && high ≤ high'
  | whole bits .., floating f => bits < f.digits || f == binary64
  | floating f, floating g => f.digits ≤ g.digits
  | floating _, whole .. => false

/-- The element for a number: rounded to a format; for a range the whole part,
taken modulo the length of the range when it lies outside. -/
def ofNumber : ElementDomain → Number → Number
  | floating f, x => f.ofNumber x
  | whole _ low high, .finite q =>
    let n := if q < 0 then -(-q).floor else q.floor
    .ofInt (low + (n - low) % (high - low + 1))
  | whole .., _ => 0

end ElementDomain

namespace ElementType

def domain : ElementType → ElementDomain
  | bool => .whole 1 0 1
  | int8 => .signed 8
  | int16 => .signed 16
  | int32 => .signed 32
  | int64 => .signed 64
  | uint8 => .unsigned 8
  | uint16 => .unsigned 16
  | uint32 => .unsigned 32
  | uint64 => .unsigned 64
  | float16 => .floating binary16
  | float32 => .floating binary32
  | float64 => .floating binary64

def all : List ElementType :=
  [bool, int8, int16, int32, int64, uint8, uint16, uint32, uint64, float16, float32, float64]

def name : ElementType → String
  | bool => "bool"
  | int8 => "int8"
  | int16 => "int16"
  | int32 => "int32"
  | int64 => "int64"
  | uint8 => "uint8"
  | uint16 => "uint16"
  | uint32 => "uint32"
  | uint64 => "uint64"
  | float16 => "float16"
  | float32 => "float32"
  | float64 => "float64"

def ofName? (name : String) : Option ElementType := all.find? (·.name = name)

/-- Bytes that an element takes. -/
def bytes (t : ElementType) : Nat :=
  match t.domain with
  | .whole bits .. => (bits + 7) / 8
  | .floating f => (f.digits + f.exponentBits) / 8

end ElementType
end TileComposite
