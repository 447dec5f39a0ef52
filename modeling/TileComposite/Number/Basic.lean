/-! Exact numbers with signed zeros, infinities and an undefined value. Every
pixel, weight and coverage of a plate is such a number: an integer type holds
only whole ones, a floating format only those of its grid. No host floating
point arithmetic is involved, so each result is a rational that can be reasoned
about. -/
namespace TileComposite

/-- A number is undefined, infinite, a negative zero, or an exact rational.
`finite 0` is the positive zero. -/
inductive Number where
  | nan
  | infinite (negative : Bool)
  | negZero
  | finite (value : Rat)
  deriving DecidableEq

namespace Number

instance : Inhabited Number := ⟨finite 0⟩

instance : OfNat Number n := ⟨finite n⟩

def ofInt (n : Int) : Number := finite n

def isNaN : Number → Bool
  | nan => true
  | _ => false

/-- The sign as a written number carries it; both zeros have one. -/
def negative : Number → Bool
  | nan => false
  | infinite s => s
  | negZero => true
  | finite q => q < 0

/-- The rational behind a finite number; both zeros stand for `0`. -/
def toRat? : Number → Option Rat
  | finite q => some q
  | negZero => some 0
  | _ => none

/-- The zero of a sign. -/
def zero (negative : Bool) : Number := if negative then negZero else finite 0

/-- Strict order of the extended line. An undefined number is below nothing and
above nothing, and the two zeros are equal. -/
def lt : Number → Number → Bool
  | nan, _ | _, nan => false
  | infinite s, infinite t => s && !t
  | infinite s, _ => s
  | _, infinite t => !t
  | x, y => decide (x.toRat?.getD 0 < y.toRat?.getD 0)

/-- The larger of a number and a floor; undefined when either is. -/
def atLeast (x low : Number) : Number :=
  if x.isNaN || low.isNaN then nan else if x.lt low then low else x

/-- The smaller of a number and a ceiling; undefined when either is. -/
def atMost (x high : Number) : Number :=
  if x.isNaN || high.isNaN then nan else if high.lt x then high else x

/-- The number moved into a range; the upper end wins when the range is empty. -/
def clamp (x low high : Number) : Number := (x.atLeast low).atMost high

end Number

/-- The whole number nearest to a rational; a half goes to the even neighbour. -/
def nearestInt (q : Rat) : Int :=
  let below := q.floor
  let rest := q - below
  if rest < 1 / 2 then below
  else if 1 / 2 < rest then below + 1
  else if below % 2 = 0 then below else below + 1

/-- Rounding to a whole number keeps the sign of what becomes zero. -/
def Number.rounded : Number → Number
  | finite q =>
    let n := nearestInt q
    if n = 0 then zero (q < 0) else ofInt n
  | x => x

end TileComposite
