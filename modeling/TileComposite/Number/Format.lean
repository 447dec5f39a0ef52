import TileComposite.Number.Basic

/-! Binary floating formats and rounding to them. A format has a significand of
fixed length and a range of exponents; a rational is rounded once, to the
nearest point of the format's grid, a tie to the even significand. The grid is
uniform below the least normal number, so small values underflow gradually, and
a value that rounds beyond the largest finite number becomes infinite. -/
namespace TileComposite

/-- Number of significant binary digits and length of the exponent field. -/
structure Format where
  digits : Nat
  exponentBits : Nat
  deriving DecidableEq

def binary16 : Format := ⟨11, 5⟩

def binary32 : Format := ⟨24, 8⟩

def binary64 : Format := ⟨53, 11⟩

/-- The exponent of the largest power of two that is at most `q`, for `0 < q`. -/
def floorLog2 (q : Rat) : Int :=
  let guess : Int := q.num.natAbs.log2 - q.den.log2
  if q < 2 ^ guess then guess - 1 else guess

namespace Format

variable (f : Format)

/-- Largest exponent of a finite number, and the bias of the exponent field. -/
def maxExponent : Int := Nat.pow 2 (f.exponentBits - 1) - 1

/-- Exponent of the least normal number. -/
def minExponent : Int := 1 - f.maxExponent

/-- The largest finite number. -/
def largest : Rat := (Nat.pow 2 f.digits - 1 : Nat) * 2 ^ (f.maxExponent - f.digits + 1)

/-- The distance of neighbouring grid points around a rational, as an exponent
of two. -/
def gridExponent (q : Rat) : Int :=
  let e := if q = 0 then f.minExponent else floorLog2 q.abs
  max e f.minExponent - f.digits + 1

/-- The nearest number of the format. What rounds to zero keeps its sign. -/
def round (q : Rat) : Number :=
  let unit : Rat := 2 ^ f.gridExponent q
  let n := nearestInt (q / unit)
  let v := n * unit
  if n = 0 then .zero (q < 0)
  else if f.largest < v then .infinite false
  else if v < -f.largest then .infinite true
  else .finite v

/-- Rounding of a number that may be special; special numbers belong to every
format. -/
def ofNumber : Number → Number
  | .finite q => f.round q
  | x => x

/-- The format holds a number when rounding leaves it alone. -/
def Holds (x : Number) : Prop := f.ofNumber x = x

instance (x : Number) : Decidable (f.Holds x) := inferInstanceAs (Decidable (_ = _))

/-! ### Bit patterns -/

/-- Length of the fraction field. -/
def fractionBits : Nat := f.digits - 1

/-- Value of the exponent field of infinities and undefined numbers. -/
def topField : Nat := Nat.pow 2 f.exponentBits - 1

/-- The number that a bit pattern encodes: sign, exponent field, fraction. -/
def ofBits (bits : Nat) : Number :=
  let fraction := bits % Nat.pow 2 f.fractionBits
  let field := bits / Nat.pow 2 f.fractionBits % Nat.pow 2 f.exponentBits
  let negative := bits / Nat.pow 2 (f.fractionBits + f.exponentBits) % 2 = 1
  if field = f.topField then
    if fraction = 0 then .infinite negative else .nan
  else
    let significand := if field = 0 then fraction else Nat.pow 2 f.fractionBits + fraction
    let magnitude : Rat := significand * 2 ^ (max (field : Int) 1 - f.maxExponent - f.fractionBits)
    if significand = 0 then .zero negative
    else .finite (if negative then -magnitude else magnitude)

/-- The bit pattern of a number of the format. An undefined number has the quiet
pattern with an empty payload. -/
def toBits (x : Number) : Nat :=
  let sign := if x.negative then Nat.pow 2 (f.fractionBits + f.exponentBits) else 0
  let top := f.topField * Nat.pow 2 f.fractionBits
  match x with
  | .nan => top + Nat.pow 2 (f.fractionBits - 1)
  | .infinite _ => sign + top
  | .negZero => sign
  | .finite q =>
    let grid := f.gridExponent q
    let significand := (q.abs / 2 ^ grid).floor.toNat
    let steps := (grid - (f.minExponent - f.digits + 1)).toNat
    sign + steps * Nat.pow 2 f.fractionBits + significand

end Format
end TileComposite
