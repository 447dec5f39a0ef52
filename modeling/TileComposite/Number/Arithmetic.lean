import TileComposite.Number.Format

/-! Sum, product and quotient in a binary format: the exact result, rounded
once. Infinities and zeros follow their signs, and an operation without a
meaning is undefined. -/
namespace TileComposite.Format
open Number

variable (f : Format)

/-- The exact sum, rounded. An exact sum of zero is positive unless both terms
are negative zeros. -/
def add : Number → Number → Number
  | .nan, _ | _, .nan => .nan
  | .infinite s, .infinite t => if s = t then .infinite s else .nan
  | .infinite s, _ => .infinite s
  | _, .infinite t => .infinite t
  | .negZero, .negZero => .negZero
  | .negZero, .finite q | .finite q, .negZero => f.round q
  | .finite p, .finite q => f.round (p + q)

/-- The exact product, rounded, under the product of the signs. -/
def mul (x y : Number) : Number :=
  let negative := x.negative ^^ y.negative
  match x, y with
  | .nan, _ | _, .nan => .nan
  | .infinite _, y => if y.toRat? = some 0 then .nan else .infinite negative
  | x, .infinite _ => if x.toRat? = some 0 then .nan else .infinite negative
  | .negZero, _ | _, .negZero => zero negative
  | .finite p, .finite q => if p * q = 0 then zero negative else f.round (p * q)

/-- The exact quotient, rounded, under the product of the signs. A number other
than zero over zero is infinite. -/
def div (x y : Number) : Number :=
  let negative := x.negative ^^ y.negative
  match x, y with
  | .nan, _ | _, .nan => .nan
  | .infinite _, .infinite _ => .nan
  | .infinite _, _ => .infinite negative
  | _, .infinite _ => zero negative
  | x, y =>
    let p := x.toRat?.getD 0
    let q := y.toRat?.getD 0
    if q = 0 then if p = 0 then .nan else .infinite negative
    else if p = 0 then zero negative
    else f.round (p / q)

end TileComposite.Format
