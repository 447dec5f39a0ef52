import TileComposite.Number.Format

/-! Decimal text of floating numbers. Reading rounds the exact decimal once.
Writing takes the fewest digits that read back, and among those the nearest to
the number, so that text and number determine each other. -/
namespace TileComposite

/-- The number `digits * 10 ^ exponent`. -/
structure Decimal where
  digits : Nat
  exponent : Int
  deriving DecidableEq

def decimalLength (n : Nat) : Nat := (Nat.toDigits 10 n).length

/-- The exponent of the largest power of ten that is at most `q`, for `0 < q`. -/
def floorLog10 (q : Rat) : Int :=
  let guess : Int := decimalLength q.num.natAbs - decimalLength q.den
  if q < 10 ^ guess then guess - 1 else guess

namespace Decimal

def toRat (d : Decimal) : Rat := d.digits * 10 ^ d.exponent

/-- Rounds a decimal to a format. A power of ten above the largest number or
below half the least one decides without the exact value: `2 ^ n ≤ 10 ^ n`. -/
def round (f : Format) (d : Decimal) : Number :=
  let high : Int := decimalLength d.digits + d.exponent
  if d.digits = 0 then 0
  else if f.maxExponent + 1 < high then .infinite false
  else if high < f.minExponent - f.digits then 0
  else f.round d.toRat

/-- A decimal without trailing zeros in its digits. -/
def normalize (d : Decimal) : Decimal :=
  let trailing := ((Nat.toDigits 10 d.digits).reverse.takeWhile (· == '0')).length
  if d.digits = 0 then d else ⟨d.digits / Nat.pow 10 trailing, d.exponent + trailing⟩

/-- The neighbours of `q` on the grid of `count` digits that round to `q`, the
nearer one first; of two equally near ones the even one. -/
def onGrid? (f : Format) (q : Rat) (count : Nat) : Option Decimal :=
  let exponent := floorLog10 q - count + 1
  let scaled := q / 10 ^ exponent
  let near := (nearestInt scaled).toNat
  let below := scaled.floor.toNat
  let far := if near = below then below + 1 else below
  [⟨near, exponent⟩, ⟨far, exponent⟩].find? fun d => d.round f = .finite q

/-- The shortest decimal that rounds to `q`, a positive number of the format.
As many decimal digits as the significand has binary ones always suffice. -/
def shortest (f : Format) (q : Rat) : Decimal :=
  ((List.range' 1 f.digits).findSome? (onGrid? f q)).getD ⟨0, 0⟩ |>.normalize

/-! ### Written form -/

/-- Positional digits, or scientific ones with at least two exponent digits. The
positional form serves leading digits from the fourth place after the point to
the sixteenth before it, and always shows a digit on both sides of the point. -/
def write (d : Decimal) : String :=
  let cs := Nat.toDigits 10 d.digits
  let point : Int := cs.length + d.exponent
  let zeros (n : Int) : List Char := List.replicate n.toNat '0'
  String.ofList <|
    if -4 < point ∧ point ≤ 16 then
      if point ≤ 0 then '0' :: '.' :: zeros (-point) ++ cs
      else if cs.length ≤ point then cs ++ zeros (point - cs.length) ++ ['.', '0']
      else cs.take point.toNat ++ '.' :: cs.drop point.toNat
    else
      let exponent := point - 1
      let magnitude := Nat.toDigits 10 exponent.natAbs
      let padded := if magnitude.length < 2 then '0' :: magnitude else magnitude
      let fraction := if cs.length = 1 then [] else '.' :: cs.drop 1
      cs.take 1 ++ fraction ++ 'e' :: (if exponent < 0 then '-' else '+') :: padded

end Decimal

/-- The text of a binary64 number: the shortest that reads back as it. -/
def Number.text : Number → String
  | .nan => "nan"
  | .infinite s => if s then "-inf" else "inf"
  | .negZero => "-0.0"
  | .finite q =>
    if q = 0 then "0.0"
    else if q < 0 then "-" ++ (Decimal.shortest binary64 (-q)).write
    else (Decimal.shortest binary64 q).write

/-! ### Reading -/

/-- Splits off the longest run of decimal digits and its value. -/
def spanDigits (cs : List Char) : Nat × Nat × List Char :=
  let run := cs.takeWhile Char.isDigit
  (run.foldl (fun n c => 10 * n + (c.toNat - '0'.toNat)) 0, run.length, cs.dropWhile Char.isDigit)

/-- An exponent part: a mark, a sign or none, and digits up to the end. -/
def readExponent? : List Char → Option Int
  | [] => some 0
  | mark :: cs =>
    if mark ≠ 'e' ∧ mark ≠ 'E' then none
    else
      let (negative, cs) := match cs with
        | '-' :: r => (true, r)
        | '+' :: r => (false, r)
        | r => (false, r)
      let (n, count, rest) := spanDigits cs
      if count = 0 ∨ rest ≠ [] then none else some (if negative then -n else n)

/-- An unsigned decimal: digits with at most one point among or around them,
then an exponent or none. -/
def Decimal.read? (cs : List Char) : Option Decimal :=
  let (whole, wholeCount, rest) := spanDigits cs
  let (fraction, fractionCount, rest) := match rest with
    | '.' :: r => spanDigits r
    | r => (0, 0, r)
  if wholeCount + fractionCount = 0 then none
  else (readExponent? rest).map fun e =>
    ⟨whole * Nat.pow 10 fractionCount + fraction, e - fractionCount⟩

namespace Number

def negated : Number → Number
  | nan => nan
  | infinite s => infinite !s
  | negZero => finite 0
  | finite q => if q = 0 then negZero else finite (-q)

/-- The binary64 number of an unsigned text; infinities and undefined numbers
have names. -/
def ofUnsignedText? (cs : List Char) : Option Number :=
  let name := String.ofList (cs.map Char.toLower)
  if name = "inf" ∨ name = "infinity" then some (infinite false)
  else if name = "nan" then some nan
  else (Decimal.read? cs).map (Decimal.round binary64)

/-- The binary64 number of a text without surrounding space. -/
def ofText? : List Char → Option Number
  | '-' :: cs => (ofUnsignedText? cs).map negated
  | '+' :: cs => ofUnsignedText? cs
  | cs => ofUnsignedText? cs

end Number
end TileComposite
