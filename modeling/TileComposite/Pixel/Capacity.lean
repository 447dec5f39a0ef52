import TileComposite.Failure

/-! How large a buffer can be. The length of each axis is a signed word, the bytes
of all elements are counted in one, and so many bytes must be there to be had.
Axes of length zero do not count, so that a buffer without elements can be too
large. -/
namespace TileComposite

/-- The largest signed word. -/
def maxWord : Nat := 0x7fffffffffffffff

/-- Bytes that a buffer can have. -/
def maxBytes : Nat := 0x100000000

/-- Counts bytes axis by axis, and judges each length on the way. -/
def countBytes (bytes : Nat) : List Int → Except Failure Nat
  | [] => .ok bytes
  | n :: ns =>
    if n < 0 then .error .negativeExtent
    else if n = 0 then countBytes bytes ns
    else if maxWord < bytes * n.toNat then .error .tooManyBytes
    else countBytes (bytes * n.toNat) ns

/-! ### Sizes in words -/

def sizeUnits : List String := ["bytes", "KiB", "MiB", "GiB", "TiB", "PiB", "EiB"]

/-- A number of at least one to three digits, or to a whole number, with its point. -/
def threeDigits (q : Rat) : String :=
  let places := if nearestInt (q * 100) < 1000 then 2 else if nearestInt (q * 10) < 1000 then 1 else 0
  let cs := Nat.toDigits 10 (nearestInt (q * Nat.pow 10 places)).toNat
  String.ofList (cs.take (cs.length - places) ++ '.' :: cs.drop (cs.length - places))

/-- A number of at least 1024 bytes in the largest unit that it has one of. A number
that rounds to 1024 of a unit is one of the next. -/
def sizeText (bytes : Nat) : String :=
  let unit := bytes.log2 / 10
  let count := (binary64.round (bytes / Nat.pow 1024 unit)).toRat?.getD 0
  let (unit, count) := if nearestInt count = 1024 then (unit + 1, count / 1024) else (unit, count)
  threeDigits count ++ " " ++ sizeUnits[unit]?.getD ""

/-- The shape of a buffer with axes of the given lengths. -/
def checkExtents (element : ElementType) (lengths : List Int) : Except Failure (List Nat) := do
  if lengths.any fun n => n < -(maxWord + 1) || maxWord < n then throw .extentTooLarge
  let bytes ← countBytes element.bytes lengths
  let shape := lengths.map Int.toNat
  if !shape.contains 0 && maxBytes < bytes then throw (.noMemory (sizeText bytes) shape element)
  return shape

end TileComposite
