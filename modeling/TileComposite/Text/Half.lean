/-! Halves of surrogate pairs. An escape can ask for the code point of a half, which
is no character. A text holds a private character in its place, the one 0x100000
above the half, and the half is what is written out. -/
namespace TileComposite.Text

/-- How far the private characters lie above the halves. -/
def halfShift : Nat := 0x100000

def isHalf (code : Nat) : Bool := 0xd800 ≤ code && code ≤ 0xdfff

/-- The character that a text holds for a code point; none past the last one. -/
def ofCode? (code : Nat) : Option Char :=
  if isHalf code then some (Char.ofNat (code + halfShift))
  else if code.isValidChar then some (Char.ofNat code)
  else none

/-- The code point that a character of a text stands for. -/
def codeOf (c : Char) : Nat :=
  if isHalf (c.toNat - halfShift) then c.toNat - halfShift else c.toNat

end TileComposite.Text
