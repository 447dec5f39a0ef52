/-! Numeric network addresses: four decimal octets, or eight groups of
hexadecimal digits of which one run of zeros may be left out. -/
namespace TileComposite.Locator

/-- The pieces of a text between separators; there is at least one. -/
def pieces (separator : Char) : List Char → List (List Char)
  | [] => [[]]
  | c :: cs =>
    if c = separator then [] :: pieces separator cs
    else match pieces separator cs with
      | piece :: rest => (c :: piece) :: rest
      | [] => [[c]]

/-- Up to three digits without a leading zero, at most 255. -/
def isOctet (cs : List Char) : Bool :=
  !cs.isEmpty && cs.all Char.isDigit && cs.length ≤ 3
    && (cs = ['0'] || cs.head? ≠ some '0')
    && cs.foldl (fun n c => 10 * n + (c.toNat - '0'.toNat)) 0 ≤ 255

/-- Four octets between points. -/
def isFourOctets (cs : List Char) : Bool :=
  let parts := pieces '.' cs
  parts.length = 4 && parts.all isOctet

def isHexDigit (c : Char) : Bool :=
  c.isDigit || ('a' ≤ c && c ≤ 'f') || ('A' ≤ c && c ≤ 'F')

/-- One to four hexadecimal digits. -/
def isGroup (cs : List Char) : Bool := !cs.isEmpty && cs.length ≤ 4 && cs.all isHexDigit

/-- Groups of an address, where four octets at the end stand for two groups. -/
def groups? (cs : List Char) : Option (List (List Char)) :=
  let parts := pieces ':' cs
  if parts.length < 3 then none
  else
    let final := parts.getLastD []
    if final.contains '.' then
      if isFourOctets final then some (parts.dropLast ++ [['0'], ['0']]) else none
    else some parts

/-- Eight groups, or fewer with one empty place inside that stands for the rest.
An empty place at an end belongs to such a run. -/
def isEightGroups (parts : List (List Char)) : Bool :=
  let inner := parts.drop 1 |>.dropLast
  let gaps := (inner.filter (·.isEmpty)).length
  if parts.length > 9 || gaps > 1 then false
  else if gaps = 1 then
    let place := (parts.drop 1).findIdx (·.isEmpty) + 1
    let front := parts.take place
    let back := parts.drop (place + 1)
    let high := if front.head? = some [] then front.drop 1 else front
    let low := if back.getLast? = some [] then back.dropLast else back
    (front.head? ≠ some [] || high.isEmpty) && (back.getLast? ≠ some [] || low.isEmpty)
      && high.length + low.length < 8 && high.all isGroup && low.all isGroup
  else parts.length = 8 && parts.all isGroup

/-- An address of eight groups; a zone may follow a percent sign. -/
def isSixteenOctets (cs : List Char) : Bool :=
  let address := cs.takeWhile (· ≠ '%')
  let zone := cs.drop (address.length + 1)
  let zoned := cs.contains '%'
  (!zoned || (!zone.isEmpty && !zone.contains '%'))
    && ((groups? address).map isEightGroups).getD false

end TileComposite.Locator
