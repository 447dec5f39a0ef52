import TileComposite.Number.Arithmetic
import TileComposite.Text.Lower
import TileComposite.Value
import TileComposite.Yaml.Tag

/-! The values of scalars under their tags. A tag given in the text may ask for a
form that the scalar does not have; then it has no value. -/
namespace TileComposite.Yaml

abbrev ScalarResult := Except ScalarFault Scalar

/-- The parts of a text between colons. -/
def colonParts : List Char → List (List Char)
  | [] => [[]]
  | c :: cs =>
    if c = ':' then [] :: colonParts cs
    else match colonParts cs with
      | part :: rest => (c :: part) :: rest
      | [] => [[c]]

/-- Splits off a sign; true is minus. -/
def splitSign : List Char → Bool × List Char
  | '-' :: cs => (true, cs)
  | '+' :: cs => (false, cs)
  | cs => (false, cs)

def readInt (base : Nat) (cs : List Char) : Except ScalarFault Int :=
  (Text.readInt base cs).mapError fun
    | .malformed => .notInt base (String.ofList cs)
    | .tooManyDigits n => .tooManyDigits n

/-- Places in base sixty, the last one counting ones. -/
def sexagesimal (places : List Int) : Int := places.foldl (fun n d => 60 * n + d) 0

def intValue (cs : List Char) : Except ScalarFault Int :=
  let cs := cs.filter (· ≠ '_')
  let (negative, digits) := splitSign cs
  let magnitude : Except ScalarFault Int :=
    match digits with
    | [] => .error .emptyNumber
    | ['0'] => .ok 0
    | '0' :: 'b' :: rest => readInt 2 rest
    | '0' :: 'x' :: rest => readInt 16 rest
    | '0' :: _ => readInt 8 digits
    | _ =>
      if digits.contains ':' then sexagesimal <$> (colonParts digits).mapM (readInt 10)
      else readInt 10 digits
  magnitude.map fun n => if negative then -n else n

/-- A decimal number with blanks around it and digits of any script. -/
def readFloat (cs : List Char) : Except ScalarFault Number :=
  match Number.ofText? (Text.plainDigits (Text.trim Text.isPadding cs)) with
  | some x => .ok x
  | none => .error (.notFloat (String.ofList cs))

/-- Fractional places in base sixty, each product and sum rounded. The value of a
place must be in the range of the format. -/
def sexagesimalFloat (places : List Number) : Except ScalarFault Number := do
  let step (acc : Number × Nat) (d : Number) : Except ScalarFault (Number × Nat) :=
    match binary64.round acc.2 with
    | .infinite _ => .error .tooManyPlaces
    | unit => .ok (binary64.add acc.1 (binary64.mul d unit), acc.2 * 60)
  return (← places.reverse.foldlM step (0, 1)).1

/-- A float's text without marks, in lower case. -/
def floatText (cs : List Char) : List Char := Text.lowerFrom [] (cs.filter (· ≠ '_'))

/-- The name of the undefined number, with or without a sign. -/
def namesUndefined (cs : List Char) : Bool := (splitSign (floatText cs)).2 = ".nan".toList

def floatValue (cs : List Char) : Except ScalarFault Number :=
  let cs := floatText cs
  let (negative, digits) := splitSign cs
  let magnitude : Except ScalarFault Number :=
    if cs.isEmpty then .error .emptyNumber
    else if digits = ".inf".toList then .ok (.infinite false)
    else if digits = ".nan".toList then .ok .nan
    else if digits.contains ':' then (colonParts digits).mapM readFloat >>= sexagesimalFloat
    else readFloat digits
  magnitude.map fun x => if negative then x.negated else x

def boolValue (cs : List Char) : Except ScalarFault Bool :=
  let name := String.ofList (Text.lowerFrom [] cs)
  if ["yes", "true", "on"].contains name then .ok true
  else if ["no", "false", "off"].contains name then .ok false
  else .error (.notBool name)

/-! ### Dates and times -/

def Date.check (d : Date) : Except ScalarFault Date :=
  if d.year = 0 then .error (.yearOutside d.year)
  else if d.month = 0 ∨ 12 < d.month then .error .monthOutside
  else if d.day = 0 ∨ daysInMonth d.year d.month < d.day then .error .dayOutside
  else .ok d

def Moment.check (m : Moment) : Except ScalarFault Moment := do
  discard (Date.check m.date)
  if 23 < m.hour then throw .hourOutside
  if 59 < m.minute then throw .minuteOutside
  if 59 < m.second then throw .secondOutside
  return m

/-- A number of digits and the text after it. -/
def takeNat (cs : List Char) : Nat × List Char :=
  let (n, _, rest) := spanDigits cs
  (n, rest)

/-- Microseconds in a fraction of a second; further digits are cut off. -/
def microseconds (digits : List Char) : Nat :=
  let six := (digits ++ List.replicate 6 '0').take 6
  (spanDigits six).1

/-- The largest distance of a zone from universal time, in seconds, exclusive. -/
def dayLength : Int := 86400

/-- The zone at the end of a timestamp: none, universal time, or an offset. -/
def zoneOf (cs : List Char) : Except ScalarFault (Option Int) :=
  match cs.dropWhile Form.blank with
  | [] => .ok none
  | 'Z' :: _ => .ok (some 0)
  | s :: cs =>
    let (hours, rest) := takeNat cs
    let minutes := (takeNat (rest.drop 1)).1
    let seconds : Int := 3600 * hours + 60 * minutes
    let offset := if s = '-' then -seconds else seconds
    if dayLength ≤ seconds then .error (.offsetOutside (durationLiteral offset))
    else .ok (some offset)

/-- A date, or a date and a time. -/
def timestampValue (cs : List Char) : ScalarResult := do
  let cs := if cs.getLast? = some '\n' then cs.dropLast else cs
  if !Form.fits (Form.all [Form.year, Form.char '-', Form.oneOrTwoDigits, Form.char '-',
      Form.oneOrTwoDigits, Form.maybe Form.clock]) cs then throw .notTimestamp
  let (year, cs) := takeNat cs
  let (month, cs) := takeNat (cs.drop 1)
  let (day, cs) := takeNat (cs.drop 1)
  let date : Date := ⟨year, month, day⟩
  if cs.isEmpty then return .date (← Date.check date)
  let (hour, cs) := takeNat (if cs.head?.any Form.blank then cs.dropWhile Form.blank else cs.drop 1)
  let (minute, cs) := takeNat (cs.drop 1)
  let (second, cs) := takeNat (cs.drop 1)
  let (fraction, cs) := match cs with
    | '.' :: rest => (rest.takeWhile Char.isDigit, rest.dropWhile Char.isDigit)
    | rest => ([], rest)
  let offset ← zoneOf cs
  return .moment (← Moment.check ⟨date, hour, minute, second, microseconds fraction, offset⟩)

/-! ### Bytes -/

def base64Value? (c : Char) : Option Nat :=
  if 'A' ≤ c ∧ c ≤ 'Z' then some (c.toNat - 'A'.toNat)
  else if 'a' ≤ c ∧ c ≤ 'z' then some (c.toNat - 'a'.toNat + 26)
  else if c.isDigit then some (c.toNat - '0'.toNat + 52)
  else if c = '+' then some 62
  else if c = '/' then some 63
  else none

/-- Decodes groups of four characters to three bytes. `place` is the place in the
group, `left` holds the bits not yet written and `pads` counts the padding since
the last character. Other characters do not count. -/
def decodeBase64 : Nat → Nat → Nat → List Char → Option (List UInt8)
  | place, _, _, [] => if place = 0 then some [] else none
  | place, left, pads, c :: cs =>
    if c = '=' then
      if place < 2 then decodeBase64 place left pads cs
      else if 4 ≤ place + pads + 1 then some []
      else decodeBase64 place left (pads + 1) cs
    else match base64Value? c with
      | none => decodeBase64 place left pads cs
      | some v =>
        match place with
        | 0 => decodeBase64 1 v 0 cs
        | 1 => ((left * 4 + v / 16).toUInt8 :: ·) <$> decodeBase64 2 (v % 16) 0 cs
        | 2 => ((left * 16 + v / 4).toUInt8 :: ·) <$> decodeBase64 3 (v % 4) 0 cs
        | _ => ((left * 64 + v).toUInt8 :: ·) <$> decodeBase64 0 0 0 cs

/-- The bytes of a text in base 64, which must be plain characters. -/
def bytesValue (cs : List Char) : Except Fault Scalar :=
  if cs.any fun c => 0x7f < c.toNat then .error .malformed
  else match decodeBase64 0 0 0 cs with
    | some data => .ok (.bytes data)
    | none => .error .malformed

/-- The value of a scalar under a tag; some tags have no scalars. -/
def scalarValue (tag : Tag) (s : String) : Except Fault Scalar :=
  let ofResult (r : ScalarResult) : Except Fault Scalar := r.mapError .scalar
  match tag with
  | .null => .ok .null
  | .bool => ofResult ((boolValue s.toList).map .bool)
  | .int => ofResult ((intValue s.toList).map .int)
  | .float => ofResult ((floatValue s.toList).map .float)
  | .timestamp => ofResult (timestampValue s.toList)
  | .binary => bytesValue s.toList
  | .text => .ok (.text s)
  | _ => .error .malformed

end TileComposite.Yaml
