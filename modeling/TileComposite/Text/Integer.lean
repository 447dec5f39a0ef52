import TileComposite.Text.Blank

/-! Integers as text: blanks around, a sign or none, a prefix that names the base
or none, and digits of any script, with single underscores between them. Decimal
texts that are too long are neither read nor written. -/
namespace TileComposite.Text

inductive IntFault where
  | malformed
  | tooManyDigits (count : Nat)
  deriving DecidableEq

/-- The value of a digit or letter in bases up to 36. -/
def baseDigit? (c : Char) : Option Nat :=
  if 'a' ≤ c ∧ c ≤ 'z' then some (c.toNat - 'a'.toNat + 10)
  else if 'A' ≤ c ∧ c ≤ 'Z' then some (c.toNat - 'A'.toNat + 10)
  else digitValue? c

/-- Digits below a base with single underscores between them, from the value and
the count of those already read; `afterDigit` allows an underscore. -/
def readDigits? (base : Nat) (value count : Nat) (afterDigit : Bool) :
    List Char → Option (Nat × Nat)
  | [] => if afterDigit then some (value, count) else none
  | '_' :: cs => if afterDigit then readDigits? base value count false cs else none
  | c :: cs =>
    match baseDigit? c with
    | some d => if d < base then readDigits? base (base * value + d) (count + 1) true cs else none
    | none => none

/-- The letter of a base's prefix. -/
def baseLetter? (base : Nat) : Option Char :=
  if base = 2 then some 'b' else if base = 8 then some 'o' else if base = 16 then some 'x' else none

/-- Digits after the base's prefix, if the prefix is there. An underscore may
follow the prefix. -/
def dropBasePrefix (base : Nat) (cs : List Char) : List Char :=
  match cs, baseLetter? base with
  | '0' :: c :: rest, some letter =>
    if c.toLower = letter then
      match rest with
      | '_' :: more => more
      | more => more
    else cs
  | _, _ => cs

/-- A text with the digits of every script replaced by their plain forms. -/
def plainDigits (cs : List Char) : List Char :=
  cs.map fun c =>
    match digitValue? c with
    | some d => Char.ofNat ('0'.toNat + d)
    | none => c

/-- Longest run of digits in a base that is not a power of two, read or written. -/
def maxDigits : Nat := 4300

/-- The first number with too many digits. -/
@[irreducible]
def writeBound : Nat := Nat.pow 10 maxDigits

/-- Integers that can be written. The sign is no digit. -/
def Writable (n : Int) : Prop := n.natAbs < writeBound

instance : DecidablePred Writable := fun n => inferInstanceAs (Decidable (n.natAbs < writeBound))

/-- The decimal digits of an integer, unless there are too many. -/
def decimal? (n : Int) : Option String := if Writable n then some (toString n) else none

/-- What is said in place of a text that an integer is too long for. -/
def limitMessage : String :=
  s!"Exceeds the limit ({maxDigits} digits) for integer string conversion; "
    ++ "use sys.set_int_max_str_digits() to increase the limit"

/-- The integer in a text. A run of digits that is too long is refused before what
follows it is looked at. -/
def readInt (base : Nat) (text : List Char) : Except IntFault Int :=
  let (negative, digits) := match trim isPadding (plainDigits text) with
    | '-' :: cs => (true, cs)
    | '+' :: cs => (false, cs)
    | cs => (false, cs)
  let body := dropBasePrefix base digits
  let run := body.takeWhile fun c => c = '_' || (baseDigit? c).any (· < base)
  match readDigits? base 0 0 false run with
  | none => .error .malformed
  | some (n, count) =>
    if base = 10 ∧ maxDigits < count then .error (.tooManyDigits count)
    else if run.length < body.length then .error .malformed
    else .ok (if negative then -n else n)

end TileComposite.Text
