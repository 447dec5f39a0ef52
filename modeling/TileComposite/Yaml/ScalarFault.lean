import TileComposite.Text.Integer
import TileComposite.Text.Quoted

/-! Scalars of a document that have the form their tag asks for but no value, and
tagged scalars without that form. -/
namespace TileComposite.Yaml

inductive ScalarFault where
  | yearOutside (year : Nat)
  | monthOutside
  | dayOutside
  | hourOutside
  | minuteOutside
  | secondOutside
  /-- A zone at least a day away from universal time, in seconds. -/
  | offsetOutside (literal : String)
  | notInt (base : Nat) (text : String)
  | tooManyDigits (count : Nat)
  | notFloat (text : String)
  | emptyNumber
  /-- A sexagesimal fraction with more places than a float has room for. -/
  | tooManyPlaces
  | notBool (text : String)
  | notTimestamp
  /-- A timestamp whose text is inside a mapping. -/
  | wrappedTimestamp
  /-- A mapping that is its own text. -/
  | endlessText
  /-- An escape whose code no character has. -/
  | noCharacter
  /-- An escape whose code exceeds a machine word. -/
  | codeTooLarge
  deriving DecidableEq

/-- The largest code that an escape may ask for, be there such a character or not. -/
def maxCode : Nat := 0x7fffffff

/-- How much of a faulty integer is shown. -/
def shownLength : Nat := 200

def ScalarFault.message : ScalarFault → String
  | yearOutside year => s!"year {year} is out of range"
  | monthOutside => "month must be in 1..12"
  | dayOutside => "day is out of range for month"
  | hourOutside => "hour must be in 0..23"
  | minuteOutside => "minute must be in 0..59"
  | secondOutside => "second must be in 0..59"
  | offsetOutside literal =>
    "offset must be a timedelta strictly between -timedelta(hours=24) and timedelta(hours=24), not "
      ++ literal ++ "."
  | notInt base text =>
    s!"invalid literal for int() with base {base}: "
      ++ String.ofList ((Text.quoted text).toList.take shownLength)
  | tooManyDigits count =>
    s!"Exceeds the limit ({Text.maxDigits} digits) for integer string conversion: "
      ++ s!"value has {count} digits; use sys.set_int_max_str_digits() to increase the limit"
  | notFloat text => "could not convert string to float: " ++ Text.quoted text
  | emptyNumber => "string index out of range"
  | notBool text => Text.quoted text
  | tooManyPlaces => "int too large to convert to float"
  | notTimestamp => "'NoneType' object has no attribute 'groupdict'"
  | wrappedTimestamp => "expected string or bytes-like object, got 'list'"
  | endlessText => "maximum recursion depth exceeded"
  | codeTooLarge => "Python int too large to convert to C int"
  | noCharacter => "chr() arg not in range(0x110000)"

/-- Why a text holds no value: it is not one document of the format, or a scalar
of it has no value. -/
inductive Fault where
  | malformed
  | scalar (fault : ScalarFault)
  deriving DecidableEq

end TileComposite.Yaml
