import TileComposite.Calendar
import TileComposite.Number.Decimal
import TileComposite.Text.Integer
import TileComposite.Text.Quoted
import TileComposite.Text.Sequence

/-! Plain data: what a configuration document holds, and what a plate declares
about itself. Scalars may be keys of a mapping, which keeps its entries in the
order of their first appearance. A value has a literal, the text that error messages
quote it by, unless it holds an integer that is too long to be written. -/
namespace TileComposite

inductive Scalar where
  | null
  | bool (b : Bool)
  | int (n : Int)
  | float (x : Number)
  | text (s : String)
  | bytes (data : List UInt8)
  | date (d : Date)
  | moment (m : Moment)
  deriving DecidableEq

/-- `cycle` stands for a collection inside itself, and says whether that
collection is a mapping. -/
inductive Value where
  | scalar (s : Scalar)
  | list (items : List Value)
  | mapping (entries : List (Scalar × Value))
  | set (items : List Scalar)
  | pairs (items : List (Value × Value))
  | cycle (isMapping : Bool)

/-! ### Literals -/

/-- A length of time in seconds, as days and the seconds left over. -/
def durationLiteral (s : Int) : String :=
  let days := Int.fdiv s 86400
  let seconds := Int.fmod s 86400
  let parts := (if days = 0 then [] else ["days=" ++ toString days])
    ++ (if seconds = 0 then [] else ["seconds=" ++ toString seconds])
  "datetime.timedelta(" ++ ", ".intercalate parts ++ ")"

def Date.literal (d : Date) : String :=
  "datetime.date(" ++ ", ".intercalate ([d.year, d.month, d.day].map toString) ++ ")"

def Moment.literal (m : Moment) : String :=
  let clock := [m.hour, m.minute]
    ++ (if m.second = 0 ∧ m.microsecond = 0 then [] else [m.second])
    ++ (if m.microsecond = 0 then [] else [m.microsecond])
  let fields := ([m.date.year, m.date.month, m.date.day] ++ clock).map toString
  let zone := match m.offset with
    | none => []
    | some s =>
      if s = 0 then ["tzinfo=datetime.timezone.utc"]
      else ["tzinfo=datetime.timezone(" ++ durationLiteral s ++ ")"]
  "datetime.datetime(" ++ ", ".intercalate (fields ++ zone) ++ ")"

def bytesLiteral (data : List UInt8) : String :=
  let cs := data.map fun b => Char.ofNat b.toNat
  let quote := Text.quoteFor cs
  let escape (c : Char) : List Char :=
    if c.toNat < 0x7f then Text.escapeChar quote c else '\\' :: 'x' :: Text.hexDigits 2 c.toNat
  String.ofList ('b' :: quote :: cs.flatMap escape ++ [quote])

def Scalar.literal? : Scalar → Option String
  | null => some "None"
  | bool b => some (if b then "True" else "False")
  | int n => Text.decimal? n
  | float x => some x.text
  | text s => some (Text.quoted s)
  | bytes data => some (bytesLiteral data)
  | date d => some d.literal
  | moment m => some m.literal

/-- Items between braces. -/
def braced (items : List String) : String := "\x7b" ++ ", ".intercalate items ++ "\x7d"

namespace Value

mutual

def literal? : Value → Option String
  | scalar s => s.literal?
  | list items => Text.listed <$> literals? items
  | mapping entries => braced <$> entryLiterals? entries
  | set items => if items.isEmpty then some "set()" else braced <$> items.mapM Scalar.literal?
  | pairs items => Text.listed <$> pairLiterals? items
  | cycle isMapping => some (if isMapping then braced ["..."] else Text.listed ["..."])

def literals? : List Value → Option (List String)
  | [] => some []
  | v :: vs => do return (← v.literal?) :: (← literals? vs)

def entryLiterals? : List (Scalar × Value) → Option (List String)
  | [] => some []
  | (k, v) :: rest => do
    return ((← k.literal?) ++ ": " ++ (← v.literal?)) :: (← entryLiterals? rest)

def pairLiterals? : List (Value × Value) → Option (List String)
  | [] => some []
  | (a, b) :: rest => do
    return Text.tupled [← a.literal?, ← b.literal?] :: (← pairLiterals? rest)

end

/-- A text is shown as itself, every other value by its literal. -/
def shown? : Value → Option String
  | scalar (.text s) => some s
  | v => v.literal?

/-- Values that count as nothing: null, false, zeros, and what is empty. -/
def isVoid : Value → Bool
  | scalar .null | scalar (.bool false) | scalar (.text "") => true
  | scalar (.int n) => n == 0
  | scalar (.float x) => x.toRat? == some 0
  | scalar (.bytes data) => data.isEmpty
  | scalar _ | cycle _ => false
  | list items => items.isEmpty
  | mapping entries => entries.isEmpty
  | set items => items.isEmpty
  | pairs items => items.isEmpty

end Value

/-! ### Keys -/

namespace Scalar

/-- The number that a scalar counts as; false and true count as zero and one. -/
def number? : Scalar → Option Number
  | bool b => some (if b then 1 else 0)
  | int n => some (.ofInt n)
  | float x => some x
  | _ => none

/-- Keys are the same when they are equal, numbers by value and moments in time. -/
def sameKey (a b : Scalar) : Bool :=
  match a.number?, b.number?, a, b with
  | some x, some y, _, _ => !x.isNaN && !x.lt y && !y.lt x && !y.isNaN
  | none, none, moment m, moment n => m.same n
  | none, none, a, b => a == b
  | _, _, _, _ => false

/-- The name that messages give to a kind of scalar. -/
def kindName : Scalar → String
  | null => "NoneType"
  | bool _ => "bool"
  | int _ => "int"
  | float _ => "float"
  | text _ => "str"
  | bytes _ => "bytes"
  | date _ => "datetime.date"
  | moment _ => "datetime.datetime"

/-- Why two keys have no order. -/
inductive Unordered where
  | kinds (first second : String)
  | zones
  | dates
  deriving DecidableEq

def Unordered.message : Unordered → String
  | kinds first second =>
    "'<' not supported between instances of '" ++ first ++ "' and '" ++ second ++ "'"
  | zones => "can't compare offset-naive and offset-aware datetimes"
  | dates => "can't compare datetime.datetime to datetime.date"

/-- Ascending order of keys, where the two kinds can be compared. -/
def lt (a b : Scalar) : Except Unordered Bool :=
  match a.number?, b.number?, a, b with
  | some x, some y, _, _ => .ok (x.lt y)
  | _, _, text s, text t => .ok (decide (s < t))
  | _, _, bytes s, bytes t => .ok (decide (s < t))
  | _, _, date s, date t => .ok (s.lt t)
  | _, _, moment m, moment n =>
    if m.comparable n then .ok (decide (m.instant < n.instant)) else .error .zones
  | _, _, date _, moment _ | _, _, moment _, date _ => .error .dates
  | _, _, _, _ => .error (.kinds a.kindName b.kindName)

end Scalar

/-- The value under a key, if the entries have it. -/
def lookup? (entries : List (Scalar × Value)) (key : Scalar) : Option Value :=
  (entries.find? fun e => e.1.sameKey key).map (·.2)

end TileComposite
