import TileComposite.Yaml.Cursor

/-! Tags of nodes, and the tag that a plain scalar has by its form: null, truth
values, integers with bases and sexagesimal places, decimal fractions, dates and
times. What has none of these forms is text. -/
namespace TileComposite.Yaml

inductive Tag where
  | null | bool | int | float | timestamp | binary | text
  | sequence | mapping | set | omap | pairs
  | merge | value
  | foreign (uri : String)
  deriving DecidableEq

namespace Tag

def standardTarget : String := "tag:yaml.org,2002:"

/-- The tags with a meaning of their own, by the names in the standard target. -/
def named : List (String × Tag) :=
  [("null", null), ("bool", bool), ("int", int), ("float", float), ("timestamp", timestamp),
    ("binary", binary), ("str", text), ("seq", sequence), ("map", mapping), ("set", set),
    ("omap", omap), ("pairs", pairs), ("merge", merge), ("value", value)]

/-- The tags under which a scalar has a value. -/
def isScalar : Tag → Bool
  | null | bool | int | float | timestamp | binary | text => true
  | _ => false

def ofUri (uri : String) : Tag :=
  ((named.find? fun (name, _) => standardTarget ++ name = uri).map (·.2)).getD (foreign uri)

end Tag

/-! ### Forms of plain scalars -/

namespace Form

/-- A matcher returns every rest that a form can leave. -/
abbrev Matcher := List Char → List (List Char)

def one (p : Char → Bool) : Matcher
  | c :: cs => if p c then [cs] else []
  | [] => []

def char (c : Char) : Matcher := one (· == c)

/-- All rests after a run of characters in a class, the shortest run first. -/
def many (p : Char → Bool) : Matcher
  | [] => [[]]
  | c :: cs => (c :: cs) :: if p c then many p cs else []

def seq (a b : Matcher) : Matcher := fun cs => (a cs).flatMap b

def alt (a b : Matcher) : Matcher := fun cs => a cs ++ b cs

def maybe (a : Matcher) : Matcher := fun cs => cs :: a cs

def all (ms : List Matcher) : Matcher := ms.foldr seq fun cs => [cs]

/-- One or more repetitions; each consumes something, so the length bounds them. -/
def repeated (a : Matcher) : Nat → Matcher
  | 0, _ => []
  | n + 1, cs => (a cs).flatMap fun rest => rest :: repeated a n rest

/-- A form fits a whole text, up to one line feed at its end. -/
def fits (m : Matcher) (cs : List Char) : Bool :=
  (m cs).any fun rest => rest = [] || rest = ['\n']

def digit : Matcher := one Char.isDigit

def digitOrMark (c : Char) : Bool := c.isDigit || c == '_'

def sign : Matcher := one fun c => c == '-' || c == '+'

/-- Sexagesimal places after the first. -/
def places (n : Nat) : Matcher :=
  repeated (all [char ':', maybe (one fun c => '0' ≤ c && c ≤ '5'), digit]) n

def isInt (cs : List Char) : Bool :=
  let n := cs.length
  fits (seq (maybe sign) (alt
    (all [char '0', char 'b', one (fun c => c == '0' || c == '1' || c == '_'),
      many fun c => c == '0' || c == '1' || c == '_'])
    (alt (all [char '0', one (fun c => ('0' ≤ c && c ≤ '7') || c == '_'),
      many fun c => ('0' ≤ c && c ≤ '7') || c == '_'])
    (alt (char '0')
    (alt (all [one (fun c => '1' ≤ c && c ≤ '9'), many digitOrMark])
    (alt (all [char '0', char 'x',
      one (fun c => c.isDigit || ('a' ≤ c && c ≤ 'f') || ('A' ≤ c && c ≤ 'F') || c == '_'),
      many fun c => c.isDigit || ('a' ≤ c && c ≤ 'f') || ('A' ≤ c && c ≤ 'F') || c == '_'])
      (all [one (fun c => '1' ≤ c && c ≤ '9'), many digitOrMark, places n]))))))) cs

def exponent : Matcher :=
  all [one fun c => c == 'e' || c == 'E', sign, digit, many Char.isDigit]

def word (s : String) : Matcher := all (s.toList.map char)

def oneOf (words : List String) : Matcher := fun cs => words.flatMap fun w => word w cs

def isFloat (cs : List Char) : Bool :=
  let n := cs.length
  fits (alt (all [maybe sign, digit, many digitOrMark, char '.', many digitOrMark, maybe exponent])
    (alt (all [char '.', digit, many digitOrMark, maybe exponent])
    (alt (all [maybe sign, digit, many digitOrMark, places n, char '.', many digitOrMark])
    (alt (all [maybe sign, oneOf [".inf", ".Inf", ".INF"]]) (oneOf [".nan", ".NaN", ".NAN"]))))) cs

def oneOrTwoDigits : Matcher := seq digit (maybe digit)

def blank (c : Char) : Bool := c == ' ' || c == '\t'

/-- The time of day and the zone of a timestamp. -/
def clock : Matcher :=
  all [alt (one fun c => c == 'T' || c == 't') (seq (one blank) (many blank)), oneOrTwoDigits,
    char ':', digit, digit, char ':', digit, digit,
    maybe (seq (char '.') (many Char.isDigit)),
    maybe (seq (many blank) (alt (char 'Z')
      (all [sign, oneOrTwoDigits, maybe (all [char ':', digit, digit])])))]

def year : Matcher := all [digit, digit, digit, digit]

def isTimestamp (cs : List Char) : Bool :=
  fits (alt (all [year, char '-', digit, digit, char '-', digit, digit])
    (all [year, char '-', oneOrTwoDigits, char '-', oneOrTwoDigits, clock])) cs

def isBool (cs : List Char) : Bool :=
  fits (oneOf ["yes", "Yes", "YES", "no", "No", "NO", "true", "True", "TRUE", "false", "False",
    "FALSE", "on", "On", "ON", "off", "Off", "OFF"]) cs

def isNull (cs : List Char) : Bool :=
  cs.isEmpty || fits (oneOf ["~", "null", "Null", "NULL"]) cs

end Form

/-- The tag of a plain scalar by its form. -/
def Tag.ofPlain (s : String) : Tag :=
  let cs := s.toList
  if Form.isBool cs then bool
  else if Form.isFloat cs then float
  else if Form.isInt cs then int
  else if Form.fits (Form.word "<<") cs then merge
  else if Form.isNull cs then null
  else if Form.isTimestamp cs then timestamp
  else if Form.fits (Form.char '=') cs then value
  else if Form.fits (Form.one fun c => c == '!' || c == '&' || c == '*') cs then
    foreign (standardTarget ++ "yaml")
  else text

end TileComposite.Yaml
