import TileComposite.Value

/-! JSON text of plain data, one item a line, indented by two blanks a level. Text
is written in ASCII: other characters appear as the code units of their sixteen
bit encoding. The integers are those of a report, which can be written. -/
namespace TileComposite.Value

/-- The sixteen-bit code units of a character. -/
def codeUnits (c : Char) : List Nat :=
  let n := Text.codeOf c
  if n < 0x10000 then [n] else [0xd800 + (n - 0x10000) / 0x400, 0xdc00 + (n - 0x10000) % 0x400]

def jsonChar (c : Char) : List Char :=
  if c = '\x22' ∨ c = '\\' then ['\\', c]
  else if c = '\n' then ['\\', 'n']
  else if c = '\r' then ['\\', 'r']
  else if c = '\t' then ['\\', 't']
  else if c.toNat = 8 then ['\\', 'b']
  else if c.toNat = 12 then ['\\', 'f']
  else if 0x20 ≤ c.toNat ∧ c.toNat < 0x7f then [c]
  else (codeUnits c).flatMap fun u => '\\' :: 'u' :: Text.hexDigits 4 u

def jsonText (s : String) : String :=
  String.ofList ('\x22' :: s.toList.flatMap jsonChar ++ ['\x22'])

def jsonScalar : Scalar → String
  | .null => "null"
  | .bool b => if b then "true" else "false"
  | .int n => toString n
  | .float .nan => "NaN"
  | .float (.infinite s) => if s then "-Infinity" else "Infinity"
  | .float x => x.text
  | .text s => jsonText s
  | .bytes data => jsonText (bytesLiteral data)
  | .date d => jsonText d.literal
  | .moment m => jsonText m.literal

/-- Keys are texts. -/
def jsonKey : Scalar → String
  | .text s => jsonText s
  | s => jsonText (jsonScalar s)

/-- Items on lines of their own between brackets, or the brackets alone. -/
def jsonBlock (indent : Nat) (opening closing : String) (items : List String) : String :=
  if items.isEmpty then opening ++ closing
  else
    let line (depth : Nat) := "\n" ++ String.ofList (List.replicate (2 * depth) ' ')
    opening ++ line (indent + 1) ++ ("," ++ line (indent + 1)).intercalate items
      ++ line indent ++ closing

mutual

def json (indent : Nat) : Value → String
  | scalar s => jsonScalar s
  | list items => jsonBlock indent "[" "]" (jsonItems (indent + 1) items)
  | mapping entries => jsonBlock indent "\x7b" "\x7d" (jsonEntries (indent + 1) entries)
  | set items => jsonBlock indent "[" "]" (items.map jsonScalar)
  | pairs items => jsonBlock indent "[" "]" (jsonPairs (indent + 1) items)
  | cycle _ => "null"

def jsonItems (indent : Nat) : List Value → List String
  | [] => []
  | v :: vs => v.json indent :: jsonItems indent vs

def jsonEntries (indent : Nat) : List (Scalar × Value) → List String
  | [] => []
  | (k, v) :: rest => (jsonKey k ++ ": " ++ v.json indent) :: jsonEntries indent rest

def jsonPairs (indent : Nat) : List (Value × Value) → List String
  | [] => []
  | (a, b) :: rest =>
    jsonBlock indent "[" "]" [a.json (indent + 1), b.json (indent + 1)] :: jsonPairs indent rest

end

end TileComposite.Value
