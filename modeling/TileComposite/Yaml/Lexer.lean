import TileComposite.Yaml.Block
import TileComposite.Yaml.Plain
import TileComposite.Yaml.Quoted

/-! The tokens of a document. Indentation opens and closes block collections. A
key without an indicator is recognised by the colon after it: wherever such a key
could begin, its place among the tokens is remembered, and the key token is put
there once the colon is found, on the same line and within 1024 characters. -/
namespace TileComposite.Yaml

/-- Tokens in order, and why more of them are missing, if any are. A reader meets the
fault only where it asks for a token beyond the last. -/
structure TokenRun where
  tokens : List Token
  fault : Option Fault

/-- A place where a key may have begun. A required key must turn out to be one. -/
structure KeyPlace where
  tokens : Nat
  required : Bool
  cursor : Cursor

/-- The state of the lexer: the position, the tokens so far, the depth of
brackets, the columns of the open blocks, innermost first, whether a key may
begin, and the remembered places by depth. -/
structure Lexer where
  cursor : Cursor
  tokens : Array Token := #[]
  depth : Nat := 0
  indent : Int := -1
  outer : List Int := []
  keyAllowed : Bool := true
  places : List (Nat × KeyPlace) := []

namespace Lexer

def push (l : Lexer) (t : Token) : Lexer := { l with tokens := l.tokens.push t }

def inBlock (l : Lexer) : Bool := l.depth == 0

/-- Closes the blocks indented beyond a column. -/
def closeBlocks (l : Lexer) (column : Int) : Lexer :=
  if l.inBlock then
    let closed := (l.indent :: l.outer).takeWhile (column < ·)
    let remaining := (l.indent :: l.outer).drop closed.length
    { l with
      tokens := l.tokens ++ (closed.map fun _ => Token.blockEnd)
      indent := remaining.headD (-1)
      outer := remaining.drop 1 }
  else l

/-- Opens a block at a column beyond the current indentation. -/
def openBlock? (l : Lexer) (column : Int) : Option Lexer :=
  if l.indent < column then some { l with indent := column, outer := l.indent :: l.outer } else none

/-- Forgets the place remembered at the current depth. -/
def forgetPlace (l : Lexer) : Except Fault Lexer :=
  match l.places.lookup l.depth with
  | some place =>
    if place.required then .error .malformed
    else .ok { l with places := l.places.filter (·.1 ≠ l.depth) }
  | none => .ok l

/-- A place on another line or too far back holds no key. -/
def isStale (l : Lexer) (p : KeyPlace) : Bool :=
  p.cursor.line ≠ l.cursor.line || l.cursor.index - p.cursor.index > 1024

def forgetStale (l : Lexer) : Except Fault Lexer :=
  if l.places.any fun (_, p) => l.isStale p && p.required then .error .malformed
  else .ok { l with places := l.places.filter fun (_, p) => !l.isStale p }

/-- Remembers this place if a key may begin here. A key at the column of the
current block is required. -/
def rememberPlace (l : Lexer) : Except Fault Lexer :=
  if l.keyAllowed then do
    let l ← l.forgetPlace
    let place : KeyPlace :=
      ⟨l.tokens.size, l.inBlock && l.indent == l.cursor.column, l.cursor⟩
    return { l with places := (l.depth, place) :: l.places }
  else .ok l

/-- Passes blanks, comments and line breaks. Outside brackets a key may begin on
a new line. -/
def skipToToken : Nat → Lexer → Lexer
  | 0, l => l
  | fuel + 1, l =>
    let c := l.cursor.skipBlanks.skipComment
    match c.lineBreak? with
    | some (_, c) =>
      skipToToken fuel { l with cursor := c, keyAllowed := l.keyAllowed || l.inBlock }
    | none => { l with cursor := c }

/-! ### Tokens by their first character -/

def finish (l : Lexer) : Except Fault Lexer := do
  let l ← (l.closeBlocks (-1)).forgetPlace
  return { l with keyAllowed := false, places := [] }.push .streamEnd

def directive (l : Lexer) : Except Fault Lexer := do
  let l ← (l.closeBlocks (-1)).forgetPlace
  let (token, c) ← l.cursor.directive
  return { l with cursor := c, keyAllowed := false }.push token

def separator (l : Lexer) (t : Token) : Except Fault Lexer := do
  let l ← (l.closeBlocks (-1)).forgetPlace
  return { l with cursor := Cursor.skip 3 l.cursor, keyAllowed := false }.push t

def flowStart (l : Lexer) (t : Token) : Except Fault Lexer := do
  let l ← l.rememberPlace
  return { l with cursor := l.cursor.next, depth := l.depth + 1, keyAllowed := true }.push t

def flowEnd (l : Lexer) (t : Token) : Except Fault Lexer := do
  let l ← l.forgetPlace
  return { l with cursor := l.cursor.next, depth := l.depth - 1, keyAllowed := false }.push t

def flowEntry (l : Lexer) : Except Fault Lexer := do
  let l ← l.forgetPlace
  return { l with cursor := l.cursor.next, keyAllowed := true }.push .flowEntry

/-- Opens a block of a kind at the cursor if it is indented further. Outside
brackets an entry must stand where a key may begin. -/
def enterBlock (l : Lexer) (opening : Token) : Except Fault Lexer :=
  if !l.inBlock then .ok l
  else if !l.keyAllowed then .error .malformed
  else match l.openBlock? l.cursor.column with
    | some l => .ok (l.push opening)
    | none => .ok l

def blockEntry (l : Lexer) : Except Fault Lexer := do
  let l ← l.enterBlock .blockSequenceStart
  let l ← l.forgetPlace
  return { l with cursor := l.cursor.next, keyAllowed := true }.push .blockEntry

def key (l : Lexer) : Except Fault Lexer := do
  let l ← l.enterBlock .blockMappingStart
  let l ← l.forgetPlace
  return { l with cursor := l.cursor.next, keyAllowed := l.inBlock }.push .key

/-- A colon that ends a remembered key puts the key token, and the start of a
mapping if the key opens one, at the remembered place. -/
def simpleValue (l : Lexer) (place : KeyPlace) : Lexer :=
  let before := l.tokens.extract 0 place.tokens
  let after := l.tokens.extract place.tokens l.tokens.size
  let l := { l with places := l.places.filter (·.1 ≠ l.depth) }
  match if l.inBlock then l.openBlock? place.cursor.column else none with
  | some l =>
    { l with tokens := before ++ #[.blockMappingStart, .key] ++ after, keyAllowed := false }
  | none => { l with tokens := before ++ #[.key] ++ after, keyAllowed := false }

def value (l : Lexer) : Except Fault Lexer := do
  let l ← match l.places.lookup l.depth with
    | some place => .ok (l.simpleValue place)
    | none => do
      let l ← l.enterBlock .blockMappingStart
      let l ← { l with keyAllowed := l.inBlock }.forgetPlace
      .ok l
  return { l with cursor := l.cursor.next }.push .value

/-- A token that a key may begin with. -/
def word (l : Lexer) (scan : Cursor → Except Fault (Token × Cursor)) : Except Fault Lexer := do
  let l ← l.rememberPlace
  let (token, c) ← scan l.cursor
  return { l with cursor := c, keyAllowed := false }.push token

def named (make : String → Token) (c : Cursor) : Except Fault (Token × Cursor) := do
  let (name, c) ← c.anchorName
  return (make name, c)

def tagged (c : Cursor) : Except Fault (Token × Cursor) := do
  let (text, c) ← c.tag
  return (.tag text, c)

def quoted (quote : Char) (c : Cursor) : Except Fault (Token × Cursor) := do
  let (text, c) ← c.quotedText quote
  return (.scalar text false, c)

def block (l : Lexer) (folded : Bool) : Except Fault Lexer := do
  let l ← l.forgetPlace
  let (text, c) ← l.cursor.blockText folded l.indent
  return { l with cursor := c, keyAllowed := true }.push (.scalar text false)

def plain (l : Lexer) : Except Fault Lexer := do
  let l ← l.rememberPlace
  let (text, passedBreak, c) := l.cursor.plainText (!l.inBlock) l.indent
  return { l with cursor := c, keyAllowed := passedBreak }.push (.scalar text true)

/-- The characters that begin no plain scalar. -/
def isIndicator (c : Char) : Bool :=
  endsWord (some c) || "-?:,[]\x7b\x7d#&*!|>\x27\x22%@\x60".toList.contains c

/-- A plain scalar begins here. A hyphen, and outside brackets a question mark or
a colon, may begin one when no blank follows. -/
def beginsPlain (l : Lexer) (ch : Char) : Bool :=
  !isIndicator ch ||
    (!endsWord (l.cursor.peek 1) && (ch = '-' || (l.inBlock && (ch = '?' || ch = ':'))))

/-- The next token, after blanks and comments; at the end of the text the last. -/
def step (l : Lexer) : Except Fault Lexer := do
  let l ← (skipToToken (l.cursor.rest.length + 1) l).forgetStale
  let l := l.closeBlocks l.cursor.column
  let c := l.cursor
  let apart := endsWord (c.peek 1)
  let lineStart := c.column = 0
  match c.peek with
  | none => l.finish
  | some ch =>
    if ch = '%' && lineStart then l.directive
    else if ch = '-' && lineStart && c.atSeparator then l.separator .documentStart
    else if ch = '.' && lineStart && c.atSeparator then l.separator .documentEnd
    else if ch = '[' then l.flowStart .flowSequenceStart
    else if ch = '\x7b' then l.flowStart .flowMappingStart
    else if ch = ']' then l.flowEnd .flowSequenceEnd
    else if ch = '\x7d' then l.flowEnd .flowMappingEnd
    else if ch = ',' then l.flowEntry
    else if ch = '-' && apart then l.blockEntry
    else if ch = '?' && (!l.inBlock || apart) then l.key
    else if ch = ':' && (!l.inBlock || apart) then l.value
    else if ch = '*' then l.word (named .reference)
    else if ch = '&' then l.word (named .anchor)
    else if ch = '!' then l.word tagged
    else if ch = '|' && l.inBlock then l.block false
    else if ch = '>' && l.inBlock then l.block true
    else if ch = '\x27' || ch = '\x22' then l.word (quoted ch)
    else if l.beginsPlain ch then l.plain
    else .error .malformed

/-- The tokens before the first place where a key may have begun. Later text cannot
change them. -/
def settled (l : Lexer) : Array Token :=
  let places := l.places.filter fun (_, p) => !l.isStale p
  l.tokens.extract 0 (places.foldl (fun n (_, p) => min n p.tokens) l.tokens.size)

/-- All tokens up to the end of the text, or those that a fault leaves standing. -/
def run : Nat → Lexer → TokenRun
  | 0, l => ⟨l.settled.toList, some .malformed⟩
  | fuel + 1, l =>
    if l.tokens.back? = some .streamEnd then ⟨l.tokens.toList, none⟩
    else match l.step with
      | .ok l => run fuel l
      | .error fault => ⟨l.settled.toList, some fault⟩

end Lexer

/-- The characters that a document may hold. -/
def isDocumentChar (c : Char) : Bool :=
  let n := c.toNat
  n = 9 || n = 10 || n = 13 || (0x20 ≤ n && n ≤ 0x7e) || n = 0x85 || (0xa0 ≤ n && n ≤ 0xfffd)
    || 0x10000 ≤ n

/-- Line ends as single line feeds. -/
def unifyLines : List Char → List Char
  | '\r' :: '\n' :: cs => '\n' :: unifyLines cs
  | '\r' :: cs => '\n' :: unifyLines cs
  | c :: cs => c :: unifyLines cs
  | [] => []

/-- The tokens of a text, which may begin with a byte order mark. -/
def TokenRun.ofText (text : String) : TokenRun :=
  let cs := unifyLines text.toList
  if !cs.all isDocumentChar then ⟨[], some .malformed⟩
  else
    let cursor : Cursor := { rest := cs }
    let cursor := if cursor.peek = some '\ufeff' then cursor.next else cursor
    Lexer.run (cs.length + 2) { cursor }

end TileComposite.Yaml
