import TileComposite.Yaml.ScalarFault

/-! A position in the text of a document. Positions count characters, lines and
columns; a byte order mark takes no column. Line ends of the text are single
line feeds, or one of the three other break characters. -/
namespace TileComposite.Yaml

/-- A line break of a document. -/
def isBreak (c : Char) : Bool := c == '\n' || c == '\u0085' || c == '\u2028' || c == '\u2029'

/-- The end of a line, or of the text. -/
def endsLine : Option Char → Bool
  | none => true
  | some c => isBreak c

/-- The end of a line or a blank. -/
def endsField : Option Char → Bool
  | none => true
  | some c => c == ' ' || isBreak c

/-- The end of a line, a blank or a tab. -/
def endsWord : Option Char → Bool
  | none => true
  | some c => c == ' ' || c == '\t' || isBreak c

/-- Letters, digits, hyphens and underscores. -/
def isNameChar (c : Char) : Bool := c.isAlphanum || c == '-' || c == '_'

structure Cursor where
  rest : List Char
  index : Nat := 0
  line : Nat := 0
  column : Nat := 0

namespace Cursor

/-- The character some places ahead, none past the end. -/
def peek (c : Cursor) (ahead : Nat := 0) : Option Char := c.rest[ahead]?

/-- The position after one character; the end stays where it is. -/
def next (c : Cursor) : Cursor :=
  match c.rest with
  | [] => c
  | ch :: rest =>
    if isBreak ch then ⟨rest, c.index + 1, c.line + 1, 0⟩
    else if ch = '\ufeff' then ⟨rest, c.index + 1, c.line, c.column⟩
    else ⟨rest, c.index + 1, c.line, c.column + 1⟩

def skip : Nat → Cursor → Cursor
  | 0, c => c
  | n + 1, c => skip n c.next

/-- The longest run of characters in a class, and the position after it. -/
def span (c : Cursor) (p : Char → Bool) : List Char × Cursor :=
  let run := c.rest.takeWhile p
  (run, skip run.length c)

def skipWhile (c : Cursor) (p : Char → Bool) : Cursor := (c.span p).2

def skipBlanks (c : Cursor) : Cursor := c.skipWhile (· = ' ')

/-- Up to the end of the line. -/
def toLineEnd (c : Cursor) : List Char × Cursor := c.span fun ch => !isBreak ch

/-- Passes a comment, if one begins here. -/
def skipComment (c : Cursor) : Cursor :=
  if c.peek = some '#' then c.toLineEnd.2 else c

/-- Passes a line break, if one is here. Line feed and next line both read as a
line feed, the other breaks as themselves. -/
def lineBreak? (c : Cursor) : Option (Char × Cursor) :=
  match c.peek with
  | some ch => if isBreak ch then some (if ch = '\u0085' then '\n' else ch, c.next) else none
  | none => none

/-- A line begins here that separates documents. -/
def atSeparator (c : Cursor) : Bool :=
  match c.rest with
  | '-' :: '-' :: '-' :: rest | '.' :: '.' :: '.' :: rest => endsWord rest.head?
  | _ => false

/-- Passes blanks and a comment up to the end of the line, and its break. -/
def finishLine (c : Cursor) : Except Fault Cursor :=
  let c := c.skipBlanks.skipComment
  if endsLine c.peek then .ok ((c.lineBreak?.map (·.2)).getD c) else .error .malformed

end Cursor
end TileComposite.Yaml
