import TileComposite.Yaml.Property

/-! Quoted scalars. Line breaks inside fold: one break becomes a blank, and of
more breaks all but the first stay. Between apostrophes only the doubled
apostrophe is special; between double quotes a backslash begins an escape. -/
namespace TileComposite.Yaml.Cursor

/-- The characters that stand for themselves in both kinds of quotes. -/
def isQuotedChar (c : Char) : Bool :=
  !(c == '\x27' || c == '\x22' || c == '\\' || c == ' ' || c == '\t' || isBreak c)

/-- The character of a one-letter escape. -/
def letterEscape? : Char → Option Char
  | '0' => some '\x00'
  | 'a' => some '\x07'
  | 'b' => some '\x08'
  | 't' | '\t' => some '\t'
  | 'n' => some '\n'
  | 'v' => some '\x0b'
  | 'f' => some '\x0c'
  | 'r' => some '\r'
  | 'e' => some '\x1b'
  | ' ' => some ' '
  | '\x22' => some '\x22'
  | '\\' => some '\\'
  | '/' => some '/'
  | 'N' => some '\u0085'
  | '_' => some '\u00a0'
  | 'L' => some '\u2028'
  | 'P' => some '\u2029'
  | _ => none

/-- The number of hexadecimal digits of a numeric escape. -/
def escapeWidth? : Char → Option Nat
  | 'x' => some 2
  | 'u' => some 4
  | 'U' => some 8
  | _ => none

/-- The character of an escape's code. -/
def charOfCode (code : Nat) : Except Fault Char :=
  if maxCode < code then .error (.scalar .codeTooLarge)
  else match Text.ofCode? code with
    | some ch => .ok ch
    | none => .error (.scalar .noCharacter)

def numericEscape (width : Nat) (c : Cursor) : Except Fault (Char × Cursor) :=
  match (c.rest.take width).mapM hexValue? with
  | none => .error .malformed
  | some digits =>
    if digits.length < width then .error .malformed
    else do
      let ch ← charOfCode (digits.foldl (16 * · + ·) 0)
      return (ch, skip width c)

/-- The line breaks from here on, with the blanks around them dropped. A line
that separates documents must not begin here. -/
def foldedBreaks : Nat → Cursor → Except Fault (List Char × Cursor)
  | 0, c => .ok ([], c)
  | fuel + 1, c =>
    if c.atSeparator then .error .malformed
    else
      let c := c.skipWhile fun ch => ch = ' ' || ch = '\t'
      match c.lineBreak? with
      | none => .ok ([], c)
      | some (b, c) => do
        let (more, c) ← foldedBreaks fuel c
        return (b :: more, c)

/-- Folds a break and the breaks after it. -/
def foldBreak (b : Char) (more : List Char) : List Char :=
  if b ≠ '\n' then b :: more else if more.isEmpty then [' '] else more

/-- An escape, after its backslash. -/
def escape (c : Cursor) : Except Fault (List Char × Cursor) :=
  match c.peek with
  | none => .error .malformed
  | some ch =>
    match letterEscape? ch, escapeWidth? ch with
    | some image, _ => .ok ([image], c.next)
    | none, some width => do
      let (image, c) ← numericEscape width c.next
      return ([image], c)
    | none, none =>
      match c.lineBreak? with
      | some (_, c) => foldedBreaks (c.rest.length + 1) c
      | none => .error .malformed

/-- Text up to a blank, a break or the closing quote. -/
def quotedWord (double : Bool) : Nat → Cursor → Except Fault (List Char × Cursor)
  | 0, c => .ok ([], c)
  | fuel + 1, c => do
    let (run, c) := c.span isQuotedChar
    let (piece, c) ← match double, c.peek with
      | false, some '\x27' =>
        if c.peek 1 = some '\x27' then .ok (some ['\x27'], skip 2 c) else .ok (none, c)
      | true, some '\x27' => .ok (some ['\x27'], c.next)
      | false, some '\x22' => .ok (some ['\x22'], c.next)
      | false, some '\\' => .ok (some ['\\'], c.next)
      | true, some '\\' => do
        let (image, c) ← c.next.escape
        .ok (some image, c)
      | _, _ => .ok (none, c)
    match piece with
    | none => return (run, c)
    | some image =>
      let (more, c) ← quotedWord double fuel c
      return (run ++ image ++ more, c)

/-- Blanks or folded breaks between words. -/
def quotedSpace (c : Cursor) : Except Fault (List Char × Cursor) :=
  let (blanks, c) := c.span fun ch => ch = ' ' || ch = '\t'
  match c.peek, c.lineBreak? with
  | none, _ => .error .malformed
  | _, none => .ok (blanks, c)
  | _, some (b, c) => do
    let (more, c) ← foldedBreaks (c.rest.length + 1) c
    return (foldBreak b more, c)

/-- Words and the space between them, up to the closing quote. -/
def quotedRest (quote : Char) : Nat → Cursor → Except Fault (List Char × Cursor)
  | 0, _ => .error .malformed
  | fuel + 1, c => do
    let (word, c) ← quotedWord (quote = '\x22') (c.rest.length + 1) c
    if c.peek = some quote then return (word, c.next)
    let (space, c) ← c.quotedSpace
    let (more, c) ← quotedRest quote fuel c
    return (word ++ space ++ more, c)

/-- The text of a quoted scalar, from its opening quote. -/
def quotedText (c : Cursor) (quote : Char) : Except Fault (String × Cursor) := do
  let (text, c) ← quotedRest quote (c.rest.length + 1) c.next
  return (String.ofList text, c)

end TileComposite.Yaml.Cursor
