import TileComposite.Yaml.Property

/-! Plain scalars: words without quotes. A colon before a blank, a hash after one
and, inside brackets, punctuation end the text; so does a line of less
indentation. Line breaks fold as in quoted scalars. -/
namespace TileComposite.Yaml.Cursor

/-- The characters that end a word inside brackets. -/
def isFlowPunctuation (c : Char) : Bool :=
  c == ',' || c == '?' || c == '[' || c == ']' || c == '\x7b' || c == '\x7d'

/-- A colon ends a word before a blank, and inside brackets before punctuation. -/
def colonEnds (flow : Bool) (next : Option Char) : Bool :=
  endsWord next || (flow && next.any fun c => c ≠ '?' && isFlowPunctuation c)

/-- The characters of a plain word. -/
def plainWord (flow : Bool) : List Char → List Char
  | [] => []
  | c :: cs =>
    if endsWord (some c) || (c = ':' && colonEnds flow cs.head?) || (flow && isFlowPunctuation c)
    then []
    else c :: plainWord flow cs

/-- What follows a word: the folded space up to the next word, or none if the
scalar ends, and whether a line break was passed. -/
structure PlainSpace where
  text : Option (List Char)
  passedBreak : Bool
  after : Cursor

/-- The breaks of empty lines, with blanks dropped; none at a line that separates
documents. -/
def plainBreaks : Nat → Cursor → Option (List Char) × Cursor
  | 0, c => (some [], c)
  | fuel + 1, c =>
    if c.peek = some ' ' then plainBreaks fuel c.next
    else match c.lineBreak? with
      | none => (some [], c)
      | some (b, c) =>
        if c.atSeparator then (none, c)
        else
          let (more, c) := plainBreaks fuel c
          (more.map (b :: ·), c)

/-- Folds a break and the breaks after it. -/
def plainFold (b : Char) (more : List Char) : List Char :=
  if b ≠ '\n' then b :: more else if more.isEmpty then [' '] else more

def plainSpace (c : Cursor) : PlainSpace :=
  let (blanks, c) := c.span (· = ' ')
  match c.lineBreak? with
  | none => ⟨if blanks.isEmpty then none else some blanks, false, c⟩
  | some (b, c) =>
    if c.atSeparator then ⟨none, true, c⟩
    else
      let (more, c) := plainBreaks (c.rest.length + 1) c
      ⟨more.map (plainFold b), true, c⟩

/-- The text of a plain scalar, whether its end is after a line break, and the
position there. Outside brackets, further lines must be indented by at least
`indent`. -/
def plainRest (flow : Bool) (indent : Int) : Nat → Cursor → List Char × Bool × Cursor
  | 0, c => ([], false, c)
  | fuel + 1, c =>
    let word := plainWord flow c.rest
    let space := (skip word.length c).plainSpace
    match space.text with
    | none => (word, space.passedBreak, space.after)
    | some text =>
      let c := space.after
      if c.peek = some '#' || (!flow && c.column < indent) || (plainWord flow c.rest).isEmpty then
        (word, space.passedBreak, c)
      else
        let (more, passedBreak, after) := plainRest flow indent fuel c
        (word ++ text ++ more, passedBreak, after)

def plainText (c : Cursor) (flow : Bool) (outer : Int) : String × Bool × Cursor :=
  let (text, passedBreak, after) := plainRest flow (outer + 1) (c.rest.length + 1) c
  (String.ofList text, passedBreak, after)

end TileComposite.Yaml.Cursor
