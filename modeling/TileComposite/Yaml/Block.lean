import TileComposite.Yaml.Property

/-! Block scalars: indented lines after a header. Literal text keeps its breaks;
folded text joins lines that begin with no blank. The header may fix the
indentation and says what becomes of the final breaks. -/
namespace TileComposite.Yaml.Cursor

/-- What becomes of final breaks: none stays, one stays, or all stay. -/
inductive Chomping where
  | strip | clip | keep
  deriving DecidableEq

structure BlockHeader where
  chomping : Chomping := .clip
  increment : Option Nat := none

def chomping? : Option Char → Option Chomping
  | some '+' => some .keep
  | some '-' => some .strip
  | _ => none

/-- An indentation digit, which must not be zero. -/
def increment (c : Cursor) : Except Fault (Option Nat × Cursor) :=
  match c.peek with
  | some d =>
    if !d.isDigit then .ok (none, c)
    else if d = '0' then .error .malformed
    else .ok (some (d.toNat - '0'.toNat), c.next)
  | none => .ok (none, c)

/-- The two indicators of a header, in either order, and the rest of its line. -/
def blockHeader (c : Cursor) : Except Fault (BlockHeader × Cursor) := do
  let (header, c) ← match chomping? c.peek with
    | some chomping => do
      let (n, c) ← c.next.increment
      pure ((⟨chomping, n⟩ : BlockHeader), c)
    | none => do
      let (n, c) ← c.increment
      match n, chomping? c.peek with
      | some _, some chomping => pure ((⟨chomping, n⟩ : BlockHeader), c.next)
      | _, _ => pure ((⟨.clip, n⟩ : BlockHeader), c)
  if endsField c.peek then return (header, ← c.finishLine) else throw .malformed

/-- Passes empty lines, and returns their breaks and the largest column reached. -/
def leadingBreaks : Nat → Nat → Cursor → List Char × Nat × Cursor
  | 0, widest, c => ([], widest, c)
  | fuel + 1, widest, c =>
    if c.peek = some ' ' then leadingBreaks fuel (max widest c.next.column) c.next
    else match c.lineBreak? with
      | some (b, c) =>
        let (more, widest, c) := leadingBreaks fuel widest c
        (b :: more, widest, c)
      | none => ([], widest, c)

/-- Passes blanks up to a column. -/
def indentTo (column : Nat) (c : Cursor) : Cursor :=
  let blanks := (c.rest.takeWhile (· = ' ')).length
  skip (min blanks (column - c.column)) c

/-- Passes empty lines of a block and the indentation after them. -/
def blockBreaks (column : Nat) : Nat → Cursor → List Char × Cursor
  | 0, c => ([], c)
  | fuel + 1, c =>
    let c := c.indentTo column
    match c.lineBreak? with
    | some (b, c) =>
      let (more, c) := blockBreaks column fuel c
      (b :: more, c)
    | none => ([], c)

/-- What stands between a line and the next one, given the breaks between. -/
def joint (folded : Bool) (flush : Bool) (b : Option Char) (breaks : List Char) : List Char :=
  if folded && flush && b = some '\n' then if breaks.isEmpty then [' '] else []
  else b.toList

def startsFlush (c : Cursor) : Bool := c.peek ≠ some ' ' && c.peek ≠ some '\t'

/-- The lines of a block from a line's first character on, and the breaks that
follow the last one. -/
def blockLines (folded : Bool) (column : Nat) (chomping : Chomping) :
    Nat → Cursor → List Char × Cursor
  | 0, c => ([], c)
  | fuel + 1, c =>
    let flush := c.startsFlush
    let (line, c) := c.toLineEnd
    let (b, c) := match c.lineBreak? with
      | some (b, c) => (some b, c)
      | none => (none, c)
    let (breaks, c) := blockBreaks column (c.rest.length + 1) c
    if c.column = column && c.peek.isSome then
      let (more, after) := blockLines folded column chomping fuel c
      (line ++ joint folded (flush && c.startsFlush) b breaks ++ breaks ++ more, after)
    else
      match chomping with
      | .strip => (line, c)
      | .clip => (line ++ b.toList, c)
      | .keep => (line ++ b.toList ++ breaks, c)

/-- The text of a block scalar, from its indicator, inside a block of the given
indentation. -/
def blockText (c : Cursor) (folded : Bool) (outer : Int) : Except Fault (String × Cursor) := do
  let (header, c) ← c.next.blockHeader
  let least := (max 1 (outer + 1)).toNat
  let fuel := c.rest.length + 1
  let (breaks, column, c) := match header.increment with
    | some n =>
      let (breaks, c) := blockBreaks (least + n - 1) fuel c
      (breaks, least + n - 1, c)
    | none =>
      let (breaks, widest, c) := leadingBreaks fuel 0 c
      (breaks, max least widest, c)
  if c.column = column && c.peek.isSome then
    let (text, c) := blockLines folded column header.chomping (c.rest.length + 1) c
    return (String.ofList (breaks ++ text), c)
  else return (String.ofList (if header.chomping = .keep then breaks else []), c)

end TileComposite.Yaml.Cursor
