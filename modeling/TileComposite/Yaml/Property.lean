import TileComposite.Yaml.Cursor
import TileComposite.Yaml.Token

/-! Names in a document: anchors and aliases, tags and directives. -/
namespace TileComposite.Yaml.Cursor

/-- The name after an indicator. It ends at a blank, a line end or punctuation. -/
def anchorName (c : Cursor) : Except Fault (String × Cursor) :=
  let (name, c) := c.next.span isNameChar
  let ended := endsWord c.peek
    || (c.peek.map fun ch => "?:,]\x7d%@\x60".toList.contains ch).getD false
  if name.isEmpty || !ended then .error .malformed else .ok (String.ofList name, c)

/-! ### Tags -/

def isUriChar (c : Char) : Bool :=
  c.isAlphanum || "-;/?:@&=+$,_.!~*\x27()[]".toList.contains c

def hexValue? (c : Char) : Option Nat :=
  if c.isDigit then some (c.toNat - '0'.toNat)
  else if 'a' ≤ c ∧ c ≤ 'f' then some (c.toNat - 'a'.toNat + 10)
  else if 'A' ≤ c ∧ c ≤ 'F' then some (c.toNat - 'A'.toNat + 10)
  else none

/-- The bytes of a run of percent escapes, and what follows the run. -/
def escapedBytes? : List Char → Option (List UInt8 × List Char)
  | '%' :: a :: b :: rest => do
    let high ← hexValue? a
    let low ← hexValue? b
    let (bytes, rest) ← escapedBytes? rest
    return ((16 * high + low).toUInt8 :: bytes, rest)
  | '%' :: _ => none
  | rest => some ([], rest)

/-- The text of a run of escapes, which must be well-formed. -/
def escapes (c : Cursor) : Except Fault (List Char × Cursor) :=
  match escapedBytes? c.rest with
  | none => .error .malformed
  | some (bytes, rest) =>
    match String.fromUTF8? ⟨bytes.toArray⟩ with
    | some s => .ok (s.toList, skip (c.rest.length - rest.length) c)
    | none => .error .malformed

/-- The characters of a tag, with escapes resolved; at most `fuel` parts. -/
def uriParts : Nat → Cursor → Except Fault (List Char × Cursor)
  | 0, c => .ok ([], c)
  | fuel + 1, c => do
    let (run, c) := c.span isUriChar
    if c.peek = some '%' then
      let (text, c) ← c.escapes
      let (more, c) ← uriParts fuel c
      return (run ++ text ++ more, c)
    else return (run, c)

/-- A non-empty sequence of tag characters. -/
def uri (c : Cursor) : Except Fault (String × Cursor) := do
  let (text, after) ← uriParts (c.rest.length + 1) c
  if after.index = c.index then .error .malformed else return (String.ofList text, after)

/-- A handle: an exclamation mark, or a name between two of them. -/
def tagHandle (c : Cursor) : Except Fault (String × Cursor) :=
  if c.peek ≠ some '!' then .error .malformed
  else if c.peek 1 = some ' ' then .ok ("!", c.next)
  else
    let (name, after) := c.next.span isNameChar
    if after.peek = some '!' then .ok (String.ofList ('!' :: name ++ ['!']), after.next)
    else .error .malformed

/-- A tag: verbatim between angle brackets, a lone mark, or a suffix after a
handle. A word with a second mark begins with a handle of its own. -/
def tag (c : Cursor) : Except Fault (TagText × Cursor) := do
  let (text, c) ←
    if c.peek 1 = some '<' then do
      let (suffix, c) ← (skip 2 c).uri
      if c.peek = some '>' then .ok ((⟨none, suffix⟩ : TagText), c.next) else .error .malformed
    else if endsWord (c.peek 1) then .ok ((⟨none, "!"⟩ : TagText), c.next)
    else do
      let word := (c.rest.drop 1).takeWhile fun ch => !endsField (some ch)
      let (handle, c) ← if word.contains '!' then c.tagHandle else .ok ("!", c.next)
      let (suffix, c) ← c.uri
      pure ((⟨some handle, suffix⟩ : TagText), c)
  if endsField c.peek then .ok (text, c) else .error .malformed

/-! ### Directives -/

/-- A number of decimal digits. -/
def number (c : Cursor) : Except Fault (Nat × Cursor) :=
  let (run, c) := c.span Char.isDigit
  if run.isEmpty then .error .malformed
  else .ok (run.foldl (fun n d => 10 * n + (d.toNat - '0'.toNat)) 0, c)

def versionDirective (c : Cursor) : Except Fault (Token × Cursor) := do
  let (major, c) ← c.skipBlanks.number
  if c.peek ≠ some '.' then throw .malformed
  let (_, c) ← c.next.number
  if endsField c.peek then return (.version major, c) else throw .malformed

def tagDirective (c : Cursor) : Except Fault (Token × Cursor) := do
  let (handle, c) ← c.skipBlanks.tagHandle
  if c.peek ≠ some ' ' then throw .malformed
  let (target, c) ← c.skipBlanks.uri
  if endsField c.peek then return (.tagHandle handle target, c) else throw .malformed

/-- A directive line. Directives with other names are passed over. -/
def directive (c : Cursor) : Except Fault (Token × Cursor) := do
  let (name, c) := c.next.span isNameChar
  if name.isEmpty || !endsField c.peek then throw .malformed
  let (token, c) ← match String.ofList name with
    | "YAML" => c.versionDirective
    | "TAG" => c.tagDirective
    | _ => .ok (.directive, c.toLineEnd.2)
  return (token, ← c.finishLine)

end TileComposite.Yaml.Cursor
