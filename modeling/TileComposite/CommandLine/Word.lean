import TileComposite.CommandLine.Flag
import TileComposite.Text.Blank

/-! Words of a command line. Each word is judged on its own: it is plain, or it
names a flag, perhaps by an abbreviation and perhaps with the value, or it looks
like a flag and is none. After a separator every word is plain. -/
namespace TileComposite.CommandLine

inductive Word where
  | plain (text : String)
  | separator
  /-- A flag alone, or a flag of one letter with the text attached to it. -/
  | flag (f : Flag) (attached : Option (List Char))
  /-- A long flag with its value after an equals sign. -/
  | assignment (f : Flag) (value : List Char)
  | unknown (text : String)
  deriving DecidableEq

/-- The text before the first equals sign, and the text after it. -/
def splitEquals : List Char → List Char × Option (List Char)
  | [] => ([], none)
  | c :: cs =>
    if c = '=' then ([], some cs)
    else (c :: (splitEquals cs).1, (splitEquals cs).2)

def isDigit (c : Char) : Bool := (Text.digitValue? c).isSome

/-- Digits of any script, perhaps with a point before the last of them; one line
break may follow. -/
def isUnsigned (cs : List Char) : Bool :=
  let cs := if cs.getLast? = some '\n' then cs.dropLast else cs
  match cs.dropWhile isDigit with
  | [] => !cs.isEmpty
  | '.' :: fraction => !fraction.isEmpty && fraction.all isDigit
  | _ => false

namespace Word

/-- A long flag without a value, or with a value after an equals sign. -/
def ofFlag (f : Flag) : Option (List Char) → Word
  | none => .flag f none
  | some value => .assignment f value

/-- A word that begins like a flag and names none. Negative numbers and texts with
a space are plain. -/
def ofNoFlag (text : String) : Word :=
  if isUnsigned (text.toList.drop 1) ∨ ' ' ∈ text.toList then .plain text else .unknown text

/-- Judges a word that begins with a hyphen and is not a flag's spelling. Two hyphens
begin an abbreviation, which must fit one spelling unless it is one; one hyphen
begins a flag of one letter, and an equals sign after it does not count. -/
def ofHyphen (text : String) : Except Misuse Word :=
  match text.toList with
  | '-' :: '-' :: _ =>
    let (stem, value) := splitEquals text.toList
    let stem := String.ofList stem
    match Flag.ofSpelling? stem, Flag.completions stem with
    | some f, _ | none, [(_, f)] => .ok (ofFlag f value)
    | none, [] => .ok (ofNoFlag text)
    | none, several => .error (.ambiguous text (several.map (·.1)))
  | '-' :: c :: attached =>
    match Flag.ofSpelling? (String.ofList ['-', c]), attached with
    | some f, '=' :: value => .ok (.flag f (some value))
    | some f, attached => .ok (.flag f (some attached))
    | none, _ => .ok (ofNoFlag text)
  | _ => .ok (.plain text)

def read (text : String) : Except Misuse Word :=
  match text.toList with
  | '-' :: _ =>
    match Flag.ofSpelling? text with
    | some f => .ok (.flag f none)
    | none => ofHyphen text
  | _ => .ok (.plain text)

def readAll : List String → Except Misuse (List Word)
  | [] => .ok []
  | text :: texts =>
    if text = "--" then .ok (.separator :: texts.map .plain)
    else do
      let word ← read text
      return word :: (← readAll texts)

end Word
end TileComposite.CommandLine
