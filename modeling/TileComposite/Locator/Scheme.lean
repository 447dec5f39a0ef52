import TileComposite.Failure
import TileComposite.Locator.Address

/-! Locators of plates, of the form `scheme://host/path`. The scheme selects the
backend. A host between square brackets must be a numeric address, and a host
must not hold characters that compatibility forms turn into separators. -/
namespace TileComposite.Locator

/-- Controls and blanks before a locator, and tabs and line ends within it, do
not count. -/
def clean (cs : List Char) : List Char :=
  (cs.dropWhile fun c => c ≤ ' ').filter fun c => c ≠ '\t' ∧ c ≠ '\n' ∧ c ≠ '\r'

def isSchemeChar (c : Char) : Bool := c.isAlphanum || c == '+' || c == '-' || c == '.'

/-- The scheme of a cleaned locator in lower case, and what follows its colon. A
scheme begins with a letter; a locator without one has an empty scheme. -/
def splitScheme (cs : List Char) : String × List Char :=
  let scheme := cs.takeWhile (· ≠ ':')
  let isScheme := (scheme.head?.map Char.isAlpha).getD false && scheme.all isSchemeChar
  if isScheme && scheme.length < cs.length then
    (String.ofList (scheme.map Char.toLower), cs.drop (scheme.length + 1))
  else ("", cs)

/-- The host part, which follows two slashes and ends at the next separator. -/
def hostOf : List Char → List Char
  | '/' :: '/' :: cs => cs.takeWhile fun c => c ≠ '/' ∧ c ≠ '?' ∧ c ≠ '#'
  | _ => []

/-- The characters whose compatibility forms hold a separator. -/
def disguises : List Nat :=
  [0x2047, 0x2048, 0x2049, 0x2100, 0x2101, 0x2105, 0x2106, 0x2a74, 0xfe13, 0xfe16, 0xfe55,
    0xfe56, 0xfe5f, 0xfe6b, 0xff03, 0xff0f, 0xff1a, 0xff1f, 0xff20]

/-- A future address: a version in hexadecimal digits, a point, and some text. -/
def isFutureAddress (cs : List Char) : Bool :=
  let rest := cs.drop 1 |>.dropWhile isHexDigit
  (cs.drop 1).length > rest.length && rest.head? = some '.' && rest.length ≥ 2

/-- Judges the text between square brackets. -/
def checkBracketed (cs : List Char) : Except HostFault Unit :=
  if cs.head? = some 'v' then
    if isFutureAddress cs then .ok () else .error .notFuture
  else if isFourOctets cs then .error .notSix
  else if isSixteenOctets cs then .ok ()
  else .error (.notAddress (String.ofList cs))

/-- A host without the user before its last at sign. -/
def withoutUser (host : List Char) : List Char :=
  (host.reverse.takeWhile (· ≠ '@')).reverse

/-- The address that a host with brackets stands for. Nothing may come before the
brackets, and only a port after them; without brackets the port is cut off. -/
def bracketed (host : List Char) : Except HostFault (List Char) :=
  match withoutUser host with
  | '[' :: rest =>
    let address := rest.takeWhile (· ≠ ']')
    match rest.drop (address.length + 1) with
    | [] | ':' :: _ => .ok address
    | _ => .error .unbalanced
  | rest => if rest.contains '[' then .error .unbalanced else .ok (rest.takeWhile (· ≠ ':'))

/-- Brackets come in pairs, with an address between them. -/
def checkHost (host : List Char) : Except HostFault Unit := do
  if host.contains '[' != host.contains ']' then throw .unbalanced
  if host.contains '[' then checkBracketed (← bracketed host)
  if host.any fun c => disguises.contains c.toNat then throw (.disguised (String.ofList host))

/-- The scheme of a locator, whose host must be in order. -/
def scheme (url : String) : Except Failure String := do
  let (name, rest) := splitScheme (clean url.toList)
  (checkHost (hostOf rest)).mapError .badHost
  return name

/-- The plate name in a locator of the memory backend: what follows the first
`://`, or everything, without slashes at its ends. -/
def afterSeparator : List Char → Option (List Char)
  | ':' :: '/' :: '/' :: cs => some cs
  | _ :: cs => afterSeparator cs
  | [] => none

def trimSlashes (cs : List Char) : List Char :=
  ((cs.dropWhile (· = '/')).reverse.dropWhile (· = '/')).reverse

def plateName (url : String) : String :=
  String.ofList (trimSlashes ((afterSeparator url.toList).getD url.toList))

end TileComposite.Locator
