import TileComposite.Yaml.Graph
import TileComposite.Yaml.Lexer

/-! From tokens to the graph of a document. Tokens are asked for one at a time, so
that of several faults of a text the first one in reading order is met. -/
namespace TileComposite.Yaml

/-- The tokens still to be read and the fault behind them, the tag handles of the
document, the nodes named so far, and the nodes read so far. -/
structure Reader where
  tokens : List Token
  fault : Option Fault := none
  handles : List (String × String) := []
  anchors : List (String × NodeId) := []
  graph : Graph := {}

namespace Reader

abbrev Step (α : Type) := StateT Reader (Except Fault) α

def refuse : Step α := throw .malformed

def peek : Step Token := do
  match (← get).tokens, (← get).fault with
  | t :: _, _ => return t
  | [], some fault => throw fault
  | [], none => return .streamEnd

def drop : Step Unit := modify fun r => { r with tokens := r.tokens.tail }

/-- Passes a token if it is the next one. -/
def accept (t : Token) : Step Bool := do
  if (← peek) = t then
    drop
    return true
  else return false

def expect (t : Token) : Step Unit := do
  unless ← accept t do refuse

/-- The next token is one of these. -/
def sees (ts : List Token) : Step Bool := return ts.contains (← peek)

/-! ### Properties -/

structure Properties where
  anchor : Option String := none
  tag : Option String := none

def anchor? : Step (Option String) := do
  match ← peek with
  | .anchor name =>
    drop
    return some name
  | _ => return none

def tagText? : Step (Option TagText) := do
  match ← peek with
  | .tag text =>
    drop
    return some text
  | _ => return none

/-- A tag with its handle replaced by what the document declares for it. -/
def resolve : TagText → Step String
  | ⟨none, suffix⟩ => return suffix
  | ⟨some handle, suffix⟩ => do
    match (← get).handles.lookup handle with
    | some target => return target ++ suffix
    | none => refuse

/-- An anchor and a tag, each at most once, in either order. -/
def properties : Step Properties := do
  let before ← anchor?
  let tag ← tagText?
  let after ← if before.isNone && tag.isSome then anchor? else pure none
  return ⟨before.or after, ← tag.mapM resolve⟩

/-- The tag of a scalar. A lone mark asks for the form, whatever the quotes. -/
def scalarTag (tag : Option String) (text : String) (isPlain : Bool) : Tag :=
  match tag with
  | none => if isPlain then Tag.ofPlain text else .text
  | some "!" => Tag.ofPlain text
  | some uri => Tag.ofUri uri

def collectionTag (tag : Option String) (standard : Tag) : Tag :=
  match tag with
  | none | some "!" => standard
  | some uri => Tag.ofUri uri

/-! ### Nodes

Every function spends one unit of fuel a call. Between two tokens there are at
most four calls, so that a multiple of the number of tokens is enough. -/

def addNode (node : Node) : Step NodeId :=
  modifyGet fun r => (r.graph.nodes.size, { r with graph := ⟨r.graph.nodes.push node⟩ })

/-- A node under its anchor, which must be new to the document. Inside a collection
its anchor already names it. -/
def addNamed (anchor : Option String) (node : Node) : Step NodeId := do
  match anchor with
  | none => addNode node
  | some name =>
    if ((← get).anchors.lookup name).isSome then refuse
    let id ← addNode node
    modify fun r => { r with anchors := (name, id) :: r.anchors }
    return id

def fill (id : NodeId) (content : Content) : Step Unit :=
  modify fun r => { r with graph := r.graph.setContent id content }

def sequenceOf (p : Properties) (items : Step (List NodeId)) : Step NodeId := do
  let id ← addNamed p.anchor ⟨collectionTag p.tag .sequence, .sequence []⟩
  fill id (.sequence (← items))
  return id

def mappingOf (p : Properties) (entries : Step (List (NodeId × NodeId))) : Step NodeId := do
  let id ← addNamed p.anchor ⟨collectionTag p.tag .mapping, .mapping []⟩
  fill id (.mapping (← entries))
  return id

def scalarOf (p : Properties) (text : String) (isPlain : Bool) : Step NodeId :=
  addNamed p.anchor ⟨scalarTag p.tag text isPlain, .scalar text⟩

/-- Properties alone make an empty scalar. -/
def emptyNode (p : Properties) : Step NodeId := do
  if p.anchor.isNone && p.tag.isNone then refuse
  scalarOf p "" true

def referent (name : String) : Step NodeId := do
  match (← get).anchors.lookup name with
  | some id => return id
  | none => refuse

/-- Where a node stands: what may begin it. -/
inductive Position where
  /-- Inside brackets. -/
  | flow
  /-- Inside a block. -/
  | block
  /-- After a key or a colon in a block, where entries need no indentation. -/
  | entry
  deriving DecidableEq

mutual

def node (position : Position) : Nat → Step NodeId
  | 0 => refuse
  | fuel + 1 => do
    if let .reference name ← peek then
      drop
      return ← referent name
    let p ← properties
    match ← peek with
    | .blockEntry =>
      if position = .entry then sequenceOf p (bareEntries fuel) else emptyNode p
    | .scalar text isPlain =>
      drop
      scalarOf p text isPlain
    | .flowSequenceStart =>
      drop
      sequenceOf p (flowItems true fuel)
    | .flowMappingStart =>
      drop
      mappingOf p (flowPairs true fuel)
    | .blockSequenceStart =>
      if position = .flow then emptyNode p
      else
        drop
        sequenceOf p (blockItems fuel)
    | .blockMappingStart =>
      if position = .flow then emptyNode p
      else
        drop
        mappingOf p (blockPairs fuel)
    | _ => emptyNode p

/-- A node, or a missing one before a token that ends it. -/
def nodeBefore (position : Position) (ends : List Token) : Nat → Step NodeId
  | 0 => refuse
  | fuel + 1 => do
    if ← sees ends then addNode .missing else node position fuel

def blockItems : Nat → Step (List NodeId)
  | 0 => refuse
  | fuel + 1 => do
    if ← accept .blockEntry then
      let item ← nodeBefore .block [.blockEntry, .blockEnd] fuel
      return item :: (← blockItems fuel)
    expect .blockEnd
    return []

/-- Entries at the indentation of the mapping around them. -/
def bareEntries : Nat → Step (List NodeId)
  | 0 => refuse
  | fuel + 1 => do
    if ← accept .blockEntry then
      let item ← nodeBefore .block [.blockEntry, .key, .value, .blockEnd] fuel
      return item :: (← bareEntries fuel)
    return []

/-- The value after a colon; missing without one. -/
def valueBefore (position : Position) (ends : List Token) : Nat → Step NodeId
  | 0 => refuse
  | fuel + 1 => do
    if ← accept .value then nodeBefore position ends fuel else addNode .missing

def blockPairs : Nat → Step (List (NodeId × NodeId))
  | 0 => refuse
  | fuel + 1 => do
    if ← accept .key then
      let key ← nodeBefore .entry [.key, .value, .blockEnd] fuel
      let value ← valueBefore .entry [.key, .value, .blockEnd] fuel
      return (key, value) :: (← blockPairs fuel)
    expect .blockEnd
    return []

/-- Items up to the closing bracket. A key among them makes a mapping of one
entry. -/
def flowItems (first : Bool) : Nat → Step (List NodeId)
  | 0 => refuse
  | fuel + 1 => do
    if ← accept .flowSequenceEnd then return []
    unless first do expect .flowEntry
    if ← accept .key then
      let key ← nodeBefore .flow [.value, .flowEntry, .flowSequenceEnd] fuel
      let value ← valueBefore .flow [.flowEntry, .flowSequenceEnd] fuel
      let item ← addNode ⟨.mapping, .mapping [(key, value)]⟩
      return item :: (← flowItems false fuel)
    if ← accept .flowSequenceEnd then return []
    let item ← node .flow fuel
    return item :: (← flowItems false fuel)

/-- Entries up to the closing brace. A node without a key token is a key without
a value. -/
def flowPairs (first : Bool) : Nat → Step (List (NodeId × NodeId))
  | 0 => refuse
  | fuel + 1 => do
    if ← accept .flowMappingEnd then return []
    unless first do expect .flowEntry
    if ← accept .key then
      let key ← nodeBefore .flow [.value, .flowEntry, .flowMappingEnd] fuel
      let value ← valueBefore .flow [.flowEntry, .flowMappingEnd] fuel
      return (key, value) :: (← flowPairs false fuel)
    if ← accept .flowMappingEnd then return []
    let key ← node .flow fuel
    let value ← addNode .missing
    return (key, value) :: (← flowPairs false fuel)

end

/-! ### Documents -/

/-- Reads directives up to the start of a document. The version must be one of
the first series, and neither it nor a handle may be declared twice. -/
def directives : Nat → Bool → List (String × String) → Step (List (String × String))
  | 0, _, _ => refuse
  | fuel + 1, versioned, handles => do
    match ← peek with
    | .version major =>
      drop
      if versioned || major ≠ 1 then refuse
      directives fuel true handles
    | .tagHandle handle target =>
      drop
      if (handles.lookup handle).isSome then refuse
      directives fuel versioned ((handle, target) :: handles)
    | .directive =>
      drop
      directives fuel versioned handles
    | _ => return handles

/-- The handles that every document has. -/
def standardHandles : List (String × String) := [("!", "!"), ("!!", Tag.standardTarget)]

def isDirective : Token → Bool
  | .version _ | .tagHandle .. | .directive => true
  | _ => false

def skipDocumentEnds : Nat → Step Unit
  | 0 => return
  | fuel + 1 => do
    if ← accept .documentEnd then skipDocumentEnds fuel

/-- The content of a document after its start. -/
def content (fuel : Nat) : Step NodeId := do
  let t ← peek
  if isDirective t || [.documentStart, .documentEnd, .streamEnd].contains t then
    addNode .missing
  else node .block fuel

/-- Directives and the mark that starts a document. -/
def start (fuel : Nat) : Step Unit := do
  let handles ← directives fuel false []
  modify fun r => { r with handles := handles ++ standardHandles }
  expect .documentStart

/-- The only document of a stream, if there is one. A second one is refused where it
starts. -/
def document (fuel : Nat) : Step (Option NodeId) := do
  let t ← peek
  if t = .streamEnd then return none
  let root ←
    if isDirective t || t = .documentStart then do
      start fuel
      content fuel
    else do
      modify fun r => { r with handles := standardHandles }
      node .block fuel
  skipDocumentEnds fuel
  unless ← sees [.streamEnd] do
    start fuel
    refuse
  return some root

end Reader

/-- The graph of a text that holds one document, and its root; no root for an empty
stream. -/
def Graph.ofText (text : String) : Except Fault (Option NodeId × Graph) := do
  let ⟨tokens, fault⟩ := TokenRun.ofText text
  let (root, reader) ← (Reader.document (4 * tokens.length + 8)).run { tokens, fault }
  return (root, reader.graph)

end TileComposite.Yaml
