import TileComposite.Yaml.Data
import TileComposite.Yaml.Merge
import TileComposite.Yaml.Reader
import TileComposite.Yaml.Scalar

/-! The plain data of a document. Every node is built once, by its tag: a scalar at
once, a collection empty at first. Collections are filled in the order in which
they were begun, level by level from the root, so of several faults the one nearest
to the root is met first. Merge keys are resolved as their mapping is filled. -/
namespace TileComposite.Yaml

/-- The graph, the number of its merge keys at first, the datum of every node built
so far, and the collections, of which the last ones begun are still to be filled. -/
structure Builder where
  graph : Graph
  merges : Nat
  built : Array (Option Datum)
  collections : Array Collection := #[]
  begun : Array (NodeId × CollectionId) := #[]

namespace Builder

abbrev Build (α : Type) := StateT Builder (Except Fault) α

def malformed : Build α := throw .malformed

/-- The text of a node that must be a scalar; a mapping may hold it under a lone
equals sign. -/
def textOf (g : Graph) : Nat → NodeId → Except Fault String
  | 0, _ => .error (.scalar .endlessText)
  | fuel + 1, id =>
    match g.content id with
    | .scalar text => .ok text
    | .mapping entries =>
      match entries.find? fun e => g.tag e.1 = .value with
      | some (_, inner) => textOf g fuel inner
      | none => .error .malformed
    | .sequence _ => .error .malformed

/-- The scalar that a node is under a scalar tag. -/
def scalarOf (g : Graph) (id : NodeId) : Except Fault Key := do
  if !(g.tag id).isScalar then throw .malformed
  let text ← textOf g (g.nodes.size + 1) id
  let scalar ← match g.tag id, g.content id with
    | .timestamp, .mapping _ => throw (.scalar .wrappedTimestamp)
    | tag, _ => scalarValue tag text
  let named := scalar = .float .nan ∧ namesUndefined text.toList
  return ⟨scalar, if named then none else some id⟩

/-- The empty collection of a tag; none of a scalar's. -/
def emptyOf? : Tag → Option Collection
  | .sequence => some (.list [])
  | .mapping => some (.mapping [])
  | .set => some (.set [])
  | .omap | .pairs => some (.pairs [])
  | _ => none

def beginCollection (id : NodeId) (c : Collection) : Build Datum :=
  modifyGet fun b =>
    let place := b.collections.size
    (.collection place, { b with
      collections := b.collections.push c
      begun := b.begun.push (id, place) })

/-- The datum of a node. -/
def build (id : NodeId) : Build Datum := do
  let b ← get
  match b.built.getD id none with
  | some d => return d
  | none =>
    let d ← match emptyOf? (b.graph.tag id) with
      | some c => beginCollection id c
      | none => (.scalar ·) <$> scalarOf b.graph id
    modify fun b => { b with built := b.built.setIfInBounds id (some d) }
    return d

/-- A key; collections are no keys. -/
def key (id : NodeId) : Build Key := do
  match ← build id with
  | .scalar key => return key
  | .collection _ => malformed

/-- The entries of a mapping after its merge keys are resolved. -/
def entries (id : NodeId) : Build (List (Key × Datum)) := do
  let b ← get
  let (entries, graph) ← (Graph.mergedEntries (Graph.merge (b.merges + 1)) id).run b.graph
  set { b with graph }
  entries.foldlM (fun done (k, v) => return assignKey done (← key k) (← build v)) []

def items (id : NodeId) : Build (List NodeId) := do
  match (← get).graph.content id with
  | .sequence items => return items
  | _ => malformed

/-- An item that must be a mapping of one entry. -/
def pair (id : NodeId) : Build (Datum × Datum) := do
  match (← get).graph.content id with
  | .mapping [(k, v)] => return (← build k, ← build v)
  | _ => malformed

/-- The filled collection of a node. -/
def fill (id : NodeId) : Build Collection := do
  match (← get).graph.tag id with
  | .mapping => return .mapping (← entries id)
  | .set => return .set ((← entries id).map (·.1))
  | .omap | .pairs => return .pairs (← (← items id).mapM pair)
  | _ => return .list (← (← items id).mapM build)

/-- Fills the collections begun so far, then those begun meanwhile; every round takes
a level of the graph. -/
def fillAll : Nat → Build Unit
  | 0 => return
  | fuel + 1 => do
    let begun := (← get).begun
    if begun.isEmpty then return
    modify fun b => { b with begun := #[] }
    for (id, place) in begun do
      let c ← fill id
      modify fun b => { b with collections := b.collections.setIfInBounds place c }
    fillAll fuel

end Builder

/-- The data of a graph as seen from a root. -/
def Graph.data (g : Graph) (root : NodeId) : Except Fault Data := do
  let size := g.nodes.size
  let build : Builder.Build Datum := do
    let root ← Builder.build root
    Builder.fillAll (size + 1)
    return root
  let (root, b) ← build.run ⟨g, g.mergeCount, .replicate size none, #[], #[]⟩
  return ⟨b.collections, root⟩

/-- The data of a text in the document format: of its only document, or null. -/
def read (text : String) : Except Fault Data := do
  match ← Graph.ofText text with
  | (none, _) => return ⟨#[], .scalar ⟨.null, none⟩⟩
  | (some root, g) => g.data root

end TileComposite.Yaml
