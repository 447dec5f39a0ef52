import TileComposite.Yaml.Graph

/-! Merge keys of a mapping. The value of a merge key is a mapping, or a list of
mappings, whose entries come to stand before the mapping's own. A node that stands
in several places is changed in all of them. -/
namespace TileComposite.Yaml.Graph

/-- The number of merge keys in a graph. Every step of a merge takes one away. -/
def mergeCount (g : Graph) : Nat :=
  (g.nodes.toList.map fun n =>
    match n.content with
    | .mapping entries => entries.countP fun e => g.tag e.1 = .merge
    | _ => 0).foldr (· + ·) 0

abbrev Merging (α : Type) := StateT Graph (Except Fault) α

/-- Takes the first merge key out of a mapping, and returns its value. -/
def takeMerge? (id : NodeId) : Merging (Option NodeId) := do
  let g ← get
  let entries := g.entries id
  let place := entries.findIdx fun e => g.tag e.1 = .merge
  match entries[place]? with
  | none => return none
  | some (_, value) =>
    set (g.setContent id (.mapping (entries.eraseIdx place)))
    return some value

/-- Makes a lone equals sign text where it is a key. -/
def plainKeys (id : NodeId) : Merging Unit :=
  modify fun g => (g.entries id).foldl (fun g e =>
    if g.tag e.1 = .value then g.setTag e.1 .text else g) g

/-- The entries of a mapping after a step that resolves its own merge keys. -/
def mergedEntries (resolve : NodeId → Merging Unit) (id : NodeId) :
    Merging (List (NodeId × NodeId)) := do
  match (← get).content id with
  | .mapping _ =>
    resolve id
    return (← get).entries id
  | _ => throw .malformed

/-- Resolves the merge keys of a mapping. Of a list the last mapping's entries come
first. Inside itself a mapping has the entries that no merge key brings in. -/
def merge : Nat → NodeId → Merging Unit
  | 0, _ => return
  | fuel + 1, id => do
    match ← takeMerge? id with
    | none => plainKeys id
    | some source =>
      let brought ← match (← get).content source with
        | .sequence items =>
          let groups ← items.mapM (mergedEntries (merge fuel))
          pure groups.reverse.flatten
        | _ => mergedEntries (merge fuel) source
      merge fuel id
      modify fun g => g.setContent id (.mapping (brought ++ g.entries id))

end TileComposite.Yaml.Graph
