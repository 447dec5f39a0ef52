import TileComposite.Yaml.Tag

/-! The graph of a document: its nodes by number. An alias is the number of the node
that it names, so a node may stand in several places, and inside itself. -/
namespace TileComposite.Yaml

abbrev NodeId := Nat

/-- What a node holds. -/
inductive Content where
  | scalar (text : String)
  | sequence (items : List NodeId)
  | mapping (entries : List (NodeId × NodeId))
  deriving DecidableEq

/-- A tag, given or found by the form, and the content under it. -/
structure Node where
  tag : Tag
  content : Content
  deriving DecidableEq

/-- The node that stands where one is missing. -/
def Node.missing : Node := ⟨.null, .scalar ""⟩

structure Graph where
  nodes : Array Node := #[]

namespace Graph

def node (g : Graph) (id : NodeId) : Node := g.nodes.getD id .missing

def tag (g : Graph) (id : NodeId) : Tag := (g.node id).tag

def content (g : Graph) (id : NodeId) : Content := (g.node id).content

/-- The entries of a mapping; other nodes have none. -/
def entries (g : Graph) (id : NodeId) : List (NodeId × NodeId) :=
  match g.content id with
  | .mapping entries => entries
  | _ => []

def setContent (g : Graph) (id : NodeId) (content : Content) : Graph :=
  ⟨g.nodes.modify id ({ · with content })⟩

def setTag (g : Graph) (id : NodeId) (tag : Tag) : Graph :=
  ⟨g.nodes.modify id ({ · with tag })⟩

end Graph
end TileComposite.Yaml
