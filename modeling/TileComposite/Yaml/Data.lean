import TileComposite.Value
import TileComposite.Yaml.Graph

/-! Plain data of a document, its collections by number: a collection may stand in
several places, and inside itself. Seen from any place it unfolds to a value, in
which a collection inside itself is cut off. -/
namespace TileComposite.Yaml

/-- A scalar and the node that it comes from. The undefined number by its own name
comes from no node. -/
structure Key where
  scalar : Scalar
  origin : Option NodeId
  deriving DecidableEq

/-- Undefined numbers are the same key only if they come from the same place. -/
def Key.same (a b : Key) : Bool :=
  a.scalar.sameKey b.scalar
    || (a.scalar == .float .nan && b.scalar == .float .nan && a.origin == b.origin)

abbrev CollectionId := Nat

inductive Datum where
  | scalar (key : Key)
  | collection (id : CollectionId)
  deriving DecidableEq

inductive Collection where
  | list (items : List Datum)
  | mapping (entries : List (Key × Datum))
  | set (items : List Key)
  | pairs (items : List (Datum × Datum))
  deriving DecidableEq

/-- Sets the datum under a key. A new key comes last, a known one keeps its place and
its first spelling. -/
def assignKey (entries : List (Key × Datum)) (key : Key) (d : Datum) : List (Key × Datum) :=
  if entries.any fun e => e.1.same key then
    entries.map fun e => if e.1.same key then (e.1, d) else e
  else entries ++ [(key, d)]

structure Data where
  collections : Array Collection := #[]
  root : Datum
  deriving DecidableEq

namespace Data
variable (data : Data)

def collection (id : CollectionId) : Collection := data.collections.getD id (.list [])

/-- The value of a datum inside some open collections. -/
def unfold : Nat → List CollectionId → Datum → Value
  | _, _, .scalar key => .scalar key.scalar
  | 0, _, .collection _ => .cycle false
  | fuel + 1, inside, .collection id =>
    let value := unfold fuel (id :: inside)
    match inside.contains id, data.collection id with
    | true, .mapping _ => .cycle true
    | true, _ => .cycle false
    | false, .list items => .list (items.map value)
    | false, .mapping entries => .mapping (entries.map fun (k, d) => (k.scalar, value d))
    | false, .set items => .set (items.map (·.scalar))
    | false, .pairs items => .pairs (items.map fun (a, b) => (value a, value b))

/-- The value of a datum. There are no more open collections than collections. -/
def value (d : Datum) : Value := data.unfold (data.collections.size + 1) [] d

/-- The entries of a mapping. -/
def entries? : Datum → Option (List (Key × Datum))
  | .collection id =>
    match data.collection id with
    | .mapping entries => some entries
    | _ => none
  | .scalar _ => none

/-- Data that count as nothing: void scalars and empty collections. -/
def isVoid : Datum → Bool
  | .scalar key => (Value.scalar key.scalar).isVoid
  | .collection id =>
    match data.collection id with
    | .list items => items.isEmpty
    | .mapping entries => entries.isEmpty
    | .set items => items.isEmpty
    | .pairs items => items.isEmpty

end Data
end TileComposite.Yaml
