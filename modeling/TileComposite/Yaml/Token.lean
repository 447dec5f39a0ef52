/-! Tokens of a document: its structure, the properties of nodes, and scalars. -/
namespace TileComposite.Yaml

/-- A tag as written: a handle and a suffix, or a suffix alone. -/
structure TagText where
  handle : Option String
  suffix : String
  deriving DecidableEq

inductive Token where
  | version (major : Nat)
  | tagHandle (handle target : String)
  | directive
  | documentStart
  | documentEnd
  | streamEnd
  | blockSequenceStart
  | blockMappingStart
  | blockEnd
  | flowSequenceStart
  | flowSequenceEnd
  | flowMappingStart
  | flowMappingEnd
  | key
  | value
  | blockEntry
  | flowEntry
  | reference (name : String)
  | anchor (name : String)
  | tag (text : TagText)
  | scalar (text : String) (isPlain : Bool)
  deriving DecidableEq

end TileComposite.Yaml
