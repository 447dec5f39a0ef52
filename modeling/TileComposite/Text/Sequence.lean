/-! Written sequences: items between brackets, separated by a comma and a space.
A tuple of one item keeps a comma, so that it differs from a parenthesis. -/
namespace TileComposite.Text

def listed (items : List String) : String :=
  "[" ++ ", ".intercalate items ++ "]"

def tupled : List String → String
  | [item] => "(" ++ item ++ ",)"
  | items => "(" ++ ", ".intercalate items ++ ")"

end TileComposite.Text
