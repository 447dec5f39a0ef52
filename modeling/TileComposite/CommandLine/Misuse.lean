import TileComposite.Text.Quoted

/-! Command lines that cannot be parsed. An option is named by its spellings, a
positional argument by its name. -/
namespace TileComposite.CommandLine

inductive Misuse where
  | missingValue (argument : String)
  | notInt (argument text : String)
  | unexpectedValue (argument text : String)
  | ambiguous (text : String) (matching : List String)
  | unrecognized (arguments : List String)
  deriving DecidableEq

def Misuse.message : Misuse → String
  | missingValue argument => "argument " ++ argument ++ ": expected one argument"
  | notInt argument text => "argument " ++ argument ++ ": invalid int value: " ++ Text.quoted text
  | unexpectedValue argument text =>
    "argument " ++ argument ++ ": ignored explicit argument " ++ Text.quoted text
  | ambiguous text matching =>
    "ambiguous option: " ++ text ++ " could match " ++ ", ".intercalate matching
  | unrecognized arguments => "unrecognized arguments: " ++ " ".intercalate arguments

end TileComposite.CommandLine
