import TileComposite.CommandLine.Misuse

/-! Flags of the command line. A switch is given or not; a parameter is given with
a value. A flag has one long spelling, and most have a spelling of one letter. -/
namespace TileComposite.CommandLine

inductive Switch where
  | help | json | verbose
  deriving DecidableEq

inductive Parameter where
  | file | job | jobs | first | last | level | function | output
  deriving DecidableEq

inductive Flag where
  | switch (s : Switch)
  | parameter (p : Parameter)
  deriving DecidableEq

namespace Flag

/-- In the order in which an ambiguity lists them. -/
def all : List Flag := [
  .switch .help, .parameter .file, .parameter .job, .parameter .jobs, .parameter .first,
  .parameter .last, .parameter .level, .parameter .function, .parameter .output,
  .switch .json, .switch .verbose]

def spellings : Flag → List String
  | .switch .help => ["-h", "--help"]
  | .parameter .file => ["-c", "--config"]
  | .parameter .job => ["-j", "--job_id"]
  | .parameter .jobs => ["-n", "--num_jobs"]
  | .parameter .first => ["--start_t"]
  | .parameter .last => ["--end_t"]
  | .parameter .level => ["-l", "--level"]
  | .parameter .function => ["-f", "--function"]
  | .parameter .output => ["-t", "--transaction-id"]
  | .switch .json => ["--json"]
  | .switch .verbose => ["-v", "--verbose"]

/-- The name that messages give to a flag. -/
def name (f : Flag) : String := "/".intercalate f.spellings

/-- Every spelling, with its flag. -/
def spelled : List (String × Flag) :=
  all.flatMap fun f => f.spellings.map (·, f)

def ofSpelling? (s : String) : Option Flag := spelled.lookup s

/-- The spellings that begin with a text. -/
def completions (stem : String) : List (String × Flag) :=
  spelled.filter fun e => stem.toList.isPrefixOf e.1.toList

end Flag
end TileComposite.CommandLine
