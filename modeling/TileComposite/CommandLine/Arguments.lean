import TileComposite.CommandLine.Word
import TileComposite.Job.File
import TileComposite.Text.Integer

/-! Arguments: what the words of a command line ask for. Words are taken from left
to right, so that of two flags the later one stands and the first misuse is the
one that is reported. One plain word is the url of the plate; words that nothing
takes are reported at the end. -/
namespace TileComposite.CommandLine

/-- Settings that replace those of the configuration. -/
structure Overrides where
  url : Option String := none
  level : Option Int := none
  first : Option Int := none
  last : Option Int := none
  function : Option String := none
  output : Option Int := none
  job : Option Int := none
  jobs : Option Int := none
  deriving DecidableEq

/-- The settings with every given override in place. -/
def Overrides.apply (o : Overrides) (s : Settings) : Settings := {
  s with
  url := o.url.getD s.url
  level := o.level.getD s.level
  first := o.first.getD s.first
  last := o.last.or s.last
  function := o.function.getD s.function
  output := o.output.getD s.output
  job := o.job.getD s.job
  jobs := o.jobs.getD s.jobs }

/-- Overrides, the parameters that have lost their value, the configuration file, and
whether the report is for programs. -/
structure Arguments where
  overrides : Overrides := {}
  voided : List Parameter := []
  file : Option String := none
  json : Bool := false
  deriving DecidableEq

/-- Why the words give no arguments: they ask for help, or they are misused. -/
inductive Stop where
  | help
  | misuse (cause : Misuse)
  deriving DecidableEq

/-! ### Flags of one word -/

/-- How a word of flags ends. -/
inductive WordEnd where
  | complete
  /-- A parameter takes its value from the word. -/
  | valued (p : Parameter) (value : String)
  /-- A parameter needs the next word. -/
  | awaiting (p : Parameter)
  deriving DecidableEq

/-- The switches of a word, and how the word ends. -/
structure Bundle where
  switches : List Switch := []
  final : WordEnd := .complete
  deriving DecidableEq

namespace Bundle

def cons (s : Switch) (b : Bundle) : Bundle := { b with switches := s :: b.switches }

def ofFlag : Flag → Bundle
  | .parameter p => { final := .awaiting p }
  | .switch s => { switches := [s] }

/-- A long flag with a value after an equals sign. A switch has no use for one. -/
def ofAssignment (f : Flag) (value : List Char) : Except Misuse Bundle :=
  match f with
  | .parameter p => .ok { final := .valued p (String.ofList value) }
  | .switch _ => .error (.unexpectedValue f.name (String.ofList value))

/-- A flag of one letter with the text attached to it. To a parameter that is the
value; after a switch it begins with the letter of a further flag. -/
def ofAttached (f : Flag) : List Char → Except Misuse Bundle
  | [] => ofAssignment f []
  | c :: rest =>
    match f, Flag.ofSpelling? (String.ofList ['-', c]) with
    | .switch s, some g => cons s <$> if rest = [] then .ok (ofFlag g) else ofAttached g rest
    | _, _ => ofAssignment f (c :: rest)

end Bundle

/-! ### Taking words -/

namespace Arguments

def giveUrl (a : Arguments) (url : String) : Arguments :=
  { a with overrides.url := some url }

/-- Turns a switch on. A verbose run shows no more than another: it keeps no log. -/
def turnOn (a : Arguments) : Switch → Except Stop Arguments
  | .help => .error .help
  | .json => .ok { a with json := true }
  | .verbose => .ok a

def turnOnAll (a : Arguments) (switches : List Switch) : Except Stop Arguments :=
  switches.foldlM turnOn a

/-- The integer that a parameter is given. -/
def intValue (p : Parameter) (value : String) : Except Stop Int :=
  match Text.readInt 10 value.toList with
  | .ok n => .ok n
  | .error _ => .error (.misuse (.notInt (Flag.parameter p).name value))

/-- Takes a parameter's value away. -/
def void (a : Arguments) : Parameter → Arguments
  | .file => { a with file := none }
  | p => { a with voided := p :: a.voided }

/-- Sets a parameter to the value that a text stands for. -/
def set (a : Arguments) (p : Parameter) (value : String) : Except Stop Arguments :=
  match p with
  | .file => .ok { a with file := some value }
  | .function => .ok { a with overrides.function := some value }
  | .job => return { a with overrides.job := some (← intValue p value) }
  | .jobs => return { a with overrides.jobs := some (← intValue p value) }
  | .first => return { a with overrides.first := some (← intValue p value) }
  | .last => return { a with overrides.last := some (← intValue p value) }
  | .level => return { a with overrides.level := some (← intValue p value) }
  | .output => return { a with overrides.output := some (← intValue p value) }

/-- Gives a parameter its value, in place of an earlier one. The separator is no value. -/
def give (a : Arguments) (p : Parameter) (value : String) : Except Stop Arguments :=
  if value = "--" then .ok (a.void p)
  else { a with voided := a.voided.filter (· ≠ p) }.set p value

end Arguments

/-- What the next word is for, if it is the right one. -/
inductive Expected where
  | nothing
  /-- The value of a parameter, which follows switches of its word. -/
  | value (switches : List Switch) (p : Parameter)
  /-- The separator beside the url. -/
  | separator
  deriving DecidableEq

/-- The arguments so far, the words that nothing took, latest first, and what the
next word is for. -/
structure Reading where
  arguments : Arguments := {}
  leftover : List String := []
  expected : Expected := .nothing
  deriving DecidableEq

namespace Reading

def leave (r : Reading) (text : String) : Reading :=
  { r with leftover := text :: r.leftover, expected := .nothing }

/-- Takes the flags of one word. They act only once the word is complete. -/
def bundle (r : Reading) (b : Bundle) : Except Stop Reading :=
  match b.final with
  | .complete =>
    return { r with arguments := ← r.arguments.turnOnAll b.switches, expected := .nothing }
  | .valued p value => do
    let a ← r.arguments.turnOnAll b.switches
    return { r with arguments := ← a.give p value, expected := .nothing }
  | .awaiting p => .ok { r with expected := .value b.switches p }

/-- Takes a word that no parameter awaits. A plain word is the url, if there is none
yet, and one separator belongs to the url. -/
def free (r : Reading) : Word → Except Stop Reading
  | .plain text =>
    if r.arguments.overrides.url.isSome then .ok (r.leave text)
    else .ok { r with arguments := r.arguments.giveUrl text, expected := .separator }
  | .separator =>
    if r.expected = .separator ∨ r.arguments.overrides.url.isNone then
      .ok { r with expected := .nothing }
    else .ok (r.leave "--")
  | .unknown text => .ok (r.leave text)
  | .assignment f value => do r.bundle (← (Bundle.ofAssignment f value).mapError .misuse)
  | .flag f none => r.bundle (.ofFlag f)
  | .flag f (some attached) => do r.bundle (← (Bundle.ofAttached f attached).mapError .misuse)

/-- Takes a word. The value of a parameter must be plain. -/
def word (r : Reading) (w : Word) : Except Stop Reading :=
  match r.expected, w with
  | .value switches p, .plain value => r.bundle ⟨switches, .valued p value⟩
  | .value _ p, _ => .error (.misuse (.missingValue (Flag.parameter p).name))
  | _, w => r.free w

/-- The arguments, once all words are taken. -/
def finish (r : Reading) : Except Stop Arguments :=
  match r.expected, r.leftover with
  | .value _ p, _ => .error (.misuse (.missingValue (Flag.parameter p).name))
  | _, [] => .ok r.arguments
  | _, leftover => .error (.misuse (.unrecognized leftover.reverse))

end Reading

namespace Arguments

/-- The arguments of a command line. Abbreviations are resolved in all words first. -/
def parse (texts : List String) : Except Stop Arguments := do
  let words ← (Word.readAll texts).mapError .misuse
  let r ← words.foldlM Reading.word {}
  r.finish

/-- Refuses a setting whose parameter has lost its value: it holds nothing, which is
an empty list. Integers are judged before the function. -/
def checkVoided (a : Arguments) : Except Failure Unit :=
  let nothing := (Value.list []).literal?
  [(Parameter.level, Failure.notInteger "level"), (.first, .notInteger "start_trans_id"),
    (.last, .notInteger "end_trans_id"), (.output, .notInteger "transaction_id"),
    (.job, .notInteger "job_id"), (.jobs, .notInteger "num_jobs"),
    (.function, .notText "function")].forM
  fun (p, failure) => if p ∈ a.voided then .error (failure nothing) else .ok ()

/-- The configuration that arguments ask for: that of the file, or the standard
one, with the overrides in place. An empty file name names no file. -/
def config (a : Arguments) (files : Files) : Except Failure Config := do
  let base ← match a.file with
    | none | some "" => .ok .standard
    | some path => Config.ofFile files path
  a.checkVoided
  let c ← (a.overrides.apply base.toSettings).check
  let _ ← c.requireComplete
  return c

end Arguments
end TileComposite.CommandLine
