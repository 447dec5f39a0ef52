import TileComposite.CommandLine.Command
import TileComposite.Plate.Memory

/-! The command as a program: it reads the configuration file, runs, prints and
exits. No plate in memory outlives a program, so none is registered. -/
namespace TileComposite.CommandLine

def fileFailure (path : String) : IO.Error → Failure
  | .noFileOrDirectory .. => .unreadableFile .missing path
  | .inappropriateType .. => .unreadableFile .directory path
  | e => .reported .system e.toString

/-- The configuration file of a command line, read from disk. -/
def readFiles (texts : List String) : IO Files := do
  match Arguments.parse texts with
  | .ok { file := some path, .. } =>
    let text ← try
        pure (.ok (← IO.FS.readFile path))
      catch e =>
        pure (.error (fileFailure path e))
    return fun asked => if asked = path then text else .error (.unreadableFile .missing asked)
  | _ => return fun asked => .error (.unreadableFile .missing asked)

/-- No plates at all. -/
def noPlates : Depot Empty MemoryPlate := ⟨{}, nofun⟩

/-- Runs the command and exits with its status. A failure that leaves none is told
in its own words, with status one. -/
def program (texts : List String) : IO UInt32 := do
  let files ← readFiles texts
  let start ← IO.monoMsNow
  let (ending, _) := run noPlates memoryPlate files texts
  let elapsed := Elapsed.ofMilliseconds ((← IO.monoMsNow) - start)
  IO.print (ending.output elapsed)
  IO.eprint ending.errors
  match ending.status? with
  | some status => return status.toUInt32
  | none =>
    if let .failed cause := ending then IO.eprintln cause.message
    return 1

end TileComposite.CommandLine

def main (texts : List String) : IO UInt32 := TileComposite.CommandLine.program texts
