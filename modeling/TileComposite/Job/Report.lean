import TileComposite.Job.Run
import TileComposite.Value.Json

/-! Reports of units, progress and job results: plain data for programs, and a
few lines for people. -/
namespace TileComposite
open Value

def textValue (s : String) : Value := .scalar (.text s)

def intValue (n : Int) : Value := .scalar (.int n)

/-- A mapping from texts. -/
def record (fields : List (String × Value)) : Value :=
  .mapping (fields.map fun (k, v) => (.text k, v))

def WorkUnit.toValue (u : WorkUnit) : Value := record [
  ("level", intValue u.level),
  ("bounds", record [
    ("col_min", intValue u.colMin), ("row_min", intValue u.rowMin),
    ("col_max", intValue u.colMax), ("row_max", intValue u.rowMax)]),
  ("width", intValue u.width), ("height", intValue u.height)]

def Slot.toValue (s : Slot) : Value :=
  record [("job_id", intValue s.job), ("num_jobs", intValue s.count)]

def PixelType.toValue (p : PixelType) : Value := record [
  ("pixel_format", textValue p.format.name), ("channel_type", textValue p.channel.name),
  ("num_channels", intValue p.channels)]

def Summary.toValue (s : Summary) : Value := record [
  ("work_units", intValue s.units), ("cells_visited", intValue s.visited),
  ("cells_reduced", intValue s.reduced), ("cells_skipped", intValue s.skipped),
  ("tiles_read", intValue s.tiles)]

def Progress.toValue (p : Progress) : Value := record [
  ("total_units", intValue p.total), ("completed_units", intValue p.completed),
  ("current_unit", (p.unit.map textValue).getD (.scalar .null)),
  ("status", textValue p.status.text), ("progress_percent", .scalar (.float p.percent))]

/-- Time that a job took, in milliseconds, as lines and as data show it. -/
structure Elapsed where
  shown : String
  value : Value

def Elapsed.ofMilliseconds (n : Nat) : Elapsed :=
  ⟨toString n ++ ".0", .scalar (.float (.ofInt n))⟩

namespace JobResult

def toValue (r : JobResult) (elapsed : Elapsed) : Value := record [
  ("job", r.plan.slot.toValue), ("level", intValue r.plan.aggregation.level),
  ("pixel_type", r.plan.aggregation.pixel.toValue),
  ("function", textValue r.plan.aggregation.reducer.displayName),
  ("work_units", .list (r.plan.units.map WorkUnit.toValue)),
  ("total_work_units", intValue r.plan.total), ("summary", r.summary.toValue),
  ("total_time_ms", elapsed.value), ("progress", r.progress.toValue)]

/-- The result in five lines. -/
def lines (r : JobResult) (elapsed : Elapsed) : String :=
  "Job " ++ r.plan.slot.text ++ s!": {r.summary.units} work units\n"
    ++ s!"  Cells reduced: {r.summary.reduced}\n"
    ++ s!"  Cells skipped: {r.summary.skipped}\n"
    ++ s!"  Tiles read: {r.summary.tiles}\n"
    ++ "  Time: " ++ elapsed.shown ++ "ms\n"

end JobResult
end TileComposite
