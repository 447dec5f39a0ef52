import TileComposite.Aggregate
import TileComposite.Grid.Partition
import TileComposite.Job.Config

/-! Running one job on a plate. A job is refused before its first call when its
configuration is not complete, its function is unknown, its level is not in the
plate or the plate's pixels are not supported. A job that is logged also fails when
an integer in the log is too long to be written. -/
namespace TileComposite

/-- A job that could run on some plate: a complete configuration and its reducer. -/
structure Job where
  config : Config
  last : Int
  reducer : Reducer

/-- A job fitted to a plate: what to aggregate, and which units. -/
structure JobPlan where
  slot : Slot
  aggregation : Aggregation
  units : List WorkUnit
  total : Int

/-- The integers in the log lines before the first unit. What a job counts one by one is
left out: no such count gets too long. -/
def JobPlan.logged (plan : JobPlan) : List Int :=
  [plan.aggregation.level, plan.total, plan.slot.job, plan.slot.count]

structure JobResult where
  plan : JobPlan
  summary : Summary
  progress : Progress

namespace Config

/-- The job's slot among the cooperating jobs. -/
def slot (c : Config) : Slot := ⟨c.job, c.jobs, c.job_nonneg, c.job_lt⟩

def blockSize (c : Config) : BlockSize := ⟨c.block, c.block_pos⟩

end Config

namespace Job

def ofConfig (c : Config) : Except Failure Job := do
  let last ← c.requireComplete
  let reducer ← Reducer.ofName (.scalar (.text c.function))
  return ⟨c, last, reducer⟩

/-- The level must be one of the plate's. -/
def checkLevel (job : Job) (levels : Int) : Except Failure Unit :=
  let c := job.config
  if 0 ≤ c.level ∧ c.level < levels then .ok ()
  else .error (.levelNotInPlate c.level c.url levels)

/-- Fits a job to a plate of the given levels and declarations. -/
def plan (job : Job) (levels : Int) (format : Declared PixelFormat)
    (channel : Declared ChannelType) : Except Failure JobPlan := do
  let c := job.config
  job.checkLevel levels
  let pixel ← PixelType.resolve format channel
  let size ← levelSize c.level
  let units ← c.blockSize.unitsForSlot c.level c.slot
  return {
    slot := c.slot
    aggregation := ⟨pixel, job.reducer, c.level, c.first, job.last, c.output⟩
    units
    total := c.blockSize.unitCount size }

/-- Runs a job on a plate, from a state to the result and the session. -/
def run (plate : Plate σ) (job : Job) (state : σ) : Except Failure JobResult × Session σ :=
  match job.plan (plate.levels state) (plate.format state) (plate.channel state) with
  | .error e => (.error e, { state })
  | .ok plan =>
    let (summary, session) := (plan.aggregation.process plan.units).run plate { state }
    (summary.map fun summary => ⟨plan, summary, session.progress⟩, session)

/-- Runs a job and logs it: a line before the first unit for the job, and one for each unit. -/
def runLogged (plate : Plate σ) (job : Job) (state : σ) : Except Failure JobResult × Session σ :=
  match job.plan (plate.levels state) (plate.format state) (plate.channel state) with
  | .error e => (.error e, { state })
  | .ok plan =>
    if ∀ n ∈ plan.logged, Text.Writable n then
      let (summary, session) :=
        (plan.aggregation.processLogged plan.units).run plate { state }
      (summary.map fun summary => ⟨plan, summary, session.progress⟩, session)
    else (.error .unlogged, { state })

end Job

/-- Runs the job of a configuration on a plate, apart from its log. -/
def runJob (plate : Plate σ) (c : Config) (state : σ) : Except Failure JobResult × Session σ :=
  match Job.ofConfig c with
  | .error e => (.error e, { state })
  | .ok job => job.run plate state

/-- Runs the job of a configuration on a plate. -/
def runJobLogged (plate : Plate σ) (c : Config) (state : σ) :
    Except Failure JobResult × Session σ :=
  match Job.ofConfig c with
  | .error e => (.error e, { state })
  | .ok job => job.runLogged plate state

end TileComposite
