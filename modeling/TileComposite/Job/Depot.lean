import TileComposite.Job.Run
import TileComposite.Plate.Registry

/-! Plates at hand: a registry that finds them, and the state of each. A job that
names its plate by a locator is checked first, then the plate is opened. -/
namespace TileComposite

structure Depot (η σ : Type) where
  registry : Registry η
  state : η → σ

/-- Runs the job of a configuration on the plate that its url names. The plate's
session comes with the result once the plate has been opened. -/
def Depot.runByUrl (d : Depot η σ) (plate : Plate σ) (c : Config) :
    Except Failure JobResult × Option (η × Session σ) :=
  match Job.ofConfig c with
  | .error e => (.error e, none)
  | .ok job =>
    match d.registry.openPlate c.url with
    | .error e => (.error e, none)
    | .ok h =>
      let (result, session) := job.runLogged plate (d.state h)
      (result, some (h, session))

end TileComposite
