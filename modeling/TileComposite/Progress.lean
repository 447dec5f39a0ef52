import TileComposite.Failure
import TileComposite.Number.Arithmetic

/-! Progress of a job, counted in whole work units. -/
namespace TileComposite

inductive Status where
  | pending
  | processing
  | complete
  | custom (text : String)
  deriving DecidableEq

def Status.text : Status → String
  | pending => "pending"
  | processing => "processing"
  | complete => "complete"
  | custom text => text

structure Progress where
  total : Int
  completed : Int
  unit : Option String
  status : Status
  deriving DecidableEq

namespace Progress

/-- Nothing to do and nothing done. -/
def idle : Progress := ⟨0, 0, none, .pending⟩

/-- The exact share of completed units, rounded once. -/
def share (p : Progress) : Number :=
  if p.completed = 0 then .zero (p.total < 0) else binary64.round (p.completed / p.total)

/-- The share in percent; a job without units is done. -/
def percent (p : Progress) : Number :=
  if p.total = 0 then 100 else binary64.mul p.share 100

/-- A progress can be shown if its share is in the range of the format. -/
def check (p : Progress) : Except Failure Progress :=
  if p.total ≠ 0 ∧ p.share.toRat?.isNone then .error .shareTooLarge else .ok p

end Progress
end TileComposite
