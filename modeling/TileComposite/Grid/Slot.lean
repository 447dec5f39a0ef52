import TileComposite.Failure

/-! One job's slot among cooperating jobs. Position `i` of a list of units goes
to job `i mod count`, so that jobs share the work without talking to each other. -/
namespace TileComposite

structure Slot where
  job : Int
  count : Int
  job_nonneg : 0 ≤ job := by omega
  job_lt : job < count := by omega
  deriving DecidableEq

namespace Slot

/-- The slot of a job index among a number of jobs. -/
def ofJob (job count : Int) : Except Failure Slot :=
  if count < 1 then .error (.tooFewJobs count)
  else if h : 0 ≤ job ∧ job < count then .ok ⟨job, count, h.1, h.2⟩
  else .error (.jobOutside job count)

def owns (s : Slot) (index : Int) : Bool := index % s.count = s.job

/-- The job's share of a list, in the order of the list. -/
def select (s : Slot) (units : List α) : List α :=
  (units.zipIdx.filter fun (_, i) => s.owns i).map (·.1)

/-- The label of a slot, for a number of jobs that is short enough to be written. -/
def text (s : Slot) : String := s!"{s.job}/{s.count}"

end Slot
end TileComposite
