import TileComposite.Proofs.Plate.Exchanges

/-! Runs event by event. A moment is the session right after a call or a report, so that what
holds while a program runs is said of all moments of its run. -/
namespace TileComposite
variable {α β σ : Type}

namespace Session

/-- The report that a session has just made. -/
def announced? (s : Session σ) : Option Progress :=
  match s.events.back? with
  | some (.reported p) => some p
  | _ => none

/-- The session after a call, with the state in which the plate is then. -/
def called (s : Session σ) (c : Call) (state : σ) : Session σ := ⟨state, s.events.push (.called c)⟩

/-- The session after a report. -/
def reported (s : Session σ) (p : Progress) : Session σ := ⟨s.state, s.events.push (.reported p)⟩

variable (s : Session σ) (c : Call) (state : σ) (p : Progress)

@[simp] theorem reports_called : (s.called c state).reports = s.reports := by
  simp [reports, called]

@[simp] theorem reports_reported : (s.reported p).reports = s.reports ++ [p] := by
  simp [reports, reported]

@[simp] theorem calls_reported : (s.reported p).calls = s.calls := by
  simp [calls, reported]

@[simp] theorem announced_called : (s.called c state).announced? = none := by
  simp [announced?, called]

@[simp] theorem announced_reported : (s.reported p).announced? = some p := by
  simp [announced?, reported]

variable {s} {p}

theorem progress_eq {earlier : List Progress} (last : s.reports = earlier ++ [p]) :
    s.progress = p := by
  rw [progress, last, List.getLast?_concat, Option.getD_some]

/-- A report is the progress at the moment at which it is made. -/
theorem progress_of_announced (announced : s.announced? = some p) : s.progress = p := by
  unfold announced? at announced
  split at announced
  · obtain ⟨earlier, events⟩ := Array.back?_eq_some_iff.mp ‹_›
    cases announced
    simp [progress, reports, events]
  · cases announced

end Session

namespace Program
variable {m : Program α} {f : α → Program β} {plate : Plate σ} {s t : Session σ}

/-- The sessions after each event of a run, in order. -/
def moments (plate : Plate σ) : Program α → Session σ → List (Session σ)
  | done _, _ => []
  | fail _, _ => []
  | call c next, s =>
    let (reply, state) := plate.respond c s.state
    s.called c state :: (next reply).moments plate (s.called c state)
  | report p next, s => s.reported p :: next.moments plate (s.reported p)

theorem run_report (plate : Plate σ) (p : Progress) (m : Program α) (s : Session σ) :
    (report p m).run plate s = m.run plate (s.reported p) := rfl

theorem exchanges_report (plate : Plate σ) (p : Progress) (m : Program α) (s : Session σ) :
    (report p m).exchanges plate s.state = m.exchanges plate (s.reported p).state := rfl

theorem moments_report (plate : Plate σ) (p : Progress) (m : Program α) (s : Session σ) :
    (report p m).moments plate s = s.reported p :: m.moments plate (s.reported p) := rfl

/-- The moments of a run end with the session that the run leaves. -/
theorem run_eq_getLastD (plate : Plate σ) (m : Program α) (s : Session σ) :
    (m.run plate s).2 = (m.moments plate s).getLastD s := by
  induction m generalizing s with
  | done | fail => rfl
  | call c next ih =>
    rw [moments, List.getLastD_cons]
    exact ih _ _
  | report p next ih =>
    rw [moments, List.getLastD_cons]
    exact ih _

/-- The reports of a run are those made at its moments. -/
theorem reports_run (plate : Plate σ) (m : Program α) (s : Session σ) : (m.run plate s).2.reports =
    s.reports ++ (m.moments plate s).filterMap Session.announced? := by
  induction m generalizing s with
  | done | fail => exact (List.append_nil _).symm
  | call c next ih =>
    rw [moments, List.filterMap_cons_none (s.announced_called c _), ← s.reports_called c]
    exact ih _ _
  | report p next ih =>
    rw [moments, List.filterMap_cons_some (s.announced_reported p), List.append_cons,
      ← s.reports_reported p]
    exact ih _

theorem moments_bind (plate : Plate σ) (m : Program α) (f : α → Program β) (s : Session σ) :
    (m.bind f).moments plate s = m.moments plate s ++
      match m.run plate s with
      | (.ok a, t) => (f a).moments plate t
      | (.error _, _) => [] := by
  induction m generalizing s with
  | done | fail => rfl
  | call c next ih => exact congrArg (_ :: ·) (ih _ _)
  | report p next ih => exact congrArg (_ :: ·) (ih _)

theorem moments_bind_ok {a : α} (passed : m.run plate s = (.ok a, t)) :
    (m.bind f).moments plate s = m.moments plate s ++ (f a).moments plate t := by
  rw [moments_bind, passed]

theorem moments_bind_error {e : Failure} (failed : m.run plate s = (.error e, t)) :
    (m.bind f).moments plate s = m.moments plate s := by
  rw [moments_bind, failed, List.append_nil]

/-! ### Programs without reports -/

/-- The program makes no reports. -/
def Quiet : Program α → Prop
  | done _ => True
  | fail _ => True
  | call _ next => ∀ reply, (next reply).Quiet
  | report _ _ => False

theorem Quiet.bind (first : m.Quiet) (second : ∀ a, (f a).Quiet) : (m.bind f).Quiet := by
  induction m with
  | done a => exact second a
  | fail e => trivial
  | call c next ih => exact fun reply => ih reply (first reply)
  | report p next ih => cases first

theorem quiet_ofExcept (r : Except Failure α) : (ofExcept r).Quiet := by
  cases r <;> trivial

theorem quiet_require (c : Call) : (require c).Quiet := quiet_ofExcept

theorem Quiet.of_mem_moments (quiet : m.Quiet) (moment : t ∈ m.moments plate s) :
    t.reports = s.reports ∧ t.announced? = none := by
  induction m generalizing s with
  | done | fail => cases moment
  | call c next ih =>
    rcases List.mem_cons.mp moment with rfl | later
    · exact ⟨s.reports_called c _, s.announced_called c _⟩
    · obtain ⟨reports, silent⟩ := ih _ (quiet _) later
      exact ⟨reports.trans (s.reports_called c _), silent⟩
  | report p next ih => cases quiet

theorem Quiet.reports_run (quiet : m.Quiet) (plate : Plate σ) (s : Session σ) :
    (m.run plate s).2.reports = s.reports := by
  have silent : (m.moments plate s).filterMap Session.announced? = [] :=
    List.filterMap_eq_nil_iff.mpr fun _ moment => (quiet.of_mem_moments moment).2
  rw [Program.reports_run, silent, List.append_nil]

end Program
end TileComposite
