import TileComposite.Plate.Protocol
import TileComposite.Progress

/-! Programs that work on a plate. A program is a tree of calls, each with the
continuation for every outcome, and of progress reports. It knows nothing of the
plate it runs on; running it on a plate threads the state through the calls and
keeps a record of all events in their order. -/
namespace TileComposite

inductive Program (α : Type) where
  | done (a : α)
  | fail (e : Failure)
  | call (c : Call) (next : Except Failure c.Reply → Program α)
  | report (p : Progress) (next : Program α)

namespace Program

def bind : Program α → (α → Program β) → Program β
  | done a, f => f a
  | fail e, _ => fail e
  | call c next, f => call c fun reply => (next reply).bind f
  | report p next, f => report p (next.bind f)

instance : Monad Program where
  pure := done
  bind := bind

/-- The result of a computation that needs no plate. -/
def ofExcept : Except Failure α → Program α
  | .ok a => done a
  | .error e => fail e

/-- A call whose failure ends the program. -/
def require (c : Call) : Program c.Reply := call c ofExcept

end Program

/-- What happens while a program runs. -/
inductive Event where
  | called (c : Call)
  | reported (p : Progress)
  deriving DecidableEq

/-- A plate's state together with the events so far. -/
structure Session (σ : Type) where
  state : σ
  events : Array Event := #[]

namespace Session

/-- The progress reports of a session, in order. -/
def reports (s : Session σ) : List Progress :=
  s.events.toList.filterMap fun
    | .called _ => none
    | .reported p => some p

/-- The calls of a session, in order. -/
def calls (s : Session σ) : List Call :=
  s.events.toList.filterMap fun
    | .called c => some c
    | .reported _ => none

/-- The last report, or that nothing has begun. -/
def progress (s : Session σ) : Progress := s.reports.getLast?.getD .idle

end Session

/-- Runs a program on a plate, from a session to its result and the session
after it. -/
def Program.run (plate : Plate σ) : Program α → Session σ → Except Failure α × Session σ
  | done a, s => (.ok a, s)
  | fail e, s => (.error e, s)
  | call c next, s =>
    let (reply, state) := plate.respond c s.state
    (next reply).run plate ⟨state, s.events.push (.called c)⟩
  | report p next, s => next.run plate ⟨s.state, s.events.push (.reported p)⟩

end TileComposite
