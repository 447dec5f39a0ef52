import TileComposite.Plate.Memory

/-! Planned faults. A plan says for each method whether its calls fail or what
they return instead, at every call or at one numbered call; other calls reach
the plate. A failing call may reach the plate first. -/
namespace TileComposite

inductive FaultEffect where
  /-- The search returns nothing, or these transactions at the searched cell. -/
  | returns (transactions : Option (List Int))
  /-- The call fails, after reaching the plate or instead of it. -/
  | fails (cause : Failure) (afterwards : Bool)

/-- The planned fault of a method, and how many calls it has seen. -/
structure Fault where
  effect : FaultEffect
  only : Option Int
  seen : Nat := 0

/-- A plate with planned faults. -/
structure FaultyPlate where
  plate : MemoryPlate
  faults : List (Method × Fault) := []

namespace FaultyPlate

/-- Plans a fault for a method, or none. -/
def plan (p : FaultyPlate) (m : Method) (fault : Option Fault) : FaultyPlate :=
  let others := p.faults.filter (·.1 ≠ m)
  { p with faults := match fault with
    | some f => (m, f) :: others
    | none => others }

/-- The effect that a method's fault has on the next call. -/
def nextEffect? (p : FaultyPlate) (m : Method) : Option FaultEffect :=
  match p.faults.lookup m with
  | some f => if f.only.all fun n => n = (f.seen : Int) then some f.effect else none
  | none => none

/-- Counts a call of a method. -/
def count (p : FaultyPlate) (m : Method) : FaultyPlate :=
  { p with
    faults := p.faults.map fun (k, f) => (k, if k = m then { f with seen := f.seen + 1 } else f) }

/-- A call without its fault. -/
def pass (p : FaultyPlate) (c : Call) : Except Failure c.Reply × FaultyPlate :=
  let (reply, plate) := p.plate.respond c
  (reply, { p with plate := plate })

def respond (c : Call) (plate : FaultyPlate) : Except Failure c.Reply × FaultyPlate :=
  let p := plate.count c.method
  match plate.nextEffect? c.method, c with
  | none, c => p.pass c
  | some (.returns ts), .search level cell .. =>
    (.ok (ts.map fun l => l.map fun t => ⟨level, cell.col, cell.row, t⟩), p)
  | some (.returns _), c => p.pass c
  | some (.fails cause afterwards), c =>
    if afterwards then
      match p.pass c with
      | (.error e, q) => (.error e, q)
      | (.ok _, q) => (.error cause, q)
    else (.error cause, p)

end FaultyPlate

/-- A plate with planned faults as a plate. -/
def faultyPlate : Plate FaultyPlate where
  levels p := p.plate.levels
  format p := p.plate.format
  channel p := p.plate.channel
  respond := FaultyPlate.respond

end TileComposite
