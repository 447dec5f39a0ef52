import Mathlib.Logic.Function.Basic
import TileComposite.Proofs.Plate.Sessions

/-! Programs that share a plate in memory. They take turns in the order of a schedule, one call
in a turn. A program that is done, or has failed, lets its turns pass. -/
namespace TileComposite

/-- A call in its turn, and the tiles before and after it. -/
structure Turn (n : Nat) where
  job : Fin n
  call : Call
  accepted : Bool
  before : TileMap
  after : TileMap

namespace Turn

/-- The turn opened a write. -/
def opens (t : Turn n) : Bool := t.accepted && t.call.method = .writeRequest

/-- The turn completed a write. -/
def commits (t : Turn n) : Bool := t.accepted && t.call.method = .writeComplete

end Turn

/-- Programs on one plate, as far as each has got, and the turns they took, the latest first. -/
structure Crew (n : Nat) (α : Type) where
  plate : MemoryPlate
  programs : Fin n → Program α
  turns : List (Turn n) := []

namespace Crew
variable {n : Nat} {α : Type} (crew : Crew n α)

/-- The crew after a step of one program, which is `m` from then on. -/
def moved (j : Fin n) (m : Program α) (plate : MemoryPlate) (added : List (Turn n)) : Crew n α where
  plate
  programs := Function.update crew.programs j m
  turns := added ++ crew.turns

/-- The next step of one program: a call or a report. -/
def advance (j : Fin n) : Crew n α :=
  match crew.programs j with
  | .done _ | .fail _ => crew
  | .report _ next => crew.moved j next crew.plate []
  | .call c next =>
    let (reply, plate) := memoryPlate.respond c crew.plate
    crew.moved j (next reply) plate [⟨j, c, reply.isOk, crew.plate.tiles, plate.tiles⟩]

/-- The crew after the steps of a schedule. -/
def run (schedule : List (Fin n)) : Crew n α := schedule.foldl advance crew

/-- The program whose request for a write was the last to be accepted. -/
def requester : Option (Fin n) := (crew.turns.find? Turn.opens).map Turn.job

/-- The turns since then. -/
def sinceRequest : List (Turn n) := crew.turns.takeWhile fun t => !t.opens

/-- What the program has staged in a write that it opened. -/
def batch (j : Fin n) : Option (List (TileId × Buffer)) :=
  if crew.requester = some j then crew.plate.staged else none

/-- The program completed a write that left the tile at its place. -/
def Committed (j : Fin n) (id : TileId) (b : Buffer) : Prop :=
  ∃ t ∈ crew.turns, t.job = j ∧ t.commits = true ∧ t.after[id]? = some b

/-- The program asked for a write while one was open. -/
def LostRace (j : Fin n) : Prop :=
  ∃ t ∈ crew.turns, t.job = j ∧ t.call = .writeRequest ∧ t.accepted = false

variable {crew} {i j : Fin n} {m : Program α} {plate : MemoryPlate} {added : List (Turn n)}

@[simp] theorem moved_plate : (crew.moved j m plate added).plate = plate := rfl

@[simp] theorem moved_turns : (crew.moved j m plate added).turns = added ++ crew.turns := rfl

@[simp] theorem moved_self : (crew.moved j m plate added).programs j = m :=
  Function.update_self ..

theorem moved_other (other : i ≠ j) :
    (crew.moved j m plate added).programs i = crew.programs i :=
  Function.update_of_ne other ..

theorem advance_done {x : α} (done : crew.programs j = .done x) : crew.advance j = crew := by
  simp only [advance, done]

theorem advance_fail {e : Failure} (failed : crew.programs j = .fail e) :
    crew.advance j = crew := by
  simp only [advance, failed]

theorem advance_report {r : Progress} {next : Program α}
    (reports : crew.programs j = .report r next) :
    crew.advance j = crew.moved j next crew.plate [] := by
  simp only [advance, reports]

theorem advance_call {c : Call} {next : Except Failure c.Reply → Program α}
    {reply : Except Failure c.Reply} (calls : crew.programs j = .call c next)
    (responded : crew.plate.respond c = (reply, plate)) :
    crew.advance j = crew.moved j (next reply) plate
      [⟨j, c, reply.isOk, crew.plate.tiles, plate.tiles⟩] := by
  have responded' : memoryPlate.respond c crew.plate = (reply, plate) := responded
  simp only [advance, calls, responded']

/-! ### The open write -/

theorem requester_moved (quiet : ∀ t ∈ added, t.opens = false) :
    (crew.moved j m plate added).requester = crew.requester := by
  have nothing : added.find? Turn.opens = none :=
    List.find?_eq_none.mpr fun t member opens => by rw [quiet t member] at opens; cases opens
  rw [requester, moved_turns, List.find?_append, nothing]
  rfl

theorem sinceRequest_moved (quiet : ∀ t ∈ added, t.opens = false) :
    (crew.moved j m plate added).sinceRequest = added ++ crew.sinceRequest := by
  refine List.takeWhile_append_of_pos fun t member => ?_
  rw [quiet t member]
  rfl

theorem batch_moved (quiet : ∀ t ∈ added, t.opens = false)
    (staged : plate.staged = crew.plate.staged) (i : Fin n) :
    (crew.moved j m plate added).batch i = crew.batch i := by
  rw [batch, batch, requester_moved quiet, moved_plate, staged]

theorem batch_of_ne (held : crew.requester = some j) (other : i ≠ j) : crew.batch i = none := by
  refine if_neg fun mine => other ?_
  rw [held] at mine
  exact (Option.some.inj mine).symm

theorem batch_self (held : crew.requester = some j) : crew.batch j = crew.plate.staged :=
  if_pos held

theorem batch_of_closed (closed : crew.plate.staged = none) (i : Fin n) : crew.batch i = none := by
  rw [batch, closed, ite_self]

/-- Who has staged something holds the open write. -/
theorem held_of_batch {updates : List (TileId × Buffer)} (staged : crew.batch j = some updates) :
    crew.requester = some j ∧ crew.plate.staged = some updates := by
  unfold batch at staged
  split at staged
  · exact ⟨‹_›, staged⟩
  · cases staged

theorem Committed.moved {id : TileId} {b : Buffer} (committed : crew.Committed i id b) :
    (crew.moved j m plate added).Committed i id b := by
  obtain ⟨t, turn, whose⟩ := committed
  exact ⟨t, List.mem_append_right _ turn, whose⟩

/-! ### Runs -/

/-- A program that always has its turn runs as it does alone. -/
theorem run_alone (crew : Crew n α) (j : Fin n) {s : Session MemoryPlate}
    (shared : s.state = crew.plate) :
    ∃ k, (crew.run (.replicate k j)).programs j =
        .ofExcept ((crew.programs j).run memoryPlate s).1 ∧
      (crew.run (.replicate k j)).plate = ((crew.programs j).run memoryPlate s).2.state := by
  generalize program : crew.programs j = m
  -- Each turn takes the reply that the same call has alone, and leaves the same plate.
  induction m generalizing crew s with
  | done x => exact ⟨0, program, shared.symm⟩
  | fail e => exact ⟨0, program, shared.symm⟩
  | call c next ih =>
    rcases responded : crew.plate.respond c with ⟨reply, plate⟩
    have step := advance_call program responded
    obtain ⟨k, same⟩ := ih reply (crew.advance j) (s := ⟨plate, s.events.push (.called c)⟩)
      (by rw [step, moved_plate]) (by rw [step, moved_self])
    have responded' : memoryPlate.respond c s.state = (reply, plate) := shared ▸ responded
    refine ⟨k + 1, ?_⟩
    rw [Program.run, responded']
    exact same
  | report r next ih =>
    have step := advance_report program
    obtain ⟨k, same⟩ := ih (crew.advance j) (s := ⟨s.state, s.events.push (.reported r)⟩)
      (by rw [step, moved_plate, shared]) (by rw [step, moved_self])
    exact ⟨k + 1, same⟩

/-- Nothing happens once every program has failed. -/
theorem run_failed (failed : ∀ j, ∃ e, crew.programs j = .fail e) (schedule : List (Fin n)) :
    crew.run schedule = crew := by
  induction schedule with
  | nil => rfl
  | cons j schedule ih =>
    obtain ⟨e, stopped⟩ := failed j
    rw [run, List.foldl_cons, advance_fail stopped]
    exact ih

/-- Only the turns that complete a write change tiles. -/
def Steady (crew : Crew n α) : Prop := ∀ t ∈ crew.turns, t.commits = false → t.after = t.before

theorem Steady.advance (steady : crew.Steady) (j : Fin n) : (crew.advance j).Steady := by
  cases next : crew.programs j with
  | done => rw [advance_done next]; exact steady
  | fail => rw [advance_fail next]; exact steady
  | report r m => rw [advance_report next]; exact steady
  | call c m =>
    rcases responded : crew.plate.respond c with ⟨reply, plate⟩
    rw [advance_call next responded]
    refine List.forall_mem_cons.mpr ⟨fun idle => ?_, steady⟩
    have changes := crew.plate.respond_tiles c
    rw [responded] at changes
    obtain same | ⟨accepted, completes⟩ := changes
    · exact same
    · rw [Turn.commits, accepted, completes] at idle
      cases idle

theorem Steady.run (steady : crew.Steady) (schedule : List (Fin n)) :
    (crew.run schedule).Steady := by
  induction schedule generalizing crew with
  | nil => exact steady
  | cons j schedule ih => exact ih (steady.advance j)

end Crew
end TileComposite
