import TileComposite.Plate.Program
import TileComposite.Proofs.Plate.Replies

/-! Runs of programs. A run of a sequence is the run of its parts, reports change
neither the result nor the plate, and on a plate in memory a program is described by
the tiles between which it takes a plate at rest. -/
namespace TileComposite

namespace Program
variable {α β γ σ : Type}

theorem bind_assoc (m : Program α) (f : α → Program β) (g : β → Program γ) :
    (m.bind f).bind g = m.bind fun a => (f a).bind g := by
  induction m with
  | done | fail => rfl
  | call c next ih => exact congrArg (call c) (funext ih)
  | report p next ih => exact congrArg (report p) ih

theorem bind_done (m : Program α) : m.bind done = m := by
  induction m with
  | done | fail => rfl
  | call c next ih => exact congrArg (call c) (funext ih)
  | report p next ih => exact congrArg (report p) ih

theorem run_bind (plate : Plate σ) (m : Program α) (f : α → Program β) (s : Session σ) :
    (m.bind f).run plate s =
      match m.run plate s with
      | (.ok a, t) => (f a).run plate t
      | (.error e, t) => (.error e, t) := by
  induction m generalizing s with
  | done | fail => rfl
  | call c next ih => exact ih _ _
  | report p next ih => exact ih _

theorem run_bind_ok {plate : Plate σ} {m : Program α} {s : Session σ} {a : α}
    (result : (m.run plate s).1 = .ok a) (f : α → Program β) :
    (m.bind f).run plate s = (f a).run plate (m.run plate s).2 := by
  rw [run_bind]
  generalize m.run plate s = run at result
  obtain ⟨_, t⟩ := run
  cases result
  rfl

theorem run_bind_error {plate : Plate σ} {m : Program α} {s : Session σ} {e : Failure}
    (result : (m.run plate s).1 = .error e) (f : α → Program β) :
    (m.bind f).run plate s = (.error e, (m.run plate s).2) := by
  rw [run_bind]
  generalize m.run plate s = run at result
  obtain ⟨_, t⟩ := run
  cases result
  rfl

theorem run_require {plate : Plate σ} {c : Call} {s : Session σ} {reply : Except Failure c.Reply}
    {state : σ} (responded : plate.respond c s.state = (reply, state)) :
    (require c).run plate s = (reply, ⟨state, s.events.push (.called c)⟩) := by
  simp only [require, run, responded]
  cases reply <;> rfl

/-- A program without its reports. -/
def silent : Program α → Program α
  | done a => done a
  | fail e => fail e
  | call c next => call c fun reply => (next reply).silent
  | report _ next => next.silent

theorem silent_bind (m : Program α) (f : α → Program β) :
    (m.bind f).silent = m.silent.bind fun a => (f a).silent := by
  induction m with
  | done | fail => rfl
  | call c next ih => exact congrArg (call c) (funext ih)
  | report p next ih => exact ih

/-- Reports leave no trace but their events. -/
theorem run_silent (plate : Plate σ) (m : Program α) {s t : Session σ} (same : s.state = t.state) :
    (m.silent.run plate s).1 = (m.run plate t).1 ∧
      (m.silent.run plate s).2.state = (m.run plate t).2.state := by
  induction m generalizing s t with
  | done | fail => exact ⟨rfl, same⟩
  | call c next ih =>
    simp only [silent, run, same]
    exact ih _ rfl
  | report p next ih => exact ih same

theorem run_congr (plate : Plate σ) {m m' : Program α} (same : m.silent = m'.silent)
    (s : Session σ) : (m.run plate s).1 = (m'.run plate s).1 := by
  rw [← (run_silent plate m (Eq.refl s.state)).1, same, (run_silent plate m' (Eq.refl s.state)).1]

/-- From every session whose state is one of `before` the program has the result, and it
leaves a state that is one of `after`. -/
def Leads (plate : Plate σ) (before after : σ → Prop) (m : Program α)
    (result : Except Failure α) : Prop :=
  ∀ s : Session σ, before s.state →
    (m.run plate s).1 = result ∧ after (m.run plate s).2.state

namespace Leads
variable {plate : Plate σ} {before middle after : σ → Prop} {m : Program α} {f : α → Program β}

theorem bind {a : α} {r : Except Failure β} (first : Leads plate before middle m (.ok a))
    (second : Leads plate middle after (f a) r) : Leads plate before after (m.bind f) r := by
  intro s holds
  obtain ⟨result, holds⟩ := first s holds
  rw [run_bind_ok result]
  exact second _ holds

theorem bind_error {e : Failure} (first : Leads plate before after m (.error e)) :
    Leads plate before after (m.bind f) (.error e) := by
  intro s holds
  obtain ⟨result, holds⟩ := first s holds
  rw [run_bind_error result]
  exact ⟨rfl, holds⟩

theorem silent_iff {r : Except Failure α} :
    Leads plate before after m.silent r ↔ Leads plate before after m r := by
  refine forall_congr' fun s => forall_congr' fun _ => ?_
  obtain ⟨sameResult, sameState⟩ := run_silent plate m (show s.state = s.state from rfl)
  rw [sameResult, sameState]

end Leads
end Program

/-- The plate `s` is `p` but for its tiles and its log, and has no open write. -/
structure Rests (p : MemoryPlate) (tiles : TileMap) (s : MemoryPlate) : Prop where
  levels_eq : s.levels = p.levels
  format_eq : s.format = p.format
  channel_eq : s.channel = p.channel
  tiles_eq : s.tiles = tiles
  closed : s.staged = none

theorem Rests.self {p : MemoryPlate} (closed : p.staged = none) : Rests p p.tiles p :=
  ⟨rfl, rfl, rfl, rfl, closed⟩

/-- On a plate at rest with `tiles` the program has the result, and leaves the plate at
rest with the tiles `after`. -/
def Settles (p : MemoryPlate) (tiles : TileMap) (m : Program α) (result : Except Failure α)
    (after : TileMap) : Prop :=
  ∀ s : Session MemoryPlate, Rests p tiles s.state →
    (m.run memoryPlate s).1 = result ∧ Rests p after (m.run memoryPlate s).2.state

namespace Settles
variable {p : MemoryPlate} {tiles middle after : TileMap} {m : Program α} {f : α → Program β}

theorem done (a : α) : Settles p tiles (.done a) (.ok a) tiles := fun _ rests => ⟨rfl, rests⟩

theorem bind {a : α} {r : Except Failure β} (first : Settles p tiles m (.ok a) middle)
    (second : Settles p middle (f a) r after) : Settles p tiles (m.bind f) r after :=
  Program.Leads.bind first second

theorem bind_error {e : Failure} (first : Settles p tiles m (.error e) after) :
    Settles p tiles (m.bind f) (.error e) after :=
  Program.Leads.bind_error first

theorem silent_iff {r : Except Failure α} :
    Settles p tiles m.silent r after ↔ Settles p tiles m r after :=
  Program.Leads.silent_iff

end Settles
end TileComposite
