import TileComposite.Proofs.Aggregate.Runs

/-! What an aggregation still has to do. Between two writes of its own it depends on the plate
only through the versions of the cell that it is at, so that it can be followed call by call,
whoever else writes to the plate in between. -/
namespace TileComposite.Aggregation
variable (a : Aggregation) (p : MemoryPlate) {α β : Type}

/-- The program has yet to reduce some cells as `p` settles it, and has staged a batch in a
write that it opened. Whoever else holds a write, its own request for one fails. -/
inductive Pursues : List Cell → Option (List (TileId × Buffer)) → Program α → Prop where
  | finished (x : α) : Pursues [] none (.done x)
  | failed {todo} (e : Failure) : Pursues todo none (.fail e)
  | reported {todo batch next} (r : Progress) : Pursues todo batch next →
      Pursues todo batch (.report r next)
  | asked {cell todo c next reply} : a.Fixed p cell c reply →
      Pursues (cell :: todo) none (next reply) → Pursues (cell :: todo) none (.call c next)
  | skipped {cell todo c next reply} : a.Fixed p cell c reply → a.stack p.tiles cell = [] →
      Pursues todo none (next reply) → Pursues (cell :: todo) none (.call c next)
  | requesting {cell todo} {next : Except Failure Unit → Program α} :
      (∀ e, next (.error e) = .fail e) →
      Pursues (cell :: todo) (some []) (next (.ok ())) →
      Pursues (cell :: todo) none (.call .writeRequest next)
  | updating {cell todo b} {next : Except Failure Unit → Program α} :
      a.composite? p.tiles cell = some b →
      Pursues (cell :: todo) (some [(a.tile cell a.output, b)]) (next (.ok ())) →
      Pursues (cell :: todo) (some []) (.call (.writeUpdate (a.tile cell a.output) b) next)
  | completing {cell todo b} {next : Except Failure Unit → Program α} :
      a.composite? p.tiles cell = some b →
      Pursues todo none (next (.ok ())) →
      Pursues (cell :: todo) (some [(a.tile cell a.output, b)]) (.call .writeComplete next)

variable {a} {p} {cell : Cell} {todo : List Cell}

namespace Pursues
variable {m : Program α} {batch : Option (List (TileId × Buffer))}

theorem of_done {x : α} (pursues : a.Pursues p todo batch (.done x)) : todo = [] := by
  cases pursues
  rfl

/-- At most one tile is staged, for a cell that is still to be reduced. -/
theorem staged (pursues : a.Pursues p todo batch m) {updates : List (TileId × Buffer)}
    (staged : batch = some updates) : updates.length ≤ 1 ∧ ∀ w ∈ updates, w.1.cell ∈ todo := by
  induction pursues with
  | finished | failed | asked | skipped | requesting => cases staged
  | reported _ _ ih => exact ih staged
  | updating =>
    cases staged
    exact ⟨Nat.zero_le 1, nofun⟩
  | completing =>
    cases staged
    exact ⟨Nat.le_refl 1, List.forall_mem_singleton.mpr List.mem_cons_self⟩

end Pursues

/-- After the reads of a cell comes what follows on their result, or nothing. -/
theorem Pursues.of_asks {m : Program α} {r : Except Failure α} {f : α → Program β}
    (asks : a.Asks p cell m r) (next : ∀ x, r = .ok x → a.Pursues p (cell :: todo) none (f x)) :
    a.Pursues p (cell :: todo) none (m.bind f) := by
  induction asks with
  | done x => exact next x rfl
  | fail e => exact .failed e
  | call fixed _ ih => exact .asked fixed (ih next)

theorem pursues_commit {b : Buffer} {f : Unit → Program β}
    (made : a.composite? p.tiles cell = some b) (next : a.Pursues p todo none (f ())) :
    a.Pursues p (cell :: todo) none ((a.commit cell b).bind f) :=
  .requesting (fun _ => rfl) (.updating made (.completing made next))

theorem pursues_processCell (inside : 0 ≤ a.level ∧ a.level < p.levels) (cell : Cell)
    {f : Nat → Program β} (next : ∀ n, a.Pursues p todo none (f n)) :
    a.Pursues p (cell :: todo) none ((a.processCell cell).bind f) := by
  rw [processCell_eq, Program.bind_assoc]
  by_cases empty : a.stack p.tiles cell = []
  · by_cases searchable : a.Searchable cell
    · refine .skipped (fixed_search_empty inside empty) empty ?_
      change a.Pursues p todo none ((if (a.missing cell).category = .tileNotFound
        then Program.done [] else .fail (a.missing cell)).bind _)
      rw [if_pos (category_missing.mpr searchable)]
      exact next 0
    · exact .of_asks (asks_query_missing inside empty searchable) nofun
  · refine .of_asks (asks_query inside fun none => absurd none empty) fun ids found => ?_
    cases found
    rw [if_neg (isEmpty_found empty), Program.bind_assoc, Program.bind_assoc]
    refine .of_asks (asks_compose cell) fun b composed => pursues_commit ?_ (next _)
    rw [composite?, if_neg empty, composed]
    rfl

theorem pursues_processCells (inside : 0 ≤ a.level ∧ a.level < p.levels) (cells : List Cell)
    {f : Summary → Program β} (next : ∀ s, a.Pursues p todo none (f s)) (s : Summary) :
    a.Pursues p (cells ++ todo) none ((a.processCells cells s).bind f) := by
  induction cells generalizing s with
  | nil => exact next s
  | cons cell cells ih =>
    have first := pursues_processCell inside cell fun n => ih (s.visit n)
    rwa [← Program.bind_assoc] at first

theorem pursues_processFrom (inside : 0 ≤ a.level ∧ a.level < p.levels) (total i : Nat)
    (units : List WorkUnit) {f : Summary → Program β} (next : ∀ s, a.Pursues p [] none (f s))
    (s : Summary) :
    a.Pursues p (units.flatMap WorkUnit.cells) none ((a.processFrom total i units s).bind f) := by
  induction units generalizing i s with
  | nil => exact next s
  | cons unit units ih =>
    have first := pursues_processCells inside unit.cells (ih (i + 1)) s
    rw [← Program.bind_assoc] at first
    exact .reported _ first

/-- A pass pursues the cells of its units. -/
theorem pursues_process (inside : 0 ≤ a.level ∧ a.level < p.levels) (units : List WorkUnit) :
    a.Pursues p (units.flatMap WorkUnit.cells) none (a.process units) :=
  .reported _ (pursues_processFrom inside _ _ units (fun s => .reported _ (.finished s)) _)

end TileComposite.Aggregation
