import TileComposite.Proofs.Aggregate.Cells

/-! Calls that a plate answers from the versions of one cell. They change no tiles, and what a
program makes of the answers does not depend on what happens at other cells meanwhile. -/
namespace TileComposite.Aggregation
variable (a : Aggregation) (p : MemoryPlate) {α β : Type}

/-- The call is no write, and every plate with the levels of `p` and its versions of the cell
gives it this reply. -/
structure Fixed (cell : Cell) (c : Call) (reply : Except Failure c.Reply) : Prop where
  asks : c.method = .search ∨ c.method = .read
  responds : ∀ s : MemoryPlate, s.levels = p.levels → a.stack s.tiles cell = a.stack p.tiles cell →
    s.respond c = (reply, s.logged c)

/-- The program makes only calls that the versions of the cell answer, and has the result. -/
inductive Asks (cell : Cell) : Program α → Except Failure α → Prop where
  | done (x : α) : Asks cell (.done x) (.ok x)
  | fail (e : Failure) : Asks cell (.fail e) (.error e)
  | call {c next reply r} : a.Fixed p cell c reply → Asks cell (next reply) r →
      Asks cell (.call c next) r

variable {a} {p} {cell : Cell}

namespace Asks

theorem ofExcept (r : Except Failure α) : a.Asks p cell (.ofExcept r) r := by
  cases r with
  | ok x => exact done x
  | error e => exact fail e

theorem bind {m : Program α} {r : Except Failure α} {f : α → Program β} {g : α → Except Failure β}
    (first : a.Asks p cell m r) (second : ∀ x, r = .ok x → a.Asks p cell (f x) (g x)) :
    a.Asks p cell (m.bind f) (r >>= g) := by
  induction first with
  | done x => exact second x rfl
  | fail e => exact fail e
  | call fixed _ ih => exact call fixed (ih second)

theorem require {c : Call} {r : Except Failure c.Reply} (fixed : a.Fixed p cell c r) :
    a.Asks p cell (Program.require c) r :=
  call fixed (ofExcept r)

end Asks

theorem fixed_search_outside (outside : ¬(0 ≤ a.level ∧ a.level < p.levels)) (cell : Cell) :
    a.Fixed p cell (a.request cell) (.error (.levelOutside a.level p.levels)) where
  asks := .inl rfl
  responds s levels _ := by
    rw [← levels] at outside ⊢
    exact MemoryPlate.respond_search_outside outside

theorem fixed_search_empty (inside : 0 ≤ a.level ∧ a.level < p.levels)
    (empty : a.stack p.tiles cell = []) :
    a.Fixed p cell (a.request cell)
      (.error (a.missing cell)) where
  asks := .inl rfl
  responds s levels same := by
    rw [← levels] at inside
    exact MemoryPlate.respond_search_empty inside (same.trans empty)

theorem fixed_search_found (inside : 0 ≤ a.level ∧ a.level < p.levels)
    (found : a.stack p.tiles cell ≠ []) :
    a.Fixed p cell (a.request cell)
      (.ok (some ((a.stack p.tiles cell).map fun v => a.tile cell v.transaction))) where
  asks := .inl rfl
  responds s levels same := by
    rw [← levels] at inside
    rw [← same] at found ⊢
    exact MemoryPlate.respond_search_found inside found

theorem fixed_read {v : Version} (member : v ∈ a.stack p.tiles cell) :
    a.Fixed p cell (.read (a.tile cell v.transaction) true) (.ok v.buffer) where
  asks := .inr rfl
  responds s _ same := by
    rw [← same] at member
    exact MemoryPlate.respond_read_stored (TileMap.mem_stack.mp member).2.2

/-- That no tile is found counts as an answer, and every other failure of a search ends the
query. -/
theorem asks_query_error {e : Failure} (fixed : a.Fixed p cell (a.request cell) (.error e)) :
    a.Asks p cell (a.query cell) (if e.category = .tileNotFound then .ok [] else .error e) := by
  refine .call fixed ?_
  change a.Asks p cell (if e.category = .tileNotFound then .done [] else .fail e) _
  split
  · exact .done []
  · exact .fail e

/-- Outside of the levels of the plate a search fails, whatever can be told of it. -/
theorem asks_query_outside (outside : ¬(0 ≤ a.level ∧ a.level < p.levels)) (cell : Cell) :
    a.Asks p cell (a.query cell) (.error (.levelOutside a.level p.levels)) := by
  have other : (Failure.levelOutside a.level p.levels).category ≠ .tileNotFound := fun found =>
    nomatch Failure.kind_eq found
  have asks := asks_query_error (fixed_search_outside outside cell)
  rwa [if_neg other] at asks

/-- A search that finds nothing counts as one that finds no versions, if that can be told. -/
theorem asks_query (inside : 0 ≤ a.level ∧ a.level < p.levels)
    (searchable : a.stack p.tiles cell = [] → a.Searchable cell) :
    a.Asks p cell (a.query cell)
      (.ok ((a.stack p.tiles cell).map fun v => a.tile cell v.transaction)) := by
  by_cases empty : a.stack p.tiles cell = []
  · have asks := asks_query_error (fixed_search_empty inside empty)
    rw [if_pos (category_missing.mpr (searchable empty))] at asks
    rwa [empty]
  · exact .call (fixed_search_found inside empty) (.done _)

theorem asks_query_missing (inside : 0 ≤ a.level ∧ a.level < p.levels)
    (empty : a.stack p.tiles cell = []) (untold : ¬a.Searchable cell) :
    a.Asks p cell (a.query cell) (.error (a.missing cell)) := by
  have asks := asks_query_error (fixed_search_empty inside empty)
  rwa [if_neg (mt category_missing.mp untold)] at asks

theorem asks_readVersions {versions : List Version} (stored : versions ⊆ a.stack p.tiles cell) :
    a.Asks p cell (a.readVersions cell (versions.map fun v => a.tile cell v.transaction))
      (a.accepted cell versions) := by
  induction versions with
  | nil => exact .done []
  | cons v versions ih =>
    obtain ⟨here, later⟩ := List.cons_subset.mp stored
    have first : a.Asks p cell (a.readVersion cell (a.tile cell v.transaction))
        (a.accept cell v.transaction v.buffer) :=
      (Asks.require (fixed_read here)).bind (g := a.accept cell v.transaction) fun b _ =>
        Asks.ofExcept (a.accept cell v.transaction b)
    exact first.bind fun b _ => (ih later).bind fun bs _ => .done (b :: bs)

/-- Loading a cell and averaging what was loaded gives the composite of its stack. -/
theorem asks_compose (cell : Cell) :
    a.Asks p cell
      ((a.load cell ((a.stack p.tiles cell).map fun v => a.tile cell v.transaction)).bind
        fun buffers => .ofExcept (a.reducer.reduce a.pixel buffers))
      (a.compose cell (a.stack p.tiles cell)) := by
  have loaded : a.Asks p cell
      (a.load cell ((a.stack p.tiles cell).map fun v => a.tile cell v.transaction))
      (a.accepted cell (a.stack p.tiles cell) >>= fun buffers =>
        sameSize cell buffers >>= fun _ => .ok buffers) :=
    (asks_readVersions (List.Subset.refl _)).bind fun buffers _ =>
      (Asks.ofExcept (sameSize cell buffers)).bind fun _ _ => .done buffers
  rw [compose_eq]
  exact loaded.bind fun buffers _ => Asks.ofExcept (a.reducer.reduce a.pixel buffers)

/-- On a plate at rest questions have their answers, and leave the tiles alone. -/
theorem Asks.settles {tiles : TileMap} {m : Program α} {r : Except Failure α}
    (asks : a.Asks { p with tiles := tiles } cell m r) : Settles p tiles m r tiles := by
  intro s rests
  induction asks generalizing s with
  | done | fail => exact ⟨rfl, rests⟩
  | call fixed _ ih =>
    have replied := fixed.responds s.state rests.levels_eq (by rw [rests.tiles_eq])
    have responded : memoryPlate.respond _ s.state = _ := replied
    rw [Program.run, responded]
    exact ih _ ⟨rests.levels_eq, rests.format_eq, rests.channel_eq, rests.tiles_eq, rests.closed⟩

end TileComposite.Aggregation
