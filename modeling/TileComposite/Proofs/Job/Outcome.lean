import TileComposite.Proofs.Job.Fit

/-! What a job does to a plate whose versions agree. It succeeds unless it meets flat
tiles or a miss that cannot be told, and then the composites of the initial versions are all
that is new on the plate, wherever the output transaction lies. -/
namespace TileComposite.Config
variable {c : Config} {p : MemoryPlate} {a : Aggregation}

/-- The job has reduced the cells of its units, and nothing else has changed. -/
structure Completed (c : Config) (a : Aggregation) (p : MemoryPlate) (result : JobResult)
    (left : MemoryPlate) : Prop where
  composites : ∀ cell ∈ c.cells, a.stack p.tiles cell ≠ [] →
    ∃ b, left.tiles[a.tile cell a.output]? = some b ∧ Averages a (a.stack p.tiles cell) b
  others : ∀ id : TileId, ¬(id.level = a.level ∧ id.transaction = a.output ∧ id.cell ∈ c.cells ∧
    a.stack p.tiles id.cell ≠ []) → left.tiles[id]? = p.tiles[id]?
  closed : left.staged = none
  plan_eq : result.plan = c.plan a
  units_eq : result.summary.units = c.units.length
  visited_eq : result.summary.visited = c.cells.length
  reduced_eq : result.summary.reduced =
    c.cells.countP fun cell => !(a.stack p.tiles cell).isEmpty
  skipped_eq : result.summary.skipped =
    c.cells.countP fun cell => (a.stack p.tiles cell).isEmpty
  tiles_eq : result.summary.tiles = (c.cells.map fun cell => (a.stack p.tiles cell).length).sum

/-- Composites of sound cells, and the initial tiles under all other keys. -/
theorem Fits.completed {result : JobResult} {left : MemoryPlate}
    (sound : ∀ cell ∈ c.cells, a.Sound p.tiles cell) (plan : result.plan = c.plan a)
    (summary : result.summary = a.tally c.units.length p.tiles c.cells)
    (rests : Rests p (a.composited p.tiles c.cells) left) : Completed c a p result left where
  composites cell member nonempty := by
    obtain ⟨b, _, made, averages⟩ := Aggregation.compose_sound nonempty (sound cell member)
    refine ⟨b, ?_, averages⟩
    have here : (a.tile cell a.output).cell = cell := rfl
    rw [rests.tiles_eq, Aggregation.getElem?_composited, here, made, if_pos ⟨rfl, rfl, member⟩]
    rfl
  others id apart := by
    rw [rests.tiles_eq, Aggregation.getElem?_composited]
    split
    · rename_i inside
      have empty : a.stack p.tiles id.cell = [] := by
        by_contra nonempty
        exact apart ⟨inside.1, inside.2.1, inside.2.2, nonempty⟩
      rw [Aggregation.composite?, if_pos empty]
      rfl
    · rfl
  closed := rests.closed
  plan_eq := plan
  units_eq := congrArg Summary.units summary
  visited_eq := congrArg Summary.visited summary
  reduced_eq := congrArg Summary.reduced summary
  skipped_eq := congrArg Summary.skipped summary
  tiles_eq := congrArg Summary.tiles summary

/-- Where all versions that a job meets agree, it succeeds just when none of them is flat and
of every cell without versions that can be told, and it then stores exactly the averages of the
initial versions. A job that is logged does the same if its log can be written, and else fails. -/
theorem runJob_completed {last : Int} {reducer : Reducer} {pixel : PixelType}
    (closed : p.staged = none) (complete : c.requireComplete = .ok last)
    (named : Reducer.ofName (.scalar (.text c.function)) = .ok reducer)
    (inside : 0 ≤ c.level ∧ c.level < p.levels)
    (supported : PixelType.resolve p.format p.channel = .ok pixel) :
    let a : Aggregation := ⟨pixel, reducer, c.level, c.first, last, c.output⟩
    c.blockSize.unitsForSlot c.level c.slot = .ok c.units ∧
      ((∀ cell ∈ c.cells, Agrees pixel (a.stack p.tiles cell)) →
        ((∃ result, (runJob memoryPlate c p).1 = .ok result) ↔
          ∀ cell ∈ c.cells, ¬Flat (a.stack p.tiles cell) ∧
            (a.stack p.tiles cell = [] → a.Searchable cell)) ∧
        ∀ result, (runJob memoryPlate c p).1 = .ok result →
          Completed c a p result (runJob memoryPlate c p).2.state) ∧
      ((∃ result, (runJobLogged memoryPlate c p).1 = .ok result) ↔
        c.Loggable ∧ (∀ u ∈ c.units, u.Labelled) ∧
          ∃ result, (runJob memoryPlate c p).1 = .ok result) ∧
      (c.Loggable → (∀ u ∈ c.units, u.Labelled) →
        runJobLogged memoryPlate c p = runJob memoryPlate c p) := by
  intro a
  have fits : Fits c p a := ⟨complete, named, inside, supported, rfl, rfl, rfl⟩
  refine ⟨unitsForSlot_eq inside.1, fun agree => ?_, fits.runJobLogged_ok_iff,
    fits.runJobLogged_labelled⟩
  refine ⟨⟨?_, fun solid => ?_⟩, fun result succeeded => ?_⟩
  · rintro ⟨result, succeeded⟩ cell member
    have sound := (fits.of_ok closed succeeded).1 cell member
    exact ⟨sound.solid, sound.searchable⟩
  · obtain ⟨session, run, _⟩ := fits.runJob_alone closed fun cell member =>
      ⟨agree cell member, (solid cell member).1, (solid cell member).2⟩
    rw [run]
    exact ⟨_, rfl⟩
  · obtain ⟨sound, plan, summary, rests⟩ := fits.of_ok closed succeeded
    exact Fits.completed sound plan summary rests

/-- The first of two jobs reduces two versions, one of them stored under the output
transaction, and skips its other cell. -/
theorem runJob_completed_pair :
    let tile (n : Rat) : Buffer := ⟨.int16, [1, 1, 2], #[.finite n, .finite 1]⟩
    let p : MemoryPlate := {
      levels := 2, format := .member .graya, channel := .member .int16,
      tiles := TileMap.apply ∅ [(⟨1, 0, 0, 3⟩, tile 7), (⟨1, 0, 0, 4⟩, tile 9)] }
    let c : Config := {
      url := "memory://p", level := 1, last := some 5, output := 4, jobs := 2, block := 1,
      jobs_pos := by decide, job_nonneg := by decide, job_lt := by decide,
      block_pos := by decide, range_ordered := by rintro _ ⟨⟩; decide }
    let a : Aggregation := ⟨⟨.graya, .int16⟩, .weightedAverage, 1, 0, 5, 4⟩
    ∃ result, (runJob memoryPlate c p).1 = .ok result ∧
      Completed c a p result (runJob memoryPlate c p).2.state := by
  intro tile p c a
  have visited : c.cells = [⟨0, 0⟩, ⟨0, 1⟩] := by decide +kernel
  have pair : a.stack p.tiles ⟨0, 0⟩ = [⟨3, tile 7⟩, ⟨4, tile 9⟩] := by decide +kernel
  have none : a.stack p.tiles ⟨0, 1⟩ = [] := by decide +kernel
  have named : Reducer.ofName (.scalar (.text c.function)) = .ok .weightedAverage :=
    Reducer.ofName_standard
  obtain ⟨_, run, _⟩ := runJob_completed (c := c) (p := p) rfl rfl named (by decide) rfl
  have reduced : a.Sound p.tiles ⟨0, 0⟩ := by
    refine Aggregation.sound_of_rows 0 1 2 (by decide +kernel) ?_ (by rw [pair]; decide)
    rw [pair, List.forall_mem_cons, List.forall_mem_singleton]
    exact ⟨⟨_, rfl⟩, _, rfl⟩
  have each : ∀ cell ∈ c.cells, a.Sound p.tiles cell := by
    rw [visited, List.forall_mem_cons, List.forall_mem_singleton]
    exact ⟨reduced, Aggregation.sound_of_empty none (by decide +kernel)⟩
  obtain ⟨succeeds, completed⟩ := run fun cell member => (each cell member).agrees
  obtain ⟨result, succeeded⟩ := succeeds.mpr fun cell member =>
    ⟨(each cell member).solid, (each cell member).searchable⟩
  exact ⟨result, succeeded, completed result succeeded⟩

/-- A job fails on a tile without rows, although it meets no other version. -/
theorem runJob_flat_tile :
    let p : MemoryPlate := {
      levels := 1, format := .member .graya, channel := .member .uint8,
      tiles := TileMap.apply ∅ [(⟨0, 0, 0, 1⟩, ⟨.uint8, [0, 3, 2], #[]⟩)] }
    let c : Config := {
      url := "memory://p", level := 0, last := some 5,
      jobs_pos := by decide, job_nonneg := by decide, job_lt := by decide,
      block_pos := by decide, range_ordered := by rintro _ ⟨⟩; decide }
    let a : Aggregation := ⟨⟨.graya, .uint8⟩, .weightedAverage, 0, 0, 5, 2000⟩
    p.staged = none ∧ c.requireComplete = .ok 5 ∧
      Reducer.ofName (.scalar (.text c.function)) = .ok a.reducer ∧
      (0 ≤ c.level ∧ c.level < p.levels) ∧
      PixelType.resolve p.format p.channel = .ok a.pixel ∧
      (∀ cell ∈ c.cells, Agrees a.pixel (a.stack p.tiles cell)) ∧
      ∃ e, (runJob memoryPlate c p).1 = .error e := by
  intro p c a
  have visited : c.cells = [⟨0, 0⟩] := by decide +kernel
  have stack : a.stack p.tiles ⟨0, 0⟩ = [⟨1, ⟨.uint8, [0, 3, 2], #[]⟩⟩] := by decide +kernel
  have named : Reducer.ofName (.scalar (.text c.function)) = .ok a.reducer :=
    Reducer.ofName_standard
  have agree : ∀ cell ∈ c.cells, Agrees a.pixel (a.stack p.tiles cell) := by
    rw [visited, List.forall_mem_singleton, stack]
    refine ⟨?_, by decide⟩
    rw [List.forall_mem_singleton]
    exact ⟨_, rfl⟩
  have fits : Fits c p a := ⟨rfl, named, by decide, rfl, rfl, rfl, rfl⟩
  refine ⟨rfl, rfl, named, by decide, rfl, agree, fits.runJob_unsound rfl fun sound => ?_⟩
  have solid := (sound ⟨0, 0⟩ (by rw [visited]; exact List.mem_singleton_self _)).solid
  rw [stack] at solid
  exact solid ⟨_, List.mem_singleton_self _, 3, 2, rfl, by decide⟩

end TileComposite.Config
