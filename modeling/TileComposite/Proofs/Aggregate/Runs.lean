import TileComposite.Proofs.Aggregate.Answers

/-! Runs of an aggregation on a plate in memory at rest. Every step that can fail comes
before the write is requested, and the write cannot fail, so that a cell is either
reduced or left as it was, and no write stays open. -/
namespace TileComposite.Aggregation
variable {a : Aggregation} {p : MemoryPlate} {tiles initial : TileMap} {cell : Cell}

theorem settles_query (inside : 0 ≤ a.level ∧ a.level < p.levels)
    (searchable : a.stack tiles cell = [] → a.Searchable cell) :
    Settles p tiles (a.query cell)
      (.ok ((a.stack tiles cell).map fun v => a.tile cell v.transaction)) tiles := by
  have asks := asks_query (p := { p with tiles := tiles }) inside searchable
  exact asks.settles

/-- Loading a cell and averaging what was loaded gives the composite of its stack. -/
theorem settles_compose (p : MemoryPlate) (tiles : TileMap) (cell : Cell) :
    Settles p tiles
      ((a.load cell ((a.stack tiles cell).map fun v => a.tile cell v.transaction)).bind
        fun buffers => .ofExcept (a.reducer.reduce a.pixel buffers))
      (a.compose cell (a.stack tiles cell)) tiles := by
  have asks := asks_compose (a := a) (p := { p with tiles := tiles }) cell
  exact asks.settles

/-- On a plate at rest the three phases cannot fail. -/
theorem settles_commit (inside : 0 ≤ a.level ∧ a.level < p.levels) (tiles : TileMap) (cell : Cell)
    (b : Buffer) :
    Settles p tiles (a.commit cell b) (.ok ()) (tiles.insert (a.tile cell a.output) b) := by
  intro s rests
  have inside' : 0 ≤ a.level ∧ a.level < s.state.levels := rests.levels_eq ▸ inside
  let opened : MemoryPlate := { s.state.logged .writeRequest with staged := some [] }
  let id := a.tile cell a.output
  let updated : MemoryPlate := { opened.logged (.writeUpdate id b) with staged := some [(id, b)] }
  have requested : s.state.respond .writeRequest = (.ok (), opened) :=
    MemoryPlate.respond_request_closed rests.closed
  have nothing : opened.staged = some [] := rfl
  have staged : opened.respond (.writeUpdate id b) = (.ok (), updated) :=
    MemoryPlate.respond_update_inside nothing inside'
  have batch : updated.staged = some [(id, b)] := rfl
  have completed : updated.respond .writeComplete = (.ok (), { updated.logged .writeComplete with
      tiles := s.state.tiles.insert id b, staged := none }) :=
    MemoryPlate.respond_complete_open batch
  have run : (a.commit cell b).run memoryPlate s =
      (.ok (), ⟨{ updated.logged .writeComplete with
        tiles := s.state.tiles.insert id b, staged := none },
        ((s.events.push (.called .writeRequest)).push (.called (.writeUpdate id b))).push
          (.called .writeComplete)⟩) := by
    change ((Program.require .writeRequest).bind fun _ =>
      (Program.require (.writeUpdate id b)).bind fun _ =>
        Program.require .writeComplete).run memoryPlate s = _
    rw [Program.run_bind, Program.run_require requested]
    dsimp only
    rw [Program.run_bind, Program.run_require staged]
    dsimp only
    exact Program.run_require completed
  rw [run]
  exact ⟨rfl, rests.levels_eq, rests.format_eq, rests.channel_eq, by rw [← rests.tiles_eq], rfl⟩

/-! ### One cell -/

/-- The steps of a cell that has versions, the averaging of what is loaded taken together. -/
theorem processCell_eq (cell : Cell) : a.processCell cell = (a.query cell).bind fun ids =>
    if ids.isEmpty then .done 0
    else (((a.load cell ids).bind fun buffers => .ofExcept (a.reducer.reduce a.pixel buffers)).bind
      (a.commit cell)).bind fun _ => .done ids.length := by
  simp only [Program.bind_assoc]
  rfl

theorem isEmpty_found (nonempty : a.stack tiles cell ≠ []) :
    ¬((a.stack tiles cell).map fun v => a.tile cell v.transaction).isEmpty = true := by
  rw [List.isEmpty_map, List.isEmpty_iff]
  exact nonempty

/-- What a cell comes to is settled by the initial tiles, as long as its versions are those. -/
theorem settles_sound (inside : 0 ≤ a.level ∧ a.level < p.levels)
    (same : a.stack tiles cell = a.stack initial cell) (sound : a.Sound initial cell) :
    Settles p tiles (a.processCell cell) (.ok (a.stack initial cell).length)
      (a.place tiles cell (a.composite? initial cell)) := by
  rw [processCell_eq]
  refine (settles_query inside (same ▸ sound.searchable)).bind ?_
  by_cases empty : a.stack initial cell = []
  · rw [same, composite?, empty, if_pos rfl]
    exact Settles.done 0
  · obtain ⟨b, composed, made, _⟩ := compose_sound empty sound
    have averaged := settles_compose (a := a) p tiles cell
    rw [same, composed] at averaged
    rw [same, made, if_neg (isEmpty_found empty), List.length_map]
    exact (averaged.bind (settles_commit inside tiles cell b)).bind (Settles.done _)

/-- A cell whose versions have no composite fails before its write is requested. -/
theorem settles_failing (inside : 0 ≤ a.level ∧ a.level < p.levels)
    (same : a.stack tiles cell = a.stack initial cell) (nonempty : a.stack initial cell ≠ [])
    {e : Failure} (composed : a.compose cell (a.stack initial cell) = .error e) :
    Settles p tiles (a.processCell cell) (.error e) tiles := by
  have failed := settles_compose (a := a) p tiles cell
  rw [same, composed] at failed
  rw [processCell_eq]
  refine (settles_query inside fun empty => absurd (same ▸ empty) nonempty).bind ?_
  rw [same, if_neg (isEmpty_found nonempty)]
  exact failed.bind_error.bind_error

/-- A cell without versions fails if that there are none cannot be told. -/
theorem settles_missing (inside : 0 ≤ a.level ∧ a.level < p.levels)
    (empty : a.stack tiles cell = []) (untold : ¬a.Searchable cell) :
    Settles p tiles (a.processCell cell) (.error (a.missing cell)) tiles := by
  have asks := asks_query_missing (p := { p with tiles := tiles }) inside empty untold
  rw [processCell_eq]
  exact asks.settles.bind_error

/-- A cell that is not sound fails alike wherever its versions are those of the initial tiles. -/
theorem settles_unsound (inside : 0 ≤ a.level ∧ a.level < p.levels)
    (unsound : ¬a.Sound initial cell) :
    ∃ e, a.Stops initial cell e ∧ ∀ tiles, a.stack tiles cell = a.stack initial cell →
      Settles p tiles (a.processCell cell) (.error e) tiles := by
  obtain ⟨empty, untold⟩ | ⟨nonempty, e, composed, stops⟩ := unsound_cases unsound
  · exact ⟨_, .missing empty untold,
      fun tiles same => settles_missing inside (same.trans empty) untold⟩
  · exact ⟨e, stops, fun tiles same => settles_failing inside same nonempty composed⟩

/-- At a level outside of the plate no cell gets past its search. -/
theorem settles_outside (outside : ¬(0 ≤ a.level ∧ a.level < p.levels)) (tiles : TileMap)
    (cell : Cell) :
    Settles p tiles (a.processCell cell) (.error (.levelOutside a.level p.levels)) tiles := by
  have asks := asks_query_outside (p := { p with tiles := tiles }) outside cell
  rw [processCell_eq]
  exact asks.settles.bind_error

end TileComposite.Aggregation
