import TileComposite.Proofs.Aggregate.Interruption

/-! Passes over a plate in any state. Where somebody has left a write open, every request of a
write is refused: a pass gets as far as the first cell that has versions, and changes nothing
but the log. On every plate a pass therefore goes through the cells that do not hold it up, and
what ends it is found out from the tiles and the open write at its start. A pass that is logged
also ends where it comes to a unit whose label cannot be written. -/
namespace TileComposite.Aggregation
variable (a : Aggregation) (p : MemoryPlate)

/-- The cell has no versions, and that can be told. -/
def Skips (cell : Cell) : Prop := a.stack p.tiles cell = [] ∧ a.Searchable cell

/-- Nothing at the cell holds up a pass: its versions are sound, and no open write is in the
way of their composite. -/
def Clears (cell : Cell) : Prop :=
  a.Sound p.tiles cell ∧ (p.staged = none ∨ a.stack p.tiles cell = [])

/-- The failure that ends a pass at a cell which holds it up. -/
def HeldUp (cell : Cell) (e : Failure) : Prop :=
  a.Stops p.tiles cell e ∨ a.Sound p.tiles cell ∧ p.staged ≠ none ∧ e = .writeOpen

/-- The counters of a pass that skipped every cell. -/
def skippedAll (units : List WorkUnit) : Summary where
  units := units.length
  visited := (units.flatMap WorkUnit.cells).length
  skipped := (units.flatMap WorkUnit.cells).length

/-- The plate `s` is `p` but for its log. -/
def OnlyLogged (s : MemoryPlate) : Prop := s = { p with log := s.log }

variable {a p} {cell : Cell} {cells before after : List Cell} {e : Failure} {α : Type}

theorem Skips.sound (skips : a.Skips p cell) : a.Sound p.tiles cell :=
  sound_of_empty skips.1 skips.2

theorem HeldUp.category (held : a.HeldUp p cell e) : e.category.isStore = true ∨
    (Agrees a.pixel (a.stack p.tiles cell) ∧ Flat (a.stack p.tiles cell) ∧ e = .unequalPlanes) ∨
    ¬e.isLegible = true := by
  obtain stops | ⟨_, _, rfl⟩ := held
  · by_cases store : e.category = .store
    · rw [store]
      exact .inl rfl
    · exact .inr ((stops.other store).imp_right And.left)
  · exact .inl rfl

/-- What holds up a pass is a failure of the plate just when the cell is answerable. -/
theorem HeldUp.isStore_iff (held : a.HeldUp p cell e) :
    e.category.isStore = true ↔ a.Answerable p.tiles cell := by
  obtain stops | ⟨sound, _, rfl⟩ := held
  · rw [← stops.store_iff]
    refine ⟨fun store => ?_, fun store => by rw [store]; rfl⟩
    by_contra other
    obtain ⟨_, _, rfl⟩ | ⟨illegible, _⟩ := stops.other other
    · contradiction
    · exact illegible (Failure.legible_of_isStore store)
  · exact iff_of_true rfl sound.answerable

theorem HeldUp.not_clears (held : a.HeldUp p cell e) (nonempty : ¬a.Skips p cell) :
    ¬a.Clears p cell := by
  rintro ⟨sound, none | empty⟩
  · obtain stops | ⟨_, opened, _⟩ := held
    · exact stops.unsound sound
    · exact opened none
  · exact nonempty ⟨empty, sound.searchable empty⟩

theorem OnlyLogged.logged {s : MemoryPlate} (same : OnlyLogged p s) (c : Call) :
    OnlyLogged p (s.logged c) := by
  change s.logged c = { p with log := s.log.push c }
  rw [MemoryPlate.logged, same]

/-- No write can be requested. -/
theorem OnlyLogged.respond_request {s : MemoryPlate} (same : OnlyLogged p s)
    (opened : p.staged ≠ none) :
    memoryPlate.respond .writeRequest s = (.error .writeOpen, s.logged .writeRequest) := by
  obtain ⟨updates, staged⟩ := Option.ne_none_iff_exists'.mp opened
  have staged : s.staged = some updates := by rw [same, staged]
  exact MemoryPlate.respond_request_open staged

/-- Questions have their answers whatever write is open, and leave all but the log alone. -/
theorem Asks.leads {m : Program α} {r : Except Failure α} (asks : a.Asks p cell m r) :
    m.Leads memoryPlate (OnlyLogged p) (OnlyLogged p) r := by
  intro s same
  induction asks generalizing s with
  | done | fail => exact ⟨rfl, same⟩
  | @call c next reply r fixed _ ih =>
    have levels : s.state.levels = p.levels := by rw [same]
    have tiles : s.state.tiles = p.tiles := by rw [same]
    have responded : memoryPlate.respond c s.state = (reply, s.state.logged c) :=
      fixed.responds s.state levels (by rw [tiles])
    rw [Program.run, responded]
    exact ih _ (same.logged c)

theorem leads_commit (opened : p.staged ≠ none) (cell : Cell) (b : Buffer) :
    (a.commit cell b).Leads memoryPlate (OnlyLogged p) (OnlyLogged p) (.error .writeOpen) := by
  have refused : (Program.require .writeRequest).Leads memoryPlate (OnlyLogged p) (OnlyLogged p)
      (.error .writeOpen) := by
    intro s same
    rw [Program.run_require (same.respond_request opened)]
    exact ⟨rfl, same.logged _⟩
  exact refused.bind_error

/-! ### Cells beside an open write -/

theorem leads_skipped (inside : 0 ≤ a.level ∧ a.level < p.levels) (skips : a.Skips p cell) :
    (a.processCell cell).Leads memoryPlate (OnlyLogged p) (OnlyLogged p) (.ok 0) := by
  rw [processCell_eq]
  refine (asks_query inside fun _ => skips.2).leads.bind ?_
  rw [skips.1]
  exact fun _ same => ⟨rfl, same⟩

/-- A cell that is not skipped fails: with its versions, or else with the open write. -/
theorem leads_heldUp (inside : 0 ≤ a.level ∧ a.level < p.levels) (opened : p.staged ≠ none)
    (kept : ¬a.Skips p cell) :
    ∃ e, a.HeldUp p cell e ∧
      (a.processCell cell).Leads memoryPlate (OnlyLogged p) (OnlyLogged p) (.error e) := by
  have averaged := (asks_compose (a := a) (p := p) cell).leads
  rw [processCell_eq]
  by_cases sound : a.Sound p.tiles cell
  · have nonempty : a.stack p.tiles cell ≠ [] := fun empty => kept ⟨empty, sound.searchable empty⟩
    obtain ⟨b, composed, _⟩ := compose_sound nonempty sound
    rw [composed] at averaged
    refine ⟨.writeOpen, .inr ⟨sound, opened, rfl⟩,
      (asks_query inside sound.searchable).leads.bind ?_⟩
    rw [if_neg (isEmpty_found nonempty)]
    exact (averaged.bind (leads_commit opened cell b)).bind_error
  · obtain ⟨empty, untold⟩ | ⟨nonempty, e, composed, stops⟩ := unsound_cases sound
    · exact ⟨_, .inl (.missing empty untold),
        (asks_query_missing inside empty untold).leads.bind_error⟩
    · rw [composed] at averaged
      refine ⟨e, .inl stops, (asks_query inside fun empty => absurd empty nonempty).leads.bind ?_⟩
      rw [if_neg (isEmpty_found nonempty)]
      exact averaged.bind_error.bind_error

/-- Cells without versions are counted as skipped. -/
theorem leads_empties (inside : 0 ≤ a.level ∧ a.level < p.levels)
    (skips : ∀ cell ∈ cells, a.Skips p cell) (s : Summary) :
    (a.processCells cells s).Leads memoryPlate (OnlyLogged p) (OnlyLogged p)
      (.ok { s with visited := s.visited + cells.length, skipped := s.skipped + cells.length }) := by
  induction cells generalizing s with
  | nil => exact fun _ same => ⟨rfl, same⟩
  | cons cell cells ih =>
    obtain ⟨first, others⟩ := List.forall_mem_cons.mp skips
    have rest := ih others (s.visit 0)
    simp only [Summary.visit, if_pos, add_assoc, add_comm 1] at rest
    exact (leads_skipped inside first).bind rest

/-- Beside an open write nothing changes but the log. All cells are gone through if every one is
skipped, and else the pass ends at the first one that is not. -/
theorem processCells_opened (inside : 0 ≤ a.level ∧ a.level < p.levels) (opened : p.staged ≠ none)
    (cells : List Cell) (s : Summary) :
    ((∀ cell ∈ cells, a.Skips p cell) ∧
      (a.processCells cells s).Leads memoryPlate (OnlyLogged p) (OnlyLogged p)
        (.ok { s with visited := s.visited + cells.length, skipped := s.skipped + cells.length })) ∨
    ∃ before cell after e, cells = before ++ cell :: after ∧
      (∀ c ∈ before, a.Skips p c) ∧ ¬a.Skips p cell ∧ a.HeldUp p cell e ∧
      (a.processCell cell).Leads memoryPlate (OnlyLogged p) (OnlyLogged p) (.error e) ∧
      (a.processCells cells s).Leads memoryPlate (OnlyLogged p) (OnlyLogged p) (.error e) := by
  obtain skips | ⟨before, cell, after, rfl, skips, kept⟩ := all_or_first (a.Skips p) cells
  · exact .inl ⟨skips, leads_empties inside skips s⟩
  · obtain ⟨e, held, failed⟩ := leads_heldUp inside opened kept
    refine .inr ⟨before, cell, after, e, rfl, skips, kept, held, failed, ?_⟩
    rw [processCells_append]
    exact (leads_empties inside skips s).bind failed.bind_error

theorem process_opened (inside : 0 ≤ a.level ∧ a.level < p.levels) (opened : p.staged ≠ none)
    (units : List WorkUnit) :
    ((∀ cell ∈ units.flatMap WorkUnit.cells, a.Skips p cell) ∧
      (a.process units).Leads memoryPlate (OnlyLogged p) (OnlyLogged p)
        (.ok (skippedAll units))) ∨
    ∃ before cell after e, units.flatMap WorkUnit.cells = before ++ cell :: after ∧
      (∀ c ∈ before, a.Skips p c) ∧ ¬a.Skips p cell ∧ a.HeldUp p cell e ∧
      (a.processCell cell).Leads memoryPlate (OnlyLogged p) (OnlyLogged p) (.error e) ∧
      (a.process units).Leads memoryPlate (OnlyLogged p) (OnlyLogged p) (.error e) := by
  have leads_iff {r : Except Failure Summary} :
      (a.process units).Leads memoryPlate (OnlyLogged p) (OnlyLogged p) r ↔
        (a.processCells (units.flatMap WorkUnit.cells) { units := units.length }).Leads
          memoryPlate (OnlyLogged p) (OnlyLogged p) r := by
    rw [← Program.Leads.silent_iff, process_silent, Program.Leads.silent_iff]
  have cells_opened := processCells_opened (a := a) inside opened
    (units.flatMap WorkUnit.cells) { units := units.length }
  simp only [zero_add] at cells_opened
  simp only [leads_iff]
  exact cells_opened

/-! ### Passes on every plate -/

/-- On every plate distinct cells are all gone through if none of them holds up the pass, and
else the pass ends at the first one that does. -/
theorem processCells_ends (inside : 0 ≤ a.level ∧ a.level < p.levels) (units : Nat)
    (distinct : cells.Nodup) :
    ((∀ cell ∈ cells, a.Clears p cell) ∧
      ∃ total, ((a.processCells cells { units }).run memoryPlate { state := p }).1 = .ok total) ∨
    ∃ before cell after e, cells = before ++ cell :: after ∧ (∀ c ∈ before, a.Clears p c) ∧
      ¬a.Clears p cell ∧ a.HeldUp p cell e ∧
      ((a.processCells cells { units }).run memoryPlate { state := p }).1 = .error e := by
  by_cases closed : p.staged = none
  · have rests : Rests p p.tiles ({ state := p } : Session MemoryPlate).state := Rests.self closed
    obtain sound | ⟨before, cell, after, rfl, sound, unsound⟩ :=
      first_unsound (a := a) p.tiles cells
    · have settles := settles_cells (p := p) inside units distinct sound
      exact .inl ⟨fun cell member => ⟨sound cell member, .inl closed⟩, _, (settles _ rests).1⟩
    · obtain ⟨e, stops, settles⟩ :=
        settles_stopped (p := p) inside units distinct sound unsound
      exact .inr ⟨before, cell, after, e, rfl, fun c member => ⟨sound c member, .inl closed⟩,
        fun clears => stops.unsound clears.1, .inl stops, (settles _ rests).1⟩
  · have clears {c : Cell} (skips : a.Skips p c) : a.Clears p c :=
      ⟨skips.sound, .inr skips.1⟩
    obtain ⟨skips, leads⟩ | ⟨before, cell, after, e, split, skips, kept, held, _, leads⟩ :=
      processCells_opened inside closed cells { units }
    · exact .inl ⟨fun c member => clears (skips c member), _, (leads { state := p } rfl).1⟩
    · exact .inr ⟨before, cell, after, e, split, fun c member => clears (skips c member),
        held.not_clears kept, held, (leads { state := p } rfl).1⟩

/-- A logged pass over distinct cells gets to its end, to the first unit whose label cannot be
written, or to a cell before it that holds up the pass. -/
theorem processLogged_ends (inside : 0 ≤ a.level ∧ a.level < p.levels) {units : List WorkUnit}
    (distinct : (units.flatMap WorkUnit.cells).Nodup) :
    let result := ((a.processLogged units).run memoryPlate { state := p }).1
    ((∀ u ∈ units, u.Labelled) ∧ (∀ cell ∈ units.flatMap WorkUnit.cells, a.Clears p cell) ∧
      ∃ total, result = .ok total) ∨
    (∃ done unit rest, units = done ++ unit :: rest ∧ ¬unit.Labelled ∧
      (∀ cell ∈ done.flatMap WorkUnit.cells, a.Clears p cell) ∧ result = .error .unlogged) ∨
    ∃ done rest before cell after e, units = done ++ rest ∧ (∀ u ∈ done, u.Labelled) ∧
      done.flatMap WorkUnit.cells = before ++ cell :: after ∧ (∀ c ∈ before, a.Clears p c) ∧
      ¬a.Clears p cell ∧ a.HeldUp p cell e ∧ result = .error e := by
  intro result
  obtain labelled | ⟨done, unit, rest, rfl, labelled, unlabelled⟩ :=
    all_or_first WorkUnit.Labelled units
  · have ran : result = ((a.processCells (units.flatMap WorkUnit.cells)
        { units := units.length }).run memoryPlate { state := p }).1 := by
      rw [← Program.run_congr memoryPlate (process_silent units), ← processLogged_labelled labelled]
    rw [ran]
    obtain ⟨clears, ended⟩ | ⟨before, cell, after, e, split, clears, blocks, held, failed⟩ :=
      processCells_ends (a := a) inside units.length distinct
    · exact .inl ⟨labelled, clears, ended⟩
    · exact .inr (.inr ⟨units, [], before, cell, after, e, (List.append_nil _).symm, labelled,
        split, clears, blocks, held, failed⟩)
  · have ran := Program.run_congr memoryPlate
      (processLogged_unlabelled (a := a) labelled unlabelled rest) { state := p }
    rw [List.flatMap_append] at distinct
    obtain ⟨clears, total, ended⟩ | ⟨before, cell, after, e, split, clears, blocks, held, failed⟩ :=
      processCells_ends (a := a) (p := p) inside (done ++ unit :: rest).length
        (List.Nodup.of_append_left distinct)
    · rw [Program.run_bind_ok ended] at ran
      exact .inr (.inl ⟨done, unit, rest, rfl, unlabelled, clears, ran⟩)
    · rw [Program.run_bind_error failed] at ran
      exact .inr (.inr ⟨done, unit :: rest, before, cell, after, e, rfl, labelled, split, clears,
        blocks, held, ran⟩)

end TileComposite.Aggregation
