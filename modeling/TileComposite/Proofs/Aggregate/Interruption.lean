import TileComposite.Proofs.Aggregate.Passes

/-! What a failing pass leaves behind. Every cell before the one that fails is written as
by a pass over those cells alone, nothing else changes and no write stays open. The
failure is one of the plate and blames the first versions that disagree, except where
flat tiles that agree are met before them, or an integer that cannot be written. -/
namespace TileComposite
namespace Aggregation
variable {a : Aggregation} {p left : MemoryPlate} {cell : Cell} {before after : List Cell}
  {initial : TileMap} {e : Failure}

/-- The failure `e` ended a pass at a cell, and left the plate with the work on the cells
before it. -/
structure Interrupted (a : Aggregation) (p : MemoryPlate) (before : List Cell) (cell : Cell)
    (after : List Cell) (e : Failure) (left : MemoryPlate) : Prop where
  agreed : ∀ earlier ∈ before, Agrees a.pixel (a.stack p.tiles earlier)
  blamed : e.category = .store → Blames a.pixel cell (a.stack p.tiles cell) e
  other : e.category ≠ .store →
    (Agrees a.pixel (a.stack p.tiles cell) ∧ Flat (a.stack p.tiles cell) ∧ e = .unequalPlanes) ∨
    ¬e.isLegible = true ∧ (Blames a.pixel cell (a.stack p.tiles cell) e ∨
      a.stack p.tiles cell = [] ∧ e = a.missing cell)
  passed : ∃ s, ((a.processCells before {}).run memoryPlate { state := p }).1 = .ok s
  tiles_eq :
    left.tiles = ((a.processCells before {}).run memoryPlate { state := p }).2.state.tiles
  untouched : ∀ id : TileId, id.cell ∈ cell :: after → left.tiles[id]? = p.tiles[id]?
  closed : left.staged = none

/-- If the cell has no composite, a failure of the plate says why: its versions are not flat tiles
that agree, and what is to be said can be written. -/
structure Answerable (a : Aggregation) (tiles : TileMap) (cell : Cell) : Prop where
  solid : Agrees a.pixel (a.stack tiles cell) → ¬Flat (a.stack tiles cell)
  searchable : a.stack tiles cell = [] → a.Searchable cell
  legible : ∀ e, Blames a.pixel cell (a.stack tiles cell) e → e.isLegible = true

theorem Sound.answerable (sound : a.Sound initial cell) : a.Answerable initial cell :=
  ⟨fun _ => sound.solid, sound.searchable, fun _ blamed => absurd sound.agrees blamed.disagrees⟩

namespace Stops

theorem blames (stops : a.Stops initial cell e) (store : e.category = .store) :
    Blames a.pixel cell (a.stack initial cell) e := by
  cases stops with
  | blamed blamed => exact blamed
  | flat => contradiction
  | missing => exact nomatch Failure.kind_eq store

theorem other (stops : a.Stops initial cell e) (other : e.category ≠ .store) :
    (Agrees a.pixel (a.stack initial cell) ∧ Flat (a.stack initial cell) ∧ e = .unequalPlanes) ∨
    ¬e.isLegible = true ∧ (Blames a.pixel cell (a.stack initial cell) e ∨
      a.stack initial cell = [] ∧ e = a.missing cell) := by
  cases stops with
  | blamed blamed => exact .inr ⟨mt blamed.category_iff.mpr other, .inl blamed⟩
  | flat agrees flat => exact .inl ⟨agrees, flat, rfl⟩
  | missing empty untold => exact .inr ⟨mt legible_missing.mp untold, .inr ⟨empty, rfl⟩⟩

/-- A cell is stopped by a failure of the plate just when it is answerable. -/
theorem store_iff (stops : a.Stops initial cell e) :
    e.category = .store ↔ a.Answerable initial cell := by
  constructor
  · intro store
    have blamed := stops.blames store
    have disagrees := blamed.disagrees
    exact ⟨fun agrees => absurd agrees disagrees,
      fun empty => absurd (agrees_of_empty empty) disagrees,
      fun e' blamed' => (blamed.legible_iff blamed').mp (blamed.category_iff.mp store)⟩
  · intro answerable
    cases stops with
    | blamed blamed => exact blamed.category_iff.mpr (answerable.legible e blamed)
    | flat agrees flat => exact absurd flat (answerable.solid agrees)
    | missing empty untold => exact absurd (answerable.searchable empty) untold

end Stops

theorem interrupted (closed : p.staged = none) (inside : 0 ≤ a.level ∧ a.level < p.levels)
    (distinct : (before ++ cell :: after).Nodup) (sound : ∀ c ∈ before, a.Sound p.tiles c)
    (stops : a.Stops p.tiles cell e) (rests : Rests p (a.composited p.tiles before) left) :
    Interrupted a p before cell after e left := by
  obtain ⟨passed, restsBefore⟩ :=
    settles_cells inside 0 (List.Nodup.of_append_left distinct) sound { state := p }
      (Rests.self closed)
  refine ⟨fun c member => (sound c member).agrees, stops.blames, stops.other, ⟨_, passed⟩,
    rests.tiles_eq.trans restsBefore.tiles_eq.symm, ?_, rests.closed⟩
  intro id later
  have apart : id.cell ∉ before := fun earlier =>
    List.disjoint_of_nodup_append distinct earlier later
  rw [rests.tiles_eq, getElem?_composited, if_neg fun ⟨_, _, member⟩ => apart member]

/-- A pass over distinct cells succeeds, or ends at the first cell that is not sound. -/
theorem process_cases (closed : p.staged = none) (inside : 0 ≤ a.level ∧ a.level < p.levels)
    {units : List WorkUnit} (distinct : (units.flatMap WorkUnit.cells).Nodup) :
    ((∀ cell ∈ units.flatMap WorkUnit.cells, a.Sound p.tiles cell) ∧
      ∃ s, ((a.process units).run memoryPlate { state := p }).1 = .ok s) ∨
    ∃ before cell after e, units.flatMap WorkUnit.cells = before ++ cell :: after ∧
      (∀ c ∈ before, a.Sound p.tiles c) ∧ a.Stops p.tiles cell e ∧
      ((a.process units).run memoryPlate { state := p }).1 = .error e ∧
      Interrupted a p before cell after e
        ((a.process units).run memoryPlate { state := p }).2.state := by
  obtain sound | ⟨before, cell, after, split, sound, unsound⟩ :=
    first_unsound p.tiles (units.flatMap WorkUnit.cells)
  · have fromNothing : ([] ++ units.flatMap WorkUnit.cells).Nodup := distinct
    have settles := settles_process (p := p) inside fromNothing sound
    exact .inl ⟨sound, _, (settles { state := p } (Rests.self closed)).1⟩
  · obtain ⟨e, stops, settles⟩ := settles_process_stopped inside distinct split sound unsound
    obtain ⟨result, rests⟩ := settles { state := p } (Rests.self closed)
    exact .inr ⟨before, cell, after, e, split, sound, stops, result,
      interrupted closed inside (split ▸ distinct) sound stops rests⟩

/-- A failing pass works off the cells before the one that fails, and nothing else; it
fails if versions of some cell disagree. All its failures are failures of the plate just
when the first cell that is not sound is answerable. -/
theorem process_interrupted (closed : p.staged = none)
    (inside : 0 ≤ a.level ∧ a.level < p.levels) {units : List WorkUnit}
    (distinct : (units.flatMap WorkUnit.cells).Nodup) :
    (∀ e, ((a.process units).run memoryPlate { state := p }).1 = .error e →
      ∃ before cell after, units.flatMap WorkUnit.cells = before ++ cell :: after ∧
        Interrupted a p before cell after e
          ((a.process units).run memoryPlate { state := p }).2.state) ∧
    (∀ cell ∈ units.flatMap WorkUnit.cells, ¬Agrees a.pixel (a.stack p.tiles cell) →
      ∃ e, ((a.process units).run memoryPlate { state := p }).1 = .error e) ∧
    ((∀ e, ((a.process units).run memoryPlate { state := p }).1 = .error e → e.category = .store) ↔
      ∀ before cell after, units.flatMap WorkUnit.cells = before ++ cell :: after →
        (∀ c ∈ before, a.Sound p.tiles c) → a.Answerable p.tiles cell) := by
  obtain ⟨sound, s, result⟩ | ⟨before, cell, after, e, split, sound, stops, result, ended⟩ :=
    process_cases closed inside distinct
  · refine ⟨?_, ?_, ?_⟩
    · intro e failed
      rw [result] at failed
      contradiction
    · intro cell member disagrees
      exact absurd (sound cell member).agrees disagrees
    · refine ⟨fun _ before cell after split _ => ?_, fun _ e failed => ?_⟩
      · exact (sound cell (split ▸ List.mem_append_right _ List.mem_cons_self)).answerable
      · rw [result] at failed
        contradiction
  · refine ⟨?_, fun _ _ _ => ⟨e, result⟩, ?_⟩
    · intro e' failed
      cases Except.error.inj (result.symm.trans failed)
      exact ⟨before, cell, after, split, ended⟩
    · refine ⟨fun store before' cell' after' split' sound' => ?_, fun first e' failed => ?_⟩
      · obtain reached | passed := mem_of_split (split.symm.trans split')
        · obtain earlier | here := List.mem_append.mp reached
          · exact absurd (sound' cell earlier) stops.unsound
          · cases List.mem_singleton.mp here
            exact stops.store_iff.mp (store e result)
        · exact (sound cell' passed).answerable
      · cases Except.error.inj (result.symm.trans failed)
        exact stops.store_iff.mpr (first before cell after split sound)

/-- The second of four cells has versions of two sizes, and the first keeps its composite. -/
theorem process_interrupted_unequal :
    let tile (height : Nat) : Buffer :=
      ⟨.uint8, [height, 1, 4], .replicate (height * 4) (.finite 1)⟩
    let p : MemoryPlate := {
      levels := 2, format := .member .rgba, channel := .member .uint8,
      tiles := TileMap.apply ∅
        [(⟨1, 0, 0, 3⟩, tile 1), (⟨1, 0, 1, 3⟩, tile 1), (⟨1, 0, 1, 4⟩, tile 2)] }
    let a : Aggregation := ⟨⟨.rgba, .uint8⟩, .weightedAverage, 1, 0, 5, 4⟩
    let units : List WorkUnit := [⟨1, 0, 0, 2, 2, by decide, by decide⟩]
    ∃ e before cell after, ((a.process units).run memoryPlate { state := p }).1 = .error e ∧
      units.flatMap WorkUnit.cells = before ++ cell :: after ∧
      Interrupted a p before cell after e
        ((a.process units).run memoryPlate { state := p }).2.state := by
  intro tile p a units
  have distinct : (units.flatMap WorkUnit.cells).Nodup := by decide
  obtain ⟨left, raised, _⟩ := process_interrupted (a := a) (p := p) rfl (by decide) distinct
  have stack : a.stack p.tiles ⟨0, 1⟩ = [⟨3, tile 1⟩, ⟨4, tile 2⟩] := by decide +kernel
  have disagrees : ¬Agrees a.pixel (a.stack p.tiles ⟨0, 1⟩) := fun agrees =>
    absurd (agrees.same_shape ⟨3, tile 1⟩ (by rw [stack]; decide) ⟨4, tile 2⟩ (by rw [stack]; decide))
      (by decide)
  obtain ⟨e, failed⟩ := raised ⟨0, 1⟩ (by decide) disagrees
  obtain ⟨before, cell, after, split, ended⟩ := left e failed
  exact ⟨e, before, cell, after, failed, split, ended⟩

/-- A tile without rows is accepted, and ends a pass with no failure of the plate. -/
theorem flat_tile_not_store :
    let p : MemoryPlate := {
      levels := 1, format := .member .graya, channel := .member .uint8,
      tiles := TileMap.apply ∅ [(⟨0, 0, 0, 1⟩, ⟨.uint8, [0, 3, 2], #[]⟩)] }
    let a : Aggregation := ⟨⟨.graya, .uint8⟩, .weightedAverage, 0, 0, 5, 9⟩
    let units : List WorkUnit := [⟨0, 0, 0, 1, 1, by decide, by decide⟩]
    p.staged = none ∧ (0 ≤ a.level ∧ a.level < p.levels) ∧
      (units.flatMap WorkUnit.cells).Nodup ∧
      (∀ cell ∈ units.flatMap WorkUnit.cells, Agrees a.pixel (a.stack p.tiles cell)) ∧
      ∃ e, ((a.process units).run memoryPlate { state := p }).1 = .error e ∧
        e.category.isStore = false := by
  intro p a units
  have stack : a.stack p.tiles ⟨0, 0⟩ = [⟨1, ⟨.uint8, [0, 3, 2], #[]⟩⟩] := by decide +kernel
  have ended : ((a.process units).run memoryPlate { state := p }).1 = .error .unequalPlanes := by
    decide +kernel
  refine ⟨rfl, by decide, by decide, ?_, _, ended, rfl⟩
  intro cell member
  obtain rfl : cell = ⟨0, 0⟩ := List.mem_singleton.mp member
  rw [stack]
  refine ⟨?_, by decide⟩
  rw [List.forall_mem_singleton]
  exact ⟨_, rfl⟩

end Aggregation
end TileComposite
