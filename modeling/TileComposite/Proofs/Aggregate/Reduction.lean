import TileComposite.Proofs.Aggregate.Conduct
import TileComposite.Proofs.Composite.Samples

/-! Reductions within an aggregation. What a cell's search, reads and checks let through to the
reducer is a stack of native tiles of one size, whatever the plate replies. Of such a stack the
reducer makes another tile of that size, unless its planes are flat. -/
namespace TileComposite
namespace Composite

/-- Tiles to reduce: there are some, all of one size and in the elements of the pixel type. -/
structure Stacked (p : PixelType) (height width : Nat) (buffers : List Buffer) : Prop where
  nonempty : buffers ≠ []
  element_eq : ∀ b ∈ buffers, b.element = p.element
  shape_eq : ∀ b ∈ buffers, b.shape = [height, width, p.channels]

variable {p : PixelType} {height width : Nat} {buffers : List Buffer}

theorem ofStack_tile (p : PixelType) (height width : Nat) (buffers : List Buffer) :
    Tile p height width (ofStack p height width buffers) := by
  refine ⟨⟨Array.size_ofFn, fun x member => ?_⟩, rfl, rfl⟩
  obtain ⟨i, rfl⟩ := Array.mem_ofFn.mp member
  dsimp only [blend]
  split <;> exact p.cast_holds _ _

theorem Stacked.reduce_eq (stacked : Stacked p height width buffers) (reducer : Reducer) :
    reducer.reduce p buffers =
      if isGrid height width then .ok (ofStack p height width buffers)
      else .error .unequalPlanes := by
  cases reducer with
  | weightedAverage => exact weightedAverage_eq stacked.nonempty stacked.shape_eq

end Composite

namespace Aggregation
open Composite (Stacked Tile)
open Program (Converses)
variable {a : Aggregation} {cell : Cell} {ids : List TileId} {xs : List Exchange}
  {stack : List Version} {buffers : List Buffer}

theorem exists_stored
    (each : List.Forall₂ (fun v b => a.pixel.validate v.buffer = .ok b) stack buffers) :
    ∀ b ∈ buffers, ∃ stored, a.pixel.validate stored = .ok b := by
  induction each with
  | nil => exact nofun
  | @cons v b _ _ accepted _ ih => exact List.forall_mem_cons.mpr ⟨⟨v.buffer, accepted⟩, ih⟩

/-- Accepted versions that agree in size are tiles to reduce. -/
theorem stacked_of_accepted (nonempty : stack ≠ [])
    (each : List.Forall₂ (fun v b => a.pixel.validate v.buffer = .ok b) stack buffers)
    (sized : sameSize cell buffers = .ok ()) :
    ∃ height width, Stacked a.pixel height width buffers := by
  have origin := exists_stored each
  have some_buffers := ne_nil_of_accepted nonempty each
  obtain ⟨first, member⟩ := List.exists_mem_of_ne_nil buffers some_buffers
  obtain ⟨stored, accepted⟩ := origin first member
  obtain ⟨same, height, width, shape⟩ := PixelType.validate_shape accepted
  refine ⟨height, width, some_buffers, fun b hb => ?_, fun b hb => ?_⟩
  · obtain ⟨_, accepted⟩ := origin b hb
    exact PixelType.validate_element accepted
  · exact ((sameSize_ok_iff cell).mp sized b hb first member).trans (same.trans shape)

/-- Whatever the plate replies, what is loaded for some records are tiles to reduce. -/
theorem stacked_of_load (some_ids : ids ≠ []) (talk : Converses (a.load cell ids) xs (.ok buffers)) :
    ∃ height width, Stacked a.pixel height width buffers := by
  obtain ⟨_, same, _⟩ | ⟨_, loaded, _, _, reads, rest⟩ := talk.of_bind
  · cases same
  obtain ⟨stack, _, follows, all, _, passed, same⟩ | ⟨_, _, same⟩ := converses_readVersions reads
  · cases same
    obtain ⟨_, same, _⟩ | ⟨_, _, _, _, sized, last⟩ := rest.of_bind
    · cases same
    cases last
    -- The buffers are those of the stack that was read, in its order.
    obtain ⟨_, passed', each⟩ := accepted_ok cell all
    cases passed.symm.trans passed'
    exact stacked_of_accepted (follows.nonempty some_ids) each sized.of_ofExcept.2.symm
  · cases same

/-- Processing a cell comes to the reducer with the buffers of the records, in the session
`after`: the search found the records, and all of them could be loaded. -/
def Reaches {σ : Type} (a : Aggregation) (plate : Plate σ) (cell : Cell) (before : Session σ)
    (ids : List TileId) (buffers : List Buffer) (after : Session σ) : Prop :=
  ids ≠ [] ∧ ∃ found, (a.query cell).run plate before = (.ok ids, found) ∧
    (a.load cell ids).run plate found = (.ok buffers, after)

variable {σ : Type} {plate : Plate σ} {before after : Session σ}

theorem Reaches.stacked (reaches : a.Reaches plate cell before ids buffers after) :
    ∃ height width, Stacked a.pixel height width buffers := by
  obtain ⟨some_ids, found, _, loaded⟩ := reaches
  have talk := Program.converses_run plate (a.load cell ids) found
  rw [loaded] at talk
  exact stacked_of_load some_ids talk

theorem run_found {found : Session σ} (some_ids : ids ≠ [])
    (searched : (a.query cell).run plate before = (.ok ids, found)) :
    (a.processCell cell).run plate before = ((a.load cell ids).bind fun buffers =>
      (Program.ofExcept (a.reducer.reduce a.pixel buffers)).bind fun composite =>
        (a.commit cell composite).bind fun _ => .done ids.length).run plate found := by
  have some_found : ¬ids.isEmpty = true := fun empty => some_ids (List.isEmpty_iff.mp empty)
  rw [processCell_eq, Program.run_bind, searched]
  dsimp only
  rw [if_neg some_found, Program.bind_assoc, Program.bind_assoc]

/-- From the reducer on, a cell is reduced and committed. -/
theorem Reaches.run_eq (reaches : a.Reaches plate cell before ids buffers after) :
    (a.processCell cell).run plate before =
      ((Program.ofExcept (a.reducer.reduce a.pixel buffers)).bind fun composite =>
        (a.commit cell composite).bind fun _ => .done ids.length).run plate after := by
  obtain ⟨some_ids, found, searched, loaded⟩ := reaches
  rw [run_found some_ids searched, Program.run_bind, loaded]

/-- A cell that does not come to the reducer is skipped, or has the failure of its search and
reads alone. -/
theorem run_unreached (unreached : ∀ ids buffers after, ¬a.Reaches plate cell before ids buffers after) :
    (∃ t, (a.query cell).run plate before = (.ok [], t) ∧
      (a.processCell cell).run plate before = (.ok 0, t)) ∨
    ∃ e t, ((a.query cell).bind (a.load cell)).run plate before = (.error e, t) ∧
      (a.processCell cell).run plate before = (.error e, t) := by
  rw [Program.run_bind]
  rcases searched : (a.query cell).run plate before with ⟨e | ids, found⟩
  · refine .inr ⟨e, found, rfl, ?_⟩
    rw [processCell_eq, Program.run_bind, searched]
  by_cases empty : ids = []
  · subst empty
    refine .inl ⟨found, rfl, ?_⟩
    rw [processCell_eq, Program.run_bind, searched]
    rfl
  · rcases loaded : (a.load cell ids).run plate found with ⟨e | buffers, after⟩
    · refine .inr ⟨e, after, loaded, ?_⟩
      rw [run_found empty searched, Program.run_bind, loaded]
    · exact absurd ⟨empty, found, searched, loaded⟩ (unreached ids buffers after)

/-- The reducer is handed a stack of native tiles of one size, and cannot fail on it unless the
tiles are flat. Its composite is a tile of that size, which reading it back keeps as it is, and
all that is left of the cell is to commit it. -/
theorem processCell_reduces {σ : Type} (plate : Plate σ) (a : Aggregation) (cell : Cell)
    (before after : Session σ) (ids : List TileId) (buffers : List Buffer)
    (reaches : a.Reaches plate cell before ids buffers after) :
    ∃ height width, Stacked a.pixel height width buffers ∧
      (¬(height = 0 ∧ 1 < width) → ∃ composite,
        a.reducer.reduce a.pixel buffers = .ok composite ∧
        Tile a.pixel height width composite ∧ a.pixel.validate composite = .ok composite ∧
        (a.processCell cell).run plate before =
          ((a.commit cell composite).bind fun _ => .done ids.length).run plate after) ∧
      (height = 0 ∧ 1 < width →
        a.reducer.reduce a.pixel buffers = .error .unequalPlanes ∧
        (a.processCell cell).run plate before = (.error .unequalPlanes, after)) := by
  obtain ⟨height, width, stacked⟩ := reaches.stacked
  have reduced := stacked.reduce_eq a.reducer
  have run := reaches.run_eq
  refine ⟨height, width, stacked, fun solid => ?_, fun flat => ?_⟩
  · rw [if_pos (Composite.isGrid_iff.mpr solid)] at reduced
    rw [reduced] at run
    have tile := Composite.ofStack_tile a.pixel height width buffers
    exact ⟨_, reduced, tile, tile.validate_eq, run⟩
  · rw [if_neg fun grid => Composite.isGrid_iff.mp grid flat] at reduced
    rw [reduced] at run
    exact ⟨reduced, run⟩

/-- A narrow tile below a native one. -/
theorem processCell_reduces_narrow :
    let p : MemoryPlate := {
      levels := 1, format := .member .graya, channel := .member .int16,
      tiles := TileMap.apply ∅
        [(⟨0, 0, 0, 1⟩, ⟨.int8, [1, 1, 2], #[.finite (-5), .finite 1]⟩),
          (⟨0, 0, 0, 2⟩, ⟨.int16, [1, 1, 2], #[.finite 300, .finite 4]⟩)] }
    let a : Aggregation := ⟨⟨.graya, .int16⟩, .weightedAverage, 0, 0, 5, 9⟩
    ∃ ids buffers after composite,
      a.Reaches memoryPlate ⟨0, 0⟩ { state := p } ids buffers after ∧
      a.reducer.reduce a.pixel buffers = .ok composite ∧
      Tile a.pixel 1 1 composite ∧ a.pixel.validate composite = .ok composite := by
  intro p a
  let ids : List TileId := [⟨0, 0, 0, 1⟩, ⟨0, 0, 0, 2⟩]
  let buffers : List Buffer :=
    [⟨.int16, [1, 1, 2], #[.finite (-5), .finite 1]⟩,
      ⟨.int16, [1, 1, 2], #[.finite 300, .finite 4]⟩]
  let found := ((a.query ⟨0, 0⟩).run memoryPlate { state := p }).2
  let after := ((a.load ⟨0, 0⟩ ids).run memoryPlate found).2
  have reaches : a.Reaches memoryPlate ⟨0, 0⟩ { state := p } ids buffers after :=
    ⟨List.cons_ne_nil _ _, found, Prod.ext (by decide +kernel) rfl,
      Prod.ext (by decide +kernel) rfl⟩
  obtain ⟨height, width, stacked, reduces, _⟩ :=
    processCell_reduces memoryPlate a ⟨0, 0⟩ { state := p } after ids buffers reaches
  obtain ⟨rfl, rfl, _⟩ : 1 = height ∧ 1 = width ∧ 2 = a.pixel.channels := by
    simpa using stacked.shape_eq _ List.mem_cons_self
  obtain ⟨composite, reduced, tile, kept, _⟩ := reduces (by decide)
  exact ⟨ids, buffers, after, composite, reaches, reduced, tile, kept⟩

/-- A flat tile is accepted and comes to the reducer, which fails. -/
theorem flat_tile_unreduced :
    let tile : Buffer := ⟨.uint8, [0, 3, 2], #[]⟩
    let p : MemoryPlate := {
      levels := 1, format := .member .graya, channel := .member .uint8,
      tiles := TileMap.apply ∅ [(⟨0, 0, 0, 1⟩, tile)] }
    let a : Aggregation := ⟨⟨.graya, .uint8⟩, .weightedAverage, 0, 0, 5, 9⟩
    (∃ after, a.Reaches memoryPlate ⟨0, 0⟩ { state := p } [⟨0, 0, 0, 1⟩] [tile] after) ∧
      a.reducer.reduce a.pixel [tile] = .error .unequalPlanes ∧
      ((a.processCell ⟨0, 0⟩).run memoryPlate { state := p }).1 = .error .unequalPlanes := by
  intro tile p a
  let found := ((a.query ⟨0, 0⟩).run memoryPlate { state := p }).2
  let after := ((a.load ⟨0, 0⟩ [⟨0, 0, 0, 1⟩]).run memoryPlate found).2
  refine ⟨⟨after, List.cons_ne_nil _ _, found, Prod.ext ?_ rfl, Prod.ext ?_ rfl⟩, ?_, ?_⟩ <;>
    decide +kernel

end Aggregation
end TileComposite
