import Mathlib.Data.List.Induction
import Mathlib.Tactic.Tauto
import TileComposite.Proofs.Aggregate.Stack
import TileComposite.Proofs.Plate.Sessions

/-! Reducing cells on a plate in memory. A cell's composite is stored under the output
transaction of that cell alone, so the versions that other cells have are those of the
initial tiles, wherever the output transaction lies. -/
namespace TileComposite.Aggregation
variable (a : Aggregation)

/-- The versions of a cell that are reduced. -/
def stack (tiles : TileMap) (cell : Cell) : List Version := tiles.stack a.level cell a.first a.last

/-- The composite of a cell's versions, if there are any and they have one. -/
def composite? (tiles : TileMap) (cell : Cell) : Option Buffer :=
  if a.stack tiles cell = [] then none else (a.compose cell (a.stack tiles cell)).toOption

/-- Stores a composite, if there is one. -/
def place (tiles : TileMap) (cell : Cell) (composite : Option Buffer) : TileMap :=
  match composite with
  | some b => tiles.insert (a.tile cell a.output) b
  | none => tiles

/-- The initial tiles with the composites that they give for some cells. -/
def composited (initial : TileMap) (cells : List Cell) : TileMap :=
  cells.foldl (fun tiles cell => a.place tiles cell (a.composite? initial cell)) initial

/-- The integers that tell of a search at a cell can be written. -/
def Searchable (cell : Cell) : Prop :=
  ∀ n ∈ [cell.col, cell.row, a.level, a.first, a.last], Text.Writable n

instance (cell : Cell) : Decidable (a.Searchable cell) :=
  inferInstanceAs
    (Decidable (∀ n ∈ [cell.col, cell.row, a.level, a.first, a.last], Text.Writable n))

/-- The versions of a cell have a composite, or that there are none can be told. -/
structure Sound (tiles : TileMap) (cell : Cell) : Prop where
  agrees : Agrees a.pixel (a.stack tiles cell)
  solid : ¬Flat (a.stack tiles cell)
  searchable : a.stack tiles cell = [] → a.Searchable cell

/-- That there are no versions of a cell. -/
def missing (cell : Cell) : Failure := .noTiles cell.col cell.row a.level a.first a.last

/-- The failure that the versions of a cell give rise to: the blame, or that the planes of
versions which agree cannot be accumulated, or that there are none and it cannot be told. -/
inductive Stops (tiles : TileMap) (cell : Cell) : Failure → Prop where
  | blamed {e} : Blames a.pixel cell (a.stack tiles cell) e → Stops tiles cell e
  | flat : Agrees a.pixel (a.stack tiles cell) → Flat (a.stack tiles cell) →
      Stops tiles cell .unequalPlanes
  | missing : a.stack tiles cell = [] → ¬a.Searchable cell → Stops tiles cell (a.missing cell)

variable {a} {cell : Cell} {cells cells' : List Cell} {tiles initial : TileMap}

theorem tile_eq_iff {id : TileId} {t : Int} :
    a.tile cell t = id ↔ id.level = a.level ∧ id.transaction = t ∧ id.cell = cell := by
  obtain ⟨level, col, row, transaction⟩ := id
  obtain ⟨col', row'⟩ := cell
  simp only [tile, TileId.cell, TileId.mk.injEq, Cell.mk.injEq]
  grind

theorem composited_append (initial : TileMap) (cells : List Cell) (cell : Cell) :
    a.composited initial (cells ++ [cell]) =
      a.place (a.composited initial cells) cell (a.composite? initial cell) := by
  simp only [composited, List.foldl_append, List.foldl_cons, List.foldl_nil]

theorem getElem?_place (tiles : TileMap) (cell : Cell) (composite : Option Buffer) (id : TileId) :
    (a.place tiles cell composite)[id]? =
      if a.tile cell a.output = id then composite.or tiles[id]? else tiles[id]? := by
  cases composite with
  | some b => simp only [place, TileMap.getElem?_insert, Option.some_or]
  | none => simp only [place, Option.none_or, ite_self]

/-- The composites of the cells, and the initial tiles everywhere else. -/
theorem getElem?_composited (initial : TileMap) (cells : List Cell) (id : TileId) :
    (a.composited initial cells)[id]? =
      if id.level = a.level ∧ id.transaction = a.output ∧ id.cell ∈ cells
      then (a.composite? initial id.cell).or initial[id]? else initial[id]? := by
  induction cells using List.reverseRecOn with
  | nil => simp [composited]
  | append_singleton cells cell ih =>
    rw [composited_append, getElem?_place, ih]
    by_cases here : a.tile cell a.output = id
    · obtain ⟨level, output, rfl⟩ := tile_eq_iff.mp here
      have inside : id.level = a.level ∧ id.transaction = a.output ∧ id.cell ∈ cells ++ [id.cell] :=
        ⟨level, output, List.mem_append_right _ List.mem_cons_self⟩
      rw [if_pos here, if_pos inside]
      cases a.composite? initial id.cell <;> simp
    · have elsewhere : (id.level = a.level ∧ id.transaction = a.output ∧ id.cell ∈ cells ++ [cell]) ↔
          (id.level = a.level ∧ id.transaction = a.output ∧ id.cell ∈ cells) := by
        have apart := mt tile_eq_iff.mpr here
        simp only [List.mem_append, List.mem_singleton]
        tauto
      simp only [if_neg here, elsewhere]

theorem getElem?_output (initial : TileMap) (cells : List Cell) (cell : Cell) :
    (a.composited initial cells)[a.tile cell a.output]? =
      if cell ∈ cells then (a.composite? initial cell).or initial[a.tile cell a.output]?
      else initial[a.tile cell a.output]? := by
  have here : (a.tile cell a.output).cell = cell := rfl
  rw [getElem?_composited, here]
  simp only [tile, true_and]

/-- Composites of other cells leave the versions of a cell alone. -/
theorem stack_composited (outside : cell ∉ cells) :
    a.stack (a.composited initial cells) cell = a.stack initial cell := by
  apply TileMap.stack_congr
  intro t _ _
  rw [getElem?_composited, if_neg]
  exact fun ⟨_, _, member⟩ => outside member

/-- Only the set of cells matters. -/
theorem composited_congr (same : ∀ cell, cell ∈ cells ↔ cell ∈ cells') :
    a.composited initial cells = a.composited initial cells' := by
  apply Std.ExtTreeMap.ext_getElem?
  intro id
  simp only [getElem?_composited, same]

theorem legible_missing : (a.missing cell).isLegible = true ↔ a.Searchable cell :=
  Failure.isLegible_unquoted rfl

/-- A miss is that nothing is found, just when it can be told. -/
theorem category_missing : (a.missing cell).category = .tileNotFound ↔ a.Searchable cell :=
  have plain : (a.missing cell).kind = .tileNotFound := rfl
  (Failure.category_eq_kind plain).trans legible_missing

theorem not_flat_of_empty (empty : a.stack tiles cell = []) : ¬Flat (a.stack tiles cell) := by
  rw [empty]
  nofun

theorem agrees_of_empty (empty : a.stack tiles cell = []) :
    Agrees a.pixel (a.stack tiles cell) := by
  rw [empty]
  exact ⟨nofun, nofun⟩

theorem sound_of_empty (empty : a.stack tiles cell = []) (searchable : a.Searchable cell) :
    a.Sound tiles cell :=
  ⟨agrees_of_empty empty, not_flat_of_empty empty, fun _ => searchable⟩

/-- Versions of one shape that has rows are not flat. -/
theorem sound_of_rows (height width channels : Nat) (searchable : a.Searchable cell)
    (accepted : ∀ v ∈ a.stack tiles cell, ∃ b, a.pixel.validate v.buffer = .ok b)
    (shapes : ∀ v ∈ a.stack tiles cell, v.buffer.shape = [height + 1, width, channels]) :
    a.Sound tiles cell := by
  refine ⟨⟨accepted, fun v hv w hw => (shapes v hv).trans (shapes w hw).symm⟩, ?_,
    fun _ => searchable⟩
  rintro ⟨v, member, _, _, flat, _⟩
  cases flat.symm.trans (shapes v member)

theorem Stops.unsound {e : Failure} (stops : a.Stops tiles cell e) : ¬a.Sound tiles cell := by
  intro sound
  cases stops with
  | blamed blamed => exact blamed.disagrees sound.agrees
  | flat _ flat => exact sound.solid flat
  | missing empty untold => exact untold (sound.searchable empty)

theorem compose_sound (nonempty : a.stack tiles cell ≠ []) (sound : a.Sound tiles cell) :
    ∃ b, a.compose cell (a.stack tiles cell) = .ok b ∧ a.composite? tiles cell = some b ∧
      Averages a (a.stack tiles cell) b := by
  obtain ⟨b, composed, averages⟩ := compose_averages cell nonempty sound.agrees sound.solid
  refine ⟨b, composed, ?_, averages⟩
  rw [composite?, if_neg nonempty, composed]
  rfl

theorem averages_of_composite {b : Buffer} (made : a.composite? tiles cell = some b) :
    Averages a (a.stack tiles cell) b := by
  unfold composite? at made
  split at made
  · cases made
  · rename_i nonempty
    obtain ⟨b', composed, averages⟩ | ⟨e, composed, _⟩ | ⟨composed, _⟩ :=
      compose_cases cell nonempty (a := a)
    · rw [composed] at made
      cases made
      exact averages
    · rw [composed] at made
      cases made
    · rw [composed] at made
      cases made

/-- A cell that is not sound has no versions, or none that have a composite. -/
theorem unsound_cases (unsound : ¬a.Sound tiles cell) :
    (a.stack tiles cell = [] ∧ ¬a.Searchable cell) ∨
    a.stack tiles cell ≠ [] ∧
      ∃ e, a.compose cell (a.stack tiles cell) = .error e ∧ a.Stops tiles cell e := by
  by_cases empty : a.stack tiles cell = []
  · exact .inl ⟨empty, fun searchable => unsound (sound_of_empty empty searchable)⟩
  refine .inr ⟨empty, ?_⟩
  by_cases agrees : Agrees a.pixel (a.stack tiles cell)
  · have flat : Flat (a.stack tiles cell) := by
      by_contra solid
      exact unsound ⟨agrees, solid, fun none => absurd none empty⟩
    exact ⟨_, compose_flat cell empty agrees flat, .flat agrees flat⟩
  · obtain ⟨e, failed, blamed⟩ := compose_refused cell agrees
    exact ⟨e, failed, .blamed blamed⟩

end TileComposite.Aggregation
