import Mathlib.Data.Rat.Floor
import TileComposite.Proofs.Grid.Deal

/-! The geometry of a partition. A position says which row and which column of blocks a unit
is in, so that the bounds of every unit, and the unit of every cell, can be told without the
list of units, and by every job alike. -/
namespace TileComposite

namespace BlockSize
variable {b : BlockSize} {size level : Int} {cell : Cell} {u : WorkUnit} {i : Nat}

/-- Blocks along an edge are as many as the exact quotient rounded up. -/
theorem blocksAlong_eq_ceil (b : BlockSize) (size : Int) :
    b.blocksAlong size = ⌈(size : ℚ) / b.edge⌉ := by
  have positive : (0 : ℚ) < b.edge := Int.cast_pos.mpr b.edge_pos
  apply eq_of_forall_lt_iff
  intro i
  rw [lt_blocksAlong, Int.lt_ceil, lt_div_iff₀ positive]
  exact_mod_cast Iff.rfl

theorem getElem?_starts {i : Nat} (inside : i < (b.blocksAlong size).toNat) :
    (b.starts size)[i]? = some (i * b.edge) := by
  rw [starts_eq, List.getElem?_map, List.getElem?_range inside]
  rfl

/-- No block is dropped: every start of a row has one with every start of a column. -/
theorem map_some_blocks (b : BlockSize) (size level : Int) :
    (b.blocks size level).map some = (b.starts size).flatMap fun rowMin =>
      (b.starts size).map fun colMin => b.block? size level colMin rowMin := by
  rw [blocks, List.map_flatMap]
  refine List.flatMap_congr fun rowMin row => ?_
  rw [List.map_filterMap, List.filterMap_eq_map_iff_forall_eq_some]
  intro colMin col
  have some_block : (b.block? size level colMin rowMin).isSome := block?_isSome col row
  obtain ⟨u, found⟩ := Option.isSome_iff_exists.mp some_block
  rw [found]
  rfl

/-- The block at a position is that of its row and its column of blocks. -/
theorem block?_getElem (nonneg : 0 ≤ size) {i : Nat} (inside : i < (b.blocks size level).length) :
    b.block? size level (b.edge * (i % b.blocksAlong size)) (b.edge * (i / b.blocksAlong size)) =
      some (b.blocks size level)[i] := by
  have along : ((b.blocksAlong size).toNat : Int) = b.blocksAlong size :=
    Int.toNat_of_nonneg (blocksAlong_nonneg nonneg)
  have count : i < (b.blocksAlong size).toNat * (b.blocksAlong size).toNat := by
    have counted : ((b.blocks size level).length : Int) = b.unitCount size := length_blocks nonneg
    rw [unitCount, ← along] at counted
    exact lt_of_lt_of_eq inside (by exact_mod_cast counted)
  have some_blocks : 0 < (b.blocksAlong size).toNat := Nat.pos_of_mul_pos_left (Nat.zero_lt_of_lt count)
  have row : i / (b.blocksAlong size).toNat < (b.blocksAlong size).toNat :=
    Nat.div_lt_of_lt_mul count
  have column : i % (b.blocksAlong size).toNat < (b.blocksAlong size).toNat :=
    Nat.mod_lt i some_blocks
  have found : ((b.blocks size level).map some)[i]? = some (some (b.blocks size level)[i]) := by
    rw [List.getElem?_map, List.getElem?_eq_getElem inside]
    rfl
  rw [map_some_blocks, getElem?_flatMap_map, length_starts, getElem?_starts row,
    getElem?_starts column] at found
  rw [← along, ← Int.natCast_emod, ← Int.natCast_ediv, Int.mul_comm, Int.mul_comm b.edge]
  exact Option.some.inj found

/-- The construction of the unit at a position, from its bounds alone. -/
def placed (b : BlockSize) (size level : Int) (i : Nat) : Except Failure WorkUnit :=
  let along := ⌈(size : ℚ) / b.edge⌉
  let rowMin := b.edge * (i / along)
  let colMin := b.edge * (i % along)
  WorkUnit.ofBounds level colMin rowMin (min (colMin + b.edge) size) (min (rowMin + b.edge) size)

/-- What the unit at a position of the partition is. -/
structure Located (b : BlockSize) (size level : Int) (i : Nat) (u : WorkUnit) : Prop where
  level_eq : u.level = level
  rowMin_eq : u.rowMin = b.edge * (i / ⌈(size : ℚ) / b.edge⌉)
  colMin_eq : u.colMin = b.edge * (i % ⌈(size : ℚ) / b.edge⌉)
  rowMax_eq : u.rowMax = min (u.rowMin + b.edge) size
  colMax_eq : u.colMax = min (u.colMin + b.edge) size
  cells_ne_nil : u.cells ≠ []
  constructed : b.placed size level i = .ok u

theorem ofBounds_of_block? {colMin rowMin : Int}
    (found : b.block? size level colMin rowMin = some u) :
    WorkUnit.ofBounds level colMin rowMin (min (colMin + b.edge) size) (min (rowMin + b.edge) size) =
      .ok u := by
  unfold block? at found
  split at found
  · rename_i inside
    cases found
    exact dif_pos ⟨b.start_le_min size colMin inside.1, b.start_le_min size rowMin inside.2⟩
  · contradiction

theorem cells_ne_nil_of_mem (member : u ∈ b.blocks size level) : u.cells ≠ [] := by
  obtain ⟨rowMin, row, colMin, col, found⟩ := mem_blocks.mp member
  have bounds := block?_eq found
  have col := start_nonneg col
  have row := start_nonneg row
  have positive := b.edge_pos
  have corner : (⟨colMin, rowMin⟩ : Cell) ∈ u.cells := by
    rw [WorkUnit.mem_cells]
    dsimp only
    omega
  exact List.ne_nil_of_mem corner

theorem located_getElem (nonneg : 0 ≤ size) (inside : i < (b.blocks size level).length) :
    b.Located size level i (b.blocks size level)[i] := by
  have found := block?_getElem nonneg inside
  have member : (b.blocks size level)[i] ∈ b.blocks size level := List.getElem_mem inside
  have constructed := ofBounds_of_block? found
  rw [blocksAlong_eq_ceil] at found constructed
  obtain ⟨colMin, rowMin, colMax, rowMax⟩ := block?_eq found
  exact ⟨level_of_mem_blocks member, rowMin, colMin, by rw [rowMax, rowMin], by rw [colMax, colMin],
    cells_ne_nil_of_mem member, constructed⟩

theorem Located.mem_cells_iff (located : b.Located size level i u)
    (inGrid : cell.col < size ∧ cell.row < size) : cell ∈ u.cells ↔
      cell.row / b.edge = i / ⌈(size : ℚ) / b.edge⌉ ∧
        cell.col / b.edge = i % ⌈(size : ℚ) / b.edge⌉ := by
  have positive : 0 < b.edge := b.edge_pos
  rw [WorkUnit.mem_cells, located.rowMax_eq, located.colMax_eq, located.rowMin_eq,
    located.colMin_eq, Int.ediv_eq_iff_of_pos positive, Int.ediv_eq_iff_of_pos positive,
    Int.mul_comm b.edge, Int.mul_comm b.edge]
  omega

/-- A number below a multiple is a quotient and a remainder. -/
theorem eq_mul_add_iff {along q r n : Int} (bounds : 0 ≤ r ∧ r < along) :
    q = n / along ∧ r = n % along ↔ n = q * along + r := by
  have positive : 0 < along := by omega
  rw [eq_comm, @eq_comm _ r, Int.ediv_emod_unique positive, Int.mul_comm along, Int.add_comm]
  constructor
  · rintro ⟨same, _⟩
    exact same.symm
  · rintro rfl
    exact ⟨rfl, bounds⟩

/-- A coordinate of the grid is in one of the blocks along the edge. -/
theorem div_edge_lt {n : Int} (inside : 0 ≤ n ∧ n < size) :
    0 ≤ n / b.edge ∧ n / b.edge < b.blocksAlong size := by
  have positive : 0 < b.edge := b.edge_pos
  have below : n / b.edge * b.edge ≤ n := Int.ediv_mul_le n (by omega)
  exact ⟨Int.ediv_nonneg inside.1 (by omega), lt_blocksAlong.mpr (by omega)⟩

/-- The unit of a cell is at the position of the cell's row and column of blocks. -/
theorem mem_cells_getElem_iff (nonneg : 0 ≤ size)
    (inGrid : (0 ≤ cell.col ∧ cell.col < size) ∧ 0 ≤ cell.row ∧ cell.row < size)
    (inside : i < (b.blocks size level).length) : cell ∈ (b.blocks size level)[i].cells ↔
      (i : Int) = cell.row / b.edge * ⌈(size : ℚ) / b.edge⌉ + cell.col / b.edge := by
  obtain ⟨col, row⟩ := inGrid
  have column := div_edge_lt (b := b) col
  rw [blocksAlong_eq_ceil] at column
  rw [(located_getElem nonneg inside).mem_cells_iff ⟨col.2, row.2⟩, eq_mul_add_iff column]

theorem position_lt {along row column : Int} (inRows : 0 ≤ row ∧ row < along)
    (inColumns : 0 ≤ column ∧ column < along) :
    0 ≤ row * along + column ∧ row * along + column < along * along := by
  have above : 0 ≤ row * along := Int.mul_nonneg inRows.1 (by omega)
  have next : (row + 1) * along ≤ along * along :=
    Int.mul_le_mul_of_nonneg_right (by omega) (by omega)
  rw [Int.add_mul, Int.one_mul] at next
  omega

theorem exists_position (nonneg : 0 ≤ size) (level : Int)
    (inGrid : (0 ≤ cell.col ∧ cell.col < size) ∧ 0 ≤ cell.row ∧ cell.row < size) :
    ∃ i : Nat, (i : Int) = cell.row / b.edge * ⌈(size : ℚ) / b.edge⌉ + cell.col / b.edge ∧
      i < (b.blocks size level).length := by
  obtain ⟨lower, upper⟩ := position_lt (div_edge_lt (b := b) inGrid.2) (div_edge_lt inGrid.1)
  have count : ((b.blocks size level).length : Int) = b.unitCount size := length_blocks nonneg
  rw [unitCount] at count
  rw [← blocksAlong_eq_ceil]
  exact ⟨_, Int.toNat_of_nonneg lower, by omega⟩

/-- Positions decide which units are a job's, and what they are. -/
theorem map_select {units : List WorkUnit}
    (constructed : ∀ i (inside : i < units.length), b.placed size level i = .ok units[i]) (s : Slot) :
    (s.select units).map Except.ok =
      ((List.range units.length).filter fun i : Nat => s.owns i).map (b.placed size level) := by
  have each : ∀ x ∈ units.zipIdx, Except.ok x.1 = b.placed size level x.2 := by
    rintro ⟨u, i⟩ member
    obtain ⟨inside, same⟩ := List.getElem?_eq_some_iff.mp (List.mem_zipIdx_iff_getElem?.mp member)
    exact same ▸ (constructed i inside).symm
  have positions : units.zipIdx.map Prod.snd = List.range units.length := by
    rw [List.zipIdx_map_snd, List.range_eq_range']
  rw [← positions, List.filter_map, List.map_map, Slot.select, List.map_map]
  exact List.map_congr_left fun x member => each x (List.mem_of_mem_filter member)

/-- Every position of the partition has the unit that its row and column of blocks determine,
every cell of the grid has one position, and the share of a job is told by positions alone. -/
theorem partition_geometry (nonneg : 0 ≤ size) (b : BlockSize) (level : Int) :
    ∃ units, b.partition size level = .ok units ∧
      (units.length : Int) = ⌈(size : ℚ) / b.edge⌉ * ⌈(size : ℚ) / b.edge⌉ ∧
      b.unitCount size = ⌈(size : ℚ) / b.edge⌉ * ⌈(size : ℚ) / b.edge⌉ ∧
      (∀ i (inside : i < units.length), b.Located size level i units[i]) ∧
      (∀ cell : Cell, (0 ≤ cell.col ∧ cell.col < size) ∧ 0 ≤ cell.row ∧ cell.row < size →
        ∃ i : Nat, (i : Int) = cell.row / b.edge * ⌈(size : ℚ) / b.edge⌉ + cell.col / b.edge ∧
          i < units.length ∧ ∀ j (inside : j < units.length), cell ∈ units[j].cells ↔ j = i) ∧
      ∀ s : Slot, (levelSize level = .ok size → b.unitsForSlot level s = .ok (s.select units)) ∧
        (s.select units).map Except.ok =
          ((List.range units.length).filter fun i : Nat => s.owns i).map (b.placed size level) := by
  have along := blocksAlong_eq_ceil b size
  have partitioned : b.partition size level = .ok (b.blocks size level) := partition_eq nonneg
  have count : ((b.blocks size level).length : Int) = b.unitCount size := length_blocks nonneg
  have located : ∀ i (inside : i < (b.blocks size level).length),
      b.Located size level i (b.blocks size level)[i] := fun _ => located_getElem nonneg
  refine ⟨b.blocks size level, partitioned, ?_, ?_, located, ?_, fun s => ⟨?_, ?_⟩⟩
  · rw [count, unitCount, along]
  · rw [unitCount, along]
  · intro cell inGrid
    obtain ⟨i, position, inside⟩ := exists_position (b := b) nonneg level inGrid
    refine ⟨i, position, inside, fun j inside => ?_⟩
    rw [mem_cells_getElem_iff nonneg inGrid inside, ← position, Int.natCast_inj]
  · intro sized
    rw [unitsForSlot, sized]
    change (b.partition size level >>= fun units => Except.ok (s.select units)) = _
    rw [partitioned]
    rfl
  · exact map_select (fun i inside => (located i inside).constructed) s

/-- The edge of a grid of five cells clips three of four blocks, and the cell in the last column
and the third row is in the second block. -/
theorem partition_geometry_clipped :
    let b : BlockSize := ⟨3, by decide⟩
    ∃ units, b.partition 5 7 = .ok units ∧ (units.length : Int) = 4 ∧ b.unitCount 5 = 4 ∧
      units[3]? = some ⟨7, 3, 3, 5, 5, by decide, by decide⟩ ∧
      ∀ j (inside : j < units.length), ⟨4, 2⟩ ∈ units[j].cells ↔ j = 1 := by
  intro b
  have nonneg : (0 : Int) ≤ 5 := by decide
  obtain ⟨units, partitioned, length, count, located, cells, _⟩ := partition_geometry nonneg b 7
  have along : ⌈((5 : Int) : ℚ) / b.edge⌉ = 2 := (blocksAlong_eq_ceil b 5).symm
  rw [along] at length count
  have inside : 3 < units.length := by omega
  obtain ⟨i, position, _, owns⟩ := cells ⟨4, 2⟩ (by decide)
  rw [along] at position
  obtain rfl : i = 1 := Int.ofNat.inj position
  refine ⟨units, partitioned, length, count, ?_, owns⟩
  have constructed := (located 3 inside).constructed
  rw [placed, along] at constructed
  exact (List.getElem?_eq_getElem inside).trans (congrArg some (Except.ok.inj constructed).symm)

end BlockSize
end TileComposite
