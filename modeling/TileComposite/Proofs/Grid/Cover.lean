import TileComposite.Grid.Partition
import TileComposite.Proofs.Grid.Enumeration

/-! The blocks of a grid. Whatever the block size, the cells of the blocks are the cells
of the grid, each of them once, so that block sizes differ in the order of cells only. -/
namespace TileComposite

namespace BlockSize
variable {b : BlockSize} {size level : Int} {cell : Cell} {u : WorkUnit}

/-- The blocks of a grid, block rows outside. -/
def blocks (b : BlockSize) (size level : Int) : List WorkUnit :=
  (b.starts size).flatMap fun rowMin =>
    (b.starts size).filterMap fun colMin => b.block? size level colMin rowMin

theorem partition_eq (nonneg : 0 ≤ size) : b.partition size level = .ok (b.blocks size level) :=
  if_neg (Int.not_lt.mpr nonneg)

/-- Blocks are counted by the starts inside the grid. -/
theorem lt_blocksAlong {i : Int} : i < b.blocksAlong size ↔ i * b.edge < size := by
  have positive : 0 < b.edge := b.edge_pos
  have below : -size / b.edge < -i ↔ -size < -(i * b.edge) := by
    rw [Int.ediv_lt_iff_lt_mul positive, Int.neg_mul]
  rw [blocksAlong, Int.fdiv_eq_ediv_of_nonneg _ (by omega)]
  omega

/-- From the start of a block on there is one for every block that is left. -/
theorem startsFrom_eq (b : BlockSize) (size : Int) (i : Nat) :
    b.startsFrom size (i * b.edge) =
      (List.range' i ((b.blocksAlong size).toNat - i)).map fun (j : Nat) => j * b.edge := by
  generalize left : (b.blocksAlong size).toNat - i = n
  induction n generalizing i with
  | zero =>
    have outside : ¬(i : Int) * b.edge < size := by
      rw [← lt_blocksAlong]
      omega
    rw [startsFrom, if_neg outside]
    rfl
  | succ n ih =>
    have inside : (i : Int) * b.edge < size := by
      rw [← lt_blocksAlong]
      omega
    have next : (i : Int) * b.edge + b.edge = (i + 1 : Nat) * b.edge := by
      rw [Int.natCast_add, Int.add_mul, Int.natCast_one, Int.one_mul]
    rw [startsFrom, if_pos inside, next, ih (i + 1) (by omega), List.range'_succ, List.map_cons]

/-- The starts are the multiples of the edge, one for every block that is counted. -/
theorem starts_eq (b : BlockSize) (size : Int) : b.starts size =
    (List.range (b.blocksAlong size).toNat).map fun (i : Nat) => i * b.edge := by
  have all := b.startsFrom_eq size 0
  rwa [Int.natCast_zero, Int.zero_mul, Nat.sub_zero, ← List.range_eq_range'] at all

theorem mem_starts {s : Int} :
    s ∈ b.starts size ↔ ∃ i : Nat, (i : Int) * b.edge = s ∧ s < size := by
  simp only [starts_eq, List.mem_map, List.mem_range]
  constructor
  · rintro ⟨i, inside, rfl⟩
    exact ⟨i, rfl, lt_blocksAlong.mp (by omega)⟩
  · rintro ⟨i, rfl, inside⟩
    exact ⟨i, by have := lt_blocksAlong.mpr inside; omega, rfl⟩

theorem start_nonneg {s : Int} (member : s ∈ b.starts size) : 0 ≤ s ∧ s < size := by
  obtain ⟨i, rfl, inside⟩ := mem_starts.mp member
  exact ⟨Int.mul_nonneg (Int.natCast_nonneg i) (by have := b.edge_pos; omega), inside⟩

/-- The last start up to a coordinate of the grid is less than a block away. -/
theorem exists_start {n : Int} (inside : 0 ≤ n ∧ n < size) :
    ∃ s ∈ b.starts size, s ≤ n ∧ n < s + b.edge := by
  have positive : 0 < b.edge := b.edge_pos
  have below : n / b.edge * b.edge ≤ n := Int.ediv_mul_le n (by omega)
  have above : n < (n / b.edge + 1) * b.edge := Int.lt_ediv_add_one_mul_self n positive
  have nonneg : 0 ≤ n / b.edge := Int.ediv_nonneg inside.1 (by omega)
  rw [Int.add_mul, Int.one_mul] at above
  refine ⟨_, mem_starts.mpr ⟨(n / b.edge).toNat, rfl, ?_⟩, ?_⟩
  · rw [Int.toNat_of_nonneg nonneg]
    omega
  · rw [Int.toNat_of_nonneg nonneg]
    exact ⟨below, above⟩

theorem starts_apart (b : BlockSize) (size : Int) :
    (b.starts size).Pairwise fun s t => s + b.edge ≤ t := by
  rw [starts_eq, List.pairwise_map]
  refine List.pairwise_lt_range.imp fun {i j} before => ?_
  have step : ((i : Int) + 1) * b.edge ≤ j * b.edge :=
    Int.mul_le_mul_of_nonneg_right (by omega) (by have := b.edge_pos; omega)
  rwa [Int.add_mul, Int.one_mul] at step

theorem block?_eq {colMin rowMin : Int} (some_block : b.block? size level colMin rowMin = some u) :
    u.colMin = colMin ∧ u.rowMin = rowMin ∧ u.colMax = min (colMin + b.edge) size ∧
      u.rowMax = min (rowMin + b.edge) size := by
  unfold block? at some_block
  split at some_block
  · cases some_block
    exact ⟨rfl, rfl, rfl, rfl⟩
  · contradiction

theorem block?_isSome {colMin rowMin : Int} (col : colMin ∈ b.starts size)
    (row : rowMin ∈ b.starts size) : (b.block? size level colMin rowMin).isSome := by
  have col := start_nonneg col
  have row := start_nonneg row
  rw [block?, dif_pos ⟨by omega, by omega⟩]
  rfl

theorem mem_blocks : u ∈ b.blocks size level ↔
    ∃ rowMin ∈ b.starts size, ∃ colMin ∈ b.starts size,
      b.block? size level colMin rowMin = some u := by
  simp only [blocks, List.mem_flatMap, List.mem_filterMap]

theorem blocks_disjoint (b : BlockSize) (size level : Int) :
    (b.blocks size level).Pairwise fun u v => List.Disjoint u.cells v.cells := by
  refine List.pairwise_flatMap.mpr ⟨fun rowMin _ => ?_, ?_⟩
  · refine List.pairwise_filterMap.mpr ((b.starts_apart size).imp fun apart u hu v hv => ?_)
    have left := block?_eq hu
    have right := block?_eq hv
    exact WorkUnit.disjoint_cells (.inl (by omega))
  · refine (b.starts_apart size).imp fun apart u hu v hv => ?_
    obtain ⟨_, _, hu⟩ := List.mem_filterMap.mp hu
    obtain ⟨_, _, hv⟩ := List.mem_filterMap.mp hv
    have left := block?_eq hu
    have right := block?_eq hv
    exact WorkUnit.disjoint_cells (.inr (by omega))

/-- No cell is in the blocks twice. -/
theorem nodup_blocks_cells (b : BlockSize) (size level : Int) :
    ((b.blocks size level).flatMap WorkUnit.cells).Nodup :=
  List.nodup_flatMap.mpr ⟨fun u _ => u.nodup_cells, b.blocks_disjoint size level⟩

/-- The cells of the blocks are those of the grid. -/
theorem mem_blocks_cells : cell ∈ (b.blocks size level).flatMap WorkUnit.cells ↔
    (0 ≤ cell.col ∧ cell.col < size) ∧ 0 ≤ cell.row ∧ cell.row < size := by
  rw [List.mem_flatMap]
  constructor
  · rintro ⟨u, member, inside⟩
    obtain ⟨rowMin, row, colMin, col, some_block⟩ := mem_blocks.mp member
    have bounds := block?_eq some_block
    have col := start_nonneg col
    have row := start_nonneg row
    rw [WorkUnit.mem_cells] at inside
    omega
  · rintro ⟨inCols, inRows⟩
    obtain ⟨colMin, col, nearCol⟩ := exists_start (b := b) inCols
    obtain ⟨rowMin, row, nearRow⟩ := exists_start (b := b) inRows
    obtain ⟨u, some_block⟩ : ∃ u, b.block? size level colMin rowMin = some u :=
      Option.isSome_iff_exists.mp (block?_isSome col row)
    have bounds := block?_eq some_block
    refine ⟨u, mem_blocks.mpr ⟨rowMin, row, colMin, col, some_block⟩, ?_⟩
    rw [WorkUnit.mem_cells]
    omega

/-- Block sizes differ in the order of cells only. -/
theorem blocks_cells_perm (b b' : BlockSize) (size level level' : Int) :
    ((b.blocks size level).flatMap WorkUnit.cells).Perm
      ((b'.blocks size level').flatMap WorkUnit.cells) := by
  refine (List.perm_ext_iff_of_nodup (nodup_blocks_cells b size level)
    (nodup_blocks_cells b' size level')).mpr fun cell => ?_
  rw [mem_blocks_cells, mem_blocks_cells]

theorem length_starts (b : BlockSize) (size : Int) :
    (b.starts size).length = (b.blocksAlong size).toNat := by
  rw [starts_eq, List.length_map, List.length_range]

theorem blocksAlong_nonneg (nonneg : 0 ≤ size) : 0 ≤ b.blocksAlong size := by
  have reached : -1 < b.blocksAlong size :=
    lt_blocksAlong.mpr (by have := b.edge_pos; omega)
  omega

/-- Blocks are as many as they are counted. -/
theorem length_blocks (nonneg : 0 ≤ size) :
    ((b.blocks size level).length : Int) = b.unitCount size := by
  have row : ∀ rowMin ∈ b.starts size,
      ((b.starts size).filterMap fun colMin => b.block? size level colMin rowMin).length =
        (b.starts size).length := fun rowMin member => by
    rw [List.length_filterMap_eq_countP, List.countP_eq_length]
    exact fun colMin col => block?_isSome col member
  rw [blocks, List.length_flatMap, List.map_congr_left row, List.map_const', List.sum_replicate_nat,
    length_starts, unitCount, Int.natCast_mul, Int.toNat_of_nonneg (blocksAlong_nonneg nonneg)]

end BlockSize
end TileComposite
