import Mathlib.Algebra.Ring.Nat
import TileComposite.Proofs.Grid.Cover
import TileComposite.Proofs.Grid.Shares

/-! Blocks dealt to jobs. The shares of all jobs cover the grid of a level exactly: every cell
is in one unit of one job, whether the block size divides the grid or not and however many
jobs there are. -/
namespace TileComposite

theorem levelSize_eq {level : Int} (nonneg : 0 ≤ level) :
    levelSize level = .ok (Nat.pow 2 level.toNat) :=
  if_neg (Int.not_lt.mpr nonneg)

theorem Slot.ofJob_eq {n : Nat} (j : Fin n) : Slot.ofJob j n = .ok (Slot.part j) := by
  have some_job : ¬(n : Int) < 1 := Int.not_lt.mpr (one_le_parts j)
  rw [ofJob, if_neg some_job, dif_pos ⟨part_nonneg j, part_lt j⟩]
  rfl

namespace BlockSize
variable {b : BlockSize} {size level : Int} {cell : Cell} {u : WorkUnit} {n : Nat}

theorem unitsForSlot_eq (nonneg : 0 ≤ level) (s : Slot) :
    b.unitsForSlot level s = .ok (s.select (b.blocks (Nat.pow 2 level.toNat) level)) := by
  have size : (0 : Int) ≤ Nat.pow 2 level.toNat := Int.natCast_nonneg _
  rw [unitsForSlot, levelSize_eq nonneg]
  change (b.partition (Nat.pow 2 level.toNat) level >>= fun units =>
    Except.ok (s.select units)) = _
  rw [partition_eq size]
  rfl

theorem level_of_mem_blocks (member : u ∈ b.blocks size level) : u.level = level := by
  obtain ⟨rowMin, _, colMin, _, some_block⟩ := mem_blocks.mp member
  unfold block? at some_block
  split at some_block
  · cases some_block
    rfl
  · contradiction

/-- Each cell of the grid is visited once by all jobs together, and no other cell is. -/
theorem count_shares (pos : 0 < n) (b : BlockSize) (size level : Int) (cell : Cell) :
    ((List.finRange n).flatMap fun j =>
        ((Slot.part j).select (b.blocks size level)).flatMap WorkUnit.cells).count cell =
      if (0 ≤ cell.col ∧ cell.col < size) ∧ 0 ≤ cell.row ∧ cell.row < size then 1 else 0 := by
  have dealt := (Slot.flatMap_select_perm pos (b.blocks size level)).flatMap_right WorkUnit.cells
  rw [List.flatMap_assoc] at dealt
  rw [dealt.count_eq, (nodup_blocks_cells b size level).count]
  simp only [mem_blocks_cells]

/-- The shares of all jobs have as many units as the grid has blocks. -/
theorem sum_length_shares (pos : 0 < n) (b : BlockSize) (nonneg : 0 ≤ size) (level : Int) :
    ((((List.finRange n).map fun j =>
        ((Slot.part j).select (b.blocks size level)).length).sum : Nat) : Int) =
      b.unitCount size := by
  have dealt := (Slot.flatMap_select_perm pos (b.blocks size level)).length_eq
  rw [List.length_flatMap] at dealt
  rw [dealt, length_blocks nonneg]

/-- Jobs that deal the blocks of a level among themselves cover its grid exactly. -/
theorem shares_cover (nonneg : 0 ≤ level) (b : BlockSize) (pos : 0 < n) :
    ∃ (size : Int) (shares : Fin n → List WorkUnit),
      levelSize level = .ok size ∧ size = Nat.pow 2 level.toNat ∧
      (∀ j : Fin n, (Slot.ofJob j n >>= b.unitsForSlot level) = .ok (shares j)) ∧
      (∀ cell, ((List.finRange n).flatMap fun j => (shares j).flatMap WorkUnit.cells).count cell =
        if (0 ≤ cell.col ∧ cell.col < size) ∧ 0 ≤ cell.row ∧ cell.row < size then 1 else 0) ∧
      (∀ j, ∀ u ∈ shares j, u.level = level) ∧
      ((((List.finRange n).map fun j => (shares j).length).sum : Nat) : Int) =
        b.unitCount size := by
  refine ⟨Nat.pow 2 level.toNat,
    fun j => (Slot.part j).select (b.blocks (Nat.pow 2 level.toNat) level),
    levelSize_eq nonneg, rfl, ?_, ?_, ?_, ?_⟩
  · intro j
    rw [Slot.ofJob_eq]
    exact unitsForSlot_eq nonneg (Slot.part j)
  · exact count_shares pos b _ level
  · intro j u member
    exact level_of_mem_blocks ((Slot.select_sublist _ _).subset member)
  · exact sum_length_shares pos b (Int.natCast_nonneg _) level

/-- Five jobs share four blocks, three of which the edge of the grid clips. -/
theorem shares_cover_clipped :
    let b : BlockSize := ⟨3, by decide⟩
    ∃ shares : Fin 5 → List WorkUnit,
      (∀ j : Fin 5, (Slot.ofJob j 5 >>= b.unitsForSlot 2) = .ok (shares j)) ∧
      ((List.finRange 5).flatMap fun j => (shares j).flatMap WorkUnit.cells).count ⟨3, 2⟩ = 1 ∧
      ((List.finRange 5).flatMap fun j => (shares j).flatMap WorkUnit.cells).count ⟨4, 2⟩ = 0 ∧
      ((List.finRange 5).map fun j => (shares j).length).sum = 4 := by
  intro b
  have nonneg : (0 : Int) ≤ 2 := by decide
  have pos : 0 < 5 := by decide
  obtain ⟨size, shares, _, rfl, dealt, once, _, units⟩ := shares_cover nonneg b pos
  exact ⟨shares, dealt, once ⟨3, 2⟩, once ⟨4, 2⟩, Int.ofNat.inj units⟩

end BlockSize
end TileComposite
