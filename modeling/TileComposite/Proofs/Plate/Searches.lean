import TileComposite.Proofs.Aggregate.Blocked
import TileComposite.Proofs.Plate.Transactions

/-! Searches of a plate in memory after any history. A search finds the transactions that are
stored at its cell, whatever the order in which they came there, and everything that it finds
can be read. A level outside of the plate is a failure of another kind than an empty cell, and
each is of its own kind unless the integers to tell it by are too long. -/
namespace TileComposite

open Text (Writable)

/-- A tile that has taken effect is stored at the cell, under a transaction in range. -/
def Past.Stores (past : Past) (level : Int) (cell : Cell) (first last t : Int) : Prop :=
  first ≤ t ∧ t ≤ last ∧ (past.visible ⟨level, cell.col, cell.row, t⟩).isSome

/-- The stored versions in the order of their arrival: a version that is there keeps its place
when its tile is replaced. -/
def Past.arrivals (past : Past) : List TileId :=
  (past.landed.foldl (fun ids w => ids.insert w.1) []).reverse

theorem nodup_foldl_insert {writes : List (TileId × Buffer)} {ids : List TileId}
    (distinct : ids.Nodup) : (writes.foldl (fun ids w => ids.insert w.1) ids).Nodup := by
  induction writes generalizing ids with
  | nil => exact distinct
  | cons w writes ih => exact ih distinct.insert

theorem mem_foldl_insert {writes : List (TileId × Buffer)} {ids : List TileId} {id : TileId} :
    id ∈ writes.foldl (fun ids w => ids.insert w.1) ids ↔ id ∈ writes.map (·.1) ∨ id ∈ ids := by
  induction writes generalizing ids with
  | nil => simp
  | cons w writes ih =>
    rw [List.foldl_cons, ih, List.mem_insert_iff, List.map_cons, List.mem_cons, or_left_comm,
      or_assoc]

theorem Past.nodup_arrivals (past : Past) : past.arrivals.Nodup :=
  List.nodup_reverse.mpr (nodup_foldl_insert List.nodup_nil)

theorem Past.mem_arrivals {past : Past} {id : TileId} :
    id ∈ past.arrivals ↔ (past.visible id).isSome = true := by
  rw [arrivals, List.mem_reverse, mem_foldl_insert, or_iff_left List.not_mem_nil, visible,
    ← not_iff_not, Bool.not_eq_true, Option.isSome_eq_false_iff, Option.isNone_iff_eq_none,
    List.lookup_eq_none_iff]
  simp only [List.mem_map, not_exists, not_and, List.mem_reverse, bne_iff_ne]
  exact ⟨fun absent w member same => absent w member same.symm,
    fun apart w member same => apart w member same.symm⟩

namespace Past.Finds
variable {past past' : Past} {level first last : Int} {cell : Cell} {ids ids' : List TileId}

theorem mem_iff_stores (finds : past.Finds level cell first last ids) {id : TileId} : id ∈ ids ↔
    id.level = level ∧ id.cell = cell ∧ past.Stores level cell first last id.transaction := by
  obtain ⟨l, c, r, t⟩ := id
  obtain ⟨col, row⟩ := cell
  simp only [finds.mem_iff, TileId.cell, Stores, Cell.mk.injEq]
  constructor
  · rintro ⟨rfl, rfl, rfl, stored⟩
    exact ⟨rfl, ⟨rfl, rfl⟩, stored⟩
  · rintro ⟨rfl, ⟨rfl, rfl⟩, stored⟩
    exact ⟨rfl, rfl, rfl, stored⟩

/-- Only the set of the stored transactions counts, not how it came about. -/
theorem unique (finds : past.Finds level cell first last ids)
    (finds' : past'.Finds level cell first last ids')
    (same : ∀ t, past'.Stores level cell first last t ↔ past.Stores level cell first last t) :
    ids' = ids := by
  apply eq_of_ascending finds'.ascending finds.ascending
  intro id
  rw [finds.mem_iff_stores, finds'.mem_iff_stores, same]

end Past.Finds

namespace Chronicle
variable {levels level first last : Int} {past past' : Past} {p p' : MemoryPlate} {cell : Cell}
  {exact : Bool}

/-- The integers that say why a search fails can be written. -/
structure Told (levels : Int) (past : Past) (level : Int) (cell : Cell) (first last : Int) :
    Prop where
  outside : ¬(0 ≤ level ∧ level < levels) → Writable level ∧ Writable levels
  missing : 0 ≤ level ∧ level < levels → (∀ t, ¬past.Stores level cell first last t) →
    ∀ n ∈ [cell.col, cell.row, level, first, last], Writable n

/-- The order in which the stored versions are held does not count. -/
theorem Coupled.versions_eq (h : Coupled levels ⟨past, p⟩) (level : Int) (cell : Cell)
    (first last : Int) : p.versions level cell first last =
      MemoryPlate.sorted level cell first last past.arrivals := by
  rw [MemoryPlate.versions_eq, p.sorted_eq level cell first last past.nodup_arrivals]
  intro id
  rw [Past.mem_arrivals, h.visible_eq]

end Chronicle
end TileComposite
