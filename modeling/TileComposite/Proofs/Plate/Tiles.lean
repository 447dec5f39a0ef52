import Mathlib.Data.List.Sort
import TileComposite.Plate.Memory

/-! Tile maps by their look-ups. The stack of a cell is what a map stores there in
a range of transactions; it is fixed by the look-ups at that cell, so that a write
at another cell leaves it alone. -/
namespace TileComposite

/-- A stored version of a cell. -/
structure Version where
  transaction : Int
  buffer : Buffer
  deriving DecidableEq

/-- The cell of a tile version. -/
def TileId.cell (id : TileId) : Cell := ⟨id.col, id.row⟩

/-- Versions of one cell are ordered by their transactions alone. -/
theorem TileId.transaction_lt {id other : TileId} (order : compare id other = .lt)
    (sameLevel : id.level = other.level) (sameCol : id.col = other.col)
    (sameRow : id.row = other.row) : id.transaction < other.transaction := by
  have unfolded : (((compare id.level other.level).then (compare id.col other.col)).then
      (compare id.row other.row)).then (compare id.transaction other.transaction) = .lt := order
  rw [sameLevel, sameCol, sameRow] at unfolded
  simpa [compare_lt_iff_lt] using unfolded

/-- A list that ascends by some number is fixed by its members. -/
theorem eq_of_ascending {α : Type} {number : α → Int} {xs ys : List α}
    (ascending : xs.Pairwise fun x y => number x < number y)
    (ascending' : ys.Pairwise fun x y => number x < number y)
    (same : ∀ x, x ∈ xs ↔ x ∈ ys) : xs = ys := by
  have apart {zs : List α} (h : zs.Pairwise fun x y => number x < number y) : zs.Nodup :=
    h.imp fun lt eq => Int.ne_of_lt lt (congrArg number eq)
  have perm := (List.perm_ext_iff_of_nodup (apart ascending) (apart ascending')).mpr same
  exact perm.eq_of_pairwise (fun x y _ _ lt gt => absurd lt (by omega)) ascending ascending'

namespace TileMap
variable {tiles : TileMap} {level first last : Int} {cell : Cell}

theorem getElem?_insert (tiles : TileMap) (id other : TileId) (b : Buffer) :
    (tiles.insert id b)[other]? = if id = other then some b else tiles[other]? := by
  rw [Std.ExtTreeMap.getElem?_insert]
  simp only [Std.LawfulEqOrd.compare_eq_iff_eq]

/-- Staged updates win over the map, and among them the last one of a version. -/
theorem getElem?_apply (tiles : TileMap) (staged : List (TileId × Buffer)) (id : TileId) :
    (tiles.apply staged)[id]? = (staged.reverse.lookup id).or tiles[id]? := by
  induction staged generalizing tiles with
  | nil => rfl
  | cons update staged ih =>
    obtain ⟨key, b⟩ := update
    have step : (tiles.apply ((key, b) :: staged))[id]? =
        (TileMap.apply (tiles.insert key b) staged)[id]? := rfl
    rw [step, ih, getElem?_insert, List.reverse_cons, List.lookup_append, Option.or_assoc]
    by_cases same : key = id
    · simp [same]
    · have other : (id == key) = false := by simpa using Ne.symm same
      simp [List.lookup_cons, same, other]

theorem apply_append (tiles : TileMap) (staged later : List (TileId × Buffer)) :
    tiles.apply (staged ++ later) = (tiles.apply staged).apply later := by
  simp only [apply, List.foldl_append]

/-- What is stored at a cell under transactions from `first` to `last`, by ascending
transaction. -/
def stack (tiles : TileMap) (level : Int) (cell : Cell) (first last : Int) : List Version :=
  tiles.toList.filterMap fun (id, b) =>
    if id.level = level ∧ id.col = cell.col ∧ id.row = cell.row
        ∧ first ≤ id.transaction ∧ id.transaction ≤ last
    then some ⟨id.transaction, b⟩ else none

theorem mem_stack {v : Version} : v ∈ tiles.stack level cell first last ↔
    first ≤ v.transaction ∧ v.transaction ≤ last ∧
      tiles[TileId.mk level cell.col cell.row v.transaction]? = some v.buffer := by
  simp only [stack, List.mem_filterMap, Prod.exists,
    Std.ExtTreeMap.mem_toList_iff_getElem?_eq_some, Option.ite_none_right_eq_some,
    Option.some.injEq]
  constructor
  · rintro ⟨id, b, stored, ⟨rfl, col, row, lower, upper⟩, rfl⟩
    exact ⟨lower, upper, by rw [← col, ← row]; exact stored⟩
  · rintro ⟨lower, upper, stored⟩
    exact ⟨_, _, stored, ⟨rfl, rfl, rfl, lower, upper⟩, rfl⟩

theorem stack_ascending (tiles : TileMap) (level : Int) (cell : Cell) (first last : Int) :
    (tiles.stack level cell first last).Pairwise fun v w => v.transaction < w.transaction := by
  refine List.Pairwise.filterMap _ ?_ (Std.ExtTreeMap.ordered_keys_toList (t := tiles))
  rintro ⟨id, b⟩ ⟨other, b'⟩ order v found w found'
  simp only [Option.ite_none_right_eq_some, Option.some.injEq] at found found'
  obtain ⟨⟨level, col, row, _⟩, rfl⟩ := found
  obtain ⟨⟨level', col', row', _⟩, rfl⟩ := found'
  exact TileId.transaction_lt order (level.trans level'.symm) (col.trans col'.symm)
    (row.trans row'.symm)

/-- The stack is the only ascending list of the stored versions in range. -/
theorem eq_stack {versions : List Version}
    (ascending : versions.Pairwise fun v w => v.transaction < w.transaction)
    (same : ∀ v, v ∈ versions ↔ v ∈ tiles.stack level cell first last) :
    versions = tiles.stack level cell first last :=
  eq_of_ascending ascending (stack_ascending tiles level cell first last) same

/-- Maps that agree on the versions of a cell have the same stack there. -/
theorem stack_congr {tiles' : TileMap}
    (agree : ∀ t, first ≤ t → t ≤ last →
      tiles[TileId.mk level cell.col cell.row t]? = tiles'[TileId.mk level cell.col cell.row t]?) :
    tiles.stack level cell first last = tiles'.stack level cell first last := by
  apply eq_stack (stack_ascending ..)
  intro v
  rw [mem_stack, mem_stack]
  refine and_congr_right fun lower => and_congr_right fun upper => ?_
  rw [agree v.transaction lower upper]

end TileMap

end TileComposite
