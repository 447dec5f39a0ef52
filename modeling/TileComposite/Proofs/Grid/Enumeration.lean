import Mathlib.Data.List.Nodup
import Mathlib.Data.Prod.Lex
import TileComposite.Grid.Unit

/-! The cells of a unit as a list. They come column by column, each column from its first row on,
so that the bounds alone tell which cells there are, how many, in which order and at which place,
for empty ranges and for negative bounds too. -/
namespace TileComposite

/-- A list laid out row by row: the position is the row's number and the number in the row. -/
theorem getElem?_flatMap_map {α β γ : Type} (rows : List α) (columns : List β) (f : α → β → γ)
    (i : Nat) : (rows.flatMap fun x => columns.map (f x))[i]? =
      rows[i / columns.length]?.bind fun x => columns[i % columns.length]?.map (f x) := by
  obtain rfl | positive := Nat.eq_zero_or_pos columns.length |>.imp_left List.eq_nil_of_length_eq_zero
  · simp
  induction rows generalizing i with
  | nil => rfl
  | cons x rows ih =>
    rw [List.flatMap_cons]
    by_cases first : i < columns.length
    · rw [List.getElem?_append_left (by rwa [List.length_map]), Nat.div_eq_of_lt first,
        Nat.mod_eq_of_lt first, List.getElem?_map]
      rfl
    · have beyond : columns.length ≤ i := Nat.not_lt.mp first
      rw [List.getElem?_append_right (by rwa [List.length_map]), List.length_map, ih,
        ← Nat.mod_eq_sub_mod beyond, Nat.div_eq_sub_div positive beyond]
      rfl

namespace WorkUnit
variable {u v : WorkUnit} {cell : Cell} {low high n level colMin rowMin colMax rowMax : Int}

/-! ### One range -/

theorem mem_span : n ∈ span low high ↔ low ≤ n ∧ n < high := by
  simp only [span, List.mem_map, List.mem_range]
  constructor
  · rintro ⟨i, _, rfl⟩
    omega
  · intro between
    exact ⟨(n - low).toNat, by omega, by omega⟩

theorem span_ascending (low high : Int) : (span low high).Pairwise (· < ·) := by
  rw [span, List.pairwise_map]
  refine List.pairwise_lt_range.imp fun {i j} before => ?_
  exact Int.add_lt_add_left (Int.ofNat_lt.mpr before) low

theorem length_span (low high : Int) : (span low high).length = (high - low).toNat := by
  rw [span, List.length_map, List.length_range]

theorem getElem?_span {i : Nat} (inside : i < (high - low).toNat) :
    (span low high)[i]? = some (low + i) := by
  rw [span, List.getElem?_map, List.getElem?_range inside]
  rfl

/-! ### Columns of rows -/

theorem mem_cells : cell ∈ u.cells ↔
    (u.colMin ≤ cell.col ∧ cell.col < u.colMax) ∧ u.rowMin ≤ cell.row ∧ cell.row < u.rowMax := by
  simp only [cells, List.mem_flatMap, List.mem_map, mem_span]
  constructor
  · rintro ⟨col, inCols, row, inRows, rfl⟩
    exact ⟨inCols, inRows⟩
  · rintro ⟨inCols, inRows⟩
    exact ⟨cell.col, inCols, cell.row, inRows, rfl⟩

/-- Inside a column the rows grow, and from one column to the next the column does. -/
theorem cells_ascending (u : WorkUnit) :
    u.cells.Pairwise fun a b => toLex (a.col, a.row) < toLex (b.col, b.row) := by
  refine List.pairwise_flatMap.mpr ⟨fun col _ => ?_, ?_⟩
  · rw [List.pairwise_map]
    refine (span_ascending _ _).imp fun below => ?_
    exact Prod.Lex.toLex_lt_toLex.mpr (.inr ⟨rfl, below⟩)
  · refine (span_ascending _ _).imp fun before a inLeft b inRight => ?_
    obtain ⟨_, _, rfl⟩ := List.mem_map.mp inLeft
    obtain ⟨_, _, rfl⟩ := List.mem_map.mp inRight
    exact Prod.Lex.toLex_lt_toLex.mpr (.inl before)

theorem nodup_cells (u : WorkUnit) : u.cells.Nodup := by
  refine u.cells_ascending.imp fun before same => ?_
  subst same
  exact lt_irrefl _ before

/-- Units side by side or one above the other share no cell. -/
theorem disjoint_cells (apart : u.colMax ≤ v.colMin ∨ u.rowMax ≤ v.rowMin) :
    List.Disjoint u.cells v.cells := by
  intro cell inLeft inRight
  rw [mem_cells] at inLeft inRight
  omega

theorem length_cells (u : WorkUnit) : u.cells.length = u.width.toNat * u.height.toNat := by
  rw [cells, List.length_flatMap]
  simp only [List.length_map]
  rw [List.map_const', List.sum_replicate_nat, length_span, length_span]
  rfl

theorem toNat_width (u : WorkUnit) : (u.width.toNat : Int) = u.width :=
  Int.toNat_of_nonneg (Int.sub_nonneg.mpr u.cols_ordered)

theorem toNat_height (u : WorkUnit) : (u.height.toNat : Int) = u.height :=
  Int.toNat_of_nonneg (Int.sub_nonneg.mpr u.rows_ordered)

/-- The place of a cell is its column's number and its row's number in the column. -/
theorem getElem_cells (u : WorkUnit) {i : Nat} (inside : i < u.cells.length) :
    u.cells[i] = ⟨u.colMin + i / u.height, u.rowMin + i % u.height⟩ := by
  have count : i < u.height.toNat * u.width.toNat := by
    rwa [length_cells, Nat.mul_comm] at inside
  have some_rows : 0 < u.height.toNat := Nat.pos_of_mul_pos_right (Nat.zero_lt_of_lt count)
  have column : i / u.height.toNat < u.width.toNat := Nat.div_lt_of_lt_mul count
  have row : i % u.height.toNat < u.height.toNat := Nat.mod_lt i some_rows
  have rows : (span u.rowMin u.rowMax).length = u.height.toNat := length_span _ _
  have ofColumn : (span u.colMin u.colMax)[i / u.height.toNat]? =
      some (u.colMin + (i / u.height.toNat : Nat)) := getElem?_span column
  have ofRow : (span u.rowMin u.rowMax)[i % u.height.toNat]? =
      some (u.rowMin + (i % u.height.toNat : Nat)) := getElem?_span row
  have found : u.cells[i]? =
      some ⟨u.colMin + (i / u.height.toNat : Nat), u.rowMin + (i % u.height.toNat : Nat)⟩ := by
    rw [cells, getElem?_flatMap_map, rows, ofColumn, Option.bind_some, ofRow, Option.map_some]
  rw [List.getElem?_eq_getElem inside, Int.natCast_ediv, Int.natCast_emod, toNat_height] at found
  exact Option.some.inj found

/-! ### The unit of some bounds -/

/-- The cells of a unit in their order: which there are, how many, and which is at a place. -/
structure Enumerated (u : WorkUnit) : Prop where
  ascending : u.cells.Pairwise fun a b => toLex (a.col, a.row) < toLex (b.col, b.row)
  mem_iff : ∀ cell : Cell, cell ∈ u.cells ↔
    (u.colMin ≤ cell.col ∧ cell.col < u.colMax) ∧ u.rowMin ≤ cell.row ∧ cell.row < u.rowMax
  length_eq : (u.cells.length : Int) = u.cellCount
  cellCount_eq : u.cellCount = u.width * u.height
  getElem_eq : ∀ i (inside : i < u.cells.length),
    u.cells[i] = ⟨u.colMin + i / u.height, u.rowMin + i % u.height⟩

/-- A unit comes from its own bounds, and from no other ones. -/
theorem ofBounds_ok_iff : ofBounds level colMin rowMin colMax rowMax = .ok u ↔
    u.level = level ∧ (u.colMin = colMin ∧ u.rowMin = rowMin) ∧
      u.colMax = colMax ∧ u.rowMax = rowMax := by
  constructor
  · intro accepted
    unfold ofBounds at accepted
    split at accepted
    · cases accepted
      exact ⟨rfl, ⟨rfl, rfl⟩, rfl, rfl⟩
    · contradiction
  · rintro ⟨rfl, ⟨rfl, rfl⟩, rfl, rfl⟩
    exact dif_pos ⟨u.cols_ordered, u.rows_ordered⟩

/-- Bounds make a unit if and only if neither range is inverted, and every unit that they make has
its cells enumerated. -/
theorem ofBounds_enumerated (level colMin rowMin colMax rowMax : Int) :
    ((∃ u, ofBounds level colMin rowMin colMax rowMax = .ok u) ↔
        colMin ≤ colMax ∧ rowMin ≤ rowMax) ∧
      ∀ u, ofBounds level colMin rowMin colMax rowMax = .ok u →
        (u.level = level ∧ (u.colMin = colMin ∧ u.rowMin = rowMin) ∧
          u.colMax = colMax ∧ u.rowMax = rowMax) ∧ Enumerated u := by
  refine ⟨⟨?_, ?_⟩, fun u accepted => ⟨ofBounds_ok_iff.mp accepted, ?_⟩⟩
  · rintro ⟨u, accepted⟩
    obtain ⟨rfl, ⟨rfl, rfl⟩, rfl, rfl⟩ := ofBounds_ok_iff.mp accepted
    exact ⟨u.cols_ordered, u.rows_ordered⟩
  · rintro ⟨cols, rows⟩
    exact ⟨⟨level, colMin, rowMin, colMax, rowMax, cols, rows⟩, dif_pos ⟨cols, rows⟩⟩
  · exact {
      ascending := u.cells_ascending
      mem_iff := fun _ => mem_cells
      length_eq := by rw [length_cells, Int.natCast_mul, toNat_width, toNat_height, cellCount]
      cellCount_eq := rfl
      getElem_eq := fun _ inside => u.getElem_cells inside }

/-- Three columns of two rows around the origin: the fourth cell is the second one of the column
left of it. -/
theorem ofBounds_enumerated_negative :
    ∃ u, ofBounds 3 (-2) (-1) 1 1 = .ok u ∧ (u.cells.length : Int) = 6 ∧
      u.cells[3]? = some ⟨-1, 0⟩ ∧ ⟨1, 0⟩ ∉ u.cells := by
  obtain ⟨accepted, enumerated⟩ := ofBounds_enumerated 3 (-2) (-1) 1 1
  obtain ⟨u, made⟩ := accepted.mpr (by decide)
  obtain ⟨⟨_, ⟨colMin, rowMin⟩, colMax, rowMax⟩, cells⟩ := enumerated u made
  have width : u.width = 3 := by rw [WorkUnit.width, colMin, colMax]; rfl
  have height : u.height = 2 := by rw [WorkUnit.height, rowMin, rowMax]; rfl
  have length : (u.cells.length : Int) = 6 := by
    rw [cells.length_eq, cells.cellCount_eq, width, height]
    rfl
  have inside : 3 < u.cells.length := by omega
  refine ⟨u, made, length, ?_, ?_⟩
  · rw [List.getElem?_eq_getElem inside, cells.getElem_eq, height, colMin, rowMin]
    rfl
  · rw [cells.mem_iff, colMax]
    exact fun outside => absurd outside.1.2 (lt_irrefl _)

/-- A range without rows has no cells, however many columns there are. -/
example : cells ⟨0, -2, 4, 5, 4, by decide, by decide⟩ = [] := by decide

end WorkUnit
end TileComposite
