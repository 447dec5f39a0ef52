import Mathlib.Data.List.Sort
import TileComposite.Proofs.Plate.Tiles

/-! The replies of a plate in memory, call by call: what is returned, and what the
plate is afterwards. A search returns the versions of the stack of its cell. -/
namespace TileComposite.MemoryPlate
variable (p : MemoryPlate)

/-- The plate with a call added to its log. -/
def logged (c : Call) : MemoryPlate := { p with log := p.log.push c }

@[simp] theorem logged_tiles (c : Call) : (p.logged c).tiles = p.tiles := rfl

@[simp] theorem logged_staged (c : Call) : (p.logged c).staged = p.staged := rfl

@[simp] theorem logged_levels (c : Call) : (p.logged c).levels = p.levels := rfl

@[simp] theorem logged_log (c : Call) : (p.logged c).log = p.log.push c := rfl

theorem checkLevel_eq (level : Int) : p.checkLevel level =
    if 0 ≤ level ∧ level < p.levels then .ok () else .error (.levelOutside level p.levels) := rfl

/-- One version is no later than another. -/
abbrev NoLater (id other : TileId) : Prop := id.transaction ≤ other.transaction

theorem insertVersion_eq (id : TileId) (ids : List TileId) :
    insertVersion id ids = ids.orderedInsert NoLater id := by
  induction ids with
  | nil => rfl
  | cons other rest ih => rw [insertVersion, List.orderedInsert_cons, ih]

/-- Sorting is sorting by insertion. -/
theorem foldr_insertVersion (ids : List TileId) :
    ids.foldr insertVersion [] = ids.insertionSort NoLater := by
  induction ids with
  | nil => rfl
  | cons id ids ih => rw [List.foldr_cons, ih, insertVersion_eq, List.insertionSort_cons]

theorem mem_sorted {level first last : Int} {cell : Cell} {listing : List TileId} {id : TileId} :
    id ∈ sorted level cell first last listing ↔ id ∈ listing ∧ id.level = level ∧
      id.col = cell.col ∧ id.row = cell.row ∧ first ≤ id.transaction ∧ id.transaction ≤ last := by
  rw [sorted, foldr_insertVersion, List.mem_insertionSort, List.mem_filter, decide_eq_true_eq]

/-- Of one transaction a cell has one version, so that sorting leaves no two alike. -/
theorem sorted_ascending (level : Int) (cell : Cell) (first last : Int) {listing : List TileId}
    (distinct : listing.Nodup) : (sorted level cell first last listing).Pairwise fun id other =>
      id.transaction < other.transaction := by
  have total : Std.Total NoLater := ⟨fun id other => Int.le_total _ _⟩
  have trans : IsTrans TileId NoLater := ⟨fun _ _ _ => Int.le_trans⟩
  have ordered : (sorted level cell first last listing).Pairwise NoLater := by
    rw [sorted, foldr_insertVersion]
    exact List.pairwise_insertionSort _ _
  have apart : (sorted level cell first last listing).Nodup := by
    rw [sorted, foldr_insertVersion]
    exact (List.perm_insertionSort _ _).nodup_iff.mpr (distinct.filter _)
  refine (ordered.and apart).imp_of_mem fun {id other} found found' ⟨le, ne⟩ => ?_
  obtain ⟨_, level, col, row, _⟩ := mem_sorted.mp found
  obtain ⟨_, level', col', row', _⟩ := mem_sorted.mp found'
  refine Int.lt_iff_le_and_ne.mpr ⟨le, fun same => ne ?_⟩
  obtain ⟨l, c, r, t⟩ := id
  obtain ⟨l', c', r', t'⟩ := other
  simp only [TileId.mk.injEq]
  exact ⟨level.trans level'.symm, col.trans col'.symm, row.trans row'.symm, same⟩

/-- However the stored versions are listed, sorting gives those of the stack, in its order. -/
theorem sorted_eq (level : Int) (cell : Cell) (first last : Int) {listing : List TileId}
    (distinct : listing.Nodup) (lists : ∀ id, id ∈ listing ↔ p.tiles[id]?.isSome) :
    sorted level cell first last listing =
      (p.tiles.stack level cell first last).map fun v =>
        ⟨level, cell.col, cell.row, v.transaction⟩ := by
  refine eq_of_ascending (sorted_ascending level cell first last distinct)
    (List.pairwise_map.mpr (p.tiles.stack_ascending level cell first last)) fun id => ?_
  rw [mem_sorted, lists, Option.isSome_iff_exists, List.mem_map]
  constructor
  · rintro ⟨⟨b, stored⟩, rfl, col, row, lower, upper⟩
    refine ⟨⟨id.transaction, b⟩, TileMap.mem_stack.mpr ⟨lower, upper, ?_⟩, ?_⟩
    · rw [← col, ← row]
      exact stored
    · rw [← col, ← row]
  · rintro ⟨v, member, rfl⟩
    obtain ⟨lower, upper, stored⟩ := TileMap.mem_stack.mp member
    exact ⟨⟨_, stored⟩, rfl, rfl, rfl, lower, upper⟩

/-- A search finds the versions of the stack, in its order. -/
theorem versions_eq (level : Int) (cell : Cell) (first last : Int) :
    p.versions level cell first last =
      (p.tiles.stack level cell first last).map fun v =>
        ⟨level, cell.col, cell.row, v.transaction⟩ :=
  p.sorted_eq level cell first last Std.ExtTreeMap.nodup_keys fun id => by
    rw [Std.ExtTreeMap.mem_keys, Std.ExtTreeMap.mem_iff_isSome_getElem?]

variable {p}
variable {level first last : Int} {cell : Cell} {exact : Bool} {id : TileId} {b : Buffer}
  {updates : List (TileId × Buffer)}

theorem respond_search_outside (outside : ¬(0 ≤ level ∧ level < p.levels)) :
    p.respond (.search level cell first last exact) =
      (.error (.levelOutside level p.levels), p.logged (.search level cell first last exact)) := by
  have refused : p.search level cell first last = .error (.levelOutside level p.levels) := by
    rw [search, checkLevel_eq, if_neg outside]
    rfl
  change ((p.search level cell first last).map some, _) = _
  rw [refused]
  rfl

theorem respond_search_empty (inside : 0 ≤ level ∧ level < p.levels)
    (empty : p.tiles.stack level cell first last = []) :
    p.respond (.search level cell first last exact) =
      (.error (.noTiles cell.col cell.row level first last),
        p.logged (.search level cell first last exact)) := by
  have none_found : p.search level cell first last =
      .error (.noTiles cell.col cell.row level first last) := by
    rw [search, checkLevel_eq, if_pos inside, versions_eq, empty]
    rfl
  change ((p.search level cell first last).map some, _) = _
  rw [none_found]
  rfl

theorem respond_search_found (inside : 0 ≤ level ∧ level < p.levels)
    (found : p.tiles.stack level cell first last ≠ []) :
    p.respond (.search level cell first last exact) =
      (.ok (some ((p.tiles.stack level cell first last).map fun v =>
          ⟨level, cell.col, cell.row, v.transaction⟩)),
        p.logged (.search level cell first last exact)) := by
  have all_found : p.search level cell first last =
      .ok ((p.tiles.stack level cell first last).map fun v =>
        ⟨level, cell.col, cell.row, v.transaction⟩) := by
    rw [search, checkLevel_eq, if_pos inside, versions_eq]
    cases listed : p.tiles.stack level cell first last with
    | nil => exact absurd listed found
    | cons v rest => rfl
  change ((p.search level cell first last).map some, _) = _
  rw [all_found]
  rfl

theorem respond_read_stored (stored : p.tiles[id]? = some b) :
    p.respond (.read id exact) = (.ok b, p.logged (.read id exact)) := by
  change (p.read id, _) = _
  rw [read, stored]
  rfl

theorem respond_read_missing (missing : p.tiles[id]? = none) :
    p.respond (.read id exact) =
      (.error (.noTile id.col id.row id.level id.transaction), p.logged (.read id exact)) := by
  change (p.read id, _) = _
  rw [read, missing]
  rfl

theorem respond_request_closed (closed : p.staged = none) :
    p.respond .writeRequest = (.ok (), { p.logged .writeRequest with staged := some [] }) := by
  simp only [respond, request, closed, attempt, logged]
  rfl

theorem respond_request_open (opened : p.staged = some updates) :
    p.respond .writeRequest = (.error .writeOpen, p.logged .writeRequest) := by
  simp only [respond, request, opened, attempt, logged]
  rfl

theorem respond_update_closed (closed : p.staged = none) :
    p.respond (.writeUpdate id b) = (.error .updateUnrequested, p.logged (.writeUpdate id b)) := by
  simp only [respond, update, closed, attempt, logged]
  rfl

theorem respond_update_outside (opened : p.staged = some updates)
    (outside : ¬(0 ≤ id.level ∧ id.level < p.levels)) :
    p.respond (.writeUpdate id b) =
      (.error (.levelOutside id.level p.levels), p.logged (.writeUpdate id b)) := by
  simp only [respond, update, opened, checkLevel_eq, if_neg outside, bind, Except.bind,
    attempt, logged]
  rfl

theorem respond_update_inside (opened : p.staged = some updates)
    (inside : 0 ≤ id.level ∧ id.level < p.levels) :
    p.respond (.writeUpdate id b) =
      (.ok (), { p.logged (.writeUpdate id b) with staged := some (updates ++ [(id, b)]) }) := by
  simp only [respond, update, opened, checkLevel_eq, if_pos inside, bind, Except.bind, pure,
    Except.pure, attempt, logged]
  rfl

theorem respond_complete_closed (closed : p.staged = none) :
    p.respond .writeComplete = (.error .completeUnrequested, p.logged .writeComplete) := by
  simp only [respond, complete, closed, attempt, logged]
  rfl

theorem respond_complete_open (opened : p.staged = some updates) :
    p.respond .writeComplete =
      (.ok (), { p.logged .writeComplete with
        tiles := p.tiles.apply updates, staged := none }) := by
  simp only [respond, complete, opened, attempt, logged]
  rfl

/-- Every call is logged once, whatever becomes of it. -/
theorem respond_log (p : MemoryPlate) (c : Call) : (p.respond c).2.log = p.log.push c := by
  cases c with
  | search | read => rfl
  | writeRequest =>
    cases opened : p.staged with
    | none => rw [respond_request_closed opened]; rfl
    | some updates => rw [respond_request_open opened]; rfl
  | writeUpdate id b =>
    cases opened : p.staged with
    | none => rw [respond_update_closed opened]; rfl
    | some updates =>
      by_cases inside : 0 ≤ id.level ∧ id.level < p.levels
      · rw [respond_update_inside opened inside]; rfl
      · rw [respond_update_outside opened inside]; rfl
  | writeComplete =>
    cases opened : p.staged with
    | none => rw [respond_complete_closed opened]; rfl
    | some updates => rw [respond_complete_open opened]; rfl

/-- Only a completed write changes tiles. -/
theorem respond_tiles (p : MemoryPlate) (c : Call) :
    (p.respond c).2.tiles = p.tiles ∨
      (p.respond c).1.isOk = true ∧ c.method = .writeComplete := by
  cases c with
  | search | read => exact .inl rfl
  | writeRequest =>
    cases opened : p.staged with
    | none => rw [respond_request_closed opened]; exact .inl rfl
    | some updates => rw [respond_request_open opened]; exact .inl rfl
  | writeUpdate id b =>
    cases opened : p.staged with
    | none => rw [respond_update_closed opened]; exact .inl rfl
    | some updates =>
      by_cases inside : 0 ≤ id.level ∧ id.level < p.levels
      · rw [respond_update_inside opened inside]; exact .inl rfl
      · rw [respond_update_outside opened inside]; exact .inl rfl
  | writeComplete =>
    cases opened : p.staged with
    | none => rw [respond_complete_closed opened]; exact .inl rfl
    | some updates => rw [respond_complete_open opened]; exact .inr ⟨rfl, rfl⟩

end TileComposite.MemoryPlate
