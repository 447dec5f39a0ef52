import TileComposite.Proofs.Plate.History

/-! The answers of a plate in memory, and what it keeps, stated by its past alone. An
update has no effect on what is visible until its write is completed. -/
namespace TileComposite
namespace Chronicle
variable {p q : MemoryPlate}

/-- Plates that only differ in what is staged by their open write. -/
structure Alike (p q : MemoryPlate) : Prop where
  levels_eq : p.levels = q.levels
  tiles_eq : p.tiles = q.tiles
  open_eq : p.staged.isSome = q.staged.isSome

/-- The plate after operations. -/
def after (p : MemoryPlate) (ops : List Operation) : MemoryPlate :=
  (Chronicle.perform ⟨[], p⟩ ops).plate

theorem after_cons (p : MemoryPlate) (op : Operation) (ops : List Operation) :
    after p (op :: ops) = after (p.perform op).2 ops := by
  have same (ops : List Operation) (a b : Past) (p : MemoryPlate) :
      (perform ⟨a, p⟩ ops).plate = (perform ⟨b, p⟩ ops).plate := by
    induction ops generalizing a b p with
    | nil => rfl
    | cons op ops ih => exact ih _ _ _
  exact same ops _ _ _

theorem Alike.put (h : Alike p q) (id : TileId) (b : Buffer) :
    Alike (p.perform (.put id b)).2 (q.perform (.put id b)).2 := by
  by_cases inside : 0 ≤ id.level ∧ id.level < p.levels
  · have inside' : 0 ≤ id.level ∧ id.level < q.levels := h.levels_eq ▸ inside
    rw [MemoryPlate.perform_put_inside inside, MemoryPlate.perform_put_inside inside']
    exact ⟨h.levels_eq, congrArg (·.insert id b) h.tiles_eq, h.open_eq⟩
  · have outside : ¬(0 ≤ id.level ∧ id.level < q.levels) := h.levels_eq ▸ inside
    rw [MemoryPlate.perform_put_outside inside, MemoryPlate.perform_put_outside outside]
    exact h

theorem alike_request (p : MemoryPlate) :
    (p.respond .writeRequest).2.levels = p.levels ∧
      (p.respond .writeRequest).2.tiles = p.tiles ∧
      (p.respond .writeRequest).2.staged.isSome = true := by
  cases opened : p.staged with
  | none => rw [MemoryPlate.respond_request_closed opened]; exact ⟨rfl, rfl, rfl⟩
  | some updates => rw [MemoryPlate.respond_request_open opened]; exact ⟨rfl, rfl, by simp [opened]⟩

/-- An update changes nothing but the batch of an open write. -/
theorem alike_update (p : MemoryPlate) (id : TileId) (b : Buffer) :
    Alike (p.respond (.writeUpdate id b)).2 p := by
  cases opened : p.staged with
  | none => rw [MemoryPlate.respond_update_closed opened]; exact ⟨rfl, rfl, rfl⟩
  | some updates =>
    by_cases inside : 0 ≤ id.level ∧ id.level < p.levels
    · rw [MemoryPlate.respond_update_inside opened inside]
      exact ⟨rfl, rfl, by simp [opened]⟩
    · rw [MemoryPlate.respond_update_outside opened inside]
      exact ⟨rfl, rfl, rfl⟩

theorem Alike.perform (h : Alike p q) {op : Operation} (pending : op ≠ .call .writeComplete) :
    Alike (p.perform op).2 (q.perform op).2 := by
  cases op with
  | put id b => exact h.put id b
  | get id => exact h
  | call c =>
    cases c with
    | search level cell first last exact => exact ⟨h.levels_eq, h.tiles_eq, h.open_eq⟩
    | read id exact => exact ⟨h.levels_eq, h.tiles_eq, h.open_eq⟩
    | writeRequest =>
      obtain ⟨levels, tiles, opened⟩ := alike_request p
      obtain ⟨levels', tiles', opened'⟩ := alike_request q
      exact ⟨levels.trans (h.levels_eq.trans levels'.symm),
        tiles.trans (h.tiles_eq.trans tiles'.symm), opened.trans opened'.symm⟩
    | writeUpdate id b =>
      have left := alike_update p id b
      have right := alike_update q id b
      exact ⟨left.levels_eq.trans (h.levels_eq.trans right.levels_eq.symm),
        left.tiles_eq.trans (h.tiles_eq.trans right.tiles_eq.symm),
        left.open_eq.trans (h.open_eq.trans right.open_eq.symm)⟩
    | writeComplete => exact absurd rfl pending

theorem Alike.after (h : Alike p q) {ops : List Operation}
    (pending : .call .writeComplete ∉ ops) : Alike (after p ops) (after q ops) := by
  induction ops generalizing p q with
  | nil => exact h
  | cons op ops ih =>
    obtain ⟨first, rest⟩ := not_or.mp (mt List.mem_cons.mpr pending)
    rw [after_cons, after_cons]
    exact ih (h.perform (Ne.symm first)) rest

end Chronicle

/-- The versions that a search has to find: those of the cell and the range that are
visible, by ascending transaction. -/
structure Past.Finds (past : Past) (level : Int) (cell : Cell) (first last : Int)
    (ids : List TileId) : Prop where
  ascending : ids.Pairwise fun id other => id.transaction < other.transaction
  mem_iff : ∀ id, id ∈ ids ↔
    id.level = level ∧ id.col = cell.col ∧ id.row = cell.row ∧
      first ≤ id.transaction ∧ id.transaction ≤ last ∧ (past.visible id).isSome

/-- A plate that shows what its past has made visible, refuses what is out of order or
outside of its levels, and loses nothing by a refusal. -/
structure Transactional (levels : Int) (past : Past) (p : MemoryPlate) : Prop where
  get : ∀ id, (p.perform (.get id)).1 = .ok (past.visible id)
  read : ∀ id exact, (p.perform (.call (.read id exact))).1 =
    match past.visible id with
    | some b => .ok b
    | none => .error (.noTile id.col id.row id.level id.transaction)
  search : ∀ level cell first last exact, ∃ ids, past.Finds level cell first last ids ∧
    (p.perform (.call (.search level cell first last exact))).1 =
      if 0 ≤ level ∧ level < levels then
        if ids = [] then .error (.noTiles cell.col cell.row level first last) else .ok (some ids)
      else .error (.levelOutside level levels)
  put : ∀ id b, (p.perform (.put id b)).1 =
    if 0 ≤ id.level ∧ id.level < levels then .ok () else .error (.levelOutside id.level levels)
  request : (p.perform (.call .writeRequest)).1 =
    if past.writeOpen then .error .writeOpen else .ok ()
  update : ∀ id b, (p.perform (.call (.writeUpdate id b))).1 =
    if past.writeOpen then
      if 0 ≤ id.level ∧ id.level < levels then .ok () else .error (.levelOutside id.level levels)
    else .error .updateUnrequested
  complete : (p.perform (.call .writeComplete)).1 =
    if past.writeOpen then .ok () else .error .completeUnrequested
  /-- Whatever follows an update except a completion shows the same tiles without it. -/
  hidden : ∀ id b later, .call .writeComplete ∉ later →
    (Chronicle.after (p.perform (.call (.writeUpdate id b))).2 later).tiles =
      (Chronicle.after p later).tiles
  kept : ∀ op e, (p.perform op).1 = .error e →
    (p.perform op).2.tiles = p.tiles ∧ (p.perform op).2.staged = p.staged
  tiles_inside : ∀ id : TileId, p.tiles[id]?.isSome → 0 ≤ id.level ∧ id.level < levels
  staged_inside : ∀ updates ∈ p.staged, ∀ w ∈ updates, 0 ≤ w.1.level ∧ w.1.level < levels
  log_grows : ∀ op, (p.perform op).2.log.toList = p.log.toList ++ op.call?.toList
  log_eq : p.log.toList = past.reverse.filterMap fun d => d.op.call?

namespace Chronicle
variable {levels : Int} {past : Past} {p : MemoryPlate}

theorem Coupled.visible_eq (h : Coupled levels ⟨past, p⟩) (id : TileId) :
    p.tiles[id]? = past.visible id := by
  have tiles : p.tiles = TileMap.apply ∅ past.landed := h.tiles_eq
  rw [tiles, TileMap.getElem?_apply, Std.ExtTreeMap.getElem?_empty, Option.or_none]
  rfl

theorem Coupled.finds (h : Coupled levels ⟨past, p⟩) (level : Int) (cell : Cell)
    (first last : Int) :
    past.Finds level cell first last ((p.tiles.stack level cell first last).map fun v =>
      ⟨level, cell.col, cell.row, v.transaction⟩) where
  ascending := List.pairwise_map.mpr (TileMap.stack_ascending ..)
  mem_iff id := by
    simp only [List.mem_map, TileMap.mem_stack, Option.isSome_iff_exists, ← h.visible_eq]
    constructor
    · rintro ⟨v, ⟨lower, upper, stored⟩, rfl⟩
      exact ⟨rfl, rfl, rfl, lower, upper, v.buffer, stored⟩
    · rintro ⟨rfl, col, row, lower, upper, b, stored⟩
      refine ⟨⟨id.transaction, b⟩, ⟨lower, upper, ?_⟩, ?_⟩
      · rw [← col, ← row]; exact stored
      · rw [← col, ← row]

theorem Coupled.search (h : Coupled levels ⟨past, p⟩) (level : Int) (cell : Cell)
    (first last : Int) (exact : Bool) : ∃ ids, past.Finds level cell first last ids ∧
    (p.perform (.call (.search level cell first last exact))).1 =
      if 0 ≤ level ∧ level < levels then
        if ids = [] then .error (.noTiles cell.col cell.row level first last) else .ok (some ids)
      else .error (.levelOutside level levels) := by
  refine ⟨_, h.finds level cell first last, ?_⟩
  obtain rfl : p.levels = levels := h.levels_eq
  by_cases inside : 0 ≤ level ∧ level < p.levels
  · by_cases empty : p.tiles.stack level cell first last = []
    · rw [if_pos inside, empty]
      exact congrArg Prod.fst (MemoryPlate.respond_search_empty inside empty)
    · rw [if_pos inside, if_neg (mt List.map_eq_nil_iff.mp empty)]
      exact congrArg Prod.fst (MemoryPlate.respond_search_found inside empty)
  · rw [if_neg inside]
    exact congrArg Prod.fst (MemoryPlate.respond_search_outside inside)

theorem Coupled.read (h : Coupled levels ⟨past, p⟩) (id : TileId) (exact : Bool) :
    (p.perform (.call (.read id exact))).1 =
      match past.visible id with
      | some b => .ok b
      | none => .error (.noTile id.col id.row id.level id.transaction) := by
  rw [← h.visible_eq]
  cases stored : p.tiles[id]? with
  | some b => exact congrArg Prod.fst (MemoryPlate.respond_read_stored stored)
  | none => exact congrArg Prod.fst (MemoryPlate.respond_read_missing stored)

theorem Coupled.put_reply (h : Coupled levels ⟨past, p⟩) (id : TileId) (b : Buffer) :
    (p.perform (.put id b)).1 = if 0 ≤ id.level ∧ id.level < levels then .ok ()
      else .error (.levelOutside id.level levels) := by
  obtain rfl : p.levels = levels := h.levels_eq
  split
  · exact congrArg Prod.fst (MemoryPlate.perform_put_inside ‹_›)
  · exact congrArg Prod.fst (MemoryPlate.perform_put_outside ‹_›)

theorem Coupled.update_reply (h : Coupled levels ⟨past, p⟩) (id : TileId) (b : Buffer) :
    (p.perform (.call (.writeUpdate id b))).1 = if past.writeOpen then
      if 0 ≤ id.level ∧ id.level < levels then .ok () else .error (.levelOutside id.level levels)
    else .error .updateUnrequested := by
  obtain rfl : p.levels = levels := h.levels_eq
  have opened : p.staged = if past.writeOpen then some past.staged else none := h.staged_eq
  split at opened
  · rw [if_pos ‹_›]
    split
    · exact congrArg Prod.fst (MemoryPlate.respond_update_inside opened ‹_›)
    · exact congrArg Prod.fst (MemoryPlate.respond_update_outside opened ‹_›)
  · rw [if_neg ‹_›]
    exact congrArg Prod.fst (MemoryPlate.respond_update_closed opened)

theorem Coupled.request_reply (h : Coupled levels ⟨past, p⟩) :
    (p.perform (.call .writeRequest)).1 =
      if past.writeOpen then .error .writeOpen else .ok () := by
  have opened : p.staged = if past.writeOpen then some past.staged else none := h.staged_eq
  split at opened
  · rw [if_pos ‹_›]
    exact congrArg Prod.fst (MemoryPlate.respond_request_open opened)
  · rw [if_neg ‹_›]
    exact congrArg Prod.fst (MemoryPlate.respond_request_closed opened)

theorem Coupled.complete_reply (h : Coupled levels ⟨past, p⟩) :
    (p.perform (.call .writeComplete)).1 =
      if past.writeOpen then .ok () else .error .completeUnrequested := by
  have opened : p.staged = if past.writeOpen then some past.staged else none := h.staged_eq
  split at opened
  · rw [if_pos ‹_›]
    exact congrArg Prod.fst (MemoryPlate.respond_complete_open opened)
  · rw [if_neg ‹_›]
    exact congrArg Prod.fst (MemoryPlate.respond_complete_closed opened)

/-- A refused operation leaves the tiles and the open write alone. -/
theorem refused_kept {op : Operation} {e : Failure} (refused : (p.perform op).1 = .error e) :
    (p.perform op).2.tiles = p.tiles ∧ (p.perform op).2.staged = p.staged := by
  cases op with
  | put id b =>
    by_cases inside : 0 ≤ id.level ∧ id.level < p.levels
    · rw [MemoryPlate.perform_put_inside inside] at refused
      cases refused
    · rw [MemoryPlate.perform_put_outside inside]
      exact ⟨rfl, rfl⟩
  | get id => cases refused
  | call c =>
    change (p.respond c).1 = .error e at refused
    change (p.respond c).2.tiles = p.tiles ∧ (p.respond c).2.staged = p.staged
    cases c with
    | search | read => exact ⟨rfl, rfl⟩
    | writeRequest =>
      cases opened : p.staged with
      | none =>
        rw [MemoryPlate.respond_request_closed opened] at refused
        cases refused
      | some updates =>
        rw [MemoryPlate.respond_request_open opened]
        exact ⟨rfl, opened⟩
    | writeUpdate id b =>
      cases opened : p.staged with
      | none =>
        rw [MemoryPlate.respond_update_closed opened]
        exact ⟨rfl, opened⟩
      | some updates =>
        by_cases inside : 0 ≤ id.level ∧ id.level < p.levels
        · rw [MemoryPlate.respond_update_inside opened inside] at refused
          cases refused
        · rw [MemoryPlate.respond_update_outside opened inside]
          exact ⟨rfl, opened⟩
    | writeComplete =>
      cases opened : p.staged with
      | none =>
        rw [MemoryPlate.respond_complete_closed opened]
        exact ⟨rfl, opened⟩
      | some updates =>
        rw [MemoryPlate.respond_complete_open opened] at refused
        cases refused

theorem Coupled.tiles_inside (h : Coupled levels ⟨past, p⟩) (id : TileId)
    (stored : p.tiles[id]?.isSome) : 0 ≤ id.level ∧ id.level < levels := by
  obtain ⟨b, found⟩ := Option.isSome_iff_exists.mp stored
  rw [h.visible_eq] at found
  have landed : (id, b) ∈ past.landed := by
    obtain ⟨before, after, split, _⟩ := List.lookup_eq_some_iff.mp found
    exact List.mem_reverse.mp (split ▸ List.mem_append_right before List.mem_cons_self)
  exact h.landed_inside _ landed

theorem log_perform (p : MemoryPlate) (op : Operation) :
    (p.perform op).2.log.toList = p.log.toList ++ op.call?.toList := by
  cases op with
  | put id b =>
    by_cases inside : 0 ≤ id.level ∧ id.level < p.levels
    · rw [MemoryPlate.perform_put_inside inside]; exact (List.append_nil _).symm
    · rw [MemoryPlate.perform_put_outside inside]; exact (List.append_nil _).symm
  | get id => exact (List.append_nil _).symm
  | call c =>
    change (p.respond c).2.log.toList = _
    rw [MemoryPlate.respond_log, Array.toList_push]
    rfl

theorem Coupled.transactional (h : Coupled levels ⟨past, p⟩) : Transactional levels past p where
  get id := congrArg Except.ok (h.visible_eq id)
  read := h.read
  search := h.search
  put := h.put_reply
  request := h.request_reply
  update := h.update_reply
  complete := h.complete_reply
  hidden id b _ pending := ((alike_update p id b).after pending).tiles_eq
  kept _ _ := refused_kept
  tiles_inside := h.tiles_inside
  staged_inside updates staged := by
    have opened : p.staged = if past.writeOpen then some past.staged else none := h.staged_eq
    rw [opened, Option.mem_def] at staged
    split at staged
    · cases staged; exact h.staged_inside
    · contradiction
  log_grows := log_perform p
  log_eq := h.log_eq

theorem coupled_create {format : Declared PixelFormat} {channel : Declared ChannelType}
    (created : MemoryPlate.create levels format channel = .ok p) : Coupled levels ⟨[], p⟩ := by
  unfold MemoryPlate.create at created
  split at created
  · contradiction
  · cases created
    exact ⟨rfl, rfl, rfl, nofun, nofun, rfl⟩

/-- After any operations on a new plate, accepted or refused, every answer and all that
is kept follows from the deeds of the past. -/
theorem perform_transactional {format : Declared PixelFormat} {channel : Declared ChannelType}
    (created : MemoryPlate.create levels format channel = .ok p) (ops : List Operation) :
    (perform ⟨[], p⟩ ops).past.map Deed.op = ops.reverse ∧
      Transactional levels (perform ⟨[], p⟩ ops).past (perform ⟨[], p⟩ ops).plate := by
  refine ⟨?_, (coupled_perform (coupled_create created) ops).transactional⟩
  rw [ops_perform, List.map_nil, List.append_nil]

/-- A batch takes effect at its completion, also over a tile stored while it was open. -/
theorem batch_over_put :
    let id : TileId := ⟨0, 0, 0, 7⟩
    let tile (n : Rat) : Buffer := ⟨.uint8, [1, 1, 1], #[.finite n]⟩
    let ops : List Operation := [.put id (tile 1), .call .writeRequest,
      .call (.writeUpdate id (tile 2)), .call (.writeUpdate id (tile 3)), .put id (tile 4),
      .call .writeComplete]
    ∃ p, MemoryPlate.create 1 = .ok p ∧
      ((perform ⟨[], p⟩ ops).plate.perform (.get id)).1 = .ok (some (tile 3)) := by
  intro id tile ops
  have created : MemoryPlate.create 1 = .ok ⟨1, .member .rgba, .member .uint8, ∅, none, #[]⟩ := rfl
  refine ⟨_, created, ?_⟩
  rw [(perform_transactional created ops).2.get id]
  rfl

end Chronicle
end TileComposite
