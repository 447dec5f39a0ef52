import TileComposite.Proofs.Plate.Replies

/-! A plate in memory is a transactional map. What it shows, stages and refuses is
read off the past of its operations alone: a tile stored directly takes effect at
once, an update when its write is completed, together with the rest of its batch. -/
namespace TileComposite

/-- What can be done to a plate in memory. Tiles are stored and looked up directly,
or by calls of the protocol. -/
inductive Operation where
  | put (id : TileId) (b : Buffer)
  | get (id : TileId)
  | call (c : Call)

namespace Operation

def Reply : Operation → Type
  | put .. => Unit
  | get _ => Option Buffer
  | call c => c.Reply

/-- The call of the protocol that an operation is. -/
def call? : Operation → Option Call
  | call c => some c
  | put .. | get _ => none

end Operation

/-- An operation that was carried out, and whether it was accepted. -/
structure Deed where
  op : Operation
  accepted : Bool

/-- Deeds, the latest first. -/
abbrev Past := List Deed

namespace Past

/-- The latest request or completion that was accepted is a request. -/
def writeOpen : Past → Bool
  | [] => false
  | ⟨.call .writeRequest, true⟩ :: _ => true
  | ⟨.call .writeComplete, true⟩ :: _ => false
  | _ :: past => writeOpen past

/-- The updates that were accepted since then, in their order. -/
def staged : Past → List (TileId × Buffer)
  | [] => []
  | ⟨.call (.writeUpdate id b), true⟩ :: past => staged past ++ [(id, b)]
  | ⟨.call .writeRequest, true⟩ :: _ => []
  | ⟨.call .writeComplete, true⟩ :: _ => []
  | _ :: past => staged past

/-- The writes that have taken effect, in the order in which they did. -/
def landed : Past → List (TileId × Buffer)
  | [] => []
  | ⟨.put id b, true⟩ :: past => landed past ++ [(id, b)]
  | ⟨.call .writeComplete, true⟩ :: past => landed past ++ staged past
  | _ :: past => landed past

/-- The tile of a version is the one of its latest write that has taken effect. -/
def visible (past : Past) (id : TileId) : Option Buffer := past.landed.reverse.lookup id

/-- A deed that is refused, or that only looks, leaves no trace. -/
structure Ignores (past : Past) (d : Deed) : Prop where
  writeOpen_eq : writeOpen (d :: past) = writeOpen past
  staged_eq : staged (d :: past) = staged past
  landed_eq : landed (d :: past) = landed past

theorem ignores_refused (op : Operation) (past : Past) : Ignores past ⟨op, false⟩ := by
  cases op with
  | put | get => exact ⟨rfl, rfl, rfl⟩
  | call c => cases c <;> exact ⟨rfl, rfl, rfl⟩

theorem ignores_get (id : TileId) (accepted : Bool) (past : Past) :
    Ignores past ⟨.get id, accepted⟩ := by
  cases accepted <;> exact ⟨rfl, rfl, rfl⟩

theorem ignores_search (level : Int) (cell : Cell) (first last : Int) (exact accepted : Bool)
    (past : Past) : Ignores past ⟨.call (.search level cell first last exact), accepted⟩ := by
  cases accepted <;> exact ⟨rfl, rfl, rfl⟩

theorem ignores_read (id : TileId) (exact accepted : Bool) (past : Past) :
    Ignores past ⟨.call (.read id exact), accepted⟩ := by
  cases accepted <;> exact ⟨rfl, rfl, rfl⟩

end Past

namespace MemoryPlate

/-- Carries out an operation. -/
def perform (op : Operation) (p : MemoryPlate) : Except Failure op.Reply × MemoryPlate :=
  match op with
  | .put id b => p.attempt (p.put id b)
  | .get id => (.ok (p.get? id), p)
  | .call c => p.respond c

variable {p : MemoryPlate} {id : TileId} {b : Buffer}

theorem perform_put_inside (inside : 0 ≤ id.level ∧ id.level < p.levels) :
    p.perform (.put id b) = (.ok (), { p with tiles := p.tiles.insert id b }) := by
  simp only [perform, put, checkLevel_eq, if_pos inside, bind, Except.bind, pure, Except.pure,
    attempt]
  rfl

theorem perform_put_outside (outside : ¬(0 ≤ id.level ∧ id.level < p.levels)) :
    p.perform (.put id b) = (.error (.levelOutside id.level p.levels), p) := by
  simp only [perform, put, checkLevel_eq, if_neg outside, bind, Except.bind, attempt]
  rfl

end MemoryPlate

/-- A plate together with its past. -/
structure Chronicle where
  past : Past
  plate : MemoryPlate

namespace Chronicle

def step (s : Chronicle) (op : Operation) : Chronicle :=
  let (reply, plate) := s.plate.perform op
  ⟨⟨op, reply.isOk⟩ :: s.past, plate⟩

/-- Carries out operations in their order. -/
def perform (s : Chronicle) (ops : List Operation) : Chronicle := ops.foldl step s

theorem ops_perform (s : Chronicle) (ops : List Operation) :
    (s.perform ops).past.map Deed.op = ops.reverse ++ s.past.map Deed.op := by
  induction ops generalizing s with
  | nil => rfl
  | cons op ops ih =>
    have next := ih (s.step op)
    simpa only [perform, List.foldl_cons, step, List.map_cons, List.reverse_cons,
      List.append_assoc, List.singleton_append] using next

/-- The plate is what its past makes it. -/
structure Coupled (levels : Int) (s : Chronicle) : Prop where
  levels_eq : s.plate.levels = levels
  tiles_eq : s.plate.tiles = TileMap.apply ∅ s.past.landed
  staged_eq : s.plate.staged = if s.past.writeOpen then some s.past.staged else none
  landed_inside : ∀ w ∈ s.past.landed, 0 ≤ w.1.level ∧ w.1.level < levels
  staged_inside : ∀ w ∈ s.past.staged, 0 ≤ w.1.level ∧ w.1.level < levels
  log_eq : s.plate.log.toList = s.past.reverse.filterMap fun d => d.op.call?

variable {levels : Int} {past : Past} {p q : MemoryPlate}

/-- Deeds that leave no trace may change nothing but the log. -/
theorem Coupled.ignore {d : Deed} (h : Coupled levels ⟨past, p⟩) (ignored : past.Ignores d)
    (sameLevels : q.levels = p.levels) (sameTiles : q.tiles = p.tiles)
    (sameStaged : q.staged = p.staged)
    (logged : q.log.toList = p.log.toList ++ d.op.call?.toList) :
    Coupled levels ⟨d :: past, q⟩ where
  levels_eq := sameLevels.trans h.levels_eq
  tiles_eq := by rw [sameTiles, ignored.landed_eq]; exact h.tiles_eq
  staged_eq := by rw [sameStaged, ignored.writeOpen_eq, ignored.staged_eq]; exact h.staged_eq
  landed_inside := by rw [ignored.landed_eq]; exact h.landed_inside
  staged_inside := by rw [ignored.staged_eq]; exact h.staged_inside
  log_eq := by
    rw [logged, h.log_eq]
    cases called : d.op.call? <;> simp [called]

theorem step_eq {op : Operation} {reply : Except Failure op.Reply}
    (performed : p.perform op = (reply, q)) :
    step ⟨past, p⟩ op = ⟨⟨op, reply.isOk⟩ :: past, q⟩ := by
  simp only [step, performed]

theorem step_call {c : Call} {reply : Except Failure c.Reply}
    (responded : p.respond c = (reply, q)) :
    step ⟨past, p⟩ (.call c) = ⟨⟨.call c, reply.isOk⟩ :: past, q⟩ := by
  simp only [step, MemoryPlate.perform, responded]
  rfl

theorem Coupled.put (h : Coupled levels ⟨past, p⟩) (id : TileId) (b : Buffer) :
    Coupled levels (step ⟨past, p⟩ (.put id b)) := by
  by_cases inside : 0 ≤ id.level ∧ id.level < p.levels
  · rw [step_eq (MemoryPlate.perform_put_inside inside)]
    refine ⟨h.levels_eq, ?_, h.staged_eq, ?_, h.staged_inside, ?_⟩
    · change p.tiles.insert id b = TileMap.apply ∅ (past.landed ++ [(id, b)])
      rw [TileMap.apply_append, ← h.tiles_eq]
      rfl
    · intro w landed
      rcases List.mem_append.mp landed with earlier | latest
      · exact h.landed_inside w earlier
      · rw [List.mem_singleton.mp latest, ← h.levels_eq]
        exact inside
    · simpa [Operation.call?] using h.log_eq
  · rw [step_eq (MemoryPlate.perform_put_outside inside)]
    exact h.ignore (Past.ignores_refused _ _) rfl rfl rfl (List.append_nil _).symm

theorem Coupled.request (h : Coupled levels ⟨past, p⟩) :
    Coupled levels (step ⟨past, p⟩ (.call .writeRequest)) := by
  cases opened : p.staged with
  | none =>
    rw [step_call (MemoryPlate.respond_request_closed opened)]
    exact ⟨h.levels_eq, h.tiles_eq, rfl, h.landed_inside, nofun,
      by simpa [Operation.call?] using h.log_eq⟩
  | some updates =>
    rw [step_call (MemoryPlate.respond_request_open opened)]
    exact h.ignore (Past.ignores_refused _ _) rfl rfl rfl (by simp [Operation.call?])

theorem Coupled.update (h : Coupled levels ⟨past, p⟩) (id : TileId) (b : Buffer) :
    Coupled levels (step ⟨past, p⟩ (.call (.writeUpdate id b))) := by
  cases opened : p.staged with
  | none =>
    rw [step_call (MemoryPlate.respond_update_closed opened)]
    exact h.ignore (Past.ignores_refused _ _) rfl rfl rfl (by simp [Operation.call?])
  | some updates =>
    by_cases inside : 0 ≤ id.level ∧ id.level < p.levels
    · rw [step_call (MemoryPlate.respond_update_inside opened inside)]
      have batch : past.writeOpen = true ∧ past.staged = updates := by
        have staged := h.staged_eq.symm.trans opened
        split at staged
        · exact ⟨‹_›, Option.some.inj staged⟩
        · contradiction
      refine ⟨h.levels_eq, h.tiles_eq, ?_, h.landed_inside, ?_, ?_⟩
      · change some (updates ++ [(id, b)]) =
          if past.writeOpen then some (past.staged ++ [(id, b)]) else none
        rw [batch.1, batch.2]
        rfl
      · intro w staged
        rcases List.mem_append.mp staged with earlier | latest
        · exact h.staged_inside w earlier
        · rw [List.mem_singleton.mp latest, ← h.levels_eq]
          exact inside
      · simpa [Operation.call?] using h.log_eq
    · rw [step_call (MemoryPlate.respond_update_outside opened inside)]
      exact h.ignore (Past.ignores_refused _ _) rfl rfl rfl (by simp [Operation.call?])

theorem Coupled.complete (h : Coupled levels ⟨past, p⟩) :
    Coupled levels (step ⟨past, p⟩ (.call .writeComplete)) := by
  cases opened : p.staged with
  | none =>
    rw [step_call (MemoryPlate.respond_complete_closed opened)]
    exact h.ignore (Past.ignores_refused _ _) rfl rfl rfl (by simp [Operation.call?])
  | some updates =>
    rw [step_call (MemoryPlate.respond_complete_open opened)]
    have batch : past.staged = updates := by
      have staged := h.staged_eq.symm.trans opened
      split at staged
      · exact Option.some.inj staged
      · contradiction
    refine ⟨h.levels_eq, ?_, rfl, ?_, nofun, ?_⟩
    · change p.tiles.apply updates = TileMap.apply ∅ (past.landed ++ past.staged)
      rw [TileMap.apply_append, ← h.tiles_eq, batch]
    · intro w landed
      rcases List.mem_append.mp landed with earlier | batched
      · exact h.landed_inside w earlier
      · exact h.staged_inside w batched
    · simpa [Operation.call?] using h.log_eq

theorem coupled_step {s : Chronicle} (h : Coupled levels s) (op : Operation) :
    Coupled levels (s.step op) := by
  obtain ⟨past, p⟩ := s
  cases op with
  | put id b => exact h.put id b
  | get id => exact h.ignore (Past.ignores_get id _ past) rfl rfl rfl (List.append_nil _).symm
  | call c =>
    cases c with
    | search level cell first last exact =>
      exact h.ignore (Past.ignores_search level cell first last exact _ past) rfl rfl rfl
        (by simp [Operation.call?])
    | read id exact =>
      exact h.ignore (Past.ignores_read id exact _ past) rfl rfl rfl (by simp [Operation.call?])
    | writeRequest => exact h.request
    | writeUpdate id b => exact h.update id b
    | writeComplete => exact h.complete

theorem coupled_perform {s : Chronicle} (h : Coupled levels s) (ops : List Operation) :
    Coupled levels (s.perform ops) := by
  induction ops generalizing s with
  | nil => exact h
  | cons op ops ih => exact ih (coupled_step h op)

end Chronicle
end TileComposite
